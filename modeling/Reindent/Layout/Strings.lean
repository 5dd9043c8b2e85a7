import Reindent.Layout.Tidy

/-!
# The layout on strings

The layout works on lists of characters; these are its entry points on strings, all in the brace
style:

* `reindentText` merges split lines and indents every line by its depth;
* `tidyText` is the whole cleaning, line breaks and blank lines included;
* `mergeText` trims the lines and merges split bracket pairs and leading statement ends;
* `dropBlankText` trims the end of every line and drops the blank lines;
* `readText` is a stored text as a text file reads: `\r\n` and lone `\r` become `\n`.
-/

namespace Reindent

open Reindent.Text Reindent.Layout

/-- The text reindented in the brace style. -/
def reindentText (s : String) : String :=
  String.ofList (Style.braces.reindent s.toList)

/-- The text cleaned and reindented in the brace style. -/
def tidyText (s : String) : String :=
  String.ofList (Style.braces.tidy s.toList)

/-- The text with its lines trimmed and its split lines merged in the brace style. -/
def mergeText (s : String) : String :=
  String.ofList (Style.braces.mergeLines s.toList)

/-- The text with every line trimmed at the end and the blank lines dropped. -/
def dropBlankText (s : String) : String :=
  String.ofList (dropBlankLines s.toList)

/-- A stored text as a text file reads: each `\r\n`, then each lone `\r`, becomes `\n`. -/
def readText (s : String) : String :=
  String.ofList (unifyBreaks s.toList)

end Reindent
