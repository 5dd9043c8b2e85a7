import Reindent.Layout.Scan

/-!
# Tidy text

Three operations around the scan make a text tidy:

* `dropBlankLines` trims the end of every line and drops the lines left empty;
* `unifyBreaks` turns `\r\n`, and then every remaining `\r`, into `\n`;
* `Style.tidy` is the whole cleaning: unify the breaks, drop blank lines, reindent, drop blank lines
  again and trim the result at both ends.
-/

namespace Reindent.Layout

open Reindent.Text

/-- The lines of a text, trimmed at the end, without the lines that are then empty. -/
def dropBlankLines (cs : List Char) : List Char :=
  joinLines ((splitLines cs).filterMap fun l =>
    match trimRight l with
    | [] => none
    | r => some r)

/-- The text with `\r\n` and then each remaining `\r` written as `\n`. -/
def unifyBreaks (cs : List Char) : List Char :=
  replaceAll ⟨'\r', []⟩ ['\n'] (replaceAll ⟨'\r', ['\n']⟩ ['\n'] cs)

/-- The cleaned text: breaks unified, blank lines dropped, reindented, trimmed. -/
def Style.tidy (st : Style) (cs : List Char) : List Char :=
  trim (dropBlankLines (st.reindent (dropBlankLines (unifyBreaks cs))))

end Reindent.Layout
