/-!
# Line breaks

Ten characters end a line: line feed, carriage return, the line and page tabulations
`U+000B` and `U+000C`, the separators `U+001C`–`U+001E`, next line `U+0085`, and the line and
paragraph separators `U+2028` and `U+2029`. A carriage return directly followed by a line feed
ends one line, not two.

`splitLines` cuts a text into its lines and drops the breaks. A break at the very end of the text
does not open a further, empty line, so `"a\n"` has one line and `""` has none. `joinLines` puts
lines back together with a line feed between each two; it adds none at the end.
-/

namespace Reindent.Text

/-- Whether a character ends a line. -/
def isLineBreak (c : Char) : Bool :=
  c == '\n' || c == '\r' || c == '\x0b' || c == '\x0c' || c == '\x1c' || c == '\x1d' ||
    c == '\x1e' || c == '\x85' || c == '\u2028' || c == '\u2029'

/-- Cuts a text into lines. `line` holds the current line in reverse and `done` the lines so far. -/
def splitLinesFrom (line : List Char) (done : Array (List Char)) : List Char → Array (List Char)
  | [] => if line.isEmpty then done else done.push line.reverse
  | '\r' :: '\n' :: rest => splitLinesFrom [] (done.push line.reverse) rest
  | c :: rest =>
    if isLineBreak c then splitLinesFrom [] (done.push line.reverse) rest
    else splitLinesFrom (c :: line) done rest

/-- The lines of a text, without their breaks. -/
def splitLines (cs : List Char) : List (List Char) :=
  (splitLinesFrom [] #[] cs).toList

/-- Lines joined by a line feed between each two. -/
def joinLines (ls : List (List Char)) : List Char :=
  ['\n'].intercalate ls

end Reindent.Text
