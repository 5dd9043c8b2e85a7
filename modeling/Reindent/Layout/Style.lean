import Reindent.Text.Search

/-!
# The layout style

Every choice the layout makes about the characters of the code is a field of `Style`: the unit
of indentation, the brackets that open and close a level, the markers of line and block
comments, the mark that continues a block comment, and the statement end that may be pulled up
onto the line before. `Style.braces` is the style of brace languages and the only one in use:
four spaces a level, `{` and `[` open, `}` and `]` close, `//` and `/* … */` comment, a `*` at
the start of a line continues a block comment, and `;` ends a statement.
-/

namespace Reindent.Layout

open Reindent.Text

/-- The characters that shape a layout. -/
structure Style where
  /-- The text added once per level of depth. -/
  indent : List Char
  /-- Brackets that open a level, paired in order with `closers`. -/
  openers : List Char
  /-- Brackets that close a level, paired in order with `openers`. -/
  closers : List Char
  /-- The marker that starts a comment running to the end of the line. -/
  lineComment : Pattern
  /-- The marker that opens a block comment. -/
  blockOpen : Pattern
  /-- The marker that closes a block comment. -/
  blockClose : Pattern
  /-- A line inside a block comment that starts with this character is shifted by one space. -/
  continuation : Char
  /-- The statement end: bracket counting ignores it, and a line starting with it joins the
  line before. -/
  statementEnd : Char

/-- Four spaces a level; `{` and `[` open, `}` and `]` close; `//` and `/* … */` comment. -/
def Style.braces : Style where
  indent := "    ".toList
  openers := ['{', '[']
  closers := ['}', ']']
  lineComment := .ofString "//"
  blockOpen := .ofString "/*"
  blockClose := .ofString "*/"
  continuation := '*'
  statementEnd := ';'

end Reindent.Layout
