import Reindent.Text.Blank
import Reindent.Text.LineBreak
import Reindent.Layout.Style

/-!
# Merging split lines

Before lines are indented, each line is trimmed and three kinds of split are undone, by
replacing throughout the text, in turn:

1. an opener at the end of a line followed by its closer at the start of the next, `{` then `}`
   and `[` then `]`, become one line `{}` or `[]`;
2. a line that starts with the statement end `;` is joined to the line before.

Each pass replaces every occurrence, scanning from the left, in the text that the pass before
left behind. The lines of the result are the merged lines that `Scan` indents.
-/

namespace Reindent.Layout

open Reindent.Text

/-- The lines of a text, each trimmed, joined again by line feeds. -/
def trimLines (cs : List Char) : List Char :=
  joinLines ((splitLines cs).map trim)

/-- Joins each opener at a line end with its closer at the start of the next line. -/
def joinPairs (pairs : List (Char × Char)) (cs : List Char) : List Char :=
  pairs.foldl (fun t (o, c) => replaceAll ⟨o, ['\n', c]⟩ [o, c] t) cs

/-- Trims every line, joins split bracket pairs and pulls leading statement ends up. -/
def Style.mergeLines (st : Style) (cs : List Char) : List Char :=
  replaceAll ⟨'\n', [st.statementEnd]⟩ [st.statementEnd]
    (joinPairs (st.openers.zip st.closers) (trimLines cs))

end Reindent.Layout
