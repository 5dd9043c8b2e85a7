import Reindent.Diff.Hunk
import Reindent.Text.LineBreak

/-!
# Unified differences

The unified difference of two texts compares them line by line, with the line breaks dropped, and
lists its hunks with three lines of context. When there is a hunk, the list starts with the two
file headers `"--- \n"` and `"+++ \n"` (no file names), and each hunk starts with its range header
`"@@ -r +s @@\n"`. Then come the lines of the hunk: a line common to both texts behind a space, a
line only of the first behind `-` and a line only of the second behind `+`, each replaced span of
the first before the span of the second.

A range is `start,length` with lines counted from one. A range of one line is its line number
alone, and an empty range starts at the line just before it, so `3,0` follows line 3.

The text of the difference is these pieces joined by line feeds. The headers already end in a line
feed, so each is followed by an empty line. Two texts with the same lines have the empty
difference.
-/

namespace Reindent.Diff

open Reindent.Text

/-- The range of the span `[start, stop)` in a hunk header. -/
def rangeText (start stop : Nat) : String :=
  if stop - start = 1 then toString (start + 1)
  else if stop - start = 0 then toString start ++ ",0"
  else toString (start + 1) ++ "," ++ toString (stop - start)

/-- The lines `[start, stop)` of a text, each behind the mark `c`. -/
def markLines (c : Char) (lines : Array String) (start stop : Nat) : List String :=
  (lines.extract start stop).toList.map fun l => String.singleton c ++ l

/-- The lines an edit shows: common lines behind a space, removed lines behind `-`, added
lines behind `+`. -/
def Edit.shown (a b : Array String) (e : Edit) : List String :=
  match e.tag with
  | .equal => markLines ' ' a e.aStart e.aStop
  | .replace => markLines '-' a e.aStart e.aStop ++ markLines '+' b e.bStart e.bStop
  | .delete => markLines '-' a e.aStart e.aStop
  | .insert => markLines '+' b e.bStart e.bStop

/-- A hunk: its range header, then the lines of its edits. -/
def hunkLines (a b : Array String) (g : List Edit) : List String :=
  match g.head?, g.getLast? with
  | some first, some last =>
    ("@@ -" ++ rangeText first.aStart last.aStop ++ " +" ++ rangeText first.bStart last.bStop ++
      " @@\n") :: g.flatMap (Edit.shown a b)
  | _, _ => []

/-- The pieces of the unified difference of two lists of lines. -/
def unifiedLines (a b : Array String) : List String :=
  match hunks 3 (edits (Matcher.of a b).matching) with
  | [] => []
  | hs => "--- \n" :: "+++ \n" :: hs.flatMap (hunkLines a b)

/-- The lines of a text, without their breaks. -/
def textLines (s : String) : Array String :=
  ((splitLines s.toList).map String.ofList).toArray

/-- The unified difference of two texts, line by line, as one text. -/
def textDiff (expected got : String) : String :=
  "\n".intercalate (unifiedLines (textLines expected) (textLines got))

end Reindent.Diff
