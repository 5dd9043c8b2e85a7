import Reindent.Layout.Merge

/-!
# Indenting merged lines

The lines are indented in one scan from the top. The scan carries a `Scan`: whether it is inside
a block comment, and the depth. Each line is printed trimmed, behind the indentation of its depth.

Only the *active* part of a line moves the depth: the line without statement ends, cut before a
line comment and then before a block comment, and trimmed. Outside a block comment

* a line whose active part starts with a closer is printed one level out, and then no closer of
  that line counts again;
* after the line, each opener of the active part adds a level and, unless the line started with a
  closer, each closer takes one away.

The depth used for printing never goes below zero, but the depth carried to the next line may,
until that line clamps it. Inside a block comment the depth stands still, and a line whose active
part starts with the continuation mark `*` gets one more space. A line that holds `/*` enters a
block comment, and a line in which some piece after a `/*` (or before the first) holds `*/` leaves
it, whatever came first.
-/

namespace Reindent.Layout

open Reindent.Text

/-- What the scan knows between two lines. -/
structure Scan where
  /-- Whether the next line starts inside a block comment. -/
  inComment : Bool
  /-- The depth carried to the next line, before clamping at zero. -/
  depth : Int
deriving DecidableEq, Repr

/-- The scan before the first line: outside comments, at depth zero. -/
def Scan.start : Scan := ⟨false, 0⟩

/-- The part of a line that moves the depth: no statement ends, nothing from a line comment or
a block comment on, trimmed. -/
def Style.active (st : Style) (line : List Char) : List Char :=
  trim (before st.blockOpen (trim (before st.lineComment (line.filter (· != st.statementEnd)))))

/-- Whether a text starts with one of the given characters. -/
def startsWithAny (cs : List Char) : List Char → Bool
  | c :: _ => cs.contains c
  | [] => false

/-- The number of characters of `s` that are among `cs`. -/
def countAmong (cs s : List Char) : Int :=
  (s.countP fun c => cs.contains c : Nat)

/-- Whether a line leaves a block comment: some piece of it around its `/*` markers holds `*/`. -/
def Style.leavesComment (st : Style) (line : List Char) : Bool :=
  (cutAt st.blockOpen line).any (occursIn st.blockClose)

/-- One line of the scan: the printed line and the scan for the next line. -/
def Style.step (st : Style) (s : Scan) (line : List Char) : List Char × Scan :=
  let a := st.active line
  let dedent := !s.inComment && startsWithAny st.closers a
  let depth := max 0 (if dedent then s.depth - 1 else s.depth)
  let mark := if s.inComment && a.head? == some st.continuation then [' '] else []
  let printed := (List.replicate depth.toNat st.indent).flatten ++ mark ++ trim line
  let depth' :=
    if s.inComment then depth
    else depth + countAmong st.openers a - (if dedent then 0 else countAmong st.closers a)
  let inComment' :=
    !st.leavesComment line && (s.inComment || occursIn st.blockOpen line)
  (printed, ⟨inComment', depth'⟩)

/-- The printed lines of a scan that starts in state `s`. -/
def Style.indentFrom (st : Style) : Scan → List (List Char) → List (List Char)
  | _, [] => []
  | s, line :: rest =>
    let r := st.step s line
    r.1 :: st.indentFrom r.2 rest

/-- Merges split lines, then indents every line by its depth. -/
def Style.reindent (st : Style) (cs : List Char) : List Char :=
  joinLines (st.indentFrom Scan.start (splitLines (st.mergeLines cs)))

end Reindent.Layout
