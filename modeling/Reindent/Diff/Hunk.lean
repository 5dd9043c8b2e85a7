import Reindent.Diff.Match

/-!
# Edits and hunks

The matching blocks of two sequences turn into a list of edits that turns the first sequence
into the second: each gap before a block is a `replace` when both sequences have items there, a
`delete` when only the first has, and an `insert` when only the second has; each non-empty block
is an `equal` edit.

A *hunk* is a group of edits to be shown together with `n` items of context. The list of edits is
cut at every `equal` edit of more than `2 * n` items, keeping `n` items of it at the end of the
group before and `n` at the start of the group after; an `equal` edit at either end of the whole
list is first cut down to its `n` items next to the changes. A group that is a single `equal` edit
shows no change and is left out, so two equal sequences have no hunk at all.
-/

namespace Reindent.Diff

/-- What an edit does to a span of the first sequence. -/
inductive Tag where
  /-- The spans are equal. -/
  | equal
  /-- The span of the first sequence is replaced by the span of the second. -/
  | replace
  /-- The span of the first sequence is deleted; the span of the second is empty. -/
  | delete
  /-- The span of the second sequence is inserted; the span of the first is empty. -/
  | insert
deriving DecidableEq, Repr

/-- One edit: a tag with the span `[aStart, aStop)` of the first sequence and the span
`[bStart, bStop)` of the second. -/
structure Edit where
  /-- What the edit does. -/
  tag : Tag
  /-- Where the span of the first sequence starts. -/
  aStart : Nat
  /-- Where the span of the first sequence stops. -/
  aStop : Nat
  /-- Where the span of the second sequence starts. -/
  bStart : Nat
  /-- Where the span of the second sequence stops. -/
  bStop : Nat
deriving DecidableEq, Repr

/-- The edits for the matching blocks, the previous block having ended at `i` and `j`. -/
def editsFrom (i j : Nat) : List Block → List Edit
  | [] => []
  | x :: rest =>
    let gap : List Edit :=
      if i < x.left ∧ j < x.right then [⟨.replace, i, x.left, j, x.right⟩]
      else if i < x.left then [⟨.delete, i, x.left, j, x.right⟩]
      else if j < x.right then [⟨.insert, i, x.left, j, x.right⟩]
      else []
    let same : List Edit :=
      if x.size = 0 then [] else [⟨.equal, x.left, x.left + x.size, x.right, x.right + x.size⟩]
    gap ++ same ++ editsFrom (x.left + x.size) (x.right + x.size) rest

/-- The edits that turn the first sequence into the second along the matching blocks. -/
def edits (blocks : List Block) : List Edit :=
  editsFrom 0 0 blocks

/-- An `equal` edit cut down to its last `n` items. -/
def Edit.keepLast (n : Nat) (e : Edit) : Edit :=
  ⟨e.tag, max e.aStart (e.aStop - n), e.aStop, max e.bStart (e.bStop - n), e.bStop⟩

/-- An `equal` edit cut down to its first `n` items. -/
def Edit.keepFirst (n : Nat) (e : Edit) : Edit :=
  ⟨e.tag, e.aStart, min e.aStop (e.aStart + n), e.bStart, min e.bStop (e.bStart + n)⟩

/-- The list with its first element changed by `f`. -/
def mapHead (f : Edit → Edit) : List Edit → List Edit
  | [] => []
  | e :: rest => f e :: rest

/-- The list with its last element changed by `f`. -/
def mapLast (f : Edit → Edit) : List Edit → List Edit
  | [] => []
  | [e] => [f e]
  | e :: rest => e :: mapLast f rest

/-- The edits with an `equal` edit at the start or the end cut down to `n` items next to the
changes; an empty list stands for the one-item `equal` edit. -/
def trimEnds (n : Nat) (es : List Edit) : List Edit :=
  let es := if es.isEmpty then [⟨.equal, 0, 1, 0, 1⟩] else es
  let es := mapHead (fun e => if e.tag = .equal then e.keepLast n else e) es
  mapLast (fun e => if e.tag = .equal then e.keepFirst n else e) es

/-- One step of the grouping: an `equal` edit of more than `2 * n` items closes the current
group with its first `n` items and opens the next with its last `n`; any other edit joins the
current group. -/
def groupStep (n : Nat) (acc : List Edit × List (List Edit)) (e : Edit) :
    List Edit × List (List Edit) :=
  if e.tag = .equal ∧ 2 * n < e.aStop - e.aStart then
    ([⟨e.tag, max e.aStart (e.aStop - n), e.aStop, max e.bStart (e.bStop - n), e.bStop⟩],
      acc.2 ++ [acc.1 ++ [e.keepFirst n]])
  else (acc.1 ++ [e], acc.2)

/-- Whether a group shows a change: it is not empty and not a single `equal` edit. -/
def showsChange : List Edit → Bool
  | [] => false
  | [e] => e.tag != .equal
  | _ => true

/-- The hunks of a list of edits, with `n` items of context. -/
def hunks (n : Nat) (es : List Edit) : List (List Edit) :=
  let r := (trimEnds n es).foldl (groupStep n) ([], [])
  if showsChange r.1 then r.2 ++ [r.1] else r.2

end Reindent.Diff
