import Std.Data.HashMap

/-!
# Matching blocks of two sequences

Two sequences `a` and `b` are compared by their longest common runs. `Matcher.longest` finds, in
a window `a[alo:ahi]` and `b[blo:bhi]`, the longest run of items that are equal in both; among
runs of that length it takes the one that starts first in `a`, and then first in `b`.
`Matcher.blocks` takes that run and recurses into the parts of the windows before it and after
it, so the blocks come out in increasing order in both sequences.

The search for a run goes through an index of `b`: for each item, the positions where it occurs.
When `b` has at least 200 items, an item that occurs more than once in every hundred items (plus
one) is *popular* and left out of the index, so that a long run of a common line does not make
the search quadratic. A popular item is never the start of a run found by the index, but a run
found is still extended over equal items on either side, popular or not.

`Matcher.matching` is the final list: the blocks, each joined with the next when the two touch in
both sequences, and a last empty block at the ends of both sequences.
-/

namespace Reindent.Diff

/-- A run of equal items: `size` items of `a` from `left` equal `size` items of `b` from
`right`. -/
structure Block where
  /-- Where the run starts in the first sequence. -/
  left : Nat
  /-- Where the run starts in the second sequence. -/
  right : Nat
  /-- How many items the run has. -/
  size : Nat
deriving DecidableEq, Repr

/-- The two sequences under comparison and the index of the second. -/
structure Matcher (α : Type) [BEq α] [Hashable α] where
  /-- The first sequence. -/
  a : Array α
  /-- The second sequence. -/
  b : Array α
  /-- For each item of `b` that is not popular, its positions in `b` in increasing order. -/
  index : Std.HashMap α (Array Nat)

variable {α : Type} [BEq α] [Hashable α]

/-- For each item of `b`, its positions in `b` in increasing order. -/
def positions (b : Array α) : Std.HashMap α (Array Nat) :=
  (b.foldl (fun (acc : Std.HashMap α (Array Nat) × Nat) x =>
    (acc.1.alter x (fun js => some ((js.getD #[]).push acc.2)), acc.2 + 1)) ({}, 0)).1

/-- The index of `b`: its positions without the popular items, those that occur more than
`b.size / 100 + 1` times in a `b` of at least 200 items. -/
def popularFree (b : Array α) (index : Std.HashMap α (Array Nat)) : Std.HashMap α (Array Nat) :=
  if 200 ≤ b.size then index.filter fun _ js => js.size ≤ b.size / 100 + 1 else index

/-- The matcher of two sequences. -/
def Matcher.of (a b : Array α) : Matcher α :=
  ⟨a, b, popularFree b (positions b)⟩

/-- One row of the search for the longest run, at item `i` of `a`. `prev` maps each position `j`
of `b` to the length of the run of equal items that ends at `a[i-1]` and `b[j]`; the result is
the best run so far and the same map for `a[i]`. Only positions in `[blo, bhi)` count, and a run
replaces the best one only when it is strictly longer. -/
def Matcher.row (m : Matcher α) (blo bhi i : Nat) (best : Block) (prev : Std.HashMap Nat Nat) :
    Block × Std.HashMap Nat Nat :=
  match m.a[i]? with
  | none => (best, {})
  | some x =>
    (m.index.getD x #[]).foldl (fun (acc : Block × Std.HashMap Nat Nat) j =>
      if j < blo || bhi ≤ j then acc
      else
        let k := (if j = 0 then 0 else prev.getD (j - 1) 0) + 1
        (if acc.1.size < k then ⟨i + 1 - k, j + 1 - k, k⟩ else acc.1, acc.2.insert j k))
      (best, {})

/-- The longest run found through the index in the windows `[alo, ahi)` and `[blo, bhi)`, or
the empty run at `alo`, `blo` when there is none. -/
def Matcher.indexed (m : Matcher α) (alo ahi blo bhi : Nat) : Block :=
  ((List.range' alo (ahi - alo)).foldl
    (fun (acc : Block × Std.HashMap Nat Nat) i => m.row blo bhi i acc.1 acc.2)
    (⟨alo, blo, 0⟩, {})).1

/-- How many items just before `a[i]` and `b[j]` are equal in pairs, going back at most `room`
steps. -/
def agreeBefore (a b : Array α) : Nat → Nat → Nat → Nat
  | 0, _, _ => 0
  | room + 1, i, j =>
    match a[i - 1]?, b[j - 1]? with
    | some x, some y => if x == y then agreeBefore a b room (i - 1) (j - 1) + 1 else 0
    | _, _ => 0

/-- How many items from `a[i]` and `b[j]` on are equal in pairs, going on at most `room`
steps. -/
def agreeFrom (a b : Array α) : Nat → Nat → Nat → Nat
  | 0, _, _ => 0
  | room + 1, i, j =>
    match a[i]?, b[j]? with
    | some x, some y => if x == y then agreeFrom a b room (i + 1) (j + 1) + 1 else 0
    | _, _ => 0

/-- The longest run of equal items in the windows `[alo, ahi)` of `a` and `[blo, bhi)` of `b`:
the run found through the index, extended over equal items before it and then after it. -/
def Matcher.longest (m : Matcher α) (alo ahi blo bhi : Nat) : Block :=
  let core := m.indexed alo ahi blo bhi
  let back := agreeBefore m.a m.b (min (core.left - alo) (core.right - blo)) core.left core.right
  let left := core.left - back
  let right := core.right - back
  let size := core.size + back
  let more := agreeFrom m.a m.b (min (ahi - (left + size)) (bhi - (right + size)))
    (left + size) (right + size)
  ⟨left, right, size + more⟩

/-- The matching blocks of the windows `[alo, ahi)` and `[blo, bhi)`, in increasing order: the
longest run, with the blocks of the windows before it and after it on either side. -/
def Matcher.blocks (m : Matcher α) (alo ahi blo bhi : Nat) : List Block :=
  match m.longest alo ahi blo bhi with
  | ⟨i, j, k⟩ =>
    if _h : 0 < k ∧ alo ≤ i ∧ i + k ≤ ahi then
      (if alo < i ∧ blo < j then m.blocks alo i blo j else []) ++
        ⟨i, j, k⟩ :: (if i + k < ahi ∧ j + k < bhi then m.blocks (i + k) ahi (j + k) bhi else [])
    else []
termination_by ahi - alo
decreasing_by all_goals omega

/-- Blocks joined with the next while the two touch in both sequences, starting from `cur`;
empty blocks are dropped. -/
def collapseFrom (cur : Block) : List Block → List Block
  | [] => if cur.size = 0 then [] else [cur]
  | x :: rest =>
    if cur.left + cur.size = x.left ∧ cur.right + cur.size = x.right then
      collapseFrom ⟨cur.left, cur.right, cur.size + x.size⟩ rest
    else (if cur.size = 0 then [] else [cur]) ++ collapseFrom x rest

/-- The matching blocks of the two whole sequences, touching blocks joined, followed by the empty
block at both ends. -/
def Matcher.matching (m : Matcher α) : List Block :=
  collapseFrom ⟨0, 0, 0⟩ (m.blocks 0 m.a.size 0 m.b.size) ++ [⟨m.a.size, m.b.size, 0⟩]

end Reindent.Diff
