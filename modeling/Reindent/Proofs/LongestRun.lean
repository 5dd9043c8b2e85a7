import Mathlib.Data.List.Induction
import Reindent.Diff.Match

/-! # The longest run of equal items

`Matcher.longest` looks for the longest run of items that two windows of the sequences `a` and
`b` share. It goes through the rows of `a` in order, and in each row through the positions of `b`
that the index lists for the row's item, in increasing order; at each such cell it records how
long the run of cells ending there is, read off the record of the row before, and it takes a
run as the best one only when it is strictly longer. The run found is then extended over equal
items on both sides.

The record of a cell is `runLen`, the run of *hit* cells (`hit`: the position is indexed and in
the window) that ends there along the diagonal. The search keeps two facts true from cell to cell
(`RowState`): the record of the row so far is `runLen`, and the best run is the first longest
one among the cells visited (`FirstLongest`), first in the order of rows and then of columns.
So:

* `indexed_firstLongest`: the run the index finds is the first longest run of hit cells;
* `longest_within_matches`: the run `Matcher.longest` returns lies in the windows and is a run
  of equal items, for any index that lists only positions holding the item, in order
  (`WellIndexed`);
* `longest_self`: comparing a window of a sequence with the same window of itself, the run is
  the whole window. The index may leave items out (the popular ones of a long sequence), but it
  keeps or drops all positions of an item together, so the first longest run of hit cells lies
  on the diagonal (`indexed_left_eq_right`), and the extension reaches both ends.
-/

namespace Reindent.Proofs.LongestRun

open Reindent.Diff

variable {α : Type}

/-! ## Runs of equal items -/

/-- The block is a run of equal items of `a` and `b`: its items exist in both and are equal in
pairs. -/
def Matches (a b : Array α) (x : Block) : Prop :=
  x.left + x.size ≤ a.size ∧ x.right + x.size ≤ b.size ∧
    ∀ t < x.size, a[x.left + t]? = b[x.right + t]?

/-- The block lies in the windows `[alo, ahi)` of `a` and `[blo, bhi)` of `b`. -/
def Within (alo ahi blo bhi : Nat) (x : Block) : Prop :=
  alo ≤ x.left ∧ x.left + x.size ≤ ahi ∧ blo ≤ x.right ∧ x.right + x.size ≤ bhi

/-- The windows `[alo, ahi)` of `a` and `[blo, bhi)` of `b` are windows of the two sequences. -/
def Fits (a b : Array α) (alo ahi blo bhi : Nat) : Prop :=
  alo ≤ ahi ∧ ahi ≤ a.size ∧ blo ≤ bhi ∧ bhi ≤ b.size

section Extend

variable {a b : Array α}

/-- Two runs of equal items that touch in both sequences make one run. -/
theorem Matches.join {x y : Block} (hx : Matches a b x) (hy : Matches a b y)
    (hl : x.left + x.size = y.left) (hr : x.right + x.size = y.right) :
    Matches a b ⟨x.left, x.right, x.size + y.size⟩ := by
  obtain ⟨hxa, hxb, hxe⟩ := hx
  obtain ⟨hya, hyb, hye⟩ := hy
  refine ⟨by dsimp only; omega, by dsimp only; omega, fun t ht => ?_⟩
  dsimp only at ht ⊢
  by_cases htx : t < x.size
  · exact hxe t htx
  · have := hye (t - x.size) (by omega)
    rwa [show y.left + (t - x.size) = x.left + t by omega,
      show y.right + (t - x.size) = x.right + t by omega] at this

/-- An empty block inside both sequences is a run of equal items. -/
theorem matches_empty {i j : Nat} (hi : i ≤ a.size) (hj : j ≤ b.size) :
    Matches a b ⟨i, j, 0⟩ :=
  ⟨hi, hj, fun t ht => absurd ht (Nat.not_lt_zero t)⟩

/-- One item that both sequences hold is a run of equal items. -/
theorem matches_single {i j : Nat} {v : α} (ha : a[i]? = some v) (hb : b[j]? = some v) :
    Matches a b ⟨i, j, 1⟩ := by
  refine ⟨(Array.getElem?_eq_some_iff.mp ha).1, (Array.getElem?_eq_some_iff.mp hb).1,
    fun t ht => ?_⟩
  rw [show t = 0 by dsimp only at ht; omega]
  simp [ha, hb]

variable [BEq α] [LawfulBEq α]

/-- **Extending a run backwards** over equal items keeps it a run of equal items, by at most
`room` items. -/
theorem matches_agreeBefore : ∀ (room : Nat) {x : Block}, room ≤ x.left → room ≤ x.right →
    Matches a b x →
    agreeBefore a b room x.left x.right ≤ room ∧
      Matches a b ⟨x.left - agreeBefore a b room x.left x.right,
        x.right - agreeBefore a b room x.left x.right,
        x.size + agreeBefore a b room x.left x.right⟩
  | 0, x, _, _, hx => by simpa [agreeBefore] using hx
  | room + 1, x, hl, hr, hx => by
    rw [agreeBefore]
    split
    · next v w hv hw =>
      split
      · next hvw =>
        -- the item before the run joins it
        have hx' := Matches.join (matches_single hv (show b[x.right - 1]? = some v by
          rw [hw, eq_of_beq hvw])) hx (by dsimp only; omega) (by dsimp only; omega)
        obtain ⟨hn, hmat⟩ := matches_agreeBefore room (by dsimp only; omega)
          (by dsimp only; omega) hx'
        dsimp only at hn hmat
        generalize agreeBefore a b room (x.left - 1) (x.right - 1) = n at hn hmat ⊢
        refine ⟨by omega, ?_⟩
        rwa [show x.left - 1 - n = x.left - (n + 1) by omega,
          show x.right - 1 - n = x.right - (n + 1) by omega,
          show 1 + x.size + n = x.size + (n + 1) by omega] at hmat
      · simpa using hx
    · simpa using hx

/-- **Extending a run forwards** over equal items keeps it a run of equal items, by at most
`room` items. -/
theorem matches_agreeFrom : ∀ (room : Nat) {x : Block}, Matches a b x →
    agreeFrom a b room (x.left + x.size) (x.right + x.size) ≤ room ∧
      Matches a b
        ⟨x.left, x.right, x.size + agreeFrom a b room (x.left + x.size) (x.right + x.size)⟩
  | 0, x, hx => by simpa [agreeFrom] using hx
  | room + 1, x, hx => by
    rw [agreeFrom]
    split
    · next v w hv hw =>
      split
      · next hvw =>
        -- the item after the run joins it
        have hx' := Matches.join hx (matches_single hv (show b[x.right + x.size]? = some v by
          rw [hw, eq_of_beq hvw])) rfl rfl
        obtain ⟨hn, hmat⟩ := matches_agreeFrom room hx'
        dsimp only at hn hmat
        rw [← Nat.add_assoc, ← Nat.add_assoc] at hn hmat
        generalize agreeFrom a b room (x.left + x.size + 1) (x.right + x.size + 1) = n
          at hn hmat ⊢
        refine ⟨by omega, ?_⟩
        rwa [show x.size + (n + 1) = x.size + 1 + n by omega]
      · simpa using hx
    · simpa using hx

/-- Going back over a sequence against itself, every item agrees. -/
theorem agreeBefore_self : ∀ (room i : Nat), room ≤ i → i ≤ a.size →
    agreeBefore a a room i i = room
  | 0, _, _, _ => rfl
  | room + 1, i, hr, hi => by
    have hlt : i - 1 < a.size := by omega
    rw [agreeBefore, Array.getElem?_eq_getElem hlt]
    simp only [BEq.rfl, if_true]
    rw [agreeBefore_self room (i - 1) (by omega) (by omega)]

/-- Going on over a sequence against itself, every item agrees. -/
theorem agreeFrom_self : ∀ (room i : Nat), i + room ≤ a.size → agreeFrom a a room i i = room
  | 0, _, _ => rfl
  | room + 1, i, hi => by
    have hlt : i < a.size := by omega
    rw [agreeFrom, Array.getElem?_eq_getElem hlt]
    simp only [BEq.rfl, if_true]
    rw [agreeFrom_self room (i + 1) (by omega)]

end Extend

variable [BEq α] [Hashable α]

/-! ## The index -/

/-- One step of `positions`: the item at position `acc.2` is filed under itself. -/
def filePosition (acc : Std.HashMap α (Array Nat) × Nat) (x : α) :
    Std.HashMap α (Array Nat) × Nat :=
  (acc.1.alter x (fun js => some ((js.getD #[]).push acc.2)), acc.2 + 1)

theorem positions_eq (b : Array α) : positions b = (b.toList.foldl filePosition ({}, 0)).1 := by
  rw [Array.foldl_toList]
  rfl

section Lawful

variable [LawfulBEq α] [LawfulHashable α]

theorem getD_filePosition (acc : Std.HashMap α (Array Nat) × Nat) (y x : α) :
    (filePosition acc y).1.getD x #[] =
      if y == x then (acc.1.getD x #[]).push acc.2 else acc.1.getD x #[] := by
  rw [filePosition, Std.HashMap.getD_alter]
  by_cases h : y = x
  · subst h
    simp [Std.HashMap.getD_eq_getD_getElem?]
  · simp [h]

/-- After filing the items of `l`, the entry of each item lists its positions in `l`, in
increasing order. -/
theorem foldl_filePosition (l : List α) :
    (l.foldl filePosition ({}, 0)).2 = l.length ∧
      ∀ x, (∀ j, j ∈ (l.foldl filePosition ({}, 0)).1.getD x #[] ↔ l[j]? = some x) ∧
        ((l.foldl filePosition ({}, 0)).1.getD x #[]).toList.Pairwise (· < ·) := by
  induction l using List.reverseRecOn with
  | nil => simp
  | append_singleton l y ih =>
    obtain ⟨hlen, hx⟩ := ih
    rw [List.foldl_append, List.foldl_cons, List.foldl_nil]
    refine ⟨by simp [filePosition, hlen], fun x => ?_⟩
    obtain ⟨hmem, hsort⟩ := hx x
    rw [getD_filePosition, hlen]
    -- the positions filed so far all lie before `l.length`, where `y` is filed
    have hlt : ∀ j, l[j]? = some x → j < l.length := fun j h =>
      (List.getElem?_eq_some_iff.mp h).1
    by_cases hyx : y = x
    · subst hyx
      refine ⟨fun j => ?_, ?_⟩
      · rw [beq_self_eq_true, if_pos rfl, Array.mem_push, hmem, List.getElem?_append]
        by_cases hj : j < l.length
        · simp [hj, Nat.ne_of_lt hj]
        · simp [hj, List.getElem?_singleton]
          omega
      · rw [beq_self_eq_true, if_pos rfl, Array.toList_push, List.pairwise_append]
        refine ⟨hsort, by simp, fun j hj k hk => ?_⟩
        rw [List.mem_singleton] at hk
        exact hk ▸ hlt j ((hmem j).mp (Array.mem_toList_iff.mp hj))
    · rw [if_neg (by simpa using hyx)]
      refine ⟨fun j => ?_, hsort⟩
      rw [hmem, List.getElem?_append]
      by_cases hj : j < l.length
      · simp [hj]
      · simp [hj, List.getElem?_singleton, hyx]

theorem mem_positions_iff (b : Array α) (x : α) (j : Nat) :
    j ∈ (positions b).getD x #[] ↔ b[j]? = some x := by
  rw [positions_eq, (foldl_filePosition b.toList).2 x |>.1, Array.getElem?_toList]

theorem positions_sorted (b : Array α) (x : α) :
    ((positions b).getD x #[]).toList.Pairwise (· < ·) := by
  rw [positions_eq]
  exact ((foldl_filePosition b.toList).2 x).2

/-- The index of a matcher keeps or drops all positions of an item together: leaving out the
popular items never splits an item's positions. -/
theorem index_of_getD (a b : Array α) (x : α) :
    (Matcher.of a b).index.getD x #[] = (positions b).getD x #[] ∨
      (Matcher.of a b).index.getD x #[] = #[] := by
  simp only [Matcher.of, popularFree]
  split
  · rw [Std.HashMap.getD_filter', Std.HashMap.getD_eq_getD_getElem?]
    cases (positions b)[x]? with
    | none => simp
    | some js => by_cases h : js.size ≤ b.size / 100 + 1 <;> simp [Option.filter, h]
  · exact .inl rfl

/-- An item's positions are indexed all or none. -/
theorem mem_index_of_mem_index {a b : Array α} {x : α} {j j' : Nat}
    (hj : j ∈ (Matcher.of a b).index.getD x #[]) (hj' : b[j']? = some x) :
    j' ∈ (Matcher.of a b).index.getD x #[] := by
  rcases index_of_getD a b x with he | he <;> rw [he] at hj ⊢
  · exact (mem_positions_iff b x j').mpr hj'
  · simp at hj

end Lawful

/-- What the search needs of an index: it lists under an item only positions of `b` that hold
the item, in increasing order. -/
structure WellIndexed (m : Matcher α) : Prop where
  /-- A listed position holds the item. -/
  sound : ∀ x j, j ∈ m.index.getD x #[] → m.b[j]? = some x
  /-- The positions of an item are listed in increasing order. -/
  sorted : ∀ x, (m.index.getD x #[]).toList.Pairwise (· < ·)

theorem wellIndexed_of [LawfulBEq α] [LawfulHashable α] (a b : Array α) :
    WellIndexed (Matcher.of a b) where
  sound x j h := by
    rcases index_of_getD a b x with he | he <;> rw [he] at h
    · exact (mem_positions_iff b x j).mp h
    · simp at h
  sorted x := by
    rcases index_of_getD a b x with he | he <;> rw [he]
    · exact positions_sorted b x
    · simp

/-! ## Runs of cells -/

/-- Whether the search visits the cell `(i, j)` with the window `[blo, bhi)` of `b`: position
`j` is in the window and listed in the index under the item `a[i]`. -/
def hit (m : Matcher α) (blo bhi i j : Nat) : Bool :=
  decide (blo ≤ j ∧ j < bhi) && m.a[i]?.any fun x => (m.index.getD x #[]).contains j

theorem hit_iff {m : Matcher α} {blo bhi i j : Nat} :
    hit m blo bhi i j = true ↔
      blo ≤ j ∧ j < bhi ∧ ∃ x, m.a[i]? = some x ∧ j ∈ m.index.getD x #[] := by
  unfold hit
  cases m.a[i]? <;> simp [and_assoc]

/-- The length of the run of hit cells that ends at `(i, j)` and goes back along the diagonal,
over the rows from `alo` on: what the search records for the cell. -/
def runLen (m : Matcher α) (alo blo bhi : Nat) : Nat → Nat → Nat
  | 0, j => if hit m blo bhi 0 j then 1 else 0
  | i + 1, j =>
    if hit m blo bhi (i + 1) j then
      (if alo ≤ i ∧ 0 < j then runLen m alo blo bhi i (j - 1) else 0) + 1
    else 0

section Runs

variable {m : Matcher α} {alo blo bhi : Nat}

theorem runLen_eq (i j : Nat) :
    runLen m alo blo bhi i j =
      if hit m blo bhi i j then
        (if alo < i ∧ 0 < j then runLen m alo blo bhi (i - 1) (j - 1) else 0) + 1
      else 0 := by
  cases i with
  | zero => simp [runLen]
  | succ i => simp only [runLen, Nat.lt_succ_iff, Nat.add_sub_cancel]

theorem runLen_of_hit_eq_false {i j : Nat} (h : hit m blo bhi i j = false) :
    runLen m alo blo bhi i j = 0 := by
  rw [runLen_eq, if_neg (by simp [h])]

theorem hit_of_runLen_pos {i j : Nat} (h : 0 < runLen m alo blo bhi i j) :
    hit m blo bhi i j = true := by
  by_contra hf
  rw [runLen_of_hit_eq_false (Bool.eq_false_iff.mpr hf)] at h
  exact absurd h (Nat.lt_irrefl 0)

/-- Every cell of a recorded run is hit, and the run starts at row `alo` or later. -/
theorem hit_of_lt_runLen : ∀ {i j t : Nat}, alo ≤ i → t < runLen m alo blo bhi i j →
    hit m blo bhi (i - t) (j - t) = true ∧ t ≤ j ∧ alo + t ≤ i
  | i, j, 0, hi, ht => ⟨by simpa using hit_of_runLen_pos ht, Nat.zero_le _, by omega⟩
  | i, j, t + 1, hi, ht => by
    rw [runLen_eq] at ht
    split at ht
    · split at ht
      · next hlt =>
        obtain ⟨hh, htj, hti⟩ :=
          hit_of_lt_runLen (i := i - 1) (j := j - 1) (t := t) (by omega) (by omega)
        refine ⟨?_, by omega, by omega⟩
        rwa [show i - (t + 1) = i - 1 - t by omega, show j - (t + 1) = j - 1 - t by omega]
      · omega
    · omega

end Runs

/-! ## The first longest run -/

/-- `best` is the first longest run of `L` among the cells `done`, in the order of rows and then
columns, or `start` when every run there is empty: no cell of `done` has a longer run, and the
cells of `done` before the one where `best` ends all have shorter ones. -/
structure FirstLongest (L : Nat → Nat → Nat) (start : Block) (done : Nat → Nat → Prop)
    (best : Block) : Prop where
  /-- No visited cell has a longer run. -/
  le : ∀ i j, done i j → L i j ≤ best.size
  /-- With no run found, the best run is the start. -/
  empty : best.size = 0 → best = start
  /-- A run found ends at a visited cell, and every visited cell before it has a shorter run. -/
  found : 0 < best.size → ∃ i j, done i j ∧ L i j = best.size ∧
    best = ⟨i + 1 - best.size, j + 1 - best.size, best.size⟩ ∧
    ∀ i' j', done i' j' → (i' < i ∨ i' = i ∧ j' < j) → L i' j' < best.size

/-- The run of length `k` that ends at `(i, j)` if it is longer than `best`, else `best`. -/
def takeLonger (best : Block) (i j k : Nat) : Block :=
  if best.size < k then ⟨i + 1 - k, j + 1 - k, k⟩ else best

section First

variable {L : Nat → Nat → Nat} {start : Block} {done : Nat → Nat → Prop} {best : Block}

theorem firstLongest_start (h : start.size = 0) :
    FirstLongest L start (fun _ _ => False) start where
  le _ _ h := h.elim
  empty _ := rfl
  found hpos := absurd h (Nat.ne_of_gt hpos)

/-- **Visiting one more cell**, after all cells visited so far, keeps the first longest run. -/
theorem FirstLongest.visit (hb : FirstLongest L start done best) {i j : Nat}
    (hafter : ∀ i' j', done i' j' → i' < i ∨ i' = i ∧ j' < j) :
    FirstLongest L start (fun i' j' => done i' j' ∨ i' = i ∧ j' = j)
      (takeLonger best i j (L i j)) := by
  unfold takeLonger
  split
  · next hlt =>
    refine ⟨fun i' j' hd => ?_, fun h0 => by simp at h0; omega, fun _ => ?_⟩
    · rcases hd with hd | ⟨rfl, rfl⟩
      · exact Nat.le_of_lt (Nat.lt_of_le_of_lt (hb.le i' j' hd) hlt)
      · exact Nat.le_refl _
    · refine ⟨i, j, .inr ⟨rfl, rfl⟩, rfl, rfl, fun i' j' hd hbefore => ?_⟩
      rcases hd with hd | ⟨rfl, rfl⟩
      · exact Nat.lt_of_le_of_lt (hb.le i' j' hd) hlt
      · omega
  · next hge =>
    refine ⟨fun i' j' hd => ?_, hb.empty, fun hpos => ?_⟩
    · rcases hd with hd | ⟨rfl, rfl⟩
      · exact hb.le i' j' hd
      · omega
    · obtain ⟨i0, j0, hd0, hL0, hbest, hfirst⟩ := hb.found hpos
      refine ⟨i0, j0, .inl hd0, hL0, hbest, fun i' j' hd hbefore => ?_⟩
      rcases hd with hd | ⟨rfl, rfl⟩
      · exact hfirst i' j' hd hbefore
      · -- the new cell comes after every visited one, the end of `best` included
        rcases hafter i0 j0 hd0 with h | ⟨rfl, h⟩ <;> omega

/-- Cells with an empty run can be added to the visited ones, or left out. -/
theorem FirstLongest.congr (hb : FirstLongest L start done best) {done' : Nat → Nat → Prop}
    (hsub : ∀ i j, done i j → done' i j)
    (hzero : ∀ i j, done' i j → done i j ∨ L i j = 0) :
    FirstLongest L start done' best := by
  refine ⟨fun i j hd => ?_, hb.empty, fun hpos => ?_⟩
  · rcases hzero i j hd with hd | h0
    · exact hb.le i j hd
    · omega
  · obtain ⟨i0, j0, hd0, hL0, hbest, hfirst⟩ := hb.found hpos
    refine ⟨i0, j0, hsub i0 j0 hd0, hL0, hbest, fun i' j' hd hbefore => ?_⟩
    rcases hzero i' j' hd with hd | h0
    · exact hfirst i' j' hd hbefore
    · omega

end First

/-! ## The search, row by row -/

/-- One cell of a row of the search, as `Matcher.row` folds it over the positions that the
index lists for `a[i]`: a position outside the window is passed over; at one inside, the run
ending there is recorded and taken as the best run if it is longer. -/
def cellStep (blo bhi i : Nat) (prev : Std.HashMap Nat Nat) (acc : Block × Std.HashMap Nat Nat)
    (j : Nat) : Block × Std.HashMap Nat Nat :=
  if j < blo || bhi ≤ j then acc
  else
    let k := (if j = 0 then 0 else prev.getD (j - 1) 0) + 1
    (if acc.1.size < k then ⟨i + 1 - k, j + 1 - k, k⟩ else acc.1, acc.2.insert j k)

theorem row_eq (m : Matcher α) (blo bhi i : Nat) (best : Block) (prev : Std.HashMap Nat Nat) :
    m.row blo bhi i best prev =
      match m.a[i]? with
      | none => (best, {})
      | some x => (m.index.getD x #[]).toList.foldl (cellStep blo bhi i prev) (best, {}) := by
  unfold Matcher.row
  cases m.a[i]? with
  | none => rfl
  | some x => simp only [Array.foldl_toList]; rfl

section Search

variable {m : Matcher α} {alo blo bhi : Nat}

/-- The record handed to row `i`: the runs of row `i - 1`, or nothing before the first row. -/
def PrevRow (m : Matcher α) (alo blo bhi i : Nat) (prev : Std.HashMap Nat Nat) : Prop :=
  ∀ j, prev.getD j 0 = if alo < i then runLen m alo blo bhi (i - 1) j else 0

/-- What holds in row `i` after the positions `p` of its item: the record of the row is the runs
at `p`, and the best run is the first longest one over the rows before and the cells at `p`. -/
structure RowState (m : Matcher α) (alo blo bhi i : Nat) (p : List Nat)
    (acc : Block × Std.HashMap Nat Nat) : Prop where
  /-- The best run is the first longest one so far. -/
  best : FirstLongest (runLen m alo blo bhi) ⟨alo, blo, 0⟩
    (fun i' j' => (alo ≤ i' ∧ i' < i) ∨ i' = i ∧ j' ∈ p) acc.1
  /-- The record of the row holds the runs at the positions visited. -/
  record : ∀ j, acc.2.getD j 0 = if j ∈ p then runLen m alo blo bhi i j else 0

/-- **One cell of a row**: at a position listed for the row's item, the step records the run
ending there and takes it if it is longer. -/
theorem cellStep_eq {i j : Nat} {x : α} {prev : Std.HashMap Nat Nat}
    (hprev : PrevRow m alo blo bhi i prev) (hx : m.a[i]? = some x) (hj : j ∈ m.index.getD x #[])
    (acc : Block × Std.HashMap Nat Nat) :
    cellStep blo bhi i prev acc j =
      if hit m blo bhi i j then
        (takeLonger acc.1 i j (runLen m alo blo bhi i j), acc.2.insert j (runLen m alo blo bhi i j))
      else acc := by
  have hhit : hit m blo bhi i j = decide (blo ≤ j ∧ j < bhi) := by
    simp only [hit, hx, Option.any_some, Array.contains_iff_mem.mpr hj, Bool.and_true]
  -- the run the step records, read off the record of the row before
  have hk : (if j = 0 then 0 else prev.getD (j - 1) 0) + 1 = runLen m alo blo bhi i j
      ∨ ¬ (blo ≤ j ∧ j < bhi) := by
    by_cases hw : blo ≤ j ∧ j < bhi
    · have hh : hit m blo bhi i j = true := by rw [hhit, decide_eq_true hw]
      refine .inl ?_
      rw [runLen_eq, if_pos hh]
      by_cases hj0 : j = 0
      · simp [hj0]
      · rw [if_neg hj0, hprev]
        by_cases ha : alo < i <;> simp [ha, Nat.pos_of_ne_zero hj0]
    · exact .inr hw
  unfold cellStep takeLonger
  by_cases hw : blo ≤ j ∧ j < bhi
  · have hk' := hk.resolve_right (not_not.mpr hw)
    rw [if_neg (by simp; omega), hhit, decide_eq_true hw, if_pos rfl]
    simp only [hk']
  · rw [if_pos (by simp; omega), hhit, decide_eq_false hw]
    rfl

theorem RowState.step {i j : Nat} {x : α} {prev : Std.HashMap Nat Nat} {p : List Nat}
    {acc : Block × Std.HashMap Nat Nat} (hs : RowState m alo blo bhi i p acc)
    (hprev : PrevRow m alo blo bhi i prev) (hx : m.a[i]? = some x) (hj : j ∈ m.index.getD x #[])
    (hafter : ∀ j' ∈ p, j' < j) :
    RowState m alo blo bhi i (p ++ [j]) (cellStep blo bhi i prev acc j) := by
  have hvisit := hs.best.visit (i := i) (j := j) fun i' j' hd => by
    rcases hd with ⟨-, h⟩ | ⟨rfl, h⟩
    · exact .inl h
    · exact .inr ⟨rfl, hafter j' h⟩
  have hdone : ∀ i' j', ((alo ≤ i' ∧ i' < i) ∨ i' = i ∧ j' ∈ p ++ [j]) ↔
      (((alo ≤ i' ∧ i' < i) ∨ i' = i ∧ j' ∈ p) ∨ i' = i ∧ j' = j) := by
    intro i' j'
    simp only [List.mem_append, List.mem_singleton, and_or_left, or_assoc]
  rw [cellStep_eq hprev hx hj]
  split
  · refine ⟨?_, fun j' => ?_⟩
    · exact hvisit.congr (fun i' j' hd => (hdone i' j').mpr hd)
        (fun i' j' hd => .inl ((hdone i' j').mp hd))
    · rw [Std.HashMap.getD_insert, hs.record]
      by_cases h : j = j'
      · simp [h]
      · simp [h, Ne.symm h]
  · next hmiss =>
    have h0 : runLen m alo blo bhi i j = 0 := runLen_of_hit_eq_false (by simpa using hmiss)
    refine ⟨?_, fun j' => ?_⟩
    · have := hvisit.congr (fun i' j' hd => (hdone i' j').mpr hd)
        (fun i' j' hd => .inl ((hdone i' j').mp hd))
      rwa [h0, takeLonger, if_neg (Nat.not_lt_zero _)] at this
    · rw [hs.record]
      by_cases h : j' = j
      · subst h; simp [h0]
      · simp [h]

/-- A cell whose position the index does not list under the row's item has an empty run. -/
theorem runLen_eq_zero_of_not_listed {i j : Nat}
    (h : ∀ x, m.a[i]? = some x → j ∉ m.index.getD x #[]) : runLen m alo blo bhi i j = 0 := by
  refine runLen_of_hit_eq_false (Bool.eq_false_iff.mpr fun hh => ?_)
  obtain ⟨-, -, x, hx, hj⟩ := hit_iff.mp hh
  exact h x hx hj

/-- **A row's positions, one after another**: visiting the positions listed for the row's item,
in increasing order, keeps the row state. -/
theorem RowState.foldl {i : Nat} {x : α} {prev : Std.HashMap Nat Nat}
    (hprev : PrevRow m alo blo bhi i prev) (hx : m.a[i]? = some x) :
    ∀ (rest p : List Nat) (acc : Block × Std.HashMap Nat Nat), RowState m alo blo bhi i p acc →
      (p ++ rest).Pairwise (· < ·) → (∀ j ∈ rest, j ∈ m.index.getD x #[]) →
      RowState m alo blo bhi i (p ++ rest) (rest.foldl (cellStep blo bhi i prev) acc)
  | [], p, acc, hs, _, _ => by simpa using hs
  | j :: rest, p, acc, hs, hsort, hmem => by
    have hafter : ∀ j' ∈ p, j' < j := fun j' hj' =>
      (List.pairwise_append.mp hsort).2.2 j' hj' j List.mem_cons_self
    have hs' := hs.step hprev hx (hmem j List.mem_cons_self) hafter
    have := RowState.foldl hprev hx rest (p ++ [j]) _ hs' (by simpa using hsort)
      (fun j' hj' => hmem j' (List.mem_cons_of_mem _ hj'))
    simpa using this

/-- **One row of the search.** Given the first longest run over the rows before it and the record
of the row before, a row gives the first longest run over the rows up to it, and its own
record. -/
theorem row_spec (hm : WellIndexed m) {i : Nat} (hi : alo ≤ i) {best : Block}
    {prev : Std.HashMap Nat Nat}
    (hb : FirstLongest (runLen m alo blo bhi) ⟨alo, blo, 0⟩ (fun i' _ => alo ≤ i' ∧ i' < i)
      best)
    (hprev : PrevRow m alo blo bhi i prev) :
    FirstLongest (runLen m alo blo bhi) ⟨alo, blo, 0⟩ (fun i' _ => alo ≤ i' ∧ i' < i + 1)
        (m.row blo bhi i best prev).1 ∧
      PrevRow m alo blo bhi (i + 1) (m.row blo bhi i best prev).2 := by
  rw [row_eq]
  cases hx : m.a[i]? with
  | none =>
    -- a row past the end of `a` has no hit cells
    have h0 : ∀ j, runLen m alo blo bhi i j = 0 := fun j =>
      runLen_eq_zero_of_not_listed (by simp [hx])
    refine ⟨hb.congr (fun i' _ h => ⟨h.1, by omega⟩) (fun i' j h => ?_), fun j => ?_⟩
    · by_cases hlt : i' < i
      · exact .inl ⟨h.1, hlt⟩
      · exact .inr (show i' = i by omega ▸ h0 j)
    · simp [h0 j]
  | some x =>
    let js := (m.index.getD x #[]).toList
    have hstart : RowState m alo blo bhi i [] (best, {}) :=
      ⟨hb.congr (fun _ _ h => .inl h) (fun _ _ h => by simp at h; exact .inl h), by simp⟩
    have hs := RowState.foldl hprev hx js [] _ hstart (hm.sorted x)
      (fun _ h => by simpa [js] using h)
    -- the positions not listed for `x` have empty runs
    have h0 : ∀ j, j ∉ js → runLen m alo blo bhi i j = 0 := fun j hj =>
      runLen_eq_zero_of_not_listed fun x' hx' => by
        rw [hx] at hx'
        cases hx'
        simpa [js] using hj
    simp only [List.nil_append] at hs
    refine ⟨hs.best.congr (fun i' j h => ?_) (fun i' j h => ?_), fun j => ?_⟩
    · rcases h with h | ⟨rfl, -⟩
      · exact ⟨h.1, by omega⟩
      · exact ⟨hi, by omega⟩
    · by_cases hlt : i' < i
      · exact .inl (.inl ⟨h.1, hlt⟩)
      · have hii : i' = i := by omega
        by_cases hj : j ∈ js
        · exact .inl (.inr ⟨hii, hj⟩)
        · exact .inr (hii ▸ h0 j hj)
    · rw [hs.record]
      by_cases hj : j ∈ js
      · simp [hj, Nat.lt_succ_of_le hi]
      · simp [hj, h0 j hj]

/-- The search over the first `n` rows from `alo`. -/
theorem foldl_row_spec (hm : WellIndexed m) : ∀ n : Nat,
    let acc := (List.range' alo n).foldl
      (fun (acc : Block × Std.HashMap Nat Nat) i => m.row blo bhi i acc.1 acc.2)
      ((⟨alo, blo, 0⟩ : Block), ({} : Std.HashMap Nat Nat))
    FirstLongest (runLen m alo blo bhi) ⟨alo, blo, 0⟩ (fun i _ => alo ≤ i ∧ i < alo + n)
        acc.1 ∧
      PrevRow m alo blo bhi (alo + n) acc.2
  | 0 => by
    refine ⟨(firstLongest_start rfl).congr (fun _ _ h => h.elim) (fun i _ h => by omega),
      fun j => by simp⟩
  | n + 1 => by
    obtain ⟨hb, hprev⟩ := foldl_row_spec hm n
    rw [List.range'_concat, List.foldl_append, List.foldl_cons, List.foldl_nil]
    simpa [Nat.add_assoc] using row_spec hm (Nat.le_add_right alo n) hb hprev

/-- **The search through the index finds the first longest run of hit cells** over the rows
of the window, or the empty run at the start of the windows when there is none. -/
theorem indexed_firstLongest (hm : WellIndexed m) (ahi : Nat) :
    FirstLongest (runLen m alo blo bhi) ⟨alo, blo, 0⟩ (fun i _ => alo ≤ i ∧ i < ahi)
      (m.indexed alo ahi blo bhi) :=
  (foldl_row_spec hm (ahi - alo)).1.congr (fun _ _ h => ⟨h.1, by omega⟩)
    (fun _ _ h => .inl ⟨h.1, by omega⟩)

end Search

section Equal

variable {m : Matcher α} {alo ahi blo bhi : Nat}

/-- A recorded run of hit cells is a run of equal items, inside the windows but for its last
row. -/
theorem matches_runLen (hm : WellIndexed m) {i j : Nat} (hi : alo ≤ i)
    (hk : 0 < runLen m alo blo bhi i j) :
    Matches m.a m.b ⟨i + 1 - runLen m alo blo bhi i j, j + 1 - runLen m alo blo bhi i j,
        runLen m alo blo bhi i j⟩ ∧
      alo + runLen m alo blo bhi i j ≤ i + 1 ∧ blo + runLen m alo blo bhi i j ≤ j + 1 ∧
      j < bhi := by
  generalize hK : runLen m alo blo bhi i j = k at hk ⊢
  -- each cell of the run is hit, so its two items are the item of the row
  have hcell : ∀ t < k, m.a[i - t]? = m.b[j - t]? ∧ i - t < m.a.size ∧ j - t < m.b.size ∧
      blo ≤ j - t ∧ j - t < bhi ∧ t ≤ j ∧ alo + t ≤ i := by
    intro t ht
    obtain ⟨hh, htj, hti⟩ := hit_of_lt_runLen hi (hK ▸ ht)
    obtain ⟨hlo, hhi, x, hx, hj⟩ := hit_iff.mp hh
    have hb := hm.sound x _ hj
    exact ⟨hx.trans hb.symm, (Array.getElem?_eq_some_iff.mp hx).1,
      (Array.getElem?_eq_some_iff.mp hb).1, hlo, hhi, htj, hti⟩
  obtain ⟨-, ha0, hb0, -, hbhi, -, -⟩ := hcell 0 hk
  obtain ⟨-, -, -, hblo, -, hkj, hki⟩ := hcell (k - 1) (by omega)
  refine ⟨⟨?_, ?_, fun t ht => ?_⟩, by omega, by omega, by simpa using hbhi⟩
  · dsimp only
    omega
  · dsimp only
    omega
  · dsimp only at ht ⊢
    have := (hcell (k - 1 - t) (by omega)).1
    rwa [show i - (k - 1 - t) = i + 1 - k + t by omega,
      show j - (k - 1 - t) = j + 1 - k + t by omega] at this

/-- **The run the index finds** lies in the windows and is a run of equal items. -/
theorem indexed_within_matches (hm : WellIndexed m) (hw : Fits m.a m.b alo ahi blo bhi) :
    Within alo ahi blo bhi (m.indexed alo ahi blo bhi) ∧
      Matches m.a m.b (m.indexed alo ahi blo bhi) := by
  have hf : FirstLongest (runLen m alo blo bhi) ⟨alo, blo, 0⟩ (fun i _ => alo ≤ i ∧ i < ahi)
      (m.indexed alo ahi blo bhi) := indexed_firstLongest hm ahi
  obtain ⟨h1, h2, h3, h4⟩ := hw
  by_cases h0 : (m.indexed alo ahi blo bhi).size = 0
  · rw [hf.empty h0]
    exact ⟨⟨Nat.le_refl _, by simpa using h1, Nat.le_refl _, by simpa using h3⟩,
      matches_empty (by omega) (by omega)⟩
  · obtain ⟨i, j, ⟨hi, hia⟩, hL, hbest, -⟩ := hf.found (Nat.pos_of_ne_zero h0)
    obtain ⟨hmat, hl, hr, hj⟩ := matches_runLen (j := j) hm hi (by rw [hL]; omega)
    rw [hL] at hmat hl hr
    rw [hbest]
    exact ⟨⟨by dsimp only; omega, by dsimp only; omega, by dsimp only; omega,
      by dsimp only; omega⟩, hmat⟩

end Equal

/-! ## The longest run -/

section Longest

variable {m : Matcher α} {alo ahi blo bhi : Nat}

section Self

variable (hm : WellIndexed m) (hab : m.a = m.b)
  (hall : ∀ x j j', j ∈ m.index.getD x #[] → m.b[j']? = some x → j' ∈ m.index.getD x #[])
include hm hab hall

/-- Comparing a sequence with itself, a hit cell makes the cell on the diagonal at the smaller
of its row and column a hit too: both hold the same item, and the index lists all of its
positions or none. -/
theorem hit_min {lo hi i j : Nat} (hi' : lo ≤ i) (h : hit m lo hi i j = true) :
    hit m lo hi (min i j) (min i j) = true := by
  obtain ⟨hlo, hhi, x, hx, hj⟩ := hit_iff.mp h
  have hbj := hm.sound x j hj
  have hmin : m.a[min i j]? = some x := by
    rcases Nat.le_total i j with hij | hij
    · rwa [Nat.min_eq_left hij]
    · rw [Nat.min_eq_right hij, hab]
      exact hbj
  exact hit_iff.mpr ⟨by omega, by omega, x, hmin, hall x j _ hj (hab ▸ hmin)⟩

/-- Comparing a sequence with itself, no run is longer than the run on the diagonal at the
smaller of its row and column. -/
theorem runLen_le_runLen_min {lo hi : Nat} : ∀ (i j : Nat), lo ≤ i →
    runLen m lo lo hi i j ≤ runLen m lo lo hi (min i j) (min i j)
  | i, j, hi' => by
    rw [runLen_eq i j]
    split
    · next h =>
      rw [runLen_eq (min i j), if_pos (hit_min hm hab hall hi' h)]
      refine Nat.add_le_add_right ?_ 1
      split
      · next hij =>
        by_cases hdiag : lo < min i j ∧ 0 < min i j
        · rw [if_pos hdiag, show min i j - 1 = min (i - 1) (j - 1) by omega]
          exact runLen_le_runLen_min (i - 1) (j - 1) (by omega)
        · -- the run reaches back before column `lo`, where no cell is hit
          have hj : j - 1 < lo := by omega
          rw [runLen_of_hit_eq_false (Bool.eq_false_iff.mpr fun h' => by
            have := (hit_iff.mp h').1
            omega)]
          exact Nat.zero_le _
      · exact Nat.zero_le _
    · exact Nat.zero_le _
termination_by i => i
decreasing_by omega

/-- **Comparing a window of a sequence with the same window of itself, the index finds a run
on the diagonal.** Of a first longest run off the diagonal, the run at the same place on the
diagonal would be as long and come first. -/
theorem indexed_left_eq_right (lo hi : Nat) :
    (m.indexed lo hi lo hi).left = (m.indexed lo hi lo hi).right := by
  have hf : FirstLongest (runLen m lo lo hi) ⟨lo, lo, 0⟩ (fun i _ => lo ≤ i ∧ i < hi)
      (m.indexed lo hi lo hi) := indexed_firstLongest hm hi
  by_cases h0 : (m.indexed lo hi lo hi).size = 0
  · rw [hf.empty h0]
  · obtain ⟨i, j, ⟨hlo, hhi⟩, hL, hbest, hfirst⟩ := hf.found (Nat.pos_of_ne_zero h0)
    have hjlo := (hit_iff.mp (hit_of_runLen_pos (hL ▸ Nat.pos_of_ne_zero h0))).1
    have hle : runLen m lo lo hi i j ≤ runLen m lo lo hi (min i j) (min i j) :=
      runLen_le_runLen_min hm hab hall i j hlo
    have hij : i = j := by
      rcases Nat.lt_trichotomy i j with h | h | h
      · have := hfirst i i ⟨hlo, hhi⟩ (.inr ⟨rfl, h⟩)
        rw [Nat.min_eq_left (Nat.le_of_lt h)] at hle
        omega
      · exact h
      · have := hfirst j j ⟨hjlo, by omega⟩ (.inl h)
        rw [Nat.min_eq_right (Nat.le_of_lt h)] at hle
        omega
    rw [hbest, hij]

end Self

variable [LawfulBEq α]

/-- **The run `Matcher.longest` returns** lies in the windows and is a run of equal items: the
run the index finds, extended over equal items on both sides without leaving the windows. -/
theorem longest_within_matches (hm : WellIndexed m) (hw : Fits m.a m.b alo ahi blo bhi) :
    Within alo ahi blo bhi (m.longest alo ahi blo bhi) ∧
      Matches m.a m.b (m.longest alo ahi blo bhi) := by
  obtain ⟨⟨h1, h2, h3, h4⟩, hmat⟩ := indexed_within_matches hm hw
  unfold Matcher.longest
  dsimp only
  generalize m.indexed alo ahi blo bhi = c at h1 h2 h3 h4 hmat ⊢
  obtain ⟨hn, hback⟩ := matches_agreeBefore (min (c.left - alo) (c.right - blo)) (x := c)
    (by omega) (by omega) hmat
  generalize agreeBefore m.a m.b (min (c.left - alo) (c.right - blo)) c.left c.right = n
    at hn hback ⊢
  obtain ⟨hr, hmore⟩ := matches_agreeFrom
    (min (ahi - (c.left - n + (c.size + n))) (bhi - (c.right - n + (c.size + n)))) hback
  dsimp only at hr hmore ⊢
  generalize agreeFrom m.a m.b _ _ _ = r at hr hmore ⊢
  refine ⟨⟨?_, ?_, ?_, ?_⟩, hmore⟩ <;> dsimp only <;> omega


/-- **Comparing a window of a sequence with the same window of itself, the longest run is the
whole window.** -/
theorem longest_self [LawfulHashable α] {a : Array α} {lo hi : Nat} (hlo : lo ≤ hi)
    (hhi : hi ≤ a.size) : (Matcher.of a a).longest lo hi lo hi = ⟨lo, lo, hi - lo⟩ := by
  have hm := wellIndexed_of a a
  have hdiag := indexed_left_eq_right hm rfl (fun _ _ _ => mem_index_of_mem_index) lo hi
  obtain ⟨⟨h1, h2, -, -⟩, -⟩ := indexed_within_matches hm ⟨hlo, hhi, hlo, hhi⟩
  unfold Matcher.longest
  dsimp only
  generalize (Matcher.of a a).indexed lo hi lo hi = c at h1 h2 hdiag ⊢
  have ha : (Matcher.of a a).a = a := rfl
  have hb : (Matcher.of a a).b = a := rfl
  rw [ha, hb, ← hdiag, Nat.min_self, agreeBefore_self _ _ (Nat.sub_le _ _) (by omega),
    Nat.min_self, agreeFrom_self _ _ (by omega)]
  congr 1 <;> omega

end Longest

end Reindent.Proofs.LongestRun
