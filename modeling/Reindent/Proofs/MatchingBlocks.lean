import Reindent.Proofs.LongestRun

/-! # Matching blocks

`Matcher.blocks` takes the longest run in a pair of windows and goes on in the windows before it
and after it; `Matcher.matching` joins blocks that touch and ends with an empty block at the ends
of both sequences. The blocks form a *chain* (`Chain`): from the start of both sequences, each
block starts at or after the end of the one before, in both sequences, and is a run of equal
items.

* `blocks_chain`: the blocks of a pair of windows form a chain from the start of the windows
  and end inside them;
* `collapseFrom_chain`: joining touching blocks keeps a chain;
* `matching_chain`: so the matching blocks form a chain from the start of both sequences, and
  the last one is the empty block at their ends;
* `matching_self`: a sequence compared with itself has one block, the whole sequence, before
  that empty block.
-/

namespace Reindent.Proofs.MatchingBlocks

open Reindent.Diff Reindent.Proofs.LongestRun

variable {α : Type}

/-- Blocks that follow one another from `(i, j)` on: each starts at or after the end of the one
before it in both sequences, and each is a run of equal items. -/
def Chain (a b : Array α) : Nat → Nat → List Block → Prop
  | _, _, [] => True
  | i, j, x :: rest =>
    i ≤ x.left ∧ j ≤ x.right ∧ Matches a b x ∧
      Chain a b (x.left + x.size) (x.right + x.size) rest

section Chain

variable {a b : Array α}

@[simp] theorem chain_nil (i j : Nat) : Chain a b i j [] := trivial

@[simp] theorem chain_cons {i j : Nat} {x : Block} {rest : List Block} :
    Chain a b i j (x :: rest) ↔
      i ≤ x.left ∧ j ≤ x.right ∧ Matches a b x ∧
        Chain a b (x.left + x.size) (x.right + x.size) rest :=
  Iff.rfl

/-- A chain from a point is a chain from any point before it. -/
theorem Chain.mono : ∀ {B : List Block} {i j i' j' : Nat}, Chain a b i j B → i' ≤ i →
    j' ≤ j → Chain a b i' j' B
  | [], _, _, _, _, _, _, _ => trivial
  | _ :: _, _, _, _, _, ⟨hl, hr, hx, hc⟩, hi, hj => ⟨by omega, by omega, hx, hc⟩

/-- Every block of a chain starts at or after its start. -/
theorem Chain.le_of_mem : ∀ {B : List Block} {i j : Nat}, Chain a b i j B → ∀ x ∈ B,
    i ≤ x.left ∧ j ≤ x.right
  | [], _, _, _, _, hx => absurd hx List.not_mem_nil
  | y :: rest, _, _, ⟨hl, hr, _, hc⟩, x, hx => by
    rcases List.mem_cons.mp hx with rfl | hx
    · exact ⟨hl, hr⟩
    · have := Chain.le_of_mem hc x hx
      omega

/-- A chain that ends by `(i', j')`, followed by a chain from there, is a chain. -/
theorem Chain.append : ∀ {A : List Block} {B : List Block} {i j i' j' : Nat}, Chain a b i j A →
    (∀ x ∈ A, x.left + x.size ≤ i' ∧ x.right + x.size ≤ j') → i ≤ i' → j ≤ j' →
    Chain a b i' j' B → Chain a b i j (A ++ B)
  | [], _, _, _, _, _, _, _, hi, hj, hB => hB.mono hi hj
  | x :: A, _, _, _, _, _, ⟨hl, hr, hx, hc⟩, hend, _, _, hB => by
    have hx' := hend x List.mem_cons_self
    exact ⟨hl, hr, hx,
      hc.append (fun y hy => hend y (List.mem_cons_of_mem _ hy)) hx'.1 hx'.2 hB⟩

/-- **Joining touching blocks keeps a chain.** -/
theorem collapseFrom_chain : ∀ (B : List Block) {cur : Block} {i j : Nat},
    Chain a b i j (cur :: B) → Chain a b i j (collapseFrom cur B)
  | [], cur, i, j, h => by
    rw [collapseFrom]
    split
    · trivial
    · exact h
  | x :: rest, cur, i, j, ⟨hl, hr, hcur, hx, hxr, hxm, hrest⟩ => by
    rw [collapseFrom]
    split
    · next htouch =>
      -- the joined block ends where `x` ends
      refine collapseFrom_chain rest ⟨hl, hr, Matches.join hcur hxm htouch.1 htouch.2, ?_⟩
      dsimp only
      rwa [← Nat.add_assoc, ← Nat.add_assoc, htouch.1, htouch.2]
    · split
      · exact collapseFrom_chain rest ((chain_cons.mpr ⟨hx, hxr, hxm, hrest⟩).mono
          (by omega) (by omega))
      · exact ⟨hl, hr, hcur, collapseFrom_chain rest ⟨hx, hxr, hxm, hrest⟩⟩

/-- Joining blocks never moves where a block ends past where the blocks end. -/
theorem end_le_of_mem_collapseFrom {I J : Nat} : ∀ (B : List Block) (cur : Block),
    (∀ z ∈ cur :: B, z.left + z.size ≤ I ∧ z.right + z.size ≤ J) →
    ∀ y ∈ collapseFrom cur B, y.left + y.size ≤ I ∧ y.right + y.size ≤ J
  | [], cur, h, y, hy => by
    rw [collapseFrom] at hy
    split at hy
    · simp at hy
    · rw [List.mem_singleton.mp hy]
      exact h cur List.mem_cons_self
  | x :: rest, cur, h, y, hy => by
    have hx := h x (List.mem_cons_of_mem _ List.mem_cons_self)
    have hrest : ∀ z ∈ rest, z.left + z.size ≤ I ∧ z.right + z.size ≤ J := fun z hz =>
      h z (List.mem_cons_of_mem _ (List.mem_cons_of_mem _ hz))
    rw [collapseFrom] at hy
    split at hy
    · next htouch =>
      refine end_le_of_mem_collapseFrom rest _ (fun z hz => ?_) y hy
      rcases List.mem_cons.mp hz with rfl | hz
      · dsimp only
        omega
      · exact hrest z hz
    · have hxs : ∀ z ∈ x :: rest, z.left + z.size ≤ I ∧ z.right + z.size ≤ J :=
        fun z hz => h z (List.mem_cons_of_mem _ hz)
      rcases List.mem_append.mp hy with hy | hy
      · split at hy
        · simp at hy
        · rw [List.mem_singleton.mp hy]
          exact h cur List.mem_cons_self
      · exact end_le_of_mem_collapseFrom rest x hxs y hy

end Chain

/-! ## The blocks of a pair of windows -/

variable [BEq α] [Hashable α] [LawfulBEq α] {m : Matcher α}

/-- **The blocks of a pair of windows** form a chain from the start of the windows and end
inside them. -/
theorem blocks_chain (hm : WellIndexed m) (alo ahi blo bhi : Nat)
    (hw : Fits m.a m.b alo ahi blo bhi) :
    Chain m.a m.b alo blo (m.blocks alo ahi blo bhi) ∧
      ∀ x ∈ m.blocks alo ahi blo bhi, x.left + x.size ≤ ahi ∧ x.right + x.size ≤ bhi := by
  obtain ⟨⟨w1, w2, w3, w4⟩, hmat⟩ := longest_within_matches hm hw
  obtain ⟨f1, f2, f3, f4⟩ := hw
  rw [Matcher.blocks]
  split
  · next i j k hlong =>
    rw [hlong] at w1 w2 w3 w4 hmat
    dsimp only at w1 w2 w3 w4
    split
    · -- the blocks before the run, the run, and the blocks after it
      have hleft : Chain m.a m.b alo blo
            (if alo < i ∧ blo < j then m.blocks alo i blo j else []) ∧
          ∀ x ∈ (if alo < i ∧ blo < j then m.blocks alo i blo j else []),
            x.left + x.size ≤ i ∧ x.right + x.size ≤ j := by
        split
        · exact blocks_chain hm alo i blo j ⟨by omega, by omega, by omega, by omega⟩
        · simp
      have hright : Chain m.a m.b (i + k) (j + k)
            (if i + k < ahi ∧ j + k < bhi then m.blocks (i + k) ahi (j + k) bhi else []) ∧
          ∀ x ∈ (if i + k < ahi ∧ j + k < bhi then m.blocks (i + k) ahi (j + k) bhi else []),
            x.left + x.size ≤ ahi ∧ x.right + x.size ≤ bhi := by
        split
        · exact blocks_chain hm (i + k) ahi (j + k) bhi
            ⟨by omega, by omega, by omega, by omega⟩
        · simp
      refine ⟨hleft.1.append hleft.2 w1 w3 ⟨Nat.le_refl i, Nat.le_refl j, hmat, hright.1⟩,
        fun x hx => ?_⟩
      rcases List.mem_append.mp hx with hx | hx
      · have := hleft.2 x hx
        omega
      · rcases List.mem_cons.mp hx with rfl | hx
        · exact ⟨w2, w4⟩
        · exact hright.2 x hx
    · simp
termination_by ahi - alo
decreasing_by all_goals omega

/-- **The matching blocks of two sequences** form a chain from the start of both, and the empty
block at the ends of both is one of them. -/
theorem matching_chain (hm : WellIndexed m) :
    Chain m.a m.b 0 0 m.matching ∧ (⟨m.a.size, m.b.size, 0⟩ : Block) ∈ m.matching := by
  obtain ⟨hc, hend⟩ := blocks_chain hm 0 m.a.size 0 m.b.size
    ⟨Nat.zero_le _, Nat.le_refl _, Nat.zero_le _, Nat.le_refl _⟩
  have hstart : Chain m.a m.b 0 0 (⟨0, 0, 0⟩ :: m.blocks 0 m.a.size 0 m.b.size) :=
    ⟨Nat.le_refl 0, Nat.le_refl 0, matches_empty (Nat.zero_le _) (Nat.zero_le _),
      by simpa using hc⟩
  have hends := end_le_of_mem_collapseFrom (m.blocks 0 m.a.size 0 m.b.size) ⟨0, 0, 0⟩
    fun z hz => by
      rcases List.mem_cons.mp hz with rfl | hz
      · simp
      · exact hend z hz
  have hlast : Chain m.a m.b m.a.size m.b.size [⟨m.a.size, m.b.size, 0⟩] :=
    ⟨Nat.le_refl _, Nat.le_refl _, matches_empty (Nat.le_refl _) (Nat.le_refl _), trivial⟩
  refine ⟨(collapseFrom_chain _ hstart).append hends (Nat.zero_le _) (Nat.zero_le _) hlast, ?_⟩
  exact List.mem_append_right _ List.mem_cons_self

section Self

variable [LawfulHashable α] {a : Array α}

/-- Comparing a window of a sequence with the same window of itself gives one block, the whole
window, unless the window is empty. -/
theorem blocks_self {lo hi : Nat} (hlo : lo ≤ hi) (hhi : hi ≤ a.size) :
    (Matcher.of a a).blocks lo hi lo hi = if lo < hi then [⟨lo, lo, hi - lo⟩] else [] := by
  rw [Matcher.blocks, longest_self hlo hhi]
  dsimp only
  by_cases h : lo < hi
  · rw [dif_pos ⟨by omega, Nat.le_refl lo, by omega⟩, if_neg (by omega), if_neg (by omega),
      if_pos h]
    rfl
  · rw [dif_neg (by omega), if_neg h]

/-- **A sequence compared with itself** has one matching block, the whole sequence, before the
empty block at its end. -/
theorem matching_self :
    (Matcher.of a a).matching =
      if 0 < a.size then [⟨0, 0, a.size⟩, ⟨a.size, a.size, 0⟩] else [⟨0, 0, 0⟩] := by
  show collapseFrom ⟨0, 0, 0⟩ ((Matcher.of a a).blocks 0 a.size 0 a.size) ++
    [⟨a.size, a.size, 0⟩] = _
  rw [blocks_self (Nat.zero_le _) (Nat.le_refl _)]
  by_cases h : 0 < a.size
  · simp [h, collapseFrom, Nat.ne_of_gt h]
  · simp [collapseFrom, Array.size_eq_zero_iff.mp (Nat.eq_zero_of_not_pos h)]

end Self

end Reindent.Proofs.MatchingBlocks
