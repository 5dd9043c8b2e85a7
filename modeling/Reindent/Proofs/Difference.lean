import Reindent.Diff.Unified
import Reindent.Proofs.MatchingBlocks

/-! # When the unified difference is empty

The unified difference of two texts is empty exactly when they have the same lines
(`textDiff_eq_empty_iff`). The two directions rest on different facts.

* If the lines differ, some edit is not an `equal` edit: along the chain of matching blocks,
  edits that are all `equal` edits leave no gap between the blocks, so the blocks cover both
  sequences in step and the two agree item by item (`agree_of_editsFrom_equal`). An edit that is
  not `equal` always ends up in a hunk (`hunks_ne_nil`), and a hunk prints the two file headers.
* If the lines are the same, the matching blocks are the whole sequence and the empty block
  (`matching_self`), so the edits are at most one `equal` edit, which no hunk shows
  (`hunks_singleton_equal`).
-/

namespace Reindent.Proofs.Difference

open Reindent.Text Reindent.Diff Reindent.Proofs.LongestRun Reindent.Proofs.MatchingBlocks

/-! ## Edits along a chain -/

section Edits

variable {α : Type} {a b : Array α}

/-- Edits that are all `equal` edits leave no gap before a block that starts at or after
`(i, j)`. -/
theorem gap_closed {i j : Nat} {x : Block} {rest : List Block} (hi : i ≤ x.left)
    (hj : j ≤ x.right) (h : ∀ e ∈ editsFrom i j (x :: rest), e.tag = .equal) :
    x.left = i ∧ x.right = j := by
  rw [editsFrom] at h
  by_cases h1 : i < x.left <;> by_cases h2 : j < x.right
  · simpa [h1, h2] using h ⟨.replace, i, x.left, j, x.right⟩ (by simp [h1, h2])
  · simpa [h1, h2] using h ⟨.delete, i, x.left, j, x.right⟩ (by simp [h1, h2])
  · simpa [h1, h2] using h ⟨.insert, i, x.left, j, x.right⟩ (by simp [h1, h2])
  · omega

/-- **Along a chain of blocks, edits that are all `equal` edits make the two sequences agree**:
each block of the chain starts as far into the first sequence as into the second, and up to it
the two sequences agree item by item. -/
theorem agree_of_editsFrom_equal : ∀ (B : List Block) {i j : Nat}, Chain a b i j B →
    (∀ e ∈ editsFrom i j B, e.tag = .equal) →
    ∀ z ∈ B, z.left - i = z.right - j ∧ ∀ t < z.left - i, a[i + t]? = b[j + t]?
  | [], _, _, _, _, z, hz => absurd hz List.not_mem_nil
  | x :: rest, i, j, ⟨hi, hj, hx, hc⟩, h, z, hz => by
    obtain ⟨rfl, rfl⟩ := gap_closed hi hj h
    rcases List.mem_cons.mp hz with rfl | hz
    · exact ⟨by omega, fun t ht => absurd ht (by omega)⟩
    · -- past the block `x`, the rest of the chain takes over
      have hrest : ∀ e ∈ editsFrom (x.left + x.size) (x.right + x.size) rest, e.tag = .equal :=
        fun e he => h e (by rw [editsFrom]; exact List.mem_append_right _ he)
      obtain ⟨hd, hagree⟩ := agree_of_editsFrom_equal rest hc hrest z hz
      obtain ⟨hzl, hzr⟩ := hc.le_of_mem z hz
      refine ⟨by omega, fun t ht => ?_⟩
      by_cases htx : t < x.size
      · exact hx.2.2 t htx
      · have := hagree (t - x.size) (by omega)
        rwa [show x.left + x.size + (t - x.size) = x.left + t by omega,
          show x.right + x.size + (t - x.size) = x.right + t by omega] at this

end Edits

/-! ## Hunks -/

section Hunks

theorem mem_mapHead {f : Edit → Edit} {e : Edit} (hf : f e = e) :
    ∀ {l : List Edit}, e ∈ l → e ∈ mapHead f l
  | [], he => he
  | x :: rest, he => by
    rcases List.mem_cons.mp he with rfl | he
    · rw [mapHead, hf]
      exact List.mem_cons_self
    · exact List.mem_cons_of_mem _ he

theorem mem_mapLast {f : Edit → Edit} {e : Edit} (hf : f e = e) :
    ∀ {l : List Edit}, e ∈ l → e ∈ mapLast f l
  | [], he => he
  | [x], he => by
    obtain rfl := List.mem_singleton.mp he
    rw [mapLast, hf]
    exact List.mem_singleton_self _
  | x :: y :: rest, he => by
    change e ∈ x :: mapLast f (y :: rest)
    rcases List.mem_cons.mp he with rfl | he
    · exact List.mem_cons_self
    · exact List.mem_cons_of_mem _ (mem_mapLast hf he)

/-- Cutting down the `equal` edits at the ends keeps every other edit. -/
theorem mem_trimEnds (n : Nat) {es : List Edit} {e : Edit} (he : e ∈ es) (ht : e.tag ≠ .equal) :
    e ∈ trimEnds n es := by
  have hne : es.isEmpty = false := by
    cases es with
    | nil => exact absurd he List.not_mem_nil
    | cons _ _ => rfl
  simp only [trimEnds, hne]
  exact mem_mapLast (by simp [ht]) (mem_mapHead (by simp [ht]) he)

/-- The grouping has shown a change: a group is closed, or the open one holds an edit that is not
`equal`. -/
def ShowsChange (acc : List Edit × List (List Edit)) : Prop :=
  acc.2 ≠ [] ∨ ∃ e ∈ acc.1, e.tag ≠ .equal

theorem ShowsChange.step {n : Nat} {acc : List Edit × List (List Edit)} (h : ShowsChange acc)
    (e : Edit) : ShowsChange (groupStep n acc e) := by
  unfold groupStep
  split
  · exact .inl (by simp)
  · rcases h with h | ⟨e', he', ht⟩
    · exact .inl h
    · exact .inr ⟨e', List.mem_append_left _ he', ht⟩

theorem showsChange_groupStep_of_ne {n : Nat} (acc : List Edit × List (List Edit)) {e : Edit}
    (ht : e.tag ≠ .equal) : ShowsChange (groupStep n acc e) := by
  unfold groupStep
  rw [if_neg (fun h => ht h.1)]
  exact .inr ⟨e, List.mem_append_right _ List.mem_cons_self, ht⟩

/-- **An edit that is not `equal` is never lost by the grouping.** -/
theorem showsChange_foldl_groupStep (n : Nat) :
    ∀ (l : List Edit) (acc : List Edit × List (List Edit)),
      (ShowsChange acc ∨ ∃ e ∈ l, e.tag ≠ .equal) → ShowsChange (l.foldl (groupStep n) acc)
  | [], _, h => h.resolve_right (by simp)
  | x :: l, acc, h => by
    rw [List.foldl_cons]
    refine showsChange_foldl_groupStep n l _ ?_
    rcases h with h | ⟨e, he, ht⟩
    · exact .inl (h.step x)
    · rcases List.mem_cons.mp he with rfl | he
      · exact .inl (showsChange_groupStep_of_ne acc ht)
      · exact .inr ⟨e, he, ht⟩

theorem showsChange_of_mem {g : List Edit} {e : Edit} (he : e ∈ g) (ht : e.tag ≠ .equal) :
    showsChange g = true := by
  match g, he with
  | [x], he =>
    obtain rfl := List.mem_singleton.mp he
    simpa [showsChange] using ht
  | _ :: _ :: _, _ => rfl

/-- **Every edit that is not `equal` makes a hunk.** -/
theorem hunks_ne_nil (n : Nat) {es : List Edit} {e : Edit} (he : e ∈ es) (ht : e.tag ≠ .equal) :
    hunks n es ≠ [] := by
  have h := showsChange_foldl_groupStep n (trimEnds n es) ([], [])
    (.inr ⟨e, mem_trimEnds n he ht, ht⟩)
  unfold hunks
  dsimp only
  split
  · simp
  · next hshow =>
    rcases h with h | ⟨e', he', ht'⟩
    · exact h
    · exact absurd (showsChange_of_mem he' ht') hshow

-- Changes more than twice `n` items apart make a hunk each, with at most `n` items around them.
example :
    hunks 3 [⟨.equal, 0, 5, 0, 5⟩, ⟨.replace, 5, 6, 5, 6⟩, ⟨.equal, 6, 14, 6, 14⟩,
        ⟨.delete, 14, 15, 14, 14⟩] =
      [[⟨.equal, 2, 5, 2, 5⟩, ⟨.replace, 5, 6, 5, 6⟩, ⟨.equal, 6, 9, 6, 9⟩],
        [⟨.equal, 11, 14, 11, 14⟩, ⟨.delete, 14, 15, 14, 14⟩]] := by
  decide

/-- A single `equal` edit is cut down to at most `n` items at each end, so it shows no change and
makes no hunk. -/
theorem hunks_singleton_equal (n : Nat) {e : Edit} (h : e.tag = .equal) : hunks n [e] = [] := by
  have htrim : trimEnds n [e] = [(e.keepLast n).keepFirst n] := by
    simp [trimEnds, mapHead, mapLast, h, Edit.keepLast]
  have htag : ((e.keepLast n).keepFirst n).tag = .equal := h
  -- cut down at both ends, the edit keeps at most `n` items
  have hshort : ((e.keepLast n).keepFirst n).aStop - ((e.keepLast n).keepFirst n).aStart ≤ n := by
    simp only [Edit.keepFirst, Edit.keepLast]
    omega
  simp only [hunks, htrim, List.foldl_cons, List.foldl_nil]
  generalize (e.keepLast n).keepFirst n = e' at htag hshort
  rw [groupStep, if_neg (show ¬ (e'.tag = .equal ∧ 2 * n < e'.aStop - e'.aStart) from
    fun hbig => absurd hbig.2 (by omega))]
  simp [showsChange, htag]

/-- No edits make no hunk: the grouping reads an empty list as the one `equal` edit
`(0, 1, 0, 1)`. -/
theorem hunks_nil (n : Nat) : hunks n [] = [] :=
  hunks_singleton_equal n (e := ⟨.equal, 0, 1, 0, 1⟩) rfl

end Hunks

/-! ## The hunks of two sequences -/

section Sequences

variable {α : Type} [BEq α] [Hashable α] [LawfulBEq α] [LawfulHashable α]

/-- **Two sequences whose edits make no hunk are equal.** Every edit is then an `equal` edit, so
along the chain of matching blocks the two agree up to the empty block at their ends. -/
theorem eq_of_hunks_eq_nil {a b : Array α} (n : Nat)
    (h : hunks n (edits (Matcher.of a b).matching) = []) : a = b := by
  have hequal : ∀ e ∈ edits (Matcher.of a b).matching, e.tag = .equal := by
    intro e he
    by_contra ht
    exact hunks_ne_nil n he ht h
  obtain ⟨hchain, hlast⟩ := matching_chain (wellIndexed_of a b)
  obtain ⟨hsize, hagree⟩ := agree_of_editsFrom_equal _ hchain hequal _ hlast
  have hsize' : a.size = b.size := by simpa [Matcher.of] using hsize
  refine Array.ext_getElem? fun t => ?_
  by_cases ht : t < a.size
  · simpa [Matcher.of] using hagree t (by simpa [Matcher.of] using ht)
  · rw [Array.getElem?_eq_none (by omega), Array.getElem?_eq_none (by omega)]

/-- **A sequence compared with itself makes no hunk**: its edits are a single `equal` edit, or
none. -/
theorem hunks_self (a : Array α) (n : Nat) : hunks n (edits (Matcher.of a a).matching) = [] := by
  rw [matching_self]
  split
  · next h =>
    have hedits : edits [⟨0, 0, a.size⟩, ⟨a.size, a.size, 0⟩] =
        [⟨.equal, 0, a.size, 0, a.size⟩] := by
      simp [edits, editsFrom, Nat.ne_of_gt h]
    rw [hedits]
    exact hunks_singleton_equal n rfl
  · exact hunks_nil n

end Sequences

/-! ## The difference of two texts -/

/-- The lines of two texts are equal as strings exactly when they are equal as characters. -/
theorem textLines_eq_iff (s t : String) :
    textLines s = textLines t ↔ splitLines s.toList = splitLines t.toList := by
  constructor
  · intro h
    have := congrArg (fun ls : Array String => ls.toList.map String.toList) h
    simpa [textLines] using this
  · intro h
    rw [textLines, textLines, h]

/-- The difference of two texts is empty exactly when their lines make no hunk: any hunk brings
the two file headers with it. -/
theorem textDiff_eq_empty_iff_hunks (expected got : String) :
    textDiff expected got = "" ↔
      hunks 3 (edits (Matcher.of (textLines expected) (textLines got)).matching) = [] := by
  unfold textDiff unifiedLines
  split
  · next h => simp [h]
  · next hs h =>
    refine ⟨fun hd => ?_, fun hn => absurd hn h⟩
    have := congrArg String.length hd
    simp at this

/-- **The unified difference of two texts is empty exactly when they have the same lines**, the
line breaks left out. A request without the second text compares with the empty text, the case
`got = ""`. -/
theorem textDiff_eq_empty_iff (expected got : String) :
    textDiff expected got = "" ↔ splitLines expected.toList = splitLines got.toList := by
  rw [textDiff_eq_empty_iff_hunks, ← textLines_eq_iff]
  constructor
  · exact eq_of_hunks_eq_nil 3
  · intro h
    rw [h]
    exact hunks_self _ 3

end Reindent.Proofs.Difference
