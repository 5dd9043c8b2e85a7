import Reindent.Text.Search

/-! # Searching text, one character at a time

`cutFrom` carries the piece being read in reverse and the pieces found so far. With both taken
out (`cutFrom_toList`), cutting and replacing read as the scan from the left that they are:

* `cutAt_cons`: the pieces of `c :: cs` are those after the occurrence that starts at `c`, behind
  an empty piece, or else those of `cs` with `c` put in front of the first;
* `replaceAll_cons`: at an occurrence, the replacement is written and the scan goes on after the
  occurrence; elsewhere the character is kept and the scan goes on with the next one;
* `replaceAll_of_occursIn_eq_false`: a text in which the pattern does not occur is kept as it is;
* `occursIn_eq_true_iff`, `infix_of_mem_cutAt`: the pattern occurs where it is a piece of the
  text, and every piece that cutting leaves is a piece of the text.
-/

namespace Reindent.Proofs.Search

open Reindent.Text

variable (p : Pattern)

/-- The accumulators of `cutFrom`: the pieces found go in front, the piece being read goes in
front of the first piece of the rest. -/
theorem cutFrom_toList (piece : List Char) (done : Array (List Char)) : (s : List Char) →
    (cutFrom p piece done s).toList =
      done.toList ++ (cutFrom p [] #[] s).toList.modifyHead (piece.reverse ++ ·)
  | [] => by simp [cutFrom]
  | c :: cs => by
    rw [cutFrom, cutFrom]
    split
    · simp only [List.reverse_nil]
      rw [cutFrom_toList [] (done.push piece.reverse), cutFrom_toList [] (#[].push [])]
      simp
    · rw [cutFrom_toList (c :: piece) done cs, cutFrom_toList [c] #[] cs]
      simp [List.modifyHead_modifyHead, Function.comp_def]
termination_by s => s.length
decreasing_by
  all_goals first
    | exact length_drop_lt p c cs
    | simp

@[simp] theorem cutAt_nil : cutAt p [] = [[]] := by
  simp [cutAt, cutFrom]

theorem cutAt_cons (c : Char) (cs : List Char) :
    cutAt p (c :: cs) =
      if p.toList.isPrefixOf (c :: cs) then [] :: cutAt p ((c :: cs).drop p.toList.length)
      else (cutAt p cs).modifyHead (c :: ·) := by
  unfold cutAt
  rw [cutFrom]
  split
  · rw [cutFrom_toList]
    cases (cutFrom p [] #[] ((c :: cs).drop p.toList.length)).toList <;> simp
  · rw [cutFrom_toList]
    simp

theorem cutAt_ne_nil : (s : List Char) → cutAt p s ≠ []
  | [] => by simp
  | c :: cs => by
    rw [cutAt_cons]
    split
    · simp
    · have := cutAt_ne_nil cs
      cases h : cutAt p cs with
      | nil => exact absurd h this
      | cons x xs => simp
termination_by s => s.length
decreasing_by
  all_goals first
    | exact length_drop_lt p c cs
    | simp

/-- Where the pattern does not start, the first piece grows by the character and the others stay. -/
theorem cutAt_cons_of_isPrefixOf_eq_false {c : Char} {cs : List Char}
    (h : p.toList.isPrefixOf (c :: cs) = false) :
    ∃ x xs, cutAt p cs = x :: xs ∧ cutAt p (c :: cs) = (c :: x) :: xs := by
  obtain ⟨x, xs, hcs⟩ := List.exists_cons_of_ne_nil (cutAt_ne_nil p cs)
  refine ⟨x, xs, hcs, ?_⟩
  rw [cutAt_cons, if_neg (by simp [h]), hcs, List.modifyHead_cons]

theorem occursIn_cons (c : Char) (cs : List Char) :
    occursIn p (c :: cs) = (p.toList.isPrefixOf (c :: cs) || occursIn p cs) := rfl

theorem occursIn_of_cons {c : Char} {cs : List Char} (h : occursIn p cs = true) :
    occursIn p (c :: cs) = true := by
  rw [occursIn_cons, h, Bool.or_true]

theorem occursIn_eq_false_of_cons {c : Char} {cs : List Char} (h : occursIn p (c :: cs) = false) :
    occursIn p cs = false := by
  rw [occursIn_cons, Bool.or_eq_false_iff] at h
  exact h.2

/-- The pattern occurs in a text exactly when it is a piece of it. -/
theorem occursIn_eq_true_iff : (s : List Char) → (occursIn p s = true ↔ p.toList <:+: s)
  | [] => by simp [occursIn, Pattern.toList]
  | c :: cs => by
    rw [occursIn, Bool.or_eq_true, occursIn_eq_true_iff cs, List.infix_cons_iff,
      List.isPrefixOf_iff_prefix]

/-- Every piece between the occurrences is a piece of the text, and the first is where the text
starts. -/
theorem infix_of_mem_cutAt : (s : List Char) →
    (∀ x ∈ cutAt p s, x <:+: s) ∧ ∀ x ∈ (cutAt p s).head?, x <+: s
  | [] => by simp
  | c :: cs => by
    rw [cutAt_cons]
    split
    · have ih := infix_of_mem_cutAt ((c :: cs).drop p.toList.length)
      refine ⟨fun x hx => ?_, fun x hx => ?_⟩
      · rcases List.mem_cons.mp hx with rfl | hx
        · exact List.nil_infix
        · exact (ih.1 x hx).trans (List.drop_suffix _ _).isInfix
      · obtain rfl : [] = x := by simpa using hx
        exact List.nil_prefix
    · have ih := infix_of_mem_cutAt cs
      obtain ⟨h, hs, hcs⟩ := List.exists_cons_of_ne_nil (cutAt_ne_nil p cs)
      rw [hcs] at ih ⊢
      rw [List.modifyHead_cons]
      -- the first piece grows by `c` at its front, the others stay pieces of `cs`
      have hh : c :: h <+: c :: cs := List.cons_prefix_cons.mpr ⟨rfl, ih.2 h rfl⟩
      refine ⟨fun x hx => ?_, fun x hx => ?_⟩
      · rcases List.mem_cons.mp hx with rfl | hx
        · exact hh.isInfix
        · exact (ih.1 x (List.mem_cons_of_mem _ hx)).trans (List.suffix_cons c cs).isInfix
      · obtain rfl : c :: h = x := by simpa using hx
        exact hh
termination_by s => s.length
decreasing_by
  all_goals first
    | exact length_drop_lt p c cs
    | simp

/-- A text in which the pattern does not occur is one piece. -/
theorem cutAt_of_occursIn_eq_false : (s : List Char) → occursIn p s = false → cutAt p s = [s]
  | [] => fun _ => cutAt_nil p
  | c :: cs => by
    intro h
    simp only [occursIn, Bool.or_eq_false_iff] at h
    rw [cutAt_cons, if_neg (by simp [h.1]), cutAt_of_occursIn_eq_false cs h.2, List.modifyHead_cons]

variable (r : List Char)

@[simp] theorem replaceAll_nil : replaceAll p r [] = [] := by
  simp [replaceAll]

/-- One step of the scan that replaces. -/
theorem replaceAll_cons (c : Char) (cs : List Char) :
    replaceAll p r (c :: cs) =
      if p.toList.isPrefixOf (c :: cs) then r ++ replaceAll p r ((c :: cs).drop p.toList.length)
      else c :: replaceAll p r cs := by
  unfold replaceAll
  rw [cutAt_cons]
  split
  · rw [List.intercalate_cons_of_ne_nil (cutAt_ne_nil p _)]
    simp
  · obtain ⟨x, xs, hx⟩ := List.exists_cons_of_ne_nil (cutAt_ne_nil p cs)
    rw [hx]
    simp

/-- The scan keeps a character at which the pattern does not start. -/
theorem replaceAll_cons_of_isPrefixOf_eq_false {c : Char} {cs : List Char}
    (h : p.toList.isPrefixOf (c :: cs) = false) :
    replaceAll p r (c :: cs) = c :: replaceAll p r cs := by
  rw [replaceAll_cons, if_neg (by simp [h])]

theorem replaceAll_of_occursIn_eq_false : (s : List Char) → occursIn p s = false →
    replaceAll p r s = s
  | [] => fun _ => replaceAll_nil p r
  | c :: cs => by
    intro h
    simp only [occursIn, Bool.or_eq_false_iff] at h
    rw [replaceAll_cons_of_isPrefixOf_eq_false p r h.1, replaceAll_of_occursIn_eq_false cs h.2]

/-- A pattern with a character that the text lacks does not occur in it. -/
theorem occursIn_eq_false_of_not_mem {x : Char} (hx : x ∈ p.toList) :
    (s : List Char) → x ∉ s → occursIn p s = false
  | [] => fun _ => rfl
  | c :: cs => by
    intro h
    have hpre : p.toList.isPrefixOf (c :: cs) = false := by
      rw [Bool.eq_false_iff]
      intro hp
      have hpre' := List.isPrefixOf_iff_prefix.mp hp
      exact h (hpre'.subset hx)
    simp only [occursIn, hpre, Bool.false_or]
    exact occursIn_eq_false_of_not_mem hx cs (fun hm => h (List.mem_cons_of_mem _ hm))

/-- A stretch without the first character of the pattern is kept, and the scan goes on after it. -/
theorem replaceAll_append_of_head_not_mem {l : List Char} (hl : p.head ∉ l) (s : List Char) :
    replaceAll p r (l ++ s) = l ++ replaceAll p r s := by
  induction l with
  | nil => rfl
  | cons c l ih =>
    have hc : p.head ≠ c := fun he => hl (he ▸ List.mem_cons_self)
    rw [List.cons_append, replaceAll_cons_of_isPrefixOf_eq_false p r (by
      simp [Pattern.toList, List.isPrefixOf, hc]), ih (fun hm => hl (List.mem_cons_of_mem _ hm))]
    rfl

end Reindent.Proofs.Search
