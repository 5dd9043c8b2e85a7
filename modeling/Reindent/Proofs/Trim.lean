import Reindent.Text.Blank

/-! # Trimmed lines

A line is *trimmed* when it neither starts nor ends with a blank character. Trimming cuts a line
into a blank front, a trimmed middle and a blank back (`eq_append_trim_append`), and any such cut
has the trimmed line as its middle (`trim_append_append`). Everything else about trimming follows
from these two facts:

* blanks put in front of a line do not change its trimmed form (`trim_blank_append`);
* trimming the back first changes nothing (`trim_trimRight`);
* trimmed lines stay trimmed when put one after another (`Trimmed.append`).
-/

namespace Reindent.Proofs.Trim

open Reindent.Text

/-- The line neither starts nor ends with a blank character. -/
def Trimmed (l : List Char) : Prop :=
  (∀ c ∈ l.head?, isBlank c = false) ∧ ∀ c ∈ l.getLast?, isBlank c = false

/-- Every character of the line is blank. -/
def AllBlank (l : List Char) : Prop := ∀ c ∈ l, isBlank c = true

@[simp] theorem trimmed_nil : Trimmed [] := by simp [Trimmed]

@[simp] theorem allBlank_nil : AllBlank [] := by simp [AllBlank]

@[simp] theorem allBlank_append {l m : List Char} : AllBlank (l ++ m) ↔ AllBlank l ∧ AllBlank m := by
  simp only [AllBlank, List.mem_append]
  constructor
  · intro h
    exact ⟨fun c hc => h c (.inl hc), fun c hc => h c (.inr hc)⟩
  · rintro ⟨hl, hm⟩ c (hc | hc)
    · exact hl c hc
    · exact hm c hc

theorem allBlank_replicate_space (n : Nat) : AllBlank (List.replicate n ' ') := by
  intro c hc
  rw [List.eq_of_mem_replicate hc]
  decide

theorem Trimmed.append {l m : List Char} (hl : Trimmed l) (hm : Trimmed m) : Trimmed (l ++ m) := by
  constructor
  · intro c hc
    rw [List.head?_append] at hc
    cases h : l.head? with
    | none => rw [h, Option.none_or] at hc; exact hm.1 c hc
    | some x => rw [h, Option.some_or] at hc; exact hl.1 c (h ▸ hc)
  · intro c hc
    rw [List.getLast?_append] at hc
    cases h : m.getLast? with
    | none => rw [h, Option.none_or] at hc; exact hl.2 c hc
    | some x => rw [h, Option.some_or] at hc; exact hm.2 c (h ▸ hc)

/-! ### The cut made by trimming -/

theorem eq_takeWhile_append_trimLeft (l : List Char) :
    AllBlank (l.takeWhile isBlank) ∧ l = l.takeWhile isBlank ++ trimLeft l := by
  refine ⟨fun c hc => ?_, (List.takeWhile_append_dropWhile).symm⟩
  induction l with
  | nil => simp at hc
  | cons x xs ih =>
    rw [List.takeWhile_cons] at hc
    split at hc
    · rcases List.mem_cons.mp hc with rfl | hc
      · assumption
      · exact ih hc
    · simp at hc

theorem eq_trimRight_append (l : List Char) :
    ∃ post, AllBlank post ∧ l = trimRight l ++ post := by
  obtain ⟨hb, he⟩ := eq_takeWhile_append_trimLeft l.reverse
  refine ⟨(l.reverse.takeWhile isBlank).reverse, fun c hc => hb c (List.mem_reverse.mp hc), ?_⟩
  rw [trimRight, ← List.reverse_append, ← trimLeft, ← he, List.reverse_reverse]

theorem isBlank_head_trimLeft (l : List Char) : ∀ c ∈ (trimLeft l).head?, isBlank c = false := by
  intro c hc
  have := List.head?_dropWhile_not isBlank l
  rw [trimLeft] at hc
  rw [hc] at this
  exact this

theorem isBlank_getLast_trimRight (l : List Char) :
    ∀ c ∈ (trimRight l).getLast?, isBlank c = false := by
  intro c hc
  rw [trimRight, List.getLast?_reverse] at hc
  exact isBlank_head_trimLeft l.reverse c hc

theorem trimRight_append_of_allBlank {m post : List Char}
    (hm : ∀ c ∈ m.getLast?, isBlank c = false) (hp : AllBlank post) :
    trimRight (m ++ post) = m := by
  rw [trimRight, List.reverse_append, List.dropWhile_append_of_pos (fun c hc =>
    hp c (List.mem_reverse.mp hc))]
  cases h : m.reverse with
  | nil => simp_all
  | cons x xs =>
    have hx : isBlank x = false := hm x (by rw [← List.head?_reverse, h]; rfl)
    rw [List.dropWhile_cons_of_neg (by simp [hx]), ← h, List.reverse_reverse]

theorem trimRight_of_getLast {m : List Char} (hm : ∀ c ∈ m.getLast?, isBlank c = false) :
    trimRight m = m := by
  simpa using trimRight_append_of_allBlank hm allBlank_nil

theorem trimmed_trim (l : List Char) : Trimmed (trim l) := by
  refine ⟨fun c hc => ?_, isBlank_getLast_trimRight _⟩
  -- the back is cut from a line whose first character is not blank, so that character stays
  obtain ⟨post, _, he⟩ := eq_trimRight_append (trimLeft l)
  have hne : trimRight (trimLeft l) ≠ [] := by
    rintro h
    rw [trim, h] at hc
    simp at hc
  obtain ⟨x, xs, hx⟩ := List.exists_cons_of_ne_nil hne
  have : (trimLeft l).head? = some x := by rw [he, hx]; rfl
  rw [trim, hx] at hc
  obtain rfl : x = c := Option.some.inj hc
  exact isBlank_head_trimLeft l x this

/-- Trimming cuts a line into a blank front, a trimmed middle and a blank back. -/
theorem eq_append_trim_append (l : List Char) :
    ∃ pre post, AllBlank pre ∧ AllBlank post ∧ l = pre ++ trim l ++ post := by
  obtain ⟨hb, he⟩ := eq_takeWhile_append_trimLeft l
  obtain ⟨post, hp, he'⟩ := eq_trimRight_append (trimLeft l)
  refine ⟨l.takeWhile isBlank, post, hb, hp, ?_⟩
  rw [trim, List.append_assoc, ← he', ← he]

theorem trim_isInfix (l : List Char) : trim l <:+: l := by
  obtain ⟨pre, post, -, -, he⟩ := eq_append_trim_append l
  exact ⟨pre, post, he.symm⟩

theorem trim_sublist (l : List Char) : (trim l).Sublist l :=
  (trim_isInfix l).sublist

theorem trimRight_sublist (l : List Char) : (trimRight l).Sublist l := by
  obtain ⟨post, -, he⟩ := eq_trimRight_append l
  exact (show trimRight l <+: l from ⟨post, he.symm⟩).sublist

/-- **The middle of a cut is the trimmed line.** -/
theorem trim_append_append {pre m post : List Char} (hpre : AllBlank pre) (hm : Trimmed m)
    (hpost : AllBlank post) : trim (pre ++ m ++ post) = m := by
  rw [trim, trimLeft, List.append_assoc, List.dropWhile_append_of_pos hpre, ← trimLeft]
  cases m with
  | nil =>
    rw [List.nil_append, trimLeft, ← List.append_nil post, List.dropWhile_append_of_pos hpost]
    rfl
  | cons x xs =>
    rw [trimLeft, List.dropWhile_append, List.dropWhile_cons_of_neg (by simp [hm.1 x rfl])]
    simp only [List.isEmpty_cons, Bool.false_eq_true, if_false]
    exact trimRight_append_of_allBlank hm.2 hpost

theorem trim_of_trimmed {m : List Char} (hm : Trimmed m) : trim m = m := by
  simpa using @trim_append_append [] m [] (by simp) hm (by simp)

theorem trim_trim (l : List Char) : trim (trim l) = trim l :=
  trim_of_trimmed (trimmed_trim l)

/-- Blanks in front of a line do not change its trimmed form. -/
theorem trim_blank_append {pre : List Char} (hpre : AllBlank pre) (l : List Char) :
    trim (pre ++ l) = trim l := by
  obtain ⟨pre', post, hpre', hpost, he⟩ := eq_append_trim_append l
  have hm := trimmed_trim l
  generalize trim l = m at he hm ⊢
  rw [he, ← List.append_assoc, ← List.append_assoc,
    trim_append_append (allBlank_append.mpr ⟨hpre, hpre'⟩) hm hpost]

theorem trim_eq_nil_iff (l : List Char) : trim l = [] ↔ AllBlank l := by
  constructor
  · intro h
    obtain ⟨pre, post, hpre, hpost, he⟩ := eq_append_trim_append l
    rw [h, List.append_nil] at he
    rw [he]
    exact allBlank_append.mpr ⟨hpre, hpost⟩
  · intro h
    simpa using @trim_append_append l [] [] h trimmed_nil (by simp)

theorem trimRight_eq_nil_iff (l : List Char) : trimRight l = [] ↔ AllBlank l := by
  obtain ⟨post, hpost, he⟩ := eq_trimRight_append l
  constructor
  · intro h
    rw [he, h]
    simpa using hpost
  · intro h
    simpa using trimRight_append_of_allBlank (m := []) (by simp) h

/-- Trimming the back first does not change the trimmed line. -/
theorem trim_trimRight (l : List Char) : trim (trimRight l) = trim l := by
  by_cases h : trim l = []
  · have hb := (trim_eq_nil_iff l).mp h
    rw [h, (trimRight_eq_nil_iff l).mpr hb]
    rfl
  · obtain ⟨pre, post, hpre, hpost, he⟩ := eq_append_trim_append l
    have hm := trimmed_trim l
    generalize trim l = m at he hm h ⊢
    -- the back of `l` past the middle is blank, and the middle ends with a character that is not
    have hlast : ∀ c ∈ (pre ++ m).getLast?, isBlank c = false := by
      rw [List.getLast?_append, List.getLast?_eq_some_getLast h, Option.some_or]
      intro c hc
      exact hm.2 c (List.getLast?_eq_some_getLast h ▸ hc)
    rw [he, trimRight_append_of_allBlank hlast hpost]
    simpa using @trim_append_append pre m [] hpre hm (by simp)

end Reindent.Proofs.Trim
