import Reindent.Proofs.Output

/-! # When reindenting again changes nothing

A second run of `Style.reindent` reads the first run's output back, trims its lines and merges
them again. The merged lines come back unchanged (`mergedLines_reindent_of_settled`) when no two
of them would be joined, and the last of them is not an empty line. Both can fail, and each
failure loses a line on the second run:

* an empty line after the first, followed by a line that starts with `;`, is glued to it, and the
  line it becomes starts with `;`, which the second run glues to the line before
  (`length_mergedLines_reindent_of_semicolon`);
* two empty last lines after some other line: the first run prints one of them, and the second
  run loses it (`length_mergedLines_reindent_of_blank_end`).

`reindent_reindent_eq_iff` puts these together: a text is reindented to a fixed point exactly
when its trimmed lines have neither shape.
-/

namespace Reindent.Proofs.FixedPoint

open Reindent.Text Reindent.Layout Reindent.Proofs.Lines Reindent.Proofs.Trim
open Reindent.Proofs.Glue Reindent.Proofs.Merge Reindent.Proofs.Scan Reindent.Proofs.Output

/-- No two neighbouring lines would be joined by the merge. -/
abbrev Settled (ls : List (List Char)) : Prop :=
  ls.IsChain (fun a b => bracesRule a.getLast? b.head? = false)

/-- An empty line after the first, and a line after it that starts with `;`. -/
def SemicolonAfterBlank (L : List (List Char)) : Prop :=
  ∃ A x B, A ≠ [] ∧ L = A ++ [] :: x :: B ∧ x.head? = some ';'

/-- Two empty last lines after some other line. -/
def BlankEnd (L : List (List Char)) : Prop :=
  ∃ A, A ≠ [] ∧ L = A ++ [[], []]

/-! ### Settled lines come back -/

theorem isChain_tail_of_not_semicolonAfterBlank {L : List (List Char)}
    (h : ¬ SemicolonAfterBlank L) :
    L.tail.IsChain (fun a b => ¬ (a = [] ∧ bracesRule none b.head? = true)) := by
  -- the lines before the window are kept as a prefix that is never empty
  suffices key : ∀ (rest pre : List (List Char)), pre ≠ [] →
      ¬ SemicolonAfterBlank (pre ++ rest) →
      rest.IsChain (fun a b => ¬ (a = [] ∧ bracesRule none b.head? = true)) by
    cases L with
    | nil => exact List.IsChain.nil
    | cons l rest => exact key rest [l] (List.cons_ne_nil _ _) h
  intro rest
  induction rest with
  | nil => intro _ _ _; exact List.IsChain.nil
  | cons a rest ih =>
    intro pre hpre hno
    cases rest with
    | nil => exact List.IsChain.singleton a
    | cons b rest =>
      refine List.isChain_cons_cons.mpr ⟨?_, ih (pre ++ [a]) (by simp) (by simpa using hno)⟩
      rintro ⟨rfl, hb⟩
      exact hno ⟨pre, b, rest, hpre, rfl, by simpa using hb⟩

theorem settled_mergedLines {t : List Char} (h : ¬ SemicolonAfterBlank (trimmedLines t)) :
    Settled (mergedLines t) :=
  List.IsChain.prefix (isChain_glue bracesRule_none _ (isChain_tail_of_not_semicolonAfterBlank h))
    (prefix_dropEmptyLast _)

/-- **Settled lines come back** from a second run, when the last of them is not empty. -/
theorem mergedLines_reindent_of_settled {t : List Char} (hs : Settled (mergedLines t))
    (hl : (mergedLines t).getLast? ≠ some []) :
    mergedLines (Style.braces.reindent t) = mergedLines t := by
  rcases trimmedLines_reindent t with h | ⟨-, h⟩
  · rw [mergedLines, h, glue_of_isChain _ hs, dropEmptyLast_of_getLast?_ne _ hl]
  · exact absurd h hl

theorem reindent_reindent_of_settled {t : List Char} (hs : Settled (mergedLines t))
    (hl : (mergedLines t).getLast? ≠ some []) :
    Style.braces.reindent (Style.braces.reindent t) = Style.braces.reindent t := by
  rw [reindent_eq (Style.braces.reindent t), printedLines, mergedLines_reindent_of_settled hs hl,
    ← printedLines, ← reindent_eq]

theorem reindent_nil : Style.braces.reindent [] = [] := by
  simp [reindent_eq, printedLines, mergedLines, trimmedLines, dropEmptyLast]

/-- A text whose merged lines are one empty line is reindented to the empty text. -/
theorem reindent_of_mergedLines_eq {t : List Char} (h : mergedLines t = [[]]) :
    Style.braces.reindent t = [] := by
  rw [reindent_eq, printedLines, h, indentFrom_cons, step_start_fst]
  rfl

/-- Trimmed lines that are never empty merge into lines that are never empty. -/
theorem ne_nil_of_mem_mergedLines {cs l : List Char} (h : [] ∉ trimmedLines cs)
    (hl : l ∈ mergedLines cs) : l ≠ [] :=
  mem_glue_of_append (P := (· ≠ [])) (fun _ b ha _ => List.append_ne_nil_of_left_ne_nil ha b) _
    (fun _ hx he => h (he ▸ hx)) l (mem_glue_of_mem_mergedLines hl)

/-- A text without blank lines is reindented to a fixed point. -/
theorem reindent_reindent_of_nil_not_mem {t : List Char} (h : [] ∉ trimmedLines t) :
    Style.braces.reindent (Style.braces.reindent t) = Style.braces.reindent t := by
  have hS : ¬ SemicolonAfterBlank (trimmedLines t) := by
    rintro ⟨A, x, B, -, hL, -⟩
    exact h (by rw [hL]; simp)
  refine reindent_reindent_of_settled (settled_mergedLines hS) fun hl => ?_
  exact ne_nil_of_mem_mergedLines h (List.mem_of_getLast? hl) rfl

/-! ### An empty last line -/

/-- Merged lines that end with an empty line after some other line come from trimmed lines
that end with two. -/
theorem blankEnd_of_getLast? {t : List Char} (hl : (mergedLines t).getLast? = some [])
    (h2 : 2 ≤ (mergedLines t).length) : BlankEnd (trimmedLines t) := by
  rw [mergedLines] at hl h2
  generalize trimmedLines t = L at hl h2 ⊢
  -- an empty last merged line is the last glued line, which is empty, and so is the last line
  have hK : (glue bracesRule L).getLast? = some [] := by
    by_contra hK
    rw [dropEmptyLast_of_getLast?_ne _ hK] at hl
    exact hK hl
  obtain ⟨L1, rfl⟩ := List.getLast?_eq_some_iff.mp (getLast?_eq_nil_of_glue hK)
  have hL1 : L1 ≠ [] := by
    rintro rfl
    simp [dropEmptyLast] at h2
  rw [glue_append hL1 (List.cons_ne_nil _ _) (bracesRule_none _), glue_singleton,
    dropEmptyLast_append_nil] at hl h2
  -- what is left is glued from `L1`, and ends with an empty line again
  obtain ⟨A, rfl⟩ := List.getLast?_eq_some_iff.mp (getLast?_eq_nil_of_glue hl)
  refine ⟨A, ?_, by simp⟩
  rintro rfl
  simp at h2

/-! ### Lines lost on a second run -/

/-- A second run that merges fewer lines prints another text. -/
theorem reindent_reindent_ne {t : List Char} (h2 : 2 ≤ (mergedLines t).length)
    (hlt : (mergedLines (Style.braces.reindent t)).length < (mergedLines t).length) :
    Style.braces.reindent (Style.braces.reindent t) ≠ Style.braces.reindent t := by
  intro he
  replace he : joinLines (printedLines (Style.braces.reindent t)) = joinLines (printedLines t) := by
    rw [← reindent_eq, ← reindent_eq]
    exact he
  obtain ⟨a, b, rest, hab⟩ : ∃ a b rest, printedLines t = a :: b :: rest := by
    have hlen : 2 ≤ (printedLines t).length := by simpa using h2
    match hp : printedLines t with
    | a :: b :: rest => exact ⟨a, b, rest, rfl⟩
    | [] => simp [hp] at hlen
    | [_] => simp [hp] at hlen
  have hne : printedLines (Style.braces.reindent t) ≠ [] := by
    intro h0
    rw [h0, hab] at he
    exact joinLines_cons_cons_ne_nil a b rest he.symm
  have := eq_of_joinLines_eq hne (hab ▸ List.cons_ne_nil _ _)
    (fun _ ho => breakFree_of_mem_printedLines ho) (fun _ ho => breakFree_of_mem_printedLines ho) he
  have hlen := congrArg List.length this
  simp only [length_printedLines] at hlen
  omega

/-- An empty line glued to a line that starts with `;` makes a merged line that starts with
`;`, which the second run glues to the line before. -/
theorem length_mergedLines_reindent_of_semicolon {t : List Char}
    (h : SemicolonAfterBlank (trimmedLines t)) :
    2 ≤ (mergedLines t).length ∧
      (mergedLines (Style.braces.reindent t)).length < (mergedLines t).length := by
  obtain ⟨A, x, B, hA, hL, hx⟩ := h
  have hGA : glue bracesRule A ≠ [] := glue_ne_nil hA
  obtain ⟨y, ys, hg⟩ := glue_cons_eq bracesRule x B
  have hxy : x ++ y ≠ [] := by
    intro he
    rw [(List.append_eq_nil_iff.mp he).1] at hx
    cases hx
  have hhead : (x ++ y).head? = some ';' := by
    rw [List.head?_append, hx]
    rfl
  obtain ⟨Z, hZ⟩ := dropEmptyLast_cons_of_ne_nil hxy ys
  have hM : mergedLines t = glue bracesRule A ++ (x ++ y) :: Z := by
    rw [mergedLines, hL, glue_append hA (List.cons_ne_nil _ _) (bracesRule_none _), glue_cons_cons,
      if_pos (by simp [hx]), hg, List.modifyHead_cons, List.nil_append,
      dropEmptyLast_append (List.cons_ne_nil _ _), hZ]
  -- read back, the output keeps the glued line that starts with `;`
  obtain ⟨Z', hL2, hle⟩ : ∃ Z', trimmedLines (Style.braces.reindent t) =
      glue bracesRule A ++ (x ++ y) :: Z' ∧ Z'.length ≤ Z.length := by
    rcases trimmedLines_reindent t with h | ⟨h, hlast⟩
    · exact ⟨Z, h.trans hM, Nat.le_refl _⟩
    · have hZne : Z ≠ [] := by
        rintro rfl
        rw [hM, List.getLast?_append, List.getLast?_singleton, Option.some_or] at hlast
        exact hxy (Option.some.inj hlast)
      refine ⟨Z.dropLast, ?_, by simp⟩
      rw [h, hM, List.dropLast_append_of_ne_nil (List.cons_ne_nil _ _),
        List.dropLast_cons_of_ne_nil hZne]
  have hpos := List.length_pos_iff.mpr hGA
  refine ⟨by rw [hM]; simp; omega, ?_⟩
  calc (mergedLines (Style.braces.reindent t)).length
      ≤ (glue bracesRule (trimmedLines (Style.braces.reindent t))).length :=
        length_dropEmptyLast_le _
    _ < (trimmedLines (Style.braces.reindent t)).length := by
        rw [hL2]
        exact length_glue_lt hGA (by simp [bracesRule, leadRule, hhead]) Z'
    _ ≤ (mergedLines t).length := by
        rw [hL2, hM]
        simp
        omega

/-- Of two empty last lines, the first run prints one, and the second run loses it. -/
theorem length_mergedLines_reindent_of_blank_end {t : List Char} (h : BlankEnd (trimmedLines t)) :
    2 ≤ (mergedLines t).length ∧
      (mergedLines (Style.braces.reindent t)).length < (mergedLines t).length := by
  obtain ⟨A, hA, hL⟩ := h
  have hGA : glue bracesRule A ≠ [] := glue_ne_nil hA
  have hM : mergedLines t = glue bracesRule A ++ [[]] := by
    rw [mergedLines, hL, glue_append hA (List.cons_ne_nil _ _) (bracesRule_none _),
      show glue bracesRule [[], []] = [[], []] from rfl, dropEmptyLast_append (List.cons_ne_nil _ _)]
    rfl
  have hpos := List.length_pos_iff.mpr hGA
  have h2 : 2 ≤ (mergedLines t).length := by
    rw [hM]
    simp
    omega
  refine ⟨h2, ?_⟩
  rcases trimmedLines_reindent t with h | ⟨h, -⟩
  · -- the empty last line is read back, and lost again
    have hM2 : mergedLines (Style.braces.reindent t) = glue bracesRule (glue bracesRule A) := by
      rw [mergedLines, h, hM, glue_append hGA (List.cons_ne_nil _ _) (bracesRule_none _),
        glue_singleton, dropEmptyLast_append_nil]
    have := length_glue_le bracesRule (glue bracesRule A)
    rw [hM2, hM]
    simp
    omega
  · calc (mergedLines (Style.braces.reindent t)).length
        ≤ (trimmedLines (Style.braces.reindent t)).length :=
          (length_dropEmptyLast_le _).trans (length_glue_le _ _)
      _ < (mergedLines t).length := by
          rw [h, List.length_dropLast]
          omega

/-! ### The fixed points -/

/-- **Reindenting twice is reindenting once**, exactly for the texts whose trimmed lines have no
empty line after the first followed by a line that starts with `;`, and do not end with two
empty lines after some other line. -/
theorem reindent_reindent_eq_iff (t : List Char) :
    Style.braces.reindent (Style.braces.reindent t) = Style.braces.reindent t ↔
      ¬ SemicolonAfterBlank ((splitLines t).map trim) ∧ ¬ BlankEnd ((splitLines t).map trim) := by
  constructor
  · intro he
    refine ⟨fun hS => ?_, fun hT => ?_⟩
    · obtain ⟨h2, hlt⟩ := length_mergedLines_reindent_of_semicolon hS
      exact reindent_reindent_ne h2 hlt he
    · obtain ⟨h2, hlt⟩ := length_mergedLines_reindent_of_blank_end hT
      exact reindent_reindent_ne h2 hlt he
  · rintro ⟨hS, hT⟩
    by_cases hl : (mergedLines t).getLast? = some []
    · -- only a lone empty line can end the merged lines, and it is printed as nothing
      have hM : mergedLines t = [[]] := by
        match hm : mergedLines t, hl with
        | [l], hl => rw [show l = [] by simpa using hl]
        | [], hl => cases hl
        | a :: b :: rest, hl => exact absurd (blankEnd_of_getLast? (hm ▸ hl) (by simp [hm])) hT
      rw [reindent_of_mergedLines_eq hM, reindent_nil]
    · exact reindent_reindent_of_settled (settled_mergedLines hS) hl

/-- Two empty last lines: the first run prints `a` and one empty line, the second only `a`. -/
theorem reindent_reindent_ne_of_two_blank_last_lines :
    Style.braces.reindent (Style.braces.reindent "a\n\n\n".toList) ≠
      Style.braces.reindent "a\n\n\n".toList := by
  decide +kernel

end Reindent.Proofs.FixedPoint
