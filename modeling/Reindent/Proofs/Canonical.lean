import Reindent.Proofs.Blocks
import Reindent.Proofs.Tidy

/-! # The canonical layout of tidied text

A text is in *canonical layout* (`CanonicalText`) when only line feeds break it, it neither starts
nor ends with a blank, and each of its lines holds a character that is not blank and ends with
one. Every reindented text whose trimmed lines are never empty is in canonical layout
(`canonical_reindent_of_solid`), and each of its lines is the merged line it prints behind four
spaces a level, and one more space when the scan read it inside a block comment and its active
part starts with `*` (`getElem?_splitLines_reindent`).

Tidying hands exactly such a text to the reindenter, so every tidied text is in canonical
layout and its lines are indented that way (`tidy_canonical`).
-/

namespace Reindent.Proofs.Canonical

open Reindent.Text Reindent.Layout Reindent.Proofs.Lines Reindent.Proofs.Trim
open Reindent.Proofs.Merge Reindent.Proofs.Scan Reindent.Proofs.Output Reindent.Proofs.FixedPoint
open Reindent.Proofs.Blocks Reindent.Proofs.Tidy

/-- The text is broken by line feeds only, is trimmed, and each of its lines holds a character
that is not blank and ends with one. -/
structure CanonicalText (T : List Char) : Prop where
  breaks : ∀ c ∈ T, isLineBreak c = true → c = '\n'
  trimmed : Trimmed T
  lines : ∀ o ∈ splitLines T, (∃ c ∈ o, isBlank c = false) ∧ ∀ c ∈ o.getLast?, isBlank c = false

/-- The lines that the scan reads when a text is tidied: its breaks unified, its blank lines
dropped and its split lines merged. -/
def tidyScanLines (t : List Char) : List (List Char) :=
  splitLines (Style.braces.mergeLines (dropBlankLines (unifyBreaks t)))

section NoBlankLines

variable {Y : List Char} (h : [] ∉ trimmedLines Y)
include h

/-- **A reindented text without blank lines is in canonical layout.** -/
theorem canonical_reindent_of_solid : CanonicalText (Style.braces.reindent Y) where
  breaks c hc hb := by
    rw [reindent_eq] at hc
    rcases mem_joinLines hc with rfl | ⟨o, ho, hco⟩
    · rfl
    · rw [breakFree_of_mem_printedLines ho c hco] at hb
      cases hb
  trimmed := trim_reindent h ▸ trimmed_trim _
  lines o ho := by
    rw [splitLines_reindent_of_solid h] at ho
    obtain ⟨hne, hlast⟩ := solid_of_mem_printedLines h ho
    exact ⟨⟨o.getLast hne, List.getLast_mem hne, hlast _ (List.getLast?_eq_some_getLast hne)⟩, hlast⟩

/-- **Line `i` of a reindented text without blank lines** is merged line `i` behind `4 * k`
spaces, and one more when the scan reads it inside a block comment and its active part starts
with `*`. -/
theorem getElem?_splitLines_reindent (i : Nat) (hi : i < (mergedLines Y).length) :
    ∃ k, (splitLines (Style.braces.reindent Y))[i]? =
      some (List.replicate (4 * k +
          if (scanAfter Style.braces Scan.start ((mergedLines Y).take i)).inComment &&
            (Style.braces.active (mergedLines Y)[i]).head? == some '*' then 1 else 0) ' ' ++
        (mergedLines Y)[i]) := by
  rw [splitLines_reindent_of_solid h, printedLines, getElem?_indentFrom _ _ _ i hi, step_eq,
    flatten_replicate_indent, trim_of_trimmed (trimmed_of_mem_mergedLines (List.getElem_mem hi))]
  refine ⟨(max 0 (rawDepth Style.braces
    (scanAfter Style.braces Scan.start ((mergedLines Y).take i)) (mergedLines Y)[i])).toNat, ?_⟩
  -- the mark is the one extra space, there exactly when the condition holds
  have hcont : Style.braces.continuation = '*' := rfl
  rw [List.replicate_add, mark, hcont]
  split <;> rfl

end NoBlankLines

/-- **Tidied text has canonical layout.** Only line feeds break it, it neither starts nor ends
with a blank, no line is empty or blank or ends with a blank, and its lines are read back as
written. Line `i` is line `i` that the scan reads, which starts with a character that is not
blank, behind `4 * k` spaces, and one more exactly when the scan reads that line inside a block
comment and its active part starts with `*`. -/
theorem tidy_canonical (t : List Char) :
    CanonicalText (Style.braces.tidy t) ∧
      joinLines (splitLines (Style.braces.tidy t)) = Style.braces.tidy t ∧
      (splitLines (Style.braces.tidy t)).length = (tidyScanLines t).length ∧
      ∀ i (hi : i < (tidyScanLines t).length), (tidyScanLines t)[i] ≠ [] ∧
        Trimmed (tidyScanLines t)[i] ∧
        ∃ k, (splitLines (Style.braces.tidy t))[i]? =
          some (List.replicate (4 * k +
              if (scanAfter Style.braces Scan.start ((tidyScanLines t).take i)).inComment &&
                (Style.braces.active (tidyScanLines t)[i]).head? == some '*' then 1 else 0) ' ' ++
            (tidyScanLines t)[i]) := by
  have h := nil_not_mem_trimmedLines_dropBlankLines (unifyBreaks t)
  have hM : tidyScanLines t = mergedLines (dropBlankLines (unifyBreaks t)) :=
    splitLines_mergeLines _
  rw [hM, tidy_eq]
  refine ⟨canonical_reindent_of_solid h, ?_, ?_, fun i hi => ⟨?_, ?_, ?_⟩⟩
  · rw [splitLines_reindent_of_solid h, reindent_eq]
  · rw [splitLines_reindent_of_solid h, length_printedLines]
  · exact ne_nil_of_mem_mergedLines h (List.getElem_mem hi)
  · exact trimmed_of_mem_mergedLines (List.getElem_mem hi)
  · exact getElem?_splitLines_reindent h i hi

end Reindent.Proofs.Canonical
