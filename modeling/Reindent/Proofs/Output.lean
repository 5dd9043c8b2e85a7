import Reindent.Proofs.Merge
import Reindent.Proofs.Scan

/-! # What the reindenter prints

`Style.reindent` prints the merged lines (`mergedLines`), each behind the indentation of its
depth, and writes them with a line feed between each two. Read back and trimmed, its output gives
the merged lines again, but for an empty last line printed without indentation, which reading the
text back loses (`trimmedLines_reindent`).
-/

namespace Reindent.Proofs.Output

open Reindent.Text Reindent.Layout Reindent.Proofs.Lines Reindent.Proofs.Trim
open Reindent.Proofs.Glue Reindent.Proofs.Merge Reindent.Proofs.Scan

/-- The lines that the reindenter prints. -/
def printedLines (cs : List Char) : List (List Char) :=
  Style.braces.indentFrom Scan.start (mergedLines cs)

/-- One level of indentation is four spaces. -/
theorem braces_indent : Style.braces.indent = List.replicate 4 ' ' := rfl

theorem allBlank_braces_indent : AllBlank Style.braces.indent :=
  braces_indent ▸ allBlank_replicate_space 4

theorem reindent_eq (cs : List Char) : Style.braces.reindent cs = joinLines (printedLines cs) := by
  rw [Style.reindent, splitLines_mergeLines, printedLines]

@[simp] theorem length_printedLines (cs : List Char) :
    (printedLines cs).length = (mergedLines cs).length :=
  length_indentFrom _ _ _

theorem printedLines_eq_nil_iff {cs : List Char} : printedLines cs = [] ↔ mergedLines cs = [] := by
  rw [← List.length_eq_zero_iff, length_printedLines, List.length_eq_zero_iff]

theorem trimmed_of_mem_mergedLines {cs l : List Char} (h : l ∈ mergedLines cs) : Trimmed l :=
  trimmed_of_mem_glue (mem_glue_of_mem_mergedLines h)

theorem breakFree_of_mem_mergedLines {cs l : List Char} (h : l ∈ mergedLines cs) : BreakFree l :=
  breakFree_of_mem_glue (mem_glue_of_mem_mergedLines h)

/-- Trimmed, the printed lines are the merged lines. -/
theorem map_trim_printedLines (cs : List Char) : (printedLines cs).map trim = mergedLines cs := by
  rw [printedLines, map_trim_indentFrom _ allBlank_braces_indent]
  conv => rhs; rw [← List.map_id (mergedLines cs)]
  exact List.map_congr_left (fun l hl => trim_of_trimmed (trimmed_of_mem_mergedLines hl))

theorem breakFree_braces_indent : BreakFree Style.braces.indent := by
  rw [braces_indent]
  intro c hc
  rw [List.eq_of_mem_replicate hc]
  decide

theorem breakFree_of_mem_printedLines {cs o : List Char} (h : o ∈ printedLines cs) :
    BreakFree o :=
  breakFree_of_mem_indentFrom _ breakFree_braces_indent _ _
    (fun _ hl => breakFree_of_mem_mergedLines hl) o h

/-- Every printed line is blanks in front of a merged line. -/
theorem exists_of_mem_printedLines {cs o : List Char} (h : o ∈ printedLines cs) :
    ∃ pre m, AllBlank pre ∧ m ∈ mergedLines cs ∧ o = pre ++ m := by
  obtain ⟨pre, m, hpre, hm, he⟩ :=
    exists_of_mem_indentFrom _ allBlank_braces_indent Scan.start (mergedLines cs) o h
  exact ⟨pre, m, hpre, hm, by rw [he, trim_of_trimmed (trimmed_of_mem_mergedLines hm)]⟩

/-- The first merged line is printed as it is. -/
theorem printedLines_of_mergedLines_eq_cons {cs m : List Char} {ms : List (List Char)}
    (h : mergedLines cs = m :: ms) : ∃ os, printedLines cs = m :: os := by
  have hm : trim m = m := trim_of_trimmed (trimmed_of_mem_mergedLines (h ▸ List.mem_cons_self))
  rw [printedLines, h, indentFrom_cons, step_start_fst, hm]
  exact ⟨_, rfl⟩

/-- **The output read back.** Trimmed, its lines are the merged lines, but for an empty last one
when it was printed without indentation. -/
theorem trimmedLines_reindent (cs : List Char) :
    trimmedLines (Style.braces.reindent cs) = mergedLines cs ∨
      (trimmedLines (Style.braces.reindent cs) = (mergedLines cs).dropLast ∧
        (mergedLines cs).getLast? = some []) := by
  rw [reindent_eq, trimmedLines, splitLines_joinLines _ (fun _ ho => breakFree_of_mem_printedLines ho)]
  rcases dropEmptyLast_eq_or (printedLines cs) with h | ⟨h, hl⟩
  · exact .inl (by rw [h, map_trim_printedLines])
  · refine .inr ⟨by rw [h, List.map_dropLast, map_trim_printedLines], ?_⟩
    rw [← map_trim_printedLines, List.getLast?_map, hl]
    rfl

end Reindent.Proofs.Output
