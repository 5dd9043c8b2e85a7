import Reindent.Proofs.Tidy

/-! # What the layout keeps

Tidying reads a text only through its trimmed lines that are not empty (`tidy_eq_joinLines_indentFrom`),
so texts that differ only in indentation, blanks at line ends, blank lines and the kind of their
line breaks are tidied alike (`tidy_eq_of_nonempty_trimmed_lines_eq`). Reindenting and tidying only
put lines together and change the blanks at the ends of lines:

* trimmed and put one after another, the lines of a reindented text are those of the text itself
  (`flatten_trimmedLines_reindent`);
* cut at its line feeds and trimmed, a tidied text is the text's trimmed lines, the empty ones
  left out, glued by the merge rule (`map_trim_cutAt_tidy`), so each of its lines is a run of
  those lines put together (`reindent_tidy_only_join_lines`).
-/

namespace Reindent.Proofs.Content

open Reindent.Text Reindent.Layout Reindent.Proofs.Lines Reindent.Proofs.Glue
open Reindent.Proofs.Merge Reindent.Proofs.Scan Reindent.Proofs.Output Reindent.Proofs.FixedPoint
open Reindent.Proofs.Tidy

/-- **Tidying reads only the non-empty trimmed lines** of a text: it glues them by the merge rule
and prints each behind the indentation of its depth. -/
theorem tidy_eq_joinLines_indentFrom (t : List Char) :
    Style.braces.tidy t = joinLines (Style.braces.indentFrom Scan.start
      (glue bracesRule ((trimmedLines t).filter (fun l => !l.isEmpty)))) := by
  rw [tidy_eq, reindent_eq, printedLines, mergedLines_dropBlankLines_unifyBreaks]

/-- **Tidying ignores the layout of a text**: two texts with the same non-empty trimmed lines are
tidied alike, whatever their indentation, blanks at line ends, blank lines and line breaks. -/
theorem tidy_eq_of_nonempty_trimmed_lines_eq {t t' : List Char}
    (h : ((splitLines t).map trim).filter (fun l => !l.isEmpty) =
      ((splitLines t').map trim).filter (fun l => !l.isEmpty)) :
    Style.braces.tidy t = Style.braces.tidy t' := by
  rw [tidy_eq_joinLines_indentFrom, tidy_eq_joinLines_indentFrom, trimmedLines, trimmedLines, h]

/-- Indentation, blanks at line ends, a blank line and three kinds of break do not count. -/
theorem tidy_eq_of_nonempty_trimmed_lines_eq_breaks :
    ((splitLines " x \x7b\r\r\n\t y;  \u2028\n\x7d ".toList).map trim).filter (fun l => !l.isEmpty) =
        ((splitLines "x \x7b\ny;\n\x7d".toList).map trim).filter (fun l => !l.isEmpty) ∧
      Style.braces.tidy " x \x7b\r\r\n\t y;  \u2028\n\x7d ".toList =
        Style.braces.tidy "x \x7b\ny;\n\x7d".toList :=
  ⟨by decide +kernel, tidy_eq_of_nonempty_trimmed_lines_eq (by decide +kernel)⟩

theorem flatten_mergedLines (cs : List Char) :
    (mergedLines cs).flatten = (trimmedLines cs).flatten := by
  rw [mergedLines, flatten_dropEmptyLast, flatten_glue]

/-- Read back and trimmed, a reindented text has the characters of the trimmed lines of the
text, in their order. -/
theorem flatten_trimmedLines_reindent (t : List Char) :
    (trimmedLines (Style.braces.reindent t)).flatten = (trimmedLines t).flatten := by
  rw [← flatten_mergedLines t]
  rcases trimmedLines_reindent t with h | ⟨h, hl⟩
  · rw [h]
  · -- only an empty last line is lost, and it holds nothing
    obtain ⟨A, hA⟩ := List.getLast?_eq_some_iff.mp hl
    rw [h, hA, List.dropLast_concat]
    simp

/-- **The lines of a tidied text**, trimmed, are the trimmed lines of the text without the empty
ones, glued by the merge rule; a tidied text that is empty has no lines. -/
theorem map_trim_cutAt_tidy (t : List Char) :
    (if Style.braces.tidy t = [] then [] else (cutAt newline (Style.braces.tidy t)).map trim) =
      glue bracesRule ((trimmedLines t).filter (fun l => !l.isEmpty)) := by
  have h := nil_not_mem_trimmedLines_dropBlankLines (unifyBreaks t)
  rw [tidy_eq, reindent_eq, ← mergedLines_dropBlankLines_unifyBreaks]
  cases hO : printedLines (dropBlankLines (unifyBreaks t)) with
  | nil => simp [printedLines_eq_nil_iff.mp hO]
  | cons o os =>
    -- the first printed line is not empty, so neither is the text
    have ho := (solid_of_mem_printedLines h (hO ▸ List.mem_cons_self)).1
    have hne : joinLines (o :: os) ≠ [] := by
      intro he
      have := head?_joinLines_cons ho os
      rw [he] at this
      exact ho (List.head?_eq_none_iff.mp this.symm)
    rw [if_neg hne, cutAt_newline_joinLines _ (List.cons_ne_nil _ _)
      (fun _ hx => breakFree_of_mem_printedLines (hO ▸ hx)), ← hO, map_trim_printedLines]

/-- **Reindenting and tidying only join lines.** Trimmed, the lines of a reindented text hold
the characters of the trimmed lines of the text, in order; and the trimmed lines of a tidied
text are the trimmed lines of the text that are not empty, cut into runs, each run put
together. -/
theorem reindent_tidy_only_join_lines (t : List Char) :
    ((splitLines (Style.braces.reindent t)).map trim).flatten = ((splitLines t).map trim).flatten ∧
      ∃ G : List (List (List Char)), (∀ g ∈ G, g ≠ []) ∧
        G.flatten = ((splitLines t).map trim).filter (fun l => !l.isEmpty) ∧
        (if Style.braces.tidy t = [] then [] else (cutAt newline (Style.braces.tidy t)).map trim) =
          G.map List.flatten := by
  refine ⟨flatten_trimmedLines_reindent t, ?_⟩
  obtain ⟨G, hne, hfl, hg⟩ :=
    exists_groups_glue bracesRule ((trimmedLines t).filter (fun l => !l.isEmpty))
  exact ⟨G, hne, hfl, (map_trim_cutAt_tidy t).trans hg⟩

end Reindent.Proofs.Content
