import Reindent.Proofs.Output

/-! # Blocks one after another

A text written after another, on a new line, is reindented as on its own, shifted by the depth
at which the first text ends (`reindent_append_newline`). This holds when

* the first text does not end with a break, and neither its last line nor the next text's first
  line is blank, so that the lines of the whole are the lines of the two;
* no merge joins the two lines at the seam (`bracesRule_eq_false_of_seam`);
* the scan over the first text ends outside a block comment, at a depth `d` that is not negative;
* and the scan over the second text on its own never clamps a negative depth, so starting it
  `d` levels deeper shifts every line it prints by `d` levels (`indentFrom_shift`).
-/

namespace Reindent.Proofs.Blocks

open Reindent.Text Reindent.Layout Reindent.Proofs.Lines Reindent.Proofs.Glue
open Reindent.Proofs.Merge Reindent.Proofs.Scan Reindent.Proofs.Output

/-- No merge joins a line that ends as `x` does to a line that starts as `y` does. -/
theorem bracesRule_eq_false_of_seam {x y : List Char} (hsemi : y.head? ≠ some ';')
    (hbrace : x.getLast? = some '{' → y.head? ≠ some '}')
    (hbracket : x.getLast? = some '[' → y.head? ≠ some ']') :
    bracesRule x.getLast? y.head? = false := by
  simp only [bracesRule, pairRule, leadRule, Bool.or_eq_false_iff, Bool.and_eq_false_iff,
    beq_eq_false_iff_ne, ne_eq]
  refine ⟨⟨?_, ?_⟩, hsemi⟩
  · by_cases h : x.getLast? = some '{'
    · exact .inr (hbrace h)
    · exact .inl h
  · by_cases h : x.getLast? = some '['
    · exact .inr (hbracket h)
    · exact .inl h

theorem flatten_replicate_indent (d : Nat) :
    (List.replicate d Style.braces.indent).flatten = List.replicate (4 * d) ' ' := by
  rw [braces_indent, List.flatten_replicate_replicate,
    Nat.mul_comm]

/-- Merged lines that start with a line that is not empty are not lost. -/
theorem mergedLines_ne_nil {cs y : List Char} (hy : (trimmedLines cs).head? = some y)
    (hyne : y ≠ []) : mergedLines cs ≠ [] := by
  obtain ⟨B, hB⟩ := List.head?_eq_some_iff.mp hy
  obtain ⟨z, zs, hg⟩ := glue_cons_eq bracesRule y B
  obtain ⟨Z, hZ⟩ := dropEmptyLast_cons_of_ne_nil (List.append_ne_nil_of_left_ne_nil hyne z) zs
  rw [mergedLines, hB, hg, hZ]
  exact List.cons_ne_nil _ _

section Seam

variable {a b x y : List Char} {c : Char} (ha : a.getLast? = some c) (hc : isLineBreak c = false)
  (hx : (trimmedLines a).getLast? = some x) (hxne : x ≠ [])
  (hy : (trimmedLines b).head? = some y) (hseam : bracesRule x.getLast? y.head? = false)
include ha hc hx hxne hy hseam

/-- The merged lines of the whole are those of the two texts. -/
theorem mergedLines_append_newline :
    mergedLines (a ++ '\n' :: b) = mergedLines a ++ mergedLines b := by
  obtain ⟨A, hA⟩ := List.getLast?_eq_some_iff.mp hx
  obtain ⟨B, hB⟩ := List.head?_eq_some_iff.mp hy
  have hsplit : trimmedLines (a ++ '\n' :: b) = trimmedLines a ++ trimmedLines b := by
    rw [trimmedLines, splitLines_append_newline_of_getLast? ha hc, List.map_append]
  -- the seam is not glued, so each side is glued on its own
  have hglue : glue bracesRule (trimmedLines (a ++ '\n' :: b)) =
      glue bracesRule (trimmedLines a) ++ glue bracesRule (trimmedLines b) := by
    rw [hsplit, hA, hB]
    exact glue_append (by simp) (List.cons_ne_nil _ _) (by simpa using hseam)
  have hb : glue bracesRule (trimmedLines b) ≠ [] := glue_ne_nil (by simp [hB])
  rw [mergedLines, hglue, dropEmptyLast_append hb, ← mergedLines_of_getLast? hx hxne]
  rfl

/-- The printed lines of the whole: those of the first text, then those of the second, each
shifted by the depth at which the scan over the first ends. -/
theorem printedLines_append_newline {d : Nat}
    (hd : scanAfter Style.braces Scan.start (mergedLines a) = ⟨false, d⟩)
    (hclamp : ClampFree Style.braces Scan.start (mergedLines b)) :
    printedLines (a ++ '\n' :: b) =
      printedLines a ++ (printedLines b).map (List.replicate (4 * d) ' ' ++ ·) := by
  have hstart : (⟨false, d⟩ : Scan) = ⟨Scan.start.inComment, Scan.start.depth + d⟩ := by
    simp [Scan.start]
  rw [printedLines, mergedLines_append_newline ha hc hx hxne hy hseam, indentFrom_append, hd,
    hstart, indentFrom_shift _ d _ _ hclamp, flatten_replicate_indent, ← printedLines,
    ← printedLines]

end Seam

/-- **A block after a block** is reindented as on its own, every line shifted by the depth `d`
at which the scan over the first block ends. The first block does not end with a break, the
lines at the seam are not blank and are not merged, the scan over the first block ends outside a
comment, and the scan over the second on its own never clamps a negative depth. -/
theorem reindent_append_newline {a b x y : List Char} {c : Char} {d : Nat}
    (ha : a.getLast? = some c) (hc : isLineBreak c = false)
    (hx : (trimmedLines a).getLast? = some x) (hxne : x ≠ [])
    (hy : (trimmedLines b).head? = some y) (hyne : y ≠ [])
    (hsemi : y.head? ≠ some ';') (hbrace : x.getLast? = some '{' → y.head? ≠ some '}')
    (hbracket : x.getLast? = some '[' → y.head? ≠ some ']')
    (hd : scanAfter Style.braces Scan.start (splitLines (Style.braces.mergeLines a)) = ⟨false, d⟩)
    (hclamp : ClampFree Style.braces Scan.start (splitLines (Style.braces.mergeLines b))) :
    Style.braces.reindent (a ++ '\n' :: b) =
      Style.braces.reindent a ++
        '\n' :: joinLines ((cutAt newline (Style.braces.reindent b)).map
          (List.replicate (4 * d) ' ' ++ ·)) := by
  rw [splitLines_mergeLines] at hd hclamp
  have hPa : printedLines a ≠ [] := by
    rw [Ne, printedLines_eq_nil_iff, mergedLines_of_getLast? hx hxne]
    exact glue_ne_nil (fun h => by simp [h] at hx)
  have hPb : printedLines b ≠ [] := by
    rw [Ne, printedLines_eq_nil_iff]
    exact mergedLines_ne_nil hy hyne
  rw [reindent_eq, printedLines_append_newline ha hc hx hxne hy
      (bracesRule_eq_false_of_seam hsemi hbrace hbracket) hd hclamp,
    joinLines_append hPa (by simpa using hPb), ← reindent_eq, reindent_eq b,
    cutAt_newline_joinLines _ hPb fun _ ho => breakFree_of_mem_printedLines ho]

/-- A body after the line that opens its block is printed one level in. -/
theorem reindent_append_newline_after_open :
    Style.braces.reindent ("f() \x7b".toList ++ '\n' :: "x;".toList) =
      Style.braces.reindent "f() \x7b".toList ++
        '\n' :: joinLines ((cutAt newline (Style.braces.reindent "x;".toList)).map
          (List.replicate (4 * 1) ' ' ++ ·)) :=
  reindent_append_newline (c := '{') (x := "f() \x7b".toList) (y := "x;".toList) (by decide)
    (by decide) (by decide) (by decide) (by decide) (by decide) (by decide) (by decide)
    (by decide) (by decide +kernel) (by decide +kernel)

end Reindent.Proofs.Blocks
