import Reindent.Layout.Scan
import Reindent.Proofs.Glue
import Reindent.Proofs.Trim

/-! # The merge, line by line

`Style.mergeLines` trims every line and then makes three passes over the text. Each pass glues
lines (`Glue`), and the three in turn glue by one rule, `bracesRule`, read on the trimmed lines as
they are: a line that ends with `{` joins a next line that starts with `}`, one that ends with `[`
joins a next line that starts with `]`, and every line joins a next line that starts with `;`.

* `mergeLines_eq`: the merged text is the trimmed lines glued by that rule, so it is their runs
  under the rule put together (`mergeLines_eq_joinLines_runs`);
* `splitLines_mergeLines`: so the lines that the scan indents are those glued lines, but for an
  empty last line, which reading the text back loses (`mergedLines`);
* `trimmed_of_mem_glue`, `breakFree_of_mem_glue`: each of them is trimmed and holds no break.
-/

namespace Reindent.Proofs.Merge

open Reindent.Text Reindent.Layout Reindent.Proofs.Search Reindent.Proofs.Lines
open Reindent.Proofs.Trim Reindent.Proofs.Glue

/-- The rule of the merge in the brace style. -/
def bracesRule : Rule := fun last first =>
  pairRule '{' '}' last first || pairRule '[' ']' last first || leadRule ';' last first

@[simp] theorem bracesRule_none (x : Option Char) : bracesRule x none = false := by
  simp [bracesRule, pairRule, leadRule]

@[simp] theorem bracesRule_none_left (y : Option Char) : bracesRule none y = (y == some ';') := by
  simp [bracesRule, pairRule, leadRule]

/-- The trimmed lines of a text. -/
abbrev trimmedLines (cs : List Char) : List (List Char) := (splitLines cs).map trim

theorem breakFree_of_mem_trimmedLines {cs l : List Char} (h : l ∈ trimmedLines cs) :
    BreakFree l := by
  obtain ⟨l', hl', rfl⟩ := List.mem_map.mp h
  exact (breakFree_of_mem_splitLines hl').sublist (trim_sublist l')

theorem trimmed_of_mem_trimmedLines {cs l : List Char} (h : l ∈ trimmedLines cs) : Trimmed l := by
  obtain ⟨l', -, rfl⟩ := List.mem_map.mp h
  exact trimmed_trim l'

theorem newline_not_mem_flatten {ls : List (List Char)} (h : ∀ l ∈ ls, BreakFree l) :
    '\n' ∉ ls.flatten :=
  (breakFree_flatten h).not_mem_newline

/-- **The merge is one glue** of the trimmed lines, by `bracesRule`. -/
theorem mergeLines_eq (cs : List Char) :
    Style.braces.mergeLines cs = joinLines (glue bracesRule (trimmedLines cs)) := by
  have hL := newline_not_mem_flatten (fun l hl => @breakFree_of_mem_trimmedLines cs l hl)
  have h1 : '\n' ∉ (glue (pairRule '{' '}') (trimmedLines cs)).flatten := by
    rwa [flatten_glue]
  have h2 : '\n' ∉ (glue (fun x y => pairRule '{' '}' x y || pairRule '[' ']' x y)
      (trimmedLines cs)).flatten := by
    rwa [flatten_glue]
  simp only [Style.mergeLines, joinPairs, trimLines, Style.braces, List.zip_cons_cons,
    List.zip_nil_left, List.foldl_cons, List.foldl_nil]
  rw [replaceAll_pair_joinLines (by decide) (by decide) (by decide) _ hL,
    replaceAll_pair_joinLines (by decide) (by decide) (by decide) _ h1,
    glue_glue (by simp [pairRule]) (by simp [pairRule]),
    replaceAll_lead_joinLines (by decide) _ h2,
    glue_glue (by simp [pairRule]) (by simp [pairRule])]
  rfl

/-- **The merge is a rule on neighbouring lines.** Cut the trimmed lines of a text into runs, a
line and the next lying in one run exactly when the first ends with `{` and the second starts
with `}`, the first ends with `[` and the second starts with `]`, or the second starts with `;`,
all read on the trimmed lines as they are. Such a cut exists, and for each one the merged text is
its runs, each put together, one to a line. -/
theorem mergeLines_eq_joinLines_runs (t : List Char) :
    (∃ G, Runs bracesRule G ∧ G.flatten = (splitLines t).map trim) ∧
      ∀ G, Runs bracesRule G → G.flatten = (splitLines t).map trim →
        Style.braces.mergeLines t = joinLines (G.map List.flatten) := by
  refine ⟨exists_runs bracesRule _, fun G hG hfl => ?_⟩
  rw [mergeLines_eq, trimmedLines, ← hfl, glue_flatten_of_runs G hG]

theorem breakFree_of_mem_glue {cs l : List Char} (h : l ∈ glue bracesRule (trimmedLines cs)) :
    BreakFree l :=
  mem_glue_of_append (fun _ _ ha hb => breakFree_append.mpr ⟨ha, hb⟩) _
    (fun _ hx => breakFree_of_mem_trimmedLines hx) l h

theorem trimmed_of_mem_glue {cs l : List Char} (h : l ∈ glue bracesRule (trimmedLines cs)) :
    Trimmed l :=
  mem_glue_of_append (fun _ _ ha hb => ha.append hb) _
    (fun _ hx => trimmed_of_mem_trimmedLines hx) l h

/-- The lines that the scan indents: the glued lines, but for an empty last one. -/
def mergedLines (cs : List Char) : List (List Char) :=
  dropEmptyLast (glue bracesRule (trimmedLines cs))

theorem splitLines_mergeLines (cs : List Char) :
    splitLines (Style.braces.mergeLines cs) = mergedLines cs := by
  rw [mergeLines_eq, splitLines_joinLines _ (fun _ hl => breakFree_of_mem_glue hl), mergedLines]

theorem mem_glue_of_mem_mergedLines {cs l : List Char} (h : l ∈ mergedLines cs) :
    l ∈ glue bracesRule (trimmedLines cs) :=
  (prefix_dropEmptyLast _).subset h

/-- Merged lines that end with a line that is not empty are the glued lines. -/
theorem mergedLines_of_getLast? {cs x : List Char} (hx : (trimmedLines cs).getLast? = some x)
    (hxne : x ≠ []) : mergedLines cs = glue bracesRule (trimmedLines cs) :=
  dropEmptyLast_of_getLast?_ne _ fun hl =>
    hxne (Option.some.inj (hx.symm.trans (getLast?_eq_nil_of_glue hl)))

/-- Trimmed lines that are never empty are merged into the glued lines. -/
theorem mergedLines_of_nil_not_mem {cs : List Char} (h : [] ∉ trimmedLines cs) :
    mergedLines cs = glue bracesRule (trimmedLines cs) :=
  dropEmptyLast_of_getLast?_ne _ fun hl => h (List.mem_of_getLast? (getLast?_eq_nil_of_glue hl))

end Reindent.Proofs.Merge
