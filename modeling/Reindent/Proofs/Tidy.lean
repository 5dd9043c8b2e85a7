import Reindent.Layout.Tidy
import Reindent.Proofs.FixedPoint

/-! # Tidying twice

`Style.tidy` unifies the breaks of a text, drops its blank lines, reindents it, drops blank
lines again and trims the result. Its parts meet on one kind of text, the text whose trimmed
lines are never empty:

* `dropBlankLines` leaves such a text, and its trimmed lines are those of its input without the
  empty ones (`trimmedLines_dropBlankLines`);
* reindented, such a text prints lines that end with a character that is not blank, so the
  dropping and the trimming after it change nothing (`dropBlankLines_reindent`, `trim_reindent`);
* it is a fixed point of reindenting (`reindent_reindent_of_nil_not_mem`);
* and no reindented text holds a carriage return, so unifying its breaks changes nothing
  (`unifyBreaks_reindent`).

So `Style.tidy` is the reindenting of its input with breaks unified and blank lines dropped
(`tidy_eq`), and tidying twice is tidying once (`tidy_tidy`). The reindenter reads a text only
through its trimmed lines (`reindent_eq_of_trimmedLines_eq`), so on a text without blank lines
tidying is reindenting (`tidy_eq_reindent_of_nil_not_mem`).
-/

namespace Reindent.Proofs.Tidy

open Reindent.Text Reindent.Layout Reindent.Proofs.Search Reindent.Proofs.Lines
open Reindent.Proofs.Trim Reindent.Proofs.Glue Reindent.Proofs.Merge
open Reindent.Proofs.Output Reindent.Proofs.FixedPoint

/-! ### Dropping blank lines -/

/-- A line trimmed at the end, if anything is left of it. -/
def keepLine (l : List Char) : Option (List Char) :=
  match trimRight l with
  | [] => none
  | r => some r

theorem dropBlankLines_eq (cs : List Char) :
    dropBlankLines cs = joinLines ((splitLines cs).filterMap keepLine) := rfl

theorem keepLine_eq (l : List Char) :
    keepLine l = if trimRight l = [] then none else some (trimRight l) := by
  unfold keepLine
  split <;> simp_all

theorem exists_of_mem_filterMap_keepLine {ls : List (List Char)} {r : List Char}
    (h : r ∈ ls.filterMap keepLine) : ∃ l ∈ ls, trimRight l = r ∧ r ≠ [] := by
  obtain ⟨l, hl, hk⟩ := List.mem_filterMap.mp h
  rw [keepLine_eq] at hk
  split at hk
  · cases hk
  · next hne => exact ⟨l, hl, Option.some.inj hk, Option.some.inj hk ▸ hne⟩

/-- Trimmed, the kept lines are the trimmed lines without the empty ones. -/
theorem map_trim_filterMap_keepLine (ls : List (List Char)) :
    (ls.filterMap keepLine).map trim = (ls.map trim).filter (fun l => !l.isEmpty) := by
  induction ls with
  | nil => rfl
  | cons l ls ih =>
    -- a line is dropped exactly when it is blank, and then it trims to nothing
    have hiff : trimRight l = [] ↔ trim l = [] := by
      rw [trimRight_eq_nil_iff, trim_eq_nil_iff]
    rw [List.filterMap_cons, keepLine_eq, List.map_cons, List.filter_cons]
    by_cases h : trimRight l = []
    · simp [h, hiff.mp h, ih]
    · simp [h, mt hiff.mpr h, trim_trimRight, ih]

/-- Lines that end with a character that is not blank are all kept, as they are. -/
theorem filterMap_keepLine_of_forall : (ls : List (List Char)) →
    (∀ o ∈ ls, o ≠ [] ∧ ∀ c ∈ o.getLast?, isBlank c = false) → ls.filterMap keepLine = ls
  | [], _ => rfl
  | o :: os, h => by
    have ho := h o List.mem_cons_self
    rw [List.filterMap_cons, keepLine_eq, trimRight_of_getLast ho.2, if_neg ho.1,
      filterMap_keepLine_of_forall os (fun x hx => h x (List.mem_cons_of_mem _ hx))]

/-- The kept lines are the lines trimmed at the end, without those then empty. -/
theorem filterMap_keepLine_eq_filter (ls : List (List Char)) :
    ls.filterMap keepLine = (ls.map trimRight).filter (fun l => !l.isEmpty) := by
  induction ls with
  | nil => rfl
  | cons l ls ih =>
    rw [List.filterMap_cons, keepLine_eq, List.map_cons, List.filter_cons]
    by_cases h : trimRight l = [] <;> simp [h, ih]

/-- A line kept from the lines of a text holds no break. -/
theorem breakFree_of_mem_filterMap_keepLine {cs r : List Char}
    (h : r ∈ (splitLines cs).filterMap keepLine) : BreakFree r := by
  obtain ⟨l, hl, rfl, -⟩ := exists_of_mem_filterMap_keepLine h
  exact (breakFree_of_mem_splitLines hl).sublist (trimRight_sublist l)

/-- A kept line is not empty and ends with a character that is not blank. -/
theorem solid_of_mem_filterMap_keepLine {ls : List (List Char)} {r : List Char}
    (h : r ∈ ls.filterMap keepLine) : r ≠ [] ∧ ∀ c ∈ r.getLast?, isBlank c = false := by
  obtain ⟨l, -, rfl, hne⟩ := exists_of_mem_filterMap_keepLine h
  exact ⟨hne, isBlank_getLast_trimRight l⟩

theorem splitLines_dropBlankLines (cs : List Char) :
    splitLines (dropBlankLines cs) = (splitLines cs).filterMap keepLine := by
  rw [dropBlankLines_eq, splitLines_joinLines _ fun _ => breakFree_of_mem_filterMap_keepLine]
  refine dropEmptyLast_of_getLast?_ne _ fun hl => ?_
  exact (solid_of_mem_filterMap_keepLine (List.mem_of_getLast? hl)).1 rfl

/-- **The trimmed lines of a text with its blank lines dropped** are its trimmed lines without
the empty ones. -/
theorem trimmedLines_dropBlankLines (cs : List Char) :
    trimmedLines (dropBlankLines cs) = (trimmedLines cs).filter (fun l => !l.isEmpty) := by
  rw [trimmedLines, splitLines_dropBlankLines, map_trim_filterMap_keepLine]

theorem nil_not_mem_trimmedLines_dropBlankLines (cs : List Char) :
    [] ∉ trimmedLines (dropBlankLines cs) := by
  rw [trimmedLines_dropBlankLines]
  simp

/-- **Dropping blank lines twice is dropping them once,** and the text it leaves is its lines,
each trimmed at the end, without those then empty, written with a line feed between each two.
Reading those lines back by every line break gives them again, so does cutting the text at its
line feeds when it is not empty, and the only break left in it is the line feed. -/
theorem dropBlankLines_idem_lines (t : List Char) :
    dropBlankLines (dropBlankLines t) = dropBlankLines t ∧
      splitLines (dropBlankLines t) =
        ((splitLines t).map trimRight).filter (fun l => !l.isEmpty) ∧
      (dropBlankLines t ≠ [] →
        cutAt newline (dropBlankLines t) = splitLines (dropBlankLines t)) ∧
      ∀ c ∈ dropBlankLines t, isLineBreak c = true → c = '\n' := by
  have hkept := splitLines_dropBlankLines t
  refine ⟨?_, hkept.trans (filterMap_keepLine_eq_filter _), fun hne => ?_, fun c hc hb => ?_⟩
  · -- the kept lines are kept again, unchanged
    rw [dropBlankLines_eq (dropBlankLines t), hkept,
      filterMap_keepLine_of_forall _ fun _ => solid_of_mem_filterMap_keepLine, dropBlankLines_eq]
  · have hne' : (splitLines t).filterMap keepLine ≠ [] := by
      rintro h
      exact hne (by rw [dropBlankLines_eq, h, joinLines_nil])
    rw [hkept, dropBlankLines_eq,
      cutAt_newline_joinLines _ hne' fun _ => breakFree_of_mem_filterMap_keepLine]
  · rw [dropBlankLines_eq] at hc
    rcases mem_joinLines hc with rfl | ⟨r, hr, hcr⟩
    · rfl
    · exact absurd hb (by rw [breakFree_of_mem_filterMap_keepLine hr c hcr]; decide)

/-! ### Unifying breaks -/

@[simp] theorem unifyBreaks_nil : unifyBreaks [] = [] := by
  simp [unifyBreaks]

theorem unifyBreaks_cons_of_ne {c : Char} (hc : c ≠ '\r') (s : List Char) :
    unifyBreaks (c :: s) = c :: unifyBreaks s := by
  unfold unifyBreaks
  rw [replaceAll_cons_of_isPrefixOf_eq_false _ _ (by simp [Pattern.toList, List.isPrefixOf, Ne.symm hc]),
    replaceAll_cons_of_isPrefixOf_eq_false _ _ (by simp [Pattern.toList, List.isPrefixOf, Ne.symm hc])]

theorem unifyBreaks_crlf (s : List Char) : unifyBreaks ('\r' :: '\n' :: s) = '\n' :: unifyBreaks s := by
  unfold unifyBreaks
  rw [replaceAll_cons, if_pos (by simp [Pattern.toList, List.isPrefixOf])]
  exact replaceAll_cons_of_isPrefixOf_eq_false _ _ (by simp [Pattern.toList, List.isPrefixOf])

theorem unifyBreaks_cr {s : List Char} (hs : s.head? ≠ some '\n') :
    unifyBreaks ('\r' :: s) = '\n' :: unifyBreaks s := by
  have hpre : (Pattern.toList ⟨'\r', ['\n']⟩).isPrefixOf ('\r' :: s) = false := by
    cases s with
    | nil => rfl
    | cons c s =>
      have hc : '\n' ≠ c := fun he => hs (by rw [← he]; rfl)
      simp [Pattern.toList, List.isPrefixOf, hc]
  unfold unifyBreaks
  rw [replaceAll_cons_of_isPrefixOf_eq_false _ _ hpre, replaceAll_cons,
    if_pos (by simp [Pattern.toList, List.isPrefixOf])]
  rfl

theorem splitLinesFrom_cons_of_ne_cr {c : Char} (hc : c ≠ '\r') (line : List Char)
    (done : Array (List Char)) (rest : List Char) :
    splitLinesFrom line done (c :: rest) =
      if isLineBreak c then splitLinesFrom [] (done.push line.reverse) rest
      else splitLinesFrom (c :: line) done rest :=
  splitLinesFrom_cons (fun _ h => absurd h hc)

/-- Unifying breaks does not move any line break: each `\r\n` and `\r` it rewrites was one break
and stays one. -/
theorem splitLinesFrom_unifyBreaks (line : List Char) (done : Array (List Char)) (cs : List Char) :
    splitLinesFrom line done (unifyBreaks cs) = splitLinesFrom line done cs := by
  induction line, done, cs using splitLinesFrom.induct with
  | case1 line done h => rw [unifyBreaks_nil]
  | case2 line done h => rw [unifyBreaks_nil]
  | case3 line done rest ih =>
    rw [unifyBreaks_crlf, splitLinesFrom_cons_of_ne_cr (by decide), if_pos (by decide), ih,
      splitLinesFrom_crlf]
  | case4 line done c rest hcr hc ih =>
    by_cases hcr' : c = '\r'
    · subst hcr'
      have hs : rest.head? ≠ some '\n' := by
        intro hs
        obtain ⟨rest', rfl⟩ : ∃ rest', rest = '\n' :: rest' := by
          cases rest with
          | nil => cases hs
          | cons x rest' => exact ⟨rest', by simpa using hs⟩
        exact hcr rest' rfl rfl
      rw [unifyBreaks_cr hs, splitLinesFrom_cons_of_ne_cr (by decide), if_pos (by decide), ih,
        splitLinesFrom_cons hcr, if_pos hc]
    · rw [unifyBreaks_cons_of_ne hcr', splitLinesFrom_cons_of_ne_cr hcr', if_pos hc, ih,
        splitLinesFrom_cons_of_ne_cr hcr', if_pos hc]
  | case5 line done c rest hcr hc ih =>
    have hcr' : c ≠ '\r' := fun he => hc (by rw [he]; decide)
    rw [unifyBreaks_cons_of_ne hcr', splitLinesFrom_cons_of_ne_cr hcr', if_neg hc, ih,
      splitLinesFrom_cons_of_ne_cr hcr', if_neg hc]

theorem splitLines_unifyBreaks (cs : List Char) : splitLines (unifyBreaks cs) = splitLines cs := by
  rw [splitLines, splitLinesFrom_unifyBreaks, splitLines]

theorem unifyBreaks_of_cr_not_mem {cs : List Char} (h : '\r' ∉ cs) : unifyBreaks cs = cs := by
  unfold unifyBreaks
  rw [replaceAll_of_occursIn_eq_false _ _ cs
      (occursIn_eq_false_of_not_mem _ (by simp [Pattern.toList]) cs h),
    replaceAll_of_occursIn_eq_false _ _ cs
      (occursIn_eq_false_of_not_mem _ (by simp [Pattern.toList]) cs h)]

theorem cr_not_mem_joinLines : (ls : List (List Char)) → (∀ l ∈ ls, BreakFree l) →
    '\r' ∉ joinLines ls
  | [], _ => by simp
  | [l], h => by
    rw [joinLines_singleton]
    exact fun hm => absurd (h l List.mem_cons_self '\r' hm) (by decide)
  | l :: m :: rest, h => by
    rw [joinLines_cons_cons]
    intro hm
    rcases List.mem_append.mp hm with hm | hm
    · exact absurd (h l List.mem_cons_self '\r' hm) (by decide)
    · rcases List.mem_cons.mp hm with he | hm
      · exact absurd he (by decide)
      · exact cr_not_mem_joinLines (m :: rest) (fun x hx => h x (List.mem_cons_of_mem _ hx)) hm

/-! ### The ends of written lines -/

theorem head?_joinLines_cons {l : List Char} (hl : l ≠ []) (rest : List (List Char)) :
    (joinLines (l :: rest)).head? = l.head? := by
  cases rest with
  | nil => rw [joinLines_singleton]
  | cons m rest =>
    obtain ⟨c, cs, rfl⟩ := List.exists_cons_of_ne_nil hl
    rw [joinLines_cons_cons]
    rfl

theorem getLast?_joinLines_concat (A : List (List Char)) {l : List Char} (hl : l ≠ []) :
    (joinLines (A ++ [l])).getLast? = l.getLast? := by
  cases A with
  | nil => rw [List.nil_append, joinLines_singleton]
  | cons a A =>
    rw [joinLines_append (List.cons_ne_nil _ _) (List.cons_ne_nil _ _), joinLines_singleton,
      List.getLast?_append_of_ne_nil _ (List.cons_ne_nil _ _), ← List.singleton_append,
      List.getLast?_append_of_ne_nil _ hl]

/-- Lines written one under the other make a trimmed text when the first starts and the last
ends with a character that is not blank. -/
theorem trimmed_joinLines {O : List (List Char)} (hne : ∀ o ∈ O, o ≠ [])
    (hhead : ∀ o ∈ O.head?, ∀ c ∈ o.head?, isBlank c = false)
    (hlast : ∀ o ∈ O.getLast?, ∀ c ∈ o.getLast?, isBlank c = false) : Trimmed (joinLines O) := by
  constructor
  · cases O with
    | nil => simp
    | cons o os =>
      rw [head?_joinLines_cons (hne o List.mem_cons_self)]
      exact hhead o rfl
  · obtain rfl | ⟨A, o, rfl⟩ := List.eq_nil_or_concat O
    · simp
    · simp only [List.concat_eq_append, List.mem_append, List.mem_singleton,
        List.getLast?_concat] at hne hlast ⊢
      rw [getLast?_joinLines_concat A (hne o (.inr rfl))]
      exact hlast o rfl

/-! ### Reindenting a text without blank lines -/

section NoBlankLines

variable {Y : List Char} (h : [] ∉ trimmedLines Y)
include h

/-- Each printed line ends as its merged line does, with a character that is not blank. -/
theorem solid_of_mem_printedLines {o : List Char} (ho : o ∈ printedLines Y) :
    o ≠ [] ∧ ∀ c ∈ o.getLast?, isBlank c = false := by
  obtain ⟨pre, m, -, hm, rfl⟩ := exists_of_mem_printedLines ho
  have hmne := ne_nil_of_mem_mergedLines h hm
  refine ⟨List.append_ne_nil_of_right_ne_nil pre hmne, ?_⟩
  rw [List.getLast?_append_of_ne_nil pre hmne]
  exact (trimmed_of_mem_mergedLines hm).2

/-- Read back, a reindented text without blank lines gives its printed lines. -/
theorem splitLines_reindent_of_solid : splitLines (Style.braces.reindent Y) = printedLines Y := by
  rw [reindent_eq, splitLines_joinLines _ (fun _ ho => breakFree_of_mem_printedLines ho),
    dropEmptyLast_of_getLast?_ne _ fun hl =>
      (solid_of_mem_printedLines h (List.mem_of_getLast? hl)).1 rfl]

theorem dropBlankLines_reindent :
    dropBlankLines (Style.braces.reindent Y) = Style.braces.reindent Y := by
  rw [dropBlankLines_eq, splitLines_reindent_of_solid h,
    filterMap_keepLine_of_forall _ fun _ ho => solid_of_mem_printedLines h ho, reindent_eq]

theorem trim_reindent : trim (Style.braces.reindent Y) = Style.braces.reindent Y := by
  rw [reindent_eq]
  refine trim_of_trimmed (trimmed_joinLines (fun _ ho => (solid_of_mem_printedLines h ho).1) ?_
    fun o ho => (solid_of_mem_printedLines h (List.mem_of_getLast? ho)).2)
  -- the first line is printed without indentation
  intro o ho
  cases hM : mergedLines Y with
  | nil => simp [printedLines, hM] at ho
  | cons m ms =>
    obtain ⟨os, hos⟩ := printedLines_of_mergedLines_eq_cons hM
    rw [hos] at ho
    obtain rfl : m = o := Option.some.inj ho
    exact (trimmed_of_mem_mergedLines (hM ▸ List.mem_cons_self)).1

end NoBlankLines

theorem unifyBreaks_reindent (t : List Char) :
    unifyBreaks (Style.braces.reindent t) = Style.braces.reindent t := by
  rw [reindent_eq]
  exact unifyBreaks_of_cr_not_mem (cr_not_mem_joinLines _ fun _ ho => breakFree_of_mem_printedLines ho)

/-! ### Tidying -/

/-- **Tidying is reindenting** the text with breaks unified and blank lines dropped: the passes
after the reindenting change nothing. -/
theorem tidy_eq (t : List Char) :
    Style.braces.tidy t = Style.braces.reindent (dropBlankLines (unifyBreaks t)) := by
  have h := nil_not_mem_trimmedLines_dropBlankLines (unifyBreaks t)
  rw [Style.tidy, dropBlankLines_reindent h, trim_reindent h]

/-- The lines that tidying indents: the trimmed lines of the text that are not empty, glued by the
merge rule. -/
theorem mergedLines_dropBlankLines_unifyBreaks (t : List Char) :
    mergedLines (dropBlankLines (unifyBreaks t)) =
      glue bracesRule ((trimmedLines t).filter (fun l => !l.isEmpty)) := by
  rw [mergedLines_of_nil_not_mem (nil_not_mem_trimmedLines_dropBlankLines _),
    trimmedLines_dropBlankLines, trimmedLines, splitLines_unifyBreaks]

/-- The reindenter reads a text only through its trimmed lines. -/
theorem reindent_eq_of_trimmedLines_eq {a b : List Char} (h : trimmedLines a = trimmedLines b) :
    Style.braces.reindent a = Style.braces.reindent b := by
  rw [reindent_eq, reindent_eq, printedLines, printedLines, mergedLines, mergedLines, h]

/-- Reading a text as a text file, its breaks unified, does not change how it is reindented. -/
theorem reindent_unifyBreaks (t : List Char) :
    Style.braces.reindent (unifyBreaks t) = Style.braces.reindent t :=
  reindent_eq_of_trimmedLines_eq (by rw [trimmedLines, trimmedLines, splitLines_unifyBreaks])

/-- On a text without blank lines, tidying is reindenting: the cleaning before it drops nothing
that the reindenter reads. -/
theorem tidy_eq_reindent_of_nil_not_mem {t : List Char} (h : [] ∉ trimmedLines t) :
    Style.braces.tidy t = Style.braces.reindent t := by
  rw [tidy_eq]
  refine reindent_eq_of_trimmedLines_eq ?_
  rw [trimmedLines_dropBlankLines, trimmedLines, splitLines_unifyBreaks, List.filter_eq_self]
  intro l hl
  simpa using fun he : l = [] => h (he ▸ hl)

/-- **Tidying twice is tidying once.** -/
theorem tidy_tidy (t : List Char) : Style.braces.tidy (Style.braces.tidy t) = Style.braces.tidy t := by
  have h := nil_not_mem_trimmedLines_dropBlankLines (unifyBreaks t)
  rw [tidy_eq t, Style.tidy, unifyBreaks_reindent, dropBlankLines_reindent h,
    reindent_reindent_of_nil_not_mem h, dropBlankLines_reindent h, trim_reindent h]

end Reindent.Proofs.Tidy
