import Reindent.Proofs.Blocks
import Reindent.Proofs.Comment

/-! # The depth of brackets

In a text without `/*` the scan never enters a block comment, and each line moves the depth by an
amount of its own, `lineShift`: every opener of its active part adds a level, and a line whose
active part starts with a closer goes one level out in all, while any other line goes one level out
for each of its closers. As long as no line is clamped at zero, a line is printed at the depth of
the shifts of the lines before it, one level less when it starts with a closer
(`getElem?_indentFrom_outside`).

No line is clamped when no stretch of the active parts, read from the start, holds more closers
than openers (`Balanced`). Then the depth that counts every bracket once (`bracketSum`) leaves
room for the leading closer of the next line (`lead_le_bracketSum_take`), and the shifts add up to
at least that depth, since a line that starts with a closer holds one (`bracketSum_le_shiftSum`).
So every line of the reindented text is four spaces for each level of the shifts before it, one
level less when it starts with a closer, then the merged line (`indentedBy_shiftSum`).

The scan skips the closers of a line that starts with one so as not to count the leading closer
twice, but it skips all of them, not only that one. So counting every bracket once gives another
depth after a line that starts with a closer and holds another: a line `}}` goes one level out,
not two, and every line after it stays a level deeper (`not_indentedBy_bracketSum_double_closer`).
-/

namespace Reindent.Proofs.Depth

open Reindent.Text Reindent.Layout Reindent.Proofs.Search Reindent.Proofs.Lines
open Reindent.Proofs.Trim Reindent.Proofs.Glue Reindent.Proofs.Merge Reindent.Proofs.Scan
open Reindent.Proofs.Output Reindent.Proofs.Blocks Reindent.Proofs.Comment

section Counts

variable (st : Style)

/-- One level for a line whose active part starts with a closer: it is printed one level out. -/
def lead (m : List Char) : Int :=
  if startsWithAny st.closers (st.active m) then 1 else 0

/-- The openers of a line's active part less its closers. -/
def bracketBalance (m : List Char) : Int :=
  countAmong st.openers (st.active m) - countAmong st.closers (st.active m)

/-- What a line does to the depth outside comments when it is not clamped: each opener of its
active part adds a level; a line that starts with a closer goes one level out in all, any other
line one level for each closer. -/
def lineShift (m : List Char) : Int :=
  countAmong st.openers (st.active m) -
    (if startsWithAny st.closers (st.active m) then 1 else countAmong st.closers (st.active m))

/-- The balances of the lines, added up: the depth if every bracket counts once. -/
def bracketSum (ls : List (List Char)) : Int :=
  (ls.map (bracketBalance st)).foldr (· + ·) 0

/-- The shifts of the lines, added up. -/
def shiftSum (ls : List (List Char)) : Int :=
  (ls.map (lineShift st)).foldr (· + ·) 0

/-- No stretch of a text read from its start holds more closers than openers. -/
def Balanced (s : List Char) : Prop :=
  ∀ p ∈ s.inits, countAmong st.closers p ≤ countAmong st.openers p

instance (s : List Char) : Decidable (Balanced st s) :=
  inferInstanceAs (Decidable (∀ p ∈ s.inits, countAmong st.closers p ≤ countAmong st.openers p))

@[simp] theorem bracketSum_nil : bracketSum st [] = 0 := rfl

@[simp] theorem bracketSum_cons (m : List Char) (ls : List (List Char)) :
    bracketSum st (m :: ls) = bracketBalance st m + bracketSum st ls := rfl

@[simp] theorem shiftSum_nil : shiftSum st [] = 0 := rfl

@[simp] theorem shiftSum_cons (m : List Char) (ls : List (List Char)) :
    shiftSum st (m :: ls) = lineShift st m + shiftSum st ls := rfl

@[simp] theorem countAmong_nil (cs : List Char) : countAmong cs [] = 0 := rfl

theorem countAmong_append (cs a b : List Char) :
    countAmong cs (a ++ b) = countAmong cs a + countAmong cs b := by
  simp [countAmong, List.countP_append]

/-- The balances add up to the openers less the closers of all the active parts. -/
theorem bracketSum_eq (ls : List (List Char)) :
    bracketSum st ls =
      countAmong st.openers (ls.map st.active).flatten -
        countAmong st.closers (ls.map st.active).flatten := by
  induction ls with
  | nil => rfl
  | cons m ls ih =>
    rw [bracketSum_cons, ih, bracketBalance, List.map_cons, List.flatten_cons, countAmong_append,
      countAmong_append]
    omega

/-- A text that starts with one of `cs` is that character, then the rest. -/
theorem exists_cons_of_startsWithAny {cs a : List Char} (h : startsWithAny cs a = true) :
    ∃ c rest, a = c :: rest ∧ c ∈ cs := by
  cases a with
  | nil => simp [startsWithAny] at h
  | cons c rest => exact ⟨c, rest, rfl, by simpa [startsWithAny] using h⟩

theorem one_le_countAmong_of_startsWithAny {cs a : List Char} (h : startsWithAny cs a = true) :
    1 ≤ countAmong cs a := by
  obtain ⟨c, rest, rfl, hc⟩ := exists_cons_of_startsWithAny h
  simp only [countAmong, List.countP_cons, List.contains_iff_mem.mpr hc, if_true]
  omega

/-- A line that starts with a closer holds one, so it goes out no further than its brackets. -/
theorem bracketBalance_le_lineShift (m : List Char) : bracketBalance st m ≤ lineShift st m := by
  unfold bracketBalance lineShift
  split
  · next h =>
    have := one_le_countAmong_of_startsWithAny h
    omega
  · omega

theorem bracketSum_le_shiftSum (ls : List (List Char)) : bracketSum st ls ≤ shiftSum st ls := by
  induction ls with
  | nil => exact Int.le_refl 0
  | cons m ls ih =>
    have := bracketBalance_le_lineShift st m
    rw [bracketSum_cons, shiftSum_cons]
    omega

/-- **Room for a leading closer.** When no closer of a style opens too, and no stretch of the
active parts read from the start holds more closers than openers, the brackets of the lines before
a line count at least the level its leading closer takes. -/
theorem lead_le_bracketSum_take
    (hdisj : ∀ c, st.closers.contains c = true → st.openers.contains c = false)
    {ls : List (List Char)} (hbal : Balanced st (ls.map st.active).flatten) {i : Nat}
    (hi : i < ls.length) : lead st ls[i] ≤ bracketSum st (ls.take i) := by
  -- the active parts before line `i`, then that of line `i`, start the text of all of them
  have hsplit : (ls.map st.active).flatten =
      ((ls.take i).map st.active).flatten ++
        (st.active ls[i] ++ ((ls.drop (i + 1)).map st.active).flatten) := by
    conv_lhs => rw [← List.take_append_drop i ls, List.drop_eq_getElem_cons hi]
    simp only [List.map_append, List.map_cons, List.flatten_append, List.flatten_cons]
  rw [bracketSum_eq]
  unfold lead
  split
  · next hs =>
    obtain ⟨c, a, ha, hc⟩ := exists_cons_of_startsWithAny hs
    have hp : ((ls.take i).map st.active).flatten ++ [c] ∈ (ls.map st.active).flatten.inits := by
      rw [List.mem_inits, hsplit, ha]
      simp
    have hb := hbal _ hp
    have ho : c ∉ st.openers := by simpa using hdisj c (List.contains_iff_mem.mpr hc)
    have h1 : countAmong st.closers [c] = 1 := by simp [countAmong, hc]
    have h0 : countAmong st.openers [c] = 0 := by simp [countAmong, ho]
    rw [countAmong_append, countAmong_append, h1, h0] at hb
    omega
  · have hp : ((ls.take i).map st.active).flatten ∈ (ls.map st.active).flatten.inits := by
      rw [List.mem_inits, hsplit]
      exact List.prefix_append _ _
    have hb := hbal _ hp
    omega

/-- So the shifts of the lines before a line leave room for its leading closer. -/
theorem lead_le_shiftSum_take
    (hdisj : ∀ c, st.closers.contains c = true → st.openers.contains c = false)
    {ls : List (List Char)} (hbal : Balanced st (ls.map st.active).flatten) {i : Nat}
    (hi : i < ls.length) : lead st ls[i] ≤ shiftSum st (ls.take i) :=
  Int.le_trans (lead_le_bracketSum_take st hdisj hbal hi) (bracketSum_le_shiftSum st _)

end Counts

/-! ### The scan outside comments -/

section Outside

variable (st : Style)

theorem rawDepth_outside (d : Int) (m : List Char) :
    rawDepth st ⟨false, d⟩ m = d - lead st m := by
  unfold rawDepth lead
  cases startsWithAny st.closers (st.active m) <;> simp

/-- **One line outside comments**, when it is not clamped: it is printed behind the indentation of
its depth, one level less when it starts with a closer, and the depth moves by its shift. A line
without `/*` leaves the scan outside comments. -/
theorem step_outside {m : List Char} (hm : occursIn st.blockOpen m = false) {d : Int}
    (hd : 0 ≤ d - lead st m) :
    st.step ⟨false, d⟩ m =
      ((List.replicate (d - lead st m).toNat st.indent).flatten ++ trim m,
        ⟨false, d + lineShift st m⟩) := by
  have hmark : mark st ⟨false, d⟩ m = [] := by simp [mark]
  rw [step_eq, rawDepth_outside, Int.max_eq_right hd, hmark, List.append_nil]
  simp only [hm, Bool.or_false, Bool.and_false, Prod.mk.injEq, Scan.mk.injEq, true_and]
  unfold change lineShift lead
  split <;> (simp only [Bool.false_eq_true, if_false]; omega)

/-- **A run outside comments without clamping**: each line is printed behind the indentation of
the depth it enters at, the start plus the shifts of the lines before it, one level less when it
starts with a closer. -/
theorem getElem?_indentFrom_outside : (ls : List (List Char)) →
    (∀ m ∈ ls, occursIn st.blockOpen m = false) → (d : Int) →
    (∀ i (hi : i < ls.length), 0 ≤ d + shiftSum st (ls.take i) - lead st ls[i]) →
    ∀ i (hi : i < ls.length), (st.indentFrom ⟨false, d⟩ ls)[i]? =
      some ((List.replicate (d + shiftSum st (ls.take i) - lead st ls[i]).toNat
        st.indent).flatten ++ trim ls[i])
  | [], _, _, _, i, hi => absurd hi (Nat.not_lt_zero i)
  | m :: ms, hls, d, hd, i, hi => by
    have h0 : 0 ≤ d - lead st m := by simpa using hd 0 (Nat.zero_lt_succ _)
    rw [indentFrom_cons, step_outside st (hls m List.mem_cons_self) h0]
    cases i with
    | zero => simp
    | succ j =>
      -- the rest is a run from the depth after `m`
      have hd' : ∀ j (hj : j < ms.length),
          0 ≤ d + lineShift st m + shiftSum st (ms.take j) - lead st ms[j] := by
        intro j hj
        have := hd (j + 1) (by simpa using hj)
        simp only [List.take_succ_cons, shiftSum_cons, List.getElem_cons_succ] at this
        omega
      rw [List.getElem?_cons_succ,
        getElem?_indentFrom_outside ms (fun x hx => hls x (List.mem_cons_of_mem _ hx))
          (d + lineShift st m) hd' j (by simpa using hi)]
      simp only [List.take_succ_cons, shiftSum_cons, List.getElem_cons_succ, Int.add_assoc]

end Outside

/-! ### Texts without block comments -/

/-- Every line `i` of the reindented text is its merged line behind four spaces for each level of
`depth` over the merged lines before it, one level less when its active part starts with a
closer. -/
def IndentedBy (depth : List (List Char) → Int) (t : List Char) : Prop :=
  ∀ i (hi : i < (splitLines (Style.braces.mergeLines t)).length),
    (cutAt newline (Style.braces.reindent t))[i]? =
      some (List.replicate (4 * (depth ((splitLines (Style.braces.mergeLines t)).take i) -
          lead Style.braces (splitLines (Style.braces.mergeLines t))[i]).toNat) ' ' ++
        (splitLines (Style.braces.mergeLines t))[i])

instance (depth : List (List Char) → Int) (t : List Char) : Decidable (IndentedBy depth t) :=
  inferInstanceAs (Decidable (∀ i (hi : i < (splitLines (Style.braces.mergeLines t)).length),
    (cutAt newline (Style.braces.reindent t))[i]? =
      some (List.replicate (4 * (depth ((splitLines (Style.braces.mergeLines t)).take i) -
          lead Style.braces (splitLines (Style.braces.mergeLines t))[i]).toNat) ' ' ++
        (splitLines (Style.braces.mergeLines t))[i])))

theorem braces_closer_not_opener (c : Char) (h : Style.braces.closers.contains c = true) :
    Style.braces.openers.contains c = false := by
  have : c = '}' ∨ c = ']' := by simpa [Style.braces] using h
  rcases this with rfl | rfl <;> decide

/-- No pattern of two characters runs across a seam where the second text does not start with its
second character. -/
theorem occursIn_pair_append_eq_false {x y : Char} {b : List Char} (hb : b.head? ≠ some y)
    (hbo : occursIn ⟨x, [y]⟩ b = false) :
    (a : List Char) → occursIn ⟨x, [y]⟩ a = false → occursIn ⟨x, [y]⟩ (a ++ b) = false
  | [], _ => hbo
  | [c], _ => by
    rw [List.singleton_append, occursIn_cons, hbo, Bool.or_false]
    cases b with
    | nil => simp [Pattern.toList, List.isPrefixOf]
    | cons e b =>
      have he : y ≠ e := fun h => hb (by rw [h]; rfl)
      simp [Pattern.toList, List.isPrefixOf, he]
  | c :: d :: a, ha => by
    rw [occursIn_pair_cons_cons, Bool.or_eq_false_iff] at ha
    rw [List.cons_append, List.cons_append, occursIn_pair_cons_cons, ← List.cons_append,
      occursIn_pair_append_eq_false hb hbo (d :: a) ha.2, ha.1]
    rfl

/-- The merge joins a line only to one that starts with `}`, `]` or `;`. -/
theorem head?_of_bracesRule {x y : Option Char} (h : bracesRule x y = true) :
    y = some '}' ∨ y = some ']' ∨ y = some ';' := by
  simp only [bracesRule, pairRule, leadRule, Bool.or_eq_true, Bool.and_eq_true, beq_iff_eq] at h
  rcases h with (⟨-, h⟩ | ⟨-, h⟩) | h
  · exact .inl h
  · exact .inr (.inl h)
  · exact .inr (.inr h)

/-- A merged line of a text without `/*` holds none: trimming keeps pieces of the lines of the
text, and the merge joins a line only to one that starts with `}`, `]` or `;`, never with `*`. -/
theorem occursIn_opener_eq_false_of_mem {t m : List Char} (hno : ¬ ['/', '*'] <:+: t)
    (hm : m ∈ splitLines (Style.braces.mergeLines t)) : occursIn opener m = false := by
  rw [splitLines_mergeLines] at hm
  refine mem_glue_of_join (P := fun l => occursIn opener l = false) bracesRule_none
    (fun a b hab ha hb => occursIn_pair_append_eq_false ?_ hb a ha) _ (fun l hl => ?_) m
    (mem_glue_of_mem_mergedLines hm)
  · rcases head?_of_bracesRule hab with h | h | h <;> rw [h] <;> simp
  · obtain ⟨l', hl', rfl⟩ := List.mem_map.mp hl
    rw [Bool.eq_false_iff]
    intro ho
    rw [occursIn_eq_true_iff] at ho
    exact hno (ho.trans ((trim_isInfix l').trans (infix_of_mem_splitLines hl')))

/-- **Depth in a text without block comments.** In a text without `/*` whose active parts, read
from the start, never hold more closers than openers, every line is printed behind four spaces
for each level of the shifts of the lines before it, one level less when it starts with a
closer. -/
theorem indentedBy_shiftSum {t : List Char} (hno : ¬ ['/', '*'] <:+: t)
    (hbal : Balanced Style.braces
      ((splitLines (Style.braces.mergeLines t)).map Style.braces.active).flatten) :
    IndentedBy (shiftSum Style.braces) t := by
  intro i hi
  have hopen : ∀ m ∈ splitLines (Style.braces.mergeLines t),
      occursIn Style.braces.blockOpen m = false :=
    fun m hm => occursIn_opener_eq_false_of_mem hno hm
  have hroom : ∀ j (hj : j < (splitLines (Style.braces.mergeLines t)).length),
      0 ≤ 0 + shiftSum Style.braces ((splitLines (Style.braces.mergeLines t)).take j) -
        lead Style.braces (splitLines (Style.braces.mergeLines t))[j] := by
    intro j hj
    have := lead_le_shiftSum_take Style.braces braces_closer_not_opener hbal hj
    omega
  have hne : Style.braces.indentFrom Scan.start (splitLines (Style.braces.mergeLines t)) ≠ [] := by
    rw [← List.length_pos_iff, length_indentFrom]
    omega
  have hbreak := breakFree_of_mem_indentFrom Style.braces breakFree_braces_indent Scan.start
    (splitLines (Style.braces.mergeLines t)) (fun _ hl => breakFree_of_mem_splitLines hl)
  have htrim : ∀ m ∈ splitLines (Style.braces.mergeLines t), trim m = m := by
    intro m hm
    rw [splitLines_mergeLines] at hm
    exact trim_of_trimmed (trimmed_of_mem_mergedLines hm)
  rw [Style.reindent, cutAt_newline_joinLines _ hne hbreak,
    show Scan.start = ⟨false, 0⟩ from rfl,
    getElem?_indentFrom_outside Style.braces _ hopen 0 hroom i hi, htrim _ (List.getElem_mem hi),
    Int.zero_add,
    flatten_replicate_indent]

/-- A line that closes a level and then another is printed one level out, and so are the lines
after it. -/
theorem indentedBy_shiftSum_two_closers :
    ¬ ['/', '*'] <:+: "a \x7b\nb [\n1,\n]\x7d\nc".toList ∧
      Balanced Style.braces ((splitLines (Style.braces.mergeLines
        "a \x7b\nb [\n1,\n]\x7d\nc".toList)).map Style.braces.active).flatten ∧
      IndentedBy (shiftSum Style.braces) "a \x7b\nb [\n1,\n]\x7d\nc".toList :=
  ⟨by decide +kernel, by decide +kernel,
    indentedBy_shiftSum (by decide +kernel) (by decide +kernel)⟩

/-- After a line `}}` the depth counting every bracket once is one level below the depth the
lines are printed at. -/
theorem not_indentedBy_bracketSum_double_closer :
    ¬ ['/', '*'] <:+: "\x7b\n\x7b\nb\n\x7d\x7d\nx".toList ∧
      Balanced Style.braces ((splitLines (Style.braces.mergeLines
        "\x7b\n\x7b\nb\n\x7d\x7d\nx".toList)).map Style.braces.active).flatten ∧
      ¬ IndentedBy (bracketSum Style.braces) "\x7b\n\x7b\nb\n\x7d\x7d\nx".toList := by
  decide +kernel

end Reindent.Proofs.Depth
