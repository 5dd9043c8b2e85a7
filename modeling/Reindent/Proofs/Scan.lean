import Reindent.Layout.Scan
import Reindent.Proofs.Lines
import Reindent.Proofs.Trim

/-! # The indenting scan, one line at a time

`Style.step` prints a line behind the indentation of its depth and moves the scan on. Its parts
are named here: the depth a line would have before it is clamped at zero (`rawDepth`), the extra
space of a comment continuation (`mark`), and what the line does to the depth (`change`), so that
one equation, `step_eq`, says all a step does. From it:

* `map_trim_indentFrom`: trimming the printed lines gives back the trimmed lines, since only
  blanks are put in front of them;
* `indentFrom_append`: a run over two blocks of lines is the run over the first, then a run over
  the second from where the first ended (`scanAfter`);
* `indentFrom_shift`: a run started deeper by `d` levels prints every line `d` levels deeper, as
  long as no line of the run from the shallower start is clamped (`ClampFree`).
-/

namespace Reindent.Proofs.Scan

open Reindent.Text Reindent.Layout Reindent.Proofs.Lines Reindent.Proofs.Trim

variable (st : Style)

/-- The depth of a line before it is clamped at zero: one level out when, outside a comment, its
active part starts with a closer. -/
def rawDepth (s : Scan) (line : List Char) : Int :=
  if !s.inComment && startsWithAny st.closers (st.active line) then s.depth - 1 else s.depth

/-- The space put before a continuation line of a block comment. -/
def mark (s : Scan) (line : List Char) : List Char :=
  if s.inComment && (st.active line).head? == some st.continuation then [' '] else []

/-- What a line does to the depth after it is printed: nothing inside a comment, else its openers
add a level each and, unless it started with a closer, its closers take one away each. -/
def change (s : Scan) (line : List Char) : Int :=
  if s.inComment then 0
  else countAmong st.openers (st.active line) -
    (if startsWithAny st.closers (st.active line) then 0 else countAmong st.closers (st.active line))

/-- The scan after a run over the lines. -/
def scanAfter (s : Scan) (lines : List (List Char)) : Scan :=
  lines.foldl (fun s l => (st.step s l).2) s

/-- No line of the run from `s` has a negative depth before the clamp. -/
def ClampFree : Scan → List (List Char) → Prop
  | _, [] => True
  | s, l :: ls => 0 ≤ rawDepth st s l ∧ ClampFree (st.step s l).2 ls

instance decidableClampFree : (s : Scan) → (ls : List (List Char)) → Decidable (ClampFree st s ls)
  | _, [] => isTrue trivial
  | s, l :: ls =>
    have := decidableClampFree (st.step s l).2 ls
    inferInstanceAs (Decidable (0 ≤ rawDepth st s l ∧ ClampFree st (st.step s l).2 ls))

/-- **All a step does.** -/
theorem step_eq (s : Scan) (line : List Char) :
    st.step s line =
      ((List.replicate (max 0 (rawDepth st s line)).toNat st.indent).flatten ++ mark st s line ++
          trim line,
        ⟨!st.leavesComment line && (s.inComment || occursIn st.blockOpen line),
          max 0 (rawDepth st s line) + change st s line⟩) := by
  simp only [Style.step, rawDepth, mark, change]
  cases s.inComment <;> simp [Int.add_sub_assoc]

@[simp] theorem scanAfter_nil (s : Scan) : scanAfter st s [] = s := rfl

@[simp] theorem scanAfter_cons (s : Scan) (l : List Char) (ls : List (List Char)) :
    scanAfter st s (l :: ls) = scanAfter st (st.step s l).2 ls := rfl

@[simp] theorem indentFrom_nil (s : Scan) : st.indentFrom s [] = [] := rfl

theorem indentFrom_cons (s : Scan) (l : List Char) (ls : List (List Char)) :
    st.indentFrom s (l :: ls) = (st.step s l).1 :: st.indentFrom (st.step s l).2 ls := rfl

@[simp] theorem length_indentFrom (s : Scan) (ls : List (List Char)) :
    (st.indentFrom s ls).length = ls.length := by
  induction ls generalizing s with
  | nil => rfl
  | cons l ls ih => simp [indentFrom_cons, ih]

/-- A run over two blocks: the second block starts where the first ended. -/
theorem indentFrom_append (s : Scan) (A B : List (List Char)) :
    st.indentFrom s (A ++ B) = st.indentFrom s A ++ st.indentFrom (scanAfter st s A) B := by
  induction A generalizing s with
  | nil => rfl
  | cons l A ih => simp [indentFrom_cons, ih]

/-- **Line `i` of a run** is printed from the scan after the lines before it. -/
theorem getElem?_indentFrom (s : Scan) (ls : List (List Char)) (i : Nat) (hi : i < ls.length) :
    (st.indentFrom s ls)[i]? = some (st.step (scanAfter st s (ls.take i)) ls[i]).1 := by
  induction ls generalizing s i with
  | nil => exact absurd hi (Nat.not_lt_zero i)
  | cons l ls ih =>
    cases i with
    | zero => rfl
    | succ j =>
      -- the rest of the run starts from the scan after `l`
      rw [indentFrom_cons, List.getElem?_cons_succ, ih _ j (by simpa using hi)]
      rfl

/-! ### Only blanks are put in front -/

theorem allBlank_mark (s : Scan) (line : List Char) : AllBlank (mark st s line) := by
  unfold mark
  split
  · intro c hc
    rw [List.mem_singleton.mp hc]
    decide
  · exact allBlank_nil

theorem allBlank_indentation (h : AllBlank st.indent) (n : Nat) :
    AllBlank (List.replicate n st.indent).flatten := by
  intro c hc
  obtain ⟨l, hl, hcl⟩ := List.mem_flatten.mp hc
  rw [List.eq_of_mem_replicate hl] at hcl
  exact h c hcl

/-- The printed line is blanks in front of the trimmed line. -/
theorem step_fst_eq (h : AllBlank st.indent) (s : Scan) (line : List Char) :
    ∃ pre, AllBlank pre ∧ (st.step s line).1 = pre ++ trim line := by
  rw [step_eq]
  exact ⟨_, allBlank_append.mpr ⟨allBlank_indentation st h _, allBlank_mark st s line⟩, rfl⟩

theorem trim_step_fst (h : AllBlank st.indent) (s : Scan) (line : List Char) :
    trim (st.step s line).1 = trim line := by
  obtain ⟨pre, hpre, he⟩ := step_fst_eq st h s line
  rw [he, trim_blank_append hpre, trim_trim]

theorem map_trim_indentFrom (h : AllBlank st.indent) (s : Scan) (ls : List (List Char)) :
    (st.indentFrom s ls).map trim = ls.map trim := by
  induction ls generalizing s with
  | nil => rfl
  | cons l ls ih => simp [indentFrom_cons, trim_step_fst st h, ih]

theorem breakFree_step_fst (h : BreakFree st.indent) (s : Scan) {line : List Char}
    (hl : BreakFree line) : BreakFree (st.step s line).1 := by
  have hmark : BreakFree (mark st s line) := by
    unfold mark
    split
    · exact breakFree_cons.mpr ⟨by decide, breakFree_nil⟩
    · exact breakFree_nil
  rw [step_eq]
  refine breakFree_append.mpr ⟨breakFree_append.mpr ⟨?_, hmark⟩, hl.sublist (trim_sublist line)⟩
  exact breakFree_flatten (fun x hx => (List.eq_of_mem_replicate hx) ▸ h)

theorem breakFree_of_mem_indentFrom (h : BreakFree st.indent) (s : Scan) (ls : List (List Char))
    (hls : ∀ l ∈ ls, BreakFree l) : ∀ o ∈ st.indentFrom s ls, BreakFree o := by
  induction ls generalizing s with
  | nil => simp
  | cons l ls ih =>
    rw [indentFrom_cons]
    intro o ho
    rcases List.mem_cons.mp ho with rfl | ho
    · exact breakFree_step_fst st h s (hls l List.mem_cons_self)
    · exact ih _ (fun x hx => hls x (List.mem_cons_of_mem _ hx)) o ho

/-- Every printed line is blanks in front of one of the trimmed lines. -/
theorem exists_of_mem_indentFrom (h : AllBlank st.indent) (s : Scan) (ls : List (List Char)) :
    ∀ o ∈ st.indentFrom s ls, ∃ pre l, AllBlank pre ∧ l ∈ ls ∧ o = pre ++ trim l := by
  induction ls generalizing s with
  | nil => simp
  | cons l ls ih =>
    rw [indentFrom_cons]
    intro o ho
    rcases List.mem_cons.mp ho with rfl | ho
    · obtain ⟨pre, hpre, he⟩ := step_fst_eq st h s l
      exact ⟨pre, l, hpre, List.mem_cons_self, he⟩
    · obtain ⟨pre, l', hpre, hl', he⟩ := ih _ o ho
      exact ⟨pre, l', hpre, List.mem_cons_of_mem _ hl', he⟩

/-- The first line of a run from the start is printed without indentation. -/
theorem step_start_fst (line : List Char) : (st.step Scan.start line).1 = trim line := by
  have : max 0 (rawDepth st Scan.start line) = 0 := by
    unfold rawDepth Scan.start
    split
    · decide
    · rfl
  rw [step_eq, this]
  simp [mark, Scan.start]

/-! ### A deeper start -/

theorem rawDepth_shift (s : Scan) (d : Nat) (line : List Char) :
    rawDepth st ⟨s.inComment, s.depth + d⟩ line = rawDepth st s line + d := by
  unfold rawDepth
  dsimp only
  split <;> omega

/-- **One step from a deeper start**, when the line is not clamped. -/
theorem step_shift (s : Scan) (d : Nat) (line : List Char) (h : 0 ≤ rawDepth st s line) :
    st.step ⟨s.inComment, s.depth + d⟩ line =
      ((List.replicate d st.indent).flatten ++ (st.step s line).1,
        ⟨(st.step s line).2.inComment, (st.step s line).2.depth + d⟩) := by
  have hmax : max 0 (rawDepth st s line + d) = max 0 (rawDepth st s line) + d := by omega
  have hnat : (max 0 (rawDepth st s line) + d).toNat = d + (max 0 (rawDepth st s line)).toNat := by
    omega
  rw [step_eq, step_eq, rawDepth_shift, hmax, hnat, ← List.replicate_append_replicate,
    List.flatten_append]
  simp only [mark, change, List.append_assoc, Prod.mk.injEq, Scan.mk.injEq, true_and]
  omega

/-- **A run from a deeper start** prints every line deeper by the same levels. -/
theorem indentFrom_shift (d : Nat) : (s : Scan) → (ls : List (List Char)) → ClampFree st s ls →
    st.indentFrom ⟨s.inComment, s.depth + d⟩ ls =
      (st.indentFrom s ls).map ((List.replicate d st.indent).flatten ++ ·)
  | _, [], _ => rfl
  | s, l :: ls, h => by
    rw [indentFrom_cons, step_shift st s d l h.1, indentFrom_cons, List.map_cons,
      indentFrom_shift d (st.step s l).2 ls h.2]

end Reindent.Proofs.Scan
