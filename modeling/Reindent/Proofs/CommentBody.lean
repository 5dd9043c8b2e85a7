import Reindent.Proofs.Search
import Reindent.Proofs.Scan

/-! # Block comment bodies

Inside a block comment the scan neither dedents nor counts brackets. A line read inside a comment
is printed at the carried depth clamped at zero, with one more space when its active part starts
with `*`, and it hands that clamped depth on (`step_inComment`). So the lines of one comment are
all printed at one depth.

A *body line* holds neither `/*` nor `*/`, and keeps the scan inside the comment (`step_inert`).
The only trace it leaves is the clamp, and the next line read inside the comment clamps again
(`indentFrom_clamp`). So body lines can be dropped, or replaced by any other body lines, and every
other line is printed as before (`indentFrom_replace_inert`): brackets inside a block comment
never move the depth (`comment_body_inert`).
-/

namespace Reindent.Proofs.CommentBody

open Reindent.Text Reindent.Layout Reindent.Proofs.Search Reindent.Proofs.Scan

variable (st : Style)

/-- A body line of a block comment: it holds neither the opening nor the closing marker. -/
def Inert (l : List Char) : Prop :=
  occursIn st.blockOpen l = false ∧ occursIn st.blockClose l = false

/-- **One line read inside a comment**: printed at the carried depth clamped at zero, it hands on
the clamped depth, and leaves the comment exactly when the line says so. -/
theorem step_inComment (d : Int) (l : List Char) :
    st.step ⟨true, d⟩ l =
      ((List.replicate (max 0 d).toNat st.indent).flatten ++
          (if (st.active l).head? == some st.continuation then [' '] else []) ++ trim l,
        ⟨!st.leavesComment l, max 0 d⟩) := by
  rw [step_eq]
  simp [rawDepth, mark, change]

theorem leavesComment_of_inert {l : List Char} (hl : Inert st l) : st.leavesComment l = false := by
  rw [Style.leavesComment, cutAt_of_occursIn_eq_false _ _ hl.1]
  simp [hl.2]

/-- A body line keeps the scan inside the comment, at the clamped depth. -/
theorem step_inert {l : List Char} (hl : Inert st l) (d : Int) :
    (st.step ⟨true, d⟩ l).2 = ⟨true, max 0 d⟩ := by
  rw [step_inComment, leavesComment_of_inert st hl]
  rfl

/-- Inside a comment the depth is clamped before it is used, so a run cannot tell a depth from
its clamp. -/
theorem indentFrom_clamp (d : Int) (ls : List (List Char)) :
    st.indentFrom ⟨true, d⟩ ls = st.indentFrom ⟨true, max 0 d⟩ ls := by
  cases ls with
  | nil => rfl
  | cons l ls =>
    have hd : max 0 (max 0 d) = max 0 d := by omega
    rw [indentFrom_cons, indentFrom_cons, step_inComment, step_inComment, hd]

/-- Body lines and then any lines: the lines after the body are printed from the clamped depth,
however many body lines there are. -/
theorem indentFrom_inert_append (X B : List (List Char)) (hX : ∀ y ∈ X, Inert st y) (d : Int) :
    st.indentFrom ⟨true, d⟩ (X ++ B) =
      st.indentFrom ⟨true, d⟩ X ++ st.indentFrom ⟨true, max 0 d⟩ B := by
  induction X generalizing d with
  | nil => rw [List.nil_append, indentFrom_nil, List.nil_append, indentFrom_clamp]
  | cons y X ih =>
    have hd : max 0 (max 0 d) = max 0 d := by omega
    rw [List.cons_append, indentFrom_cons, indentFrom_cons, step_inert st (hX y List.mem_cons_self),
      ih (fun z hz => hX z (List.mem_cons_of_mem _ hz)), hd, List.cons_append]

/-- **Replacing a body line** by any body lines, none included: the lines before it and the lines
after it are printed as before. -/
theorem indentFrom_replace_inert (s : Scan) (A B X : List (List Char)) {x : List Char}
    (hA : (scanAfter st s A).inComment = true) (hx : Inert st x) (hX : ∀ y ∈ X, Inert st y) :
    st.indentFrom s (A ++ X ++ B) =
      st.indentFrom s A ++ st.indentFrom (scanAfter st s A) X ++
        (st.indentFrom s (A ++ x :: B)).drop (A.length + 1) := by
  -- after `A` the scan is inside the comment, at some depth `d`
  obtain ⟨d, hd⟩ : ∃ d, scanAfter st s A = ⟨true, d⟩ := ⟨_, by rw [← hA]⟩
  have hxB : st.indentFrom ⟨true, d⟩ (x :: B) =
      (st.step ⟨true, d⟩ x).1 :: st.indentFrom ⟨true, max 0 d⟩ B := by
    rw [indentFrom_cons, step_inert st hx]
  have hlen : (st.indentFrom s A ++ [(st.step ⟨true, d⟩ x).1]).length = A.length + 1 := by simp
  rw [List.append_assoc, indentFrom_append st s A (X ++ B), indentFrom_append st s A (x :: B), hd,
    indentFrom_inert_append st X B hX d, hxB, List.append_cons, List.drop_left' hlen,
    List.append_assoc]

/-- **Block comment bodies are inert.** In a run of the scan over any lines, in the brace style:

* a line read inside a comment is printed at the carried depth clamped at zero, with one more
  space when its active part starts with `*`, behind the line trimmed;
* a line read inside a comment hands on its depth clamped, so the next line, if still inside,
  is printed at the same depth;
* a body line (neither `/*` nor `*/`) read inside a comment can be dropped, or replaced by any
  body lines, and every other line is printed as before. -/
theorem comment_body_inert (s : Scan) (ls : List (List Char)) :
    (∀ i (hi : i < ls.length),
      (scanAfter Style.braces s (ls.take i)).inComment = true →
        (Style.braces.indentFrom s ls)[i]? =
          some ((List.replicate (max 0 (scanAfter Style.braces s (ls.take i)).depth).toNat
              Style.braces.indent).flatten ++
            (if (Style.braces.active ls[i]).head? == some '*' then [' '] else []) ++ trim ls[i])) ∧
    (∀ i, i < ls.length →
      (scanAfter Style.braces s (ls.take i)).inComment = true →
        max 0 (scanAfter Style.braces s (ls.take (i + 1))).depth =
          max 0 (scanAfter Style.braces s (ls.take i)).depth) ∧
    ∀ (A B X : List (List Char)) (x : List Char),
      (scanAfter Style.braces s A).inComment = true → Inert Style.braces x →
      (∀ y ∈ X, Inert Style.braces y) →
        (Style.braces.indentFrom s (A ++ X ++ B)).take A.length =
            (Style.braces.indentFrom s (A ++ x :: B)).take A.length ∧
          (Style.braces.indentFrom s (A ++ X ++ B)).drop (A.length + X.length) =
            (Style.braces.indentFrom s (A ++ x :: B)).drop (A.length + 1) := by
  refine ⟨fun i hi hin => ?_, fun i hi hin => ?_, fun A B X x hA hx hX => ?_⟩
  · obtain ⟨d, hd⟩ : ∃ d, scanAfter Style.braces s (ls.take i) = ⟨true, d⟩ := ⟨_, by rw [← hin]⟩
    rw [getElem?_indentFrom _ s ls i hi, hd, step_inComment]
    rfl
  · -- the scan after line `i` is the scan before it, clamped
    obtain ⟨d, hd⟩ : ∃ d, scanAfter Style.braces s (ls.take i) = ⟨true, d⟩ := ⟨_, by rw [← hin]⟩
    have hstep : scanAfter Style.braces s (ls.take (i + 1)) =
        (Style.braces.step (scanAfter Style.braces s (ls.take i)) ls[i]).2 := by
      rw [List.take_succ_eq_append_getElem hi, scanAfter, List.foldl_append]
      rfl
    rw [hstep, hd, step_inComment]
    dsimp only
    omega
  · have hlen : (Style.braces.indentFrom s A).length = A.length := length_indentFrom _ _ _
    rw [indentFrom_replace_inert _ s A B X hA hx hX]
    constructor
    · rw [List.append_assoc, List.take_left' hlen, indentFrom_append, List.take_left' hlen]
    · rw [List.drop_left' (by simp)]

/-- Brackets in a comment body: dropping the body line `} ] [` leaves the lines around it as they
were printed. -/
theorem comment_body_inert_brackets :
    (scanAfter Style.braces Scan.start ["f \x7b".toList, "/* a".toList]).inComment = true ∧
      Inert Style.braces "\x7d ] [".toList ∧
      (Style.braces.indentFrom Scan.start
          (["f \x7b".toList, "/* a".toList] ++ [] ++ ["*/".toList, "y".toList, "\x7d".toList])).drop 2 =
        (Style.braces.indentFrom Scan.start
          (["f \x7b".toList, "/* a".toList] ++ "\x7d ] [".toList ::
            ["*/".toList, "y".toList, "\x7d".toList])).drop 3 := by
  have hA : (scanAfter Style.braces Scan.start ["f \x7b".toList, "/* a".toList]).inComment = true := by
    decide +kernel
  have hx : Inert Style.braces "\x7d ] [".toList := ⟨by decide +kernel, by decide +kernel⟩
  exact ⟨hA, hx, ((comment_body_inert Scan.start []).2.2 _ _ [] _ hA hx (by simp)).2⟩

end Reindent.Proofs.CommentBody
