import Mathlib.Data.List.Infix
import Reindent.Proofs.Merge
import Reindent.Proofs.Scan

/-! # Block comments

The scan keeps one flag for block comments and sets it from two tests on the whole line: a line
that holds `/*` enters a comment, and a line in which some piece around its `/*` markers holds
`*/` leaves it, whatever came first. A scanner that reads the text from the left
(`commentScan`) does otherwise: outside a comment the next `/*` opens one, inside a comment the
next `*/` closes it, and each character of a marker is read once.

The two agree on every line that holds no `/*` after its last `*/` (`NoOpenAfterClose`):

* a line with a `*/` ends outside a comment for both (`commentScan_eq_false`,
  `leavesComment_braces_eq`);
* a line without one keeps a comment open, and opens one if it holds `/*`, for both
  (`commentScan_of_occursIn_close_eq_false`);
* so after every line the flag is the scanner's state over the lines so far
  (`inComment_scanAfter`, `inComment_take_mergeLines`).

A line that closes a comment and then opens another is where they part: the flag says that the
line ends outside a comment, the scanner that it ends inside one
(`inComment_close_then_open`).
-/

namespace Reindent.Proofs.Comment

open Reindent.Text Reindent.Layout Reindent.Proofs.Search Reindent.Proofs.Lines
open Reindent.Proofs.Merge Reindent.Proofs.Scan

/-- Reads block comments from the left, starting inside a comment or not (`b`): outside a comment
`/*` opens one, inside a comment `*/` closes it, and each character of a marker is read once.
The result says whether the text ends inside a comment. -/
def commentScan : Bool → List Char → Bool
  | b, c :: d :: rest =>
    if !b && c == '/' && d == '*' then commentScan true rest
    else if b && c == '*' && d == '/' then commentScan false rest
    else commentScan b (d :: rest)
  | b, _ => b

/-- The marker that opens a block comment. -/
abbrev opener : Pattern := ⟨'/', ['*']⟩

/-- The marker that closes a block comment. -/
abbrev closer : Pattern := ⟨'*', ['/']⟩

theorem braces_blockOpen : Style.braces.blockOpen = opener := rfl

theorem braces_blockClose : Style.braces.blockClose = closer := rfl

/-- Every `/*` of the line has a `*/` after it. -/
def OpensClosed (l : List Char) : Prop :=
  ∀ s ∈ l.tails, ['/', '*'] <+: s → ['*', '/'] <:+: s.drop 2

/-- No `/*` of the line overlaps or follows its last `*/`: on a line that holds `*/`, every `/*`
has a `*/` after it. -/
def NoOpenAfterClose (l : List Char) : Prop :=
  ['*', '/'] <:+: l → OpensClosed l

instance (l : List Char) : Decidable (OpensClosed l) :=
  inferInstanceAs (Decidable (∀ s ∈ l.tails, ['/', '*'] <+: s → ['*', '/'] <:+: s.drop 2))

instance (l : List Char) : Decidable (NoOpenAfterClose l) :=
  inferInstanceAs (Decidable (['*', '/'] <:+: l → OpensClosed l))

/-! ### Markers -/

theorem occursIn_pair_cons_cons (x y c d : Char) (rest : List Char) :
    occursIn ⟨x, [y]⟩ (c :: d :: rest) = ((c == x && d == y) || occursIn ⟨x, [y]⟩ (d :: rest)) := by
  simp only [occursIn, Pattern.toList, List.isPrefixOf, Bool.and_true, @BEq.comm Char _ _ x c,
    @BEq.comm Char _ _ y d]

theorem occursIn_pair_singleton (x y c : Char) : occursIn ⟨x, [y]⟩ [c] = false := by
  simp [occursIn, Pattern.toList, List.isPrefixOf]

/-- A text that starts with a two-character pattern is the pattern, then the rest. -/
theorem eq_cons_cons_of_isPrefixOf {x y : Char} {l : List Char}
    (h : (Pattern.toList ⟨x, [y]⟩).isPrefixOf l = true) : ∃ rest, l = x :: y :: rest := by
  obtain ⟨rest, hr⟩ := List.isPrefixOf_iff_prefix.mp h
  exact ⟨rest, hr.symm⟩

theorem OpensClosed.tail {c : Char} {cs : List Char} (h : OpensClosed (c :: cs)) : OpensClosed cs :=
  fun s hs => h s (by rw [List.tails_cons]; exact List.mem_cons_of_mem _ hs)

/-- A `/*` at the front has a `*/` after it. -/
theorem OpensClosed.occursIn_close {rest : List Char} (h : OpensClosed ('/' :: '*' :: rest)) :
    occursIn closer rest = true := by
  rw [occursIn_eq_true_iff]
  exact h ('/' :: '*' :: rest) ((List.mem_tails _ _).mpr (List.suffix_refl _)) (by simp)

/-- Where every `/*` is closed after it, a line without `*/` holds no `/*` either. -/
theorem OpensClosed.occursIn_open_eq_false {l : List Char} (h : OpensClosed l)
    (hc : occursIn closer l = false) : occursIn opener l = false := by
  rw [Bool.eq_false_iff]
  intro ho
  rw [occursIn_eq_true_iff, List.infix_iff_prefix_suffix] at ho
  obtain ⟨s, hpre, hsuf⟩ := ho
  have hclose := h s ((List.mem_tails s l).mpr hsuf) hpre
  have : occursIn closer l = true :=
    (occursIn_eq_true_iff closer l).mpr
      (hclose.trans ((List.drop_suffix 2 s).trans hsuf).isInfix)
  rw [hc] at this
  cases this

/-! ### The scanner -/

/-- The scanner's last case: a text too short to hold a marker. -/
theorem eq_nil_or_singleton {l : List Char} (hl : ∀ c d rest, l = c :: d :: rest → False) :
    l = [] ∨ ∃ c, l = [c] :=
  match l, hl with
  | [], _ => .inl rfl
  | [c], _ => .inr ⟨c, rfl⟩
  | c :: d :: rest, hl => (hl c d rest rfl).elim

@[simp] theorem commentScan_nil (b : Bool) : commentScan b [] = b := rfl

@[simp] theorem commentScan_singleton (b : Bool) (c : Char) : commentScan b [c] = b := rfl

theorem commentScan_cons_cons (b : Bool) (c d : Char) (rest : List Char) :
    commentScan b (c :: d :: rest) =
      if !b && c == '/' && d == '*' then commentScan true rest
      else if b && c == '*' && d == '/' then commentScan false rest
      else commentScan b (d :: rest) := rfl

/-- A line feed is no part of a marker. -/
theorem commentScan_newline_cons (b : Bool) (r : List Char) :
    commentScan b ('\n' :: r) = commentScan b r := by
  cases r with
  | nil => rfl
  | cons e r => rw [commentScan_cons_cons, if_neg (by simp), if_neg (by simp)]

/-- A line, a line feed, and the rest: the rest is read from where the line left the scanner. -/
theorem commentScan_append_newline (b : Bool) (l r : List Char) :
    commentScan b (l ++ '\n' :: r) = commentScan (commentScan b l) r := by
  fun_induction commentScan b l with
  | case1 b c d rest h ih =>
    rw [List.cons_append, List.cons_append, commentScan_cons_cons, if_pos h, ih]
  | case2 b c d rest h1 h2 ih =>
    rw [List.cons_append, List.cons_append, commentScan_cons_cons, if_neg h1, if_pos h2, ih]
  | case3 b c d rest h1 h2 ih =>
    rw [List.cons_append, List.cons_append, commentScan_cons_cons, if_neg h1, if_neg h2,
      ← List.cons_append, ih]
  | case4 l b hl =>
    rcases eq_nil_or_singleton hl with rfl | ⟨c, rfl⟩
    · exact commentScan_newline_cons b r
    · show commentScan b (c :: '\n' :: r) = commentScan b r
      rw [commentScan_cons_cons, if_neg (by simp), if_neg (by simp), commentScan_newline_cons]

/-- **A line without `*/`** keeps a comment open, and opens one if it holds `/*`. -/
theorem commentScan_of_occursIn_close_eq_false (b : Bool) (l : List Char)
    (hc : occursIn closer l = false) : commentScan b l = (b || occursIn opener l) := by
  fun_induction commentScan b l with
  | case1 b c d rest h ih =>
    obtain ⟨⟨rfl, rfl⟩, rfl⟩ : (b = false ∧ c = '/') ∧ d = '*' := by simpa using h
    rw [ih (occursIn_eq_false_of_cons closer (occursIn_eq_false_of_cons closer hc))]
    simp [occursIn_pair_cons_cons]
  | case2 b c d rest h1 h2 ih =>
    -- inside a comment the line would close it
    obtain ⟨⟨rfl, rfl⟩, rfl⟩ : (b = true ∧ c = '*') ∧ d = '/' := by simpa using h2
    simp [occursIn_pair_cons_cons] at hc
  | case3 b c d rest h1 h2 ih =>
    rw [occursIn_pair_cons_cons, Bool.or_eq_false_iff] at hc
    rw [ih hc.2, occursIn_pair_cons_cons]
    cases b <;> simp_all
  | case4 l b hl =>
    rcases eq_nil_or_singleton hl with rfl | ⟨c, rfl⟩
    · simp [occursIn]
    · simp [occursIn_pair_singleton]

/-- **A line with a `*/`, each of whose `/*` is closed after it,** ends outside a comment, from
either state. -/
theorem commentScan_eq_false (b : Bool) (l : List Char) (hc : occursIn closer l = true)
    (ho : OpensClosed l) : commentScan b l = false := by
  fun_induction commentScan b l with
  | case1 b c d rest h ih =>
    obtain ⟨⟨rfl, rfl⟩, rfl⟩ : (b = false ∧ c = '/') ∧ d = '*' := by simpa using h
    exact ih ho.occursIn_close ho.tail.tail
  | case2 b c d rest h1 h2 ih =>
    -- the comment closes here; what follows opens no comment that stays open
    by_cases hr : occursIn closer rest = true
    · exact ih hr ho.tail.tail
    · rw [Bool.not_eq_true] at hr
      rw [commentScan_of_occursIn_close_eq_false false rest hr,
        ho.tail.tail.occursIn_open_eq_false hr]
      rfl
  | case3 b c d rest h1 h2 ih =>
    by_cases hr : occursIn closer (d :: rest) = true
    · exact ih hr ho.tail
    · -- the only `*/` is at the front, so the scan is outside and meets no `/*` after it
      rw [Bool.not_eq_true] at hr
      rw [occursIn_pair_cons_cons, hr, Bool.or_false] at hc
      obtain ⟨rfl, rfl⟩ : c = '*' ∧ d = '/' := by simpa using hc
      have hb : b = false := by simpa using h2
      rw [hb, commentScan_of_occursIn_close_eq_false false _ hr,
        ho.tail.occursIn_open_eq_false hr]
      rfl
  | case4 l b hl =>
    rcases eq_nil_or_singleton hl with rfl | ⟨c, rfl⟩
    · simp [occursIn] at hc
    · simp [occursIn_pair_singleton] at hc

/-! ### The flag -/

/-- A piece around the `/*` markers that holds `*/` makes the line hold `*/`. -/
theorem occursIn_close_of_leavesComment {l : List Char} (h : Style.braces.leavesComment l = true) :
    occursIn closer l = true := by
  obtain ⟨x, hx, hxc⟩ := List.any_eq_true.mp h
  rw [occursIn_eq_true_iff] at hxc ⊢
  exact hxc.trans ((infix_of_mem_cutAt _ l).1 x hx)

/-- A `*/` of a line whose `/*` are all closed after them lies inside a piece around the `/*`
markers. -/
theorem exists_mem_cutAt_occursIn_close : (l : List Char) → occursIn closer l = true →
    OpensClosed l → ∃ x ∈ cutAt opener l, occursIn closer x = true
  | [], hc, _ => by simp [occursIn] at hc
  | c :: cs, hc, ho => by
    by_cases hpre : opener.toList.isPrefixOf (c :: cs) = true
    · -- a `/*` at the front: its `*/` comes after it, in a piece of the rest
      obtain ⟨rest, he⟩ := eq_cons_cons_of_isPrefixOf hpre
      obtain ⟨rfl, rfl⟩ := List.cons.inj he
      obtain ⟨x, hx, hxc⟩ :=
        exists_mem_cutAt_occursIn_close rest ho.occursIn_close ho.tail.tail
      rw [cutAt_cons, if_pos hpre]
      exact ⟨x, List.mem_cons_of_mem _ hx, hxc⟩
    · obtain ⟨x, xs, hcs, hccs⟩ :=
        cutAt_cons_of_isPrefixOf_eq_false opener (Bool.eq_false_iff.mpr hpre)
      rw [hccs]
      by_cases hr : occursIn closer cs = true
      · -- a `*/` further on lies in a piece of the rest, and the first piece only grows
        obtain ⟨y, hy, hyc⟩ := exists_mem_cutAt_occursIn_close cs hr ho.tail
        rw [hcs] at hy
        rcases List.mem_cons.mp hy with rfl | hy
        · exact ⟨c :: y, List.mem_cons_self, occursIn_of_cons closer hyc⟩
        · exact ⟨y, List.mem_cons_of_mem _ hy, hyc⟩
      · -- the only `*/` is at the front, and no `/*` starts at its `/`, so the first piece
        -- starts with the whole `*/`
        rw [Bool.not_eq_true] at hr
        rw [occursIn_cons, hr, Bool.or_false] at hc
        obtain ⟨rest, he⟩ := eq_cons_cons_of_isPrefixOf hc
        obtain ⟨rfl, rfl⟩ := List.cons.inj he
        have hopen := ho.tail.occursIn_open_eq_false hr
        rw [occursIn_cons, Bool.or_eq_false_iff] at hopen
        obtain ⟨x', xs', -, hx⟩ := cutAt_cons_of_isPrefixOf_eq_false opener hopen.1
        rw [hx, List.cons.injEq] at hcs
        rw [← hcs.1]
        exact ⟨_, List.mem_cons_self, by simp [occursIn_pair_cons_cons]⟩
termination_by l => l.length
decreasing_by
  all_goals
    subst_vars
    simp only [List.length_cons]
    omega

/-- **The flag's test for leaving a comment** is whether the line holds `*/`, on a line that holds
no `/*` after its last `*/`. -/
theorem leavesComment_braces_eq {l : List Char} (h : NoOpenAfterClose l) :
    Style.braces.leavesComment l = occursIn closer l := by
  cases hc : occursIn closer l with
  | false =>
    rw [Bool.eq_false_iff]
    intro hl
    rw [occursIn_close_of_leavesComment hl] at hc
    cases hc
  | true =>
    obtain ⟨x, hx, hxc⟩ :=
      exists_mem_cutAt_occursIn_close l hc (h ((occursIn_eq_true_iff closer l).mp hc))
    exact List.any_eq_true.mpr ⟨x, hx, hxc⟩

/-- **One line**: on a line that holds no `/*` after its last `*/`, the flag moves as the scanner
does. -/
theorem inComment_step {l : List Char} (h : NoOpenAfterClose l) (s : Scan) :
    (Style.braces.step s l).2.inComment = commentScan s.inComment l := by
  rw [step_eq, leavesComment_braces_eq h, braces_blockOpen]
  cases hc : occursIn closer l with
  | false => rw [commentScan_of_occursIn_close_eq_false _ _ hc]; rfl
  | true => rw [commentScan_eq_false _ _ hc (h ((occursIn_eq_true_iff closer l).mp hc))]; rfl

/-- **A run over lines**: when no line holds a `/*` after its last `*/`, the flag after the lines
is the scanner's state at the end of their text. -/
theorem inComment_scanAfter (s : Scan) (ls : List (List Char))
    (h : ∀ l ∈ ls, NoOpenAfterClose l) :
    (scanAfter Style.braces s ls).inComment = commentScan s.inComment (joinLines ls) := by
  induction ls generalizing s with
  | nil => rfl
  | cons l ls ih =>
    rw [scanAfter_cons, ih _ (fun x hx => h x (List.mem_cons_of_mem _ hx)),
      inComment_step (h l List.mem_cons_self)]
    cases ls with
    | nil => rw [joinLines_nil, joinLines_singleton, commentScan_nil]
    | cons m ls => rw [joinLines_cons_cons, commentScan_append_newline]

/-- **The flag tracks block comments** along the merged lines of a text: after each line, as
long as no line so far holds a `/*` after its last `*/`, it says whether a scanner that reads the
lines so far from the left ends inside a comment. -/
theorem inComment_take_mergeLines (t : List Char) (k : Nat)
    (h : ∀ l ∈ (splitLines (Style.braces.mergeLines t)).take k, NoOpenAfterClose l) :
    (scanAfter Style.braces Scan.start
        ((splitLines (Style.braces.mergeLines t)).take k)).inComment =
      commentScan false (joinLines ((splitLines (Style.braces.mergeLines t)).take k)) :=
  inComment_scanAfter Scan.start _ h

/-- Two comments on one line, then a comment left open over a continuation line. -/
theorem inComment_take_mergeLines_open :
    (∀ l ∈ (splitLines (Style.braces.mergeLines "/**/ x /**/\n/* a\n* b\n*/ c".toList)).take 3,
        NoOpenAfterClose l) ∧
      (scanAfter Style.braces Scan.start
          ((splitLines (Style.braces.mergeLines
            "/**/ x /**/\n/* a\n* b\n*/ c".toList)).take 3)).inComment =
        commentScan false (joinLines ((splitLines (Style.braces.mergeLines
          "/**/ x /**/\n/* a\n* b\n*/ c".toList)).take 3)) :=
  ⟨by decide +kernel, inComment_take_mergeLines _ 3 (by decide +kernel)⟩

/-- A line that closes a comment and opens another: the flag says that it ends outside a
comment, the scanner that it ends inside one. -/
theorem inComment_close_then_open :
    (scanAfter Style.braces Scan.start
        (splitLines (Style.braces.mergeLines "/* a\n*/ b /*".toList))).inComment = false ∧
      commentScan false (joinLines (splitLines (Style.braces.mergeLines "/* a\n*/ b /*".toList))) =
        true := by
  decide +kernel

end Reindent.Proofs.Comment
