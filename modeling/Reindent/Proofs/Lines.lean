import Reindent.Text.LineBreak
import Reindent.Proofs.Search

/-! # Lines of a text

`splitLines` reads a text line by line and `joinLines` writes lines back with a line feed between
each two. On lines that hold no break the two undo each other, up to one thing: a line feed at the
very end of a text opens no line, so an empty last line is lost (`splitLines_joinLines`).

* `splitLines_append_break`, `splitLines_append_crlf`: a break ends the line before it;
* `splitLines_append_newline`: a text that does not end in a break, then a line feed, then a
  second text, has the lines of the first and then those of the second;
* `breakFree_of_mem_splitLines`, `infix_of_mem_splitLines`: no line that is read holds a break,
  and each is a piece of the text;
* `cutAt_newline_joinLines`: cutting at every line feed undoes `joinLines`, empty lines kept.
-/

namespace Reindent.Proofs.Lines

open Reindent.Text Reindent.Proofs.Search

/-- A line holds no line break. -/
def BreakFree (l : List Char) : Prop := ∀ c ∈ l, isLineBreak c = false

@[simp] theorem breakFree_nil : BreakFree [] := by simp [BreakFree]

@[simp] theorem breakFree_cons {c : Char} {l : List Char} :
    BreakFree (c :: l) ↔ isLineBreak c = false ∧ BreakFree l := by
  simp [BreakFree]

@[simp] theorem breakFree_append {l m : List Char} :
    BreakFree (l ++ m) ↔ BreakFree l ∧ BreakFree m := by
  simp only [BreakFree, List.mem_append]
  constructor
  · intro h
    exact ⟨fun c hc => h c (.inl hc), fun c hc => h c (.inr hc)⟩
  · rintro ⟨hl, hm⟩ c (hc | hc)
    · exact hl c hc
    · exact hm c hc

theorem BreakFree.sublist {l m : List Char} (h : BreakFree m) (hs : l.Sublist m) : BreakFree l :=
  fun c hc => h c (hs.subset hc)

theorem BreakFree.not_mem_newline {l : List Char} (h : BreakFree l) : '\n' ∉ l :=
  fun hm => absurd (h '\n' hm) (by decide)

theorem breakFree_flatten {ls : List (List Char)} (h : ∀ l ∈ ls, BreakFree l) :
    BreakFree ls.flatten := by
  intro c hc
  obtain ⟨l, hl, hcl⟩ := List.mem_flatten.mp hc
  exact h l hl c hcl

/-! ### Writing lines -/

@[simp] theorem joinLines_nil : joinLines [] = [] := rfl

@[simp] theorem joinLines_singleton (l : List Char) : joinLines [l] = l := by
  simp [joinLines]

theorem joinLines_cons_cons (l m : List Char) (rest : List (List Char)) :
    joinLines (l :: m :: rest) = l ++ '\n' :: joinLines (m :: rest) := by
  simp [joinLines]

theorem joinLines_append {A B : List (List Char)} (hA : A ≠ []) (hB : B ≠ []) :
    joinLines (A ++ B) = joinLines A ++ '\n' :: joinLines B := by
  induction A with
  | nil => exact absurd rfl hA
  | cons l A ih =>
    cases A with
    | nil =>
      obtain ⟨m, B', rfl⟩ := List.exists_cons_of_ne_nil hB
      simp [joinLines_cons_cons]
    | cons m A' =>
      rw [List.cons_append, List.cons_append, joinLines_cons_cons, ← List.cons_append,
        ih (List.cons_ne_nil _ _), joinLines_cons_cons]
      simp

/-- A character of written lines is a line feed between two of them or a character of one. -/
theorem mem_joinLines {c : Char} : {ls : List (List Char)} → c ∈ joinLines ls →
    c = '\n' ∨ ∃ l ∈ ls, c ∈ l
  | [], h => by simp at h
  | [l], h => .inr ⟨l, List.mem_singleton_self l, by simpa using h⟩
  | l :: m :: rest, h => by
    rw [joinLines_cons_cons] at h
    rcases List.mem_append.mp h with h | h
    · exact .inr ⟨l, List.mem_cons_self, h⟩
    · rcases List.mem_cons.mp h with rfl | h
      · exact .inl rfl
      · rcases mem_joinLines h with h | ⟨x, hx, hcx⟩
        · exact .inl h
        · exact .inr ⟨x, List.mem_cons_of_mem _ hx, hcx⟩

/-- The lines a text has once written and read back: an empty last line is lost. -/
def dropEmptyLast : List (List Char) → List (List Char)
  | [] => []
  | [l] => if l = [] then [] else [l]
  | l :: m :: rest => l :: dropEmptyLast (m :: rest)

theorem dropEmptyLast_append {A B : List (List Char)} (hB : B ≠ []) :
    dropEmptyLast (A ++ B) = A ++ dropEmptyLast B := by
  induction A with
  | nil => rfl
  | cons l A ih =>
    obtain ⟨m, rest, hm⟩ := List.exists_cons_of_ne_nil (List.append_ne_nil_of_right_ne_nil A hB)
    rw [List.cons_append, hm, dropEmptyLast, ← hm, ih]
    rfl

theorem dropEmptyLast_of_getLast?_ne : (ls : List (List Char)) → ls.getLast? ≠ some [] →
    dropEmptyLast ls = ls
  | [] => fun _ => rfl
  | [l] => fun h => by simp_all [dropEmptyLast]
  | l :: m :: rest => fun h => by
    rw [dropEmptyLast, dropEmptyLast_of_getLast?_ne (m :: rest) (by simpa using h)]

theorem dropEmptyLast_cons_of_ne_nil {l : List Char} (hl : l ≠ []) :
    (ls : List (List Char)) → ∃ Z, dropEmptyLast (l :: ls) = l :: Z
  | [] => ⟨[], by simp [dropEmptyLast, hl]⟩
  | m :: rest => ⟨dropEmptyLast (m :: rest), rfl⟩

theorem dropEmptyLast_append_nil {A : List (List Char)} :
    dropEmptyLast (A ++ [[]]) = A := by
  rw [dropEmptyLast_append (List.cons_ne_nil _ _)]
  simp [dropEmptyLast]

@[simp] theorem flatten_dropEmptyLast :
    (ls : List (List Char)) → (dropEmptyLast ls).flatten = ls.flatten
  | [] => rfl
  | [l] => by unfold dropEmptyLast; split <;> simp_all
  | l :: m :: rest => by rw [dropEmptyLast, List.flatten_cons, flatten_dropEmptyLast (m :: rest)]; rfl

theorem length_dropEmptyLast_le : (ls : List (List Char)) → (dropEmptyLast ls).length ≤ ls.length
  | [] => Nat.le_refl _
  | [l] => by unfold dropEmptyLast; split <;> simp
  | l :: m :: rest => by
    have := length_dropEmptyLast_le (m :: rest)
    simp only [dropEmptyLast, List.length_cons] at this ⊢
    omega

theorem prefix_dropEmptyLast : (ls : List (List Char)) → dropEmptyLast ls <+: ls
  | [] => List.prefix_refl _
  | [l] => by unfold dropEmptyLast; split <;> simp
  | l :: m :: rest => List.cons_prefix_cons.mpr ⟨rfl, prefix_dropEmptyLast (m :: rest)⟩

/-- Either nothing is lost, or an empty last line. -/
theorem dropEmptyLast_eq_or : (ls : List (List Char)) →
    dropEmptyLast ls = ls ∨ (dropEmptyLast ls = ls.dropLast ∧ ls.getLast? = some [])
  | [] => .inl rfl
  | [l] => by
    unfold dropEmptyLast
    split
    · next h => subst h; exact .inr ⟨rfl, rfl⟩
    · exact .inl rfl
  | l :: m :: rest => by
    rcases dropEmptyLast_eq_or (m :: rest) with h | ⟨h, hl⟩
    · exact .inl (by rw [dropEmptyLast, h])
    · exact .inr ⟨by rw [dropEmptyLast, h, List.dropLast_cons_cons], by simpa using hl⟩

/-! ### Reading lines -/

/-! The three steps of `splitLinesFrom`, read off its definition. -/

theorem splitLinesFrom_nil (line : List Char) (done : Array (List Char)) :
    splitLinesFrom line done [] = if line.isEmpty then done else done.push line.reverse := by
  rw [splitLinesFrom.eq_def]

theorem splitLinesFrom_crlf (line : List Char) (done : Array (List Char)) (rest : List Char) :
    splitLinesFrom line done ('\r' :: '\n' :: rest) =
      splitLinesFrom [] (done.push line.reverse) rest := by
  rw [splitLinesFrom.eq_def]
  split
  · next heq => cases heq
  · next heq => rw [(List.cons.inj (List.cons.inj heq).2).2]
  · next hne heq =>
    obtain ⟨rfl, rfl⟩ := List.cons.inj heq
    exact absurd rfl (hne rest rfl)

theorem splitLinesFrom_cons {line : List Char} {done : Array (List Char)} {c : Char}
    {rest : List Char} (h : ∀ rest', c = '\r' → rest = '\n' :: rest' → False) :
    splitLinesFrom line done (c :: rest) =
      if isLineBreak c then splitLinesFrom [] (done.push line.reverse) rest
      else splitLinesFrom (c :: line) done rest := by
  rw [splitLinesFrom.eq_def]
  split
  · next heq => cases heq
  · next heq =>
    obtain ⟨rfl, rfl⟩ := List.cons.inj heq
    exact (h _ rfl rfl).elim
  · next heq =>
    obtain ⟨rfl, rfl⟩ := List.cons.inj heq
    rfl

/-- The lines found so far go in front of those still to be found. -/
theorem splitLinesFrom_toList (line : List Char) (done : Array (List Char)) (cs : List Char) :
    (splitLinesFrom line done cs).toList = done.toList ++ (splitLinesFrom line #[] cs).toList := by
  suffices h : ∀ done', (splitLinesFrom line done' cs).toList =
      done'.toList ++ (splitLinesFrom line #[] cs).toList from h done
  -- the recursion passes on a new array of found lines, so each case quantifies over it
  induction line, done, cs using splitLinesFrom.induct with
  | case1 line done h =>
    intro done'
    simp [splitLinesFrom_nil, h]
  | case2 line done h =>
    intro done'
    simp [splitLinesFrom_nil, h]
  | case3 line done rest ih =>
    intro done'
    rw [splitLinesFrom_crlf, splitLinesFrom_crlf, ih, ih (#[].push _)]
    simp
  | case4 line done c rest hcr hc ih =>
    intro done'
    rw [splitLinesFrom_cons hcr, splitLinesFrom_cons hcr, if_pos hc, if_pos hc,
      ih, ih (#[].push _)]
    simp
  | case5 line done c rest hcr hc ih =>
    intro done'
    rw [splitLinesFrom_cons hcr, splitLinesFrom_cons hcr, if_neg hc, if_neg hc,
      ih]

theorem ne_cr_of_not_break {c : Char} (hc : isLineBreak c = false) : c ≠ '\r' := by
  rintro rfl
  exact absurd hc (by decide)

theorem splitLinesFrom_cons_of_not_break {c : Char} (hc : isLineBreak c = false)
    (line : List Char) (done : Array (List Char)) (rest : List Char) :
    splitLinesFrom line done (c :: rest) = splitLinesFrom (c :: line) done rest := by
  rw [splitLinesFrom_cons (fun _ h => absurd h (ne_cr_of_not_break hc)),
    if_neg (by simp [hc])]

/-- A stretch without breaks only grows the current line. -/
theorem splitLinesFrom_append {l : List Char} (hl : BreakFree l) (line : List Char)
    (done : Array (List Char)) (rest : List Char) :
    splitLinesFrom line done (l ++ rest) = splitLinesFrom (l.reverse ++ line) done rest := by
  induction l generalizing line with
  | nil => rfl
  | cons c l ih =>
    rw [breakFree_cons] at hl
    rw [List.cons_append, splitLinesFrom_cons_of_not_break hl.1, ih hl.2]
    simp

@[simp] theorem splitLines_nil : splitLines [] = [] := rfl

theorem splitLines_append_break {l : List Char} (hl : BreakFree l) {c : Char}
    (hc : isLineBreak c = true) {rest : List Char} (hcr : ¬ (c = '\r' ∧ rest.head? = some '\n')) :
    splitLines (l ++ c :: rest) = l :: splitLines rest := by
  unfold splitLines
  rw [splitLinesFrom_append hl, splitLinesFrom_cons fun _ h1 h2 => hcr ⟨h1, by rw [h2]; rfl⟩,
    if_pos hc, splitLinesFrom_toList]
  simp

theorem splitLines_append_crlf {l : List Char} (hl : BreakFree l) (rest : List Char) :
    splitLines (l ++ '\r' :: '\n' :: rest) = l :: splitLines rest := by
  unfold splitLines
  rw [splitLinesFrom_append hl, splitLinesFrom_crlf, splitLinesFrom_toList]
  simp

example :
    splitLines "a\r\nb\rc\n\nd\u2028".toList = ["a", "b", "c", "", "d"].map String.toList := by
  decide

theorem splitLines_append_newline {l : List Char} (hl : BreakFree l) (rest : List Char) :
    splitLines (l ++ '\n' :: rest) = l :: splitLines rest :=
  splitLines_append_break hl (by decide) (by simp)

theorem splitLines_of_breakFree {l : List Char} (hl : BreakFree l) (hne : l ≠ []) :
    splitLines l = [l] := by
  unfold splitLines
  rw [← List.append_nil l, splitLinesFrom_append hl]
  simp [splitLinesFrom_nil, hne]

/-- **Reading back written lines.** Lines without breaks come back, but for an empty last one. -/
theorem splitLines_joinLines : (ls : List (List Char)) → (∀ l ∈ ls, BreakFree l) →
    splitLines (joinLines ls) = dropEmptyLast ls
  | [], _ => rfl
  | [l], h => by
    rw [joinLines_singleton, dropEmptyLast]
    split
    · subst l; rfl
    · exact splitLines_of_breakFree (h l List.mem_cons_self) ‹_›
  | l :: m :: rest, h => by
    rw [joinLines_cons_cons, splitLines_append_newline (h l List.mem_cons_self),
      splitLines_joinLines (m :: rest) (fun x hx => h x (List.mem_cons_of_mem _ hx)),
      dropEmptyLast]

theorem breakFree_of_mem_splitLinesFrom (line : List Char) (done : Array (List Char))
    (cs : List Char) (hl : BreakFree line) (hd : ∀ x ∈ done.toList, BreakFree x) :
    ∀ x ∈ (splitLinesFrom line done cs).toList, BreakFree x := by
  -- a line is pushed either from `done` or as the current line, which holds no break
  have push : ∀ (line : List Char) (done : Array (List Char)), BreakFree line →
      (∀ x ∈ done.toList, BreakFree x) → ∀ x ∈ (done.push line.reverse).toList, BreakFree x := by
    intro line done hl hd x hx
    simp only [Array.toList_push, List.mem_append, List.mem_singleton] at hx
    rcases hx with hx | rfl
    · exact hd x hx
    · exact fun c hc => hl c (List.mem_reverse.mp hc)
  induction line, done, cs using splitLinesFrom.induct with
  | case1 line done h =>
    rw [splitLinesFrom_nil, if_pos h]
    exact hd
  | case2 line done h =>
    rw [splitLinesFrom_nil, if_neg h]
    exact push line done hl hd
  | case3 line done rest ih =>
    rw [splitLinesFrom_crlf]
    exact ih breakFree_nil (push line done hl hd)
  | case4 line done c rest hcr hc ih =>
    rw [splitLinesFrom_cons hcr, if_pos hc]
    exact ih breakFree_nil (push line done hl hd)
  | case5 line done c rest hcr hc ih =>
    rw [splitLinesFrom_cons hcr, if_neg hc]
    exact ih (breakFree_cons.mpr ⟨by simpa using hc, hl⟩) hd

theorem breakFree_of_mem_splitLines {cs : List Char} {l : List Char} (h : l ∈ splitLines cs) :
    BreakFree l :=
  breakFree_of_mem_splitLinesFrom [] #[] cs breakFree_nil (by simp) l h

/-- Every line read is a piece of the text: the current line, read in reverse, and what is left
to read are together a piece of it, and so is every line found so far. -/
theorem infix_of_mem_splitLinesFrom (T : List Char) (line : List Char) (done : Array (List Char))
    (cs : List Char) (hl : line.reverse ++ cs <:+: T) (hd : ∀ x ∈ done.toList, x <:+: T) :
    ∀ x ∈ (splitLinesFrom line done cs).toList, x <:+: T := by
  -- a line is pushed either from `done` or as the current line, which is a piece of the text
  have push : ∀ (line rest : List Char) (done : Array (List Char)), line.reverse ++ rest <:+: T →
      (∀ x ∈ done.toList, x <:+: T) → ∀ x ∈ (done.push line.reverse).toList, x <:+: T := by
    intro line rest done hl hd x hx
    simp only [Array.toList_push, List.mem_append, List.mem_singleton] at hx
    rcases hx with hx | rfl
    · exact hd x hx
    · exact (List.prefix_append _ _).isInfix.trans hl
  induction line, done, cs using splitLinesFrom.induct with
  | case1 line done h =>
    rw [splitLinesFrom_nil, if_pos h]
    exact hd
  | case2 line done h =>
    rw [splitLinesFrom_nil, if_neg h]
    exact push line [] done hl hd
  | case3 line done rest ih =>
    have hr : rest <:+: T :=
      (List.suffix_append (line.reverse ++ ['\r', '\n']) rest).isInfix.trans (by simpa using hl)
    rw [splitLinesFrom_crlf]
    exact ih (by simpa using hr) (push line _ done hl hd)
  | case4 line done c rest hcr hc ih =>
    have hr : rest <:+: T :=
      (List.suffix_append (line.reverse ++ [c]) rest).isInfix.trans (by simpa using hl)
    rw [splitLinesFrom_cons hcr, if_pos hc]
    exact ih (by simpa using hr) (push line _ done hl hd)
  | case5 line done c rest hcr hc ih =>
    rw [splitLinesFrom_cons hcr, if_neg hc]
    exact ih (by simpa using hl) hd

theorem infix_of_mem_splitLines {cs l : List Char} (h : l ∈ splitLines cs) : l <:+: cs :=
  infix_of_mem_splitLinesFrom cs [] #[] cs (List.infix_refl cs) (by simp) l h

theorem splitLinesFrom_append_newline (b : List Char) (line : List Char)
    (done : Array (List Char)) (a : List Char) (hne : a ≠ [])
    (hl : ∀ x ∈ a.getLast?, isLineBreak x = false) :
    (splitLinesFrom line done (a ++ '\n' :: b)).toList =
      (splitLinesFrom line done a).toList ++ splitLines b := by
  induction line, done, a using splitLinesFrom.induct with
  | case1 line done h => exact absurd rfl hne
  | case2 line done h => exact absurd rfl hne
  | case3 line done rest ih =>
    have hrest : rest ≠ [] := by rintro rfl; simp [isLineBreak] at hl
    obtain ⟨d, rest', rfl⟩ := List.exists_cons_of_ne_nil hrest
    rw [List.getLast?_cons_cons, List.getLast?_cons_cons] at hl
    rw [List.cons_append, List.cons_append, splitLinesFrom_crlf, splitLinesFrom_crlf]
    exact ih hrest hl
  | case4 line done c rest hcr hc ih =>
    have hrest : rest ≠ [] := by rintro rfl; simp [hc] at hl
    obtain ⟨d, rest', rfl⟩ := List.exists_cons_of_ne_nil hrest
    rw [List.cons_append, splitLinesFrom_cons (fun r h1 h2 => hcr rest' h1 (by
        simp only [List.cons_append, List.cons.injEq] at h2
        rw [h2.1])),
      splitLinesFrom_cons hcr, if_pos hc, if_pos hc]
    rw [List.getLast?_cons_cons] at hl
    exact ih (List.cons_ne_nil _ _) hl
  | case5 line done c rest hcr hc ih =>
    rw [List.cons_append, splitLinesFrom_cons_of_not_break (by simpa using hc),
      splitLinesFrom_cons_of_not_break (by simpa using hc)]
    by_cases hrest : rest = []
    · subst rest
      rw [List.nil_append, splitLinesFrom_cons (by simp), if_pos (by decide),
        splitLinesFrom_toList]
      simp [splitLinesFrom_nil, splitLines]
    · obtain ⟨d, rest', rfl⟩ := List.exists_cons_of_ne_nil hrest
      rw [List.getLast?_cons_cons] at hl
      exact ih hrest hl

/-- **A seam between two texts.** When the first text does not end in a break, a line feed
between the two keeps their lines apart and changes none of them. -/
theorem splitLines_append_newline_of_getLast? {a : List Char} {c : Char}
    (ha : a.getLast? = some c) (hc : isLineBreak c = false) (b : List Char) :
    splitLines (a ++ '\n' :: b) = splitLines a ++ splitLines b :=
  splitLinesFrom_append_newline b [] #[] a (by rintro rfl; simp at ha) (by simp [ha, hc])

/-! ### Cutting at line feeds -/

/-- The pattern of a single line feed. -/
def newline : Pattern := ⟨'\n', []⟩

theorem cutAt_newline_append {l : List Char} (hl : BreakFree l) (s : List Char) :
    cutAt newline (l ++ s) = (cutAt newline s).modifyHead (l ++ ·) := by
  induction l with
  | nil =>
    rw [List.nil_append]
    cases cutAt newline s <;> rfl
  | cons c l ih =>
    rw [breakFree_cons] at hl
    have hpre : newline.toList.isPrefixOf (c :: (l ++ s)) = false := by
      have : '\n' ≠ c := by rintro rfl; exact absurd hl.1 (by decide)
      simp [newline, Pattern.toList, List.isPrefixOf, this]
    rw [List.cons_append, cutAt_cons, if_neg (by simp [hpre]), ih hl.2, List.modifyHead_modifyHead]
    rfl

theorem cutAt_newline_cons (s : List Char) : cutAt newline ('\n' :: s) = [] :: cutAt newline s := by
  rw [cutAt_cons, if_pos (by simp [newline, Pattern.toList, List.isPrefixOf])]
  rfl

/-- **Cutting at line feeds undoes `joinLines`**, empty lines included. -/
theorem cutAt_newline_joinLines : (ls : List (List Char)) → ls ≠ [] → (∀ l ∈ ls, BreakFree l) →
    cutAt newline (joinLines ls) = ls
  | [], h, _ => absurd rfl h
  | [l], _, h => by
    rw [joinLines_singleton, ← List.append_nil l, cutAt_newline_append (h l List.mem_cons_self)]
    simp
  | l :: m :: rest, _, h => by
    rw [joinLines_cons_cons, cutAt_newline_append (h l List.mem_cons_self), cutAt_newline_cons,
      cutAt_newline_joinLines (m :: rest) (List.cons_ne_nil _ _)
        (fun x hx => h x (List.mem_cons_of_mem _ hx))]
    simp

/-- Two lists of lines that hold no break are written to one text only when they are equal. -/
theorem eq_of_joinLines_eq {A B : List (List Char)} (hA : A ≠ []) (hB : B ≠ [])
    (hA' : ∀ l ∈ A, BreakFree l) (hB' : ∀ l ∈ B, BreakFree l) (h : joinLines A = joinLines B) :
    A = B := by
  rw [← cutAt_newline_joinLines A hA hA', h, cutAt_newline_joinLines B hB hB']

theorem joinLines_cons_cons_ne_nil (l m : List Char) (rest : List (List Char)) :
    joinLines (l :: m :: rest) ≠ [] := by
  rw [joinLines_cons_cons]
  simp

end Reindent.Proofs.Lines
