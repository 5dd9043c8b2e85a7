import Mathlib.Data.List.Chain
import Reindent.Proofs.Search
import Reindent.Proofs.Lines

/-! # Gluing neighbouring lines

Each pass of the merge in `Reindent.Layout.Merge` replaces throughout the text. Read line by
line, a pass takes out the line feed between two neighbouring lines when the first ends and the
second starts in a given way. `glue rule` is that on a list of lines: the rule sees the last
character of one line and the first character of the next, it is read on the lines as they are
given, and joins chain, so that one line can be joined at both ends.

* `replaceAll_joinLines`: a pass that deletes a line feed where `rule` holds, over lines that hold
  no line feed, is `glue rule` (instances for a split bracket pair and a leading statement end:
  `replaceAll_pair_joinLines`, `replaceAll_lead_joinLines`);
* `glue_glue`: two passes in turn are one pass with either rule, when the first joins only lines
  that are not empty;
* `glue_append`: lines not joined across a seam are glued on each side apart;
* `isChain_glue`: after gluing, no two neighbouring lines would be joined again, unless an empty
  line was glued to the line after it;
* `exists_groups_glue`: the glued lines are the given lines cut into runs, each run put together;
* `glue_flatten_of_runs`, `exists_runs`: the runs are those of the rule (`Runs`): the rule holds
  between every two neighbours inside a run and fails at every seam between runs. Such a cut
  always exists, and gluing puts each of its runs together.
-/

namespace Reindent.Proofs.Glue

open Reindent.Text Reindent.Proofs.Search Reindent.Proofs.Lines

/-- Whether two neighbouring lines are joined, from the last character of the first and the first
character of the second. -/
abbrev Rule := Option Char → Option Char → Bool

/-- Joins each line to the next where the rule holds between them. -/
def glue (rule : Rule) : List (List Char) → List (List Char)
  | [] => []
  | [l] => [l]
  | l :: m :: rest =>
    if rule l.getLast? m.head? then (glue rule (m :: rest)).modifyHead (l ++ ·)
    else l :: glue rule (m :: rest)

/-- A line that ends with `o` is joined to the next when that starts with `c`. -/
def pairRule (o c : Char) : Rule := fun last first => last == some o && first == some c

/-- A line that starts with `e` is joined to the line before. -/
def leadRule (e : Char) : Rule := fun _ first => first == some e

variable {rule : Rule}

@[simp] theorem glue_nil : glue rule [] = [] := rfl

@[simp] theorem glue_singleton (l : List Char) : glue rule [l] = [l] := rfl

theorem glue_cons_cons (l m : List Char) (rest : List (List Char)) :
    glue rule (l :: m :: rest) =
      if rule l.getLast? m.head? then (glue rule (m :: rest)).modifyHead (l ++ ·)
      else l :: glue rule (m :: rest) := rfl

/-- The first glued line starts with the first line. -/
theorem glue_cons_eq (rule : Rule) : (m : List Char) → (rest : List (List Char)) →
    ∃ y ys, glue rule (m :: rest) = (m ++ y) :: ys
  | m, [] => ⟨[], [], by simp⟩
  | m, n :: rest => by
    rw [glue_cons_cons]
    split
    · obtain ⟨y, ys, h⟩ := glue_cons_eq rule n rest
      exact ⟨n ++ y, ys, by rw [h]; simp⟩
    · exact ⟨[], glue rule (n :: rest), by simp⟩

theorem glue_ne_nil {ls : List (List Char)} (h : ls ≠ []) : glue rule ls ≠ [] := by
  obtain ⟨m, rest, rfl⟩ := List.exists_cons_of_ne_nil h
  obtain ⟨y, ys, he⟩ := glue_cons_eq rule m rest
  rw [he]
  exact List.cons_ne_nil _ _

/-- An empty first line that is not joined to the next stays a line of its own. -/
theorem glue_nil_cons {rest : List (List Char)} (h : rule none (rest.head?.bind List.head?) = false) :
    glue rule ([] :: rest) = [] :: glue rule rest := by
  cases rest with
  | nil => rfl
  | cons n rest =>
    rw [glue_cons_cons, if_neg (by simpa using h)]

/-- A front that does not change where the line ends goes in front of the first glued line. -/
theorem glue_append_cons {x m : List Char} (hx : ∀ y, rule (x ++ m).getLast? y = rule m.getLast? y)
    (rest : List (List Char)) :
    glue rule ((x ++ m) :: rest) = (glue rule (m :: rest)).modifyHead (x ++ ·) := by
  cases rest with
  | nil => simp
  | cons n rest =>
    rw [glue_cons_cons, glue_cons_cons, hx]
    split
    · simp [List.modifyHead_modifyHead, Function.comp_def]
    · simp

theorem flatten_glue (rule : Rule) : (ls : List (List Char)) → (glue rule ls).flatten = ls.flatten
  | [] => rfl
  | [l] => by simp
  | l :: m :: rest => by
    obtain ⟨y, ys, he⟩ := glue_cons_eq rule m rest
    have ih := flatten_glue rule (m :: rest)
    rw [he] at ih
    rw [glue_cons_cons, he]
    split
    · simpa using ih
    · simpa using ih

/-- A property of lines that survives putting two lines together holds of every glued line. -/
theorem mem_glue_of_append {P : List Char → Prop} (happ : ∀ a b, P a → P b → P (a ++ b)) :
    (ls : List (List Char)) → (∀ l ∈ ls, P l) → ∀ k ∈ glue rule ls, P k
  | [], _ => by simp
  | [l], h => by simpa using h
  | l :: m :: rest, h => by
    have hl := h l List.mem_cons_self
    have ih := mem_glue_of_append happ (m :: rest) (fun x hx => h x (List.mem_cons_of_mem _ hx))
    obtain ⟨y, ys, he⟩ := glue_cons_eq rule m rest
    rw [he] at ih
    rw [glue_cons_cons, he]
    split
    · intro k hk
      rcases List.mem_cons.mp hk with rfl | hk
      · exact happ _ _ hl (ih _ List.mem_cons_self)
      · exact ih k (List.mem_cons_of_mem _ hk)
    · intro k hk
      rcases List.mem_cons.mp hk with rfl | hk
      · exact hl
      · exact ih k hk

/-- A property of lines that survives joining two lines where the rule holds between them holds of
every glued line, under a rule that joins no line to an empty one. -/
theorem mem_glue_of_join {P : List Char → Prop} (hnone : ∀ x, rule x none = false)
    (hjoin : ∀ a b, rule a.getLast? b.head? = true → P a → P b → P (a ++ b)) :
    (ls : List (List Char)) → (∀ l ∈ ls, P l) → ∀ k ∈ glue rule ls, P k
  | [], _ => by simp
  | [l], h => by simpa using h
  | l :: m :: rest, h => by
    have hl := h l List.mem_cons_self
    have ih := mem_glue_of_join hnone hjoin (m :: rest)
      (fun x hx => h x (List.mem_cons_of_mem _ hx))
    obtain ⟨y, ys, he⟩ := glue_cons_eq rule m rest
    rw [he] at ih
    rw [glue_cons_cons, he]
    split
    · next hlm =>
      -- the line joined to `l` starts as `m` does, since the rule joins `l` to no empty line
      have hm : m ≠ [] := by rintro rfl; simp [hnone] at hlm
      have hhead : (m ++ y).head? = m.head? := List.head?_append_of_ne_nil _ hm
      intro k hk
      rcases List.mem_cons.mp hk with rfl | hk
      · exact hjoin _ _ (by rw [hhead]; exact hlm) hl (ih _ List.mem_cons_self)
      · exact ih k (List.mem_cons_of_mem _ hk)
    · intro k hk
      rcases List.mem_cons.mp hk with rfl | hk
      · exact hl
      · exact ih k hk

theorem length_glue_le (rule : Rule) : (ls : List (List Char)) → (glue rule ls).length ≤ ls.length
  | [] => Nat.le_refl _
  | [l] => Nat.le_refl _
  | l :: m :: rest => by
    have ih := length_glue_le rule (m :: rest)
    rw [glue_cons_cons]
    split
    · simp only [List.length_modifyHead, List.length_cons] at ih ⊢
      omega
    · simp only [List.length_cons] at ih ⊢
      omega

/-- Where the rule holds somewhere, gluing leaves fewer lines. -/
theorem length_glue_lt {A : List (List Char)} {x : List Char} (hA : A ≠ [])
    (h : rule (A.getLast hA).getLast? x.head? = true) (B : List (List Char)) :
    (glue rule (A ++ x :: B)).length < (A ++ x :: B).length := by
  induction A with
  | nil => exact absurd rfl hA
  | cons a A ih =>
    cases A with
    | nil =>
      have hle := length_glue_le rule (x :: B)
      rw [List.getLast_singleton] at h
      simp only [List.cons_append, List.nil_append, glue_cons_cons, h, if_true,
        List.length_modifyHead, List.length_cons] at hle ⊢
      omega
    | cons a' A =>
      have ih := ih (List.cons_ne_nil _ _) (by rwa [List.getLast_cons (List.cons_ne_nil _ _)] at h)
      rw [List.cons_append, List.cons_append, glue_cons_cons, ← List.cons_append]
      split
      · simp only [List.length_modifyHead, List.length_cons, List.length_append] at ih ⊢
        omega
      · simp only [List.length_cons, List.length_append] at ih ⊢
        omega

/-- **A seam.** Lines not joined across it are glued on each side apart. -/
theorem glue_append {A B : List (List Char)} (hA : A ≠ []) (hB : B ≠ [])
    (h : rule (A.getLast hA).getLast? (B.head hB).head? = false) :
    glue rule (A ++ B) = glue rule A ++ glue rule B := by
  obtain ⟨b, B, rfl⟩ := List.exists_cons_of_ne_nil hB
  induction A with
  | nil => exact absurd rfl hA
  | cons a A ih =>
    cases A with
    | nil =>
      rw [List.getLast_singleton, List.head_cons] at h
      rw [List.singleton_append, glue_cons_cons, if_neg (by simp [h])]
      rfl
    | cons a' A =>
      rw [List.getLast_cons (List.cons_ne_nil _ _)] at h
      have ih := ih (List.cons_ne_nil _ _) h
      rw [List.cons_append, List.cons_append, glue_cons_cons, glue_cons_cons, ← List.cons_append,
        ih]
      obtain ⟨y, ys, he⟩ := glue_cons_eq rule a' A
      split
      · rw [he]
        rfl
      · rfl

theorem glue_of_isChain : (ls : List (List Char)) →
    ls.IsChain (fun a b => rule a.getLast? b.head? = false) → glue rule ls = ls
  | [], _ => rfl
  | [l], _ => rfl
  | l :: m :: rest, h => by
    rw [List.isChain_cons_cons] at h
    rw [glue_cons_cons, if_neg (by simp [h.1]), glue_of_isChain (m :: rest) h.2]

/-- The glued lines are the lines cut into runs, each run put together. -/
theorem exists_groups_glue (rule : Rule) : (ls : List (List Char)) →
    ∃ G : List (List (List Char)), (∀ g ∈ G, g ≠ []) ∧ G.flatten = ls ∧
      glue rule ls = G.map .flatten
  | [] => ⟨[], by simp⟩
  | [l] => ⟨[[l]], by simp⟩
  | l :: m :: rest => by
    obtain ⟨G, hne, hfl, he⟩ := exists_groups_glue rule (m :: rest)
    obtain ⟨g, G', rfl⟩ := List.exists_cons_of_ne_nil (fun h : G = [] => by simp [h] at hfl)
    rw [glue_cons_cons, he]
    split
    · refine ⟨(l :: g) :: G', ?_, by simpa using hfl, by simp⟩
      intro x hx
      rcases List.mem_cons.mp hx with rfl | hx
      · exact List.cons_ne_nil _ _
      · exact hne x (List.mem_cons_of_mem _ hx)
    · refine ⟨[l] :: g :: G', ?_, by simpa using hfl, by simp⟩
      intro x hx
      rcases List.mem_cons.mp hx with rfl | hx
      · exact List.cons_ne_nil _ _
      · exact hne x hx

/-! ### Runs -/

/-- `G` cuts lines into the runs that `rule` makes: inside a run every line is joined to the
next, and the last line of a run is not joined to the first line of the next run. -/
structure Runs (rule : Rule) (G : List (List (List Char))) : Prop where
  /-- No run is empty. -/
  ne_nil : ∀ g ∈ G, g ≠ []
  /-- Inside a run, the rule holds between every two neighbours. -/
  joined : ∀ g ∈ G, g.IsChain fun a b => rule a.getLast? b.head? = true
  /-- At the seam of two runs, the rule fails. -/
  apart : G.IsChain fun g g' => ∀ a ∈ g.getLast?, ∀ b ∈ g'.head?, rule a.getLast? b.head? = false

theorem Runs.tail {g : List (List Char)} {G : List (List (List Char))} (h : Runs rule (g :: G)) :
    Runs rule G :=
  ⟨fun x hx => h.ne_nil x (List.mem_cons_of_mem _ hx),
    fun x hx => h.joined x (List.mem_cons_of_mem _ hx), (List.isChain_cons.mp h.apart).2⟩

/-- A run of joined lines put in front of runs, apart from the first of them. -/
theorem Runs.cons {g : List (List Char)} {G : List (List (List Char))} (h : Runs rule G)
    (hg : g ≠ []) (hj : g.IsChain fun a b => rule a.getLast? b.head? = true)
    (hseam : ∀ g' ∈ G.head?, ∀ a ∈ g.getLast?, ∀ b ∈ g'.head?, rule a.getLast? b.head? = false) :
    Runs rule (g :: G) := by
  refine ⟨fun x hx => ?_, fun x hx => ?_, List.isChain_cons.mpr ⟨hseam, h.apart⟩⟩
  · rcases List.mem_cons.mp hx with rfl | hx
    · exact hg
    · exact h.ne_nil x hx
  · rcases List.mem_cons.mp hx with rfl | hx
    · exact hj
    · exact h.joined x hx

/-- A run whose lines are all joined is glued into one line, and the gluing goes on after it. -/
theorem glue_append_of_joined {rest : List (List Char)} : (g : List (List Char)) → g ≠ [] →
    g.IsChain (fun a b => rule a.getLast? b.head? = true) →
    (∀ a ∈ g.getLast?, ∀ b ∈ rest.head?, rule a.getLast? b.head? = false) →
    glue rule (g ++ rest) = g.flatten :: glue rule rest
  | [], hg, _, _ => absurd rfl hg
  | [l], _, _, hseam => by
    cases rest with
    | nil => simp
    | cons m rest =>
      rw [List.singleton_append, glue_cons_cons, if_neg (by simpa using hseam l rfl m rfl)]
      simp
  | l :: m :: g, _, hj, hseam => by
    rw [List.isChain_cons_cons] at hj
    rw [List.cons_append, List.cons_append, glue_cons_cons, if_pos hj.1, ← List.cons_append,
      glue_append_of_joined (m :: g) (List.cons_ne_nil _ _) hj.2
        (by simpa [List.getLast?_cons_cons] using hseam)]
    simp

/-- **Gluing puts each run together**, whichever cut of the lines into runs is taken. -/
theorem glue_flatten_of_runs : (G : List (List (List Char))) → Runs rule G →
    glue rule G.flatten = G.map List.flatten
  | [], _ => rfl
  | g :: G, h => by
    -- the first line after the seam is the first line of the next run, which is not empty
    have hseam : ∀ a ∈ g.getLast?, ∀ b ∈ G.flatten.head?, rule a.getLast? b.head? = false := by
      intro a ha b hb
      obtain ⟨g', G', rfl⟩ := List.exists_cons_of_ne_nil (fun hG : G = [] => by simp [hG] at hb)
      have hg' := h.ne_nil g' (by simp)
      rw [List.flatten_cons, List.head?_append_of_ne_nil _ hg'] at hb
      exact (List.isChain_cons_cons.mp h.apart).1 a ha b hb
    rw [List.flatten_cons, glue_append_of_joined g (h.ne_nil g List.mem_cons_self)
      (h.joined g List.mem_cons_self) hseam, glue_flatten_of_runs G h.tail, List.map_cons]

/-- Every list of lines is cut into the runs of a rule. -/
theorem exists_runs (rule : Rule) : (ls : List (List Char)) → ∃ G, Runs rule G ∧ G.flatten = ls
  | [] => ⟨[], ⟨by simp, by simp, List.IsChain.nil⟩, rfl⟩
  | [l] => ⟨[[l]], ⟨by simp, by simp, List.IsChain.singleton _⟩, by simp⟩
  | l :: m :: rest => by
    obtain ⟨G, hG, hfl⟩ := exists_runs rule (m :: rest)
    obtain ⟨g, G', rfl⟩ := List.exists_cons_of_ne_nil (fun h : G = [] => by simp [h] at hfl)
    -- the first run of the rest starts with `m`
    obtain ⟨g', rfl⟩ : ∃ g', g = m :: g' := by
      obtain ⟨x, g', rfl⟩ := List.exists_cons_of_ne_nil (hG.ne_nil g List.mem_cons_self)
      exact ⟨g', by simpa using (List.cons.inj hfl).1⟩
    by_cases hlm : rule l.getLast? m.head? = true
    · -- `l` joins the first run of the rest, which grows at its front and ends where it did
      have hseam := (List.isChain_cons.mp hG.apart).1
      refine ⟨(l :: m :: g') :: G', ?_, by simpa using hfl⟩
      exact hG.tail.cons (List.cons_ne_nil _ _)
        (List.IsChain.cons_cons hlm (hG.joined _ List.mem_cons_self))
        (by simpa [List.getLast?_cons_cons] using hseam)
    · -- `l` is a run of its own
      refine ⟨[l] :: (m :: g') :: G', ?_, by simpa using hfl⟩
      exact hG.cons (List.cons_ne_nil _ _) (List.IsChain.singleton _) (by simpa using hlm)

/-- The last glued line ends with the last line. -/
theorem suffix_getLast?_glue (rule : Rule) : (ls : List (List Char)) →
    ∀ x ∈ ls.getLast?, ∃ k ∈ (glue rule ls).getLast?, x <:+ k
  | [] => by simp
  | [l] => by simp
  | l :: m :: rest => by
    intro x hx
    rw [List.getLast?_cons_cons] at hx
    obtain ⟨k, hk, hxk⟩ := suffix_getLast?_glue rule (m :: rest) x hx
    obtain ⟨y, ys, he⟩ := glue_cons_eq rule m rest
    rw [he] at hk
    rw [glue_cons_cons, he]
    split
    · cases ys with
      | nil =>
        simp only [List.getLast?_singleton, Option.mem_def, Option.some.injEq] at hk
        subst hk
        exact ⟨l ++ (m ++ y), by simp, hxk.trans (List.suffix_append _ _)⟩
      | cons z zs => exact ⟨k, by simpa using hk, hxk⟩
    · exact ⟨k, by simpa using hk, hxk⟩

/-- The last glued line ends with the last line, so it is empty only when that is. -/
theorem getLast?_eq_nil_of_glue {L : List (List Char)}
    (h : (glue rule L).getLast? = some []) : L.getLast? = some [] := by
  cases hL : L.getLast? with
  | none => simp [List.getLast?_eq_none_iff.mp hL] at h
  | some x =>
    obtain ⟨k, hk, hxk⟩ := suffix_getLast?_glue rule L x hL
    obtain rfl : k = [] := Option.some.inj (hk.symm.trans h)
    rw [List.eq_nil_of_suffix_nil hxk]

/-- Under a rule that never joins an empty line to the next, an empty first line stays alone. -/
theorem glue_cons_eq_of_nil (hnil : ∀ y, rule none y = false) (m : List Char)
    (rest : List (List Char)) :
    ∃ y ys, glue rule (m :: rest) = (m ++ y) :: ys ∧ (m = [] → y = []) := by
  obtain ⟨y, ys, he⟩ := glue_cons_eq rule m rest
  refine ⟨y, ys, he, fun hm => ?_⟩
  subst hm
  have h : glue rule ([] :: rest) = [] :: glue rule rest := glue_nil_cons (hnil _)
  rw [he] at h
  simpa using (List.cons.inj h).1

/-- **Two passes in turn are one pass** with either rule, when the first joins only lines that
are not empty: the lines it builds then end and start as the lines at its seams do. -/
theorem glue_glue {rule' : Rule} (hnone : ∀ x, rule x none = false)
    (hnil : ∀ y, rule none y = false) : (ls : List (List Char)) →
    glue rule' (glue rule ls) = glue (fun x y => rule x y || rule' x y) ls
  | [] => rfl
  | [l] => rfl
  | l :: m :: rest => by
    have ih : glue rule' (glue rule (m :: rest)) = glue (fun x y => rule x y || rule' x y) (m :: rest) :=
      glue_glue hnone hnil (m :: rest)
    obtain ⟨y, ys, he, hy⟩ := glue_cons_eq_of_nil hnil m rest
    rw [he] at ih
    rw [@glue_cons_cons rule, @glue_cons_cons (fun x y => rule x y || rule' x y), he]
    by_cases hlm : rule l.getLast? m.head? = true
    · have hm : m ≠ [] := by rintro rfl; simp [hnone] at hlm
      rw [if_pos hlm, if_pos (by simp [hlm]), List.modifyHead_cons, ← ih,
        glue_append_cons (fun z => by rw [List.getLast?_append_of_ne_nil l
          (List.append_ne_nil_of_left_ne_nil hm y)]) ys]
    · have hhead : (m ++ y).head? = m.head? := by
        cases m with
        | nil => rw [hy rfl]; rfl
        | cons x m => rfl
      rw [if_neg hlm, glue_cons_cons, hhead, ih]
      simp [hlm]

/-- **Settled lines.** After gluing, no two neighbouring lines would be joined again, unless an
empty line was glued to the line after it (the first line apart, which has none before it). -/
theorem isChain_glue (hnone : ∀ x, rule x none = false) : (ls : List (List Char)) →
    ls.tail.IsChain (fun a b => ¬ (a = [] ∧ rule none b.head? = true)) →
    (glue rule ls).IsChain (fun a b => rule a.getLast? b.head? = false)
  | [], _ => List.IsChain.nil
  | [l], _ => List.IsChain.singleton l
  | l :: m :: rest, h => by
    have ih := isChain_glue hnone (m :: rest) (List.IsChain.tail h)
    obtain ⟨y, ys, he⟩ := glue_cons_eq rule m rest
    rw [he] at ih
    rw [glue_cons_cons, he]
    split
    · next hlm =>
      -- the line glued in front does not change where the first glued line ends
      have hm : m ≠ [] := by rintro rfl; simp [hnone] at hlm
      cases ys with
      | nil => exact List.IsChain.singleton _
      | cons z zs =>
        rw [List.modifyHead_cons, List.isChain_cons_cons]
        rw [List.isChain_cons_cons] at ih
        refine ⟨?_, ih.2⟩
        rw [List.getLast?_append_of_ne_nil l (List.append_ne_nil_of_left_ne_nil hm y)]
        exact ih.1
    · next hlm =>
      refine List.isChain_cons_cons.mpr ⟨?_, ih⟩
      cases m with
      | cons x m => simpa using hlm
      | nil =>
        -- an empty line after the first is never glued to what follows it
        have hnext : rule none (rest.head?.bind List.head?) = false := by
          cases rest with
          | nil => exact hnone none
          | cons n rest =>
            have := (List.isChain_cons_cons.mp h).1
            simpa using this
        have hy := glue_nil_cons hnext
        rw [he] at hy
        rw [show y = [] by simpa using (List.cons.inj hy).1]
        exact hnone _

/-! ### A pass of the merge -/

theorem joinLines_modifyHead (x : List Char) {ks : List (List Char)} (h : ks ≠ []) :
    joinLines (ks.modifyHead (x ++ ·)) = x ++ joinLines ks := by
  obtain ⟨k, ks, rfl⟩ := List.exists_cons_of_ne_nil h
  cases ks with
  | nil => simp
  | cons k' ks => simp [joinLines_cons_cons]

theorem joinLines_cons_of_ne_nil (l : List Char) {ks : List (List Char)} (h : ks ≠ []) :
    joinLines (l :: ks) = l ++ '\n' :: joinLines ks := by
  obtain ⟨k, ks, rfl⟩ := List.exists_cons_of_ne_nil h
  exact joinLines_cons_cons l k ks

section Pass

variable {p : Pattern} {r : List Char} {c : Char}

/-- **One pass of the merge.** A scan that, over a line without a line feed, takes out the line
feed after it exactly where `rule` holds (and then `c` is the next character), glues the lines. -/
theorem replaceAll_joinLines (hc : c ≠ '\n') (hfirst : ∀ x y, rule x y = true → y = some c)
    (hshift : ∀ m y, rule (c :: m).getLast? y = rule m.getLast? y)
    (hbase : ∀ l, '\n' ∉ l → replaceAll p r l = l)
    (hscan : ∀ l s, '\n' ∉ l → replaceAll p r (l ++ '\n' :: s) =
      if rule l.getLast? s.head? then l ++ c :: replaceAll p r s.tail
      else l ++ '\n' :: replaceAll p r s) :
    (ls : List (List Char)) → '\n' ∉ ls.flatten →
    replaceAll p r (joinLines ls) = joinLines (glue rule ls)
  | [], _ => by simp
  | l :: rest, h => by
    induction rest generalizing l with
    | nil => simpa using hbase l (by simpa using h)
    | cons m rest ih =>
      simp only [List.flatten_cons, List.mem_append, not_or] at h
      -- an empty next line starts with a line feed or nothing, which the rule never joins
      have hhead : rule l.getLast? (joinLines (m :: rest)).head? = rule l.getLast? m.head? := by
        cases m with
        | cons x m => cases rest <;> simp [joinLines_cons_cons]
        | nil =>
          have hnone : rule l.getLast? none = false := by
            cases hr : rule l.getLast? none
            · rfl
            · exact absurd (hfirst _ _ hr) (by simp)
          cases rest with
          | nil => simp [hnone]
          | cons n rest =>
            have : rule l.getLast? (some '\n') = false := by
              cases hr : rule l.getLast? (some '\n')
              · rfl
              · exact absurd (Option.some.inj (hfirst _ _ hr)) (Ne.symm hc)
            simp [joinLines_cons_cons, this, hnone]
      rw [joinLines_cons_cons, hscan l _ h.1, hhead, glue_cons_cons]
      split
      · next hr =>
        obtain ⟨m', rfl⟩ : ∃ m', m = c :: m' := by
          cases m with
          | nil => exact absurd (hfirst _ _ hr) (by simp)
          | cons x m' => exact ⟨m', by simpa using hfirst _ _ hr⟩
        have ht : (joinLines ((c :: m') :: rest)).tail = joinLines (m' :: rest) := by
          cases rest <;> simp [joinLines_cons_cons]
        have hne : glue rule (m' :: rest) ≠ [] := glue_ne_nil (List.cons_ne_nil _ _)
        rw [ht, ih m' (by
          simp only [List.flatten_cons, List.mem_append, not_or]
          exact ⟨fun hm => h.2.1 (List.mem_cons_of_mem _ hm), h.2.2⟩),
          show c :: m' = [c] ++ m' from rfl, glue_append_cons (hshift m') rest,
          joinLines_modifyHead _ (by simpa using hne), joinLines_modifyHead _ hne]
        simp
      · rw [ih m (by simpa using h.2),
          joinLines_cons_of_ne_nil _ (glue_ne_nil (List.cons_ne_nil _ _))]

end Pass

/-- The pass that joins a line ending with `o` to the next line starting with `c`. -/
theorem replaceAll_pair_joinLines {o c : Char} (ho : o ≠ '\n') (hc : c ≠ '\n') (hoc : o ≠ c)
    (ls : List (List Char)) (h : '\n' ∉ ls.flatten) :
    replaceAll ⟨o, ['\n', c]⟩ [o, c] (joinLines ls) = joinLines (glue (pairRule o c) ls) := by
  refine replaceAll_joinLines hc (fun x y hr => ?_) (fun m y => ?_) (fun l hl => ?_)
    (fun l s hl => ?_) ls h
  · simp only [pairRule, Bool.and_eq_true, beq_iff_eq] at hr
    exact hr.2
  · cases m with
    | nil => simp [pairRule, Ne.symm hoc]
    | cons x m => simp [pairRule, List.getLast?_cons]
  · exact replaceAll_of_occursIn_eq_false _ _ l
      (occursIn_eq_false_of_not_mem _ (x := '\n') (by simp [Pattern.toList]) l hl)
  · induction l with
    | nil =>
      rw [List.nil_append, replaceAll_cons_of_isPrefixOf_eq_false _ _ (by
        simp [Pattern.toList, List.isPrefixOf, ho])]
      simp [pairRule]
    | cons x l ih =>
      simp only [List.mem_cons, not_or] at hl
      cases l with
      | nil =>
        rw [List.singleton_append, replaceAll_cons]
        cases s with
        | nil => simp [pairRule, Pattern.toList, List.isPrefixOf, replaceAll_cons]
        | cons y s =>
          by_cases hx : x = o
          · by_cases hy : y = c
            · subst hx hy
              simp [pairRule, Pattern.toList, List.isPrefixOf]
            · subst hx
              simp [pairRule, Pattern.toList, List.isPrefixOf, hy, Ne.symm hy, replaceAll_cons, ho]
          · simp [pairRule, Pattern.toList, List.isPrefixOf, hx, Ne.symm hx, replaceAll_cons, ho]
      | cons x' l =>
        have hx' : x' ≠ '\n' := fun he => hl.2 (by simp [he])
        rw [List.cons_append, replaceAll_cons_of_isPrefixOf_eq_false _ _ (by
          simp [Pattern.toList, List.isPrefixOf, Ne.symm hx']), ih hl.2]
        split <;> simp_all [List.getLast?_cons_cons]

/-- The pass that joins a line starting with `e` to the line before. -/
theorem replaceAll_lead_joinLines {e : Char} (he : e ≠ '\n') (ls : List (List Char))
    (h : '\n' ∉ ls.flatten) :
    replaceAll ⟨'\n', [e]⟩ [e] (joinLines ls) = joinLines (glue (leadRule e) ls) := by
  refine replaceAll_joinLines he (fun x y hr => ?_) (fun m y => rfl) (fun l hl => ?_)
    (fun l s hl => ?_) ls h
  · simpa [leadRule] using hr
  · exact replaceAll_of_occursIn_eq_false _ _ l
      (occursIn_eq_false_of_not_mem _ (x := '\n') (by simp [Pattern.toList]) l hl)
  · rw [replaceAll_append_of_head_not_mem _ _ hl, replaceAll_cons]
    cases s with
    | nil => simp [leadRule, Pattern.toList, List.isPrefixOf]
    | cons y s =>
      by_cases hy : y = e
      · subst hy
        simp [leadRule, Pattern.toList, List.isPrefixOf]
      · simp [leadRule, Pattern.toList, List.isPrefixOf, hy, Ne.symm hy]

end Reindent.Proofs.Glue
