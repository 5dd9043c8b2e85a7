import Mathlib.Logic.Function.Iterate
import Reindent.CommandLine
import Reindent.Proofs.Tidy

/-! # Batches of files

A batch reads the files at its paths in order and stops at the first path with no file. What it
does is told by the paths it reaches, those before the first path with no file
(`reachedPaths`); writing a file back never removes one, so the batch reaches the same paths
whatever it wrote before (`reachedPaths_writeAt`). Field by field:

* `stopped_run`: the batch stops exactly when some path has no file;
* `files_run_dry`, `printed_run_dry`: a dry run leaves the files alone and prints, for each path
  it reaches, the new text of its file and a line break;
* `printed_run_write`, `files_run_write`: otherwise it prints nothing, and the file at a path
  that it reaches `k` times is read and rewritten `k` times.

`reindentPaths_eq_reached` puts these together with the command line, which is a batch that
writes. Reading a text as a text file never changes how it is reindented
(`reindentText_readText`), and on a text without blank lines reindenting is tidying, and a fixed
point: so a file without blank lines ends up holding its tidied text however often the batch
reaches it (`tidyText_eq_reindentText`).
-/

namespace Reindent.Proofs.Batch

open Reindent.Text Reindent.Layout Reindent.Proofs.Trim Reindent.Proofs.Merge
open Reindent.Proofs.FixedPoint Reindent.Proofs.Tidy

variable {α : Type} [DecidableEq α]

/-- The paths a batch reaches: those before the first path with no file. -/
def reachedPaths (fs : α → Option String) (paths : List α) : List α :=
  paths.takeWhile fun p => (fs p).isSome

/-! ## One path -/

section Step

variable (b : Batch α) (p : α) (rest : List α)

@[simp] theorem run_nil (dryRun : Bool) : Batch.run dryRun b [] = b := rfl

theorem run_cons_none (dryRun : Bool) (h : b.files p = none) :
    Batch.run dryRun b (p :: rest) = { b with stopped := true } := by
  rw [Batch.run, h]

theorem run_dry_cons_some {text : String} (h : b.files p = some text) :
    Batch.run true b (p :: rest) =
      Batch.run true { b with printed := b.printed ++ reindentText (readText text) ++ "\n" } rest := by
  rw [Batch.run, h]
  rfl

theorem run_write_cons_some {text : String} (h : b.files p = some text) :
    Batch.run false b (p :: rest) =
      Batch.run false { b with files := writeAt b.files p (reindentText (readText text)) } rest := by
  rw [Batch.run, h]
  rfl

end Step

omit [DecidableEq α] in
theorem reachedPaths_cons_none {fs : α → Option String} {p : α} (h : fs p = none)
    (rest : List α) : reachedPaths fs (p :: rest) = [] := by
  simp [reachedPaths, h]

omit [DecidableEq α] in
theorem reachedPaths_cons_some {fs : α → Option String} {p : α} {text : String}
    (h : fs p = some text) (rest : List α) :
    reachedPaths fs (p :: rest) = p :: reachedPaths fs rest := by
  simp [reachedPaths, h]

/-- Writing a file that exists keeps which paths have a file. -/
theorem isSome_writeAt {fs : α → Option String} {p : α} (h : (fs p).isSome)
    (t : String) : (fun q => (writeAt fs p t q).isSome) = fun q => (fs q).isSome := by
  funext q
  by_cases hq : q = p
  · subst hq
    simp [h]
  · rw [writeAt_of_ne fs t hq]

theorem reachedPaths_writeAt {fs : α → Option String} {p : α} {text : String}
    (h : fs p = some text) (t : String) (paths : List α) :
    reachedPaths (writeAt fs p t) paths = reachedPaths fs paths := by
  rw [reachedPaths, isSome_writeAt (by simp [h]) t, reachedPaths]

/-! ## A whole batch -/

/-- **A batch stops** exactly when some path has no file. -/
theorem stopped_run (dryRun : Bool) (b : Batch α) (paths : List α) :
    (Batch.run dryRun b paths).stopped = (b.stopped || !paths.all fun p => (b.files p).isSome) := by
  induction paths generalizing b with
  | nil => simp
  | cons p rest ih =>
    cases hp : b.files p with
    | none => simp [run_cons_none b p rest dryRun hp, hp]
    | some text =>
      cases dryRun with
      | true => simp [run_dry_cons_some b p rest hp, ih, hp]
      | false =>
        -- the file written back keeps the same paths holding files
        rw [run_write_cons_some b p rest hp, ih]
        simp only [List.all_cons, hp, Option.isSome_some, Bool.true_and]
        rw [isSome_writeAt (by simp [hp])]

/-- A dry run leaves the files alone. -/
theorem files_run_dry (b : Batch α) (paths : List α) : (Batch.run true b paths).files = b.files := by
  induction paths generalizing b with
  | nil => rfl
  | cons p rest ih =>
    cases hp : b.files p with
    | none => rw [run_cons_none b p rest true hp]
    | some text => rw [run_dry_cons_some b p rest hp, ih]

/-- **A dry run prints** the new text of each file it reaches, each with a line break. -/
theorem printed_run_dry (b : Batch α) (paths : List α) :
    (Batch.run true b paths).printed =
      b.printed ++ String.join (((reachedPaths b.files paths).filterMap b.files).map
        fun c => reindentText (readText c) ++ "\n") := by
  induction paths generalizing b with
  | nil => simp [reachedPaths]
  | cons p rest ih =>
    cases hp : b.files p with
    | none => simp [run_cons_none b p rest true hp, reachedPaths_cons_none hp]
    | some text =>
      rw [run_dry_cons_some b p rest hp, ih, reachedPaths_cons_some hp, List.filterMap_cons, hp]
      simp [String.append_assoc]

/-- A batch that writes prints nothing. -/
theorem printed_run_write (b : Batch α) (paths : List α) :
    (Batch.run false b paths).printed = b.printed := by
  induction paths generalizing b with
  | nil => rfl
  | cons p rest ih =>
    cases hp : b.files p with
    | none => rw [run_cons_none b p rest false hp]
    | some text => rw [run_write_cons_some b p rest hp, ih]

/-- **A batch that writes** reads and rewrites the file at a path as often as it reaches the
path, each time from what it wrote the time before. -/
theorem files_run_write (b : Batch α) (paths : List α) (q : α) :
    (Batch.run false b paths).files q =
      (b.files q).map ((fun c => reindentText (readText c))^[(reachedPaths b.files paths).count q]) := by
  induction paths generalizing b with
  | nil => simp [reachedPaths]
  | cons p rest ih =>
    cases hp : b.files p with
    | none => simp [run_cons_none b p rest false hp, reachedPaths_cons_none hp]
    | some text =>
      rw [run_write_cons_some b p rest hp, ih, reachedPaths_writeAt hp, reachedPaths_cons_some hp]
      by_cases hq : q = p
      · -- the path just written: one more rewrite of the text it held
        subst hq
        simp [hp, List.count_cons_self]
      · simp [writeAt_of_ne _ _ hq, List.count_cons_of_ne (Ne.symm hq)]

/-- **What a batch of files does.** Over paths that may repeat, a batch stops exactly when some
path has no file, and it reaches the paths before the first such path. A dry run leaves every
file as it was and prints, for each path reached, the text of its file read as a text file
and reindented, and a line break. Otherwise it prints nothing, and the file at each path ends up
read and reindented as many times as the batch reached the path, no line break added; files at
paths it does not reach are left alone. The command line, given paths, is the batch that
writes. -/
theorem reindentPaths_eq_reached (fs : α → Option String) (paths : List α) :
    reindentPaths true fs paths =
        ⟨String.join (((reachedPaths fs paths).filterMap fs).map
            fun c => reindentText (readText c) ++ "\n"),
          fs, !paths.all fun p => (fs p).isSome⟩ ∧
      reindentPaths false fs paths =
        ⟨"", fun q => (fs q).map
            ((fun c => reindentText (readText c))^[(reachedPaths fs paths).count q]),
          !paths.all fun p => (fs p).isSome⟩ ∧
      ∀ args : List α, args ≠ [] → runCommandLine fs args = reindentPaths false fs args := by
  refine ⟨Batch.ext ?_ ?_ ?_, Batch.ext ?_ ?_ ?_, fun args hargs => ?_⟩
  · rw [reindentPaths, printed_run_dry]
    exact String.empty_append
  · rw [reindentPaths, files_run_dry]
  · rw [reindentPaths, stopped_run, Bool.false_or]
  · rw [reindentPaths, printed_run_write]
  · funext q
    rw [reindentPaths, files_run_write]
  · rw [reindentPaths, stopped_run, Bool.false_or]
  · rw [runCommandLine, if_neg (by simpa using hargs)]

/-- The command line over one file is the batch that writes it. -/
theorem reindentPaths_eq_reached_commandLine :
    ([0] : List Nat) ≠ [] ∧
      runCommandLine (fun i : Nat => if i = 0 then some "a \x7b\nb\n\x7d" else none) [0] =
        reindentPaths false (fun i : Nat => if i = 0 then some "a \x7b\nb\n\x7d" else none) [0] :=
  ⟨by simp, (reindentPaths_eq_reached _ [0]).2.2 [0] (by simp)⟩

/-! ## Files without blank lines -/

/-- Reading a text as a text file never changes how it is reindented. -/
theorem reindentText_readText (s : String) : reindentText (readText s) = reindentText s := by
  rw [reindentText, readText, String.toList_ofList, reindent_unifyBreaks, ← reindentText]

theorem nil_not_mem_trimmedLines {t : List Char} (h : ∀ l ∈ splitLines t, ∃ c ∈ l, isBlank c = false) :
    [] ∉ trimmedLines t := by
  intro hm
  obtain ⟨l, hl, he⟩ := List.mem_map.mp hm
  obtain ⟨c, hc, hb⟩ := h l hl
  rw [(trim_eq_nil_iff l).mp he c hc] at hb
  cases hb

/-- **On text without blank lines the cleaning and the file batch agree.** When every line of a
text holds a character that is not blank, tidying it is reindenting it; and a batch that writes
leaves a file that held such a text holding its tidied text, however often it reached the
file. -/
theorem tidyText_eq_reindentText (t : String)
    (h : ∀ l ∈ splitLines t.toList, ∃ c ∈ l, isBlank c = false) :
    tidyText t = reindentText t ∧
      ∀ (fs : α → Option String) (paths : List α) (p : α), fs p = some t →
        p ∈ reachedPaths fs paths → (reindentPaths false fs paths).files p = some (tidyText t) := by
  have hsolid := nil_not_mem_trimmedLines h
  have htidy : tidyText t = reindentText t := by
    rw [tidyText, reindentText, tidy_eq_reindent_of_nil_not_mem hsolid]
  -- read and reindented once or more, the text is reindented once
  have hiter : ∀ k, (fun c => reindentText (readText c))^[k + 1] t = reindentText t := by
    intro k
    induction k with
    | zero => exact reindentText_readText t
    | succ k ih =>
      rw [Function.iterate_succ_apply', ih, reindentText_readText, reindentText, reindentText,
        String.toList_ofList, reindent_reindent_of_nil_not_mem hsolid]
  refine ⟨htidy, fun fs paths p hp hreach => ?_⟩
  obtain ⟨k, hk⟩ := Nat.exists_eq_add_of_lt (List.count_pos_iff.mpr hreach)
  rw [reindentPaths, files_run_write]
  dsimp only
  rw [hp, Option.map_some, hk, Nat.zero_add, hiter, htidy]

/-- A file with `\r\n` breaks and no blank line, named twice: the batch leaves its tidied text. -/
theorem tidyText_eq_reindentText_crlf :
    (∀ l ∈ splitLines "a \x7b\r\nb;\r\n\x7d".toList, ∃ c ∈ l, isBlank c = false) ∧
      (reindentPaths false (fun i : Nat => if i = 0 then some "a \x7b\r\nb;\r\n\x7d" else none)
          [0, 0]).files 0 = some (tidyText "a \x7b\r\nb;\r\n\x7d") := by
  -- the lines are checked as a computation on booleans, then read as the hypothesis
  have hb : ((splitLines "a \x7b\r\nb;\r\n\x7d".toList).all fun l => l.any fun c => !isBlank c) =
      true := by
    decide +kernel
  have h : ∀ l ∈ splitLines "a \x7b\r\nb;\r\n\x7d".toList, ∃ c ∈ l, isBlank c = false := by
    simpa using hb
  exact ⟨h, (tidyText_eq_reindentText _ h).2 _ [0, 0] 0 rfl (by decide)⟩

end Reindent.Proofs.Batch
