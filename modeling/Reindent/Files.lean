import Reindent.Layout.Strings

/-!
# Reindenting files

A batch of files is reindented in order. Each file is read as a text file, so its line breaks
become `\n`, and its text is reindented (`reindentText`, not the whole cleaning). On a dry run
the new text is printed with a line break after it and the file is left alone; otherwise the
file is overwritten with the new text, adding no line break.

A path with no file stops the batch: the paths before it are done, it and the paths after it
are not read, and the batch is marked as stopped.

Files live at paths: a file system gives `some text` for a path whose file holds `text` and
`none` for a path with no file. A path may be named more than once, and each time its file is
read as the batch last left it. `reindentFiles` is the batch over files given by their contents,
each at a path of its own, as the requests give them.
-/

namespace Reindent

variable {α : Type} [DecidableEq α]

/-- The file system after `text` is written to the file at `path`. -/
def writeAt (fs : α → Option String) (path : α) (text : String) : α → Option String :=
  fun q => if q = path then some text else fs q

@[simp] theorem writeAt_self (fs : α → Option String) (path : α) (text : String) :
    writeAt fs path text path = some text := by
  simp [writeAt]

theorem writeAt_of_ne (fs : α → Option String) {path q : α} (text : String) (h : q ≠ path) :
    writeAt fs path text q = fs q := by
  simp [writeAt, h]

/-- What a batch has done so far. -/
@[ext] structure Batch (α : Type) where
  /-- Everything printed, in order. -/
  printed : String
  /-- The files, by path. -/
  files : α → Option String
  /-- Whether the batch stopped at a path with no file. -/
  stopped : Bool

/-- Goes on with a batch over `paths`: reads each file, reindents its text, and prints it on a
dry run or writes it back otherwise; stops at the first path with no file. -/
def Batch.run (dryRun : Bool) (b : Batch α) : List α → Batch α
  | [] => b
  | path :: rest =>
    match b.files path with
    | none => { b with stopped := true }
    | some text =>
      let laid := reindentText (readText text)
      if dryRun then Batch.run dryRun { b with printed := b.printed ++ laid ++ "\n" } rest
      else Batch.run dryRun { b with files := writeAt b.files path laid } rest

/-- Reindents the files at `paths` of the file system `fs` in order, printing the new texts on a
dry run and overwriting the files otherwise, and stops at the first path with no file. -/
def reindentPaths (dryRun : Bool) (fs : α → Option String) (paths : List α) : Batch α :=
  Batch.run dryRun ⟨"", fs, false⟩ paths

/-- What a batch leaves behind, as an answer shows it. -/
structure Outcome where
  /-- Everything printed, in order. -/
  printed : String
  /-- The contents of the files afterwards. -/
  files : List (Option String)
  /-- Whether the batch stopped at a missing file. -/
  stopped : Bool
deriving DecidableEq, Repr

/-- Files given by their contents, the `i`-th at path `i`. -/
def filesAt (files : List (Option String)) (i : Nat) : Option String :=
  (files[i]?).getD none

/-- What a batch over the paths `0, …, n - 1` leaves behind at those paths. -/
def Batch.outcome (b : Batch Nat) (n : Nat) : Outcome :=
  ⟨b.printed, (List.range n).map b.files, b.stopped⟩

/-- Reindents files given by their contents, each at a path of its own, in order. -/
def reindentFiles (dryRun : Bool) (files : List (Option String)) : Outcome :=
  (reindentPaths dryRun (filesAt files) (List.range files.length)).outcome files.length

/-- The directory that holds the program, as answers write it. -/
def homeDir : String := "<dir>"

/-- A path relative to the program's directory, joined to it with no normalisation; an absolute
path stands for itself. -/
def resolvePath (p : String) : String :=
  if p.startsWith "/" then p else homeDir ++ "/" ++ p

end Reindent
