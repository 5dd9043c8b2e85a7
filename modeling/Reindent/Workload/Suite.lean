import Reindent.CommandLine
import Reindent.Diff.Unified
import Reindent.Call.Count
import Reindent.Workload.Samples
import Reindent.Workload.Source

/-!
# Workloads

Seven workloads measure the indenter. Each takes one size parameter, runs a fixed job and
answers with a number of characters, so its result checks the work as well as sizing it:

* `samples` reindents the samples in turn, `n_copies` times, and adds up the lengths;
* `nested` reindents `n_blocks` nested blocks of depth six;
* `pipeline` cleans `n_lines / 12` units of untidy code (at least one);
* `stripMerge` drops the blank lines of, and separately merges, `n_lines / 10` units of a
  ten-line text (at least one) and adds the two lengths;
* `formatDiff` reindents the samples in turn, `n_pairs` times, and adds the lengths of the
  difference between the last sample and its layout and of the difference between a two-line
  text and an empty one;
* `formatFiles` reindents `n_files` files on a dry run and measures what is printed;
* `cliMain` runs the command line once with no file and once over `n_files` files and adds what
  was printed to the sizes of the files it overwrote.

Each file of the two file workloads starts with a comment line that names it twice, such as
`// file 3, f3.as`, followed by the samples in turn, four rounds for `formatFiles` and ten for
`cliMain`.

A workload reads its parameter as `Count` says: `samples`, `formatDiff` and the file workloads
count off a range, `nested` repeats a list and the others divide a size into units.
-/

namespace Reindent.Workload

open Reindent.Call Reindent.Diff

/-- The workloads. -/
inductive Bench where
  /-- Reindenting the samples in turn. -/
  | samples
  /-- Reindenting nested blocks. -/
  | nested
  /-- Cleaning untidy code. -/
  | pipeline
  /-- Dropping blank lines and merging split lines. -/
  | stripMerge
  /-- Reindenting the samples and comparing with the layout. -/
  | formatDiff
  /-- Reindenting files on a dry run. -/
  | formatFiles
  /-- Running the command line. -/
  | cliMain
deriving DecidableEq, Repr

namespace Bench

/-- Every workload, in the order of their names. -/
def all : List Bench :=
  [cliMain, formatDiff, formatFiles, pipeline, nested, samples, stripMerge]

/-- The name of a workload. -/
def name : Bench → String
  | samples => "bench_format_text_samples"
  | nested => "bench_format_text_nested"
  | pipeline => "bench_format_pipeline"
  | stripMerge => "bench_strip_and_merge"
  | formatDiff => "bench_format_and_diff"
  | formatFiles => "bench_format_files"
  | cliMain => "bench_cli_main"

/-- The name of a workload's parameter. -/
def param : Bench → String
  | samples => "n_copies"
  | nested => "n_blocks"
  | pipeline | stripMerge => "n_lines"
  | formatDiff => "n_pairs"
  | formatFiles | cliMain => "n_files"

/-- The parameter a workload runs with when none is given. -/
def default : Bench → Nat
  | samples => 120
  | nested => 60
  | pipeline => 2000
  | stripMerge => 8000
  | formatDiff => 150
  | formatFiles => 12
  | cliMain => 10

/-- The three sizes a workload is meant to be measured at. -/
def sizes : Bench → List Nat
  | samples => [30, 120, 600]
  | nested => [15, 60, 250]
  | pipeline => [400, 2000, 8000]
  | stripMerge => [2000, 8000, 30000]
  | formatDiff => [30, 150, 600]
  | formatFiles => [4, 12, 40]
  | cliMain => [3, 10, 30]

/-- The workload of a given name. -/
def ofName? (s : String) : Option Bench :=
  all.find? fun b => b.name == s

end Bench

/-- The ten lines of the text that `stripMerge` repeats: blank ends, an empty and a blank line,
split bracket pairs and a leading statement end. -/
def stripUnit : List String :=
  ["a = \x7b  ", "  \x7d", "  ;", "", "b = [", "]", "   ", "  c = 1;  ", "\t", "// c"]

/-- `copies` copies of `stripUnit`, one line apart. -/
def stripSource (copies : Nat) : String :=
  "\n".intercalate (List.replicate copies stripUnit).flatten

/-- `rounds` rounds of the samples in turn, one line apart. -/
def sampleRounds (rounds : Nat) : String :=
  "\n".intercalate (List.replicate rounds samples).flatten

/-- File `i` of a file workload: its name line, then `rounds` rounds of the samples. -/
def fileText (rounds i : Nat) : String :=
  "// file " ++ toString i ++ ", f" ++ toString i ++ ".as\n" ++ sampleRounds rounds

/-- The total length of the layouts of the first `n` samples taken in turn. -/
def cycledLength (n : Nat) : Nat :=
  let lengths := samples.map fun s => (reindentText s).length
  (List.range n).foldl (fun acc i => acc + lengths.getD (i % 3) 0) 0

/-- The difference between the last of the first `n` samples taken in turn and its layout;
empty when `n` is zero. -/
def lastDiff (n : Nat) : String :=
  match n with
  | 0 => textDiff "" ""
  | k + 1 =>
    let s := samples.getD (k % 3) ""
    textDiff s (reindentText s)

/-- The total size of the files a batch leaves, a missing file counting as empty. -/
def filesSize (files : List (Option String)) : Nat :=
  (files.map fun f => (f.getD "").length).foldr (· + ·) 0

/-- The result of a workload run with a parameter of a given value. -/
def Bench.run (b : Bench) (v : Value) : Except Fault Nat :=
  match b with
  | .samples => do
    let n ← rangeCount v
    return cycledLength n
  | .nested => do
    let n ← fitCount ((nestedBlock 6).length + 1) (← repeatCount v)
    return (reindentText (nestedBlocks n 6)).length
  | .pipeline => do
    let c ← fitCount ((messySource 1).length + 1) (← unitCount 12 v)
    return (tidyText (messySource c)).length
  | .stripMerge => do
    let c ← fitCount ((stripSource 1).length + 1) (← unitCount 10 v)
    let t := stripSource c
    return (dropBlankText t).length + (mergeText t).length
  | .formatDiff => do
    let n ← rangeCount v
    return cycledLength n + (lastDiff n).length + (textDiff "a\nb" "").length
  | .formatFiles => do
    let n ← rangeCount v
    return (reindentFiles true ((List.range n).map fun i => some (fileText 4 i))).printed.length
  | .cliMain => do
    let n ← rangeCount v
    let bare := commandLine []
    let run := commandLine ((List.range n).map fun i => some (fileText 10 i))
    return bare.printed.length + run.printed.length + filesSize run.files

end Reindent.Workload
