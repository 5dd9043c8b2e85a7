import Reindent.Workload.Suite
import Reindent.Call.Reader
import Reindent.Call.Writer

/-!
# Requests

A request is a record whose field `op` names the operation; the other fields are its arguments.
`answer` carries a request out and gives a `Reply`, which `Reply.toValue` turns into the record
that is sent back.

* `format`, `format_text`, `merge_empty_lines` and `strip_and_remove_empty_lines` take `text`
  and answer with the cleaned text, the reindented text, the merged text and the text without
  blank lines. A `text` that is not a string is refused as a value without the string method the
  operation calls first: `replace` for `format`, `splitlines` for the others.
* `format_difference` takes `expected` and an optional `got`, where nothing stands for the empty
  text, and answers with their unified difference.
* `format_files` takes `files` and an optional `dry_run`; `cli` takes an optional `files`. Both
  answer with what was printed, the files afterwards and, if a file was missing, the class of
  that fault. The files are the items of `files`: those of a list, the characters of a string,
  the names of a record. Each is a file's text, or nothing for a missing file; anything else, or
  a text with lone halves of surrogate pairs, cannot be written to a file and fails the request
  before any file is formatted.
* `realpath` takes `path` and answers with the path resolved against the program's directory.
* `microbench` takes the `name` of a workload and optional `params` and answers with its count.
  The name must be a string, checked for the prefix `bench_` before it is looked up;
  `microbench_main` runs every workload and answers with nothing; `bench_params` answers with the
  table of the sizes each workload is meant to be measured at.
* `nested_block` takes `n_blocks` and an optional `depth` (six) and `messy_source` takes
  `n_lines`; they answer with the generated text.

A missing required field, an argument of the wrong kind and an unknown operation or workload are
faults, answered with their class and message. `respond` reads a request line, answers it and
writes the answer line.
-/

namespace Reindent.Call

open Reindent.Workload Reindent.Diff

/-- The answer to a request. -/
inductive Reply where
  /-- A text. -/
  | text (s : List Point)
  /-- The count of a workload; it prints nothing. -/
  | count (n : Nat)
  /-- A run with no result that prints nothing. -/
  | done
  /-- A table of values. -/
  | table (t : Value)
  /-- What a batch of files left behind. -/
  | batch (o : Outcome)
  /-- A fault. -/
  | fault (f : Fault)

/-- A field of an answer. -/
def entry (name : String) (v : Value) : List Point × Value :=
  (Point.ofString name, v)

/-- The contents of a file as a value: its text, or nothing for a missing file. -/
def fileValue : Option String → Value
  | some s => .ofString s
  | none => .none

/-- The record sent back for a reply. -/
def Reply.toValue : Reply → Value
  | .text s => .dict [entry "result" (.str s)]
  | .count n => .dict [entry "result" (.int n), entry "stdout" (.ofString "")]
  | .done => .dict [entry "result" .none, entry "stdout" (.ofString "")]
  | .table t => .dict [entry "result" t]
  | .batch o =>
    .dict ([entry "stdout" (.ofString o.printed), entry "files" (.list (o.files.map fileValue))] ++
      if o.stopped then [entry "error" (.ofString Fault.fileMissing.className)] else [])
  | .fault f =>
    .dict (entry "error" (.ofString f.className) :: match f.message with
      | some m => [entry "message" (.str m)]
      | none => [])

/-- A required field of a request. -/
def required (req : Value) (name : String) : Except Fault Value :=
  match req.field? name with
  | some v => .ok v
  | none => .error (.missingField name)

/-- A string argument, refused as a value without the string method `method` otherwise. -/
def asText (method : String) : Value → Except Fault (List Point)
  | .str s => .ok s
  | v => .error (.noMethod v.typeName method)

/-- The `text` field of a request as a string. -/
def textField (req : Value) (method : String) : Except Fault (List Point) := do
  asText method (← required req "text")

/-- The items of a value, in order: those of a list, the characters of a string and the names
of a record. Other kinds have none to go through. -/
def Value.items : Value → Except Fault (List Value)
  | .list items => .ok items
  | .str s => .ok (s.map fun p => .str [p])
  | .dict fields => .ok (fields.map fun f => .str f.1)
  | v => .error (.notIterable v.typeName)

/-- Whether a code point is a lone half of a surrogate pair. -/
def Point.isLone : Point → Bool
  | .lone _ => true
  | .char _ => false

/-- The first run of lone halves in a string, from position `i` on: where it starts and their
codes. -/
def loneRunFrom (i : Nat) : List Point → Option (Nat × List Nat)
  | [] => none
  | .char _ :: rest => loneRunFrom (i + 1) rest
  | .lone n :: rest => some (i, n :: (rest.takeWhile Point.isLone).map Point.code)

/-- The file an item of `files` stands for: its text, or nothing for a missing file. -/
def fileOf : Value → Except Fault (Option String)
  | .none => .ok none
  | .str ps =>
    match Point.toString? ps, loneRunFrom 0 ps with
    | some s, _ => .ok (some s)
    | none, some (i, codes) => .error (.unencodable i codes)
    | none, none => .ok none
  | v => .error (.notWritable v.typeName)

/-- The files of a request, each written before any is formatted. -/
def filesArg (v : Value) : Except Fault (List (Option String)) := do
  (← v.items).mapM fileOf

/-- The table of the sizes each workload is meant to be measured at. -/
def sizeTable : Value :=
  .dict (Bench.all.map fun b =>
    entry b.name (.list (b.sizes.map fun (n : Nat) => .dict [entry b.param (.int n)])))

/-- The parameter a workload runs with: the single field of `params` named as its parameter, or
its default when `params` is empty. -/
def benchArg (b : Bench) (params : Value) : Except Fault Value :=
  match params with
  | .dict fields =>
    match fields.find? fun f => f.1 != Point.ofString b.param with
    | some f => .error (.unexpectedKeyword b.name f.1)
    | none => .ok ((params.field? b.param).getD (.int b.default))
  | v => .error (.notMapping b.name v.typeName)

/-- The workload a name stands for: it starts with `bench_` and names one. -/
def benchNamed? (ps : List Point) : Option Bench :=
  if (Point.ofString "bench_").isPrefixOf ps then Point.toString? ps >>= Bench.ofName?
  else none

/-- Runs the workload that `req` names with its `params`. -/
def runBench (req : Value) : Except Fault Nat := do
  let name ← required req "name"
  let ps ← asText "startswith" name
  match benchNamed? ps with
  | some b => b.run (← benchArg b ((req.field? "params").getD (.dict [])))
  | none => throw (.unknownBench name.render)

/-- `n_blocks` nested blocks of depth `depth` (six when not given). -/
def nestedArg (req : Value) : Except Fault String := do
  let blocks ← required req "n_blocks"
  let depth ← rangeCount ((req.field? "depth").getD (.int 6))
  let n ← fitCount ((nestedBlock depth).length + 1) (← repeatCount blocks)
  return nestedBlocks n depth

/-- The untidy code for `n_lines` lines. -/
def messyArg (req : Value) : Except Fault String := do
  let c ← fitCount ((messySource 1).length + 1) (← unitCount 12 (← required req "n_lines"))
  return messySource c

/-- The unified difference of `expected` and `got`, a missing or empty `got` being the empty
text. -/
def diffArg (req : Value) : Except Fault (List Point) := do
  let expected ← asText "splitlines" (← required req "expected")
  let got ← match req.field? "got" with
    | none | some .none => pure []
    | some v => asText "splitlines" v
  return carry [expected, got] fun ss => textDiff (ss.getD 0 "") (ss.getD 1 "")

/-- The reply to an operation. -/
def perform (req : Value) (op : String) : Except Fault Reply :=
  match op with
  | "format" => return .text (carryOne tidyText (← textField req "replace"))
  | "format_text" => return .text (carryOne reindentText (← textField req "splitlines"))
  | "merge_empty_lines" => return .text (carryOne mergeText (← textField req "splitlines"))
  | "strip_and_remove_empty_lines" =>
    return .text (carryOne dropBlankText (← textField req "splitlines"))
  | "format_difference" => return .text (← diffArg req)
  | "format_files" => do
    let files ← filesArg (← required req "files")
    let dryRun := ((req.field? "dry_run").getD (.bool false)).truthy
    return .batch (reindentFiles dryRun files)
  | "cli" => return .batch (commandLine (← filesArg ((req.field? "files").getD (.list []))))
  | "realpath" => do
    match ← required req "path" with
    | .str p => return .text (carryOne resolvePath p)
    | v => throw (.notPathPart v.typeName)
  | "microbench" => return .count (← runBench req)
  | "microbench_main" => return .done
  | "bench_params" => return .table sizeTable
  | "nested_block" => return .text (Point.ofString (← nestedArg req))
  | "messy_source" => return .text (Point.ofString (← messyArg req))
  | _ => throw (.unknownOp (Value.ofString op).render)

/-- The reply to a request. -/
def answer (req : Value) : Reply :=
  let r : Except Fault Reply :=
    match req with
    | .dict _ => do
      match ← required req "op" with
      | .str ps =>
        match Point.toString? ps with
        | some op => perform req op
        | none => throw (.unknownOp (Value.str ps).render)
      | v => throw (.unknownOp v.render)
    | v => throw (.notSubscriptable v.typeName)
  match r with
  | .ok reply => reply
  | .error f => .fault f

/-- The answer line to a request line. -/
def respond (line : String) : String :=
  let reply := match readRequest line with
    | .ok req => answer req
    | .error f => .fault f
  reply.toValue.toJson

end Reindent.Call
