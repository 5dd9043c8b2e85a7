import Reindent.Call.Value

/-!
# Faults

A request that cannot be carried out ends in a `Fault`. A fault has a class, the name of the kind
of failure, and a message; both are part of the answer. A missing file has no message: the
answer names only the class.

The messages quote names and values the way `Value.render` writes them, so a missing field
`text` reads `'text'`. The one exception is an unexpected parameter, whose name stands between
plain single quotes as it is, lone halves of surrogate pairs included; that is why a message is
a list of code points.
-/

namespace Reindent.Call

/-- Why a request failed. -/
inductive Fault where
  /-- The request line is not a well-formed value; `pos` is where reading stopped. -/
  | unreadable (pos : Nat)
  /-- A required field of the request is missing. -/
  | missingField (name : String)
  /-- A value of kind `kind` has no method `method`. -/
  | noMethod (kind method : String)
  /-- A path was given as a value of kind `kind` instead of a string. -/
  | notPathPart (kind : String)
  /-- A count was given as a value of kind `kind`, which is not an integer. -/
  | notIndex (kind : String)
  /-- A size of kind `kind` cannot be divided by an integer. -/
  | noFloorDiv (kind : String)
  /-- A list cannot be repeated a number of times given as a value of kind `kind`. -/
  | notRepeatCount (kind : String)
  /-- A value of kind `kind` has no items to go through. -/
  | notIterable (kind : String)
  /-- A file cannot be given a value of kind `kind` as its text. -/
  | notWritable (kind : String)
  /-- A file's text holds lone halves of surrogate pairs, which have no encoding: `codes` are
  those of the first run of them, which starts at position `pos`. -/
  | unencodable (pos : Nat) (codes : List Nat)
  /-- The arguments of workload `name` were given as a value of kind `kind`, not a record. -/
  | notMapping (name kind : String)
  /-- Workload `name` has no parameter `key`. -/
  | unexpectedKeyword (name : String) (key : List Point)
  /-- The operation, written as `Value.render` writes it, does not exist. -/
  | unknownOp (op : String)
  /-- The workload, written as `Value.render` writes it, does not exist. -/
  | unknownBench (name : String)
  /-- A request was a value of kind `kind`, not a record. -/
  | notSubscriptable (kind : String)
  /-- An integer in the request line is written with `digits` digits, more than the 4300 that
  are read. -/
  | tooManyDigits (digits : Nat)
  /-- A repetition count does not fit a signed 64-bit index. -/
  | indexOverflow
  /-- A repetition would build more than fits in memory. -/
  | outOfMemory
  /-- A file to format does not exist. -/
  | fileMissing
deriving DecidableEq, Repr

namespace Fault

/-- The class of a fault. -/
def className : Fault → String
  | .unreadable _ => "JSONDecodeError"
  | .missingField _ => "KeyError"
  | .noMethod _ _ => "AttributeError"
  | .unknownOp _ | .unknownBench _ | .tooManyDigits _ => "ValueError"
  | .indexOverflow => "OverflowError"
  | .outOfMemory => "MemoryError"
  | .unencodable _ _ => "UnicodeEncodeError"
  | .fileMissing => "FileNotFoundError"
  | _ => "TypeError"

/-- The text of a fault's message, for the faults that quote no name as it is. -/
def text : Fault → String
  | .unreadable pos =>
    "Expecting value: line 1 column " ++ toString (pos + 1) ++ " (char " ++ toString pos ++ ")"
  | .missingField name => quote (Point.ofString name)
  | .noMethod kind method =>
    quote (Point.ofString kind) ++ " object has no attribute " ++ quote (Point.ofString method)
  | .notPathPart kind =>
    "join() argument must be str, bytes, or os.PathLike object, not " ++
      quote (Point.ofString kind)
  | .notIndex kind => quote (Point.ofString kind) ++ " object cannot be interpreted as an integer"
  | .noFloorDiv kind =>
    "unsupported operand type(s) for //: " ++ quote (Point.ofString kind) ++ " and 'int'"
  | .notRepeatCount kind =>
    "can't multiply sequence by non-int of type " ++ quote (Point.ofString kind)
  | .notIterable kind => quote (Point.ofString kind) ++ " object is not iterable"
  | .notWritable kind => "write() argument must be str, not " ++ kind
  | .unencodable pos codes =>
    match codes with
    | [n] => "'utf-8' codec can't encode character '" ++ String.ofList (hexEscape n) ++
        "' in position " ++ toString pos ++ ": surrogates not allowed"
    | _ => "'utf-8' codec can't encode characters in position " ++ toString pos ++ "-" ++
        toString (pos + codes.length - 1) ++ ": surrogates not allowed"
  | .notMapping name kind =>
    "microbench." ++ name ++ "() argument after ** must be a mapping, not " ++ kind
  | .unexpectedKeyword name _ => name ++ "() got an unexpected keyword argument"
  | .unknownOp op => "unknown op: " ++ op
  | .unknownBench name => "unknown bench: " ++ name
  | .notSubscriptable kind =>
    if kind == "list" then "list indices must be integers or slices, not str"
    else if kind == "str" then "string indices must be integers, not 'str'"
    else quote (Point.ofString kind) ++ " object is not subscriptable"
  | .tooManyDigits digits =>
    "Exceeds the limit (4300 digits) for integer string conversion: value has " ++
      toString digits ++ " digits; use sys.set_int_max_str_digits() to increase the limit"
  | .indexOverflow => "cannot fit 'int' into an index-sized integer"
  | .outOfMemory => ""
  | .fileMissing => ""

/-- The message of a fault; `none` when the answer carries none. -/
def message : Fault → Option (List Point)
  | .fileMissing => none
  | .unexpectedKeyword name key =>
    some (Point.ofString ((Fault.unexpectedKeyword name key).text ++ " '") ++ key ++
      [.char '\''])
  | f => some (Point.ofString f.text)

end Fault

end Reindent.Call
