import Reindent.Call.Fault

/-!
# Reading requests

A request line is a JSON value. Besides the values of strict JSON, the words `NaN`, `Infinity`
and `-Infinity` stand for the fractions that are not finite.

* A number without a fraction part or an exponent is an integer; any other number is a fraction,
  read as the binary64 number nearest to it, so `1e+16` and `-0.0` are fractions.
* In a string, `\uhhhh` escapes a code point, and a high half of a surrogate pair escaped right
  before a low half makes one character with it. A half without its partner stays a lone half.
  A control character must be escaped.
* A record that names a field twice keeps the field where it first stands, with the value it is
  given last.
* Blanks between the parts are spaces, tabs, line feeds and carriage returns.
* An integer may have at most 4300 digits, its sign not counted.

The reader is total: nesting and lists are bounded by a fuel of twice the length of the line,
since every other step of a descent reads at least one character.
-/

namespace Reindent.Call

open Reindent.Number

/-- The text after its leading blanks. -/
def skipBlank : List Char → List Char
  | c :: rest => if c == ' ' || c == '\t' || c == '\n' || c == '\r' then skipBlank rest else c :: rest
  | [] => []

/-- The number written by decimal digits. -/
def digitsValue (ds : List Char) : Nat :=
  ds.foldl (fun n c => 10 * n + (c.toNat - '0'.toNat)) 0

/-- The value of a hexadecimal digit. -/
def hexValue? (c : Char) : Option Nat :=
  if c.isDigit then some (c.toNat - '0'.toNat)
  else if 'a' ≤ c && c ≤ 'f' then some (c.toNat - 'a'.toNat + 10)
  else if 'A' ≤ c && c ≤ 'F' then some (c.toNat - 'A'.toNat + 10)
  else none

/-- The number written by four hexadecimal digits at the start of a text, and the rest. -/
def readHex4 : List Char → Option (Nat × List Char)
  | a :: b :: c :: d :: rest => do
    let xs ← [a, b, c, d].mapM hexValue?
    return (xs.foldl (fun n x => 16 * n + x) 0, rest)
  | _ => none

/-- The integer digits of a number: a lone `0`, or digits that do not start with `0`. -/
def readWhole : List Char → Option (List Char × List Char)
  | '0' :: rest => some (['0'], rest)
  | c :: rest =>
    if c.isDigit then some (c :: rest.takeWhile Char.isDigit, rest.dropWhile Char.isDigit)
    else none
  | [] => none

/-- The part of a number after its sign: the integer digits, the fraction digits and the
exponent, if there is one; `none` when no digit starts it. -/
def readMagnitude (cs : List Char) : Option (List Char × List Char × Option Int × List Char) := do
  let (whole, cs) ← readWhole cs
  let (frac, cs) := match cs with
    | '.' :: d :: rest =>
      if d.isDigit then (d :: rest.takeWhile Char.isDigit, rest.dropWhile Char.isDigit)
      else ([], cs)
    | _ => ([], cs)
  let (exp, cs) : Option Int × List Char := match cs with
    | e :: rest =>
      if e == 'e' || e == 'E' then
        let (sign, digits) : Int × List Char := match rest with
          | '-' :: ds => (-1, ds)
          | '+' :: ds => (1, ds)
          | ds => (1, ds)
        let ds := digits.takeWhile Char.isDigit
        if ds.isEmpty then (Option.none, cs)
        else (some (sign * digitsValue ds), digits.dropWhile Char.isDigit)
      else (Option.none, cs)
    | [] => (Option.none, cs)
  return (whole, frac, exp, cs)

/-- The most digits an integer may be written with. -/
def digitLimit : Nat := 4300

/-- A number at the start of a text: an integer, or a fraction when it has a fraction part or an
exponent; `none` when no number starts the text. An integer of more than `digitLimit` digits is
refused with `tooManyDigits`. -/
def readNumber (cs : List Char) : Except Fault (Option (Value × List Char)) :=
  let (neg, cs) := match cs with
    | '-' :: rest => (true, rest)
    | rest => (false, rest)
  match readMagnitude cs with
  | none => .ok none
  | some (whole, frac, exp, rest) =>
    if frac.isEmpty && exp.isNone then
      if digitLimit < whole.length then .error (.tooManyDigits whole.length)
      else
        let n : Int := digitsValue whole
        .ok (some (.int (if neg then -n else n), rest))
    else
      let e : Int := exp.getD 0 - frac.length
      .ok (some (.float (Binary64.ofDecimal neg (digitsValue (whole ++ frac)) e), rest))

/-- Whether a code point is a high half of a surrogate pair. -/
def isHighHalf (n : Nat) : Bool := 0xD800 ≤ n && n ≤ 0xDBFF

/-- Whether a code point is a low half of a surrogate pair. -/
def isLowHalf (n : Nat) : Bool := 0xDC00 ≤ n && n ≤ 0xDFFF

/-- The code point escaped by `\u` with the digits `n`, followed by `rest`: a character, a pair
of halves joined into one character, or a lone half. -/
def escapedPoint (n : Nat) (rest : List Char) : Point × List Char :=
  if isHighHalf n then
    match rest with
    | '\\' :: 'u' :: more =>
      match readHex4 more with
      | some (m, after) =>
        if isLowHalf m then (.char (Char.ofNat (0x10000 + (n - 0xD800) * 0x400 + (m - 0xDC00))), after)
        else (.lone n, rest)
      | none => (.lone n, rest)
    | _ => (.lone n, rest)
  else if isLowHalf n then (.lone n, rest)
  else (.char (Char.ofNat n), rest)

/-- The character a one-letter escape stands for. -/
def escapeOf? : Char → Option Char
  | '"' => some '"'
  | '\\' => some '\\'
  | '/' => some '/'
  | 'b' => some '\x08'
  | 'f' => some '\x0c'
  | 'n' => some '\n'
  | 'r' => some '\r'
  | 't' => some '\t'
  | _ => none

/-- The rest of a string after its opening quote: its code points and the text after the closing
quote. -/
def readString : Nat → Array Point → List Char → Option (List Point × List Char)
  | 0, _, _ => none
  | _ + 1, acc, '"' :: rest => some (acc.toList, rest)
  | fuel + 1, acc, '\\' :: 'u' :: rest => do
    let (n, rest) ← readHex4 rest
    let (p, rest) := escapedPoint n rest
    readString fuel (acc.push p) rest
  | fuel + 1, acc, '\\' :: c :: rest => do
    let e ← escapeOf? c
    readString fuel (acc.push (.char e)) rest
  | fuel + 1, acc, c :: rest =>
    if c.toNat < 0x20 || c == '\\' then none else readString fuel (acc.push (.char c)) rest
  | _ + 1, _, [] => none

/-- A record's fields with the field `k` given the value `v`: in its place if it is there, at
the end otherwise. -/
def setField (fields : List (List Point × Value)) (k : List Point) (v : Value) :
    List (List Point × Value) :=
  if fields.any fun f => f.1 == k then fields.map fun f => if f.1 == k then (k, v) else f
  else fields ++ [(k, v)]

/-- The fault of a line that is not well formed; `readRequest` places it. -/
def malformed : Fault := .unreadable 0

mutual

/-- A value at the start of a text, after blanks, and the text after it. -/
def readValue : Nat → List Char → Except Fault (Value × List Char)
  | 0, _ => .error malformed
  | fuel + 1, cs =>
    match skipBlank cs with
    | '\x7b' :: rest =>
      match skipBlank rest with
      | '\x7d' :: rest => .ok (.dict [], rest)
      | rest => readFields fuel [] rest
    | '[' :: rest =>
      match skipBlank rest with
      | ']' :: rest => .ok (.list [], rest)
      | rest => readItems fuel #[] rest
    | '"' :: rest =>
      match readString rest.length #[] rest with
      | some (s, rest) => .ok (.str s, rest)
      | none => .error malformed
    | 'n' :: 'u' :: 'l' :: 'l' :: rest => .ok (.none, rest)
    | 't' :: 'r' :: 'u' :: 'e' :: rest => .ok (.bool true, rest)
    | 'f' :: 'a' :: 'l' :: 's' :: 'e' :: rest => .ok (.bool false, rest)
    | 'N' :: 'a' :: 'N' :: rest => .ok (.float .nan, rest)
    | 'I' :: 'n' :: 'f' :: 'i' :: 'n' :: 'i' :: 't' :: 'y' :: rest =>
      .ok (.float (.infinite false), rest)
    | '-' :: 'I' :: 'n' :: 'f' :: 'i' :: 'n' :: 'i' :: 't' :: 'y' :: rest =>
      .ok (.float (.infinite true), rest)
    | rest =>
      match readNumber rest with
      | .ok (some r) => .ok r
      | .ok none => .error malformed
      | .error f => .error f

/-- The items of a list after its opening bracket and those read so far, and the text after the
closing bracket. -/
def readItems : Nat → Array Value → List Char → Except Fault (Value × List Char)
  | 0, _, _ => .error malformed
  | fuel + 1, acc, cs =>
    match readValue fuel cs with
    | .error f => .error f
    | .ok (v, rest) =>
      match skipBlank rest with
      | ',' :: rest => readItems fuel (acc.push v) rest
      | ']' :: rest => .ok (.list (acc.push v).toList, rest)
      | _ => .error malformed

/-- The fields of a record after its opening brace and those read so far, and the text after the
closing brace. -/
def readFields : Nat → List (List Point × Value) → List Char → Except Fault (Value × List Char)
  | 0, _, _ => .error malformed
  | fuel + 1, acc, cs =>
    match skipBlank cs with
    | '"' :: rest =>
      match readString rest.length #[] rest with
      | none => .error malformed
      | some (k, rest) =>
        match skipBlank rest with
        | ':' :: rest =>
          match readValue fuel rest with
          | .error f => .error f
          | .ok (v, rest) =>
            match skipBlank rest with
            | ',' :: rest => readFields fuel (setField acc k v) rest
            | '\x7d' :: rest => .ok (.dict (setField acc k v), rest)
            | _ => .error malformed
        | _ => .error malformed
    | _ => .error malformed

end

/-- The value of a request line, which holds one value and blanks. A line that is not well
formed is refused at its first value; an integer of too many digits is refused even when the
line goes wrong after it, since it is refused as soon as it is read. -/
def readRequest (line : String) : Except Fault Value :=
  let cs := line.toList
  match readValue (2 * cs.length + 2) cs with
  | .ok (v, rest) =>
    let rest := skipBlank rest
    if rest.isEmpty then .ok v else .error (.unreadable (cs.length - rest.length))
  | .error (.unreadable _) => .error (.unreadable (cs.length - (skipBlank cs).length))
  | .error f => .error f

end Reindent.Call
