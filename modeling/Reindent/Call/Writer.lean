import Reindent.Call.Value

/-!
# Writing answers

An answer is written as one line of JSON in ASCII. In a string, the quote, the backslash and the
control characters that have a short escape are written `\"`, `\\`, `\n`, `\r`, `\t`, `\b` and
`\f`. Every other code point outside the printable ASCII range is written `\uhhhh`. A character
above `U+FFFF` is written as its two halves, and a lone half as itself. Numbers that are not
finite are written `NaN`, `Infinity` and `-Infinity`.
-/

namespace Reindent.Call

open Reindent.Number

/-- The `\uhhhh` escape of a code point below `U+10000`. -/
def unitEscape (n : Nat) : List Char :=
  ['\\', 'u'] ++ hexDigits 4 n

/-- How a code point is written inside a JSON string. -/
def jsonEscape : Point → List Char
  | .lone n => unitEscape n
  | .char c =>
    if c == '"' then ['\\', '"']
    else if c == '\\' then ['\\', '\\']
    else if c == '\n' then ['\\', 'n']
    else if c == '\r' then ['\\', 'r']
    else if c == '\t' then ['\\', 't']
    else if c == '\x08' then ['\\', 'b']
    else if c == '\x0c' then ['\\', 'f']
    else if 0x20 ≤ c.toNat && c.toNat < 0x7F then [c]
    else if c.toNat < 0x10000 then unitEscape c.toNat
    else
      let v := c.toNat - 0x10000
      unitEscape (0xD800 + v / 0x400) ++ unitEscape (0xDC00 + v % 0x400)

/-- A string written as JSON. -/
def jsonString (ps : List Point) : String :=
  String.ofList ('"' :: ps.flatMap jsonEscape ++ ['"'])

/-- A fraction written as JSON. -/
def jsonNumber : Binary64 → String
  | .nan => "NaN"
  | .infinite neg => if neg then "-Infinity" else "Infinity"
  | x => x.text

namespace Value

mutual

/-- A value written as JSON. -/
def toJson : Value → String
  | .none => "null"
  | .bool true => "true"
  | .bool false => "false"
  | .int n => toString n
  | .float x => jsonNumber x
  | .str s => jsonString s
  | .list items => "[" ++ ", ".intercalate (itemsJson items) ++ "]"
  | .dict fields => "\x7b" ++ ", ".intercalate (fieldsJson fields) ++ "\x7d"

/-- The items of a list, each written as JSON. -/
def itemsJson : List Value → List String
  | [] => []
  | x :: rest => toJson x :: itemsJson rest

/-- The fields of a record, each written as its name, a colon and its value. -/
def fieldsJson : List (List Point × Value) → List String
  | [] => []
  | (k, v) :: rest => (jsonString k ++ ": " ++ toJson v) :: fieldsJson rest

end

end Value

end Reindent.Call
