import Reindent.Call.Point
import Reindent.Number.Shortest
import Reindent.Text.Printable

/-!
# Request values

A request names an operation and carries its arguments as values of a small dynamic language:
nothing, truth values, integers, binary64 fractions, strings of code points, lists and records
of named fields. Each value has a *kind*, whose name the error messages quote (`NoneType`,
`bool`, `int`, `float`, `str`, `list`, `dict`).

`Value.render` writes a value the way the messages quote it: `None`, `True`, `12`, `2.5`,
`'text'`, `[1, 2]` and `{'k': 1}`. A quoted string takes single quotes, or double quotes when it
holds a single quote and no double quote. Inside the quotes the quote itself and the backslash
are escaped with a backslash, tab, line feed and carriage return are written `\t`, `\n` and
`\r`, and every other code point that is not printable is written `\xhh`, `\uhhhh` or
`\Uhhhhhhhh`, the shortest of the three that holds it.
-/

namespace Reindent.Call

open Reindent.Number Reindent.Text

/-- A value of a request. -/
inductive Value where
  /-- No value. -/
  | none
  /-- A truth value; it also counts as the integer `0` or `1`. -/
  | bool (b : Bool)
  /-- An integer. -/
  | int (n : Int)
  /-- A binary64 fraction. -/
  | float (x : Binary64)
  /-- A string. -/
  | str (s : List Point)
  /-- A list of values. -/
  | list (items : List Value)
  /-- A record: named fields in order. -/
  | dict (fields : List (List Point × Value))
deriving Repr, Inhabited

namespace Value

/-- A string value of a string without lone halves. -/
def ofString (s : String) : Value :=
  .str (Point.ofString s)

/-- The name of the kind of a value, as messages write it. -/
def typeName : Value → String
  | .none => "NoneType"
  | .bool _ => "bool"
  | .int _ => "int"
  | .float _ => "float"
  | .str _ => "str"
  | .list _ => "list"
  | .dict _ => "dict"

/-- The field of a record with the given name; `none` for a missing field or a value that is not
a record. -/
def field? (v : Value) (name : String) : Option Value :=
  match v with
  | .dict fields => (fields.find? fun f => f.1 == Point.ofString name).map Prod.snd
  | _ => Option.none

/-- Whether a value counts as true: anything but nothing, `false`, zero and the empty string,
list and record. Not a number counts as true. -/
def truthy : Value → Bool
  | .none => false
  | .bool b => b
  | .int n => n != 0
  | .float (.finite _ m _) => m != 0
  | .float _ => true
  | .str s => !s.isEmpty
  | .list items => !items.isEmpty
  | .dict fields => !fields.isEmpty

end Value

/-- The lowest `width` hexadecimal digits of `n`, most significant first. -/
def hexDigits : Nat → Nat → List Char
  | 0, _ => []
  | width + 1, n => hexDigits width (n / 16) ++ [Nat.digitChar (n % 16)]

/-- The escape of a code point that is not printable: `\x`, `\u` or `\U` and its hexadecimal
number. -/
def hexEscape (n : Nat) : List Char :=
  if n < 0x100 then ['\\', 'x'] ++ hexDigits 2 n
  else if n < 0x10000 then ['\\', 'u'] ++ hexDigits 4 n
  else ['\\', 'U'] ++ hexDigits 8 n

/-- How a code point is written inside a string quoted by `q`. -/
def escapePoint (q : Char) : Point → List Char
  | .lone n => hexEscape n
  | .char c =>
    if c == q || c == '\\' then ['\\', c]
    else if c == '\t' then ['\\', 't']
    else if c == '\n' then ['\\', 'n']
    else if c == '\r' then ['\\', 'r']
    else if isPrintableCode c.toNat then [c]
    else hexEscape c.toNat

/-- A string in quotes, with the code points that need it escaped. -/
def quoteChars (ps : List Point) : List Char :=
  let q := if ps.contains (.char '\'') && !ps.contains (.char '"') then '"' else '\''
  q :: ps.flatMap (escapePoint q) ++ [q]

/-- A string in quotes, as `quoteChars` writes it. -/
def quote (ps : List Point) : String :=
  String.ofList (quoteChars ps)

namespace Value

mutual

/-- A value written the way the messages quote it. -/
def render : Value → String
  | .none => "None"
  | .bool true => "True"
  | .bool false => "False"
  | .int n => toString n
  | .float x => x.text
  | .str s => quote s
  | .list items => "[" ++ ", ".intercalate (renderItems items) ++ "]"
  | .dict fields => "\x7b" ++ ", ".intercalate (renderFields fields) ++ "\x7d"

/-- The items of a list, each written as `render` writes it. -/
def renderItems : List Value → List String
  | [] => []
  | x :: rest => render x :: renderItems rest

/-- The fields of a record, each written as its quoted name, a colon and its value. -/
def renderFields : List (List Point × Value) → List String
  | [] => []
  | (k, v) :: rest => (quote k ++ ": " ++ render v) :: renderFields rest

end

end Value

end Reindent.Call
