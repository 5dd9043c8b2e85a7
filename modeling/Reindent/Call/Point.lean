/-!
# Code points of request strings

A string of a request is a list of code points. Nearly all of them are characters, but a request
may also hold a lone half of a surrogate pair (written `\ud800`), which is a code point and no
character. `Point` is either.

The text operations never look at a lone half: they single out blanks, line breaks, brackets and
comment markers, and treat every other character alike. `carry` runs a text operation on strings
that hold lone halves by letting a private character stand in for each one, a different one for
each value and none that the strings hold, and by turning the stand-ins of the result back into
lone halves. Stand-ins are taken in order from the private plane `U+F0000`.
-/

namespace Reindent.Call

/-- A code point of a request string. -/
inductive Point where
  /-- A character. -/
  | char (c : Char)
  /-- A lone half of a surrogate pair, `0xD800` to `0xDFFF`. -/
  | lone (code : Nat)
deriving DecidableEq, Repr, Inhabited

namespace Point

/-- The number of the code point. -/
def code : Point → Nat
  | .char c => c.toNat
  | .lone n => n

/-- The points of a string. -/
def ofString (s : String) : List Point :=
  s.toList.map .char

/-- The characters of a list of points that holds no lone half. -/
def chars? : List Point → Option (List Char)
  | [] => some []
  | .char c :: rest => (chars? rest).map (c :: ·)
  | .lone _ :: _ => none

/-- The string of a list of points that holds no lone half. -/
def toString? (ps : List Point) : Option String :=
  (chars? ps).map String.ofList

/-- The lone halves of a list of points, each once, in order of first appearance. -/
def lones (ps : List Point) : List Nat :=
  (ps.filterMap fun p => match p with
    | .lone n => some n
    | .char _ => none).eraseDups

end Point

/-- Private characters, one for each of `codes`, taken in order from `U+F0000 + i` on and
skipping those in `used`. `fuel` bounds the number of characters tried. -/
def standInsFrom (used : List Char) : Nat → Nat → List Nat → List (Nat × Char)
  | _, _, [] => []
  | 0, _, _ => []
  | fuel + 1, i, n :: rest =>
    let c := Char.ofNat (0xF0000 + i)
    if used.contains c then standInsFrom used fuel (i + 1) (n :: rest)
    else (n, c) :: standInsFrom used fuel (i + 1) rest

/-- The stand-ins for the lone halves of some strings, none of them a character of the strings. -/
def standIns (strs : List (List Point)) : List (Nat × Char) :=
  let used := strs.flatMap fun s => s.filterMap fun p => match p with
    | .char c => some c
    | .lone _ => none
  let codes := (strs.flatMap Point.lones).eraseDups
  standInsFrom used (used.length + codes.length + 1) 0 codes

/-- A point written as a character, a lone half as its stand-in. -/
def standInFor (table : List (Nat × Char)) : Point → Char
  | .char c => c
  | .lone n => (table.lookup n).getD '\uFFFD'

/-- A character read back as a point, a stand-in as the lone half it stands for. -/
def pointOf (table : List (Nat × Char)) (c : Char) : Point :=
  match table.find? fun e => e.2 == c with
  | some e => .lone e.1
  | none => .char c

/-- A text operation on strings run on strings that may hold lone halves. -/
def carry (strs : List (List Point)) (f : List String → String) : List Point :=
  match strs.mapM Point.toString? with
  | some ss => Point.ofString (f ss)
  | none =>
    let table := standIns strs
    (f (strs.map fun s => String.ofList (s.map (standInFor table)))).toList.map (pointOf table)

/-- A text operation on one string run on a string that may hold lone halves. -/
def carryOne (f : String → String) (ps : List Point) : List Point :=
  carry [ps] fun ss => f (ss.headD "")

end Reindent.Call
