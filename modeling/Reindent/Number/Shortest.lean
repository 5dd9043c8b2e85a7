import Reindent.Number.Binary64

/-!
# The shortest decimal of a binary64 number

A finite positive binary64 number `m * 2 ^ q` is read back from every decimal in its rounding
interval: the numbers nearer to it than to its neighbours, the ends included when `m` is even.
The lower neighbour is half as far as the upper one when `m = 2 ^ 52` and the number is not
subnormal. `shortest` finds the decimal `d * 10 ^ k` with the fewest significant digits in that
interval: for one digit, two, and so on, it tries the two multiples of the digit's place that
enclose the number. Of two that both read back it takes the nearer, and of two as near the one
with the even last digit. Seventeen digits always suffice.

`Binary64.text` writes a number in the shortest form that reads back:

* `inf`, `-inf` and `nan` for the numbers that are not finite, and `0.0` or `-0.0` for zero;
* positional notation when the decimal point falls from three places left of the first digit to
  sixteen places right of it, with at least one digit after the point (`2.5`, `100.0`,
  `0.0001`);
* otherwise scientific notation, with a signed exponent of at least two digits (`1e+16`,
  `1.5e-07`).
-/

namespace Reindent.Number

/-- How `d * 10 ^ k` compares with `x * 2 ^ e`. -/
def compareScaled (d : Nat) (k : Int) (x : Nat) (e : Int) : Ordering :=
  compare (d * Nat.pow 10 k.toNat * Nat.pow 2 (-e).toNat)
    (x * Nat.pow 2 e.toNat * Nat.pow 10 (-k).toNat)

/-- The floor of the decimal logarithm of `m * 2 ^ q`, found from an estimate through the binary
logarithm that is off by at most one, and then corrected. -/
def log10Of (m : Nat) (q : Int) : Int :=
  let guess := ((Nat.log2 m + q) * 30103).fdiv 100000
  let down := if compareScaled 1 guess m q == .gt then guess - 1 else guess
  let down := if compareScaled 1 down m q == .gt then down - 1 else down
  let up := if compareScaled 1 (down + 1) m q != .gt then down + 1 else down
  if compareScaled 1 (up + 1) m q != .gt then up + 1 else up

/-- Whether `d * 10 ^ k` reads back as `m * 2 ^ q`: it lies in the rounding interval, whose ends,
in units of `2 ^ (q - 2)`, are `lo` and `4 * m + 2`. -/
def readsBack (m : Nat) (q : Int) (lo : Nat) (d : Nat) (k : Int) : Bool :=
  let above := compareScaled d k lo (q - 2)
  let below := compareScaled d k (4 * m + 2) (q - 2)
  if m % 2 = 0 then above != .lt && below != .gt
  else above == .gt && below == .lt

/-- Of the decimals with `n` significant digits around `m * 2 ^ q`, whose place is `10 ^ k`, the
one that reads back, the nearer of two. -/
def candidate (m : Nat) (q : Int) (lo : Nat) (k : Int) : Option Nat :=
  let d := (m * Nat.pow 2 q.toNat * Nat.pow 10 (-k).toNat) /
    (Nat.pow 2 (-q).toNat * Nat.pow 10 k.toNat)
  match readsBack m q lo d k, readsBack m q lo (d + 1) k with
  | true, true =>
    match compareScaled (2 * d + 1) k (2 * m) q with
    | .gt => some d
    | .lt => some (d + 1)
    | .eq => some (if d % 2 = 0 then d else d + 1)
  | true, false => some d
  | false, true => some (d + 1)
  | false, false => none

/-- `d * 10 ^ k` with the trailing zeros of `d` moved into the exponent. -/
def dropZeros : Nat → Nat → Int → Nat × Int
  | 0, d, k => (d, k)
  | fuel + 1, d, k => if d ≠ 0 ∧ d % 10 = 0 then dropZeros fuel (d / 10) (k + 1) else (d, k)

/-- The shortest decimal `d * 10 ^ k` that reads back as the positive finite number `m * 2 ^ q`,
with no trailing zero in `d`. -/
def shortest (m : Nat) (q : Int) : Nat × Int :=
  let lo := if m = Nat.pow 2 52 ∧ -1074 < q then 4 * m - 1 else 4 * m - 2
  let e := log10Of m q
  let found := (List.range 17).findSome? fun (i : Nat) =>
    let k := e - i
    (candidate m q lo k).map fun d => (d, k)
  let (d, k) := found.getD ((m * Nat.pow 2 q.toNat * Nat.pow 10 (16 - e).toNat) /
    (Nat.pow 2 (-q).toNat * Nat.pow 10 (e - 16).toNat), e - 16)
  dropZeros (digitCount d) d k

/-- The exponent of scientific notation: a sign and at least two digits. -/
def exponentText (x : Int) : String :=
  let digits := toString x.natAbs
  (if x < 0 then "-" else "+") ++ (if digits.length < 2 then "0" ++ digits else digits)

/-- The positive decimal `0.ds * 10 ^ point`, positional for a point from `-3` to `16` and
scientific otherwise. -/
def pointText (ds : List Char) (point : Int) : String :=
  let n : Int := ds.length
  if point < -3 || 16 < point then
    let rest := ds.drop 1
    String.ofList (ds.take 1 ++ (if rest.isEmpty then [] else '.' :: rest)) ++ "e" ++
      exponentText (point - 1)
  else if point ≤ 0 then
    "0." ++ String.ofList (List.replicate point.natAbs '0' ++ ds)
  else if n ≤ point then
    String.ofList (ds ++ List.replicate (point - n).toNat '0') ++ ".0"
  else String.ofList (ds.take point.toNat ++ '.' :: ds.drop point.toNat)

/-- The shortest text that reads back as the number. -/
def Binary64.text : Binary64 → String
  | .nan => "nan"
  | .infinite neg => if neg then "-inf" else "inf"
  | .finite neg m q =>
    (if neg then "-" else "") ++
      if m = 0 then "0.0"
      else
        let (d, k) := shortest m q
        let ds := Nat.toDigits 10 d
        pointText ds (ds.length + k)

end Reindent.Number
