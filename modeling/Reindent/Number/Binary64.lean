/-!
# Binary64 numbers

A fraction in a request is a binary64 floating-point number: a sign with a finite magnitude
`m * 2 ^ q`, an infinity, or not a number. Finite magnitudes have `m < 2 ^ 53` and
`-1074 ≤ q ≤ 971`; the magnitudes below `2 ^ -1022` are the subnormal ones, with `q = -1074`.
Zero is `m = 0`, and keeps its sign.

A decimal `digits * 10 ^ exp` is read as the binary64 number nearest to it, a tie going to the
even significand. A magnitude of `2 ^ 1024 - 2 ^ 970` or more, halfway past the largest finite
number, is read as an infinity; one of at most `2 ^ -1075` is read as zero.

All arithmetic is exact, on natural numbers.
-/

namespace Reindent.Number

/-- A binary64 floating-point number. -/
inductive Binary64 where
  /-- The number `(-1) ^ neg * m * 2 ^ q`. -/
  | finite (neg : Bool) (m : Nat) (q : Int)
  /-- Plus or minus infinity. -/
  | infinite (neg : Bool)
  /-- Not a number. -/
  | nan
deriving DecidableEq, Repr

/-- Whether `n / d ≥ 2 ^ e`. -/
def atLeastPow2 (n d : Nat) (e : Int) : Bool :=
  d * Nat.pow 2 e.toNat ≤ n * Nat.pow 2 (-e).toNat

/-- The floor of the base-two logarithm of `n / d`, for positive `n` and `d`. With
`2 ^ a ≤ n < 2 ^ (a + 1)` and `2 ^ b ≤ d < 2 ^ (b + 1)` the quotient lies strictly between
`2 ^ (a - b - 1)` and `2 ^ (a - b + 1)`, so the floor is `a - b` or one less. -/
def log2Frac (n d : Nat) : Int :=
  let e : Int := (Nat.log2 n : Int) - Nat.log2 d
  if atLeastPow2 n d e then e else e - 1

/-- `n / d` rounded to the nearest natural number, a tie going to the even one. -/
def roundHalfEven (n d : Nat) : Nat :=
  let q := n / d
  let r := n % d
  if 2 * r < d then q
  else if d < 2 * r then q + 1
  else if q % 2 = 0 then q else q + 1

/-- The significand and exponent of the binary64 magnitude nearest to `n / d`, or `none` when it
is too large for a finite number. -/
def roundFrac (n d : Nat) : Option (Nat × Int) :=
  let q := max (log2Frac n d - 52) (-1074)
  let m := roundHalfEven (n * Nat.pow 2 (-q).toNat) (d * Nat.pow 2 q.toNat)
  let (m, q) := if m = Nat.pow 2 53 then (Nat.pow 2 52, q + 1) else (m, q)
  if 971 < q then none else some (m, q)

/-- The number of decimal digits of `n`, at least one. -/
def digitCount (n : Nat) : Nat :=
  (Nat.toDigits 10 n).length

/-- The binary64 number nearest to `(-1) ^ neg * digits * 10 ^ exp`. A decimal point more than
310 places up is past every finite number, and one more than 330 places down is below half the
least one, so these are settled without the exact quotient. -/
def Binary64.ofDecimal (neg : Bool) (digits : Nat) (exp : Int) : Binary64 :=
  if digits = 0 then .finite neg 0 0
  else
    let point : Int := digitCount digits + exp
    if 310 < point then .infinite neg
    else if point < -330 then .finite neg 0 0
    else
      match roundFrac (digits * Nat.pow 10 exp.toNat) (Nat.pow 10 (-exp).toNat) with
      | some (m, q) => .finite neg m q
      | none => .infinite neg

/-- Whether a finite magnitude `m * 2 ^ q` is below the natural number `k`. -/
def belowNat (m : Nat) (q : Int) (k : Nat) : Bool :=
  m * Nat.pow 2 q.toNat < k * Nat.pow 2 (-q).toNat

end Reindent.Number
