import Reindent.Call.Fault

/-!
# Counts from request values

The workloads size their texts by numbers that arrive as request values, and read them in three
ways, each with its own failure:

* `rangeCount` counts off a range: an integer (a truth value is `0` or `1`), and below zero the
  range is empty. Any other kind is refused with `notIndex`.
* `repeatCount` repeats a list: the same integers, but any other kind is refused with
  `notRepeatCount`.
* `unitCount unit` divides a size by `unit`, rounding down, and takes at least one unit. A
  fraction can be divided, but its quotient is a fraction too: it is fine while the quotient is
  at most one, when one unit is taken, and refused with `notRepeatCount` once it is two or more.
  The quotient of an infinity or of not a number is not a number, which is never more than one.
  A value of any other kind cannot be divided: `noFloorDiv`.

A repetition count must then fit a signed 64-bit index (`indexOverflow`), and the text it builds
must fit in memory (`outOfMemory`): `fitCount size n` checks both for `n` copies of `size`
characters, taking `2 ^ 32` characters as what memory holds.
-/

namespace Reindent.Call

open Reindent.Number

/-- The integer a value stands for, if it is an integer or a truth value. -/
def Value.asInt? : Value → Option Int
  | .int n => some n
  | .bool b => some (if b then 1 else 0)
  | _ => Option.none

/-- The length of the range over a value. -/
def rangeCount (v : Value) : Except Fault Nat :=
  match v.asInt? with
  | some n => .ok n.toNat
  | none => .error (.notIndex v.typeName)

/-- How many copies a list repeated by a value has, before the limits of `fitCount`. -/
def repeatCount (v : Value) : Except Fault Int :=
  match v.asInt? with
  | some n => .ok n
  | none => .error (.notRepeatCount v.typeName)

/-- How many units of size `unit` a size asks for: its quotient by `unit`, rounded down, and at
least one, before the limits of `fitCount`. -/
def unitCount (unit : Nat) (v : Value) : Except Fault Int :=
  match v with
  | .float (.finite neg m q) =>
    if neg || belowNat m q (2 * unit) then .ok 1 else .error (.notRepeatCount "float")
  | .float _ => .ok 1
  | _ =>
    match v.asInt? with
    | some n => .ok (max 1 (n.fdiv unit))
    | none => .error (.noFloorDiv v.typeName)

/-- The number of characters that memory holds. -/
def memoryLimit : Nat := Nat.pow 2 32

/-- `n` copies of something of `size` characters: the count, if it fits a signed 64-bit index
and the copies fit in memory. Below zero there are no copies. -/
def fitCount (size : Nat) (n : Int) : Except Fault Nat :=
  if Int.pow 2 63 ≤ n || n < -Int.pow 2 63 then .error .indexOverflow
  else if memoryLimit < n.toNat * size then .error .outOfMemory
  else .ok n.toNat

/-- A count that `fitCount` accepts is below `2 ^ 63`, and the copies it gives (the count, or
none below zero) fit in memory. -/
theorem fitCount_eq_ok {size : Nat} {n : Int} {k : Nat} (h : fitCount size n = .ok k) :
    k = n.toNat ∧ n < Int.pow 2 63 ∧ k * size ≤ memoryLimit := by
  unfold fitCount at h
  split at h
  · cases h
  · next hrange =>
    split at h
    · cases h
    · next hmem =>
      cases h
      simp only [Bool.or_eq_true, decide_eq_true_eq, not_or] at hrange
      exact ⟨rfl, by omega, by omega⟩

example : fitCount 12 (-3) = .ok 0 := rfl

/-- However small the size, `unitCount` takes at least one unit. -/
theorem unitCount_eq_ok {unit : Nat} {v : Value} {n : Int} (h : unitCount unit v = .ok n) :
    1 ≤ n := by
  unfold unitCount at h
  split at h
  · split at h
    · cases h
      exact Int.le_refl 1
    · cases h
  · cases h
    exact Int.le_refl 1
  · split at h
    · cases h
      exact Int.le_max_left 1 _
    · cases h

example : unitCount 12 (.int (-5)) = .ok 1 := rfl

end Reindent.Call
