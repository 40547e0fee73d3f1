/-
Exact decimal digits of binary fractions.

A finite double is `mantissa * 2 ^ exponent`, up to its sign. Its decimal digits are found by exact integer arithmetic:
`roundDiv` rounds a quotient to the nearest integer, a tie to the even one, and `decimalOrder` is the power of ten of the
leading digit of a positive quotient.
-/

namespace GrammarLab.Decimal

/-- a double taken apart -/
inductive Number where
  | nan
  | infinite (negative : Bool)
  | finite (negative : Bool) (mantissa : Nat) (exponent : Int)
deriving DecidableEq, Repr

/-- the number that a double stands for -/
def Number.ofFloat (x : Float) : Number :=
  let bits := x.toBits.toNat
  let negative : Bool := bits / Nat.pow 2 63 = 1
  let field : Nat := bits / Nat.pow 2 52 % Nat.pow 2 11
  let fraction : Nat := bits % Nat.pow 2 52
  if field = 2047 then if fraction = 0 then .infinite negative else .nan
  else if field = 0 then .finite negative fraction (-1074)
  else .finite negative (Nat.pow 2 52 + fraction) ((field : Int) - 1075)

/-- the integer nearest to `num / den`, the even one of two -/
def roundDiv (num den : Nat) : Nat :=
  let q := num / den
  let r := num % den
  if 2 * r < den then q else if den < 2 * r then q + 1 else if q % 2 = 0 then q else q + 1

/-- `mantissa * 2 ^ exponent` as a quotient of naturals -/
def quotient (mantissa : Nat) (exponent : Int) : Nat × Nat :=
  (mantissa * Nat.pow 2 exponent.toNat, Nat.pow 2 (-exponent).toNat)

/-- `num / den * 10 ^ places`, rounded to an integer -/
def scaled (num den : Nat) (places : Int) : Nat :=
  roundDiv (num * Nat.pow 10 places.toNat) (den * Nat.pow 10 (-places).toNat)

/-- the decimal digits of a natural number -/
def digits (n : Nat) : List Char := Nat.toDigits 10 n

/-- the `k` with `10 ^ k ≤ num / den < 10 ^ (k + 1)`, for a positive quotient -/
def decimalOrder (num den : Nat) : Int :=
  if den ≤ num then ((digits (num / den)).length : Int) - 1
  else -((digits ((den - 1) / num)).length : Int)

end GrammarLab.Decimal
