/-
Two ways to write a double in decimal.

`fixed places x` writes `places` digits after the point. `general precision x` writes at most `precision` significant
digits, without zeros at the end of a fraction, and uses an exponent of at least two digits where the leading digit
stands before the fourth place after the point or too far before it. Both round the exact value, a tie to the even
digit, and keep the sign of a zero.
-/
import GrammarLab.Decimal.Rounding

namespace GrammarLab.Decimal

/-- the sign of a written number -/
def signText (negative : Bool) : String := if negative then "-" else ""

/-- `n` units of the `places`-th digit after the point -/
def pointText (places n : Nat) : String :=
  let ds := digits n
  let ds := List.replicate (places + 1 - ds.length) '0' ++ ds
  let whole := String.ofList (ds.take (ds.length - places))
  if places = 0 then whole else whole ++ "." ++ String.ofList (ds.drop (ds.length - places))

/-- a number with a fixed number of digits after the point -/
def fixed (places : Nat) (x : Float) : String :=
  match Number.ofFloat x with
  | .nan => "nan"
  | .infinite negative => signText negative ++ "inf"
  | .finite negative mantissa exponent =>
    let (num, den) := quotient mantissa exponent
    signText negative ++ pointText places (scaled num den places)

/-- the digits without the zeros at their end -/
def stripZeros (ds : List Char) : List Char := (ds.reverse.dropWhile (· = '0')).reverse

/-- digits `d` as `d.ddd`, the point left out where nothing follows it -/
def pointAfter (n : Nat) (ds : List Char) : String :=
  let whole := String.ofList (ds.take n)
  match stripZeros (ds.drop n) with
  | [] => whole
  | fraction => whole ++ "." ++ String.ofList fraction

/-- an exponent with its sign and at least two digits -/
def exponentText (k : Int) : String :=
  let ds := digits k.natAbs
  (if k < 0 then "e-" else "e+") ++ String.ofList (List.replicate (2 - ds.length) '0' ++ ds)

/-- a positive quotient with `precision` significant digits -/
def generalQuotient (precision num den : Nat) : String :=
  let order := decimalOrder num den
  let rounded := scaled num den ((precision : Int) - 1 - order)
  -- rounding up may carry into a further digit
  let order := if rounded = Nat.pow 10 precision then order + 1 else order
  let ds := (digits rounded).take precision
  if order < -4 ∨ (precision : Int) ≤ order then pointAfter 1 ds ++ exponentText order
  else if order < 0 then pointAfter 1 (List.replicate (-order).toNat '0' ++ ds)
  else pointAfter (order.toNat + 1) ds

/-- a number with at most `precision` significant digits -/
def general (precision : Nat) (x : Float) : String :=
  match Number.ofFloat x with
  | .nan => "nan"
  | .infinite negative => signText negative ++ "inf"
  | .finite negative mantissa exponent =>
    signText negative ++
      if mantissa = 0 then "0"
      else
        let (num, den) := quotient mantissa exponent
        generalQuotient precision num den

end GrammarLab.Decimal
