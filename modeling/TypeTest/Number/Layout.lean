import TypeTest.Number.Integer
import TypeTest.Number.Shortest

/-!
# How a number is written

The digits of a number are settled by `Decimal.shortest`; a `Layout` says how they are set: where
positional writing ends, how wide an exponent is, and the words for what is not finite.
-/

namespace TypeTest.Number

/-- The decisions of a number format.  Exponents are those of the leading digit. -/
structure Layout where
  /-- Below this exponent a number is written with an exponent. -/
  leastPositional : Int
  /-- From this exponent on a number is written with an exponent. -/
  mostPositional : Int
  /-- Least number of digits of an exponent. -/
  exponentWidth : Nat
  nan : String
  infinity : String
  deriving DecidableEq, Repr

namespace Layout

/-- The sign of an exponent and its digits. -/
def exponentText (layout : Layout) (exponent : Int) : List Char :=
  let digits := Nat.toDigits 10 exponent.natAbs
  (if exponent < 0 then '-' else '+') ::
    (List.replicate (layout.exponentWidth - digits.length) '0' ++ digits)

/-- Digits with a point among them, before them or after them; a whole number keeps one place. -/
def positional (decimal : Decimal) : List Char :=
  let places := decimal.point.toNat
  if decimal.point ≤ 0 then
    '0' :: '.' :: (List.replicate (-decimal.point).toNat '0' ++ decimal.digits)
  else if decimal.digits.length ≤ places then
    decimal.digits ++ List.replicate (places - decimal.digits.length) '0' ++ ['.', '0']
  else decimal.digits.take places ++ '.' :: decimal.digits.drop places

/-- One digit, the others after a point if there are any, and the exponent. -/
def scientific (layout : Layout) (decimal : Decimal) : List Char :=
  let point := if decimal.digits.length ≤ 1 then [] else ['.']
  decimal.digits.take 1 ++ point ++ decimal.digits.drop 1 ++
    'e' :: layout.exponentText (decimal.point - 1)

/-- The text of a positive decimal. -/
def decimal (layout : Layout) (decimal : Decimal) : List Char :=
  let exponent := decimal.point - 1
  if layout.leastPositional ≤ exponent ∧ exponent < layout.mostPositional then positional decimal
  else layout.scientific decimal

/-- The text of a number. -/
def render (layout : Layout) : Binary64 → List Char
  | .nan => layout.nan.toList
  | .infinite negative => signed negative layout.infinity.toList
  | .finite negative mantissa exponent =>
    signed negative <|
      if mantissa = 0 then ['0', '.', '0']
      else layout.decimal (Decimal.shortest mantissa exponent)

end Layout

end TypeTest.Number
