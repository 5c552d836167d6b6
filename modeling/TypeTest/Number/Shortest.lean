import TypeTest.Number.Binary64

/-!
# The shortest decimal of a number

A finite number is shown with the fewest digits that read back as the same number, and of
those decimals by the one nearest to it.  For 1, 2, … digits the two neighbours of the number on
that decimal grid are tried; seventeen digits always suffice.
-/

namespace TypeTest.Number

/-- A positive decimal: `0.d₁d₂… * 10 ^ point`, where the digits do not end in a zero. -/
structure Decimal where
  digits : List Char
  point : Int
  deriving DecidableEq, Repr

namespace Decimal

/-- The decimal `n * 10 ^ exponent`. -/
def ofScaled (n : Nat) (exponent : Int) : Decimal where
  digits := ((Nat.toDigits 10 n).reverse.dropWhile (· == '0')).reverse
  point := (Nat.toDigits 10 n).length + exponent

/-- The position of the point of the positive number `n / d`: the least `p` with
`n / d < 10 ^ p`. -/
def pointOf (n d : Nat) : Int :=
  if d ≤ n then Binary64.digitCount (n / d)
  else 1 - (Binary64.digitCount ((d + n - 1) / n - 1) : Int)

/-- The multiple of `10 ^ exponent` nearest to `n / d` among its two neighbours that read back as
`value`, if one of them does.  Of two equally near ones the even one is taken. -/
def onGrid? (value : Binary64) (n d : Nat) (exponent : Int) : Option Decimal :=
  let n := n * Nat.pow 10 (-exponent).toNat
  let d := d * Nat.pow 10 exponent.toNat
  let below := n / d
  let readsBack (candidate : Nat) : Bool :=
    Binary64.ofDecimal false candidate exponent == value
  let nearest := roundHalfEven n d
  let other := if nearest = below then below + 1 else below
  if readsBack nearest then some (ofScaled nearest exponent)
  else if readsBack other then some (ofScaled other exponent)
  else none

/-- The shortest decimal that reads back as `mantissa * 2 ^ exponent`, a positive number. -/
def shortest (mantissa : Nat) (exponent : Int) : Decimal :=
  let n := mantissa * Nat.pow 2 exponent.toNat
  let d := Nat.pow 2 (-exponent).toNat
  let point := pointOf n d
  let value := Binary64.finite false mantissa exponent
  ((List.range 17).findSome? fun more : Nat => onGrid? value n d (point - (more + 1))).getD
    (ofScaled
      (roundHalfEven (n * Nat.pow 10 (17 - point).toNat) (d * Nat.pow 10 (point - 17).toNat))
      (point - 17))

end Decimal

end TypeTest.Number
