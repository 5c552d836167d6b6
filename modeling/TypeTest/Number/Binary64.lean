/-!
# Double-precision numbers

A number with a fraction or an exponent is kept as the double-precision number nearest to it,
of two equally near ones the one with an even mantissa.  The number is data here: a sign, a
mantissa and a power of two, so that reading and printing are exact arithmetic on naturals.
-/

namespace TypeTest.Number

/-- A double-precision number.  A finite one is `mantissa * 2 ^ exponent`, with an exponent of
at least `-1074` and, above that, a mantissa of exactly 53 bits. -/
inductive Binary64 where
  | nan
  | infinite (negative : Bool)
  | finite (negative : Bool) (mantissa : Nat) (exponent : Int)
  deriving DecidableEq, Repr

/-- The whole number nearest to `n / d`; a half goes to the even neighbour. -/
def roundHalfEven (n d : Nat) : Nat :=
  if 2 * (n % d) < d then n / d
  else if d < 2 * (n % d) then n / d + 1
  else n / d + n / d % 2

/-- The exponent of the greatest power of two that does not exceed `n / d`. -/
def floorLog2 (n d : Nat) : Int :=
  let guess : Int := n.log2 - d.log2
  if d * Nat.pow 2 guess.toNat ≤ n * Nat.pow 2 (-guess).toNat then guess else guess - 1

namespace Binary64

/-- The number nearest to `n / d`, with a sign. -/
def ofRatio (negative : Bool) (n d : Nat) : Binary64 :=
  if n = 0 then finite negative 0 (-1074)
  else
    let exponent := max (-1074) (floorLog2 n d - 52)
    let mantissa :=
      roundHalfEven (n * Nat.pow 2 (-exponent).toNat) (d * Nat.pow 2 exponent.toNat)
    let (mantissa, exponent) :=
      if mantissa = Nat.pow 2 53 then (Nat.pow 2 52, exponent + 1) else (mantissa, exponent)
    if 971 < exponent then infinite negative else finite negative mantissa exponent

/-- Number of decimal digits of a natural number; zero has none. -/
def digitCount (n : Nat) : Nat :=
  if n = 0 then 0 else (Nat.toDigits 10 n).length

/-- The number nearest to `digits * 10 ^ exponent`, with a sign.  Numbers of more than 310
digits before the point overflow, and those with more than 330 zeros after it vanish, without
raising ten to a power. -/
def ofDecimal (negative : Bool) (digits : Nat) (exponent : Int) : Binary64 :=
  let magnitude : Int := digitCount digits + exponent
  if digits = 0 ∨ magnitude < -330 then finite negative 0 (-1074)
  else if 310 < magnitude then infinite negative
  else ofRatio negative (digits * Nat.pow 10 exponent.toNat) (Nat.pow 10 (-exponent).toNat)

end Binary64

end TypeTest.Number
