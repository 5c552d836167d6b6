/-!
# Integers in decimal

The decimal text of an integer, with a minus sign before it if it is negative.
-/

namespace TypeTest.Number

/-- A text with a minus sign before it if it belongs to a negative number. -/
def signed (negative : Bool) (text : List Char) : List Char :=
  if negative then '-' :: text else text

/-- The digits of an integer with its sign. -/
def intChars (value : Int) : List Char :=
  signed (decide (value < 0)) (Nat.toDigits 10 value.natAbs)

/-- The text of an integer. -/
def intText (value : Int) : String := String.ofList (intChars value)

/-- A natural number is written alike whether or not it is taken for an integer. -/
theorem intText_natCast (n : Nat) : intText n = toString n := by
  rw [Nat.toString_eq_ofList_toDigits, intText, intChars, signed, Int.natAbs_natCast,
    if_neg (by simp)]

/-- A natural number can be read off its digits. -/
theorem eq_of_toString_eq {n m : Nat} (same : toString n = toString m) : n = m := by
  rw [Nat.toString_eq_ofList_toDigits, Nat.toString_eq_ofList_toDigits, String.ofList_inj] at same
  rw [← Nat.ofDigitChars_ten_toDigits (n := n), same, Nat.ofDigitChars_ten_toDigits]

end TypeTest.Number
