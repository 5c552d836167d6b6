/-!
# Hexadecimal digits

Escapes of characters are written with a fixed number of lower-case digits and read with digits
of either case.
-/

namespace TypeTest.Text

/-- The lower-case digit of a value below sixteen. -/
def hexDigit (value : Nat) : Char :=
  if value < 10 then Char.ofNat (0x30 + value) else Char.ofNat (0x57 + value)

/-- The value of a digit of either case. -/
def hexValue? (c : Char) : Option Nat :=
  if '0' ≤ c && c ≤ '9' then some (c.toNat - 0x30)
  else if 'a' ≤ c && c ≤ 'f' then some (c.toNat - 0x57)
  else if 'A' ≤ c && c ≤ 'F' then some (c.toNat - 0x37)
  else none

/-- The last `width` digits of a number. -/
def hexFixed : (width : Nat) → Nat → List Char
  | 0, _ => []
  | width + 1, n => hexFixed width (n / 16) ++ [hexDigit (n % 16)]

/-- A code point that cannot be shown, by its number in two, four or eight digits. -/
def numberEscape (code : Nat) : List Char :=
  if code < 0x100 then '\\' :: 'x' :: hexFixed 2 code
  else if code < 0x10000 then '\\' :: 'u' :: hexFixed 4 code
  else '\\' :: 'U' :: hexFixed 8 code

/-- The number that some digits write, if all of them are digits. -/
def hexNumber? (digits : List Char) : Option Nat :=
  digits.foldl (fun acc c => do return 16 * (← acc) + (← hexValue? c)) (some 0)

/-- A digit reads back as its value. -/
theorem hexValue?_hexDigit {value : Nat} (small : value < 16) :
    hexValue? (hexDigit value) = some value := by
  have all : ∀ v ∈ List.range 16, hexValue? (hexDigit v) = some v := by decide
  exact all value (List.mem_range.2 small)

end TypeTest.Text
