import TypeTest.Json
import TypeTest.Number.Layout
import TypeTest.Text.Hex

/-!
# Writing values on one line

A value is written on one line of printable ASCII: after each comma and each colon stands one
space, and every other character is escaped, above U+FFFF as a pair of surrogates.  The slash
stands as it is.
-/

namespace TypeTest.Json

/-- Numbers are written in full up to sixteen digits before the point and three zeros after
it. -/
def numberLayout : Number.Layout where
  leastPositional := -4
  mostPositional := 16
  exponentWidth := 2
  nan := "NaN"
  infinity := "Infinity"

/-- An escape by the number of a code unit. -/
def unitEscape (unit : Nat) : List Char :=
  '\\' :: 'u' :: Text.hexFixed 4 unit

/-- A code point inside quotes. -/
def escape (code : Nat) : List Char :=
  if code = '"'.toNat then ['\\', '"']
  else if code = '\\'.toNat then ['\\', '\\']
  else if code = '\n'.toNat then ['\\', 'n']
  else if code = '\r'.toNat then ['\\', 'r']
  else if code = '\t'.toNat then ['\\', 't']
  else if code = 0x08 then ['\\', 'b']
  else if code = 0x0c then ['\\', 'f']
  else if 0x20 ≤ code ∧ code ≤ 0x7e then [Char.ofNat code]
  else if code < 0x10000 then unitEscape code
  else
    unitEscape (0xd800 + (code - 0x10000) / 0x400) ++
      unitEscape (0xdc00 + (code - 0x10000) % 0x400)

/-- A text in quotes. -/
def quote (text : CodeText) : List Char :=
  '"' :: text.codes.flatMap escape ++ ['"']

mutual

/-- The characters of a value. -/
def print : Json → List Char
  | null => "null".toList
  | bool true => "true".toList
  | bool false => "false".toList
  | int value => Number.intChars value
  | float value => numberLayout.render value
  | str value => quote value
  | arr items => '[' :: printItems items ++ [']']
  | obj members => '\x7b' :: printMembers members ++ ['\x7d']

/-- The items of an array, with a comma between them. -/
def printItems : List Json → List Char
  | [] => []
  | [item] => item.print
  | item :: items => item.print ++ ',' :: ' ' :: printItems items

/-- The members of an object, with a comma between them. -/
def printMembers : List (CodeText × Json) → List Char
  | [] => []
  | [(key, value)] => quote key ++ ':' :: ' ' :: value.print
  | (key, value) :: members =>
    quote key ++ ':' :: ' ' :: value.print ++ ',' :: ' ' :: printMembers members

end

/-- A value as one line of text. -/
def line (value : Json) : String := String.ofList value.print

end TypeTest.Json
