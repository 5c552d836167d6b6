import TypeTest.Json
import TypeTest.Text.Hex

/-!
# Reading values

A value is read off the head of a text together with the text that is left.  The grammar is the
strict one: blanks are space, tab, LF and CR; no comma may trail; a character below the space
must be escaped; a number has no needless zeros, and may have any number of digits.  The words for
what is not a finite number are accepted.  Of two members with one key the later value counts, in
the earlier place.

Reading goes down one level of fuel with each part of a value; `read?` provides enough for any
text.
-/

namespace TypeTest.Json

/-- The blanks between the parts of a value. -/
def isSpace (c : Char) : Bool :=
  c == ' ' || c == '\t' || c == '\n' || c == '\r'

/-- A text without the blanks at its head. -/
def skipSpace (text : List Char) : List Char := text.dropWhile isSpace

/-! ## Strings -/

/-- The character that a one-letter escape stands for. -/
def escaped? : Char → Option Char
  | '"' => some '"'
  | '\\' => some '\\'
  | '/' => some '/'
  | 'b' => some '\x08'
  | 'f' => some '\x0c'
  | 'n' => some '\n'
  | 'r' => some '\r'
  | 't' => some '\t'
  | _ => none

/-- The numbers of a string's characters up to the closing quote, surrogates still apart. -/
def readUnits? : List Char → Option (List Nat × List Char)
  | [] => none
  | '"' :: rest => some ([], rest)
  | '\\' :: 'u' :: a :: b :: c :: d :: rest => do
    let unit ← Text.hexNumber? [a, b, c, d]
    let (units, rest) ← readUnits? rest
    return (unit :: units, rest)
  | '\\' :: letter :: rest => do
    let c ← escaped? letter
    let (units, rest) ← readUnits? rest
    return (c.toNat :: units, rest)
  | c :: rest =>
    if c.toNat < 0x20 then none
    else do
      let (units, rest) ← readUnits? rest
      return (c.toNat :: units, rest)

/-- Joins each high surrogate with the low one after it.  A surrogate that is left alone stays
as it is. -/
def joinSurrogates : List Nat → List Nat
  | [] => []
  | [unit] => [unit]
  | unit :: next :: rest =>
    if 0xd800 ≤ unit ∧ unit < 0xdc00 ∧ 0xdc00 ≤ next ∧ next < 0xe000 then
      (0x10000 + (unit - 0xd800) * 0x400 + (next - 0xdc00)) :: joinSurrogates rest
    else unit :: joinSurrogates (next :: rest)

/-- A string after its opening quote. -/
def readString? (text : List Char) : Option (CodeText × List Char) := do
  let (units, rest) ← readUnits? text
  return (⟨joinSurrogates units⟩, rest)

/-! ## Numbers -/

/-- The number that decimal digits write. -/
def decimalNumber (digits : List Char) : Nat :=
  digits.foldl (fun n c => 10 * n + (c.toNat - '0'.toNat)) 0

/-- A run of digits and what follows it. -/
def spanDigits (text : List Char) : List Char × List Char :=
  (text.takeWhile Char.isDigit, text.dropWhile Char.isDigit)

/-- The digits of the whole part of a number: a zero alone, or digits that do not begin with
one. -/
def readWhole? : List Char → Option (List Char × List Char)
  | '0' :: rest => some (['0'], rest)
  | text =>
    match spanDigits text with
    | ([], _) => none
    | found => some found

/-- A fraction: a point and at least one digit. -/
def readFraction? : List Char → Option (List Char × List Char)
  | '.' :: rest =>
    match spanDigits rest with
    | ([], _) => none
    | found => some found
  | _ => none

/-- The sign of an exponent, and what follows it. -/
def readSign : List Char → Bool × List Char
  | '-' :: rest => (true, rest)
  | '+' :: rest => (false, rest)
  | text => (false, text)

/-- An exponent: the letter, a sign if there is one, and at least one digit. -/
def readExponent? : List Char → Option (Int × List Char)
  | c :: rest =>
    if c = 'e' ∨ c = 'E' then
      match spanDigits (readSign rest).2 with
      | ([], _) => none
      | (digits, left) =>
        let size : Int := decimalNumber digits
        some (if (readSign rest).1 then -size else size, left)
    else none
  | [] => none

/-- A number without its sign. -/
def readUnsigned? (negative : Bool) (text : List Char) : Option (Json × List Char) := do
  let (whole, afterWhole) ← readWhole? text
  let fraction := readFraction? afterWhole
  let places := (fraction.map (·.1)).getD []
  let afterFraction := (fraction.map (·.2)).getD afterWhole
  let exponent := readExponent? afterFraction
  if fraction.isNone && exponent.isNone then
    let size : Int := decimalNumber whole
    return (int (if negative then -size else size), afterWhole)
  else
    let power := (exponent.map (·.1)).getD 0 - places.length
    return (float (.ofDecimal negative (decimalNumber (whole ++ places)) power),
      (exponent.map (·.2)).getD afterFraction)

/-- A number. -/
def readNumber? : List Char → Option (Json × List Char)
  | '-' :: rest => readUnsigned? true rest
  | text => readUnsigned? false text

/-! ## Values -/

/-- The words that stand for a value. -/
def words : List (List Char × Json) :=
  [("null".toList, null), ("true".toList, bool true), ("false".toList, bool false),
    ("NaN".toList, float .nan), ("Infinity".toList, float (.infinite false)),
    ("-Infinity".toList, float (.infinite true))]

/-- A value that has no parts of its own: a word or a number. -/
def readPlain? (text : List Char) : Option (Json × List Char) :=
  match words.findSome? fun word => (word.1.isPrefixOf? text).map fun rest => (word.2, rest) with
  | some found => some found
  | none => readNumber? text

mutual

/-- A value at the head of a text. -/
def readValue? : (fuel : Nat) → List Char → Option (Json × List Char)
  | 0, _ => none
  | fuel + 1, text =>
    match text with
    | '"' :: rest => do
      let (value, rest) ← readString? rest
      return (str value, rest)
    | '[' :: rest =>
      match skipSpace rest with
      | ']' :: rest => some (arr [], rest)
      | rest => do
        let (items, rest) ← readItems? fuel rest
        return (arr items, rest)
    | '\x7b' :: rest =>
      match skipSpace rest with
      | '\x7d' :: rest => some (obj [], rest)
      | rest => do
        let (members, rest) ← readMembers? fuel rest
        return (obj (Assoc.ofList members).entries, rest)
    | text => readPlain? text

/-- The items of an array through its closing bracket. -/
def readItems? : (fuel : Nat) → List Char → Option (List Json × List Char)
  | 0, _ => none
  | fuel + 1, text => do
    let (item, rest) ← readValue? fuel text
    match skipSpace rest with
    | ',' :: rest =>
      let (items, rest) ← readItems? fuel (skipSpace rest)
      return (item :: items, rest)
    | ']' :: rest => return ([item], rest)
    | _ => none

/-- The members of an object through its closing brace. -/
def readMembers? : (fuel : Nat) → List Char → Option (List (CodeText × Json) × List Char)
  | 0, _ => none
  | fuel + 1, text =>
    match text with
    | '"' :: rest => do
      let (key, rest) ← readString? rest
      let rest ← [':'].isPrefixOf? (skipSpace rest)
      let (value, rest) ← readValue? fuel (skipSpace rest)
      match skipSpace rest with
      | ',' :: rest =>
        let (members, rest) ← readMembers? fuel (skipSpace rest)
        return ((key, value) :: members, rest)
      | '\x7d' :: rest => return ([(key, value)], rest)
      | _ => none
    | _ => none

end

/-- The value that a text is, blanks around it aside. -/
def read? (text : String) : Option Json := do
  let chars := text.toList
  let (value, rest) ← readValue? (2 * chars.length + 2) (skipSpace chars)
  if (skipSpace rest).isEmpty then some value else none

end TypeTest.Json
