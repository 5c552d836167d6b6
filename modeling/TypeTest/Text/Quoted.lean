import TypeTest.CodeText
import TypeTest.Text.Hex
import TypeTest.Unicode.Classes

/-!
# Quoted texts

A text inside a displayed list stands in single quotes, or in double quotes when it holds a
single quote and no double one.  The backslash and the enclosing quote are escaped, the common
controls get their short escapes, and what cannot be shown is written by its number.
-/

namespace TypeTest.Text

/-- The quote that encloses a text. -/
def quoteFor (text : CodeText) : Char :=
  if '\''.toNat ∈ text.codes ∧ '"'.toNat ∉ text.codes then '"' else '\''

/-- A character between given quotes. -/
def quotedChar (quote c : Char) : List Char :=
  if c = quote ∨ c = '\\' then ['\\', c]
  else if c = '\n' then ['\\', 'n']
  else if c = '\r' then ['\\', 'r']
  else if c = '\t' then ['\\', 't']
  else if Unicode.isPrintable c then [c]
  else numberEscape c.toNat

/-- A code point between given quotes.  A surrogate that stands alone has no character. -/
def quotedCode (quote : Char) (code : Nat) : List Char :=
  if code.isValidChar then quotedChar quote (Char.ofNat code) else numberEscape code

/-- A text in quotes. -/
def quoted (text : CodeText) : List Char :=
  quoteFor text :: text.codes.flatMap (quotedCode (quoteFor text)) ++ [quoteFor text]

end TypeTest.Text
