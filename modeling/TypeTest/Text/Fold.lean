import TypeTest.CodeText
import TypeTest.Unicode.Classes

/-!
# Folding a text onto one line

The lines of a text are stripped of white space, blank ones are left out, and the others are
joined with single spaces.  A CR LF pair may be cut twice: the empty line between its halves is
left out like any other.
-/

namespace TypeTest.Text

open Unicode

/-- Code points without the white space at their ends. -/
def strip (codes : List Nat) : List Nat :=
  ((codes.dropWhile isDisplayBlank).reverse.dropWhile isDisplayBlank).reverse

/-- The lines that are not blank, stripped. -/
def solidLines (codes : List Nat) : List (List Nat) :=
  ((codes.splitOnP isDisplayBreak).map strip).filter fun line => !line.isEmpty

/-- A text on one line. -/
def fold (text : CodeText) : CodeText := ⟨[' '.toNat].intercalate (solidLines text.codes)⟩

end TypeTest.Text
