import TypeTest.Unicode.Classes
import TypeTest.Text.SignedIndex
import TypeTest.Text.UpperBound

/-!
# Source texts and their lines

A `Source` is the text of one file together with the offsets at which its lines start.  Offsets
count characters; lines count from zero; CR LF, a lone CR and a lone LF each end a line.  The
line starts are computed once, and `Source.starts_eq` keeps them tied to the text.

Offsets and lines come from outside (a checker may report any position), so queries take
integers: an offset before the text lies on line `-1`, a line past the last one is an empty span
at the end of the text, and a negative line counts from the end.
-/

namespace TypeTest

open Unicode (isLineEnd)

/-- The offsets just past each line break of a text that begins at `offset`. -/
def startsAfterBreaks (offset : Nat) : List Char → List Nat
  | [] => []
  | '\r' :: '\n' :: rest => (offset + 2) :: startsAfterBreaks (offset + 2) rest
  | c :: rest =>
    if isLineEnd c then (offset + 1) :: startsAfterBreaks (offset + 1) rest
    else startsAfterBreaks (offset + 1) rest

/-- The text of one file, with the offset of the start of every line. -/
structure Source where
  chars : List Char
  starts : Array Nat := (0 :: startsAfterBreaks 0 chars).toArray
  starts_eq : starts = (0 :: startsAfterBreaks 0 chars).toArray := by rfl

namespace Source

/-- The source with a given text. -/
def ofString (text : String) : Source := { chars := text.toList }

/-- The text of a source, unchanged. -/
def text (source : Source) : String := String.ofList source.chars

@[simp] theorem text_ofString (text : String) : (ofString text).text = text := by
  simp [Source.text, ofString]

/-- Number of characters. -/
def length (source : Source) : Nat := source.chars.length

/-- The offsets at which lines start, in order. -/
def lineStarts (source : Source) : List Nat := source.starts.toList

/-- Number of lines: one more than the number of line breaks. -/
def lineCount (source : Source) : Nat := source.starts.size

theorem lineStarts_eq (source : Source) :
    source.lineStarts = 0 :: startsAfterBreaks 0 source.chars := by
  simp [lineStarts, source.starts_eq]

/-- Every text has a first line, the empty text too. -/
theorem lineCount_pos (source : Source) : 0 < source.lineCount := by
  simp [lineCount, source.starts_eq]

/-! ## Queries -/

/-- The line an offset lies on: the last one that starts at or before it. -/
def lineAt (source : Source) (offset : Int) : Int :=
  Text.upperBound source.starts offset - 1

/-- The offset at which a line starts; past the last line, the end of the text. -/
def startOfLine? (source : Source) (line : Int) : Option Nat :=
  if source.lineCount ≤ line then some source.length
  else Text.signedGet? source.lineStarts line

/-- Every offset lies on a line that has a start; one before the text counts as the last. -/
theorem isSome_startOfLine?_lineAt (source : Source) (offset : Int) :
    (source.startOfLine? (source.lineAt offset)).isSome := by
  have bound := Text.upperBound_le_size source.starts offset
  have first := source.lineCount_pos
  have count : source.lineStarts.length = source.lineCount := by simp [lineStarts, lineCount]
  unfold lineCount at first count
  unfold startOfLine? lineAt Text.signedGet? lineCount
  rw [if_neg (by omega)]
  split
  · rw [isSome_getElem?]
    omega
  · rw [if_pos (by omega), isSome_getElem?]
    omega

/-- The offset at which the line of an offset starts. -/
def startOfLineAt (source : Source) (offset : Int) : Nat :=
  (source.startOfLine? (source.lineAt offset)).get (source.isSome_startOfLine?_lineAt offset)

/-- The offsets of a line's content, from its start to just before the break that ends it. -/
def spanOfLine? (source : Source) (line : Int) : Option (Nat × Nat) :=
  (source.startOfLine? line).map fun start =>
    (start, start + ((source.chars.drop start).takeWhile fun c => !isLineEnd c).length)

/-- The content of every line, breaks left out. -/
def lines (source : Source) : List String :=
  source.lineStarts.map fun start =>
    String.ofList ((source.chars.drop start).takeWhile fun c => !isLineEnd c)

/-- A one-line summary: how many characters and lines there are. -/
def summary (source : Source) : String :=
  s!"<SourceText {source.length} chars, {source.lineCount} lines>"

/-- A line past the last one is an empty span at the end of the text. -/
theorem spanOfLine?_of_lineCount_le (source : Source) {line : Int}
    (past : source.lineCount ≤ line) :
    source.spanOfLine? line = some (source.length, source.length) := by
  simp [spanOfLine?, startOfLine?, past, length]

end Source

end TypeTest
