import TypeTest.Unicode.WordRanges
import TypeTest.Unicode.UnprintableRanges

/-!
# Classes of characters

Which characters belong together is decided here, once, for the whole library.  Four jobs need
a class of their own:

* the scanner tells words, blanks and the two characters that end a line of source apart;
* folding a message onto one line needs the breaks of displayed text and the blanks to strip;
* quoting needs the characters that can be shown as they are;
* reading data needs its own, narrower blanks, which stand with the reader.

ASCII is decided by comparison before any table is looked at.
-/

namespace TypeTest.Unicode

/-- Membership in a table of inclusive ranges. -/
def inRanges (ranges : List (Nat × Nat)) (code : Nat) : Bool :=
  ranges.any fun range => range.1 ≤ code && code ≤ range.2

/-! ## Source text -/

/-- A word is made of letters, marks, digits and connector punctuation; of ASCII these are the
letters, the digits and the underscore. -/
def isWordChar (c : Char) : Bool :=
  if c.toNat < 0x80 then c.isAlphanum || c == '_' else inRanges wordRanges c.toNat

/-- A blank inside a line of source: space, tab, form feed, vertical tab, the no-break space
and the byte order mark. -/
def isInlineBlank (c : Char) : Bool :=
  c == ' ' || c == '\t' || c == '\x0c' || c == '\x0b' || c == '\u00a0' || c == '\ufeff'

/-- The two characters that end a line of source, alone or as the pair CR LF. -/
def isLineEnd (c : Char) : Bool :=
  c == '\r' || c == '\n'

/-! ## Displayed text -/

/-- The code points that break displayed text into lines: those that end a source line, the
vertical tab, the form feed, the file, group and record separators, the next-line control, and
the line and paragraph separators. -/
def isDisplayBreak (code : Nat) : Bool :=
  code == '\r'.toNat || code == '\n'.toNat || code == 0x0b || code == 0x0c || code == 0x1c ||
    code == 0x1d || code == 0x1e || code == 0x85 || code == 0x2028 || code == 0x2029

/-- White space in displayed text: every break, and every blank that takes up room. -/
def isDisplayBlank (code : Nat) : Bool :=
  isDisplayBreak code || code == ' '.toNat || code == '\t'.toNat || code == 0x1f || code == 0xa0 ||
    code == 0x1680 || (0x2000 ≤ code && code ≤ 0x200a) || code == 0x202f || code == 0x205f ||
    code == 0x3000

/-- Every break counts as white space, so stripping a line also takes off the break that
ends it. -/
theorem isDisplayBlank_of_isDisplayBreak {code : Nat} (h : isDisplayBreak code = true) :
    isDisplayBlank code = true := by
  simp [isDisplayBlank, h]

/-- A character that a quoted text shows as it is.  Of ASCII these are the characters from
the space to the tilde. -/
def isPrintable (c : Char) : Bool :=
  if c.toNat < 0x80 then 0x20 ≤ c.toNat && c.toNat < 0x7f
  else !inRanges unprintableRanges c.toNat

end TypeTest.Unicode
