import Mathlib.Data.List.Basic
import TypeTest.Failure
import TypeTest.Proofs.LineBreaks

/-!
# Offsets and locations

An offset lies on the last line that starts at or before it.  The bisection finds this line because
the line starts ascend, wherever the offset lies: within a line, on a line start, between the CR and
the LF of a break, or behind the end of the text.

A failure is reported at a line and a column, both counted from one.  `Failure.PrintedAt` reads them
off the line that is printed; as the digits of a number hold no colon, there is one way to do so
(`Failure.PrintedAt.unique`).  The main result (`lineAt_exact`) says how the offset of a failure is
recovered from them, so that failures of one file at different offsets are never reported at the
same place.
-/

namespace TypeTest

/-! ## Printed locations -/

lemma colon_not_mem_toString (n : Nat) : ':'.toNat ∉ (CodeText.ofString (toString n)).codes := by
  intro hmem
  obtain ⟨c, hc, hcolon⟩ := List.mem_map.1 hmem
  obtain rfl := Char.toNat_inj.1 hcolon
  rw [Nat.toString_eq_ofList_toDigits, String.toList_ofList] at hc
  have hdigit := Nat.isDigit_of_mem_toDigits (by decide) (Nat.le_refl 10) hc
  cases hdigit

/-- A number followed by a colon can be read off a text. -/
lemma eq_of_toString_colon {n m : Nat} {rest rest' : List Nat}
    (hsame : (CodeText.ofString (toString n)).codes ++ ':'.toNat :: rest =
      (CodeText.ofString (toString m)).codes ++ ':'.toNat :: rest') :
    n = m ∧ rest = rest' := by
  have hread : ∀ (k : Nat) (more : List Nat),
      ((CodeText.ofString (toString k)).codes ++ ':'.toNat :: more).takeWhile (· ≠ ':'.toNat) =
        (CodeText.ofString (toString k)).codes := by
    intro k more
    have hdigits : ∀ code ∈ (CodeText.ofString (toString k)).codes,
        decide (code ≠ ':'.toNat) = true :=
      fun code hcode => decide_eq_true (ne_of_mem_of_not_mem hcode (colon_not_mem_toString k))
    rw [List.takeWhile_append_of_pos hdigits, List.takeWhile_cons_of_neg (by simp), List.append_nil]
  have hdigits : (CodeText.ofString (toString n)).codes =
      (CodeText.ofString (toString m)).codes := by
    rw [← hread n rest, hsame, hread]
  rw [hdigits] at hsame
  exact ⟨Number.eq_of_toString_eq (CodeText.ofString_inj.1 (CodeText.codes_inj.1 hdigits)),
    (List.cons.inj (List.append_cancel_left hsame)).2⟩

namespace Failure

/-- The line that reports a failure gives a line and a column, behind the name of the file. -/
def PrintedAt (failure : Failure) (source : Source) (line column : Nat) : Prop :=
  ∃ rest : CodeText, failure.toCompilerLine (some source) =
    s!"{failure.file}:{line}:{column}: error: " ++ rest

/-- Line and column can be read off the line that is printed. -/
lemma PrintedAt.unique {failure : Failure} {source : Source}
    {line line' column column' : Nat} (hprinted : failure.PrintedAt source line column)
    (hprinted' : failure.PrintedAt source line' column') : line = line' ∧ column = column' := by
  obtain ⟨rest, hrest⟩ := hprinted
  obtain ⟨rest', hrest'⟩ := hprinted'
  have hsame := congrArg CodeText.codes (hrest.symm.trans hrest')
  simp only [CodeText.ofString_append, CodeText.codes_append, List.append_assoc] at hsame
  obtain ⟨hline, hbehind⟩ :=
    eq_of_toString_colon (List.append_cancel_left (List.append_cancel_left hsame))
  exact ⟨hline, (eq_of_toString_colon hbehind).1⟩

lemma printedAt_of_linePlace {failure : Failure} {source : Source} {line column : Nat}
    (hplace : failure.linePlace source = s!"{failure.file}:{line}:{column}") :
    failure.PrintedAt source line column := by
  refine ⟨Text.fold failure.message ++ s!" [{failure.kind.label}]", ?_⟩
  rw [toCompilerLine, lineAt, hplace, ← CodeText.codes_inj]
  simp only [toString, CodeText.ofString_append, CodeText.codes_append, List.append_assoc]

/-- A failure is printed at the line of its offset, and at the column to which the line's start and
the offset are apart. -/
lemma exists_printedAt (source : Source) {failure : Failure} (hstart : 0 ≤ failure.start) :
    ∃ line column start : Nat, failure.PrintedAt source (line + 1) (column + 1) ∧
      source.startOfLine? line = some start ∧ ((start + column : Nat) : Int) = failure.start := by
  obtain ⟨offset, hoffset⟩ := Int.eq_ofNat_of_zero_le hstart
  obtain ⟨line, hline, hat⟩ := source.exists_lineAt_eq offset
  have hle := ((source.lineAt_eq_iff offset hline).1 hat).1
  obtain ⟨column, hcolumn⟩ := Nat.exists_eq_add_of_le (Int.ofNat_le.1 hle)
  refine ⟨line, column, source.lineStarts[line], printedAt_of_linePlace ?_,
    Source.startOfLine?_natCast (List.getElem?_eq_getElem hline), ?_⟩
  · have hgap : (offset : Int) - source.lineStarts[line] + 1 = ((column + 1 : Nat) : Int) := by
      omega
    rw [linePlace, hoffset, Source.startOfLineAt_eq hline hat, hat, hgap, ← Int.natCast_succ,
      Number.intText_natCast, Number.intText_natCast]
    rfl
  · rw [hoffset, hcolumn]

/-- The offset of a failure is recovered from the line and the column at which it is printed. -/
lemma PrintedAt.decode {failure : Failure} {source : Source} {line column : Nat}
    (hprinted : failure.PrintedAt source line column) (hstart : 0 ≤ failure.start) :
    1 ≤ line ∧ 1 ≤ column ∧ ∃ start, source.startOfLine? ((line : Int) - 1) = some start ∧
      (start : Int) + column - 1 = failure.start := by
  obtain ⟨line', column', start, hprinted', hline, hoffset⟩ := exists_printedAt source hstart
  obtain ⟨rfl, rfl⟩ := hprinted.unique hprinted'
  refine ⟨Nat.succ_pos _, Nat.succ_pos _, start, ?_, by omega⟩
  rw [Int.natCast_succ, Int.add_sub_cancel, hline]

end Failure

/-- **Offsets are looked up exactly, and printed locations can be decoded.**  A line starts at or
before an offset if and only if it is the offset's line or one before it; so the line of an offset
is the number of line breaks that end at or before it, and it never falls as offsets rise.  A
failure that does not lie before the text is printed at a line and a column, and wherever it is
printed, both are at least one and the start of the line and the column give its offset.  If two
failures of one file lie at different offsets, they are not printed at the same place. -/
theorem Source.lineAt_exact (source : Source) :
    (∀ offset line : Nat, line < source.lineCount → ∃ start,
        source.startOfLine? line = some start ∧ (start ≤ offset ↔ line ≤ source.lineAt offset)) ∧
      (∀ offset : Nat, source.lineAt offset =
        ((List.range (offset + 1)).countP (BreakEndsAt source.chars ·) : Nat)) ∧
      (∀ earlier later, earlier ≤ later → source.lineAt earlier ≤ source.lineAt later) ∧
      (∀ failure : Failure, 0 ≤ failure.start →
        (∃ line column, failure.PrintedAt source line column) ∧
        ∀ line column, failure.PrintedAt source line column →
          1 ≤ line ∧ 1 ≤ column ∧ ∃ start, source.startOfLine? ((line : Int) - 1) = some start ∧
            (start : Int) + column - 1 = failure.start) ∧
      ∀ failure other : Failure, 0 ≤ failure.start → 0 ≤ other.start →
        failure.start ≠ other.start → ∀ line column,
          failure.PrintedAt source line column → ¬ other.PrintedAt source line column := by
  refine ⟨fun offset line hline => ?_, source.lineAt_natCast,
    fun earlier later => source.lineAt_le_lineAt,
    fun failure hstart => ⟨?_, fun line column hprinted => hprinted.decode hstart⟩,
    fun failure other hstart hother hdiffer line column hprinted hsame => hdiffer ?_⟩
  · rw [← length_lineStarts] at hline
    refine ⟨_, startOfLine?_natCast (List.getElem?_eq_getElem hline), ?_⟩
    rw [source.le_lineAt_iff offset hline, Int.ofNat_le]
  · obtain ⟨line, column, -, hprinted, -⟩ := Failure.exists_printedAt source hstart
    exact ⟨_, _, hprinted⟩
  · obtain ⟨-, -, start, hline, hoffset⟩ := hprinted.decode hstart
    obtain ⟨-, -, start', hline', hoffset'⟩ := hsame.decode hother
    obtain rfl := Option.some.inj (hline.symm.trans hline')
    rw [← hoffset, hoffset']

end TypeTest
