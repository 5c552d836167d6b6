import TypeTest.ErrorMatch
import TypeTest.Proofs.Lines

/-!
# Diagnostics and the lines that expect them

The diagnostics of a file are gone through once, with a record of what has been seen.  What comes
of it can be told without the record: the unexpected ones are those that start on no line of the
file on which an error is expected (`unexpected_eq`), and a line misses its error if it is not
flagged and no diagnostic starts on it (`mem_missing_iff`).

So the order of the diagnostics matters only to the order in which the unexpected ones are reported
(`ofDiagnostics_exact`).
-/

namespace TypeTest

/-- A diagnostic is expected if it starts in the file, on a line on which an error is expected. -/
def Diagnostic.isExpected (diagnostic : Diagnostic) (errorLines : List Int) (file : String)
    (source : Source) : Bool :=
  (diagnostic.lineIn? file source).any (· ∈ errorLines)

lemma Diagnostic.lineIn?_eq_some_iff {diagnostic : Diagnostic} {file : String} {source : Source}
    {line : Int} :
    diagnostic.lineIn? file source = some line ↔
      diagnostic.file = some file ∧ ∃ start, diagnostic.start = some start ∧
        source.lineAt start = line := by
  unfold lineIn?
  split
  · rename_i hfile
    rw [Option.map_eq_some_iff, hfile]
    simp
  · rename_i hfile
    simp [hfile]

namespace ErrorMatch

variable {diagnostics : List Diagnostic} {errorLines flaggedLines : List Int} {source : Source}
  {file : String}

/-- One diagnostic is added to what is unexpected, or its line to what is seen, or both. -/
lemma Progress.add_eq (progress : Progress) (diagnostic : Diagnostic) :
    progress.add errorLines file source diagnostic =
      { unexpected :=
          progress.unexpected ++ [diagnostic].filter (!·.isExpected errorLines file source)
        seen := (diagnostic.lineIn? file source).toList ++ progress.seen } := by
  unfold Progress.add Diagnostic.isExpected
  rw [List.filter_cons, List.filter_nil]
  cases diagnostic.lineIn? file source with
  | none => simp
  | some line =>
    by_cases hmem : line ∈ errorLines
    · simp [hmem]
    · simp [hmem]

lemma foldl_add (diagnostics : List Diagnostic) (errorLines : List Int) (file : String)
    (source : Source) (progress : Progress) :
    (diagnostics.foldl (Progress.add errorLines file source) progress).unexpected =
        progress.unexpected ++ diagnostics.filter (!·.isExpected errorLines file source) ∧
      ∀ line, line ∈ (diagnostics.foldl (Progress.add errorLines file source) progress).seen ↔
        (∃ diagnostic ∈ diagnostics, diagnostic.lineIn? file source = some line) ∨
          line ∈ progress.seen := by
  induction diagnostics generalizing progress with
  | nil => simp
  | cons diagnostic diagnostics ih =>
    obtain ⟨hunexpected, hseen⟩ := ih (progress.add errorLines file source diagnostic)
    rw [List.foldl_cons, hunexpected]
    constructor
    · rw [Progress.add_eq, List.append_assoc, ← List.filter_append, List.singleton_append]
    · intro line
      rw [hseen line, Progress.add_eq]
      simp only [List.mem_append, Option.mem_toList, List.mem_cons, exists_eq_or_imp]
      rw [← or_assoc]
      exact or_congr_left or_comm

/-- The diagnostics that no expectation covers, in their order. -/
theorem unexpected_eq (diagnostics : List Diagnostic) (errorLines flaggedLines : List Int)
    (source : Source) (file : String) :
    (ofDiagnostics diagnostics errorLines flaggedLines source file).unexpected =
      diagnostics.filter (!·.isExpected errorLines file source) :=
  (foldl_add diagnostics errorLines file source {}).1

/-- The lines that miss their error. -/
theorem mem_missing_iff {line : Int} :
    line ∈ (ofDiagnostics diagnostics errorLines flaggedLines source file).missing ↔
      line ∈ errorLines ∧ line ∉ flaggedLines ∧
        ∀ diagnostic ∈ diagnostics, diagnostic.lineIn? file source ≠ some line := by
  have hseen := (foldl_add diagnostics errorLines file source {}).2 line
  unfold ofDiagnostics
  simp only [List.mem_mergeSort, List.mem_filter, List.mem_eraseDups, hseen, decide_eq_true_eq]
  simp [and_comm]

/-- The lines that miss their error are listed in ascending order. -/
lemma missing_ascending (diagnostics : List Diagnostic) (errorLines flaggedLines : List Int)
    (source : Source) (file : String) :
    (ofDiagnostics diagnostics errorLines flaggedLines source file).missing.Pairwise (· < ·) :=
  mergeSort_ascending ((nodup_eraseDups errorLines).filter _)

end ErrorMatch

/-! ## Without reference to the record -/

namespace Diagnostic

/-- No expectation covers a diagnostic: it belongs to another file or to none, or it has no start,
or it starts on a line on which no error is expected. -/
def Uncovered (diagnostic : Diagnostic) (errorLines : List Int) (file : String)
    (source : Source) : Prop :=
  diagnostic.file ≠ some file ∨ diagnostic.start = none ∨
    ∃ start, diagnostic.start = some start ∧ source.lineAt start ∉ errorLines

variable {diagnostic : Diagnostic} {errorLines others : List Int} {file : String} {source : Source}

lemma isExpected_eq_false_iff :
    diagnostic.isExpected errorLines file source = false ↔
      diagnostic.Uncovered errorLines file source := by
  unfold isExpected lineIn? Uncovered
  by_cases hfile : diagnostic.file = some file
  · cases hstart : diagnostic.start with
    | none => simp [hfile]
    | some start => simp [hfile]
  · simp [hfile]

instance : Decidable (diagnostic.Uncovered errorLines file source) :=
  decidable_of_iff _ isExpected_eq_false_iff

lemma uncovered_congr (hsame : ∀ line, line ∈ others ↔ line ∈ errorLines) :
    diagnostic.Uncovered others file source ↔ diagnostic.Uncovered errorLines file source := by
  simp only [Uncovered, hsame]

lemma lineIn?_ne_some_iff {line : Int} :
    diagnostic.lineIn? file source ≠ some line ↔ (diagnostic.file = some file →
      ∀ start, diagnostic.start = some start → source.lineAt start ≠ line) := by
  rw [Ne, lineIn?_eq_some_iff, not_and]
  simp only [not_exists, not_and, Ne]

end Diagnostic

namespace ErrorMatch

variable {diagnostics others : List Diagnostic} {errorLines errorLines' flaggedLines
  flaggedLines' : List Int} {source : Source} {file : String}

/-- The unexpected diagnostics are those that no expectation covers. -/
lemma unexpected_eq_uncovered (diagnostics : List Diagnostic) (errorLines flaggedLines : List Int)
    (source : Source) (file : String) :
    (ofDiagnostics diagnostics errorLines flaggedLines source file).unexpected =
      diagnostics.filter (·.Uncovered errorLines file source) := by
  rw [unexpected_eq]
  refine List.filter_congr fun diagnostic _ => ?_
  simp [← Diagnostic.isExpected_eq_false_iff]

/-- Which lines miss their error depends on which diagnostics and lines there are, and not on how
they are listed. -/
lemma missing_congr (hdiagnostics : ∀ diagnostic, diagnostic ∈ others ↔ diagnostic ∈ diagnostics)
    (herrors : ∀ line, line ∈ errorLines' ↔ line ∈ errorLines)
    (hflagged : ∀ line, line ∈ flaggedLines' ↔ line ∈ flaggedLines) :
    (ofDiagnostics others errorLines' flaggedLines' source file).missing =
      (ofDiagnostics diagnostics errorLines flaggedLines source file).missing := by
  refine eq_of_ascending (missing_ascending ..) (missing_ascending ..) fun line => ?_
  simp only [mem_missing_iff, hdiagnostics, herrors, hflagged]

/-- **What becomes of each diagnostic and of each expected error.**  The unexpected diagnostics are
those that no expectation covers, in their order.  The lines that miss their error are listed in
strictly ascending order: they are those on which an error is expected, that are not flagged and on
which no diagnostic of the file starts.  So a diagnostic that is not reported never leaves its line
without an error.  In another order the diagnostics leave the same lines without one, and the same
diagnostics are unexpected; and the lines count as sets. -/
theorem ofDiagnostics_exact (diagnostics : List Diagnostic) (errorLines flaggedLines : List Int)
    (source : Source) (file : String) :
    let found := ofDiagnostics diagnostics errorLines flaggedLines source file
    found.unexpected = diagnostics.filter (·.Uncovered errorLines file source) ∧
      found.missing.Pairwise (· < ·) ∧
      (∀ line, line ∈ found.missing ↔ line ∈ errorLines ∧ line ∉ flaggedLines ∧
        ∀ diagnostic ∈ diagnostics, diagnostic.file = some file →
          ∀ start, diagnostic.start = some start → source.lineAt start ≠ line) ∧
      (∀ diagnostic ∈ diagnostics, diagnostic ∉ found.unexpected →
        ∃ start, diagnostic.start = some start ∧ source.lineAt start ∉ found.missing) ∧
      (∀ others, others.Perm diagnostics →
        (ofDiagnostics others errorLines flaggedLines source file).missing = found.missing ∧
        (ofDiagnostics others errorLines flaggedLines source file).unexpected.Perm
          found.unexpected) ∧
      ∀ errorLines' flaggedLines', (∀ line, line ∈ errorLines' ↔ line ∈ errorLines) →
        (∀ line, line ∈ flaggedLines' ↔ line ∈ flaggedLines) →
          ofDiagnostics diagnostics errorLines' flaggedLines' source file = found := by
  intro found
  have hmissing : ∀ line, line ∈ found.missing ↔ line ∈ errorLines ∧ line ∉ flaggedLines ∧
      ∀ diagnostic ∈ diagnostics, diagnostic.file = some file →
        ∀ start, diagnostic.start = some start → source.lineAt start ≠ line := by
    intro line
    simp only [← Diagnostic.lineIn?_ne_some_iff]
    exact mem_missing_iff
  have hunexpected := unexpected_eq_uncovered diagnostics errorLines flaggedLines source file
  refine ⟨hunexpected, missing_ascending .., hmissing, ?_, ?_, ?_⟩
  · intro diagnostic hmem hdropped
    have hcovered : ¬ diagnostic.Uncovered errorLines file source := by
      intro huncovered
      refine hdropped ?_
      rw [show found.unexpected = _ from hunexpected]
      exact List.mem_filter.2 ⟨hmem, decide_eq_true huncovered⟩
    rw [Diagnostic.Uncovered, not_or, not_or, not_not] at hcovered
    obtain ⟨hfile, hstart, -⟩ := hcovered
    obtain ⟨start, hstart⟩ := Option.ne_none_iff_exists'.1 hstart
    refine ⟨start, hstart, fun hline => ?_⟩
    exact ((hmissing _).1 hline).2.2 diagnostic hmem hfile start hstart rfl
  · intro others hperm
    refine ⟨missing_congr (fun _ => hperm.mem_iff) (fun _ => Iff.rfl) fun _ => Iff.rfl, ?_⟩
    rw [show found.unexpected = _ from hunexpected, unexpected_eq_uncovered]
    exact hperm.filter _
  · intro errorLines' flaggedLines' herrors hflagged
    have hkept : (ofDiagnostics diagnostics errorLines' flaggedLines' source file).unexpected =
        found.unexpected := by
      rw [show found.unexpected = _ from hunexpected, unexpected_eq_uncovered]
      refine List.filter_congr fun diagnostic _ => ?_
      rw [Bool.eq_iff_iff, decide_eq_true_iff, decide_eq_true_iff]
      exact Diagnostic.uncovered_congr herrors
    exact congrArg₂ ErrorMatch.mk hkept (missing_congr (fun _ => Iff.rfl) herrors hflagged)

end ErrorMatch

end TypeTest
