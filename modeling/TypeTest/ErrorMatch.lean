import TypeTest.Checker
import TypeTest.Source

/-!
# Reported problems against expected errors

A diagnostic is expected exactly when it starts on a line of the file on which an error is
expected.  One of another file, or without a place, can never meet an expectation.  An expected
line on which nothing starts is missing its error, unless it is a duplicate: those have a failure
of their own.

Diagnostics are gone through once, in order.
-/

namespace TypeTest

/-- The diagnostics that no expectation covers, in their order, and the lines that miss their
error, in ascending order. -/
structure ErrorMatch where
  unexpected : List Diagnostic := []
  missing : List Int := []

/-- The line of a file on which a diagnostic starts, if it starts in that file. -/
def Diagnostic.lineIn? (diagnostic : Diagnostic) (file : String) (source : Source) :
    Option Int :=
  if diagnostic.file = some file then diagnostic.start.map source.lineAt else none

namespace ErrorMatch

/-- What is known after some of the diagnostics: which of them are unexpected, and the lines on
which something starts. -/
structure Progress where
  unexpected : List Diagnostic := []
  seen : List Int := []

/-- Takes one more diagnostic into account. -/
def Progress.add (errorLines : List Int) (file : String) (source : Source)
    (progress : Progress) (diagnostic : Diagnostic) : Progress :=
  match diagnostic.lineIn? file source with
  | none => { progress with unexpected := progress.unexpected ++ [diagnostic] }
  | some line =>
    { unexpected :=
        if line ∈ errorLines then progress.unexpected else progress.unexpected ++ [diagnostic]
      seen := line :: progress.seen }

/-- Sets the diagnostics of a file against the lines on which errors are expected.  Both lists
of lines are taken as sets. -/
def ofDiagnostics (diagnostics : List Diagnostic) (errorLines flaggedLines : List Int)
    (source : Source) (file : String) : ErrorMatch :=
  let progress := diagnostics.foldl (Progress.add errorLines file source) {}
  { unexpected := progress.unexpected
    missing := (errorLines.eraseDups.filter fun line =>
      line ∉ progress.seen ∧ line ∉ flaggedLines).mergeSort }

end ErrorMatch

end TypeTest
