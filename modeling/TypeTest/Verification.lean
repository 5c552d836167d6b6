import TypeTest.DirectiveTable
import TypeTest.ErrorMatch
import TypeTest.Failure
import TypeTest.TypeMatch

/-!
# Verifying one file against one checker

All that is wrong with a file under one version: its duplicate directives, the problems that no
directive expects, the lines that miss their error, the nodes of another type and the assertions
without a node, in this order.

A declaration file, and a file in which no directive is mentioned, is not scanned: every problem
that its checker reports is then unexpected.
-/

namespace TypeTest

/-- The file under test and the version that it is tested with. -/
structure Subject where
  file : String
  source : Source
  stamp : Stamp

namespace Subject

/-- A failure with a given span. -/
def failureAt (subject : Subject) (start length : Int) (message : CodeText) (kind : Failure.Kind) :
    Failure where
  start
  length
  message
  kind
  file := subject.file
  version := some subject.stamp.version
  above := subject.stamp.above

/-- A failure of a whole line. -/
def failureOnLine (subject : Subject) (line : Int) (message : CodeText) (kind : Failure.Kind) :
    Failure :=
  let source := subject.source
  let extent := (source.spanOfLine? line).getD (source.length, source.length)
  subject.failureAt extent.1 (extent.2 - extent.1) message kind

/-- The failure of a problem that no directive expects.  A problem of another file, or without a
place, is reported at the head of the file under test, under the name of the file it is in. -/
def unexpected (subject : Subject) (diagnostic : Diagnostic) : Failure :=
  let intro := subject.stamp.intro
  let text := diagnostic.message.flatten
  match diagnostic.start with
  | some start =>
    if diagnostic.file = some subject.file then
      subject.failureAt start diagnostic.length (intro ++ "\n" ++ text) .unexpectedDiagnostic
    else elsewhere intro text
  | none => elsewhere intro text
where
  /-- The failure of a problem that does not lie in the file under test. -/
  elsewhere (intro : CodeText) (text : String) : Failure :=
    let owner : CodeText :=
      match diagnostic.file with
      | none => ""
      | some file => if file = "" then "" else s!"{file}: "
    subject.failureAt 0 0 (intro ++ "\n" ++ owner ++ text) .unexpectedDiagnostic

/-- The failure of a line with two directives of a kind. -/
def duplicate (subject : Subject) (found : Duplicate) : Failure :=
  subject.failureOnLine found.line (Failure.duplicateMessage found.kind) .duplicateAssertion

/-- The failure of a line on which an error is expected and none is reported. -/
def missingError (subject : Subject) (line : Int) : Failure :=
  subject.failureOnLine line Failure.missingErrorMessage .missingExpectedError

/-- The failure of a node of another type than the asserted one. -/
def mismatch (subject : Subject) (unmet : Unmet α) : Failure :=
  subject.failureAt unmet.node.start (unmet.node.stop - unmet.node.start)
    (Failure.mismatchMessage unmet.expected unmet.actual) .typeMismatch

/-- The failure of an asserted line on which no node starts. -/
def unmatched (subject : Subject) (line : Int) : Failure :=
  subject.failureOnLine line Failure.unmatchedMessage .unmatchedAssertion

end Subject

namespace Checker

/-- The failures of a file whose directives are looked at. -/
def verifyDirectives (checker : Checker σ α τ) (subject : Subject)
    (diagnostics : List Diagnostic) : Action σ (List Failure) := do
  let table := DirectiveTable.ofSource subject.source
  let errors := ErrorMatch.ofDiagnostics diagnostics table.errorLines
    (table.flaggedLines .expectError) subject.source subject.file
  let root ← checker.syntaxTree subject.file
  let types ← matchTypes checker subject.source root table.typeAssertions
  return table.duplicates.map subject.duplicate ++
    errors.unexpected.map subject.unexpected ++
    errors.missing.map subject.missingError ++
    types.unmet.map subject.mismatch ++
    types.unpaired.map subject.unmatched

/-- The failures of a file. -/
def verify (checker : Checker σ α τ) (file : String) (stamp : Stamp) :
    Action σ (List Failure) := do
  let text ← checker.sourceText file
  let subject : Subject := { file, source := .ofString text, stamp }
  let diagnostics ← checker.diagnostics file
  let declares ← checker.isDeclarationFile file
  if declares || !Directive.mentionedIn subject.source.chars then
    return diagnostics.map subject.unexpected
  else
    checker.verifyDirectives subject diagnostics

end Checker

end TypeTest
