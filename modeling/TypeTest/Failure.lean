import TypeTest.Directive
import TypeTest.Json.Printer
import TypeTest.Number.Integer
import TypeTest.Text.Fold

/-!
# Failures

A failure is a span of the file under test with a message; a file without failures passes.  A
failure is reported as a data value, as that value on one line, or as one line in the manner of a
compiler: place, message, kind.  All messages are worded here.
-/

namespace TypeTest

/-- What can be wrong with a file. -/
inductive Failure.Kind where
  | duplicateAssertion | unmatchedAssertion | unexpectedDiagnostic | missingExpectedError
  | typeMismatch
  deriving DecidableEq, Repr

namespace Failure.Kind

/-- All kinds, in the order in which they are listed. -/
def all : List Failure.Kind :=
  [.duplicateAssertion, .unmatchedAssertion, .unexpectedDiagnostic, .missingExpectedError,
    .typeMismatch]

/-- The symbolic name of a kind. -/
def symbol : Failure.Kind → String
  | .duplicateAssertion => "DUPLICATE_ASSERTION"
  | .unmatchedAssertion => "UNMATCHED_ASSERTION"
  | .unexpectedDiagnostic => "UNEXPECTED_DIAGNOSTIC"
  | .missingExpectedError => "MISSING_EXPECTED_ERROR"
  | .typeMismatch => "TYPE_MISMATCH"

/-- The text by which a kind is written. -/
def label : Failure.Kind → String
  | .duplicateAssertion => "duplicateAssertion"
  | .unmatchedAssertion => "unmatchedAssertion"
  | .unexpectedDiagnostic => "unexpectedDiagnostic"
  | .missingExpectedError => "missingExpectedError"
  | .typeMismatch => "typeMismatch"

/-- The kind that a text writes. -/
def ofLabel? (label : String) : Option Failure.Kind :=
  all.find? fun kind => kind.label == label

@[simp] theorem ofLabel?_label (kind : Failure.Kind) : ofLabel? kind.label = some kind := by
  cases kind <;> decide

end Failure.Kind

/-- One thing that is wrong with a file.  A failure of the file as a whole has an empty span.
`above` names the version that passed just above the one that failed, where the failure
marks a boundary between the two. -/
structure Failure where
  start : Int
  length : Int
  message : CodeText
  kind : Failure.Kind
  file : String := ""
  version : Option CodeText := none
  above : Option CodeText := none
  deriving DecidableEq, Repr

namespace Failure

/-- The offset just past a failure. -/
def stop (failure : Failure) : Int := failure.start + failure.length

/-! ## Reports -/

/-- A failure as a data value. -/
def toJson (failure : Failure) : Json :=
  .obj [("file", .str failure.file),
    ("start", .int failure.start),
    ("length", .int failure.length),
    ("kind", .str failure.kind.label),
    ("message", .str failure.message),
    ("version", .ofText? failure.version),
    ("nextHigherVersion", .ofText? failure.above)]

/-- A failure as a data value on one line. -/
def toJsonLine (failure : Failure) : String := failure.toJson.line

/-- Where a failure lies, by its offset alone. -/
def offsetPlace (failure : Failure) : String :=
  s!"{failure.file}@{Number.intText failure.start}"

/-- Line and column of a failure in the text of its file, both counted from one. -/
def linePlace (failure : Failure) (source : Source) : String :=
  let line := source.lineAt failure.start
  let column := failure.start - source.startOfLineAt failure.start
  s!"{failure.file}:{Number.intText (line + 1)}:{Number.intText (column + 1)}"

/-- One line that tells the place, the message folded onto the line, and the kind. -/
def lineAt (failure : Failure) (place : String) : CodeText :=
  s!"{place}: error: " ++ Text.fold failure.message ++ s!" [{failure.kind.label}]"

/-- The line of a failure, with line and column if the source is at hand. -/
def toCompilerLine (failure : Failure) : (source : Option Source) → CodeText
  | none => failure.lineAt failure.offsetPlace
  | some source => failure.lineAt (failure.linePlace source)

/-! ## Messages -/

/-- A line carries two directives of one kind. -/
def duplicateMessage : Directive.Kind → String
  | .expectError => "This line has 2 $ExpectError assertions."
  | .expectType => "This line has 2 $ExpectType assertions."

/-- The message for a directive given by its name.  A name that is none is taken for that of a
type assertion. -/
def duplicateMessageFor (label : String) : String :=
  duplicateMessage ((Directive.Kind.ofLabel? label).getD .expectType)

/-- A type assertion has no node to speak about. -/
def unmatchedMessage : String := "Can not match a node to this assertion."

/-- A line misses its error. -/
def missingErrorMessage : String := "Expected an error on this line, but found none."

/-- A node has another type than the one asserted. -/
def mismatchMessage (expected actual : String) : String :=
  s!"Expected type to be:\n  {expected}\ngot:\n  {actual}"

end Failure

/-! ## Versions -/

/-- The name of the newest version, which no older install may take. -/
def nextVersion : CodeText := "next"

/-- What a checker is called in messages, unless something else is asked for. -/
def defaultLabel : CodeText := "TypeScript"

/-- The version that a run is for: its name, that of the version that passed just above it if the
run is to mark a boundary, and what the checker is called in messages. -/
structure Stamp where
  version : CodeText
  above : Option CodeText := none
  label : CodeText := defaultLabel
  deriving DecidableEq, Repr

/-- What an unexpected diagnostic is introduced by.  At a version boundary it also says how to
pin the file to the version that passed. -/
def Stamp.intro (stamp : Stamp) : CodeText :=
  let tested := stamp.label ++ "@" ++ stamp.version
  match stamp.above with
  | none => tested ++ " compile error: "
  | some above =>
    let boundary :=
      "Compile error in " ++ tested ++ " but not in " ++ stamp.label ++ "@" ++ above ++ ".\n"
    if above = nextVersion then boundary ++ stamp.label ++ "@next features not yet supported."
    else
      boundary ++ "Fix with a comment '// " ++ stamp.label ++ " Version: " ++ above ++
        "' just under the header."

end TypeTest
