import TypeTest.Error
import TypeTest.Message
import TypeTest.SyntaxTree

/-!
# Checkers

A checker analyses one program with one version of a type checker.  It is a collaborator: this
library only asks it questions, one file at a time.  An answer may change the checker's own
world `σ`, and a question may raise a fault.

A node is only ever shown to the checker whose tree it comes from.
-/

namespace TypeTest

/-- A step that may change a world and may end in a fault; the changes made before a fault
stay. -/
abbrev Action (σ : Type) := EStateM Fault σ

/-- A problem that a checker reports, with the file and the place where it lies, if it lies
anywhere. -/
structure Diagnostic where
  message : Message
  file : Option String := none
  start : Option Int := none
  length : Int := 0
  deriving Repr

/-- The questions a checker answers.  `α` is what it keeps with its nodes, `τ` a type. -/
structure Checker (σ α τ : Type) where
  /-- The text of a file. -/
  sourceText : String → Action σ String
  /-- Does a file only declare? -/
  isDeclarationFile : String → Action σ Bool
  /-- The tree of a file. -/
  syntaxTree : String → Action σ (Node α)
  /-- All that is wrong with a file. -/
  diagnostics : String → Action σ (List Diagnostic)
  /-- The type of a node. -/
  typeOf : Node α → Action σ τ
  /-- The text of a type, shortened if `truncate` is set. -/
  renderType : (type : τ) → (truncate : Bool) → Action σ String

/-- The checker that stands in for something that is none: every question is a fault. -/
def Checker.unusable : Checker σ α τ where
  sourceText _ := throw .notAChecker
  isDeclarationFile _ := throw .notAChecker
  syntaxTree _ := throw .notAChecker
  diagnostics _ := throw .notAChecker
  typeOf _ := throw .notAChecker
  renderType _ _ := throw .notAChecker

end TypeTest
