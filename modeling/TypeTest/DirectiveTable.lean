import TypeTest.Assoc
import TypeTest.Directive

/-!
# The directives of a file, by line

A table keeps what has been asserted about each line.  A second directive of one kind on a line
is a duplicate: it is flagged once, however many follow.  Two type assertions on one line cancel
each other, so that line then has none; error assertions on one line still ask for an error.
-/

namespace TypeTest

/-- A line that carries two directives of one kind. -/
structure Duplicate where
  line : Int
  kind : Directive.Kind
  deriving DecidableEq, Repr

/-- What is asserted about the lines of one file: the lines on which an error is expected, the
expected type by line, and the duplicates in the order in which they were found. -/
structure DirectiveTable where
  errorLines : List Int := []
  typeAssertions : Assoc Int String := .empty
  duplicates : List Duplicate := []
  deriving DecidableEq, Repr

namespace DirectiveTable

/-- The table in which nothing is asserted. -/
def empty : DirectiveTable := {}

/-- Is nothing at all recorded? -/
def isEmpty (table : DirectiveTable) : Bool :=
  table.errorLines.isEmpty && table.typeAssertions.isEmpty && table.duplicates.isEmpty

/-- The lines flagged for a kind of directive. -/
def flaggedLines (table : DirectiveTable) (kind : Directive.Kind) : List Int :=
  (table.duplicates.filter (·.kind = kind)).map (·.line)

/-- Flags a line for a kind of directive, unless it is flagged already. -/
def flag (table : DirectiveTable) (line : Int) (kind : Directive.Kind) : DirectiveTable :=
  if ⟨line, kind⟩ ∈ table.duplicates then table
  else { table with duplicates := table.duplicates ++ [⟨line, kind⟩] }

/-- Records that an error is expected on a line. -/
def recordError (table : DirectiveTable) (line : Int) : DirectiveTable :=
  if line ∈ table.errorLines then table.flag line .expectError
  else { table with errorLines := table.errorLines ++ [line] }

/-- Records the type expected on a line.  Where one is recorded already both are dropped and
the line is flagged; a line that has been flagged takes no further type. -/
def recordType (table : DirectiveTable) (line : Int) (expected : String) : DirectiveTable :=
  if table.typeAssertions.contains line then
    { table with typeAssertions := table.typeAssertions.erase line }.flag line .expectType
  else if line ∈ table.flaggedLines .expectType then table
  else { table with typeAssertions := table.typeAssertions.insert line expected }

/-- Records one directive. -/
def add (table : DirectiveTable) (placed : PlacedDirective) : DirectiveTable :=
  match placed.directive with
  | .expectType expected => table.recordType placed.line expected
  | .expectError => table.recordError placed.line

/-- The table of a sequence of directives. -/
def ofDirectives (directives : List PlacedDirective) : DirectiveTable :=
  directives.foldl add empty

@[simp] theorem ofDirectives_nil : ofDirectives [] = empty := rfl

/-- The table of all directives of a source. -/
def ofSource (source : Source) : DirectiveTable :=
  ofDirectives source.directives

/-! ## The two kinds do not touch each other -/

@[simp] theorem flag_errorLines (table : DirectiveTable) (line : Int) (kind : Directive.Kind) :
    (table.flag line kind).errorLines = table.errorLines := by
  unfold flag
  split <;> rfl

@[simp] theorem flag_typeAssertions (table : DirectiveTable) (line : Int)
    (kind : Directive.Kind) : (table.flag line kind).typeAssertions = table.typeAssertions := by
  unfold flag
  split <;> rfl

@[simp] theorem recordError_typeAssertions (table : DirectiveTable) (line : Int) :
    (table.recordError line).typeAssertions = table.typeAssertions := by
  unfold recordError
  split <;> simp

@[simp] theorem recordType_errorLines (table : DirectiveTable) (line : Int) (expected : String) :
    (table.recordType line expected).errorLines = table.errorLines := by
  unfold recordType
  split
  · simp
  · split <;> rfl

end DirectiveTable

end TypeTest
