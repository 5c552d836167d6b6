import TypeTest.Source
import TypeTest.Text.Parts
import TypeTest.Token

/-!
# Directives

A directive is a line comment that is exactly one of

* `// $ExpectType` and a space, followed by the text of the expected type, or
* `// $ExpectError`.

Its target is the line it speaks about: its own line when a token other than blanks and line
comments comes before it on that line, and the next line otherwise.  `Source.directives` lists
the directives of a text with their targets in one pass, by means of a line cursor that only
moves forward and the position of the last token that counts.
-/

namespace TypeTest

/-- The two kinds of directive. -/
inductive Directive.Kind where
  | expectType | expectError
  deriving DecidableEq, Repr

namespace Directive.Kind

/-- The name of a kind, as it stands in a comment after the dollar sign. -/
def label : Directive.Kind → String
  | .expectType => "ExpectType"
  | .expectError => "ExpectError"

/-- The kind with a given name. -/
def ofLabel? (label : String) : Option Directive.Kind :=
  [expectType, expectError].find? fun kind => kind.label == label

@[simp] theorem ofLabel?_label (kind : Directive.Kind) : ofLabel? kind.label = some kind := by
  cases kind <;> decide

end Directive.Kind

/-- What a directive asserts about its target line. -/
inductive Directive where
  /-- The first node of the line has this type, given as the checker would print it. -/
  | expectType (expected : String)
  /-- Something is reported on the line. -/
  | expectError
  deriving DecidableEq, Repr

namespace Directive

/-- The kind of a directive. -/
def kind : Directive → Directive.Kind
  | expectType _ => .expectType
  | expectError => .expectError

/-- The directive that a whole comment states, if it states one.  The expected type may be
any text on one line, the empty text too. -/
def ofComment? (comment : List Char) : Option Directive :=
  if comment = "// $ExpectError".toList then some .expectError
  else match "// $ExpectType ".toList.isPrefixOf? comment with
    | some expected =>
      if '\n' ∈ expected then none else some (.expectType (String.ofList expected))
    | none => none

/-- Is a directive mentioned anywhere in a text, be it in a literal or as part of a longer
word?  A text without a mention has no directives and need not be scanned. -/
def mentionedIn (text : List Char) : Bool :=
  Text.occursIn "$ExpectType".toList text || Text.occursIn "$ExpectError".toList text

end Directive

/-! ## Targets -/

/-- A directive and the line it speaks about. -/
structure PlacedDirective where
  line : Nat
  directive : Directive
  deriving DecidableEq, Repr

/-- A line of a text: its number, the offset at which it starts, and those at which the lines
after it start. -/
structure LineCursor where
  line : Nat
  start : Nat
  later : List Nat
  deriving DecidableEq, Repr

namespace LineCursor

/-- Moves forward to the line on which an offset lies. -/
def advance (offset line start : Nat) : List Nat → LineCursor
  | [] => ⟨line, start, []⟩
  | next :: later =>
    if next ≤ offset then advance offset (line + 1) next later else ⟨line, start, next :: later⟩

/-- The first line at or after the cursor's on which an offset lies. -/
def moveTo (cursor : LineCursor) (offset : Nat) : LineCursor :=
  advance offset cursor.line cursor.start cursor.later

/-- The target of a directive on the cursor's line, where `last` is the start of the last token
before the directive that is neither blank nor a line comment. -/
def target (cursor : LineCursor) (last : Option Nat) : Nat :=
  if last.all (· < cursor.start) then cursor.line + 1 else cursor.line

end LineCursor

/-- The directives among the tokens of a text, with their targets. -/
def placeDirectives (cursor : LineCursor) (last : Option Nat) : List Token → List PlacedDirective
  | [] => []
  | token :: tokens =>
    match token.kind with
    | .endOfFile => []
    | .whitespace => placeDirectives cursor last tokens
    | .lineComment =>
      match Directive.ofComment? token.chars with
      | none => placeDirectives cursor last tokens
      | some directive =>
        ⟨(cursor.moveTo token.start).target last, directive⟩ ::
          placeDirectives (cursor.moveTo token.start) last tokens
    | _ => placeDirectives cursor (some token.start) tokens

/-- The directives of a source in the order in which they stand there. -/
def Source.directives (source : Source) : List PlacedDirective :=
  placeDirectives ⟨0, 0, source.lineStarts.tail⟩ none (Token.scan source.chars)

end TypeTest
