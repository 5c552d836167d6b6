import TypeTest.Assoc
import TypeTest.Checker
import TypeTest.Source
import TypeTest.TypeText

/-!
# Type assertions against the nodes of a tree

An asserted line is paired with the first node that starts on it, in pre-order and leaving out
the root: the outermost node of a line comes before the nodes inside it.  An assertion is used up
by the node it is paired with, whether or not the types agree.

Pairing asks the checker nothing.  So the pairs are found first, by one walk that stops as soon as
no line is left to serve; then the checker is asked for the type of each paired node, in the order
of the walk.
-/

namespace TypeTest

/-- An asserted line, the type expected there, and the node that the assertion is about. -/
structure Pairing (α : Type) where
  line : Int
  expected : String
  node : Node α

/-- Walks over trees and pairs each pending line with the first node on it; also returns what is
still pending at the end. -/
def pairNodes (source : Source) (pending : Assoc Int String) (nodes : List (Node α)) :
    List (Pairing α) × Assoc Int String :=
  match nodes with
  | [] => ([], pending)
  | node :: rest =>
    if pending.isEmpty then ([], pending)
    else
      match pending.get? (source.lineAt node.start) with
      | none => pairNodes source pending (node.children ++ rest)
      | some expected =>
        let left := pending.erase (source.lineAt node.start)
        let more := pairNodes source left (node.children ++ rest)
        (⟨source.lineAt node.start, expected, node⟩ :: more.1, more.2)
termination_by Node.sizeAll nodes
decreasing_by
  all_goals
    rw [Node.sizeAll_append, Node.sizeAll, Node.size_eq]
    omega

/-- A node whose type is not the asserted one.  The expected text is the assertion's own, the
actual one is in normal form. -/
structure Unmet (α : Type) where
  node : Node α
  expected : String
  actual : String

/-- How the type assertions of a file fare: the nodes of another type, in the order of the walk,
and the asserted lines on which no node starts, in ascending order. -/
structure TypeMatch (α : Type) where
  unmet : List (Unmet α) := []
  unpaired : List Int := []

namespace Pairing

/-- The node whose type an assertion is about: of a statement that consists of an expression,
the expression. -/
def target (pairing : Pairing α) : Except Fault (Node α) :=
  if pairing.node.isExpressionStatement then
    match pairing.node.expression with
    | some expression => .ok expression
    | none => .error .noExpression
  else .ok pairing.node

/-- Asks for the type of the paired node and compares normal forms. -/
def check (checker : Checker σ α τ) (pairing : Pairing α) : Action σ (Option (Unmet α)) := do
  let target ← MonadExcept.ofExcept pairing.target
  let type ← checker.typeOf target
  let rendered ← checker.renderType type false
  let actual := TypeText.normalize rendered
  if TypeText.normalize pairing.expected = actual then
    return none
  else
    return some ⟨target, pairing.expected, actual⟩

end Pairing

/-- Checks pairings one after the other and keeps those that are not met. -/
def checkPairings (checker : Checker σ α τ) : List (Pairing α) → Action σ (List (Unmet α))
  | [] => return []
  | pairing :: pairings => do
    let unmet ← pairing.check checker
    let more ← checkPairings checker pairings
    return unmet.toList ++ more

/-- Compares the type assertions of a file with the nodes below the root of its tree.  The
checker must be the one that made the tree. -/
def matchTypes (checker : Checker σ α τ) (source : Source) (root : Node α)
    (assertions : Assoc Int String) : Action σ (TypeMatch α) := do
  let (pairings, left) := pairNodes source assertions root.children
  let unmet ← checkPairings checker pairings
  return { unmet, unpaired := left.keys.mergeSort }

end TypeTest
