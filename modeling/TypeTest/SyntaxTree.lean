/-!
# Syntax trees

The trees that a checker hands out.  A node has a kind, the span of its text and its children;
an expression statement also gives the expression that it states.  `info` is the checker's own:
whatever it needs to answer questions about the node, and nothing here looks at it.
-/

namespace TypeTest

/-- A node of a checker's tree.  `start` is the offset of the first token, `stop` the offset
just past the last character. -/
inductive Node (α : Type) where
  | mk (kind : String) (start stop : Int) (info : α) (children : List (Node α))
      (expression : Option (Node α))
  deriving Repr

namespace Node

/-- The kind of a node, as the checker calls it. -/
def kind : Node α → String
  | mk kind _ _ _ _ _ => kind

/-- The offset at which a node starts. -/
def start : Node α → Int
  | mk _ start _ _ _ _ => start

/-- The offset just past a node. -/
def stop : Node α → Int
  | mk _ _ stop _ _ _ => stop

/-- The checker's own data about a node. -/
def info : Node α → α
  | mk _ _ _ info _ _ => info

/-- The children of a node, in order. -/
def children : Node α → List (Node α)
  | mk _ _ _ _ children _ => children

/-- The expression of a node that has one. -/
def expression : Node α → Option (Node α)
  | mk _ _ _ _ _ expression => expression

/-- The kind of the statements that consist of an expression. -/
def expressionStatementKind : String := "ExpressionStatement"

/-- Is a node a statement that consists of an expression? -/
def isExpressionStatement (node : Node α) : Bool :=
  node.kind == expressionStatementKind

mutual

/-- Number of nodes in a tree. -/
def size : Node α → Nat
  | mk _ _ _ _ children _ => sizeAll children + 1

/-- Number of nodes in several trees. -/
def sizeAll : List (Node α) → Nat
  | [] => 0
  | node :: nodes => node.size + sizeAll nodes

end

@[simp] theorem sizeAll_append (nodes others : List (Node α)) :
    sizeAll (nodes ++ others) = sizeAll nodes + sizeAll others := by
  induction nodes with
  | nil => simp [sizeAll]
  | cons node nodes ih => simp only [List.cons_append, sizeAll, ih]; omega

/-- The node and all below it are one more than all below it. -/
theorem size_eq (node : Node α) : node.size = sizeAll node.children + 1 := by
  cases node
  rfl

end Node

end TypeTest
