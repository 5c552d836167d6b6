import Mathlib.Tactic.Lemma
import TypeTest.TypeMatch

/-!
# The nodes that type assertions are paired with

`pairNodes` walks over a tree with a list of what is still to be visited, and stops when no line
is left to serve.  The plain notion behind it has neither: `Node.descendants` lists all that lies
below a node in pre-order, by recursion on the tree, and `firstOn` is the first entry of such a
list that starts on a given line.

The two agree.  A pairing is made exactly for each pending line on which a node starts, with the
first such node (`mem_pairNodes_iff`), the pairings come in the order of these nodes
(`pairNodes_inOrder`), and what is still pending at the end are the lines on which none starts
(`get?_pairNodes`).
-/

namespace TypeTest

variable {α : Type}

/-! ## All that lies below a node -/

namespace Node

mutual

/-- All that lies below a node, in pre-order. -/
def descendants : Node α → List (Node α)
  | mk _ _ _ _ children _ => withDescendants children

/-- Some nodes with all that lies below them, in pre-order. -/
def withDescendants : List (Node α) → List (Node α)
  | [] => []
  | node :: nodes => node :: (descendants node ++ withDescendants nodes)

end

/-- Below a node lie its children and all that is below them. -/
lemma descendants_eq (node : Node α) : node.descendants = withDescendants node.children := by
  cases node
  rfl

lemma withDescendants_append (nodes others : List (Node α)) :
    withDescendants (nodes ++ others) = withDescendants nodes ++ withDescendants others := by
  induction nodes with
  | nil => rfl
  | cons node nodes ih => simp only [List.cons_append, withDescendants, ih, List.append_assoc]

/-- One step of the walk: a node makes way for its children. -/
lemma withDescendants_cons (node : Node α) (rest : List (Node α)) :
    withDescendants (node :: rest) = node :: withDescendants (node.children ++ rest) := by
  rw [withDescendants, descendants_eq, withDescendants_append]

/-- Every expression statement below a node states an expression. -/
def Complete (root : Node α) : Prop :=
  ∀ node ∈ root.descendants, node.isExpressionStatement = true → node.expression.isSome = true

end Node

/-! ## The first node on a line -/

/-- The first of some nodes that starts on a line. -/
def firstOn (source : Source) (line : Int) (nodes : List (Node α)) : Option (Node α) :=
  nodes.find? fun node => source.lineAt node.start = line

lemma firstOn_cons_self (source : Source) (node : Node α) (nodes : List (Node α)) :
    firstOn source (source.lineAt node.start) (node :: nodes) = some node := by
  simp [firstOn]

lemma firstOn_cons_of_ne {source : Source} {line : Int} {node : Node α}
    (hline : source.lineAt node.start ≠ line) (nodes : List (Node α)) :
    firstOn source line (node :: nodes) = firstOn source line nodes := by
  simp [firstOn, hline]

lemma mem_of_firstOn {source : Source} {line : Int} {nodes : List (Node α)} {node : Node α}
    (hfirst : firstOn source line nodes = some node) : node ∈ nodes :=
  List.mem_of_find?_eq_some hfirst

lemma lineAt_of_firstOn {source : Source} {line : Int} {nodes : List (Node α)} {node : Node α}
    (hfirst : firstOn source line nodes = some node) : source.lineAt node.start = line := by
  have hfound := List.find?_some hfirst
  exact of_decide_eq_true hfound

/-- The place of a line among some nodes: how many of them come before the first one on it. -/
def firstPlace (source : Source) (line : Int) (nodes : List (Node α)) : Nat :=
  nodes.findIdx fun node => source.lineAt node.start = line

lemma firstPlace_cons_self (source : Source) (node : Node α) (nodes : List (Node α)) :
    firstPlace source (source.lineAt node.start) (node :: nodes) = 0 := by
  simp [firstPlace, List.findIdx_cons]

lemma firstPlace_cons_of_ne {source : Source} {line : Int} {node : Node α}
    (hline : source.lineAt node.start ≠ line) (nodes : List (Node α)) :
    firstPlace source line (node :: nodes) = firstPlace source line nodes + 1 := by
  simp [firstPlace, List.findIdx_cons, hline]

/-! ## What the walk pairs -/

lemma Assoc.get?_of_isEmpty {κ ν : Type} [DecidableEq κ] {map : Assoc κ ν}
    (hempty : map.isEmpty = true) (key : κ) : map.get? key = none := by
  have hentries : map.entries = [] := List.isEmpty_iff.1 hempty
  rw [Assoc.get?, hentries, List.lookup_nil]

/-- A pairing is made for each pending line on which a node starts, with the first such node, and
for no other. -/
theorem mem_pairNodes_iff {source : Source} {pending : Assoc Int String} {nodes : List (Node α)}
    {pairing : Pairing α} :
    pairing ∈ (pairNodes source pending nodes).1 ↔
      pending.get? pairing.line = some pairing.expected ∧
        firstOn source pairing.line (Node.withDescendants nodes) = some pairing.node := by
  fun_induction pairNodes source pending nodes with
  | case1 pending => simp [Node.withDescendants, firstOn]
  | case2 pending node rest hempty => simp [Assoc.get?_of_isEmpty hempty]
  | case3 pending node rest _ hnone ih =>
    rw [ih, Node.withDescendants_cons]
    by_cases hline : source.lineAt node.start = pairing.line
    · simp [← hline, hnone]
    · rw [firstOn_cons_of_ne hline]
  | case4 pending node rest _ expected hsome left more ih =>
    rw [List.mem_cons, ih, Node.withDescendants_cons]
    by_cases hline : source.lineAt node.start = pairing.line
    · -- the line is served by this node, and is no longer pending after it
      rw [← hline, firstOn_cons_self, hsome, Assoc.get?_erase, if_pos rfl]
      obtain ⟨line, text, target⟩ := pairing
      simp only at hline
      subst hline
      simp [eq_comm]
    · rw [firstOn_cons_of_ne hline, Assoc.get?_erase, if_neg (Ne.symm hline)]
      apply or_iff_right
      rintro rfl
      exact hline rfl

/-- Pairings come in the order in which their lines are first met among some nodes. -/
def InOrder (source : Source) (nodes : List (Node α)) (pairings : List (Pairing α)) : Prop :=
  pairings.Pairwise fun earlier later =>
    firstPlace source earlier.line nodes < firstPlace source later.line nodes

/-- A node on another line delays all of them alike. -/
lemma InOrder.delayed {source : Source} {nodes : List (Node α)} {pairings : List (Pairing α)}
    (horder : InOrder source nodes pairings) {node : Node α}
    (hother : ∀ pairing ∈ pairings, source.lineAt node.start ≠ pairing.line) :
    InOrder source (node :: nodes) pairings := by
  refine horder.imp_of_mem fun {earlier later} hearlier hlater hbefore => ?_
  rw [firstPlace_cons_of_ne (hother earlier hearlier),
    firstPlace_cons_of_ne (hother later hlater)]
  exact Nat.succ_lt_succ hbefore

/-- No two of them are for one line. -/
lemma InOrder.nodup_lines {source : Source} {nodes : List (Node α)} {pairings : List (Pairing α)}
    (horder : InOrder source nodes pairings) : (pairings.map (·.line)).Nodup := by
  refine List.pairwise_map.2 (horder.imp fun {earlier later} hbefore hsame => ?_)
  rw [hsame] at hbefore
  exact Nat.lt_irrefl _ hbefore

/-- The walk makes its pairings in the order of their nodes. -/
theorem pairNodes_inOrder (source : Source) (pending : Assoc Int String)
    (nodes : List (Node α)) :
    InOrder source (Node.withDescendants nodes) (pairNodes source pending nodes).1 := by
  fun_induction pairNodes source pending nodes with
  | case1 pending => exact .nil
  | case2 pending node rest hempty => exact .nil
  | case3 pending node rest _ hnone ih =>
    rw [Node.withDescendants_cons]
    refine ih.delayed fun pairing hmem hline => ?_
    have hpending := (mem_pairNodes_iff.1 hmem).1
    rw [← hline, hnone] at hpending
    cases hpending
  | case4 pending node rest _ expected hsome left more ih =>
    rw [Node.withDescendants_cons]
    -- the line is no longer pending once it is served
    have hother : ∀ pairing ∈ more.1, source.lineAt node.start ≠ pairing.line := by
      intro pairing hmem hline
      have hpending := (mem_pairNodes_iff.1 hmem).1
      rw [← hline, Assoc.get?_erase, if_pos rfl] at hpending
      cases hpending
    refine .cons (fun later hlater => ?_) (ih.delayed hother)
    rw [firstPlace_cons_self, firstPlace_cons_of_ne (hother later hlater)]
    exact Nat.succ_pos _

/-- No two pairings are made for one line. -/
lemma nodup_lines_pairNodes (source : Source) (pending : Assoc Int String)
    (nodes : List (Node α)) : ((pairNodes source pending nodes).1.map (·.line)).Nodup :=
  (pairNodes_inOrder source pending nodes).nodup_lines

/-- The lines that are still pending after the walk are those on which no node starts. -/
theorem get?_pairNodes (source : Source) (pending : Assoc Int String) (nodes : List (Node α))
    (line : Int) :
    (pairNodes source pending nodes).2.get? line =
      if (firstOn source line (Node.withDescendants nodes)).isSome then none
      else pending.get? line := by
  fun_induction pairNodes source pending nodes with
  | case1 pending => simp [Node.withDescendants, firstOn]
  | case2 pending node rest hempty => simp [Assoc.get?_of_isEmpty hempty]
  | case3 pending node rest _ hnone ih =>
    rw [ih, Node.withDescendants_cons]
    by_cases hline : source.lineAt node.start = line
    · rw [← hline, firstOn_cons_self, hnone]
      simp
    · rw [firstOn_cons_of_ne hline]
  | case4 pending node rest _ expected hsome left more ih =>
    rw [ih, Node.withDescendants_cons, Assoc.get?_erase]
    by_cases hline : source.lineAt node.start = line
    · rw [← hline, firstOn_cons_self, if_pos rfl]
      simp
    · rw [firstOn_cons_of_ne hline, if_neg (Ne.symm hline)]

end TypeTest
