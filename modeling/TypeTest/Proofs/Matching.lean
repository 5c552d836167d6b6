import Mathlib.Data.List.Nodup
import TypeTest.Proofs.Interview
import TypeTest.Proofs.Lines
import TypeTest.Proofs.Logs

/-!
# What becomes of each type assertion

Which node a type assertion is about can be said without any walk: it is the first one that starts
on its line, among all that lies below the root in pre-order.  `Serves` says of a list of pairings
that it has just these, in pre-order, and there is only one such list.

`matchTypes` comes to what this list amounts to (`matchTypes_serves`).  Whoever listens in on the
checker hears two questions for each pairing, for the type of its node and for the text of this
type, in the order of the list and nothing else (`Checker.questioned`).
-/

namespace TypeTest

open TypeTest.Action

variable {σ α τ : Type}

/-! ## Listening in -/

/-- A question that a checker is asked. -/
inductive Question (α τ : Type) where
  | sourceText (file : String)
  | isDeclarationFile (file : String)
  | syntaxTree (file : String)
  | diagnostics (file : String)
  | typeOf (node : Node α)
  | renderType (type : τ) (truncate : Bool)

/-- The checker that writes down what it is asked, whether or not it has an answer. -/
def Checker.questioned (checker : Checker σ α τ) :
    Checker (Logged σ (Question α τ)) α τ where
  sourceText file := noted (fun _ => [.sourceText file]) (checker.sourceText file)
  isDeclarationFile file :=
    noted (fun _ => [.isDeclarationFile file]) (checker.isDeclarationFile file)
  syntaxTree file := noted (fun _ => [.syntaxTree file]) (checker.syntaxTree file)
  diagnostics file := noted (fun _ => [.diagnostics file]) (checker.diagnostics file)
  typeOf node := noted (fun _ => [.typeOf node]) (checker.typeOf node)
  renderType type truncate :=
    noted (fun _ => [.renderType type truncate]) (checker.renderType type truncate)

/-! ## The pairings that are due -/

/-- Pairings of each asserted line on which a node starts with the first such node, in the order of
these nodes. -/
structure Serves (source : Source) (root : Node α) (assertions : Assoc Int String)
    (pairings : List (Pairing α)) : Prop where
  mem_iff : ∀ pairing, pairing ∈ pairings ↔
    assertions.get? pairing.line = some pairing.expected ∧
      firstOn source pairing.line root.descendants = some pairing.node
  inOrder : InOrder source root.descendants pairings

lemma serves_pairNodes (source : Source) (root : Node α) (assertions : Assoc Int String) :
    Serves source root assertions (pairNodes source assertions root.children).1 := by
  constructor
  · intro pairing
    rw [Node.descendants_eq]
    exact mem_pairNodes_iff
  · rw [Node.descendants_eq]
    exact pairNodes_inOrder source assertions root.children

/-- What serves the assertions is determined by them. -/
theorem Serves.unique {source : Source} {root : Node α} {assertions : Assoc Int String}
    {pairings others : List (Pairing α)} (hserves : Serves source root assertions pairings)
    (hothers : Serves source root assertions others) : pairings = others := by
  have hperm : pairings.Perm others := by
    have hnodup : pairings.Nodup := hserves.inOrder.nodup_lines.of_map _
    have hnodup' : others.Nodup := hothers.inOrder.nodup_lines.of_map _
    refine (List.perm_ext_iff_of_nodup hnodup hnodup').2 fun pairing => ?_
    rw [hserves.mem_iff, hothers.mem_iff]
  refine hperm.eq_of_pairwise (fun _ _ _ _ hbefore hafter => ?_) hserves.inOrder hothers.inOrder
  exact absurd hbefore (Nat.lt_asymm hafter)

/-- In ascending order the keys of a map strictly ascend. -/
lemma Assoc.keys_ascending {ν : Type} (map : Assoc Int ν) :
    map.keys.mergeSort.Pairwise (· < ·) :=
  mergeSort_ascending map.distinct

/-- The lines that the walk leaves over are those on which no node starts. -/
lemma mem_unpaired_iff {source : Source} {root : Node α} {assertions : Assoc Int String}
    {line : Int} : line ∈ (pairNodes source assertions root.children).2.keys.mergeSort ↔
      (assertions.get? line).isSome ∧ firstOn source line root.descendants = none := by
  rw [List.mem_mergeSort]
  refine (Assoc.mem_keys_iff_isSome_lookup line _).trans ?_
  show ((pairNodes source assertions root.children).2.get? line).isSome ↔ _
  rw [get?_pairNodes, Node.descendants_eq]
  cases firstOn source line (Node.withDescendants root.children) with
  | none => simp
  | some node => simp

/-! ## Asking about them -/

/-- A checker knows one type for each node, and one text for each type. -/
structure Checker.Types (checker : Checker σ α τ) (typeOf : Node α → τ) (textOf : τ → String) :
    Prop where
  typeOf : ∀ node, Action.Gives (checker.typeOf node) (typeOf node)
  textOf : ∀ type, Action.Gives (checker.renderType type false) (textOf type)

/-- What is asked about a pairing. -/
def Pairing.questions (typeOf : Node α → τ) (pairing : Pairing α) : List (Question α τ) :=
  [.typeOf pairing.node.typed, .renderType (typeOf pairing.node.typed) false]

namespace Checker.Types

variable {checker : Checker σ α τ} {typeOf : Node α → τ} {textOf : τ → String}

/-- Listening in does not change the answers. -/
lemma questioned (htypes : checker.Types typeOf textOf) :
    checker.questioned.Types typeOf textOf where
  typeOf node log := by
    simp only [Checker.questioned, ends_noted, htypes.typeOf node log.world]
  textOf type log := by
    simp only [Checker.questioned, ends_noted, htypes.textOf type log.world]

lemma renderAll_gives (htypes : checker.Types typeOf textOf) :
    ∀ pairings : List (Pairing α), Action.Gives (checker.renderAll pairings)
      (pairings.map fun pairing => (pairing, textOf (typeOf pairing.node.typed)))
  | [], _ => rfl
  | pairing :: pairings, world => by
    rw [renderAll, ends_bind_of_ok (htypes.typeOf _ _), ends_bind_of_ok (htypes.textOf _ _),
      ends_bind_of_ok (htypes.renderAll_gives pairings _)]
    rfl

/-- Each pairing is asked about, one after the other. -/
lemma entries_renderAll (htypes : checker.Types typeOf textOf) :
    ∀ (pairings : List (Pairing α)) (log : Logged σ (Question α τ)),
      (leaves (checker.questioned.renderAll pairings) log).entries =
        log.entries ++ pairings.flatMap (·.questions typeOf)
  | [], log => (List.append_nil _).symm
  | pairing :: pairings, log => by
    have hrest := htypes.questioned.renderAll_gives pairings
    rw [renderAll, leaves_bind_of_ok (htypes.questioned.typeOf _ _),
      leaves_bind_of_ok (htypes.questioned.textOf _ _), leaves_bind_of_ok (hrest _)]
    show (leaves (checker.questioned.renderAll pairings) _).entries = _
    rw [htypes.entries_renderAll pairings, List.flatMap_cons]
    simp only [Checker.questioned, leaves_noted, Pairing.questions, List.append_assoc,
      List.cons_append, List.nil_append]

end Checker.Types

/-- Matching assertions is asking about the pairings of the walk and comparing. -/
lemma matchTypes_eq (checker : Checker σ α τ) {source : Source} {root : Node α}
    {assertions : Assoc Int String}
    (hstated : ∀ pairing ∈ (pairNodes source assertions root.children).1,
      pairing.node.isExpressionStatement = true → pairing.node.expression.isSome = true) :
    matchTypes checker source root assertions =
      (fun rendered =>
        { unmet := rendered.filterMap fun (pairing, text) => pairing.unmet? text
          unpaired := (pairNodes source assertions root.children).2.keys.mergeSort }) <$>
        checker.renderAll (pairNodes source assertions root.children).1 := by
  simp only [matchTypes, checker.checkPairings_eq hstated, map_eq_pure_bind, bind_assoc, pure_bind]

/-- **Each type assertion is accounted for once.**  The nodes that are asked about are the first
ones on the asserted lines, in pre-order; the assertions whose types differ are reported in the
same order, and the asserted lines on which no node starts in ascending order. -/
theorem matchTypes_serves {checker : Checker σ α τ} {typeOf : Node α → τ} {textOf : τ → String}
    (htypes : checker.Types typeOf textOf) {source : Source} {root : Node α}
    {assertions : Assoc Int String}
    (hstated : ∀ line node, (assertions.get? line).isSome →
      firstOn source line root.descendants = some node →
        node.isExpressionStatement = true → node.expression.isSome = true)
    (world : σ) :
    ∃ served result, Serves source root assertions served ∧
      ends (matchTypes checker source root assertions) world = .ok result ∧
      ends (matchTypes checker.questioned source root assertions) { world } = .ok result ∧
      (leaves (matchTypes checker.questioned source root assertions) { world }).entries =
        served.flatMap (·.questions typeOf) ∧
      result.unmet =
        served.filterMap (fun pairing => pairing.unmet? (textOf (typeOf pairing.node.typed))) ∧
      result.unpaired.Pairwise (· < ·) ∧
      ∀ line, line ∈ result.unpaired ↔
        (assertions.get? line).isSome ∧ firstOn source line root.descendants = none := by
  have hserves := serves_pairNodes source root assertions
  have hcomplete : ∀ pairing ∈ (pairNodes source assertions root.children).1,
      pairing.node.isExpressionStatement = true → pairing.node.expression.isSome = true := by
    intro pairing hmem
    obtain ⟨hasserted, hfirst⟩ := (hserves.mem_iff pairing).1 hmem
    exact hstated pairing.line pairing.node (hasserted ▸ rfl) hfirst
  let served := (pairNodes source assertions root.children).1
  let result : TypeMatch α :=
    { unmet :=
        served.filterMap fun pairing => pairing.unmet? (textOf (typeOf pairing.node.typed))
      unpaired := (pairNodes source assertions root.children).2.keys.mergeSort }
  refine ⟨served, result, hserves, ?_, ?_, ?_, rfl, Assoc.keys_ascending _,
    fun line => mem_unpaired_iff⟩
  · rw [matchTypes_eq checker hcomplete, ends_map, htypes.renderAll_gives]
    simp only [Except.map, List.filterMap_map]
    rfl
  · rw [matchTypes_eq _ hcomplete, ends_map, htypes.questioned.renderAll_gives]
    simp only [Except.map, List.filterMap_map]
    rfl
  · rw [matchTypes_eq _ hcomplete, leaves_map, htypes.entries_renderAll]
    rfl

/-- The name that the first line of a file states.  A node comes with its type. -/
def statedName : Node String := .mk "Identifier" 0 1 "S" [] none

/-- The block on the third line, with a name in it. -/
def statedBlock : Node String := .mk "Block" 3 8 "T" [.mk "Identifier" 5 6 "S" [] none] none

/-- The statement that consists of the name. -/
def statedStatement : Node String :=
  .mk "ExpressionStatement" 0 1 "" [statedName] (some statedName)

/-- The statement of the name, and the block. -/
def statedTree : Node String := .mk "SourceFile" 0 8 "" [statedStatement, statedBlock] none

/-- The file with this tree. -/
def statedSource : Source := .ofString "f\n\n{ x }"

/-- What is asserted in it: one type as it is, one that is another, and one for a line that is not
there. -/
def statedAssertions : Assoc Int String := { entries := [(2, "T"), (0, "T"), (4, "U")] }

/-- A checker that finds the types of the nodes with them, and has no other answers. -/
def noteChecker : Checker Unit String String :=
  { (Checker.unusable : Checker Unit String String) with
    typeOf := fun node => pure node.info
    renderType := fun type _ => pure type }

/-- The first assertion in pre-order is not met, the second one is, the third one is left over. -/
theorem matchTypes_serves_stated :
    noteChecker.Types (·.info) id ∧
      (∀ line node, (statedAssertions.get? line).isSome →
        firstOn statedSource line statedTree.descendants = some node →
          node.isExpressionStatement = true → node.expression.isSome = true) ∧
      ∃ result, result.unmet = [⟨statedName, "T", "S"⟩] ∧ 4 ∈ result.unpaired ∧
        ends (matchTypes noteChecker statedSource statedTree statedAssertions) () = .ok result ∧
        (leaves (matchTypes noteChecker.questioned statedSource statedTree statedAssertions)
          { world := () }).entries =
            [.typeOf statedName, .renderType "S" false,
              .typeOf statedBlock, .renderType "T" false] := by
  have htypes : noteChecker.Types (·.info) id := ⟨fun _ _ => rfl, fun _ _ => rfl⟩
  have hstated : ∀ node ∈ statedTree.descendants,
      node.isExpressionStatement = true → node.expression.isSome = true := by
    have hnodes : statedTree.descendants =
        [statedStatement, statedName, statedBlock, .mk "Identifier" 5 6 "S" [] none] := rfl
    rw [hnodes]
    decide
  have hcomplete : ∀ line node, (statedAssertions.get? line).isSome →
      firstOn statedSource line statedTree.descendants = some node →
        node.isExpressionStatement = true → node.expression.isSome = true :=
    fun _ node _ hfirst => hstated node (mem_of_firstOn hfirst)
  obtain ⟨served, result, hserves, hends, -, hentries, hunmet, -, hunpaired⟩ :=
    matchTypes_serves htypes hcomplete ()
  have hserved : served = [⟨0, "T", statedStatement⟩, ⟨2, "T", statedBlock⟩] := by
    have hfirst : statedSource.lineAt 0 = 0 := by decide +kernel
    have hthird : statedSource.lineAt 3 = 2 ∧ statedSource.lineAt 5 = 2 := by decide +kernel
    rw [hserves.unique (serves_pairNodes ..)]
    simp [pairNodes, statedTree, statedStatement, statedName, statedBlock, Node.children,
      Node.start, hfirst, hthird, statedAssertions, Assoc.isEmpty, Assoc.get?, Assoc.erase,
      Assoc.lookup_cons_eq_if]
  rw [hserved] at hentries hunmet
  have hfirst : (⟨0, "T", statedStatement⟩ : Pairing String).unmet? "S" =
      some ⟨statedName, "T", "S"⟩ := by
    have hexpected : TypeText.normalize "T" = "T" := by decide +kernel
    have hactual : TypeText.normalize "S" = "S" := by decide +kernel
    rw [Pairing.unmet?, hexpected, hactual, if_neg (by decide)]
    rfl
  have hsecond : (⟨2, "T", statedBlock⟩ : Pairing String).unmet? "T" = none := if_pos rfl
  have hunmet' : result.unmet = [⟨statedName, "T", "S"⟩] := by
    refine hunmet.trans ?_
    show [(⟨0, "T", statedStatement⟩ : Pairing String).unmet? "S",
      (⟨2, "T", statedBlock⟩ : Pairing String).unmet? "T"].filterMap id = _
    rw [hfirst, hsecond]
    rfl
  have hnone : firstOn statedSource 4 statedTree.descendants = none :=
    Option.isNone_iff_eq_none.1 (by decide +kernel)
  exact ⟨htypes, hcomplete, result, hunmet', (hunpaired 4).2 ⟨rfl, hnone⟩, hends, hentries⟩

end TypeTest
