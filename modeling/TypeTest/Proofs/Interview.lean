import TypeTest.Proofs.Examination
import TypeTest.Proofs.NodeWalk

/-!
# What a checker says about a file

A checker may answer a question as it likes, and need not answer it the same way twice.  So what it
says about a file is not a function of the file but belongs to one run.  `Checker.interview` asks,
in the order of a verification, all that a verification asks, and an `Interview` holds the answers.

All that comes after the answers is a plain function of them.  `Interview.examination` is what
they amount to, and `examine_of_interview` says that this is what examining the file finds in the
same world, as long as the expression statements of the tree state their expressions.
-/

namespace TypeTest

open TypeTest.Action

variable {σ α τ : Type}

/-- The node whose type is compared: of a statement that consists of an expression, the
expression, if it has one. -/
def Node.typed (node : Node α) : Node α :=
  if node.isExpressionStatement then node.expression.getD node else node

/-- The answers of a checker to all that is asked about a file: its text, the problems with it,
whether it only declares, the root of its tree, and for each paired node the text of its type. -/
structure Interview (α : Type) where
  text : String
  diagnostics : List Diagnostic
  declares : Bool
  root : Node α
  rendered : List (Pairing α × String)

/-! ## Asking -/

namespace Checker

/-- A checker that answers every question. -/
structure Total (checker : Checker σ α τ) : Prop where
  sourceText : ∀ file, Returns (checker.sourceText file)
  isDeclarationFile : ∀ file, Returns (checker.isDeclarationFile file)
  syntaxTree : ∀ file, Returns (checker.syntaxTree file)
  diagnostics : ∀ file, Returns (checker.diagnostics file)
  typeOf : ∀ node, Returns (checker.typeOf node)
  renderType : ∀ type truncate, Returns (checker.renderType type truncate)

/-- Asks for the types of paired nodes, one after the other, and for the text of each type. -/
def renderAll (checker : Checker σ α τ) :
    List (Pairing α) → Action σ (List (Pairing α × String))
  | [] => return []
  | pairing :: pairings => do
    let type ← checker.typeOf pairing.node.typed
    let text ← checker.renderType type false
    let more ← renderAll checker pairings
    return (pairing, text) :: more

/-- Asks all that a verification of a file asks.  A verification stops early if there is nothing to
be scanned. -/
def interview (checker : Checker σ α τ) (file : String) : Action σ (Interview α) := do
  let text ← checker.sourceText file
  let diagnostics ← checker.diagnostics file
  let declares ← checker.isDeclarationFile file
  let root ← checker.syntaxTree file
  let source := Source.ofString text
  let table := DirectiveTable.ofSource source
  let rendered ← checker.renderAll (pairNodes source table.typeAssertions root.children).1
  return { text, diagnostics, declares, root, rendered }

variable {checker : Checker σ α τ}

lemma Total.renderAll (htotal : checker.Total) :
    ∀ pairings : List (Pairing α), Returns (checker.renderAll pairings)
  | [] => .pure _
  | _ :: pairings =>
    (htotal.typeOf _).bind fun type => (htotal.renderType type false).bind fun _ =>
      (htotal.renderAll pairings).bind fun _ => .pure _

/-- A checker that answers every question can be interviewed. -/
lemma Total.interview (htotal : checker.Total) (file : String) :
    Returns (checker.interview file) := by
  refine (htotal.sourceText file).bind fun text => ?_
  refine (htotal.diagnostics file).bind fun diagnostics => ?_
  refine (htotal.isDeclarationFile file).bind fun declares => ?_
  refine (htotal.syntaxTree file).bind fun root => ?_
  exact (htotal.renderAll _).bind fun rendered => .pure _

/-- Nothing but an expression statement without its expression stops the examination by a checker
that answers every question. -/
theorem Total.examine_faultsOnly (htotal : checker.Total) (file : String) :
    FaultsOnly (· = .noExpression) (checker.examine file) := by
  have hrelated : checker.Related (fun _ step _ => FaultsOnly (· = .noExpression) step) checker :=
    { sourceText := fun file => (htotal.sourceText file).faultsOnly
      isDeclarationFile := fun file => (htotal.isDeclarationFile file).faultsOnly
      syntaxTree := fun file => (htotal.syntaxTree file).faultsOnly
      diagnostics := fun file => (htotal.diagnostics file).faultsOnly
      typeOf := fun node => (htotal.typeOf node).faultsOnly
      renderType := fun type truncate => (htotal.renderType type truncate).faultsOnly }
  exact hrelated.examine (FaultsOnly.compositional _) (fun _ => .throw rfl) file

end Checker

/-! ## What the answers amount to -/

/-- What becomes of a pairing when the type of its node is rendered: nothing if it has the normal
form of the expected one. -/
def Pairing.unmet? (pairing : Pairing α) (text : String) : Option (Unmet α) :=
  if TypeText.normalize pairing.expected = TypeText.normalize text then none
  else some ⟨pairing.node.typed, pairing.expected, TypeText.normalize text⟩

namespace Interview

/-- The text of the file, with its lines. -/
def source (said : Interview α) : Source := .ofString said.text

/-- The directives of the file. -/
def table (said : Interview α) : DirectiveTable := .ofSource said.source

/-- What the walk over the tree pairs, and which assertions it leaves over. -/
def walk (said : Interview α) : List (Pairing α) × Assoc Int String :=
  pairNodes said.source said.table.typeAssertions said.root.children

/-- What is found in a file whose directives are looked at. -/
def scanned (said : Interview α) (file : String) : Examination α :=
  let errors := ErrorMatch.ofDiagnostics said.diagnostics said.table.errorLines
    (said.table.flaggedLines .expectError) said.source file
  { source := said.source
    duplicates := said.table.duplicates
    unexpected := errors.unexpected
    missing := errors.missing
    unmet := said.rendered.filterMap fun (pairing, text) => pairing.unmet? text
    unpaired := said.walk.2.keys.mergeSort }

/-- What is found in a file. -/
def examination (said : Interview α) (file : String) : Examination α :=
  if said.declares || !Directive.mentionedIn said.source.chars then
    { source := said.source, unexpected := said.diagnostics }
  else said.scanned file

end Interview

/-! ## Examining a file is judging the answers -/

lemma Pairing.target_eq_typed {pairing : Pairing α}
    (hcomplete : pairing.node.isExpressionStatement = true →
      pairing.node.expression.isSome = true) : pairing.target = .ok pairing.node.typed := by
  unfold Pairing.target Node.typed
  split
  · rename_i hstatement
    obtain ⟨expression, hexpression⟩ := Option.isSome_iff_exists.1 (hcomplete hstatement)
    rw [hexpression, Option.getD_some]
  · rfl

namespace Checker

variable {checker : Checker σ α τ}

lemma check_eq (checker : Checker σ α τ) {pairing : Pairing α}
    (hcomplete : pairing.node.isExpressionStatement = true →
      pairing.node.expression.isSome = true) :
    pairing.check checker = (do
      let type ← checker.typeOf pairing.node.typed
      let text ← checker.renderType type false
      return pairing.unmet? text) := by
  have htarget : (MonadExcept.ofExcept pairing.target : Action σ (Node α)) =
      pure pairing.node.typed := by
    rw [Pairing.target_eq_typed hcomplete]
    rfl
  unfold Pairing.check
  rw [htarget, pure_bind]
  congr 1
  funext type
  congr 1
  funext text
  by_cases hsame : TypeText.normalize pairing.expected = TypeText.normalize text
  · simp [Pairing.unmet?, hsame]
  · simp [Pairing.unmet?, hsame]

/-- Checking pairings is asking for the types and comparing them. -/
lemma checkPairings_eq (checker : Checker σ α τ) :
    ∀ {pairings : List (Pairing α)},
      (∀ pairing ∈ pairings, pairing.node.isExpressionStatement = true →
        pairing.node.expression.isSome = true) →
      checkPairings checker pairings =
        (fun rendered => rendered.filterMap fun (pairing, text) => pairing.unmet? text) <$>
          checker.renderAll pairings
  | [], _ => by simp [checkPairings, renderAll]
  | pairing :: pairings, hcomplete => by
    have hrest := checker.checkPairings_eq fun other hmem =>
      hcomplete other (List.mem_cons_of_mem pairing hmem)
    rw [checkPairings, renderAll, check_eq checker (hcomplete pairing List.mem_cons_self), hrest]
    simp only [bind_assoc, pure_bind, map_bind, map_pure, bind_map_left]
    congr 1
    funext type
    congr 1
    funext text
    congr 1
    funext more
    rw [List.filterMap_cons]
    cases pairing.unmet? text with
    | none => rfl
    | some unmet => rfl

/-- The interview asked for the types of the nodes that the walk has paired. -/
lemma renderAll_pairings : ∀ {pairings : List (Pairing α)} {world : σ}
    {rendered : List (Pairing α × String)},
    ends (checker.renderAll pairings) world = .ok rendered → rendered.map (·.1) = pairings
  | [], _, _, hends => by
    obtain rfl := Except.ok.inj hends
    rfl
  | pairing :: pairings, _, _, hends => by
    obtain ⟨type, -, hends⟩ := ends_bind_eq_ok_iff.1 hends
    obtain ⟨text, -, hends⟩ := ends_bind_eq_ok_iff.1 hends
    obtain ⟨more, hmore, hends⟩ := ends_bind_eq_ok_iff.1 hends
    obtain rfl := Except.ok.inj hends
    rw [List.map_cons, renderAll_pairings hmore]

lemma walk_of_interview {file : String} {world : σ} {said : Interview α}
    (hends : ends (checker.interview file) world = .ok said) :
    said.rendered.map (·.1) = said.walk.1 := by
  obtain ⟨text, -, hends⟩ := ends_bind_eq_ok_iff.1 hends
  obtain ⟨diagnostics, -, hends⟩ := ends_bind_eq_ok_iff.1 hends
  obtain ⟨declares, -, hends⟩ := ends_bind_eq_ok_iff.1 hends
  obtain ⟨root, -, hends⟩ := ends_bind_eq_ok_iff.1 hends
  obtain ⟨rendered, hrendered, hends⟩ := ends_bind_eq_ok_iff.1 hends
  obtain rfl := Except.ok.inj hends
  exact renderAll_pairings hrendered

/-- A pairing is made only with a node below the root. -/
lemma paired_complete {source : Source} {pending : Assoc Int String} {root : Node α}
    (hcomplete : root.Complete) :
    ∀ pairing ∈ (pairNodes source pending root.children).1,
      pairing.node.isExpressionStatement = true → pairing.node.expression.isSome = true := by
  intro pairing hmem
  have hbelow := mem_of_firstOn (mem_pairNodes_iff.1 hmem).2
  rw [← Node.descendants_eq] at hbelow
  exact hcomplete pairing.node hbelow

/-- What is found in a file is what the answers amount to that the checker gives in the same
world. -/
theorem examine_of_interview {file : String} {world : σ} {said : Interview α}
    (hends : ends (checker.interview file) world = .ok said) (hcomplete : said.root.Complete) :
    ends (checker.examine file) world = .ok (said.examination file) := by
  obtain ⟨text, htext, hends⟩ := ends_bind_eq_ok_iff.1 hends
  obtain ⟨diagnostics, hdiagnostics, hends⟩ := ends_bind_eq_ok_iff.1 hends
  obtain ⟨declares, hdeclares, hends⟩ := ends_bind_eq_ok_iff.1 hends
  obtain ⟨root, hroot, hends⟩ := ends_bind_eq_ok_iff.1 hends
  obtain ⟨rendered, hrendered, hends⟩ := ends_bind_eq_ok_iff.1 hends
  obtain rfl := Except.ok.inj hends
  rw [examine, ends_bind_of_ok htext, ends_bind_of_ok hdiagnostics, ends_bind_of_ok hdeclares,
    Interview.examination]
  show ends (if (declares || !Directive.mentionedIn (Source.ofString text).chars) = true then _
    else _) _ = .ok (if (declares || !Directive.mentionedIn (Source.ofString text).chars) = true
    then _ else _)
  split
  · rfl
  · rw [examineDirectives, ends_bind_of_ok hroot, matchTypes]
    simp only [bind_assoc, pure_bind, checkPairings_eq checker (paired_complete hcomplete),
      bind_map_left]
    rw [ends_bind_of_ok hrendered]
    rfl

end Checker

end TypeTest
