import TypeTest.Proofs.Action
import TypeTest.Verification

/-!
# Examining a file, before anything is reported

Verifying a file asks a checker several questions and words what it finds as failures.  The two
are taken apart here.  An `Examination` holds what was found and nothing that depends on the
version that the run is for; `Checker.examine` asks the questions, and
`Examination.failures` does the wording.

* `verify_eq_examine`: verifying is examining, and then wording;
* `failures_eq_nil_iff`: whether there is a failure does not depend on the wording;
* `stamp_of_mem_failures`: every failure carries the version, and the version above it, that the
  wording was done for.

An examination is composed of the checker's answers, and of one fault besides: an expression
statement may be without its expression.  So whatever sequences inherit, an examination inherits
from the answers (`Related.examine`).  Here this is used three times.  The examination by a
dependable checker ends the same way when it is repeated (`Dependable.examine_steady`); nothing but
an expression statement without its expression can stop it (`Dependable.examine_faultsOnly`); and
two checkers that answer alike find the same in a file (`Alike.examine`).
-/

namespace TypeTest

open TypeTest.Action

variable {σ ρ α τ : Type}

/-- What is found in a file: its text, and all that is wrong with it. -/
structure Examination (α : Type) where
  source : Source
  duplicates : List Duplicate := []
  unexpected : List Diagnostic := []
  missing : List Int := []
  unmet : List (Unmet α) := []
  unpaired : List Int := []

namespace Examination

/-- The failures that report what was found, in the order in which they are reported. -/
def failures (found : Examination α) (file : String) (stamp : Stamp) : List Failure :=
  let subject : Subject := { file, source := found.source, stamp }
  found.duplicates.map subject.duplicate ++
    found.unexpected.map subject.unexpected ++
    found.missing.map subject.missingError ++
    found.unmet.map subject.mismatch ++
    found.unpaired.map subject.unmatched

/-- Nothing is wrong. -/
structure Clean (found : Examination α) : Prop where
  duplicates : found.duplicates = []
  unexpected : found.unexpected = []
  missing : found.missing = []
  unmet : found.unmet = []
  unpaired : found.unpaired = []

/-- There is nothing to report exactly when nothing is wrong, whatever the report would say. -/
theorem failures_eq_nil_iff (found : Examination α) (file : String) (stamp : Stamp) :
    found.failures file stamp = [] ↔ found.Clean := by
  constructor
  · intro hnil
    simp only [failures, List.append_eq_nil_iff, List.map_eq_nil_iff] at hnil
    obtain ⟨⟨⟨⟨hduplicates, hunexpected⟩, hmissing⟩, hunmet⟩, hunpaired⟩ := hnil
    exact ⟨hduplicates, hunexpected, hmissing, hunmet, hunpaired⟩
  · intro hclean
    simp [failures, hclean.duplicates, hclean.unexpected, hclean.missing, hclean.unmet,
      hclean.unpaired]

lemma isEmpty_failures {found : Examination α} (hclean : found.Clean) (file : String)
    (stamp : Stamp) : (found.failures file stamp).isEmpty = true := by
  rw [List.isEmpty_iff, failures_eq_nil_iff]
  exact hclean

lemma isEmpty_failures_eq_false {found : Examination α} (hfails : ¬ found.Clean) (file : String)
    (stamp : Stamp) : (found.failures file stamp).isEmpty = false := by
  rw [List.isEmpty_eq_false_iff, ne_eq, failures_eq_nil_iff]
  exact hfails

end Examination

/-! ## The stamp of a failure -/

namespace Subject

/-- A failure is stamped for the version of its subject. -/
def Stamps (subject : Subject) (failure : Failure) : Prop :=
  failure.version = some subject.stamp.version ∧ failure.above = subject.stamp.above

lemma stamps_failureAt (subject : Subject) (start length : Int) (message : CodeText)
    (kind : Failure.Kind) : subject.Stamps (subject.failureAt start length message kind) :=
  ⟨rfl, rfl⟩

lemma stamps_unexpected (subject : Subject) (diagnostic : Diagnostic) :
    subject.Stamps (subject.unexpected diagnostic) := by
  unfold unexpected
  cases diagnostic.start with
  | none => exact subject.stamps_failureAt ..
  | some start =>
    dsimp only
    split
    · exact subject.stamps_failureAt ..
    · exact subject.stamps_failureAt ..

end Subject

/-- Every failure carries the version that it was reported for, and the version above it. -/
theorem Examination.stamp_of_mem_failures {found : Examination α} {file : String}
    {stamp : Stamp} {failure : Failure} (hmem : failure ∈ found.failures file stamp) :
    failure.version = some stamp.version ∧ failure.above = stamp.above := by
  have hline : ∀ (subject : Subject) line message kind,
      subject.Stamps (subject.failureOnLine line message kind) :=
    fun subject _ _ _ => subject.stamps_failureAt ..
  simp only [failures, List.mem_append, List.mem_map] at hmem
  rcases hmem with
    (((⟨_, -, rfl⟩ | ⟨diagnostic, -, rfl⟩) | ⟨_, -, rfl⟩) | ⟨_, -, rfl⟩) | ⟨_, -, rfl⟩
  · exact hline ..
  · exact Subject.stamps_unexpected _ diagnostic
  · exact hline ..
  · exact Subject.stamps_failureAt ..
  · exact hline ..

/-! ## Asking, then wording -/

namespace Checker

/-- What is found in a file whose directives are looked at. -/
def examineDirectives (checker : Checker σ α τ) (file : String) (source : Source)
    (diagnostics : List Diagnostic) : Action σ (Examination α) := do
  let table := DirectiveTable.ofSource source
  let errors := ErrorMatch.ofDiagnostics diagnostics table.errorLines
    (table.flaggedLines .expectError) source file
  let root ← checker.syntaxTree file
  let types ← matchTypes checker source root table.typeAssertions
  return {
    source
    duplicates := table.duplicates
    unexpected := errors.unexpected
    missing := errors.missing
    unmet := types.unmet
    unpaired := types.unpaired }

/-- What is found in a file.  One that only declares, or in which no directive is mentioned, is
not scanned. -/
def examine (checker : Checker σ α τ) (file : String) : Action σ (Examination α) := do
  let text ← checker.sourceText file
  let source := Source.ofString text
  let diagnostics ← checker.diagnostics file
  let declares ← checker.isDeclarationFile file
  if declares || !Directive.mentionedIn source.chars then
    return { source, unexpected := diagnostics }
  else
    checker.examineDirectives file source diagnostics

lemma verifyDirectives_eq_examineDirectives (checker : Checker σ α τ) (subject : Subject)
    (diagnostics : List Diagnostic) :
    checker.verifyDirectives subject diagnostics =
      (·.failures subject.file subject.stamp) <$>
        checker.examineDirectives subject.file subject.source diagnostics := by
  simp only [verifyDirectives, examineDirectives, map_bind, map_pure]
  rfl

/-- The questions that verifying asks are those of the examination; the stamp only words what
comes of them. -/
theorem verify_eq_examine (checker : Checker σ α τ) (file : String) (stamp : Stamp) :
    checker.verify file stamp = (·.failures file stamp) <$> checker.examine file := by
  simp only [verify, examine, map_bind]
  congr 1
  funext text
  congr 1
  funext diagnostics
  congr 1
  funext declares
  split
  · rw [map_pure]
    simp [Examination.failures]
  · exact verifyDirectives_eq_examineDirectives checker _ diagnostics

end Checker

/-! ## What an examination inherits from the answers -/

lemma Pairing.eq_noExpression_of_target {pairing : Pairing α} {fault : Fault}
    (htarget : pairing.target = .error fault) : fault = .noExpression := by
  unfold Pairing.target at htarget
  split at htarget
  · split at htarget
    · cases htarget
    · exact (Except.error.inj htarget).symm
  · cases htarget

namespace Checker

/-- The answers of two checkers stand in a relation, question by question. -/
structure Related (R : ∀ β : Type, Action σ β → Action ρ β → Prop) (checker : Checker σ α τ)
    (other : Checker ρ α τ) : Prop where
  sourceText : ∀ file, R _ (checker.sourceText file) (other.sourceText file)
  isDeclarationFile : ∀ file, R _ (checker.isDeclarationFile file) (other.isDeclarationFile file)
  syntaxTree : ∀ file, R _ (checker.syntaxTree file) (other.syntaxTree file)
  diagnostics : ∀ file, R _ (checker.diagnostics file) (other.diagnostics file)
  typeOf : ∀ node, R _ (checker.typeOf node) (other.typeOf node)
  renderType : ∀ type truncate,
    R _ (checker.renderType type truncate) (other.renderType type truncate)

section Related

variable {R : ∀ β : Type, Action σ β → Action ρ β → Prop} {checker : Checker σ α τ}
  {other : Checker ρ α τ}

lemma Related.check (hrelated : checker.Related R other) (hR : Compositional R)
    (hthrow : ∀ β, R β (throw .noExpression) (throw .noExpression)) (pairing : Pairing α) :
    R _ (pairing.check checker) (pairing.check other) := by
  refine hR.bind ?_ fun target => ?_
  · cases htarget : pairing.target with
    | ok target => exact hR.pure target
    | error fault =>
      obtain rfl := Pairing.eq_noExpression_of_target htarget
      exact hthrow _
  · refine hR.bind (hrelated.typeOf target) fun type => ?_
    refine hR.bind (hrelated.renderType type false) fun rendered => ?_
    dsimp only
    split
    · exact hR.pure _
    · exact hR.pure _

lemma Related.checkPairings (hrelated : checker.Related R other) (hR : Compositional R)
    (hthrow : ∀ β, R β (throw .noExpression) (throw .noExpression)) :
    ∀ pairings : List (Pairing α),
      R _ (TypeTest.checkPairings checker pairings) (TypeTest.checkPairings other pairings)
  | [] => hR.pure _
  | pairing :: pairings =>
    hR.bind (hrelated.check hR hthrow pairing) fun _ =>
      hR.bind (hrelated.checkPairings hR hthrow pairings) fun _ => hR.pure _

/-- A relation that sequences inherit, and in which the fault of a missing expression stands to
itself, is inherited by the examination from the answers. -/
theorem Related.examine (hrelated : checker.Related R other) (hR : Compositional R)
    (hthrow : ∀ β, R β (throw .noExpression) (throw .noExpression)) (file : String) :
    R _ (checker.examine file) (other.examine file) := by
  refine hR.bind (hrelated.sourceText file) fun text => ?_
  refine hR.bind (hrelated.diagnostics file) fun diagnostics => ?_
  refine hR.bind (hrelated.isDeclarationFile file) fun declares => ?_
  split
  · exact hR.pure _
  · refine hR.bind (hrelated.syntaxTree file) fun root => ?_
    refine hR.bind ?_ fun types => hR.pure _
    exact hR.bind (hrelated.checkPairings hR hthrow _) fun _ => hR.pure _

end Related

/-! ## Checkers that answer dependably -/

/-- A checker that answers every question, and answers it the same way when it is asked again. -/
structure Dependable (course : Course σ) (checker : Checker σ α τ) : Prop where
  sourceText : ∀ file, Action.Dependable course (checker.sourceText file)
  isDeclarationFile : ∀ file, Action.Dependable course (checker.isDeclarationFile file)
  syntaxTree : ∀ file, Action.Dependable course (checker.syntaxTree file)
  diagnostics : ∀ file, Action.Dependable course (checker.diagnostics file)
  typeOf : ∀ node, Action.Dependable course (checker.typeOf node)
  renderType : ∀ type truncate, Action.Dependable course (checker.renderType type truncate)

variable {course : Course σ} {checker : Checker σ α τ}

/-- What dependable steps have, each for itself, the answers of a dependable checker have. -/
lemma Dependable.related (hchecker : checker.Dependable course)
    {R : ∀ β : Type, Action σ β → Action σ β → Prop}
    (hR : ∀ {β : Type} {step : Action σ β}, Action.Dependable course step → R β step step) :
    checker.Related R checker where
  sourceText file := hR (hchecker.sourceText file)
  isDeclarationFile file := hR (hchecker.isDeclarationFile file)
  syntaxTree file := hR (hchecker.syntaxTree file)
  diagnostics file := hR (hchecker.diagnostics file)
  typeOf node := hR (hchecker.typeOf node)
  renderType type truncate := hR (hchecker.renderType type truncate)

/-- An examination by a dependable checker moves the world forward, and repeated it ends the same
way. -/
theorem Dependable.examine_steady (hchecker : checker.Dependable course) (file : String) :
    Steady course (checker.examine file) := by
  have hrelated : checker.Related (fun _ step _ => Steady course step) checker :=
    hchecker.related fun hstep => hstep.toSteady
  exact hrelated.examine (Steady.compositional course) (fun _ => .throw _) file

/-- Nothing but an expression statement without its expression stops the examination by a
dependable checker. -/
theorem Dependable.examine_faultsOnly (hchecker : checker.Dependable course) (file : String) :
    FaultsOnly (· = .noExpression) (checker.examine file) := by
  have hrelated : checker.Related (fun _ step _ => FaultsOnly (· = .noExpression) step) checker :=
    hchecker.related fun hstep => hstep.faultsOnly
  exact hrelated.examine (FaultsOnly.compositional _) (fun _ => .throw rfl) file

/-! ## Checkers that answer alike -/

/-- Two checkers answer every question alike, whatever state the world of each is in. -/
def Alike (checker : Checker σ α τ) (other : Checker ρ α τ) : Prop :=
  checker.Related (fun _ step step' => Action.Alike step step') other

lemma Alike.symm {other : Checker ρ α τ} (halike : checker.Alike other) : other.Alike checker where
  sourceText file := (halike.sourceText file).symm
  isDeclarationFile file := (halike.isDeclarationFile file).symm
  syntaxTree file := (halike.syntaxTree file).symm
  diagnostics file := (halike.diagnostics file).symm
  typeOf node := (halike.typeOf node).symm
  renderType type truncate := (halike.renderType type truncate).symm

lemma Alike.trans {middle : Checker σ α τ} {other : Checker ρ α τ} (hfirst : checker.Alike middle)
    (hsecond : middle.Alike other) : checker.Alike other where
  sourceText file := (hfirst.sourceText file).trans (hsecond.sourceText file)
  isDeclarationFile file := (hfirst.isDeclarationFile file).trans (hsecond.isDeclarationFile file)
  syntaxTree file := (hfirst.syntaxTree file).trans (hsecond.syntaxTree file)
  diagnostics file := (hfirst.diagnostics file).trans (hsecond.diagnostics file)
  typeOf node := (hfirst.typeOf node).trans (hsecond.typeOf node)
  renderType type truncate :=
    (hfirst.renderType type truncate).trans (hsecond.renderType type truncate)

/-- What stands in for a checker meets every question alike. -/
lemma unusable_alike : (unusable : Checker σ α τ).Alike (unusable : Checker ρ α τ) where
  sourceText _ := .throw _
  isDeclarationFile _ := .throw _
  syntaxTree _ := .throw _
  diagnostics _ := .throw _
  typeOf _ := .throw _
  renderType _ _ := .throw _

/-- Checkers that answer alike find the same in a file, or meet the same fault. -/
theorem Alike.examine {other : Checker ρ α τ} (halike : checker.Alike other) (file : String) :
    Action.Alike (checker.examine file) (other.examine file) :=
  Related.examine halike Action.Alike.compositional (fun _ => .throw _) file

/-- Verifying a file by checkers that answer alike ends alike. -/
theorem Alike.verify {other : Checker ρ α τ} (halike : checker.Alike other) (file : String)
    (stamp : Stamp) : Action.Alike (checker.verify file stamp) (other.verify file stamp) := by
  intro world world'
  rw [verify_eq_examine, verify_eq_examine, ends_map, ends_map, halike.examine file world world']

end Checker

end TypeTest
