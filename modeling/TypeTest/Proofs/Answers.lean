import TypeTest.Proofs.Interview

/-!
# Checkers whose answers depend on the question alone

`Answers` are what a checker has to say, as plain functions of the questions.  A checker *gives*
them when every question is answered accordingly, whatever state its world is in.

`Answers.verify` is what verifying a file comes to under these answers: the failures of the file,
or a fault.  It is defined by asking a checker that has no world at all, and every other checker
that gives the same answers ends in the same way (`Gives.verify`).  A tree whose expression
statements all state their expressions gives no cause for a fault (`exists_verify_of_complete`).

A file that passes, or fails, does so under every stamp (`verify_eq_nil_iff`, `Fails.verify`).
-/

namespace TypeTest

open TypeTest.Action

variable {σ α τ : Type}

/-- The answers to all questions that a checker may be asked. -/
structure Answers (α τ : Type) where
  sourceText : String → String
  isDeclarationFile : String → Bool
  syntaxTree : String → Node α
  diagnostics : String → List Diagnostic
  typeOf : Node α → τ
  renderType : (type : τ) → (truncate : Bool) → String

/-- The checker that gives some answers and does nothing else. -/
def Answers.checker (answers : Answers α τ) : Checker σ α τ where
  sourceText file := pure (answers.sourceText file)
  isDeclarationFile file := pure (answers.isDeclarationFile file)
  syntaxTree file := pure (answers.syntaxTree file)
  diagnostics file := pure (answers.diagnostics file)
  typeOf node := pure (answers.typeOf node)
  renderType type truncate := pure (answers.renderType type truncate)

/-- A checker gives the same answers in every world. -/
structure Checker.Gives (checker : Checker σ α τ) (answers : Answers α τ) : Prop where
  sourceText : ∀ file, Action.Gives (checker.sourceText file) (answers.sourceText file)
  isDeclarationFile : ∀ file,
    Action.Gives (checker.isDeclarationFile file) (answers.isDeclarationFile file)
  syntaxTree : ∀ file, Action.Gives (checker.syntaxTree file) (answers.syntaxTree file)
  diagnostics : ∀ file, Action.Gives (checker.diagnostics file) (answers.diagnostics file)
  typeOf : ∀ node, Action.Gives (checker.typeOf node) (answers.typeOf node)
  renderType : ∀ type truncate,
    Action.Gives (checker.renderType type truncate) (answers.renderType type truncate)

lemma Answers.checker_gives (answers : Answers α τ) :
    (answers.checker : Checker σ α τ).Gives answers where
  sourceText _ := .pure _
  isDeclarationFile _ := .pure _
  syntaxTree _ := .pure _
  diagnostics _ := .pure _
  typeOf _ := .pure _
  renderType _ _ := .pure _

/-- Answers that depend on the question alone are dependable, whichever way the world moves. -/
lemma Checker.Gives.dependable {checker : Checker σ α τ} {answers : Answers α τ}
    (hgives : checker.Gives answers) : checker.Dependable Course.any where
  sourceText file := (hgives.sourceText file).dependable
  isDeclarationFile file := (hgives.isDeclarationFile file).dependable
  syntaxTree file := (hgives.syntaxTree file).dependable
  diagnostics file := (hgives.diagnostics file).dependable
  typeOf node := (hgives.typeOf node).dependable
  renderType type truncate := (hgives.renderType type truncate).dependable

/-- A checker that gives answers answers every question. -/
lemma Checker.Gives.total {checker : Checker σ α τ} {answers : Answers α τ}
    (hgives : checker.Gives answers) : checker.Total where
  sourceText file world := ⟨_, hgives.sourceText file world⟩
  isDeclarationFile file world := ⟨_, hgives.isDeclarationFile file world⟩
  syntaxTree file world := ⟨_, hgives.syntaxTree file world⟩
  diagnostics file world := ⟨_, hgives.diagnostics file world⟩
  typeOf node world := ⟨_, hgives.typeOf node world⟩
  renderType type truncate world := ⟨_, hgives.renderType type truncate world⟩

/-- In an interview the checker gives its answers. -/
lemma Checker.Gives.of_interview {checker : Checker σ α τ} {answers : Answers α τ}
    (hgives : checker.Gives answers) {file : String} {world : σ}
    {said : Interview α} (hsaid : ends (checker.interview file) world = .ok said) :
    said.declares = answers.isDeclarationFile file ∧ said.root = answers.syntaxTree file := by
  obtain ⟨text, -, hsaid⟩ := ends_bind_eq_ok_iff.1 hsaid
  obtain ⟨diagnostics, -, hsaid⟩ := ends_bind_eq_ok_iff.1 hsaid
  obtain ⟨declares, hdeclares, hsaid⟩ := ends_bind_eq_ok_iff.1 hsaid
  obtain ⟨root, hroot, hsaid⟩ := ends_bind_eq_ok_iff.1 hsaid
  obtain ⟨rendered, -, hsaid⟩ := ends_bind_eq_ok_iff.1 hsaid
  obtain rfl := Except.ok.inj hsaid
  rw [hgives.isDeclarationFile file] at hdeclares
  rw [hgives.syntaxTree file] at hroot
  exact ⟨(Except.ok.inj hdeclares).symm, (Except.ok.inj hroot).symm⟩

/-! ## What verifying a file comes to -/

namespace Answers

/-- What is found in a file under some answers, or the fault that is met. -/
def examine (answers : Answers α τ) (file : String) : Except Fault (Examination α) :=
  ends ((answers.checker : Checker Unit α τ).examine file) ()

/-- The failures of a file under some answers, or the fault that is met: what verifying it by a
checker without a world ends in. -/
def verify (answers : Answers α τ) (file : String) (stamp : Stamp) :
    Except Fault (List Failure) :=
  ends ((answers.checker : Checker Unit α τ).verify file stamp) ()

/-- A file passes under some answers: it has no failures, whatever they would be stamped for. -/
def Passes (answers : Answers α τ) (file : String) : Prop :=
  ∀ stamp, answers.verify file stamp = .ok []

/-- A file fails under some answers: it has failures. -/
def Fails (answers : Answers α τ) (file : String) : Prop :=
  ∃ stamp failures, answers.verify file stamp = .ok failures ∧ failures ≠ []

variable {answers : Answers α τ} {file : String}

/-- The failures are worded from what is found. -/
lemma verify_eq (answers : Answers α τ) (file : String) (stamp : Stamp) :
    answers.verify file stamp = (answers.examine file).map (·.failures file stamp) := by
  rw [verify, Checker.verify_eq_examine, ends_map]
  rfl

/-- A verification that returns has found something. -/
lemma verify_eq_ok_iff {stamp : Stamp} {failures : List Failure} :
    answers.verify file stamp = .ok failures ↔
      ∃ found, answers.examine file = .ok found ∧ found.failures file stamp = failures := by
  rw [verify_eq]
  cases answers.examine file with
  | error fault => exact iff_of_false nofun nofun
  | ok found => simp [Except.map]

/-- Whether a file passes does not depend on what its failures would be stamped for. -/
theorem verify_eq_nil_iff {stamp : Stamp} :
    answers.verify file stamp = .ok [] ↔ answers.Passes file := by
  constructor
  · intro hnil other
    obtain ⟨found, hfound, hfailures⟩ := verify_eq_ok_iff.1 hnil
    rw [Examination.failures_eq_nil_iff] at hfailures
    exact verify_eq_ok_iff.2 ⟨found, hfound, (found.failures_eq_nil_iff file other).2 hfailures⟩
  · exact fun hpasses => hpasses stamp

/-- A file that fails has failures under every stamp. -/
theorem Fails.verify (hfails : answers.Fails file) (stamp : Stamp) :
    ∃ failures, answers.verify file stamp = .ok failures ∧ failures ≠ [] := by
  obtain ⟨other, failures, hfailures, hne⟩ := hfails
  obtain ⟨found, hfound, rfl⟩ := verify_eq_ok_iff.1 hfailures
  refine ⟨found.failures file stamp, verify_eq_ok_iff.2 ⟨found, hfound, rfl⟩, fun hnil => hne ?_⟩
  rw [Examination.failures_eq_nil_iff] at hnil ⊢
  exact hnil

/-- A tree whose expression statements all state their expressions gives no cause for a fault. -/
theorem exists_verify_of_complete (hcomplete : (answers.syntaxTree file).Complete)
    (stamp : Stamp) : ∃ failures, answers.verify file stamp = .ok failures := by
  have hgives : (answers.checker : Checker Unit α τ).Gives answers := answers.checker_gives
  obtain ⟨said, hsaid⟩ := hgives.total.interview file ()
  have hroot : said.root = answers.syntaxTree file := (hgives.of_interview hsaid).2
  have hfound := Checker.examine_of_interview hsaid (hroot ▸ hcomplete)
  exact ⟨_, verify_eq_ok_iff.2 ⟨said.examination file, hfound, rfl⟩⟩

end Answers

/-! ## Checkers that give the same answers -/

namespace Checker.Gives

variable {ρ : Type} {checker : Checker σ α τ} {other : Checker ρ α τ} {answers : Answers α τ}

/-- Two checkers that give the same answers answer alike. -/
lemma alike (hgives : checker.Gives answers) (hother : other.Gives answers) :
    checker.Alike other where
  sourceText file := (hgives.sourceText file).alike (hother.sourceText file)
  isDeclarationFile file := (hgives.isDeclarationFile file).alike (hother.isDeclarationFile file)
  syntaxTree file := (hgives.syntaxTree file).alike (hother.syntaxTree file)
  diagnostics file := (hgives.diagnostics file).alike (hother.diagnostics file)
  typeOf node := (hgives.typeOf node).alike (hother.typeOf node)
  renderType type truncate :=
    (hgives.renderType type truncate).alike (hother.renderType type truncate)

/-- Verifying a file by a checker that gives some answers ends as it does under these answers. -/
theorem verify (hgives : checker.Gives answers) (file : String) (stamp : Stamp) (world : σ) :
    ends (checker.verify file stamp) world = answers.verify file stamp :=
  (hgives.alike (answers.checker_gives (σ := Unit))).verify file stamp world ()

end Checker.Gives

end TypeTest
