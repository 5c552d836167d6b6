import Mathlib.Data.List.Forall2
import TypeTest.Proofs.DirectivesMet
import TypeTest.Proofs.Transcripts

/-!
# The stamp only words what is found

A search verifies a file under one version to learn whether it passes, and may verify it once more,
under another stamp, to report that it does not.  This is sound because the stamp decides nothing:
what is found depends on the checker's answers alone, and each thing that is found becomes one
failure, wherever it is reported.

`Failure.Restamped` says how the two failures differ that report one thing under two stamps.  Each
names its own version and the version above it.  A failure for an unexpected diagnostic also
introduces its message by them; every other failure has one and the same message.  The report of an
examination is built of such pairs (`Examination.failures_restamped`), and so two runs in which the
checker gives the same answers have reports that differ in this alone (`verify_restamped`).
-/

namespace TypeTest

open TypeTest.Action

variable {σ ρ α τ β : Type}

/-- Two failures report the same, the one under the first stamp and the other under the second. -/
structure Failure.Restamped (stamp stamp' : Stamp) (failure failure' : Failure) : Prop where
  start : failure.start = failure'.start
  length : failure.length = failure'.length
  kind : failure.kind = failure'.kind
  file : failure.file = failure'.file
  /-- What is not a diagnostic is worded alike. -/
  message : failure.kind ≠ .unexpectedDiagnostic → failure.message = failure'.message
  /-- A diagnostic is worded alike but for its introduction. -/
  introduced : failure.kind = .unexpectedDiagnostic →
    ∃ suffix, failure.message = stamp.intro ++ suffix ∧ failure'.message = stamp'.intro ++ suffix
  stamped : failure.version = some stamp.version ∧ failure.above = stamp.above
  stamped' : failure'.version = some stamp'.version ∧ failure'.above = stamp'.above

/-! ## Each failure by itself -/

namespace Subject

/-- The same file under another version. -/
def restamp (subject : Subject) (stamp : Stamp) : Subject := { subject with stamp }

variable (subject : Subject) (stamp : Stamp)

lemma restamped_failureAt (start length : Int) (message : CodeText) {kind : Failure.Kind}
    (hkind : kind ≠ .unexpectedDiagnostic) :
    Failure.Restamped subject.stamp stamp (subject.failureAt start length message kind)
      ((subject.restamp stamp).failureAt start length message kind) where
  start := rfl
  length := rfl
  kind := rfl
  file := rfl
  message _ := rfl
  introduced hunexpected := absurd hunexpected hkind
  stamped := subject.stamps_failureAt ..
  stamped' := (subject.restamp stamp).stamps_failureAt ..

lemma restamped_introduced (start length : Int) (suffix : CodeText) :
    Failure.Restamped subject.stamp stamp
      (subject.failureAt start length (subject.stamp.intro ++ suffix) .unexpectedDiagnostic)
      ((subject.restamp stamp).failureAt start length (stamp.intro ++ suffix)
        .unexpectedDiagnostic) where
  start := rfl
  length := rfl
  kind := rfl
  file := rfl
  message hother := absurd rfl hother
  introduced _ := ⟨suffix, rfl, rfl⟩
  stamped := subject.stamps_failureAt ..
  stamped' := (subject.restamp stamp).stamps_failureAt ..

/-- Whether a diagnostic lies in the file under test decides where its failure is reported, and
under which name; the stamp does not. -/
lemma exists_unexpected_eq (diagnostic : Diagnostic) :
    ∃ start length suffix, ∀ stamp, (subject.restamp stamp).unexpected diagnostic =
      (subject.restamp stamp).failureAt start length (stamp.intro ++ suffix)
        .unexpectedDiagnostic := by
  -- what would be said without an introduction of a diagnostic that lies elsewhere
  let suffix := (unexpected.elsewhere subject diagnostic "" diagnostic.message.flatten).message
  have helsewhere : ∀ stamp,
      unexpected.elsewhere (subject.restamp stamp) diagnostic stamp.intro
          diagnostic.message.flatten =
        (subject.restamp stamp).failureAt 0 0 (stamp.intro ++ suffix) .unexpectedDiagnostic := by
    intro stamp
    simp only [suffix, unexpected.elsewhere, failureAt, CodeText.append_assoc,
      CodeText.empty_append]
  cases hstart : diagnostic.start with
  | none =>
    refine ⟨0, 0, suffix, fun stamp => ?_⟩
    rw [unexpected, hstart]
    exact helsewhere stamp
  | some start =>
    by_cases hfile : diagnostic.file = some subject.file
    · refine ⟨start, diagnostic.length, "\n" ++ diagnostic.message.flatten, fun stamp => ?_⟩
      rw [unexpected, hstart]
      simp only [CodeText.append_assoc]
      exact if_pos hfile
    · refine ⟨0, 0, suffix, fun stamp => ?_⟩
      rw [unexpected, hstart]
      exact (if_neg hfile).trans (helsewhere stamp)

lemma restamped_unexpected (diagnostic : Diagnostic) :
    Failure.Restamped subject.stamp stamp (subject.unexpected diagnostic)
      ((subject.restamp stamp).unexpected diagnostic) := by
  obtain ⟨start, length, suffix, hunexpected⟩ := subject.exists_unexpected_eq diagnostic
  have hown : subject.unexpected diagnostic = _ := hunexpected subject.stamp
  rw [hown, hunexpected stamp]
  exact subject.restamped_introduced stamp start length suffix

end Subject

/-! ## The whole report -/

/-- Lists made of the same entries are related if what is made of each entry is. -/
lemma forall₂_map {R : β → β → Prop} {f g : α → β} (hR : ∀ entry, R (f entry) (g entry))
    (entries : List α) : List.Forall₂ R (entries.map f) (entries.map g) := by
  rw [List.forall₂_map_left_iff, List.forall₂_map_right_iff, List.forall₂_same]
  exact fun entry _ => hR entry

/-- What is found is reported under any two stamps by failures that differ in the stamp alone. -/
theorem Examination.failures_restamped (found : Examination α) (file : String)
    (stamp stamp' : Stamp) :
    List.Forall₂ (Failure.Restamped stamp stamp') (found.failures file stamp)
      (found.failures file stamp') := by
  let subject : Subject := { file, source := found.source, stamp }
  let subject' : Subject := subject.restamp stamp'
  have hduplicate : ∀ entry, Failure.Restamped stamp stamp' (subject.duplicate entry)
      (subject'.duplicate entry) :=
    fun _ => subject.restamped_failureAt stamp' _ _ _ nofun
  have hmissing : ∀ line, Failure.Restamped stamp stamp' (subject.missingError line)
      (subject'.missingError line) :=
    fun _ => subject.restamped_failureAt stamp' _ _ _ nofun
  have hmismatch : ∀ unmet : Unmet α, Failure.Restamped stamp stamp' (subject.mismatch unmet)
      (subject'.mismatch unmet) :=
    fun _ => subject.restamped_failureAt stamp' _ _ _ nofun
  have hunmatched : ∀ line, Failure.Restamped stamp stamp' (subject.unmatched line)
      (subject'.unmatched line) :=
    fun _ => subject.restamped_failureAt stamp' _ _ _ nofun
  refine List.rel_append (List.rel_append (List.rel_append (List.rel_append ?_ ?_) ?_) ?_) ?_
  · exact forall₂_map hduplicate found.duplicates
  · exact forall₂_map (subject.restamped_unexpected stamp') found.unexpected
  · exact forall₂_map hmissing found.missing
  · exact forall₂_map hmismatch found.unmet
  · exact forall₂_map hunmatched found.unpaired

/-! ## Two runs -/

/-- **The stamp never changes what is found.**  Let a file be verified twice, for any two stamps, by
a checker that answers every question, and let it be given the same answers both times.  Then both
runs return failures, and these are the same, one by one, but for the stamp; or both runs meet an
expression statement that does not state its expression. -/
theorem verify_restamped {checker : Checker σ α τ} {other : Checker ρ α τ} (htotal : checker.Total)
    {file : String} {stamp stamp' : Stamp} {world : σ} {world' : ρ}
    (hsame : checker.transcript file stamp world = other.transcript file stamp' world') :
    (∃ failures failures', ends (checker.verify file stamp) world = .ok failures ∧
        ends (other.verify file stamp') world' = .ok failures' ∧
        List.Forall₂ (Failure.Restamped stamp stamp') failures failures') ∨
      (ends (checker.verify file stamp) world = .error .noExpression ∧
        ends (other.verify file stamp') world' = .error .noExpression ∧
        ∃ said, ends (checker.interview file) world = .ok said ∧ ¬ said.root.Complete) := by
  have hfound : ends (checker.examine file) world = ends (other.examine file) world' :=
    Checker.ends_examine_eq_of_transcript_eq hsame
  rw [Checker.verify_eq_examine, Checker.verify_eq_examine, ends_map, ends_map, ← hfound]
  cases hends : ends (checker.examine file) world with
  | ok found => exact .inl ⟨_, _, rfl, rfl, found.failures_restamped file stamp stamp'⟩
  | error fault =>
    obtain rfl : fault = .noExpression := htotal.examine_faultsOnly file world fault hends
    obtain ⟨said, hsaid⟩ := htotal.interview file world
    refine .inr ⟨rfl, rfl, said, hsaid, fun hcomplete => ?_⟩
    cases hends.symm.trans (Checker.examine_of_interview hsaid hcomplete)

/-- What a checker says about a file whose type assertion is not met, and in which there is a
problem that no directive expects. -/
def gadgetAnswers : Answers Unit String where
  sourceText _ := "make(); // $ExpectType Gadget\nmake(1);\n"
  isDeclarationFile _ := false
  syntaxTree _ := .mk "SourceFile" 0 39 () [callStatement 0 7, callStatement 30 38] none
  diagnostics file := [⟨.plain "Expected 0 arguments, but got 1.", some file, some 35, 1⟩]
  typeOf _ := "Widget"
  renderType type _ := type

/-- A checker that says so, and counts the questions that it has been asked. -/
def gadgetChecker : Checker Nat Unit String where
  sourceText file := modifyGet fun asked => (gadgetAnswers.sourceText file, asked + 1)
  isDeclarationFile file :=
    modifyGet fun asked => (gadgetAnswers.isDeclarationFile file, asked + 1)
  syntaxTree file := modifyGet fun asked => (gadgetAnswers.syntaxTree file, asked + 1)
  diagnostics file := modifyGet fun asked => (gadgetAnswers.diagnostics file, asked + 1)
  typeOf node := modifyGet fun asked => (gadgetAnswers.typeOf node, asked + 1)
  renderType type truncate :=
    modifyGet fun asked => (gadgetAnswers.renderType type truncate, asked + 1)

/-- The count has no part in the answers. -/
lemma gadgetChecker_gives : gadgetChecker.Gives gadgetAnswers where
  sourceText _ _ := rfl
  isDeclarationFile _ _ := rfl
  syntaxTree _ _ := rfl
  diagnostics _ _ := rfl
  typeOf _ _ := rfl
  renderType _ _ _ := rfl

/-- A search probes the sample, which takes six questions, and then reports it under another stamp:
its two failures differ in the stamp alone. -/
theorem verify_restamped_gadget :
    let probe : Stamp := { version := "4.1" }
    let report : Stamp := { version := "4.1", above := some "4.2" }
    let asked := leaves (gadgetChecker.verify "gadget.ts" probe) 0
    asked = 6 ∧ gadgetChecker.Total ∧
      gadgetChecker.transcript "gadget.ts" probe 0 =
        gadgetChecker.transcript "gadget.ts" report asked ∧
      ∃ failures failures', ends (gadgetChecker.verify "gadget.ts" probe) 0 = .ok failures ∧
        ends (gadgetChecker.verify "gadget.ts" report) asked = .ok failures' ∧
        failures.map (·.kind) = [.unexpectedDiagnostic, .typeMismatch] ∧
        List.Forall₂ (Failure.Restamped probe report) failures failures' := by
  intro probe report asked
  have htotal : gadgetChecker.Total := gadgetChecker_gives.total
  have hsame : gadgetChecker.transcript "gadget.ts" probe 0 =
      gadgetChecker.transcript "gadget.ts" report asked :=
    (gadgetChecker_gives.alike gadgetChecker_gives).transcript_eq ..
  have hasked : asked = 6 := by decide +kernel
  have hkinds : (ends (gadgetChecker.verify "gadget.ts" probe) 0).map (·.map (·.kind)) =
      .ok [.unexpectedDiagnostic, .typeMismatch] := by
    decide +kernel
  refine ⟨hasked, htotal, hsame, ?_⟩
  rcases verify_restamped htotal hsame with
    ⟨failures, failures', hends, hends', hrestamped⟩ | ⟨hends, -, -⟩
  · rw [hends] at hkinds
    exact ⟨failures, failures', hends, hends', Except.ok.inj hkinds, hrestamped⟩
  · rw [hends] at hkinds
    cases hkinds

end TypeTest
