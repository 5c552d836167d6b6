import TypeTest.Proofs.Examination

/-!
# The answers of a run

The world of a checker may change while it is asked, so that one question may have two answers.  Two
runs can still be compared by the answers that were given in them.  `Checker.recorded` is a checker
that writes down what it answers, faults too, and `Checker.transcript` is what it has written down
when a file has been verified.

Each answer decides what is asked next.  So as long as two examinations of a file have been given
the same answers they are at the same point, and if all their answers are the same then they end
alike (`Checker.ends_examine_eq_of_transcript_eq`).  The stamp that a file is verified for has no
part in this: it is never shown to the checker (`Checker.transcript_eq`).

Checkers whose answers depend on the question alone give the same answers in all runs
(`Checker.Alike.transcript_eq`), but a checker need not be of that kind to give the same answers
twice.
-/

namespace TypeTest

open TypeTest.Action

variable {σ ρ α τ β γ : Type}

/-- What a question has come to: an answer of the checker, or a fault. -/
inductive Answer (α τ : Type) where
  | sourceText (text : Except Fault String)
  | isDeclarationFile (declares : Except Fault Bool)
  | syntaxTree (root : Except Fault (Node α))
  | diagnostics (found : Except Fault (List Diagnostic))
  | typeOf (type : Except Fault τ)
  | renderType (text : Except Fault String)

/-- A world with the answers given in it so far, the first one first. -/
structure Recording (σ α τ : Type) where
  world : σ
  answers : List (Answer α τ) := []

namespace Action

/-- Takes a step and writes down how it has ended. -/
def recorded (answer : Except Fault β → Answer α τ) (step : Action σ β) :
    Action (Recording σ α τ) β := fun recording =>
  match step recording.world with
  | .ok value world => .ok value ⟨world, recording.answers ++ [answer (.ok value)]⟩
  | .error fault world => .error fault ⟨world, recording.answers ++ [answer (.error fault)]⟩

lemma ends_recorded (answer : Except Fault β → Answer α τ) (step : Action σ β)
    (recording : Recording σ α τ) :
    ends (recorded answer step) recording = ends step recording.world := by
  unfold ends recorded
  cases step recording.world with
  | ok value world => rfl
  | error fault world => rfl

lemma leaves_recorded (answer : Except Fault β → Answer α τ) (step : Action σ β)
    (recording : Recording σ α τ) :
    leaves (recorded answer step) recording =
      ⟨leaves step recording.world,
        recording.answers ++ [answer (ends step recording.world)]⟩ := by
  unfold ends leaves recorded
  cases step recording.world with
  | ok value world => rfl
  | error fault world => rfl

/-! ## Recording changes nothing else -/

/-- A step with a record goes as another one without. -/
structure Follows (step : Action (Recording σ α τ) β) (other : Action σ β) : Prop where
  ends_eq : ∀ recording, ends step recording = ends other recording.world
  world_eq : ∀ recording, (leaves step recording).world = leaves other recording.world

lemma Follows.recorded (answer : Except Fault β → Answer α τ) (step : Action σ β) :
    Follows (Action.recorded answer step) step where
  ends_eq := ends_recorded answer step
  world_eq recording := by rw [leaves_recorded]

lemma Follows.pure (value : β) :
    Follows (pure value : Action (Recording σ α τ) β) (pure value) where
  ends_eq _ := rfl
  world_eq _ := rfl

lemma Follows.throw (fault : Fault) :
    Follows (throw fault : Action (Recording σ α τ) β) (throw fault) where
  ends_eq _ := rfl
  world_eq _ := rfl

lemma Follows.bind {step : Action (Recording σ α τ) β} {other : Action σ β}
    {next : β → Action (Recording σ α τ) γ} {next' : β → Action σ γ} (hstep : Follows step other)
    (hnext : ∀ value, Follows (next value) (next' value)) :
    Follows (step >>= next) (other >>= next') where
  ends_eq recording := by
    rw [ends_bind, ends_bind, hstep.ends_eq]
    cases ends other recording.world with
    | ok value =>
      dsimp only
      rw [(hnext value).ends_eq, hstep.world_eq]
    | error fault => rfl
  world_eq recording := by
    rw [leaves_bind, leaves_bind, hstep.ends_eq]
    cases ends other recording.world with
    | ok value =>
      dsimp only
      rw [(hnext value).world_eq, hstep.world_eq]
    | error fault => exact hstep.world_eq recording

lemma Follows.compositional : Compositional fun _ (step : Action (Recording σ α τ) _)
    (other : Action σ _) => Follows step other where
  pure := .pure
  bind := .bind

/-! ## Steps that the record tells apart -/

/-- Two steps only add to the record; and if they are taken after the same answers, and the answers
after them do not contradict each other, then they have ended alike with the same answers. -/
structure Agree (step : Action (Recording σ α τ) β) (other : Action (Recording ρ α τ) β) :
    Prop where
  adds : ∀ recording, recording.answers <+: (leaves step recording).answers
  adds' : ∀ recording, recording.answers <+: (leaves other recording).answers
  same : ∀ {recording recording' whole}, recording.answers = recording'.answers →
    (leaves step recording).answers <+: whole → (leaves other recording').answers <+: whole →
      ends step recording = ends other recording' ∧
        (leaves step recording).answers = (leaves other recording').answers

/-- Questions of one kind that have come to the same have ended alike. -/
lemma Agree.recorded {answer : Except Fault β → Answer α τ} (hanswer : Function.Injective answer)
    (step : Action σ β) (other : Action ρ β) :
    Agree (Action.recorded answer step) (Action.recorded answer other) where
  adds recording := by
    rw [leaves_recorded]
    exact List.prefix_append _ _
  adds' recording := by
    rw [leaves_recorded]
    exact List.prefix_append _ _
  same := by
    intro recording recording' whole hbefore hleft hright
    rw [leaves_recorded] at hleft hright
    have hanswers : recording.answers ++ [answer (ends step recording.world)] =
        recording'.answers ++ [answer (ends other recording'.world)] := by
      have hlength : (recording.answers ++ [answer (ends step recording.world)]).length =
          (recording'.answers ++ [answer (ends other recording'.world)]).length := by
        simp [hbefore]
      have hbegins := List.prefix_of_prefix_length_le hleft hright (Nat.le_of_eq hlength)
      exact hbegins.eq_of_length hlength
    rw [ends_recorded, ends_recorded, leaves_recorded, leaves_recorded]
    obtain ⟨-, hlast⟩ := List.append_inj' hanswers rfl
    exact ⟨hanswer (List.cons.inj hlast).1, hanswers⟩

lemma Agree.pure (value : β) : Agree (pure value : Action (Recording σ α τ) β)
    (pure value : Action (Recording ρ α τ) β) where
  adds _ := List.prefix_rfl
  adds' _ := List.prefix_rfl
  same hbefore _ _ := ⟨rfl, hbefore⟩

lemma Agree.throw (fault : Fault) : Agree (throw fault : Action (Recording σ α τ) β)
    (throw fault : Action (Recording ρ α τ) β) where
  adds _ := List.prefix_rfl
  adds' _ := List.prefix_rfl
  same hbefore _ _ := ⟨rfl, hbefore⟩

/-- Steps one after the other only add to the record. -/
lemma adds_bind {step : Action (Recording σ α τ) β} {next : β → Action (Recording σ α τ) γ}
    (hstep : ∀ recording, recording.answers <+: (leaves step recording).answers)
    (hnext : ∀ value recording, recording.answers <+: (leaves (next value) recording).answers)
    (recording : Recording σ α τ) :
    (leaves step recording).answers <+: (leaves (step >>= next) recording).answers ∧
      recording.answers <+: (leaves (step >>= next) recording).answers := by
  have hafter : (leaves step recording).answers <+: (leaves (step >>= next) recording).answers := by
    rw [leaves_bind]
    cases ends step recording with
    | ok value => exact hnext value _
    | error fault => exact List.prefix_rfl
  exact ⟨hafter, (hstep recording).trans hafter⟩

lemma Agree.bind {step : Action (Recording σ α τ) β} {other : Action (Recording ρ α τ) β}
    {next : β → Action (Recording σ α τ) γ} {next' : β → Action (Recording ρ α τ) γ}
    (hstep : Agree step other) (hnext : ∀ value, Agree (next value) (next' value)) :
    Agree (step >>= next) (other >>= next') where
  adds recording := (adds_bind hstep.adds (fun value => (hnext value).adds) recording).2
  adds' recording := (adds_bind hstep.adds' (fun value => (hnext value).adds') recording).2
  same := by
    intro recording recording' whole hbefore hleft hright
    have hmid := (adds_bind hstep.adds (fun value => (hnext value).adds) recording).1
    have hmid' := (adds_bind hstep.adds' (fun value => (hnext value).adds') recording').1
    -- the first answers are the beginning of all of them, on either side
    obtain ⟨hends, hanswers⟩ := hstep.same hbefore (hmid.trans hleft) (hmid'.trans hright)
    rw [leaves_bind] at hleft hright
    rw [ends_bind, ends_bind, leaves_bind, leaves_bind]
    rw [hends] at hleft ⊢
    cases hresult : ends other recording' with
    | ok value =>
      rw [hresult] at hleft hright
      exact (hnext value).same hanswers hleft hright
    | error fault => exact ⟨rfl, hanswers⟩

lemma Agree.compositional : Compositional fun _ (step : Action (Recording σ α τ) _)
    (other : Action (Recording ρ α τ) _) => Agree step other where
  pure := .pure
  bind := .bind

/-! ## Steps with the same record -/

/-- Two steps that are taken after the same answers end alike with the same answers. -/
def Parallel (step : Action (Recording σ α τ) β) (other : Action (Recording ρ α τ) β) : Prop :=
  ∀ recording recording', recording.answers = recording'.answers →
    ends step recording = ends other recording' ∧
      (leaves step recording).answers = (leaves other recording').answers

lemma Parallel.recorded (answer : Except Fault β → Answer α τ) {step : Action σ β}
    {other : Action ρ β} (halike : Alike step other) :
    Parallel (Action.recorded answer step) (Action.recorded answer other) := by
  intro recording recording' hbefore
  rw [ends_recorded, ends_recorded, leaves_recorded, leaves_recorded, hbefore,
    halike recording.world recording'.world]
  exact ⟨rfl, rfl⟩

lemma Parallel.pure (value : β) : Parallel (pure value : Action (Recording σ α τ) β)
    (pure value : Action (Recording ρ α τ) β) :=
  fun _ _ hbefore => ⟨rfl, hbefore⟩

lemma Parallel.throw (fault : Fault) : Parallel (throw fault : Action (Recording σ α τ) β)
    (throw fault : Action (Recording ρ α τ) β) :=
  fun _ _ hbefore => ⟨rfl, hbefore⟩

lemma Parallel.bind {step : Action (Recording σ α τ) β} {other : Action (Recording ρ α τ) β}
    {next : β → Action (Recording σ α τ) γ} {next' : β → Action (Recording ρ α τ) γ}
    (hstep : Parallel step other) (hnext : ∀ value, Parallel (next value) (next' value)) :
    Parallel (step >>= next) (other >>= next') := by
  intro recording recording' hbefore
  obtain ⟨hends, hanswers⟩ := hstep recording recording' hbefore
  rw [ends_bind, ends_bind, leaves_bind, leaves_bind, hends]
  cases ends other recording' with
  | ok value => exact hnext value _ _ hanswers
  | error fault => exact ⟨rfl, hanswers⟩

lemma Parallel.compositional : Compositional fun _ (step : Action (Recording σ α τ) _)
    (other : Action (Recording ρ α τ) _) => Parallel step other where
  pure := .pure
  bind := .bind

end Action

/-! ## Transcripts -/

namespace Checker

/-- The checker that writes its answers down. -/
def recorded (checker : Checker σ α τ) : Checker (Recording σ α τ) α τ where
  sourceText file := Action.recorded .sourceText (checker.sourceText file)
  isDeclarationFile file := Action.recorded .isDeclarationFile (checker.isDeclarationFile file)
  syntaxTree file := Action.recorded .syntaxTree (checker.syntaxTree file)
  diagnostics file := Action.recorded .diagnostics (checker.diagnostics file)
  typeOf node := Action.recorded .typeOf (checker.typeOf node)
  renderType type truncate := Action.recorded .renderType (checker.renderType type truncate)

/-- All answers that a checker gives when a file is verified, the first one first. -/
def transcript (checker : Checker σ α τ) (file : String) (stamp : Stamp) (world : σ) :
    List (Answer α τ) :=
  (leaves (checker.recorded.verify file stamp) { world }).answers

variable {checker : Checker σ α τ} {other : Checker ρ α τ} {file : String}

lemma recorded_follows (checker : Checker σ α τ) :
    checker.recorded.Related (fun _ step step' => Follows step step') checker where
  sourceText _ := .recorded _ _
  isDeclarationFile _ := .recorded _ _
  syntaxTree _ := .recorded _ _
  diagnostics _ := .recorded _ _
  typeOf _ := .recorded _ _
  renderType _ _ := .recorded _ _

lemma recorded_agree (checker : Checker σ α τ) (other : Checker ρ α τ) :
    checker.recorded.Related (fun _ step step' => Agree step step') other.recorded where
  sourceText _ := .recorded (fun _ _ => Answer.sourceText.inj) _ _
  isDeclarationFile _ := .recorded (fun _ _ => Answer.isDeclarationFile.inj) _ _
  syntaxTree _ := .recorded (fun _ _ => Answer.syntaxTree.inj) _ _
  diagnostics _ := .recorded (fun _ _ => Answer.diagnostics.inj) _ _
  typeOf _ := .recorded (fun _ _ => Answer.typeOf.inj) _ _
  renderType _ _ := .recorded (fun _ _ => Answer.renderType.inj) _ _

/-- Writing the answers down does not change what an examination ends in. -/
lemma ends_examine_recorded (checker : Checker σ α τ) (file : String) (world : σ) :
    ends (checker.recorded.examine file) { world } = ends (checker.examine file) world := by
  have hfollows : Follows (checker.recorded.examine file) (checker.examine file) :=
    checker.recorded_follows.examine Follows.compositional (fun _ => .throw _) file
  exact hfollows.ends_eq { world }

/-- The answers are those of the examination, whatever the stamp. -/
lemma transcript_eq (checker : Checker σ α τ) (file : String) (stamp : Stamp) (world : σ) :
    checker.transcript file stamp world =
      (leaves (checker.recorded.examine file) { world }).answers := by
  rw [transcript, verify_eq_examine, leaves_map]

/-- Where the same answers are given, the same is found, or the same fault is met. -/
theorem ends_examine_eq_of_transcript_eq {stamp stamp' : Stamp} {world : σ} {world' : ρ}
    (hsame : checker.transcript file stamp world = other.transcript file stamp' world') :
    ends (checker.examine file) world = ends (other.examine file) world' := by
  rw [transcript_eq, transcript_eq] at hsame
  have hagree : Agree (checker.recorded.examine file) (other.recorded.examine file) :=
    (checker.recorded_agree other).examine Agree.compositional (fun _ => .throw _) file
  have hends : ends (checker.recorded.examine file) { world } =
      ends (other.recorded.examine file) { world := world' } := by
    refine (hagree.same rfl List.prefix_rfl ?_).1
    exact hsame ▸ List.prefix_rfl
  rw [ends_examine_recorded, ends_examine_recorded] at hends
  exact hends

/-- Checkers that answer alike give the same answers when a file is verified, for whatever stamps
and in whatever worlds. -/
theorem Alike.transcript_eq (halike : checker.Alike other) (file : String) (stamp stamp' : Stamp)
    (world : σ) (world' : ρ) :
    checker.transcript file stamp world = other.transcript file stamp' world' := by
  have hrelated : checker.recorded.Related (fun _ step step' => Parallel step step')
      other.recorded :=
    { sourceText := fun file => .recorded _ (halike.sourceText file)
      isDeclarationFile := fun file => .recorded _ (halike.isDeclarationFile file)
      syntaxTree := fun file => .recorded _ (halike.syntaxTree file)
      diagnostics := fun file => .recorded _ (halike.diagnostics file)
      typeOf := fun node => .recorded _ (halike.typeOf node)
      renderType := fun type truncate => .recorded _ (halike.renderType type truncate) }
  rw [Checker.transcript_eq, Checker.transcript_eq]
  exact (hrelated.examine Parallel.compositional (fun _ => .throw _) file _ _ rfl).2

end Checker

end TypeTest
