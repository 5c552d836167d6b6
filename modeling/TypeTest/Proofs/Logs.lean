import TypeTest.Proofs.Action

/-!
# Steps that leave a note

What collaborators are asked, and in which order, does not show in how a run ends.  So a run is
taken once more with a log: `noted` takes a step and adds to the log, and whoever reads the log
afterwards knows which steps have been taken.

The log is beside the world and no step can look at it.  So a run with a log and the run without it
go in `Lockstep`: their steps end alike, and what relates the two runs relates them after each step
again.
-/

namespace TypeTest

/-- A world with a log of what has happened in it, the first entry first. -/
structure Logged (σ ε : Type) where
  world : σ
  entries : List ε := []

namespace Action

variable {σ ε β γ : Type}

/-- Takes a step and notes something about how it has ended. -/
def noted (note : Except Fault β → List ε) (step : Action σ β) : Action (Logged σ ε) β :=
  fun log =>
    match step log.world with
    | .ok value world => .ok value ⟨world, log.entries ++ note (.ok value)⟩
    | .error fault world => .error fault ⟨world, log.entries ++ note (.error fault)⟩

lemma ends_noted (note : Except Fault β → List ε) (step : Action σ β) (log : Logged σ ε) :
    ends (noted note step) log = ends step log.world := by
  unfold ends noted
  cases step log.world with
  | ok value world => rfl
  | error fault world => rfl

lemma leaves_noted (note : Except Fault β → List ε) (step : Action σ β) (log : Logged σ ε) :
    leaves (noted note step) log =
      ⟨leaves step log.world, log.entries ++ note (ends step log.world)⟩ := by
  unfold ends leaves noted
  cases step log.world with
  | ok value world => rfl
  | error fault world => rfl

/-- Takes a step of which nothing is noted. -/
def unnoted (step : Action σ β) : Action (Logged σ ε) β := noted (fun _ => []) step

/-! ## Two runs at once -/

variable {ρ : Type} {I : σ → ρ → Prop}

/-- Two steps, taken in worlds that stand in a relation, end alike, and the worlds that they leave
behind stand in the same relation. -/
def Lockstep (I : σ → ρ → Prop) (step : Action σ β) (other : Action ρ β) : Prop :=
  ∀ world world', I world world' →
    ends step world = ends other world' ∧ I (leaves step world) (leaves other world')

lemma Lockstep.pure (value : β) :
    Lockstep I (pure value : Action σ β) (pure value : Action ρ β) :=
  fun _ _ hrelated => ⟨rfl, hrelated⟩

lemma Lockstep.throw (fault : Fault) :
    Lockstep I (throw fault : Action σ β) (throw fault : Action ρ β) :=
  fun _ _ hrelated => ⟨rfl, hrelated⟩

lemma Lockstep.bind {step : Action σ β} {other : Action ρ β} {next : β → Action σ γ}
    {next' : β → Action ρ γ} (hstep : Lockstep I step other)
    (hnext : ∀ value, Lockstep I (next value) (next' value)) :
    Lockstep I (step >>= next) (other >>= next') := by
  intro world world' hrelated
  obtain ⟨hends, hleaves⟩ := hstep world world' hrelated
  rw [ends_bind, ends_bind, leaves_bind, leaves_bind, hends]
  cases ends other world' with
  | ok value => exact hnext value _ _ hleaves
  | error fault => exact ⟨rfl, hleaves⟩

lemma Lockstep.compositional :
    Compositional fun _ (step : Action σ _) (other : Action ρ _) => Lockstep I step other where
  pure := .pure
  bind := .bind

/-- A step of which nothing is noted goes in lockstep with itself, and the log stays as it is. -/
lemma lockstep_unnoted (entries : List ε) (step : Action σ β) :
    Lockstep (fun (log : Logged σ ε) world => log = ⟨world, entries⟩) (unnoted step) step := by
  rintro _ world rfl
  rw [unnoted, ends_noted, leaves_noted, List.append_nil]
  exact ⟨rfl, rfl⟩

end Action

end TypeTest
