import TypeTest.Checker
import TypeTest.Event
import TypeTest.Session

/-!
# Runs

A run keeps a session, what has been noted so far, and the world of its collaborators.  A step
that ends in a fault leaves the run as it was at that moment: what was built before stays built.
-/

namespace TypeTest

/-- The state of a run: the session, what has been noted, in order, and the collaborators'
world. -/
structure Run (η σ ι : Type) where
  session : Session η ι := .new
  events : List Event := []
  world : σ

namespace Run

variable {η σ ι : Type} [DecidableEq η]

/-- Notes an event. -/
def note (event : Event) : Action (Run η σ ι) Unit :=
  modify fun run => { run with events := run.events ++ [event] }

/-- Changes the session. -/
def onSession (change : Session η ι → Session η ι) : Action (Run η σ ι) Unit :=
  modify fun run => { run with session := change run.session }

/-- Takes a step of a collaborator, whose changes stay even if it ends in a fault. -/
def onWorld (step : Action σ β) : Action (Run η σ ι) β := fun run =>
  match step run.world with
  | .ok value world => .ok value { run with world }
  | .error fault world => .error fault { run with world }

/-- The instance for a host and a version: the one that is kept, or else a new one. -/
def obtain (host : η) (version : CodeText) (build : Action σ (Option ι)) :
    Action (Run η σ ι) (Option ι) := do
  onSession (·.register host)
  match (← get).session.instance? host version with
  | some kept =>
    note (.reusing version)
    return some kept
  | none =>
    note (.building version)
    let built ← onWorld build
    onSession (·.record host version built)
    return built

end Run

end TypeTest
