import TypeTest.Modules.Load
import TypeTest.Options

/-!
# Providers

A provider makes checkers from modules.  It loads the module at an install's path the first time
it needs it, and keeps it; a load that ends in a fault leaves nothing behind, so the next request
tries again.  The module must have something callable under the factory's name; calling it with
the configuration makes the checker, and what it raises is passed on.

What a call changes in a module stays changed: in the kept module, or in the one known by a name.
-/

namespace TypeTest.Modules

variable {σ ρ : Type}

/-- The state of a provider: the modules it keeps, by location, and the modules known by name. -/
structure Workshop (σ ρ : Type) where
  kept : Assoc CodeText (Loaded σ ρ) := .empty
  imports : Imports σ ρ

namespace Workshop

/-- Takes a step that concerns imports. -/
def onImports (step : Action (Imports σ ρ) β) : Action (Workshop σ ρ) β := fun workshop =>
  match step workshop.imports with
  | .ok value imports => .ok value { workshop with imports }
  | .error fault imports => .error fault { workshop with imports }

/-- Keeps a module. -/
def keep (location : CodeText) (loaded : Loaded σ ρ) : Action (Workshop σ ρ) Unit :=
  modify fun workshop => { workshop with kept := workshop.kept.insert location loaded }

/-- The module at a location: the one that is kept, or else loaded and kept from now on. -/
def moduleAt (tree : Tree σ ρ) (location : CodeText) : Action (Workshop σ ρ) (Loaded σ ρ) := do
  match (← get).kept.get? location with
  | some loaded => return loaded
  | none =>
    let loaded ← onImports (load tree location)
    keep location loaded
    return loaded

/-- Takes a step with the module that is kept for a location. -/
def useKept (location : CodeText) (loaded : Loaded σ ρ) (step : Action (Use σ ρ) β) :
    Action (Workshop σ ρ) β :=
  match loaded with
  | .byName name => onImports (useKnown name step)
  | .fromPath module => do
    let (result, module) ← onImports (useModule module step)
    keep location (.fromPath module)
    MonadExcept.ofExcept result

end Workshop

/-- The name of the factory, unless another one is asked for. -/
def defaultFactory : String := "create_checker"

/-- Calls the factory of a module with a configuration. -/
def callFactory (factory : String) (configPath : CodeText) (install : Install) :
    Action (Use σ ρ) (Value ρ) := do
  match (← lookUp? factory).bind Member.call? with
  | some call => call configPath
  | none => throw (.load (.noFactory install.version factory))

/-- What the factory of an install's module makes from a configuration. -/
def make (tree : Tree σ ρ) (factory : String) (configPath : CodeText) (install : Install) :
    Action (Workshop σ ρ) (Value ρ) := do
  let loaded ← Workshop.moduleAt tree install.path
  Workshop.useKept install.path loaded (callFactory factory configPath install)

end TypeTest.Modules
