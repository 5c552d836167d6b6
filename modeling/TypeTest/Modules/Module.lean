import TypeTest.Json.Display
import TypeTest.Modules.Inherent

/-!
# Modules

A module is what it has under names.  A name is looked up among what is fixed for all modules,
then among the module's own attributes, then among what all modules inherit; if it is nowhere, a
function that the module keeps for missing names is asked instead.

Attributes can be taken away again, and a look-up may ask a function, so what is done with a module
is a step that may change the module and the world in which its functions work.
-/

namespace TypeTest.Modules

variable {σ ρ : Type}

/-- A module: its attributes, by name. -/
structure Module (σ ρ : Type) where
  attributes : Assoc CodeText (Attribute σ ρ) := .empty

namespace Module

/-- Gives a module further attributes, each in the place of an earlier one of its name. -/
def define (module : Module σ ρ) (definitions : List (CodeText × Attribute σ ρ)) : Module σ ρ :=
  ⟨definitions.foldl (fun known entry => known.insert entry.1 entry.2) module.attributes⟩

/-- What a module has under a name. -/
def member? (module : Module σ ρ) (key : CodeText) : Option (Member σ ρ) :=
  ((fixed? key).or ((module.attributes.get? key).map .held)).or (inherited? key)

/-- What is fixed for all modules comes first. -/
theorem member?_of_fixed? {module : Module σ ρ} {key : CodeText} {member : Member σ ρ}
    (fixed : fixed? key = some member) : module.member? key = some member := by
  simp [member?, fixed]

/-- A module's own attribute comes next. -/
theorem member?_of_get? {module : Module σ ρ} {key : CodeText} {own : Attribute σ ρ}
    (free : (fixed? key : Option (Member σ ρ)) = none)
    (held : module.attributes.get? key = some own) : module.member? key = some (.held own) := by
  simp [member?, free, held]

/-- What all modules inherit comes last. -/
theorem member?_of_get?_eq_none {module : Module σ ρ} {key : CodeText}
    (free : (fixed? key : Option (Member σ ρ)) = none)
    (absent : module.attributes.get? key = none) : module.member? key = inherited? key := by
  simp [member?, free, absent]

/-- What the functions of a module see under a name. -/
def names (module : Module σ ρ) (key : CodeText) : Option (Value ρ) :=
  (module.attributes.get? key).map Attribute.value

/-- The module once a name has been looked up in it: notes are made when they are first asked
for. -/
def lookedAt (module : Module σ ρ) (key : CodeText) : Module σ ρ :=
  if key = notesKey ∧ ¬ module.attributes.contains key then
    module.define [(key, .plain (.data (.obj [])))]
  else module

end Module

/-- A module that is used, and the world in which its functions work. -/
structure Use (σ ρ : Type) where
  module : Module σ ρ
  world : σ

/-- Takes a step in the world. -/
def inWorld (step : Action σ β) : Action (Use σ ρ) β := fun use =>
  match step use.world with
  | .ok value world => .ok value { use with world }
  | .error fault world => .error fault { use with world }

/-- Changes the module. -/
def alter (change : Module σ ρ → Module σ ρ) : Action (Use σ ρ) Unit :=
  modify fun use => { use with module := change use.module }

/-- Calls a function of the module. -/
def callWith (call : (CodeText → Option (Value ρ)) → CodeText → Action σ (Value ρ))
    (given : CodeText) : Action (Use σ ρ) (Value ρ) := do
  inWorld (call (← get).module.names given)

/-- Looks up what the module has under a name. -/
def lookUp (key : CodeText) : Action (Use σ ρ) (Member σ ρ) := do
  alter (·.lookedAt key)
  let module := (← get).module
  match module.member? key, module.attributes.get? missingKey with
  | some member, _ => return member
  | none, some (.callable call) => return .held (.plain (← callWith call key))
  | none, some (.plain _) => throw .badCall
  | none, none => throw .noAttribute

/-- Looks up what the module has under a name, if it has anything. -/
def lookUp? (key : CodeText) : Action (Use σ ρ) (Option (Member σ ρ)) := do
  try
    return some (← lookUp key)
  catch
    | .noAttribute => return none
    | fault => throw fault

/-- Sets an attribute from outside.  What is fixed for all modules stays as it is. -/
def assign (key : CodeText) (value : Value ρ) : Action (Use σ ρ) Unit :=
  if key = kindKey then throw .badCall
  else if key = namesKey then throw .noAttribute
  else alter (·.define [(key, .plain value)])

/-- Takes an attribute away.  What is fixed or inherited stays. -/
def remove (key : CodeText) : Action (Use σ ρ) Unit := do
  if key = kindKey then
    throw .badCall
  let attributes := (← get).module.attributes
  if key = namesKey ∨ ¬ attributes.contains key then
    throw .noAttribute
  alter fun module => { module with attributes := module.attributes.erase key }

/-- Names the module anew, and blanks where it came from. -/
def rename (name : CodeText) : Action (Use σ ρ) Unit :=
  alter (·.define ((nameKey, .plain (.text name)) ::
    [docKey, packageKey, loaderKey, originKey].map fun key => (key, .plain .null)))

/-! ## Descriptions -/

/-- How data are shown inside a description. -/
def Member.shown? : Member σ ρ → Option CodeText
  | .held (.plain (.data value)) => some (String.ofList value.displayInside)
  | _ => none

/-- A description that says a name and something more; it is left open if one of them is. -/
def describedBy (name? rest? : Option CodeText) : Value ρ :=
  match name?, rest? with
  | some name, some rest => .text ("<module " ++ name ++ rest ++ ">")
  | _, _ => .other

/-- How a text is shown inside a description. -/
def shownText (text : CodeText) : CodeText := String.ofList (Json.str text).displayInside

/-- Describes the module by its name, and by its file if it has one. -/
def describeByName (loader? : Option (Member σ ρ)) : Action (Use σ ρ) (Value ρ) := do
  let name? ← lookUp? nameKey
  match name?, loader? with
  | some name, some (.held (.plain (.loader true))) =>
    return describedBy name.shown? (some " (namespace)")
  | _, _ =>
    let shownName := match name? with
      | some name => name.shown?
      | none => some (shownText "?")
    match ← lookUp? fileKey with
    | some file => return describedBy shownName (file.shown?.map (" from " ++ ·))
    | none =>
      match loader? with
      | none => return describedBy shownName (some "")
      | some (.held (.plain (.data .null))) => return describedBy shownName (some "")
      | some loader =>
        return describedBy shownName (loader.shown?.map fun text => " (" ++ text ++ ")")

/-- Describes the module by where it comes from; where that is blank, by its name. -/
def describe : Action (Use σ ρ) (Value ρ) := do
  let loader? ← lookUp? loaderKey
  match ← lookUp? originKey with
  | some (.held (.plain (.origin name? file?))) =>
    return describedBy (name?.map shownText) (file?.map fun file => " from " ++ shownText file)
  | some origin => if origin.isBlank then describeByName loader? else throw .noAttribute
  | none => describeByName loader?

/-! ## Calls -/

/-- Calls an operation with the path of a configuration. -/
def Operation.call (operation : Operation) (configPath : CodeText) :
    Action (Use σ ρ) (Value ρ) :=
  match operation with
  | refuses => throw .badCall
  | ignores => return .other
  | looksUp => do return (← lookUp configPath).value
  | removes => do
    remove configPath
    return .null
  | renames => do
    rename configPath
    return .null
  | describes => if configPath = "" then describe else throw .badCall

/-- How a member is called, if it can be. -/
def Member.call? : Member σ ρ → Option (CodeText → Action (Use σ ρ) (Value ρ))
  | .held (.callable call) => some (callWith call)
  | .held (.plain _) => none
  | .operation work => some work.call

end TypeTest.Modules
