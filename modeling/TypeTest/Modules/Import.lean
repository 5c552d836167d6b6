import TypeTest.Modules.Tree

/-!
# Importing by name

A dotted name is imported part by part: first the name without its last part, then the part
itself, looked up in the places that the module above has for its submodules.  A module is
executed the first time it is imported and known under its name from then on; it is known before
its body runs, so that modules may import each other, and it is forgotten again if its body
raises.  Once a module is imported, it is an attribute of the module above it.

A known module does not need the modules above it, and they may have been forgotten since.  A
body that imports such a module has the topmost one imported again all the same; a request by
name alone does not.

A body that runs may import other modules, so importing and executing call each other.  A module
whose body is running is known, so the names of the bodies that are running differ.  `idle` keeps
the other names that can be asked for: it gets shorter with each body that is entered, and that is
why importing ends.  It is names that count, not files, since a file can be running under several.
-/

namespace TypeTest.Modules

variable {σ ρ : Type}

/-- The modules known by name, the files executed so far, in order, and the world in which the
functions of modules work. -/
structure Imports (σ ρ : Type) where
  modules : Assoc CodeText (Module σ ρ) := .empty
  executed : List Path := []
  world : σ

namespace Imports

/-- Is a module known? -/
def knows (imports : Imports σ ρ) (name : CodeText) : Bool := imports.modules.contains name

/-- Makes a module known. -/
def learn (imports : Imports σ ρ) (name : CodeText) (module : Module σ ρ) : Imports σ ρ :=
  { imports with modules := imports.modules.insert name module }

/-- Forgets a module. -/
def forget (imports : Imports σ ρ) (name : CodeText) : Imports σ ρ :=
  { imports with modules := imports.modules.erase name }

/-- Notes that a file is executed. -/
def noteExecuted (imports : Imports σ ρ) (path : Path) : Imports σ ρ :=
  { imports with executed := imports.executed ++ [path] }

end Imports

/-- Takes a step with a module.  What becomes of the module is given back beside the result. -/
def useModule (module : Module σ ρ) (step : Action (Use σ ρ) β) :
    Action (Imports σ ρ) (Except Fault β × Module σ ρ) := fun imports =>
  match step ⟨module, imports.world⟩ with
  | .ok value use => .ok (.ok value, use.module) { imports with world := use.world }
  | .error fault use => .ok (.error fault, use.module) { imports with world := use.world }

/-- Takes a step with the module that is known under a name. -/
def useKnown (name : CodeText) (step : Action (Use σ ρ) β) : Action (Imports σ ρ) β := do
  match (← get).modules.get? name with
  | none => throw (.forgotten name)
  | some module =>
    let (result, module) ← useModule module step
    modify (·.learn name module)
    MonadExcept.ofExcept result

/-- Fails as the body says. -/
def Body.raise (body : Body σ ρ) : Action (Imports σ ρ) Unit :=
  match body.raises with
  | some fault => throw fault
  | none => return

/-! ## Looking up what is below a module -/

/-- The places that a known module names for its submodules, as what it has under the name for
them says.  Those of a bare directory are looked up again each time, in the places of the module
above it. -/
def placesIn (tree : Tree σ ρ) : (parts : List CodeText) → Member σ ρ →
    Action (Imports σ ρ) (List CodeText)
  | part :: above, .held (.plain (.places known)) => do
    let around ← match above with
      | [] => pure (tree.roots.map Path.text)
      | _ :: _ => do placesIn tree above (← useKnown (dotted above) (lookUp placesKey))
    match ← MonadExcept.ofExcept (tree.find? part around) with
    | some (.directories places) => return places
    | _ => return known
  | _, member => MonadExcept.ofExcept member.value.listed

/-- Looks a name up below the modules above it, which are known by now.  A module that has no
places has no submodules; if it has nothing there but says so, all roots are taken. -/
def locate (tree : Tree σ ρ) (part : CodeText) (above : List CodeText) :
    Action (Imports σ ρ) Found := do
  let missing := Fault.moduleNotFound (some (dotted (part :: above)))
  let roots := tree.roots.map Path.text
  if above = [] then
    match ← MonadExcept.ofExcept (tree.find? part roots) with
    | some found => return found
    | none => throw missing
  else
    match ← useKnown (dotted above) (lookUp? placesKey) with
    | none => throw missing
    | some member =>
      let origin ← useKnown (dotted above) (lookUp originKey)
      let places ← match member with
        | .held (.plain (.data .null)) => pure roots
        | _ => placesIn tree above member
      match ← MonadExcept.ofExcept (tree.find? part places) with
      | none => throw missing
      | some found =>
        -- a bare directory asks the module above for its places once more
        if found.file?.isNone then
          discard (placesIn tree above (← useKnown (dotted above) (lookUp placesKey)))
        match origin with
        | .held (.plain (.origin _ _)) => return found
        | _ => if origin.isBlank then return found else throw .noAttribute

/-- Makes an imported module an attribute of the one above it. -/
def attach (part : CodeText) (above : List CodeText) : Action (Imports σ ρ) Unit :=
  if above = [] then return
  else
    try
      useKnown (dotted above) (assign part .other)
    catch
      | .noAttribute => return
      | fault => throw fault

mutual

/-- Imports the module with given parts of its name, last part first. -/
def importParts (tree : Tree σ ρ) (idle : List CodeText) (parts : List CodeText) :
    Action (Imports σ ρ) Unit :=
  match parts with
  | [] => return
  | part :: above => do
    let name := dotted (part :: above)
    unless (← get).knows name do
      importParts tree idle above
      -- importing the modules above may have brought this one in
      unless (← get).knows name do
        let found ← locate tree part above
        let package := match found with
          | .file _ _ => dotted above
          | _ => name
        modify (·.learn name (Module.define {} (found.attributes (some name) (some package))))
        match found.file? with
        | some path => execute tree idle name path
        | none => pure ()
        attach part above
termination_by (idle.length, 0, parts.length)

/-- Executes the file of a module that has just become known. -/
def execute (tree : Tree σ ρ) (idle : List CodeText) (name : CodeText) (path : Path) :
    Action (Imports σ ρ) Unit :=
  match tree.files.get? path with
  | none => return
  | some body =>
    if _isIdle : name ∈ idle then do
      try
        unless (path.getLast?.map namesModule).getD false do
          throw .notExecutable
        modify (·.noteExecuted path)
        importAll tree (idle.erase name) body.imports
        body.raise
      catch fault =>
        modify (·.forget name)
        throw fault
      useKnown name (alter (·.define body.attributes))
    else return
termination_by (idle.length, 0, 0)
decreasing_by
  apply Prod.Lex.left
  rw [List.length_erase_of_mem _isIdle]
  have := List.length_pos_of_mem _isIdle
  omega

/-- Imports what a body asks for, one name after the other.  The body gets to see the topmost
module of a name, so that one is imported too, once the whole name is. -/
def importAll (tree : Tree σ ρ) (idle : List CodeText) (names : List CodeText) :
    Action (Imports σ ρ) Unit :=
  match names with
  | [] => return
  | name :: names => do
    importParts tree idle (nameParts name)
    importParts tree idle [topmost name]
    importAll tree idle names
termination_by (idle.length, 1, names.length)

end

/-- Imports a module by its dotted name.  One that is known already is only asked where it comes
from. -/
def importName (tree : Tree σ ρ) (name : CodeText) : Action (Imports σ ρ) Unit := do
  if (← get).knows name then
    discard (useKnown name (lookUp? originKey))
  else
    importParts tree (tree.namesAskedFor [name]) (nameParts name)

end TypeTest.Modules
