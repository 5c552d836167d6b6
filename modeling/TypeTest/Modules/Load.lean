import TypeTest.Modules.Import

/-!
# Loading a module from its location

A first component that stands for the home directory of a user is replaced by it.  What is to be
taken for a path then leads to a module file or a package, which is executed each time it is loaded
and stays unknown by name: the name that it is entered under while it is there is a digest of its
path, by which nothing asks for it, and is left out.  Any other location is a dotted name, which is
imported.

If importing ends because a module is not there, that means a missing checker only if the absent
module is the one at the location or one above it, or if it is not said which one it is.  Otherwise
the checker module is there and asks for something that is not, and its fault is passed on.
-/

namespace TypeTest.Modules

variable {σ ρ : Type}

/-- A loaded module: one of its own, loaded from a path, or the one that is known by a name. -/
inductive Loaded (σ ρ : Type) where
  | fromPath (module : Module σ ρ)
  | byName (name : CodeText)

/-- The file to execute at a path. -/
def Tree.moduleFileAt (tree : Tree σ ρ) (path : Path) : Except Fault Path := do
  if ¬ (← tree.isThere path.text) then
    throw (.load (.notFound path.text))
  if tree.isDirectory path then
    if tree.isFile (path ++ [packageFile]) then return path ++ [packageFile]
    else throw (.load (.notAPackage path.text))
  else if moduleEndings.any fun ending => (path.getLast?.map (endsIn ending)).getD false then
    return path
  else throw (.load (.notAModule path.text))

/-- What is found by going to a module file itself. -/
def foundAt (path : Path) : Found :=
  if path.getLast? = some packageFile then .package path (Path.text path.dropLast)
  else .file path (Path.text path.dropLast)

/-- The attributes that a module has before its body runs, if it is loaded from its file.  Its name
is left open, and so is its package, unless it can only belong to none. -/
def unnamedAttributes (path : Path) : List (CodeText × Attribute σ ρ) :=
  let found := foundAt path
  match found with
  | .file _ _ =>
    let file := path.getLast?.getD ""
    let single := (nameParts file).length = 2 ∧ file ≠ moduleEnding
    found.attributes none (if single then some "" else none)
  | _ => found.attributes none none

/-- Executes a file as a module that is not known by name. -/
def executeUnnamed (tree : Tree σ ρ) (path : Path) : Action (Imports σ ρ) (Loaded σ ρ) := do
  unless (path.getLast?.map namesModule).getD false do
    throw .notExecutable
  let body := (tree.files.get? path).getD {}
  modify (·.noteExecuted path)
  importAll tree (tree.namesAskedFor []) body.imports
  body.raise
  return .fromPath (Module.define {} (unnamedAttributes path ++ body.attributes))

/-- Loads the module at a path. -/
def loadPath (tree : Tree σ ρ) (path : Path) : Action (Imports σ ρ) (Loaded σ ρ) := do
  executeUnnamed tree (← MonadExcept.ofExcept (tree.moduleFileAt path))

/-- Is a module the one with a given name, or one above it? -/
def isAtOrAbove (module name : CodeText) : Bool :=
  name == module || (module ++ ".").codes.isPrefixOf name.codes

/-- The fault of a load by name that ended with a fault of the import. -/
def faultOfImport (location : CodeText) : Fault → Fault
  | .moduleNotFound missing? =>
    if missing?.all (isAtOrAbove · location) then .load (.notFound location)
    else .moduleNotFound missing?
  | fault => fault

/-- Loads the module with a dotted name, which may not begin with a dot. -/
def loadName (tree : Tree σ ρ) (name : CodeText) : Action (Imports σ ρ) (Loaded σ ρ) := do
  if name.codes.head? = some '.'.toNat then
    throw .relativeName
  try
    importName tree name
  catch fault =>
    throw (faultOfImport name fault)
  return .byName name

/-- Loads the checker module at a location. -/
def load (tree : Tree σ ρ) (location : CodeText) : Action (Imports σ ρ) (Loaded σ ρ) := do
  match ← MonadExcept.ofExcept (tree.pathAt? location) with
  | some path =>
    unless isPossible path do
      throw .impossiblePath
    loadPath tree (tree.resolve path)
  | none => loadName tree location

end TypeTest.Modules
