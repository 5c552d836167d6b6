import TypeTest.Modules.Location
import TypeTest.Modules.Module

/-!
# File trees with modules

A file tree holds module files at paths, and further directories.  Every directory on the way to
something exists, and the root always does.  A module's body imports other modules by name, may
raise a fault, and then makes its definitions.

Names are looked up in places, which are texts that name directories: for a name the package of
that name comes first, then the module file, and last a directory that is no package, which can
hold modules all the same.
-/

namespace TypeTest.Modules

/-- What happens when a module is executed. -/
structure Body (σ ρ : Type) where
  imports : List CodeText := []
  raises : Option Fault := none
  definitions : List (CodeText × Attribute σ ρ) := []

/-- What a body leaves under names: the topmost module of each import, then its definitions. -/
def Body.attributes (body : Body σ ρ) : List (CodeText × Attribute σ ρ) :=
  body.imports.map (fun name => (topmost name, .plain .other)) ++ body.definitions

/-- Module files and directories, the directory that relative locations start from, the directories
in which names are looked up, and the home directories of users, by name; under no name it is that
of the user who runs the program. -/
structure Tree (σ ρ : Type) where
  files : Assoc Path (Body σ ρ) := .empty
  directories : List Path := []
  working : Path := []
  roots : List Path := []
  homes : Assoc CodeText CodeText := .empty

/-- What is found under a name. -/
inductive Found where
  /-- A module file, by the place where it is. -/
  | file (path : Path) (place : CodeText)
  /-- A package: the file to execute, and the place of its submodules. -/
  | package (path : Path) (place : CodeText)
  /-- Directories without a file to execute. -/
  | directories (places : List CodeText)
  deriving DecidableEq, Repr

/-- The file that makes a directory a package, without its ending. -/
def packageStem : CodeText := "__init__"

/-- The file that makes a directory a package. -/
def packageFile : CodeText := packageStem ++ moduleEnding

namespace Found

variable {σ ρ : Type}

/-- The file to execute for what was found. -/
def file? : Found → Option Path
  | .file path _ => some path
  | .package path _ => some path
  | .directories _ => none

/-- The attributes that say where the file of a module is. -/
def fileAttributes (path : Path) (place : CodeText) : List (CodeText × Attribute σ ρ) :=
  let file := path.getLast?.getD ""
  [(fileKey, .plain (.text (inside place file))),
    (compiledKey, .plain (.text (compiledText place file))), (builtinsKey, .plain .other)]

/-- The text of the file for what was found. -/
def fileText? : Found → Option CodeText
  | .file path place => some (inside place (path.getLast?.getD ""))
  | .package path place => some (inside place (path.getLast?.getD ""))
  | .directories _ => none

/-- The attributes of a module before its body runs, if it has a given name and belongs to a given
package.  Either may be left open. -/
def attributes (found : Found) (name? package? : Option CodeText) :
    List (CodeText × Attribute σ ρ) :=
  [(nameKey, .plain (.text? name?)), (docKey, .plain .null), (packageKey, .plain (.text? package?)),
    (loaderKey, .plain (.loader found.file?.isNone)),
    (originKey, .plain (.origin name? found.fileText?))] ++
  match found with
  | .file path place => fileAttributes path place
  | .package path place =>
    (placesKey, .plain (.data (.arr [.str place]))) :: fileAttributes path place
  | .directories places => [(placesKey, .plain (.places places)), (fileKey, .plain .null)]

end Found

namespace Tree

variable {σ ρ : Type}

/-! ## Paths -/

/-- Is there a file at a path? -/
def isFile (tree : Tree σ ρ) (path : Path) : Bool := tree.files.contains path

/-- Is there a directory at a path? -/
def isDirectory (tree : Tree σ ρ) (path : Path) : Bool :=
  path.isEmpty || tree.directories.any path.isPrefixOf ||
    tree.files.keys.any fun file => path.isPrefixOf file && path != file

/-- Is there anything where the components lead?  Each component is only looked up in a directory
that is there, the step upwards too; no directory can be asked for too long a name. -/
def reaches (tree : Tree σ ρ) (base : Path) : List CodeText → Except Fault Bool
  | [] => .ok (tree.isFile base || tree.isDirectory base)
  | part :: parts =>
    if tree.isDirectory base then
      if part = ".." then tree.reaches base.dropLast parts
      else if longestName < byteSize part then .error .pathTooLong
      else tree.reaches (base ++ [part]) parts
    else .ok false

/-- The directory that a location starts from. -/
def baseOf (tree : Tree σ ρ) (location : CodeText) : Path :=
  if isAbsolute location then [] else tree.working

/-- The path that a location resolves to. -/
def resolve (tree : Tree σ ρ) (location : CodeText) : Path :=
  Modules.resolve (tree.baseOf location) (components location)

/-- Is there anything at a location? -/
def isThere (tree : Tree σ ρ) (location : CodeText) : Except Fault Bool :=
  if ¬ isPossible location then .ok false
  else if longestPath < byteSize (plainText location) then .error .pathTooLong
  else tree.reaches (tree.baseOf location) (components location)

/-- A location with the home directory of a user in the place of a first component that stands for
it.  That directory is known by the name of the user, and it must not stand for another one. -/
def expand (tree : Tree σ ρ) (location : CodeText) : Except Fault CodeText :=
  match isAbsolute location, components location with
  | false, first :: parts =>
    match homeUser? first with
    | none => .ok location
    | some user =>
      if ¬ isPossible user then .error .impossiblePath
      else
        match (tree.homes.get? user).map withoutStrokes with
        | none => .error .noHome
        | some home =>
          if (homeUser? home).isSome then .error .noHome
          else .ok (CodeText.intercalate "/" ((if home = "" then "/" else home) :: parts))
  | _, _ => .ok location

/-- The path that a location is to be taken for, if it is to be taken for one: if it ends like a
module file, or if there is anything. -/
def pathAt? (tree : Tree σ ρ) (location : CodeText) : Except Fault (Option CodeText) := do
  let path ← tree.expand location
  if looksLikeModule path then return some path
  else if ← tree.isThere path then return some path
  else return none

/-! ## Names -/

/-- The directory that a place names, if there is one. -/
def directoryAt? (tree : Tree σ ρ) (place : CodeText) : Option Path :=
  match tree.isThere place with
  | .ok true => if tree.isDirectory (tree.resolve place) then some (tree.resolve place) else none
  | _ => none

/-- The whole text of a place. -/
def wholeText (tree : Tree σ ρ) (place : CodeText) : CodeText :=
  if isAbsolute place then place
  else if place = "" ∨ place = "." then tree.working.text
  else inside tree.working.text place

/-- The file among the module files with a given stem. -/
def moduleFile? (tree : Tree σ ρ) (directory : Path) (stem : CodeText) : Option Path :=
  (moduleEndings.map fun ending => directory ++ [stem ++ ending]).find? tree.isFile

/-- What a place has under a name. -/
def findIn? (tree : Tree σ ρ) (name place : CodeText) : Option Found :=
  (tree.directoryAt? place).bind fun directory =>
    let whole := tree.wholeText place
    let within := directory ++ [name]
    match tree.moduleFile? within packageStem, tree.moduleFile? directory name with
    | some path, _ => some (.package path (inside whole name))
    | none, some path => some (.file path whole)
    | none, none =>
      if tree.isDirectory within then some (.directories [inside whole name]) else none

/-- What some places have under a name: the first that has a file decides, and bare directories
only count if none has. -/
def find? (tree : Tree σ ρ) (name : CodeText) :
    (places : List CodeText) → Except Fault (Option Found)
  | [] => .ok none
  | place :: places =>
    if isPossible place then
      match tree.findIn? name place with
      | none => tree.find? name places
      | some (.directories found) => do
        match ← tree.find? name places with
        | none => return some (.directories found)
        | some (.directories more) => return some (.directories (found ++ more))
        | some better => return some better
      | some found => .ok (some found)
    else .error .impossiblePath

/-- All names that modules can get while some are asked for: those, the ones that bodies ask for,
and all above them. -/
def namesAskedFor (tree : Tree σ ρ) (names : List CodeText) : List CodeText :=
  (names ++ tree.files.entries.flatMap fun entry => entry.2.imports).flatMap
    fun name => namesUpTo (nameParts name)

end Tree

end TypeTest.Modules
