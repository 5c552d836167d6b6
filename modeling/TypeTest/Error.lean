import TypeTest.CodeText

/-!
# Errors

Only what stops a verification is an error; whatever can be mended in the file under test is a
failure, and failures are results.  Each error has a cause, and every cause is reported in one
way: a family, a stable code and a text.

A run also passes on what its collaborators (checkers, their modules and factories) raise.
`Fault` holds both, and beside them the ways in which a collaborator can be unusable.
-/

namespace TypeTest

/-! ## Codes -/

/-- Stable identifiers of reported errors: 1xxx for options, 2xxx for loading, 9xxx for states
that should not occur. -/
inductive ErrorCode where
  | missingOption | invalidOption | noOlderInstalls | duplicateVersion | reservedVersion
  | unreadableOptions
  | checkerNotFound | factoryMissing
  | unreachableVersionState
  deriving DecidableEq, Repr

namespace ErrorCode

/-- All codes, in ascending order. -/
def all : List ErrorCode :=
  [.missingOption, .invalidOption, .noOlderInstalls, .duplicateVersion, .reservedVersion,
    .unreadableOptions, .checkerNotFound, .factoryMissing, .unreachableVersionState]

/-- The number of a code. -/
def number : ErrorCode → Nat
  | .missingOption => 1001
  | .invalidOption => 1002
  | .noOlderInstalls => 1003
  | .duplicateVersion => 1004
  | .reservedVersion => 1005
  | .unreadableOptions => 1006
  | .checkerNotFound => 2001
  | .factoryMissing => 2002
  | .unreachableVersionState => 9001

/-- The symbolic name of a code. -/
def symbol : ErrorCode → String
  | .missingOption => "MISSING_OPTION"
  | .invalidOption => "INVALID_OPTION"
  | .noOlderInstalls => "NO_OLDER_INSTALLS"
  | .duplicateVersion => "DUPLICATE_VERSION"
  | .reservedVersion => "RESERVED_VERSION"
  | .unreadableOptions => "UNREADABLE_OPTIONS"
  | .checkerNotFound => "CHECKER_NOT_FOUND"
  | .factoryMissing => "FACTORY_MISSING"
  | .unreachableVersionState => "UNREACHABLE_VERSION_STATE"

/-- The text by which a code is written: the number, with a common prefix. -/
def label (code : ErrorCode) : String := s!"EXP-{code.number}"

/-- The code that a text writes. -/
def ofLabel? (label : String) : Option ErrorCode :=
  all.find? fun code => code.label == label

/-- Every code is listed. -/
theorem mem_all (code : ErrorCode) : code ∈ all := by
  cases code <;> decide

end ErrorCode

/-! ## Reports -/

/-- The families of reported errors. -/
inductive ErrorFamily where
  /-- Not one of the others. -/
  | general
  /-- Options are missing, malformed or inconsistent. -/
  | configuration
  /-- A checker module could not be located, or has no factory. -/
  | checkerLoad
  /-- The version search contradicts its own precondition. -/
  | invariant
  deriving DecidableEq, Repr

namespace ErrorFamily

/-- All families. -/
def all : List ErrorFamily := [.general, .configuration, .checkerLoad, .invariant]

/-- The code of an error of the family that names no other. -/
def defaultCode : ErrorFamily → ErrorCode
  | .general => .invalidOption
  | .configuration => .invalidOption
  | .checkerLoad => .checkerNotFound
  | .invariant => .unreachableVersionState

end ErrorFamily

/-- What is told of an error. -/
structure ErrorReport where
  family : ErrorFamily
  message : CodeText
  code : ErrorCode := family.defaultCode
  deriving DecidableEq, Repr

/-- The text of an error: its code in brackets, then the message. -/
def ErrorReport.text (report : ErrorReport) : CodeText :=
  s!"[{report.code.label}] " ++ report.message

/-! ## Causes -/

/-- Why options are refused. -/
inductive OptionsError where
  /-- A required key is absent. -/
  | missingKey (key : String)
  /-- The older installs are not given as a list. -/
  | installsNotList
  /-- The entry at an index does not have both a version name and a path. -/
  | badInstall (index : Nat)
  /-- No older version is named. -/
  | noInstalls
  /-- An older install takes the name that is kept for the newest checker. -/
  | reservedName
  /-- Two older installs have one name. -/
  | repeatedName (name : CodeText)
  /-- There is no file, or none that can be read as data, for a given reason. -/
  | unreadable (file reason : String)
  /-- The data of a file are not an object. -/
  | notAnObject (file : String)
  /-- A single version was asked for without options that name the versions. -/
  | neededForVersions
  deriving DecidableEq, Repr

namespace OptionsError

/-- The code of a cause. -/
def code : OptionsError → ErrorCode
  | missingKey _ => .missingOption
  | installsNotList => .invalidOption
  | badInstall _ => .invalidOption
  | noInstalls => .noOlderInstalls
  | reservedName => .reservedVersion
  | repeatedName _ => .duplicateVersion
  | unreadable _ _ => .unreadableOptions
  | notAnObject _ => .invalidOption
  | neededForVersions => .missingOption

/-- The message of a cause. -/
def message : OptionsError → CodeText
  | missingKey key => s!"missing required option '{key}'"
  | installsNotList => "older_installs must be a list"
  | badInstall index => s!"older_installs[{index}] needs 'version_name' and 'path'"
  | noInstalls => "older_installs must name at least one version"
  | reservedName => "'next' is reserved and cannot be an older install"
  | repeatedName name => "version '" ++ name ++ "' is listed twice"
  | unreadable file reason => s!"cannot read options from {file}: {reason}"
  | notAnObject file => s!"options in {file} must be a JSON object"
  | neededForVersions => "failures_for needs options naming the checker versions"

/-- The report of a cause. -/
def report (cause : OptionsError) : ErrorReport :=
  ⟨.configuration, cause.message, cause.code⟩

end OptionsError

/-- Why a checker cannot be had from its module. -/
inductive LoadError where
  /-- Nothing is found at a location. -/
  | notFound (location : CodeText)
  /-- A directory is no package. -/
  | notAPackage (path : CodeText)
  /-- A file is no module. -/
  | notAModule (path : CodeText)
  /-- The module for a version has nothing callable under the factory's name. -/
  | noFactory (version : CodeText) (factory : String)
  deriving DecidableEq, Repr

namespace LoadError

/-- The code of a cause. -/
def code : LoadError → ErrorCode
  | notFound _ => .checkerNotFound
  | notAPackage _ => .checkerNotFound
  | notAModule _ => .checkerNotFound
  | noFactory _ _ => .factoryMissing

/-- The message of a cause. -/
def message : LoadError → CodeText
  | notFound location => "checker module not found: " ++ location
  | notAPackage path => path ++ " is not a package (no __init__.py)"
  | notAModule path => "cannot load checker module from " ++ path
  | noFactory version factory =>
    "checker module for version " ++ version ++ s!" has no callable '{factory}'"

/-- The report of a cause. -/
def report (cause : LoadError) : ErrorReport :=
  ⟨.checkerLoad, cause.message, cause.code⟩

end LoadError

/-- The version search ran out of versions: the oldest one failed at first, and then none did. -/
structure SearchError where
  file : String
  oldest : CodeText
  deriving DecidableEq, Repr

namespace SearchError

/-- The message of an exhausted search. -/
def message (cause : SearchError) : CodeText :=
  s!"{cause.file}: version " ++ cause.oldest ++
    " failed but no configured version reproduces a failure"

/-- The report of an exhausted search. -/
def report (cause : SearchError) : ErrorReport :=
  ⟨.invariant, cause.message, .unreachableVersionState⟩

end SearchError

/-! ## Faults -/

/-- What can end a run before its result. -/
inductive Fault where
  /-- Options are refused. -/
  | options (cause : OptionsError)
  /-- A checker cannot be loaded. -/
  | load (cause : LoadError)
  /-- The version search found no boundary. -/
  | search (cause : SearchError)
  /-- A collaborator raised an error of its own, which is passed on as it is. -/
  | raised (text : String)
  /-- A module that is not there was asked for by name.  Code that raises this fault itself may
  leave the name out. -/
  | moduleNotFound (name? : Option CodeText)
  /-- A module that was known has been forgotten, and what is below it is asked for. -/
  | forgotten (name : CodeText)
  /-- A module was asked for by a name relative to no package. -/
  | relativeName
  /-- A location starts from the home directory of a user for whom there is none. -/
  | noHome
  /-- A module was asked for by a path that no file can have. -/
  | impossiblePath
  /-- A path, or a name on it, is longer than that of any file. -/
  | pathTooLong
  /-- A file holds a module in a form that cannot be executed here. -/
  | notExecutable
  /-- Modules were to be looked up in something that names no places. -/
  | noPlaces
  /-- Something was asked for in a way that it does not answer to. -/
  | badCall
  /-- A module has no attribute of the name asked for, or none that can be taken away. -/
  | noAttribute
  /-- A factory uses a name that its module does not have. -/
  | unboundName (name : String)
  /-- Something that is no checker was used as one. -/
  | notAChecker
  /-- An expression statement does not have its expression. -/
  | noExpression
  /-- A line or version was asked for by an index that names none. -/
  | outOfRange
  /-- A file cannot be read, for a given reason. -/
  | unreadable (reason : String)
  /-- What stands in a file is no data, for a given reason. -/
  | notData (reason : String)
  /-- A value that cannot be asked for a key was asked for one. -/
  | notKeyed
  /-- An object was asked for a key that it does not have. -/
  | noKey (key : String)
  deriving DecidableEq, Repr

/-- The report of a fault that is an error of this library; a fault of another's has none. -/
def Fault.report? : Fault → Option ErrorReport
  | .options cause => some cause.report
  | .load cause => some cause.report
  | .search cause => some cause.report
  | _ => none

end TypeTest
