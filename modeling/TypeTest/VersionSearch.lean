import TypeTest.Options
import TypeTest.Run
import TypeTest.Verification

/-!
# The rule and its search for a version boundary

Without options a file is verified once, by the checker of its host.  With options it is verified
by version: the newest first, whose failures are reported as they are.  Only a file that passes
there is tried on older versions: on the oldest, since passing on both ends is taken for passing
everywhere, and if it fails there, on all of them from newest to oldest until one fails.  That
one is the boundary, and its failures name the version above it, on which the file passed.

The oldest version is tried a second time when the search comes down to it, since its failures
are to carry another stamp; the session keeps its checker.
-/

namespace TypeTest

/-- A program under test: what identifies it, and its own checker. -/
structure Host (η σ α τ : Type) where
  key : η
  checker : Checker σ α τ

/-- A rule: its options, if it has any, and how a checker is built from a configuration and an
install; a build may also have nothing to give. -/
structure Rule (σ α τ : Type) where
  options : Option Options
  build : (configPath : CodeText) → (install : Install) → Action σ (Option (Checker σ α τ))

namespace Rule

/-! ## What a rule tells about itself -/

/-- The version of this library. -/
def libraryVersion : String := "0.1.0"

/-- The name by which a rule is switched on. -/
def name : String := "expect"

/-- What the rule does. -/
def description : String :=
  "Asserts types with $ExpectType and presence of errors with $ExpectError."

/-- What its options say. -/
def optionsDescription : String :=
  "Project configuration path, the 'next' checker and older installs, oldest first."

/-- The rule asks for types, so it cannot run on a bare tree. -/
def requiresTypeInfo : Bool := true

/-- A one-line summary. -/
def summary : String := s!"<ExpectRule '{name}'>"

/-- What the checker is called in messages. -/
def label (rule : Rule σ α τ) : CodeText :=
  (rule.options.map (·.label)).getD defaultLabel

/-! ## Verification by version -/

variable {η σ α τ : Type} [DecidableEq η]

/-- The failures of a file under one version, which the session builds unless it keeps it. -/
def failuresUnder (rule : Rule σ α τ) (options : Options) (file : String)
    (host : Host η σ α τ) (install : Install) (above : Option CodeText) :
    Action (Run η σ (Checker σ α τ)) (List Failure) := do
  let checker ← Run.obtain host.key install.version (rule.build options.configPath install)
  Run.onWorld ((checker.getD .unusable).verify file
    { version := install.version, above, label := options.label })

/-- The failures of a file under one version, for a rule with options. -/
def failuresOn (rule : Rule σ α τ) (file : String) (host : Host η σ α τ) (install : Install)
    (above : Option CodeText) : Action (Run η σ (Checker σ α τ)) (List Failure) :=
  match rule.options with
  | none => throw (.options .neededForVersions)
  | some options => rule.failuresUnder options file host install above

/-- The failures under the first of some installs that has any; there must be one that has. -/
def firstFailing (rule : Rule σ α τ) (options : Options) (file : String)
    (host : Host η σ α τ) :
    List (Install × CodeText) → Action (Run η σ (Checker σ α τ)) (List Failure)
  | [] => throw (.search ⟨file, options.oldest.version⟩)
  | (install, above) :: installs => do
    Run.note (.testing install.version)
    let failures ← rule.failuresUnder options file host install (some above)
    if failures.isEmpty then rule.firstFailing options file host installs
    else return failures

/-- The failures of a file under the newest version that fails, found from both ends. -/
def search (rule : Rule σ α τ) (options : Options) (file : String) (host : Host η σ α τ) :
    Action (Run η σ (Checker σ α τ)) (List Failure) := do
  let newest ← rule.failuresUnder options file host options.nextInstall none
  if !newest.isEmpty then return newest
  else
    let oldest ← rule.failuresUnder options file host options.oldest none
    if oldest.isEmpty then
      Run.note (.spared file options.oldest.version)
      return []
    else rule.firstFailing options file host options.newestFirst

/-- The failures of a file; a file without failures passes. -/
def verify (rule : Rule σ α τ) (file : String) (host : Host η σ α τ) :
    Action (Run η σ (Checker σ α τ)) (List Failure) :=
  match rule.options with
  | none => Run.onWorld (host.checker.verify file { version := nextVersion, label := rule.label })
  | some options => rule.search options file host

end Rule

end TypeTest
