import TypeTest.Error
import TypeTest.Failure
import TypeTest.Text.SignedIndex

/-!
# Options

Options name the project configuration that checkers are built from, the newest checker, and the
older versions to fall back on, oldest first.  There is always an older version, no two have one
name, and none has the name of the newest.
-/

namespace TypeTest

/-- An installed version and where its checker is loaded from. -/
structure Install where
  version : CodeText
  path : CodeText
  deriving DecidableEq, Repr

/-- Consistent options. -/
structure Options where
  configPath : CodeText
  nextPath : CodeText
  older : List Install
  label : CodeText
  nonempty : older ≠ []
  distinct : (older.map (·.version)).Nodup
  unreserved : ∀ install ∈ older, install.version ≠ nextVersion
  deriving DecidableEq, Repr

namespace Options

/-- The newest checker as an install. -/
def nextInstall (options : Options) : Install := ⟨nextVersion, options.nextPath⟩

/-- The oldest install. -/
def oldest (options : Options) : Install := options.older.head options.nonempty

/-- The name of the version just above the older install at an index. -/
def versionAbove? (options : Options) (index : Int) : Option CodeText :=
  if index = options.older.length - 1 then some nextVersion
  else (Text.signedGet? options.older (index + 1)).map (·.version)

/-- The older installs from newest to oldest, each with the name of the version above it. -/
def newestFirst (options : Options) : List (Install × CodeText) :=
  options.older.reverse.zip (nextVersion :: options.older.reverse.map (·.version))

/-- Where there are options there is an install to search. -/
theorem newestFirst_ne_nil (options : Options) : options.newestFirst ≠ [] := by
  unfold newestFirst
  cases reversed : options.older.reverse with
  | nil => exact absurd (List.reverse_eq_nil_iff.1 reversed) options.nonempty
  | cons install installs => simp

/-! ## Consistency -/

/-- The first install, in order, that has the name of the newest version or that of an earlier
one. -/
def firstClash? (seen : List CodeText) : List Install → Option OptionsError
  | [] => none
  | install :: installs =>
    if install.version = nextVersion then some .reservedName
    else if install.version ∈ seen then some (.repeatedName install.version)
    else firstClash? (install.version :: seen) installs

/-- Installs without a clash have names of their own. -/
theorem of_firstClash?_eq_none {seen : List CodeText} {installs : List Install}
    (clear : firstClash? seen installs = none) :
    (∀ install ∈ installs, install.version ≠ nextVersion ∧ install.version ∉ seen) ∧
      (installs.map (·.version)).Nodup := by
  fun_induction firstClash? seen installs with
  | case1 => simp
  | case2 => simp at clear
  | case3 => simp at clear
  | case4 seen install installs unreserved fresh ih =>
    obtain ⟨others, distinct⟩ := ih clear
    refine ⟨?_, ?_⟩
    · intro other mem
      rcases List.mem_cons.1 mem with rfl | mem
      · exact ⟨unreserved, fresh⟩
      · have := others other mem
        exact ⟨this.1, fun seen => this.2 (List.mem_cons_of_mem _ seen)⟩
    · rw [List.map_cons, List.nodup_cons]
      refine ⟨?_, distinct⟩
      intro mem
      obtain ⟨other, mem, same⟩ := List.mem_map.1 mem
      exact (others other mem).2 (by simp [same])

/-- Options with the given parts, if they are consistent. -/
def ofParts (configPath nextPath label : CodeText) (older : List Install) :
    Except OptionsError Options :=
  if nonempty : older = [] then .error .noInstalls
  else
    match clash : firstClash? [] older with
    | some cause => .error cause
    | none => .ok {
        configPath, nextPath, older, label, nonempty
        distinct := (of_firstClash?_eq_none clash).2
        unreserved := fun install mem => ((of_firstClash?_eq_none clash).1 install mem).1 }

end Options

end TypeTest
