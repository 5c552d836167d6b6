import Mathlib.Data.List.Forall2
import Mathlib.Data.List.Nodup
import Mathlib.Data.Option.Basic
import Mathlib.Tactic.Lemma
import TypeTest.Options.Reading

/-!
# Which objects give options

Reading options stops at the first thing that is wrong.  What is right is said here without any
reading: an object is `Valid` if it has the required members and a list of complete installs with
names of their own, and options are `StatedBy` an object if each of their texts is that of the
value in its place.

What can be wrong with an object is listed in `violations`, each thing on its own and in the order
of precedence.  Reading returns just the options that an object states, it is refused by the first
violation if there is one, and options that are written down as an object are read again as they
are (`ofJson_obj`).
-/

namespace TypeTest

/-- An item of a list states an install: it is an object with a version name and a path, and these
have the texts of the install. -/
structure Install.StatedBy (install : Install) (entry : Json) : Prop where
  version : (entry.member? "version_name").map Json.display = some install.version
  path : (entry.member? "path").map Json.display = some install.path

namespace Options

/-! ## What an object states -/

/-- What an object holds under a key. -/
def held? (members : List (CodeText × Json)) (key : String) : Option Json :=
  members.lookup (CodeText.ofString key)

/-- The label that an object gives, or the usual one. -/
def labelText (members : List (CodeText × Json)) : CodeText :=
  ((held? members "checker_label").map Json.display).getD defaultLabel

/-- An object states options: each of them is the text of the value in its place. -/
structure StatedBy (options : Options) (members : List (CodeText × Json)) : Prop where
  configPath : (held? members "config_path").map Json.display = some options.configPath
  nextPath : (held? members "next_path").map Json.display = some options.nextPath
  older : ∃ entries, held? members "older_installs" = some (.arr entries) ∧
    List.Forall₂ (fun entry install => install.StatedBy entry) entries options.older
  label : labelText members = options.label

/-- The text of the version that an item of a list names. -/
def versionText? (entry : Json) : Option CodeText :=
  (entry.member? "version_name").map Json.display

/-- Does an item of a list have what makes an install? -/
def isComplete (entry : Json) : Bool :=
  (entry.member? "version_name").isSome && (entry.member? "path").isSome

/-- Some items give a list of older installs. -/
structure ValidInstalls (entries : List Json) : Prop where
  nonempty : entries ≠ []
  complete : ∀ entry ∈ entries, isComplete entry = true
  distinct : (entries.map versionText?).Nodup
  unreserved : some nextVersion ∉ entries.map versionText?

/-- An object gives options. -/
structure Valid (members : List (CodeText × Json)) : Prop where
  present : ∀ key ∈ requiredKeys, (held? members key).isSome = true
  installs : ∃ entries, held? members "older_installs" = some (.arr entries) ∧
    ValidInstalls entries

/-! ## What is wrong with an object -/

/-- What is wrong if an object does not hold a key. -/
def absent (members : List (CodeText × Json)) (key : String) : List OptionsError :=
  if (held? members key).isNone then [.missingKey key] else []

/-- What is wrong with the items that do not make an install, by their indices from a first one
on. -/
def incomplete (first : Nat) (entries : List Json) : List OptionsError :=
  (entries.zipIdx first).filterMap fun (entry, index) =>
    if isComplete entry then none else some (.badInstall index)

/-- What is wrong with a list in which there is nothing. -/
def lacking {α : Type} (items : List α) : List OptionsError :=
  if items.isEmpty then [.noInstalls] else []

/-- What is wrong with a name that is reserved, or that has been used earlier. -/
def clash? (earlier : List CodeText) (name : CodeText) : Option OptionsError :=
  if name = nextVersion then some .reservedName
  else if name ∈ earlier then some (.repeatedName name)
  else none

/-- What is wrong with the names of a list, each in view of those before it, when more stand before
the list. -/
def clashes (before names : List CodeText) : List OptionsError :=
  names.zipIdx.filterMap fun (name, place) => clash? (before ++ names.take place) name

/-- What is wrong with the value that is given for the older installs. -/
def installFaults : Json → List OptionsError
  | .arr entries =>
    incomplete 0 entries ++ (lacking entries ++ clashes [] (entries.filterMap versionText?))
  | _ => [.installsNotList]

/-- All that is wrong with an object, in order of precedence. -/
def violations (members : List (CodeText × Json)) : List OptionsError :=
  requiredKeys.flatMap (absent members) ++
    (held? members "older_installs").toList.flatMap installFaults

/-! ## Steps that are refused -/

/-- A step of the reading is refused by the first of some causes, and goes well if there are
none. -/
def RefusedBy {β : Type} (causes : List OptionsError) (step : Except Fault β) : Prop :=
  ∀ fault, step = .error fault ↔ ∃ cause, causes.head? = some cause ∧ fault = .options cause

namespace RefusedBy

variable {β γ : Type} {causes more : List OptionsError} {step : Except Fault β}

lemma ok (value : β) : RefusedBy [] (.ok value) := by
  refine fun fault => ⟨nofun, ?_⟩
  rintro ⟨cause, hcause, -⟩
  cases hcause

lemma error (cause : OptionsError) (more : List OptionsError) :
    RefusedBy (cause :: more) (.error (.options cause) : Except Fault β) := by
  intro fault
  rw [Except.error.injEq, List.head?_cons]
  simp only [Option.some.injEq, exists_eq_left', eq_comm]

lemma returns_iff (hstep : RefusedBy causes step) : (∃ value, step = .ok value) ↔ causes = [] := by
  cases step with
  | ok value =>
    refine ⟨fun _ => ?_, fun _ => ⟨value, rfl⟩⟩
    refine List.head?_eq_none_iff.1 (Option.eq_none_iff_forall_ne_some.2 fun cause hcause => ?_)
    cases (hstep (.options cause)).2 ⟨cause, hcause, rfl⟩
  | error fault =>
    refine ⟨nofun, fun hnil => ?_⟩
    obtain ⟨cause, hhead, -⟩ := (hstep fault).1 rfl
    rw [hnil] at hhead
    cases hhead

/-- A step that goes well leaves it to the next one to find something wrong. -/
lemma bind {next : β → Except Fault γ} (hstep : RefusedBy causes step)
    (hnext : ∀ value, step = .ok value → RefusedBy more (next value)) :
    RefusedBy (causes ++ more) (step >>= next) := by
  cases hresult : step with
  | ok value =>
    have hnil : causes = [] := hstep.returns_iff.1 ⟨value, hresult⟩
    rw [hnil]
    exact hnext value hresult
  | error fault =>
    obtain ⟨cause, hhead, rfl⟩ := (hstep fault).1 hresult
    intro other
    show Except.error (.options cause) = Except.error other ↔ _
    rw [List.head?_append, hhead, Option.some_or, Except.error.injEq]
    simp only [Option.some.injEq, exists_eq_left', eq_comm]

end RefusedBy

/-- A sequence of two steps goes well only if both do. -/
lemma bind_eq_ok_iff {β γ : Type} {step : Except Fault β} {next : β → Except Fault γ}
    {result : γ} :
    (step >>= next) = .ok result ↔ ∃ value, step = .ok value ∧ next value = .ok result := by
  cases step with
  | ok value => exact ⟨fun hok => ⟨value, rfl, hok⟩, fun ⟨_, hvalue, hok⟩ =>
      Except.ok.inj hvalue ▸ hok⟩
  | error fault => exact ⟨nofun, fun ⟨_, hvalue, _⟩ => nomatch hvalue⟩

/-! ## Reading the installs -/

/-- Data that do not have something under a key fail in one of two ways when asked for it. -/
lemma atKey_eq {value : Json} {key : String} :
    value.atKey key = match value.member? key with
      | some member => .ok member
      | none => .error (if value.members?.isSome then .noKey key else .notKeyed) := by
  cases value with
  | obj members =>
    rw [Json.atKey, Json.member?, Json.members?, Option.bind_some]
    cases members.lookup (CodeText.ofString key) with
    | none => rfl
    | some member => rfl
  | _ => rfl

/-- The install that an entry gives, or what is wrong with the entry. -/
def installAt (index : Nat) (entry : Json) : Except Fault Install :=
  tryCatch (installOf entry) fun fault => throw (faultOfEntry index fault)

/-- Both ways to fail say that the entry is malformed. -/
lemma installAt_eq (index : Nat) (entry : Json) :
    installAt index entry = match entry.member? "version_name", entry.member? "path" with
      | some version, some path => .ok ⟨version.display, path.display⟩
      | _, _ => .error (.options (.badInstall index)) := by
  unfold installAt installOf
  rw [atKey_eq, atKey_eq]
  cases entry.member? "version_name" with
  | none => cases entry.members? <;> rfl
  | some version =>
    cases entry.member? "path" with
    | none => cases entry.members? <;> rfl
    | some path => rfl

lemma installAt_eq_ok_iff {index : Nat} {entry : Json} {install : Install} :
    installAt index entry = .ok install ↔ install.StatedBy entry := by
  have hstated : install.StatedBy entry ↔
      (entry.member? "version_name").map Json.display = some install.version ∧
        (entry.member? "path").map Json.display = some install.path :=
    ⟨fun hstated => ⟨hstated.version, hstated.path⟩, fun hstated => ⟨hstated.1, hstated.2⟩⟩
  obtain ⟨name, place⟩ := install
  rw [hstated, installAt_eq]
  cases entry.member? "version_name" with
  | none => simp
  | some version =>
    cases entry.member? "path" with
    | none => simp
    | some path => simp

lemma installAt_refusedBy (index : Nat) (entry : Json) :
    RefusedBy (if isComplete entry then [] else [.badInstall index]) (installAt index entry) := by
  rw [installAt_eq, isComplete]
  cases entry.member? "version_name" with
  | none => exact .error _ _
  | some version =>
    cases entry.member? "path" with
    | none => exact .error _ _
    | some path => exact .ok _

/-- One entry is read after the other. -/
lemma installsFrom_cons (first : Nat) (entry : Json) (entries : List Json) :
    installsFrom first (entry :: entries) = (do
      let install ← installAt first entry
      let installs ← installsFrom (first + 1) entries
      return install :: installs) :=
  rfl

lemma incomplete_cons (first : Nat) (entry : Json) (entries : List Json) :
    incomplete first (entry :: entries) =
      (if isComplete entry then [] else [.badInstall first]) ++ incomplete (first + 1) entries := by
  by_cases hcomplete : isComplete entry = true
  · simp [incomplete, List.zipIdx_cons, hcomplete]
  · simp [incomplete, List.zipIdx_cons, hcomplete]

/-- Reading the installs is refused by the first incomplete item. -/
lemma installsFrom_refusedBy (first : Nat) (entries : List Json) :
    RefusedBy (incomplete first entries) (installsFrom first entries) := by
  induction entries generalizing first with
  | nil => exact .ok _
  | cons entry entries ih =>
    rw [installsFrom_cons, incomplete_cons, ← List.append_nil (incomplete _ _)]
    refine (installAt_refusedBy first entry).bind fun install _ => ?_
    exact (ih (first + 1)).bind fun installs _ => .ok _

/-- The installs that are read are those that the items state, one after the other. -/
lemma installsFrom_eq_ok_iff {entries : List Json} {first : Nat} {installs : List Install} :
    installsFrom first entries = .ok installs ↔
      List.Forall₂ (fun entry install => install.StatedBy entry) entries installs := by
  induction entries generalizing first installs with
  | nil =>
    rw [installsFrom, List.forall₂_nil_left_iff]
    exact ⟨fun hok => (Except.ok.inj hok).symm, fun hnil => hnil ▸ rfl⟩
  | cons entry entries ih =>
    rw [installsFrom_cons, List.forall₂_cons_left_iff]
    simp only [bind_eq_ok_iff, installAt_eq_ok_iff, ih, pure, Except.pure, Except.ok.injEq]
    constructor
    · rintro ⟨install, hstated, rest, hrest, rfl⟩
      exact ⟨install, rest, hstated, hrest, rfl⟩
    · rintro ⟨install, rest, hstated, hrest, rfl⟩
      exact ⟨install, hstated, rest, hrest, rfl⟩

/-! ## Names -/

lemma clashes_cons (before : List CodeText) (name : CodeText) (names : List CodeText) :
    clashes before (name :: names) =
      (clash? before name).toList ++ clashes (before ++ [name]) names := by
  have hhead : clash? (before ++ (name :: names).take 0) name = clash? before name := by simp
  have htail : (names.zipIdx 1).filterMap
      (fun (other, place) => clash? (before ++ (name :: names).take place) other) =
        clashes (before ++ [name]) names := by
    rw [List.zipIdx_succ, List.filterMap_map, clashes]
    congr 1
    funext ⟨other, place⟩
    simp
  rw [← hhead, ← htail, clashes, List.zipIdx_cons, List.filterMap_cons]
  dsimp only
  cases clash? (before ++ (name :: names).take 0) name with
  | none => rfl
  | some cause => rfl

/-- Reading stops at the first clash. -/
lemma firstClash?_eq (seen : List CodeText) (installs : List Install) :
    firstClash? seen installs = (clashes seen.reverse (installs.map (·.version))).head? := by
  induction installs generalizing seen with
  | nil => rfl
  | cons install installs ih =>
    rw [firstClash?, List.map_cons, clashes_cons, ih, List.reverse_cons, clash?]
    simp only [List.mem_reverse]
    split
    · rfl
    · split
      · rfl
      · rfl

lemma clash?_eq_none_iff {earlier : List CodeText} {name : CodeText} :
    clash? earlier name = none ↔ name ≠ nextVersion ∧ name ∉ earlier := by
  unfold clash?
  split
  · simp [*]
  · split
    · simp [*]
    · simp [*]

/-- Names do not clash if they differ from each other, from those before them, and from the
reserved one. -/
lemma clashes_eq_nil_iff {before names : List CodeText} :
    clashes before names = [] ↔
      names.Nodup ∧ nextVersion ∉ names ∧ ∀ name ∈ names, name ∉ before := by
  induction names generalizing before with
  | nil => simp [clashes]
  | cons name names ih =>
    rw [clashes_cons, List.append_eq_nil_iff, ih, Option.toList_eq_nil_iff, clash?_eq_none_iff,
      List.nodup_cons, List.mem_cons, List.forall_mem_cons]
    constructor
    · rintro ⟨⟨hunreserved, hfresh⟩, hnodup, hreserved, hothers⟩
      refine ⟨⟨fun hmem => ?_, hnodup⟩, ?_, hfresh, fun other hmem hbefore => ?_⟩
      · exact hothers name hmem (List.mem_append_right _ List.mem_cons_self)
      · rintro (heq | hmem)
        · exact hunreserved heq.symm
        · exact hreserved hmem
      · exact hothers other hmem (List.mem_append_left _ hbefore)
    · rintro ⟨⟨hnew, hnodup⟩, hreserved, hfresh, hothers⟩
      refine ⟨⟨fun heq => hreserved (.inl heq.symm), hfresh⟩, hnodup,
        fun hmem => hreserved (.inr hmem), fun other hmem hbefore => ?_⟩
      rcases List.mem_append.1 hbefore with hbefore | hsame
      · exact hothers other hmem hbefore
      · exact hnew (List.mem_singleton.1 hsame ▸ hmem)

/-! ## Putting the parts together -/

section Parts

variable {configPath nextPath label : CodeText} {older : List Install}

/-- The parts are refused if there are no installs, or else by the first clash of their names. -/
lemma ofParts_refusedBy (configPath nextPath label : CodeText) (older : List Install) :
    RefusedBy (lacking older ++ clashes [] (older.map (·.version)))
      ((ofParts configPath nextPath label older).mapError .options) := by
  cases older with
  | nil =>
    rw [ofParts, dif_pos rfl]
    exact .error _ _
  | cons install installs =>
    have hclash : firstClash? [] (install :: installs) =
        (clashes [] ((install :: installs).map (·.version))).head? := firstClash?_eq [] _
    rw [ofParts, dif_neg (List.cons_ne_nil _ _), lacking, List.isEmpty_cons,
      if_neg Bool.false_ne_true, List.nil_append]
    split
    · rename_i cause hcause
      obtain ⟨more, hclashes⟩ := List.head?_eq_some_iff.1 (hclash.symm.trans hcause)
      rw [hclashes]
      exact .error cause more
    · rename_i hnone
      rw [List.head?_eq_none_iff.1 (hclash.symm.trans hnone)]
      exact .ok _

/-- The parts of options make up the options, and of nothing else. -/
lemma ofParts_eq_ok_iff {options : Options} :
    (ofParts configPath nextPath label older).mapError Fault.options = .ok options ↔
      configPath = options.configPath ∧ nextPath = options.nextPath ∧ label = options.label ∧
        older = options.older := by
  constructor
  · intro hok
    unfold ofParts at hok
    split at hok
    · cases hok
    · split at hok
      · cases hok
      · obtain rfl := Except.ok.inj hok
        exact ⟨rfl, rfl, rfl, rfl⟩
  · obtain ⟨_, _, installs, _, hnonempty, hdistinct, hunreserved⟩ := options
    rintro ⟨rfl, rfl, rfl, rfl⟩
    have hreserved : nextVersion ∉ older.map (·.version) := by
      intro hmem
      obtain ⟨install, hinstall, hname⟩ := List.mem_map.1 hmem
      exact hunreserved install hinstall hname
    have hnone : firstClash? [] older = none := by
      rw [firstClash?_eq, List.reverse_nil,
        clashes_eq_nil_iff.2 ⟨hdistinct, hreserved, fun _ _ => List.not_mem_nil⟩]
      rfl
    rw [ofParts, dif_neg hnonempty]
    split
    · rename_i cause hclash
      rw [hnone] at hclash
      cases hclash
    · rfl

end Parts

/-! ## Reading an object -/

/-- What comes of the value that is given for the older installs. -/
def ofInstalls (configPath nextPath label : CodeText) (installs : Json) : Except Fault Options := do
  let older ← installsOf installs
  (ofParts configPath nextPath label older).mapError .options

/-- The version names of the installs that are read are those of the items. -/
lemma map_version_of_stated {entries : List Json} {installs : List Install}
    (hstated : List.Forall₂ (fun entry install => Install.StatedBy install entry) entries
      installs) :
    entries.filterMap versionText? = installs.map (·.version) := by
  induction hstated with
  | nil => rfl
  | cons hfirst _ ih =>
    rw [List.filterMap_cons, versionText?, hfirst.version, List.map_cons]
    exact congrArg _ ih

lemma ofInstalls_refusedBy (configPath nextPath label : CodeText) (installs : Json) :
    RefusedBy (installFaults installs) (ofInstalls configPath nextPath label installs) := by
  cases installs with
  | arr entries =>
    refine (installsFrom_refusedBy 0 entries).bind fun older hinstalls => ?_
    have hstated := installsFrom_eq_ok_iff.1 hinstalls
    have hlacking : lacking entries = lacking older := by
      cases hstated with
      | nil => rfl
      | cons _ _ => rfl
    rw [map_version_of_stated hstated, hlacking]
    exact ofParts_refusedBy configPath nextPath label older
  | _ => exact .error _ _

lemma ofInstalls_eq_ok_iff {configPath nextPath label : CodeText} {installs : Json}
    {options : Options} :
    ofInstalls configPath nextPath label installs = .ok options ↔
      (∃ entries, installs = .arr entries ∧
        List.Forall₂ (fun entry install => install.StatedBy entry) entries options.older) ∧
      configPath = options.configPath ∧ nextPath = options.nextPath ∧ label = options.label := by
  cases installs with
  | arr entries =>
    rw [ofInstalls, installsOf, bind_eq_ok_iff]
    simp only [installsFrom_eq_ok_iff, ofParts_eq_ok_iff, Json.arr.injEq, exists_eq_left']
    constructor
    · rintro ⟨older, hstated, hconfig, hnext, hlabel, rfl⟩
      exact ⟨hstated, hconfig, hnext, hlabel⟩
    · rintro ⟨hstated, hconfig, hnext, hlabel⟩
      exact ⟨options.older, hstated, hconfig, hnext, hlabel, rfl⟩
  | _ =>
    refine ⟨nofun, ?_⟩
    rintro ⟨⟨entries, hentries, -⟩, -⟩
    cases hentries

variable {members : List (CodeText × Json)}

lemma absent_eq_nil_iff {key : String} :
    absent members key = [] ↔ (held? members key).isSome = true := by
  unfold absent
  cases held? members key with
  | none => simp
  | some value => simp

/-- The keys of an object are checked for those that are absent. -/
lemma checkKeys_refusedBy (members : List (CodeText × Json)) (keys : List String) :
    RefusedBy (keys.flatMap (absent members)) (checkKeys (.obj members) keys) := by
  induction keys with
  | nil => exact .ok _
  | cons key keys ih =>
    rw [List.flatMap_cons, absent, held?, checkKeys]
    cases hheld : members.lookup (CodeText.ofString key) with
    | none =>
      simp only [Json.holdsKey, hheld]
      exact .error _ _
    | some value =>
      simp only [Json.holdsKey, hheld]
      exact ih

lemma checkKeys_eq_ok_iff {keys : List String} :
    checkKeys (.obj members) keys = .ok () ↔
      ∀ key ∈ keys, (held? members key).isSome = true := by
  have hreturns := (checkKeys_refusedBy members keys).returns_iff
  simp only [List.flatMap_eq_nil_iff, absent_eq_nil_iff] at hreturns
  rw [← hreturns]
  exact ⟨fun hok => ⟨(), hok⟩, fun ⟨_, hok⟩ => hok⟩

/-- Once all required keys are found, the values under them are read. -/
lemma ofJson_obj_eq (hkeys : checkKeys (.obj members) requiredKeys = .ok ()) :
    ∃ config next installs, held? members "config_path" = some config ∧
      held? members "next_path" = some next ∧ held? members "older_installs" = some installs ∧
      ofJson (.obj members) =
        ofInstalls config.display next.display (labelText members) installs := by
  have hheld (key : String) (hkey : key ∈ requiredKeys) :
      ∃ value, held? members key = some value ∧ (Json.obj members).atKey key = .ok value := by
    obtain ⟨value, hvalue⟩ := Option.isSome_iff_exists.1 (checkKeys_eq_ok_iff.1 hkeys key hkey)
    refine ⟨value, hvalue, ?_⟩
    rw [atKey_eq, show (Json.obj members).member? key = some value from hvalue]
  obtain ⟨config, hconfig, hatConfig⟩ := hheld "config_path" (by decide)
  obtain ⟨next, hnext, hatNext⟩ := hheld "next_path" (by decide)
  obtain ⟨installs, hinstalls, hatInstalls⟩ := hheld "older_installs" (by decide)
  refine ⟨config, next, installs, hconfig, hnext, hinstalls, ?_⟩
  rw [ofJson, hkeys, hatConfig, hatNext, hatInstalls]
  rfl

/-- An object is refused by the first of its violations. -/
lemma ofJson_refusedBy (members : List (CodeText × Json)) :
    RefusedBy (violations members) (ofJson (.obj members)) := by
  have hsteps : ofJson (.obj members) =
      (checkKeys (.obj members) requiredKeys >>= fun _ => ofJson (.obj members)) := by
    unfold ofJson
    cases checkKeys (.obj members) requiredKeys with
    | ok _ => rfl
    | error fault => rfl
  rw [hsteps]
  refine (checkKeys_refusedBy members requiredKeys).bind fun _ hkeys => ?_
  obtain ⟨config, next, installs, -, -, hinstalls, hread⟩ := ofJson_obj_eq hkeys
  rw [hread, hinstalls, Option.toList_some, List.flatMap_singleton]
  exact ofInstalls_refusedBy _ _ _ installs

lemma StatedBy.checkKeys {options : Options} (hstated : options.StatedBy members) :
    checkKeys (.obj members) requiredKeys = .ok () := by
  obtain ⟨config, hconfig, -⟩ := Option.map_eq_some_iff.1 hstated.configPath
  obtain ⟨next, hnext, -⟩ := Option.map_eq_some_iff.1 hstated.nextPath
  obtain ⟨entries, hentries, -⟩ := hstated.older
  rw [checkKeys_eq_ok_iff]
  simp [requiredKeys, hconfig, hnext, hentries]

/-- The options that are read are those that the object states. -/
lemma ofJson_eq_ok_iff {options : Options} :
    ofJson (.obj members) = .ok options ↔ options.StatedBy members := by
  constructor
  · intro hok
    obtain ⟨_, hkeys, -⟩ := bind_eq_ok_iff.1 hok
    obtain ⟨config, next, installs, hconfig, hnext, hinstalls, hread⟩ := ofJson_obj_eq hkeys
    rw [hread, ofInstalls_eq_ok_iff] at hok
    obtain ⟨⟨entries, rfl, holder⟩, hconfigPath, hnextPath, hlabel⟩ := hok
    exact ⟨by rw [hconfig, ← hconfigPath]; rfl, by rw [hnext, ← hnextPath]; rfl,
      ⟨entries, hinstalls, holder⟩, hlabel⟩
  · intro hstated
    obtain ⟨config, next, installs, hconfig, hnext, hinstalls, hread⟩ :=
      ofJson_obj_eq hstated.checkKeys
    obtain ⟨entries, hentries, holder⟩ := hstated.older
    have hconfigPath := hstated.configPath
    have hnextPath := hstated.nextPath
    rw [hconfig] at hconfigPath
    rw [hnext] at hnextPath
    rw [hinstalls] at hentries
    rw [hread, ofInstalls_eq_ok_iff]
    exact ⟨⟨entries, Option.some.inj hentries, holder⟩, Option.some.inj hconfigPath,
      Option.some.inj hnextPath, hstated.label⟩

/-! ## Objects without violations -/

lemma incomplete_eq_nil_iff {first : Nat} {entries : List Json} :
    incomplete first entries = [] ↔ ∀ entry ∈ entries, isComplete entry = true := by
  induction entries generalizing first with
  | nil => exact ⟨fun _ => nofun, fun _ => rfl⟩
  | cons entry entries ih =>
    rw [incomplete_cons, List.append_eq_nil_iff, ih, List.forall_mem_cons]
    refine and_congr_left fun _ => ?_
    cases isComplete entry with
    | true => simp
    | false => simp

lemma lacking_eq_nil_iff {α : Type} {items : List α} : lacking items = [] ↔ items ≠ [] := by
  cases items with
  | nil => simp [lacking]
  | cons item items => simp [lacking]

/-- Complete items name their versions. -/
lemma map_versionText? {entries : List Json}
    (hcomplete : ∀ entry ∈ entries, isComplete entry = true) :
    entries.map versionText? = (entries.filterMap versionText?).map some := by
  induction entries with
  | nil => rfl
  | cons entry entries ih =>
    obtain ⟨hentry, hentries⟩ := List.forall_mem_cons.1 hcomplete
    have hsome : (versionText? entry).isSome = true := by
      rw [versionText?, Option.isSome_map]
      exact (Bool.and_eq_true_iff.1 hentry).1
    obtain ⟨version, hversion⟩ := Option.isSome_iff_exists.1 hsome
    rw [List.map_cons, List.filterMap_cons, hversion, ih hentries]
    rfl

lemma installFaults_eq_nil_iff {entries : List Json} :
    installFaults (.arr entries) = [] ↔ ValidInstalls entries := by
  rw [installFaults, List.append_eq_nil_iff, List.append_eq_nil_iff, incomplete_eq_nil_iff,
    lacking_eq_nil_iff, clashes_eq_nil_iff]
  have hnames (hcomplete : ∀ entry ∈ entries, isComplete entry = true) :
      ((entries.map versionText?).Nodup ↔ (entries.filterMap versionText?).Nodup) ∧
        (some nextVersion ∈ entries.map versionText? ↔
          nextVersion ∈ entries.filterMap versionText?) := by
    rw [map_versionText? hcomplete]
    exact ⟨List.nodup_map_iff (Option.some_injective _),
      List.mem_map_of_injective (Option.some_injective _)⟩
  constructor
  · rintro ⟨hcomplete, hnonempty, hdistinct, hunreserved, -⟩
    obtain ⟨hnodup, hmem⟩ := hnames hcomplete
    exact ⟨hnonempty, hcomplete, hnodup.2 hdistinct,
      fun hreserved => hunreserved (hmem.1 hreserved)⟩
  · rintro ⟨hnonempty, hcomplete, hdistinct, hunreserved⟩
    obtain ⟨hnodup, hmem⟩ := hnames hcomplete
    exact ⟨hcomplete, hnonempty, hnodup.1 hdistinct,
      fun hreserved => hunreserved (hmem.2 hreserved), fun _ _ => List.not_mem_nil⟩

lemma violations_eq_nil_iff : violations members = [] ↔ Valid members := by
  rw [violations, List.append_eq_nil_iff, List.flatMap_eq_nil_iff]
  simp only [absent_eq_nil_iff]
  constructor
  · rintro ⟨hpresent, hinstalls⟩
    obtain ⟨installs, holder⟩ := Option.isSome_iff_exists.1 (hpresent "older_installs" (by decide))
    rw [holder, Option.toList_some, List.flatMap_singleton] at hinstalls
    cases installs with
    | arr entries => exact ⟨hpresent, entries, holder, installFaults_eq_nil_iff.1 hinstalls⟩
    | _ => cases hinstalls
  · rintro ⟨hpresent, entries, holder, hvalid⟩
    rw [holder, Option.toList_some, List.flatMap_singleton]
    exact ⟨hpresent, installFaults_eq_nil_iff.2 hvalid⟩

/-! ## Options as an object -/

/-- An install as an item of a list. -/
def installEntry (install : Install) : Json :=
  .obj [("version_name", .str install.version), ("path", .str install.path)]

/-- Options as the members of an object. -/
def toMembers (options : Options) : List (CodeText × Json) :=
  [("config_path", .str options.configPath), ("next_path", .str options.nextPath),
    ("older_installs", .arr (options.older.map installEntry)),
    ("checker_label", .str options.label)]

lemma statedBy_installEntry (install : Install) : install.StatedBy (installEntry install) where
  version := congrArg some (Json.display_str _)
  path := congrArg some (Json.display_str _)

lemma statedBy_toMembers (options : Options) : options.StatedBy options.toMembers where
  configPath := congrArg some (Json.display_str _)
  nextPath := congrArg some (Json.display_str _)
  older := by
    refine ⟨options.older.map installEntry, rfl, ?_⟩
    rw [List.forall₂_map_left_iff, List.forall₂_same]
    exact fun install _ => statedBy_installEntry install
  label := Json.display_str _

/-- **What an object gives.**  It gives options exactly if it is valid, and these are the options
that it states.  If not, it is refused by the first of its violations, with a report of the
configuration family, and with no other fault.  Any options are given by the object that has them
as its members. -/
theorem ofJson_obj (members : List (CodeText × Json)) :
    ((∃ options, ofJson (.obj members) = .ok options) ↔ Valid members) ∧
      (∀ options, ofJson (.obj members) = .ok options ↔ options.StatedBy members) ∧
      (∀ fault, ofJson (.obj members) = .error fault ↔
        ∃ cause, (violations members).head? = some cause ∧ fault = .options cause ∧
          fault.report? = some ⟨.configuration, cause.message, cause.code⟩) ∧
      ∀ options : Options, ofJson (.obj options.toMembers) = .ok options := by
  refine ⟨?_, fun options => ofJson_eq_ok_iff, fun fault => ?_,
    fun options => ofJson_eq_ok_iff.2 options.statedBy_toMembers⟩
  · rw [(ofJson_refusedBy members).returns_iff, violations_eq_nil_iff]
  · rw [ofJson_refusedBy members fault]
    constructor
    · rintro ⟨cause, hcause, rfl⟩
      exact ⟨cause, hcause, rfl, rfl⟩
    · rintro ⟨cause, hcause, hfault, -⟩
      exact ⟨cause, hcause, hfault⟩

/-- A version that is given as a number has the name of one that is given as a text. -/
example : (violations [("config_path", .null), ("next_path", .null), ("older_installs", .arr
    [.obj [("path", .null), ("version_name", .str "2")],
      .obj [("path", .null), ("version_name", .int 2)]])]).map (·.code.number) = [1004] := by
  decide +kernel

end Options

end TypeTest
