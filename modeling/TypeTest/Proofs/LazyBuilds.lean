import Mathlib.Data.List.Perm.Subperm
import TypeTest.Proofs.Boundary
import TypeTest.Proofs.Logs

/-!
# When checkers are built

Building a checker is what a verification spends its time on, so it matters which builds a rule
attempts, and in which order.  This does not show in what it reports.  `Rule.logged` is the rule
that writes its builds down, and `Rule.buildCalls` is what it has written down when a host has
verified some files.

A run with the log and the plain run go in lockstep, and while they do, the log accounts for what
the session keeps (`Run.Accounts`): for each version for which there is a checker, just one build
has ended well.  This holds after a fault as well as after a result, and so for every run that can
be reached (`Run.accounts_after`).

`Rule.Needs` says which installs a search needs checkers for, told by how its parts end.  Asking for
some installs builds those that are not kept (`Run.Asked`); the search asks for its installs one
after the other, and what it has asked for once it does not build again (`Asked.trans`).  Both come
together in `builds_when_needed`.
-/

namespace TypeTest

open TypeTest.Action

variable {η σ α τ ε : Type} [DecidableEq η]

/-! ## Writing builds down -/

/-- A build that has been attempted, and whether it has ended well. -/
structure BuildCall where
  configPath : CodeText
  install : Install
  succeeded : Bool
  deriving DecidableEq, Repr

/-- The checker whose questions are not written down. -/
def Checker.unlogged (checker : Checker σ α τ) : Checker (Logged σ ε) α τ where
  sourceText file := unnoted (checker.sourceText file)
  isDeclarationFile file := unnoted (checker.isDeclarationFile file)
  syntaxTree file := unnoted (checker.syntaxTree file)
  diagnostics file := unnoted (checker.diagnostics file)
  typeOf node := unnoted (checker.typeOf node)
  renderType type truncate := unnoted (checker.renderType type truncate)

/-- The host whose checker's questions are not written down. -/
def Host.unlogged (host : Host η σ α τ) : Host η (Logged σ ε) α τ :=
  ⟨host.key, host.checker.unlogged⟩

/-- The rule that writes down which builds it attempts. -/
def Rule.logged (rule : Rule σ α τ) : Rule (Logged σ BuildCall) α τ where
  options := rule.options
  build configPath install :=
    noted (fun result => [⟨configPath, install, result.isOk⟩])
      (Option.map Checker.unlogged <$> rule.build configPath install)

/-- The installs whose checkers have been built. -/
def builtInstalls (calls : List BuildCall) : List Install :=
  (calls.filter (·.succeeded)).map (·.install)

lemma builtInstalls_append (calls others : List BuildCall) :
    builtInstalls (calls ++ others) = builtInstalls calls ++ builtInstalls others := by
  rw [builtInstalls, List.filter_append, List.map_append, builtInstalls, builtInstalls]

/-- A run with a log of builds. -/
abbrev LoggedRun (η σ α τ : Type) : Type :=
  Run η (Logged σ BuildCall) (Checker (Logged σ BuildCall) α τ)

/-! ## Questions leave the log alone -/

namespace Checker

lemma unlogged_related (entries : List ε) (checker : Checker σ α τ) :
    (checker.unlogged : Checker (Logged σ ε) α τ).Related
      (fun _ step other => Lockstep (fun log world => log = ⟨world, entries⟩) step other)
      checker where
  sourceText _ := lockstep_unnoted entries _
  isDeclarationFile _ := lockstep_unnoted entries _
  syntaxTree _ := lockstep_unnoted entries _
  diagnostics _ := lockstep_unnoted entries _
  typeOf _ := lockstep_unnoted entries _
  renderType _ _ := lockstep_unnoted entries _

lemma unusable_related (entries : List ε) :
    (unusable : Checker (Logged σ ε) α τ).Related
      (fun _ step other => Lockstep (fun log world => log = ⟨world, entries⟩) step other)
      (unusable : Checker σ α τ) where
  sourceText _ := .throw _
  isDeclarationFile _ := .throw _
  syntaxTree _ := .throw _
  diagnostics _ := .throw _
  typeOf _ := .throw _
  renderType _ _ := .throw _

/-- What a build has given answers for a file as it does without a log. -/
lemma lockstep_verify (entries : List ε) (built : Option (Checker σ α τ)) (file : String)
    (stamp : Stamp) :
    Lockstep (fun (log : Logged σ ε) world => log = ⟨world, entries⟩)
      (((built.map unlogged).getD unusable).verify file stamp)
      ((built.getD unusable).verify file stamp) := by
  have hrelated : ((built.map unlogged).getD unusable : Checker (Logged σ ε) α τ).Related
      (fun _ step other => Lockstep (fun log world => log = ⟨world, entries⟩) step other)
      (built.getD unusable) := by
    cases built with
    | none => exact unusable_related entries
    | some checker => exact checker.unlogged_related entries
  have hexamine := hrelated.examine Lockstep.compositional (fun _ => .throw _) file
  rw [verify_eq_examine, verify_eq_examine, ← bind_pure_comp, ← bind_pure_comp]
  exact hexamine.bind fun _ => .pure _

end Checker

/-! ## The books of a run -/

namespace Run

/-- A run with a log of builds goes as a plain run in which one host is verified, and the log
accounts for what the session keeps for this host: each install of the options for which there is
something has been built once, and nothing else has. -/
structure Accounts (options : Options) (host : η) (run : LoggedRun η σ α τ)
    (plain : Run η σ (Checker σ α τ)) : Prop where
  world : run.world.world = plain.world
  events : run.events = plain.events
  kept : ∀ version, run.session.instance? host version =
    (plain.session.instance? host version).map Checker.unlogged
  builds : plain.session.builds = (builtInstalls run.world.entries).length
  known : ∀ install ∈ builtInstalls run.world.entries, install ∈ options.installs
  distinct : ((builtInstalls run.world.entries).map (·.version)).Nodup
  mem_iff : ∀ version, version ∈ (builtInstalls run.world.entries).map (·.version) ↔
    (plain.session.instance? host version).isSome = true

/-- Is nothing kept for a host and an install? -/
def lacks {ι : Type} (run : Run η σ ι) (host : η) (install : Install) : Bool :=
  (run.session.instance? host install.version).isNone

/-- Between two runs some installs have been asked for, each once.  Those that were not kept have
been built, and all of them are kept from then on. -/
structure Asked (configPath : CodeText) (host : η) (run later : LoggedRun η σ α τ)
    (installs : List Install) : Prop where
  entries : later.world.entries =
    run.world.entries ++ (installs.filter (run.lacks host)).map (⟨configPath, ·, true⟩)
  kept : ∀ version, (later.session.instance? host version).isSome = true ↔
    (run.session.instance? host version).isSome = true ∨ version ∈ installs.map (·.version)

variable {options : Options} {configPath : CodeText} {host : η}
  {run middle later : LoggedRun η σ α τ}
  {plain : Run η σ (Checker σ α τ)}

/-- What has been asked for first is not built again. -/
lemma Asked.trans {installs others : List Install}
    (hfirst : run.Asked configPath host middle installs)
    (hsecond : middle.Asked configPath host later others) :
    run.Asked configPath host later
      (installs ++ others.filter fun install => install.version ∉ installs.map (·.version)) := by
  have hlacks : middle.lacks host = fun install =>
      run.lacks host install && decide (install.version ∉ installs.map (·.version)) := by
    funext install
    have hkept := hfirst.kept install.version
    rw [Bool.eq_iff_iff, Bool.and_eq_true, decide_eq_true_iff, lacks, lacks,
      ← Option.not_isSome, ← Option.not_isSome, Bool.not_eq_true', Bool.not_eq_true',
      ← Bool.not_eq_true, ← Bool.not_eq_true, hkept, not_or]
  constructor
  · rw [hsecond.entries, hfirst.entries, hlacks, List.filter_append, List.filter_filter,
      List.map_append, List.append_assoc]
  · intro version
    rw [hsecond.kept, hfirst.kept, List.map_append, List.mem_append, or_assoc]
    refine or_congr_right ?_
    by_cases hmem : version ∈ installs.map (·.version)
    · exact iff_of_true (.inl hmem) (.inl hmem)
    · refine or_congr_right ⟨fun hother => ?_, fun hother => ?_⟩
      · obtain ⟨install, hinstall, rfl⟩ := List.mem_map.1 hother
        exact List.mem_map_of_mem (List.mem_filter.2 ⟨hinstall, decide_eq_true hmem⟩)
      · obtain ⟨install, hinstall, rfl⟩ := List.mem_map.1 hother
        exact List.mem_map_of_mem (List.mem_filter.1 hinstall).1

lemma Asked.trans_of_new {installs others : List Install}
    (hfirst : run.Asked configPath host middle installs)
    (hsecond : middle.Asked configPath host later others)
    (hnew : ∀ install ∈ others, install.version ∉ installs.map (·.version)) :
    run.Asked configPath host later (installs ++ others) := by
  have hall := hfirst.trans hsecond
  rwa [List.filter_eq_self.2 fun install hmem => decide_eq_true (hnew install hmem)] at hall

lemma Asked.note {installs : List Install} (hasked : run.Asked configPath host later installs)
    (event : Event) : run.Asked configPath host (leaves (note event) later) installs :=
  ⟨hasked.entries, hasked.kept⟩

/-- An install that is kept is asked for without being built. -/
lemma asked_of_kept {install : Install} (hentries : later.world.entries = run.world.entries)
    (hkept : ∀ version, later.session.instance? host version = run.session.instance? host version)
    (hinstall : (run.session.instance? host install.version).isSome = true) :
    run.Asked configPath host later [install] := by
  constructor
  · have hlacks : run.lacks host install = false := by
      rw [lacks, ← Option.not_isSome, hinstall, Bool.not_true]
    rw [hentries, List.filter_cons_of_neg (by rw [hlacks]; exact Bool.false_ne_true),
      List.filter_nil, List.map_nil, List.append_nil]
  · intro version
    rw [hkept, List.map_singleton, List.mem_singleton]
    exact ⟨.inl, fun hor => hor.elim id fun hsame => hsame ▸ hinstall⟩

/-- An install that is not kept is built. -/
lemma asked_of_built {install : Install} {checker : Checker (Logged σ BuildCall) α τ}
    (hentries : later.world.entries = run.world.entries ++ [⟨configPath, install, true⟩])
    (hkept : ∀ version, later.session.instance? host version =
      if version = install.version then some checker else run.session.instance? host version)
    (hinstall : run.session.instance? host install.version = none) :
    run.Asked configPath host later [install] := by
  constructor
  · have hlacks : run.lacks host install = true := by rw [lacks, hinstall, Option.isNone_none]
    rw [hentries, List.filter_cons_of_pos hlacks, List.filter_nil, List.map_singleton]
  · intro version
    rw [hkept, List.map_singleton, List.mem_singleton]
    by_cases hsame : version = install.version
    · simp [hsame]
    · simp [hsame]

/-- The books do not depend on what collaborators do to their world. -/
lemma Accounts.onWorld (haccounts : run.Accounts options host plain) (world : σ) :
    Accounts options host { run with world := ⟨world, run.world.entries⟩ }
      { plain with world } where
  world := rfl
  events := haccounts.events
  kept := haccounts.kept
  builds := haccounts.builds
  known := haccounts.known
  distinct := haccounts.distinct
  mem_iff := haccounts.mem_iff

/-- Where nothing has been built, nothing is booked. -/
lemma Accounts.register {entries : List BuildCall} {world : σ} {event : Event}
    (haccounts : run.Accounts options host plain)
    (hbuilt : builtInstalls entries = builtInstalls run.world.entries) :
    let same : LoggedRun η σ α τ :=
      { session := run.session.register host
        events := run.events ++ [event]
        world := ⟨world, entries⟩ }
    same.Accounts options host
      { session := plain.session.register host
        events := plain.events ++ [event]
        world } := by
  intro same
  constructor
  case world => rfl
  case events => exact congrArg (· ++ [event]) haccounts.events
  case kept =>
    intro version
    simp only [same, Session.instance?_register, haccounts.kept]
  case builds => rw [Session.builds_register, hbuilt, haccounts.builds]
  case known => exact hbuilt ▸ haccounts.known
  case distinct => exact hbuilt ▸ haccounts.distinct
  case mem_iff =>
    intro version
    rw [hbuilt, haccounts.mem_iff, Session.instance?_register]

/-- A build that ends well is booked. -/
lemma Accounts.record {install : Install} {checker : Checker σ α τ} {world : σ} {event : Event}
    (haccounts : run.Accounts options host plain) (hmem : install ∈ options.installs)
    (habsent : plain.session.instance? host install.version = none) :
    let booked : LoggedRun η σ α τ :=
      { session := (run.session.register host).record host install.version
          (some checker.unlogged)
        events := run.events ++ [event]
        world := ⟨world, run.world.entries ++ [⟨options.configPath, install, true⟩]⟩ }
    booked.Accounts options host
      { session := (plain.session.register host).record host install.version (some checker)
        events := plain.events ++ [event]
        world } := by
  intro booked
  have hbuilt : builtInstalls booked.world.entries =
      builtInstalls run.world.entries ++ [install] := builtInstalls_append _ _
  have hfresh : install.version ∉ (builtInstalls run.world.entries).map (·.version) := by
    rw [haccounts.mem_iff, habsent]
    exact Bool.false_ne_true
  constructor
  case world => rfl
  case events => exact congrArg (· ++ [event]) haccounts.events
  case kept =>
    intro version
    simp only [booked, Session.instance?_record, Session.instance?_register, haccounts.kept]
    split
    · rfl
    · rfl
  case builds =>
    rw [hbuilt, List.length_append, ← haccounts.builds]
    show (plain.session.register host).builds + 1 = _
    rw [Session.builds_register]
    rfl
  case known =>
    rw [hbuilt]
    intro other hother
    rcases List.mem_append.1 hother with hother | hother
    · exact haccounts.known other hother
    · exact List.mem_singleton.1 hother ▸ hmem
  case distinct =>
    rw [hbuilt, List.map_append, List.map_singleton]
    exact haccounts.distinct.append (List.nodup_singleton _)
      (List.disjoint_singleton.2 hfresh)
  case mem_iff =>
    intro version
    rw [hbuilt, List.map_append, List.mem_append, haccounts.mem_iff, List.map_singleton,
      List.mem_singleton, Session.instance?_record, Session.instance?_register]
    by_cases hsame : version = install.version
    · simp [hsame]
    · simp [hsame]

end Run

/-! ## Asking for a checker -/

namespace Rule

variable {rule : Rule σ α τ} {options : Options} {host : η} {run : LoggedRun η σ α τ}
  {plain : Run η σ (Checker σ α τ)} {install : Install}

lemma logged_build (rule : Rule σ α τ) (configPath : CodeText) (install : Install)
    (log : Logged σ BuildCall) :
    rule.logged.build configPath install log =
      match rule.build configPath install log.world with
      | .ok built world =>
        .ok (built.map Checker.unlogged) ⟨world, log.entries ++ [⟨configPath, install, true⟩]⟩
      | .error fault world =>
        .error fault ⟨world, log.entries ++ [⟨configPath, install, false⟩]⟩ := by
  unfold logged noted
  dsimp only
  rw [← bind_pure_comp]
  simp only [bind, EStateM.bind]
  cases rule.build configPath install log.world with
  | ok built world => rfl
  | error fault world => rfl

/-- A checker that is kept is given without a build, with a log as without. -/
lemma accounts_obtain_of_kept (rule : Rule σ α τ) {kept : Checker σ α τ}
    (haccounts : run.Accounts options host plain)
    (hkept : plain.session.instance? host install.version = some kept) :
    let step := Run.obtain host install.version (rule.logged.build options.configPath install)
    let other := Run.obtain host install.version (rule.build options.configPath install)
    (leaves step run).Accounts options host (leaves other plain) ∧
      ends step run = .ok (some kept.unlogged) ∧ ends other plain = .ok (some kept) ∧
      run.Asked options.configPath host (leaves step run) [install] := by
  intro step other
  have hlogged : run.session.instance? host install.version = some kept.unlogged := by
    rw [haccounts.kept, hkept]
    rfl
  have hworld : run.world = ⟨plain.world, run.world.entries⟩ := haccounts.world ▸ rfl
  obtain ⟨hends, hleaves⟩ := eq_ok_iff.1 (Run.obtain_of_kept hkept
    (rule.build options.configPath install))
  obtain ⟨hends', hleaves'⟩ := eq_ok_iff.1 (Run.obtain_of_kept hlogged
    (rule.logged.build options.configPath install))
  refine ⟨?_, hends', hends, ?_⟩
  · rw [hleaves, hleaves', hworld]
    exact haccounts.register rfl
  · rw [hleaves']
    refine Run.asked_of_kept rfl (fun version => ?_) (by rw [hlogged]; rfl)
    exact Session.instance?_register ..

/-- Asking for the checker of an install goes with a log as it goes without, and the books stay in
order. -/
lemma accounts_obtain (haccounts : run.Accounts options host plain)
    (hmem : install ∈ options.installs)
    (hgives : ∀ world, ends (rule.build options.configPath install) world ≠ .ok none) :
    let step := Run.obtain host install.version (rule.logged.build options.configPath install)
    let other := Run.obtain host install.version (rule.build options.configPath install)
    (leaves step run).Accounts options host (leaves other plain) ∧
      ends step run = (ends other plain).map (Option.map Checker.unlogged) ∧
      ∀ built, ends other plain = .ok built →
        run.Asked options.configPath host (leaves step run) [install] := by
  intro step other
  cases hinstance : plain.session.instance? host install.version with
  | some kept =>
    obtain ⟨hkept, hends', hends, hasked⟩ := accounts_obtain_of_kept rule haccounts hinstance
    refine ⟨hkept, ?_, fun _ _ => hasked⟩
    rw [hends', hends, Except.map, Option.map_some]
  | none =>
    have hlogged : run.session.instance? host install.version = none := by
      rw [haccounts.kept, hinstance]
      rfl
    have hstep := Run.obtain_of_absent hinstance (rule.build options.configPath install)
    have hstep' := Run.obtain_of_absent hlogged (rule.logged.build options.configPath install)
    rw [logged_build, haccounts.world] at hstep'
    cases hbuild : rule.build options.configPath install plain.world with
    | error fault world =>
      rw [hbuild] at hstep hstep'
      obtain ⟨hends, hleaves⟩ := eq_error_iff.1 hstep
      obtain ⟨hends', hleaves'⟩ := eq_error_iff.1 hstep'
      rw [hends, hends', hleaves, hleaves']
      refine ⟨haccounts.register ?_, rfl, nofun⟩
      exact (builtInstalls_append _ _).trans (List.append_nil _)
    | ok built world =>
      rw [hbuild] at hstep hstep'
      obtain ⟨hends, hleaves⟩ := eq_ok_iff.1 hstep
      obtain ⟨hends', hleaves'⟩ := eq_ok_iff.1 hstep'
      rw [hends, hends', hleaves, hleaves']
      cases built with
      | none => exact absurd (eq_ok_iff.1 hbuild).1 (hgives plain.world)
      | some checker =>
        refine ⟨haccounts.record hmem hinstance, rfl, fun _ _ => ?_⟩
        have hkept : ∀ version, ((run.session.register host).record host install.version
            (some checker.unlogged)).instance? host version =
              if version = install.version then some checker.unlogged
              else run.session.instance? host version := by
          intro version
          simp only [Session.instance?_record, Session.instance?_register, true_and]
        exact Run.asked_of_built rfl hkept hlogged

/-- Verifying under an install goes with a log as it goes without, and the books stay in order. -/
lemma accounts_failuresUnder {host : Host η σ α τ} (haccounts : run.Accounts options host.key plain)
    (hmem : install ∈ options.installs)
    (hgives : ∀ world, ends (rule.build options.configPath install) world ≠ .ok none)
    (file : String) (above : Option CodeText) :
    let step := rule.logged.failuresUnder options file host.unlogged install above
    let other := rule.failuresUnder options file host install above
    (leaves step run).Accounts options host.key (leaves other plain) ∧
      ends step run = ends other plain ∧
      ∀ failures, ends other plain = .ok failures →
        run.Asked options.configPath host.key (leaves step run) [install] := by
  intro step other
  obtain ⟨haccounts', hends, hasked⟩ := accounts_obtain haccounts hmem hgives
  unfold step other failuresUnder
  rw [ends_bind, ends_bind, leaves_bind, leaves_bind,
    show (Host.unlogged host).key = host.key from rfl, hends]
  generalize leaves (Run.obtain host.key install.version
    (rule.logged.build options.configPath install)) run = middle at haccounts' hasked ⊢
  generalize leaves (Run.obtain host.key install.version
    (rule.build options.configPath install)) plain = middle' at haccounts' ⊢
  cases hbuilt : ends (Run.obtain host.key install.version
      (rule.build options.configPath install)) plain with
  | error fault => exact ⟨haccounts', rfl, nofun⟩
  | ok built =>
    have hworld : middle.world = ⟨middle'.world, middle.world.entries⟩ := haccounts'.world ▸ rfl
    obtain ⟨hverify, hlog⟩ := Checker.lockstep_verify middle.world.entries built file
      { version := install.version, above, label := options.label } _ _ hworld
    dsimp only [Except.map]
    rw [Run.ends_onWorld, Run.ends_onWorld, Run.leaves_onWorld, Run.leaves_onWorld, hverify, hlog]
    have hasked' := hasked built hbuilt
    exact ⟨haccounts'.onWorld _, rfl, fun _ _ => ⟨hasked'.entries, hasked'.kept⟩⟩

end Rule

/-! ## Whole runs -/

section Runs

variable {rule : Rule σ α τ} {options : Options} {host : Host η σ α τ}
  {run : LoggedRun η σ α τ} {plain : Run η σ (Checker σ α τ)}

/-- A rule never has a build that ends well with nothing to give. -/
def Rule.BuildsSomething (rule : Rule σ α τ) (options : Options) : Prop :=
  ∀ install ∈ options.installs, ∀ world,
    ends (rule.build options.configPath install) world ≠ .ok none

lemma lockstep_note (event : Event) :
    Lockstep (fun (run : LoggedRun η σ α τ) plain => run.Accounts options host.key plain)
      (Run.note event) (Run.note event) :=
  fun _ _ haccounts => ⟨rfl, { haccounts with events := congrArg (· ++ [event]) haccounts.events }⟩

/-- Verifying a file goes with a log as it goes without. -/
lemma Rule.lockstep_verify (hoptions : rule.options = some options)
    (hgives : rule.BuildsSomething options) (file : String) :
    Lockstep (fun (run : LoggedRun η σ α τ) plain => run.Accounts options host.key plain)
      (rule.logged.verify file host.unlogged) (rule.verify file host) := by
  have hoptions' : rule.logged.options = some options := hoptions
  rw [verify_eq_search hoptions, verify_eq_search hoptions']
  refine search_related Lockstep.compositional lockstep_note (fun _ => .throw) ?_
  intro install hmem above run plain haccounts
  obtain ⟨hleaves, hends, -⟩ :=
    accounts_failuresUnder haccounts hmem (hgives install hmem) file above
  exact ⟨hends, hleaves⟩

lemma Run.accounts_new (options : Options) (host : η) (start : σ) :
    Accounts options host ({ world := { world := start } } : LoggedRun η σ α τ)
      { world := start } where
  world := rfl
  events := rfl
  kept _ := rfl
  builds := rfl
  known := nofun
  distinct := .nil
  mem_iff _ := ⟨nofun, nofun⟩

/-- The files that a host verifies by one rule, one after the other. -/
def Rule.verifies (rule : Rule σ α τ) (host : Host η σ α τ) (files : List String) :
    List (Step η σ α τ) :=
  files.map fun file => .verify rule file host

lemma Run.accounts_after (hoptions : rule.options = some options)
    (hgives : rule.BuildsSomething options) (haccounts : run.Accounts options host.key plain)
    (files : List String) :
    (run.after (rule.logged.verifies host.unlogged files)).Accounts options host.key
      (plain.after (rule.verifies host files)) := by
  induction files generalizing run plain with
  | nil => exact haccounts
  | cons file files ih =>
    exact ih (Rule.lockstep_verify hoptions hgives file run plain haccounts).2

end Runs

/-! ## What a search asks for -/

lemma Options.nodup_newestFirst (options : Options) :
    (options.newestFirst.map (·.1.version)).Nodup := by
  have hversions : options.newestFirst.map (·.1.version) =
      (options.older.map (·.version)).reverse := by
    rw [← List.map_reverse, ← options.map_fst_newestFirst, List.map_map]
    rfl
  rw [hversions]
  exact List.nodup_reverse.2 options.distinct

namespace Rule

variable {rule : Rule σ α τ} {options : Options} {host : Host η σ α τ} {file : String}
  {run : LoggedRun η σ α τ} {plain : Run η σ (Checker σ α τ)}

/-- The failures under an install are stamped for it. -/
lemma stamp_of_failuresUnder {install : Install} {above : Option CodeText} {failures : List Failure}
    (hends : ends (rule.failuresUnder options file host install above) plain = .ok failures) :
    ∀ failure ∈ failures, failure.version = some install.version ∧ failure.above = above := by
  obtain ⟨built, -, hends⟩ := ends_bind_eq_ok_iff.1 hends
  rw [Run.ends_onWorld, Checker.verify_eq_examine, ends_map] at hends
  generalize ends ((built.getD .unusable).examine file) _ = examined at hends
  cases examined with
  | error fault => cases hends
  | ok found =>
    obtain rfl := Except.ok.inj hends
    exact fun failure hmem => Examination.stamp_of_mem_failures hmem

/-- The installs down to one in a list are those of entries of the list. -/
lemma exists_entry_of_mem {newer older : List (Install × CodeText)} {last other : Install}
    {above : CodeText} (hmem : other ∈ newer.map (·.1) ++ [last]) :
    ∃ entry ∈ newer ++ (last, above) :: older, entry.1 = other := by
  rcases List.mem_append.1 hmem with hmem | hmem
  · obtain ⟨entry, hentry, rfl⟩ := List.mem_map.1 hmem
    exact ⟨entry, List.mem_append_left _ hentry, rfl⟩
  · exact ⟨_, List.mem_append_right _ List.mem_cons_self, (List.mem_singleton.1 hmem).symm⟩

/-- Going through older installs asks for all of them down to the one whose failures are
reported. -/
lemma asked_firstFailing (hgives : rule.BuildsSomething options) :
    ∀ {installs : List (Install × CodeText)} {run : LoggedRun η σ α τ}
      {plain : Run η σ (Checker σ α τ)} {failures : List Failure},
      run.Accounts options host.key plain →
      (∀ entry ∈ installs, entry.1 ∈ options.installs) →
      (installs.map (·.1.version)).Nodup →
      ends (rule.firstFailing options file host installs) plain = .ok failures →
      ∃ newer install above older, installs = newer ++ (install, above) :: older ∧
        failures ≠ [] ∧
        (∀ failure ∈ failures, failure.version = some install.version ∧
          failure.above = some above) ∧
        run.Asked options.configPath host.key
          (leaves (rule.logged.firstFailing options file host.unlogged installs) run)
          (newer.map (·.1) ++ [install])
  | [], _, _, _, _, _, _, hends => nomatch hends
  | (install, above) :: installs, run, plain, failures, haccounts, hmem, hdistinct, hends => by
    rw [firstFailing, ends_bind_of_ok (Run.ends_note _ _)] at hends
    obtain ⟨first, hfirst, hends⟩ := ends_bind_eq_ok_iff.1 hends
    have hnoted := (lockstep_note (.testing install.version) run plain haccounts).2
    obtain ⟨haccounts', hsame, hasked⟩ := accounts_failuresUnder hnoted
      (hmem _ List.mem_cons_self) (hgives _ (hmem _ List.mem_cons_self)) file (some above)
    have hasked' := hasked first hfirst
    rw [firstFailing, leaves_bind_of_ok (Run.ends_note _ _),
      leaves_bind_of_ok (hsame.trans hfirst)]
    cases hempty : first.isEmpty with
    | false =>
      rw [hempty] at hends
      obtain rfl := Except.ok.inj hends
      exact ⟨[], install, above, installs, rfl, List.isEmpty_eq_false_iff.1 hempty,
        stamp_of_failuresUnder hfirst, hasked'.entries, hasked'.kept⟩
    | true =>
      rw [hempty] at hends
      obtain ⟨hnew, hdistinct'⟩ := List.nodup_cons.1 hdistinct
      obtain ⟨newer, last, above', older, rfl, hne, hstamp, hlater⟩ := asked_firstFailing hgives
        haccounts' (fun entry hentry => hmem entry (List.mem_cons_of_mem _ hentry)) hdistinct' hends
      -- none of the later installs has been asked for already
      have hall := hasked'.trans_of_new hlater fun other hother hclash => hnew ?_
      · exact ⟨(install, above) :: newer, last, above', older, rfl, hne, hstamp, hall.entries,
          hall.kept⟩
      · obtain ⟨entry, hentry, rfl⟩ := exists_entry_of_mem hother
        rw [← List.mem_singleton.1 hclash]
        exact List.mem_map_of_mem (f := fun entry => entry.1.version) hentry

/-- Which installs a search that ends well needs checkers for, in the order in which it first asks
for them, as told by its parts: the newest; if it passes, the oldest; and if that one fails, the
older ones from the newest down to the one whose failures are reported.  The oldest has been asked
for by then. -/
inductive Needs (rule : Rule σ α τ) (options : Options) (file : String) (host : Host η σ α τ)
    (run : Run η σ (Checker σ α τ)) : List Failure → List Install → Prop
  /-- The newest version fails. -/
  | newest {failures : List Failure}
      (hnewest : ends (rule.failuresUnder options file host options.nextInstall none) run =
        .ok failures)
      (hfails : failures ≠ []) :
      Needs rule options file host run failures [options.nextInstall]
  /-- Both ends pass. -/
  | spared
      (hnewest : ends (rule.failuresUnder options file host options.nextInstall none) run = .ok [])
      (holdest : ends (rule.failuresUnder options file host options.oldest none)
        (leaves (rule.failuresUnder options file host options.nextInstall none) run) = .ok []) :
      Needs rule options file host run [] [options.nextInstall, options.oldest]
  /-- The oldest version fails, and the failures of some older version are reported. -/
  | boundary {failures oldest : List Failure} (newer older : List (Install × CodeText))
      (install : Install) (above : CodeText)
      (hplace : options.newestFirst = newer ++ (install, above) :: older)
      (hnewest : ends (rule.failuresUnder options file host options.nextInstall none) run = .ok [])
      (holdest : ends (rule.failuresUnder options file host options.oldest none)
        (leaves (rule.failuresUnder options file host options.nextInstall none) run) =
          .ok oldest)
      (hfails : oldest ≠ []) (hreported : failures ≠ [])
      (hstamp : ∀ failure ∈ failures, failure.version = some install.version ∧
        failure.above = some above) :
      Needs rule options file host run failures (options.nextInstall :: options.oldest ::
        (newer.map (·.1) ++ [install]).filter (· ≠ options.oldest))

/-- After both ends, the oldest version is the only older one that has been asked for. -/
lemma filter_not_asked {installs : List Install}
    (hmem : ∀ install ∈ installs, install ∈ options.older) :
    installs.filter (fun install =>
      install.version ∉ [options.nextInstall, options.oldest].map (·.version)) =
        installs.filter (· ≠ options.oldest) := by
  refine List.filter_congr fun install hinstall => decide_eq_decide.2 ?_
  have hnext : install.version ≠ nextVersion := options.unreserved install (hmem install hinstall)
  have holdest : install.version = options.oldest.version ↔ install = options.oldest := by
    refine ⟨fun hversion => ?_, fun hsame => hsame ▸ rfl⟩
    exact Options.eq_of_version_eq (Options.mem_installs_of_mem_older (hmem install hinstall))
      (Options.mem_installs_of_mem_older options.oldest_mem_older) hversion
  rw [List.map_cons, List.map_singleton, List.mem_cons, List.mem_singleton, not_or, holdest]
  exact and_iff_right hnext

/-- A search asks for the checkers that it needs. -/
lemma needs_search (hgives : rule.BuildsSomething options)
    (haccounts : run.Accounts options host.key plain) {failures : List Failure}
    (hends : ends (rule.search options file host) plain = .ok failures) :
    ∃ installs, rule.Needs options file host plain failures installs ∧
      run.Asked options.configPath host.key
        (leaves (rule.logged.search options file host.unlogged) run) installs := by
  have hnext_mem := options.nextInstall_mem_installs
  have holdest_mem := Options.mem_installs_of_mem_older options.oldest_mem_older
  rw [search_eq] at hends
  obtain ⟨newest, hnewest, hends⟩ := ends_bind_eq_ok_iff.1 hends
  obtain ⟨haccounts₁, hsame₁, hasked₁⟩ :=
    accounts_failuresUnder haccounts hnext_mem (hgives _ hnext_mem) file none
  replace hasked₁ := hasked₁ newest hnewest
  rw [search_eq, leaves_bind_of_ok (hsame₁.trans hnewest)]
  cases newest with
  | cons failure others =>
    obtain rfl := Except.ok.inj hends
    exact ⟨_, .newest hnewest (List.cons_ne_nil _ _), hasked₁⟩
  | nil =>
    rw [List.isEmpty_nil, Bool.not_true, if_neg Bool.false_ne_true] at hends ⊢
    obtain ⟨oldest, holdest, hends⟩ := ends_bind_eq_ok_iff.1 hends
    obtain ⟨haccounts₂, hsame₂, hasked₂⟩ :=
      accounts_failuresUnder haccounts₁ holdest_mem (hgives _ holdest_mem) file none
    have hnew : ∀ install ∈ [options.oldest],
        install.version ∉ [options.nextInstall].map (·.version) := by
      intro install hmem hnext
      obtain rfl := List.mem_singleton.1 hmem
      exact options.unreserved _ options.oldest_mem_older (List.mem_singleton.1 hnext)
    replace hasked₂ := hasked₁.trans_of_new (hasked₂ oldest holdest) hnew
    rw [List.singleton_append] at hasked₂
    rw [searchOlder, leaves_bind_of_ok (hsame₂.trans holdest)]
    cases oldest with
    | nil =>
      obtain rfl := Except.ok.inj hends
      refine ⟨_, .spared hnewest holdest, ?_⟩
      rw [List.isEmpty_nil, if_pos rfl, leaves_bind_of_ok (Run.ends_note _ _), leaves_pure]
      exact hasked₂.note _
    | cons failure others =>
      rw [List.isEmpty_cons, if_neg Bool.false_ne_true] at hends ⊢
      have holder : ∀ entry ∈ options.newestFirst, entry.1 ∈ options.older :=
        fun entry hentry => Options.mem_older_of_mem_newestFirst hentry
      obtain ⟨newer, install, above, older, hplace, hreported, hstamp, hasked₃⟩ :=
        asked_firstFailing hgives haccounts₂
          (fun entry hentry => Options.mem_installs_of_mem_older (holder entry hentry))
          options.nodup_newestFirst hends
      refine ⟨_, .boundary newer older install above hplace hnewest holdest
        (List.cons_ne_nil _ _) hreported hstamp, ?_⟩
      rw [← filter_not_asked]
      · exact hasked₂.trans hasked₃
      · intro other hother
        obtain ⟨entry, hentry, rfl⟩ := exists_entry_of_mem hother
        exact holder entry (hplace ▸ hentry)

end Rule

/-! ## Builds in the course of a run -/

/-- The builds that a rule with a session of its own attempts while a host verifies files, one
after the other. -/
def Rule.buildCalls (rule : Rule σ α τ) (host : Host η σ α τ) (start : σ) (files : List String) :
    List BuildCall :=
  (Run.after ({ world := { world := start } } : LoggedRun η σ α τ)
    (rule.logged.verifies host.unlogged files)).world.entries

/-- **Checkers are built when they are needed, and once.**  Let a rule with a session of its own
verify any files of one host, where a build may end in a fault but never has nothing to give.  For
each version that the options name at most one build ends well, however the verifications end.  A
verification that ends with a result attempts just the builds for those versions that its search
needs and that are not kept already, in the order in which it needs them. -/
theorem builds_when_needed {rule : Rule σ α τ} {options : Options}
    (hoptions : rule.options = some options) (hgives : rule.BuildsSomething options)
    (host : Host η σ α τ) (start : σ) (files : List String) :
    let run : Run η σ (Checker σ α τ) := Run.after { world := start } (rule.verifies host files)
    let calls := rule.buildCalls host start files
    ((builtInstalls calls).map (·.version)).Nodup ∧
      (∀ install ∈ builtInstalls calls, install ∈ options.installs) ∧
      run.session.builds = (builtInstalls calls).length ∧
      run.session.builds ≤ 1 + options.older.length ∧
      ∀ file failures run', rule.verify file host run = .ok failures run' →
        ∃ installs, rule.Needs options file host run failures installs ∧
          rule.buildCalls host start (files ++ [file]) = calls ++
            (installs.filter (run.lacks host.key)).map (⟨options.configPath, ·, true⟩) := by
  intro run calls
  have haccounts := Run.accounts_after hoptions hgives
    (Run.accounts_new options host.key start) files
  have hbound : (builtInstalls calls).length ≤ options.installs.length := by
    have hdistinct : (builtInstalls calls).Nodup := haccounts.distinct.of_map _
    exact (hdistinct.subperm haccounts.known).length_le
  refine ⟨haccounts.distinct, haccounts.known, haccounts.builds, ?_, ?_⟩
  · rw [haccounts.builds, Nat.add_comm]
    exact hbound
  · intro file failures run' hverify
    rw [Rule.verify_eq_search hoptions] at hverify
    obtain ⟨installs, hneeds, hasked⟩ :=
      Rule.needs_search hgives haccounts (eq_ok_iff.1 hverify).1
    refine ⟨installs, hneeds, ?_⟩
    have hlacks : run.lacks host.key = Run.lacks (Run.after { world := { world := start } }
        (rule.logged.verifies host.unlogged files)) host.key := by
      funext install
      rw [Run.lacks, Run.lacks, haccounts.kept, Option.isNone_map]
    have hafter : rule.buildCalls host start (files ++ [file]) =
        (leaves (rule.logged.verify file host.unlogged) (Run.after { world := { world := start } }
          (rule.logged.verifies host.unlogged files))).world.entries := by
      rw [Rule.buildCalls, Rule.verifies, List.map_append, Run.after, List.foldl_append]
      rfl
    have hoptions' : rule.logged.options = some options := hoptions
    rw [hafter, Rule.verify_eq_search hoptions', hasked.entries, hlacks]
    rfl

/-- The first file has the builds attempted that its search needs, and they serve the second one as
well. -/
theorem builds_when_needed_widget :
    widgetRule.options = some widgetOptions ∧ widgetRule.BuildsSomething widgetOptions ∧
      (widgetRule.buildCalls widgetHost () ["widget.ts", "other.ts"]).map (·.install.version) =
        (["next", "1.0", "3.0", "2.0"] : List CodeText) ∧
      ((builtInstalls (widgetRule.buildCalls widgetHost () ["widget.ts", "other.ts"])).map
        (·.version)).Nodup ∧
      ∃ failures run' installs, failures ≠ [] ∧
        widgetRule.verify "other.ts" widgetHost
          (Run.after { world := () } (widgetRule.verifies widgetHost ["widget.ts"])) =
            .ok failures run' ∧
        widgetRule.Needs widgetOptions "other.ts" widgetHost
          (Run.after { world := () } (widgetRule.verifies widgetHost ["widget.ts"])) failures
          installs := by
  have hgives : widgetRule.BuildsSomething widgetOptions := fun _ _ _ => nofun
  have hboth := (builds_when_needed rfl hgives widgetHost () ["widget.ts", "other.ts"]).1
  obtain ⟨-, -, -, -, hnext⟩ := builds_when_needed rfl hgives widgetHost () ["widget.ts"]
  have hends : ends (widgetRule.verify "other.ts" widgetHost)
      (Run.after { world := () } (widgetRule.verifies widgetHost ["widget.ts"])) =
        .ok [{ widgetFailure with file := "other.ts" }] := by
    decide +kernel
  have hverify := eq_ok_iff.2 ⟨hends, rfl⟩
  obtain ⟨installs, hneeds, -⟩ := hnext "other.ts" _ _ hverify
  have hcalls : (widgetRule.buildCalls widgetHost () ["widget.ts", "other.ts"]).map
      (·.install.version) = (["next", "1.0", "3.0", "2.0"] : List CodeText) := by
    decide +kernel
  exact ⟨rfl, hgives, hcalls, hboth, _, _, installs, List.cons_ne_nil _ _, hverify, hneeds⟩

end TypeTest
