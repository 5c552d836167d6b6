import TypeTest.Proofs.Answers
import TypeTest.Proofs.Sessions

/-!
# The boundary between failing and passing versions

The search tries the newest version, then the oldest, and then all of them from newest to oldest.
It takes it for granted that a file that failed on the oldest version will fail there once more,
and gives up with a fault of its own if no version does.  This file shows that it never comes to
that, and that whatever the search reports does lie on a boundary: everything newer passes.
Nothing is assumed about how versions compare with each other.

Three facts meet in the argument.

* The checker that is built for the oldest version is kept, so the same one is asked both times.
* A dependable checker finds the same in a file when it is asked again (`Settled.unique`), and
  whether that amounts to a failure does not depend on the stamp (`failures_eq_nil_iff`).
* The oldest version is among those that are gone through (`exists_mem_newestFirst_oldest`).

`Run.Settled` says what the instance kept for a version has found in a file, now and in any later
world; it survives every step of a search (`Settled.mono`).  `Verdict` lists the ways in which a
search may end well, in these terms, and `endsWell_search` is the main lemma.
-/

namespace TypeTest

open TypeTest.Action

variable {η σ α τ ι : Type} [DecidableEq η] {course : Course σ}

/-! ## Runs that go on from one another -/

namespace Run

/-- A run goes on from another: what was kept is still kept, and the world has moved forward. -/
structure Extends (course : Course σ) (run later : Run η σ ι) : Prop where
  kept : ∀ host version kept, run.session.instance? host version = some kept →
    later.session.instance? host version = some kept
  forward : course.later run.world later.world

lemma Extends.trans {first second third : Run η σ ι} (hfirst : Extends course first second)
    (hsecond : Extends course second third) : Extends course first third where
  kept host version kept hkept :=
    hsecond.kept host version kept (hfirst.kept host version kept hkept)
  forward := course.trans hfirst.forward hsecond.forward

lemma extends_note (run : Run η σ ι) (event : Event) :
    Extends course run (leaves (note event) run) where
  kept _ _ _ hkept := hkept
  forward := course.refl _

/-- The instance that is kept for a host and a version finds this in a file, and will find it
again whenever it is asked. -/
def Settled (course : Course σ) (run : Run η σ (Checker σ α τ)) (host : η) (version : CodeText)
    (file : String) (found : Examination α) : Prop :=
  ∃ checker, run.session.instance? host version = some checker ∧
    ∀ world, course.later run.world world → ends (checker.examine file) world = .ok found

variable {run later : Run η σ (Checker σ α τ)} {host : η} {version : CodeText} {file : String}

lemma Settled.mono {found : Examination α} (hsettled : run.Settled course host version file found)
    (hextends : Extends course run later) : later.Settled course host version file found := by
  obtain ⟨checker, hkept, hfinds⟩ := hsettled
  refine ⟨checker, hextends.kept _ _ _ hkept, fun world hworld => ?_⟩
  exact hfinds world (course.trans hextends.forward hworld)

lemma Settled.unique {found other : Examination α}
    (hfound : run.Settled course host version file found)
    (hother : run.Settled course host version file other) : found = other := by
  obtain ⟨checker, hkept, hfinds⟩ := hfound
  obtain ⟨checker', hkept', hfinds'⟩ := hother
  rw [hkept] at hkept'
  obtain rfl := Option.some.inj hkept'
  have hsame := hfinds run.world (course.refl _)
  rw [hfinds' run.world (course.refl _)] at hsame
  exact (Except.ok.inj hsame).symm

/-- The instance that is kept for a version finds nothing wrong with a file. -/
def Passes (course : Course σ) (run : Run η σ (Checker σ α τ)) (host : η)
    (version : CodeText) (file : String) : Prop :=
  ∃ found, run.Settled course host version file found ∧ found.Clean

lemma Passes.mono (hpasses : run.Passes course host version file)
    (hextends : Extends course run later) : later.Passes course host version file := by
  obtain ⟨found, hsettled, hclean⟩ := hpasses
  exact ⟨found, hsettled.mono hextends, hclean⟩

end Run

/-! ## One version -/

/-- A checker examines a file reliably: it moves the world forward, finds the same when it is asked
again, and has none but the allowed faults. -/
structure Checker.Examines (course : Course σ) (allowed : Fault → Prop) (file : String)
    (checker : Checker σ α τ) : Prop where
  steady : Steady course (checker.examine file)
  faults : FaultsOnly allowed (checker.examine file)

/-- A rule has a checker built for every install that its options name: no build ends in a fault
or has nothing to give, and building moves the world forward like any other step. -/
structure Rule.Provides (course : Course σ) (rule : Rule σ α τ) (options : Options) : Prop where
  forward : ∀ install ∈ options.installs, ∀ world,
    course.later world (leaves (rule.build options.configPath install) world)
  returns : ∀ install ∈ options.installs, ∀ world,
    ∃ built, ends (rule.build options.configPath install) world = .ok (some built)

/-- All that a search relies on: a rule's options, the property that all checkers for their versions
have, and that checkers with this property examine the file reliably. -/
structure SearchSetting (course : Course σ) (P : CodeText → Checker σ α τ → Prop)
    (allowed : Fault → Prop) (rule : Rule σ α τ) (options : Options) (file : String) : Prop where
  options_eq : rule.options = some options
  provides : rule.Provides course options
  builds : rule.BuildsOnly P
  examines : ∀ install ∈ options.installs, ∀ checker, P install.version checker →
    checker.Examines course allowed file

namespace Rule

variable {P : CodeText → Checker σ α τ → Prop} {allowed : Fault → Prop} {rule : Rule σ α τ}
  {options : Options} {file : String} {run : Run η σ (Checker σ α τ)}

/-- Asking for a checker gives one, which is kept from then on at the latest. -/
lemma obtain_spec (hprovides : rule.Provides course options) (host : η) {install : Install}
    (hmem : install ∈ options.installs) (run : Run η σ (Checker σ α τ)) :
    let step := Run.obtain host install.version (rule.build options.configPath install)
    ∃ checker, ends step run = .ok (some checker) ∧
      (leaves step run).session.instance? host install.version = some checker ∧
      Run.Extends course run (leaves step run) := by
  intro step
  cases hinstance : run.session.instance? host install.version with
  | some kept =>
    have hstep := Run.obtain_of_kept hinstance (rule.build options.configPath install)
    obtain ⟨hends, hleaves⟩ := eq_ok_iff.1 hstep
    refine ⟨kept, hends, ?_, ?_⟩
    · rw [hleaves, Session.instance?_register, hinstance]
    · rw [hleaves]
      exact ⟨fun _ _ _ hkept => by rwa [Session.instance?_register], course.refl _⟩
  | none =>
    obtain ⟨built, hbuilt⟩ := hprovides.returns install hmem run.world
    have hforward := hprovides.forward install hmem run.world
    have hstep := Run.obtain_of_absent hinstance (rule.build options.configPath install)
    rw [eq_ok_iff.2 ⟨hbuilt, rfl⟩] at hstep
    obtain ⟨hends, hleaves⟩ := eq_ok_iff.1 hstep
    refine ⟨built, hends, ?_, ?_⟩
    · rw [hleaves, Session.instance?_record, if_pos ⟨rfl, rfl⟩]
    · rw [hleaves]
      refine ⟨fun other asked kept hkept => ?_, hforward⟩
      rw [Session.instance?_record, Session.instance?_register]
      -- the new instance takes the place of none that was kept
      split
      · rename_i hsame
        rw [hsame.1, hsame.2, hinstance] at hkept
        cases hkept
      · exact hkept

/-- Verifying under one version is verifying by the checker that is asked for. -/
lemma ends_failuresUnder {host : Host η σ α τ} {install : Install} {checker : Checker σ α τ}
    (hends : ends (Run.obtain host.key install.version (rule.build options.configPath install))
      run = .ok (some checker)) (file : String) (above : Option CodeText) :
    ends (rule.failuresUnder options file host install above) run =
      ends (checker.verify file { version := install.version, above, label := options.label })
        (leaves (Run.obtain host.key install.version (rule.build options.configPath install))
          run).world := by
  rw [failuresUnder, ends_bind_of_ok hends, Run.ends_onWorld, Option.getD_some]

lemma leaves_failuresUnder {host : Host η σ α τ} {install : Install} {checker : Checker σ α τ}
    (hends : ends (Run.obtain host.key install.version (rule.build options.configPath install))
      run = .ok (some checker)) (file : String) (above : Option CodeText) :
    let middle := leaves (Run.obtain host.key install.version
      (rule.build options.configPath install)) run
    leaves (rule.failuresUnder options file host install above) run =
      { middle with world := leaves (checker.examine file) middle.world } := by
  rw [failuresUnder, leaves_bind_of_ok hends, Run.leaves_onWorld, Option.getD_some,
    Checker.verify_eq_examine, leaves_map]

/-- Verifying under one version reports what the instance for that version has found, and goes on
finding. -/
lemma failuresUnder_spec (hset : SearchSetting course P allowed rule options file)
    (honly : run.KeepsOnly P) (host : Host η σ α τ) {install : Install}
    (hmem : install ∈ options.installs) (above : Option CodeText) :
    let stamp : Stamp := { version := install.version, above, label := options.label }
    let step := rule.failuresUnder options file host install above
    (leaves step run).KeepsOnly P ∧ Run.Extends course run (leaves step run) ∧
      ((∃ fault, ends step run = .error fault ∧ allowed fault) ∨
        ∃ found, (leaves step run).Settled course host.key install.version file found ∧
          ends step run = .ok (found.failures file stamp)) := by
  intro stamp step
  obtain ⟨checker, hends, hkept, hextends⟩ := obtain_spec hset.provides host.key hmem run
  have hchecker : P install.version checker :=
    Run.keepsOnly_obtain host.key (hset.builds options hset.options_eq install hmem) run honly
      host.key install.version checker hkept
  obtain ⟨hsteady, hfaults⟩ := hset.examines install hmem checker hchecker
  have hleaves := leaves_failuresUnder hends file above
  have hresult := ends_failuresUnder hends file above
  rw [Checker.verify_eq_examine, ends_map] at hresult
  generalize leaves (Run.obtain host.key install.version
    (rule.build options.configPath install)) run = middle at hkept hextends hleaves hresult
  refine ⟨keepsOnly_failuresUnder hset.builds hset.options_eq file host hmem above run honly,
    ?_, ?_⟩
  · exact hleaves ▸ ⟨hextends.kept, course.trans hextends.forward (hsteady.forward _)⟩
  · cases hfound : ends (checker.examine file) middle.world with
    | error fault =>
      rw [hfound] at hresult
      exact .inl ⟨fault, hresult, hfaults _ _ hfound⟩
    | ok found =>
      rw [hfound] at hresult
      refine .inr ⟨found, hleaves ▸ ⟨checker, hkept, fun world hworld => ?_⟩, hresult⟩
      rw [hsteady.again _ world hworld, hfound]

end Rule

/-! ## Places in the search order -/

namespace Options

variable (options : Options)

lemma map_fst_newestFirst : options.newestFirst.map (·.1) = options.older.reverse := by
  unfold newestFirst
  exact List.map_fst_zip (by simp)

lemma length_newestFirst : options.newestFirst.length = options.older.length := by
  rw [← List.length_map (·.1), map_fst_newestFirst, List.length_reverse]

/-- The oldest version is gone through like any other. -/
lemma exists_mem_newestFirst_oldest : ∃ entry ∈ options.newestFirst, entry.1 = options.oldest := by
  have hmem : options.oldest ∈ options.newestFirst.map (·.1) := by
    rw [map_fst_newestFirst, List.mem_reverse]
    exact options.oldest_mem_older
  exact List.mem_map.1 hmem

/-- The name of the version just above an older install: that of the next one in the list, and
that of the newest version after the last one. -/
def nameAbove (index : Nat) : CodeText :=
  (options.older[index + 1]?.map (·.version)).getD nextVersion

lemma versionAbove?_natCast {index : Nat} (hindex : index < options.older.length) :
    options.versionAbove? index = some (options.nameAbove index) := by
  have hcast : ((index : Int) + 1) = ((index + 1 : Nat) : Int) := by omega
  unfold versionAbove? nameAbove
  rw [hcast, Text.signedGet?_natCast]
  by_cases hlast : index + 1 = options.older.length
  · rw [if_pos (by omega), List.getElem?_eq_none (by omega)]
    rfl
  · rw [if_neg (by omega), List.getElem?_eq_getElem (by omega)]
    rfl

/-- From the newest on, the search meets the older installs in order of falling index, each with
the name of the version just above it. -/
lemma getElem?_newestFirst {index : Nat} (hindex : index < options.older.length) :
    options.newestFirst[options.older.length - 1 - index]? =
      some (options.older[index], options.nameAbove index) := by
  have hplace : options.older.length - 1 - index < options.newestFirst.length := by
    rw [length_newestFirst]
    omega
  have hinstall : options.older.length - 1 - (options.older.length - 1 - index) = index := by
    omega
  rw [List.getElem?_eq_getElem hplace, Option.some.injEq]
  simp only [newestFirst, List.getElem_zip, List.getElem_reverse, hinstall, Prod.mk.injEq,
    true_and, nameAbove]
  by_cases hlast : index + 1 = options.older.length
  · have hzero : options.older.length - 1 - index = 0 := by omega
    simp [hlast, hzero]
  · have hsucc : options.older.length - 1 - index =
        (options.older.length - 1 - (index + 1)) + 1 := by omega
    have hnext : options.older.length - 1 - (options.older.length - 1 - (index + 1)) =
        index + 1 := by omega
    have hbound : index + 1 < options.older.length := by omega
    simp [hsucc, hnext, hbound]

end Options

/-! ## The whole search -/

/-- How a search may end well, told by what the instances that are kept afterwards find in the
file. -/
inductive Verdict (course : Course σ) (options : Options) (run : Run η σ (Checker σ α τ))
    (host : η) (file : String) : List Failure → Prop
  /-- The newest version fails. -/
  | newest (found : Examination α)
      (hfound : run.Settled course host nextVersion file found) (hfails : ¬ found.Clean) :
      Verdict course options run host file
        (found.failures file { version := nextVersion, label := options.label })
  /-- Both ends pass. -/
  | spared (hnewest : run.Passes course host nextVersion file)
      (holdest : run.Passes course host options.oldest.version file) :
      Verdict course options run host file []
  /-- An older version fails, and all that are newer pass. -/
  | boundary (newer older : List (Install × CodeText)) (install : Install) (above : CodeText)
      (found : Examination α)
      (hplace : options.newestFirst = newer ++ (install, above) :: older)
      (hnewest : run.Passes course host nextVersion file)
      (hnewer : ∀ entry ∈ newer, run.Passes course host entry.1.version file)
      (hfound : run.Settled course host install.version file found) (hfails : ¬ found.Clean) :
      Verdict course options run host file (found.failures file
        { version := install.version, above := some above, label := options.label })

/-- A search ends as it should: with an allowed fault, or with a verdict. -/
def EndsWell (course : Course σ) (allowed : Fault → Prop) (options : Options) (host : η)
    (file : String) (step : Action (Run η σ (Checker σ α τ)) (List Failure))
    (run : Run η σ (Checker σ α τ)) : Prop :=
  (∃ fault, ends step run = .error fault ∧ allowed fault) ∨
    ∃ failures, ends step run = .ok failures ∧
      Verdict course options (leaves step run) host file failures

namespace EndsWell

variable {allowed : Fault → Prop} {options : Options} {host : η} {file : String}
  {run : Run η σ (Checker σ α τ)} {step : Action (Run η σ (Checker σ α τ)) β}
  {next : β → Action (Run η σ (Checker σ α τ)) (List Failure)}

lemma bind_of_error {fault : Fault} (hends : ends step run = .error fault)
    (hallowed : allowed fault) : EndsWell course allowed options host file (step >>= next) run :=
  .inl ⟨fault, ends_bind_of_error hends next, hallowed⟩

lemma bind_of_ok {value : β} (hends : ends step run = .ok value)
    (hnext : EndsWell course allowed options host file (next value) (leaves step run)) :
    EndsWell course allowed options host file (step >>= next) run := by
  unfold EndsWell
  rw [ends_bind_of_ok hends, leaves_bind_of_ok hends]
  exact hnext

lemma pure {failures : List Failure} (hverdict : Verdict course options run host file failures) :
    EndsWell course allowed options host file (pure failures) run :=
  .inr ⟨failures, rfl, hverdict⟩

end EndsWell

namespace Rule

variable {P : CodeText → Checker σ α τ → Prop} {allowed : Fault → Prop} {rule : Rule σ α τ}
  {options : Options} {file : String}

/-- Going through the older versions ends at the first one that fails, if all that have been gone
through pass and the oldest is known to fail. -/
lemma endsWell_firstFailing (hset : SearchSetting course P allowed rule options file)
    (host : Host η σ α τ) :
    ∀ (newer rest : List (Install × CodeText)) (run : Run η σ (Checker σ α τ)),
      options.newestFirst = newer ++ rest → run.KeepsOnly P →
      run.Passes course host.key nextVersion file →
      (∀ entry ∈ newer, run.Passes course host.key entry.1.version file) →
      (∃ found, run.Settled course host.key options.oldest.version file found ∧ ¬ found.Clean) →
      EndsWell course allowed options host.key file
        (rule.firstFailing options file host rest) run := by
  intro newer rest
  induction rest generalizing newer with
  | nil =>
    -- the oldest version has been gone through and passes, but it is known to fail
    intro run hsplit _ _ hnewer ⟨found, hfound, hfails⟩
    obtain ⟨entry, hmem, hentry⟩ := options.exists_mem_newestFirst_oldest
    rw [hsplit, List.append_nil] at hmem
    obtain ⟨other, hother, hclean⟩ := hnewer entry hmem
    rw [hentry] at hother
    exact absurd (hfound.unique hother ▸ hclean) hfails
  | cons entry rest ih =>
    obtain ⟨install, above⟩ := entry
    intro run hsplit honly hnewest hnewer holdest
    have hmem : install ∈ options.older :=
      have hentry : (install, above) ∈ options.newestFirst := by simp [hsplit]
      Options.mem_older_of_mem_newestFirst hentry
    refine .bind_of_ok (Run.ends_note (.testing install.version) run) ?_
    have hnoted : Run.Extends course run (leaves (Run.note (.testing install.version)) run) :=
      Run.extends_note run _
    obtain ⟨honly', hextends, hends⟩ := failuresUnder_spec hset
      (Run.keepsOnly_note (.testing install.version) run honly) host
      (Options.mem_installs_of_mem_older hmem) (some above)
    replace hextends := hnoted.trans hextends
    rcases hends with ⟨fault, hends, hallowed⟩ | ⟨found, hfound, hends⟩
    · exact .bind_of_error hends hallowed
    refine .bind_of_ok hends ?_
    have hnewest' := hnewest.mono hextends
    by_cases hclean : found.Clean
    · rw [if_pos (Examination.isEmpty_failures hclean file _)]
      refine ih (newer ++ [(install, above)]) _ (by simp [hsplit]) honly' hnewest'
        (fun entry hentry => ?_) ?_
      · rcases List.mem_append.1 hentry with hentry | hentry
        · exact (hnewer entry hentry).mono hextends
        · obtain rfl := List.mem_singleton.1 hentry
          exact ⟨found, hfound, hclean⟩
      · obtain ⟨old, hold, hfails⟩ := holdest
        exact ⟨old, hold.mono hextends, hfails⟩
    · rw [Examination.isEmpty_failures_eq_false hclean, if_neg Bool.false_ne_true]
      have hpassed := fun entry hentry => (hnewer entry hentry).mono hextends
      have hverdict := Verdict.boundary newer rest install above found hsplit hnewest' hpassed
        hfound hclean
      exact .pure hverdict

/-- What the search does once the newest version has passed. -/
def searchOlder (rule : Rule σ α τ) (options : Options) (file : String) (host : Host η σ α τ) :
    Action (Run η σ (Checker σ α τ)) (List Failure) := do
  let oldest ← rule.failuresUnder options file host options.oldest none
  if oldest.isEmpty then
    Run.note (.spared file options.oldest.version)
    return []
  else rule.firstFailing options file host options.newestFirst

lemma search_eq (rule : Rule σ α τ) (options : Options) (file : String) (host : Host η σ α τ) :
    rule.search options file host =
      rule.failuresUnder options file host options.nextInstall none >>= fun newest =>
        if !newest.isEmpty then pure newest else rule.searchOlder options file host := rfl

lemma endsWell_searchOlder (hset : SearchSetting course P allowed rule options file)
    {run : Run η σ (Checker σ α τ)} (honly : run.KeepsOnly P) (host : Host η σ α τ)
    (hnewest : run.Passes course host.key nextVersion file) :
    EndsWell course allowed options host.key file (rule.searchOlder options file host) run := by
  obtain ⟨honly', hextends, hends⟩ := failuresUnder_spec hset honly host
    (Options.mem_installs_of_mem_older options.oldest_mem_older) none
  replace hnewest := hnewest.mono hextends
  rcases hends with ⟨fault, hends, hallowed⟩ | ⟨found, hfound, hends⟩
  · exact .bind_of_error hends hallowed
  refine .bind_of_ok hends ?_
  by_cases hclean : found.Clean
  · rw [if_pos (Examination.isEmpty_failures hclean file _)]
    have hnoted : Run.Extends course (leaves (rule.failuresUnder options file host options.oldest
        none) run) _ := Run.extends_note _ (.spared file options.oldest.version)
    exact .bind_of_ok (Run.ends_note _ _)
      (.pure (.spared (hnewest.mono hnoted) ⟨found, hfound.mono hnoted, hclean⟩))
  · rw [Examination.isEmpty_failures_eq_false hclean, if_neg Bool.false_ne_true]
    exact endsWell_firstFailing hset host [] options.newestFirst _ rfl honly' hnewest
      (fun _ hmem => absurd hmem List.not_mem_nil) ⟨found, hfound, hclean⟩

/-- A search in a setting that it can rely on ends well. -/
theorem endsWell_search (hset : SearchSetting course P allowed rule options file)
    {run : Run η σ (Checker σ α τ)} (honly : run.KeepsOnly P) (host : Host η σ α τ) :
    EndsWell course allowed options host.key file (rule.search options file host) run := by
  obtain ⟨honly', -, hends⟩ := failuresUnder_spec hset honly host
    options.nextInstall_mem_installs none
  rw [search_eq]
  rcases hends with ⟨fault, hends, hallowed⟩ | ⟨found, hfound, hends⟩
  · exact .bind_of_error hends hallowed
  refine .bind_of_ok hends ?_
  by_cases hclean : found.Clean
  · rw [Examination.isEmpty_failures hclean]
    exact endsWell_searchOlder hset honly' host ⟨found, hfound, hclean⟩
  · rw [Examination.isEmpty_failures_eq_false hclean]
    exact .pure (.newest found hfound hclean)

end Rule

/-- Whatever a rule builds answers dependably. -/
def Rule.BuildsDependable (course : Course σ) (rule : Rule σ α τ) : Prop :=
  rule.BuildsOnly fun _ checker => checker.Dependable course

/-! ## Rules that are known by their answers -/

/-- The rule whose checkers give answers that depend on the version. -/
def Rule.ofAnswers (options : Options) (answers : CodeText → Answers α τ) : Rule σ α τ where
  options := some options
  build _ install := pure (some (answers install.version).checker)

namespace Rule

variable (options : Options) (answers : CodeText → Answers α τ)

lemma ofAnswers_buildsDependable :
    (ofAnswers options answers : Rule σ α τ).BuildsDependable Course.any := by
  intro _ _ install _ world built hbuilt
  obtain rfl := Option.some.inj (Except.ok.inj hbuilt)
  exact (answers install.version).checker_gives.dependable

lemma ofAnswers_provides :
    (ofAnswers options answers : Rule σ α τ).Provides Course.any options where
  forward _ _ _ := trivial
  returns install _ _ := ⟨(answers install.version).checker, rfl⟩

end Rule

/-- Three older versions, of which the last one knows what the first two do not. -/
def widgetOptions : Options where
  configPath := "project/tsconfig.json"
  nextPath := "/checkers/next"
  older := [⟨"1.0", "/checkers/1.0"⟩, ⟨"2.0", "/checkers/2.0"⟩, ⟨"3.0", "/checkers/3.0"⟩]
  label := defaultLabel
  nonempty := by decide
  distinct := by decide
  unreserved := by decide

/-- What the versions say about a file that calls a function of version 3.0. -/
def widgetAnswers (version : CodeText) : Answers Unit String where
  sourceText _ := "make();"
  isDeclarationFile _ := false
  syntaxTree _ := .mk "SourceFile" 0 7 () [] none
  diagnostics file :=
    if version = "1.0" ∨ version = "2.0" then
      [⟨.plain "Cannot find name 'make'.", some file, some 0, 4⟩]
    else []
  typeOf _ := "Widget"
  renderType type _ := type

/-- A rule for these versions. -/
def widgetRule : Rule Unit Unit String := .ofAnswers widgetOptions widgetAnswers

/-- A program under test. -/
def widgetHost : Host String Unit Unit String := ⟨"host", (widgetAnswers "").checker⟩

/-- What is reported: version 2.0 fails, and 3.0 does not. -/
def widgetFailure : Failure where
  start := 0
  length := 4
  message := "Compile error in TypeScript@2.0 but not in TypeScript@3.0.\n" ++
    "Fix with a comment '// TypeScript Version: 3.0' just under the header.\n" ++
    "Cannot find name 'make'."
  kind := .unexpectedDiagnostic
  file := "widget.ts"
  version := some "2.0"
  above := some "3.0"

/-- The session is in use already, and has been closed once. -/
def widgetSteps : List (Step String Unit Unit String) :=
  [.verify widgetRule "other.ts" widgetHost, .close, .verify widgetRule "widget.ts" widgetHost,
    .forget "another host"]

/-! ## What is reported lies on a boundary -/

namespace Run

/-- The instance that a run keeps for a host and the version of a stamp, asked about a file, has
these failures.  An instance that has been used is kept, so at the end of a search this speaks of
the instances that it used. -/
def Reports (run : Run η σ (Checker σ α τ)) (host : η) (file : String) (stamp : Stamp)
    (failures : List Failure) : Prop :=
  ∃ checker, run.session.instance? host stamp.version = some checker ∧
    ends (checker.verify file stamp) run.world = .ok failures

variable {run : Run η σ (Checker σ α τ)} {host : η} {file : String}

lemma Settled.reports {found : Examination α} (stamp : Stamp)
    (hsettled : run.Settled course host stamp.version file found) :
    run.Reports host file stamp (found.failures file stamp) := by
  obtain ⟨checker, hkept, hfinds⟩ := hsettled
  refine ⟨checker, hkept, ?_⟩
  rw [Checker.verify_eq_examine, ends_map, hfinds run.world (course.refl _)]
  rfl

lemma Passes.reports (stamp : Stamp) (hpasses : run.Passes course host stamp.version file) :
    run.Reports host file stamp [] := by
  obtain ⟨found, hsettled, hclean⟩ := hpasses
  have hreports := hsettled.reports stamp
  rwa [(found.failures_eq_nil_iff file stamp).2 hclean] at hreports

end Run

/-- The stamp under which the newest version is tried. -/
def Options.newestStamp (options : Options) : Stamp where
  version := nextVersion
  label := options.label

/-- The stamp under which an older version is tried in search of a boundary. -/
def Options.stampAt (options : Options) (index : Nat) (hindex : index < options.older.length) :
    Stamp where
  version := options.older[index].version
  above := some (options.nameAbove index)
  label := options.label

namespace Verdict

variable {options : Options} {run : Run η σ (Checker σ α τ)} {host : η} {file : String}

/-- A boundary is at some place in the list of older installs, and all after that place pass. -/
lemma exists_index {newer older : List (Install × CodeText)} {install : Install} {above : CodeText}
    (hplace : options.newestFirst = newer ++ (install, above) :: older)
    (hnewer : ∀ entry ∈ newer, run.Passes course host entry.1.version file) :
    ∃ index, ∃ hindex : index < options.older.length,
      options.older[index] = install ∧ options.nameAbove index = above ∧
        ∀ other, index < other → ∀ hother : other < options.older.length,
          run.Passes course host options.older[other].version file := by
  have hlength := options.length_newestFirst
  rw [hplace, List.length_append, List.length_cons] at hlength
  have hindex : older.length < options.older.length := by omega
  have hentry := options.getElem?_newestFirst hindex
  have hmiddle : options.older.length - 1 - older.length = newer.length := by omega
  rw [hmiddle, hplace, List.getElem?_append_right (Nat.le_refl _), Nat.sub_self,
    List.getElem?_cons_zero, Option.some.injEq, Prod.mk.injEq] at hentry
  refine ⟨older.length, hindex, hentry.1.symm, hentry.2.symm, fun other hlt hother => ?_⟩
  have hother' := options.getElem?_newestFirst hother
  rw [hplace, List.getElem?_append_left (by omega)] at hother'
  exact hnewer _ (List.mem_of_getElem? hother')

end Verdict

/-- Failures of a file lie on a boundary.  Either they are those under the newest version, or they
are those under some older one, stamped for it and for the version just above, and neither the
newest version nor any older one that comes after it has failures. -/
def Run.OnBoundary (run : Run η σ (Checker σ α τ)) (options : Options) (host : η) (file : String)
    (failures : List Failure) : Prop :=
  run.Reports host file options.newestStamp failures ∨
    ∃ index, ∃ hindex : index < options.older.length,
      run.Reports host file (options.stampAt index hindex) failures ∧
      (∀ failure ∈ failures, failure.version = some options.older[index].version ∧
        failure.above = some (options.nameAbove index)) ∧
      run.Reports host file options.newestStamp [] ∧
      ∀ other, index < other → ∀ hother : other < options.older.length,
        run.Reports host file (options.stampAt other hother) []

lemma Verdict.onBoundary {options : Options} {run : Run η σ (Checker σ α τ)} {host : η}
    {file : String} {failures : List Failure}
    (hverdict : Verdict course options run host file failures) (hne : failures ≠ []) :
    run.OnBoundary options host file failures := by
  cases hverdict with
  | newest found hfound hfails => exact .inl (hfound.reports options.newestStamp)
  | spared hnewest holdest => exact absurd rfl hne
  | boundary newer older install above found hplace hnewest hnewer hfound hfails =>
    obtain ⟨index, hindex, hinstall, habove, hpass⟩ := Verdict.exists_index hplace hnewer
    subst hinstall habove
    refine .inr ⟨index, hindex, hfound.reports (options.stampAt index hindex), ?_, ?_, ?_⟩
    · exact fun failure hmem => Examination.stamp_of_mem_failures hmem
    · exact hnewest.reports options.newestStamp
    · exact fun other hlt hother =>
        (hpass other hlt hother).reports (options.stampAt other hother)

/-- **Whatever is reported lies on a boundary.**  Let any rules share a session, let whatever they
build answer dependably, and let one of them have a checker built for each of its versions.  From
any state of the session that can be reached, that rule's search does not run out of versions: the
only fault that it may end in is an expression statement without its expression.  And if it
reports anything, that lies on a boundary.  Nothing is assumed about how the versions compare. -/
theorem verify_reports_boundary {rules : Rule σ α τ → Prop}
    (hrules : ∀ rule, rules rule → rule.BuildsDependable course) {rule : Rule σ α τ}
    (hrule : rules rule) {options : Options} (hoptions : rule.options = some options)
    (hprovides : rule.Provides course options) {steps : List (Step η σ α τ)}
    (hsteps : ∀ step ∈ steps, step.By rules) (start : σ) (file : String)
    (host : Host η σ α τ) :
    let run : Run η σ (Checker σ α τ) := Run.after { world := start } steps
    (∀ fault run', rule.verify file host run = .error fault run' → fault = .noExpression) ∧
      ∀ failures run', rule.verify file host run = .ok failures run' → failures ≠ [] →
        run'.OnBoundary options host.key file failures := by
  intro run
  have honly : run.KeepsOnly fun _ checker => checker.Dependable course :=
    Run.after_keepsOnly hrules hsteps (Run.keepsOnly_new _ start)
  have hset : SearchSetting course (fun _ checker => checker.Dependable course)
      (· = .noExpression) rule options file :=
    ⟨hoptions, hprovides, hrules rule hrule, fun _ _ checker hchecker =>
      ⟨hchecker.examine_steady file, hchecker.examine_faultsOnly file⟩⟩
  have hends := Rule.endsWell_search hset honly host
  rw [Rule.verify_eq_search hoptions]
  constructor
  · intro fault run' hfault
    rcases hends with ⟨other, hends, hallowed⟩ | ⟨failures, hends, -⟩
    · exact Except.error.inj (hends.symm.trans (eq_error_iff.1 hfault).1) ▸ hallowed
    · exact nomatch hends.symm.trans (eq_error_iff.1 hfault).1
  · intro failures run' hok hne
    obtain ⟨hvalue, hleaves⟩ := eq_ok_iff.1 hok
    rcases hends with ⟨fault, hends, -⟩ | ⟨other, hends, hverdict⟩
    · exact nomatch hends.symm.trans hvalue
    · obtain rfl := Except.ok.inj (hends.symm.trans hvalue)
      rw [hleaves] at hverdict
      exact hverdict.onBoundary hne

/-- The search after some use of the session ends with failures, and they lie on a boundary. -/
theorem verify_reports_boundary_widget :
    (∀ rule, rule = widgetRule → rule.BuildsDependable Course.any) ∧
      widgetRule.options = some widgetOptions ∧ widgetRule.Provides Course.any widgetOptions ∧
      (∀ step ∈ widgetSteps, step.By (· = widgetRule)) ∧
      ∃ failures run', widgetRule.verify "widget.ts" widgetHost
          (Run.after { world := () } widgetSteps) = .ok failures run' ∧
        failures ≠ [] ∧ run'.OnBoundary widgetOptions "host" "widget.ts" failures := by
  have hrules : ∀ rule, rule = widgetRule → rule.BuildsDependable Course.any := by
    rintro rule rfl
    exact Rule.ofAnswers_buildsDependable widgetOptions widgetAnswers
  have hprovides : widgetRule.Provides Course.any widgetOptions :=
    Rule.ofAnswers_provides widgetOptions widgetAnswers
  have hsteps : ∀ step ∈ widgetSteps, step.By (· = widgetRule) := by
    simp [widgetSteps, Step.By]
  have hends : ends (widgetRule.verify "widget.ts" widgetHost)
      (Run.after { world := () } widgetSteps) = .ok [widgetFailure] := by
    decide +kernel
  have hboundary := (verify_reports_boundary hrules rfl rfl hprovides hsteps () "widget.ts"
    widgetHost).2
  have hverify := eq_ok_iff.2 ⟨hends, rfl⟩
  exact ⟨hrules, rfl, hprovides, hsteps, _, _, hverify, List.cons_ne_nil _ _,
    hboundary _ _ hverify (List.cons_ne_nil _ _)⟩

end TypeTest
