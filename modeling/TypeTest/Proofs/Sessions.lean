import Mathlib.Data.List.Nodup
import TypeTest.Proofs.Examination
import TypeTest.VersionSearch

/-!
# What sessions keep

A session is changed by asking for a checker, by forgetting a host and by closing it.  The first
part of this file says what each change does to the instance that is kept for a host and a
version; the second says how `Run.obtain` ends and what it leaves behind.

A `Step` is anything that is done with a session: verifying a file by a rule, forgetting a host,
closing.  Several rules may take part.  `Run.after` is the run after some steps, and as a step
that ends in a fault leaves its run behind like any other, the runs after steps are all the runs
that can be reached.

The main result is about any property of instances, given for each version.  If it holds of
whatever is built for a host, then it holds of every instance that any reachable session keeps for
that host (`Run.after_keepsFor`), and likewise for all hosts at once (`Run.after_keepsOnly`):
nothing else ever gets into a session.  The one step from which this follows is that asking for a
checker adds nothing to a session but what was built just then (`Run.instance?_leaves_obtain`).
-/

namespace TypeTest

open TypeTest.Action

variable {η σ α τ ι : Type} [DecidableEq η]

/-! ## The kept instances -/

namespace Session

@[simp] lemma instance?_new (host : η) (version : CodeText) :
    (new : Session η ι).instance? host version = none := rfl

/-- Registering a host changes nothing about what is kept. -/
@[simp] lemma instance?_register (session : Session η ι) (host other : η) (version : CodeText) :
    (session.register host).instance? other version = session.instance? other version := by
  rw [instance?, versionsOf_register, instance?]

@[simp] lemma builds_register (session : Session η ι) (host : η) :
    (session.register host).builds = session.builds := by
  unfold register
  split
  · rfl
  · rfl

lemma versionsOf_record (session : Session η ι) (host other : η) (version : CodeText)
    (built : Option ι) :
    (session.record host version built).versionsOf other =
      if other = host then (session.versionsOf host).insert version built
      else session.versionsOf other := by
  unfold versionsOf record
  rw [Assoc.get?_insert]
  split
  · rfl
  · rfl

/-- Recording a build changes what is kept for its host and version, and nothing else. -/
lemma get?_versionsOf_record (session : Session η ι) (host other : η) (version asked : CodeText)
    (built : Option ι) :
    ((session.record host version built).versionsOf other).get? asked =
      if other = host ∧ asked = version then some built
      else (session.versionsOf other).get? asked := by
  rw [versionsOf_record]
  by_cases hhost : other = host
  · rw [if_pos hhost, Assoc.get?_insert, hhost]
    simp only [true_and]
  · rw [if_neg hhost, if_neg fun hsame => hhost hsame.1]

lemma instance?_record (session : Session η ι) (host other : η) (version asked : CodeText)
    (built : Option ι) :
    (session.record host version built).instance? other asked =
      if other = host ∧ asked = version then built else session.instance? other asked := by
  rw [instance?, get?_versionsOf_record]
  split
  · rfl
  · rfl

lemma versionsOf_forget (session : Session η ι) (host other : η) :
    (session.forget host).versionsOf other =
      if other = host then .empty else session.versionsOf other := by
  unfold versionsOf forget
  rw [Assoc.get?_erase]
  split
  · rfl
  · rfl

lemma instance?_forget (session : Session η ι) (host other : η) (version : CodeText) :
    (session.forget host).instance? other version =
      if other = host then none else session.instance? other version := by
  rw [instance?, versionsOf_forget]
  split
  · rfl
  · rfl

@[simp] lemma instance?_close (session : Session η ι) (host : η) (version : CodeText) :
    session.close.instance? host version = none := rfl

end Session

/-! ## Asking for a checker -/

namespace Run

omit [DecidableEq η] in
lemma onSession_apply (change : Session η ι → Session η ι) (run : Run η σ ι) :
    onSession change run = .ok () { run with session := change run.session } := rfl

omit [DecidableEq η] in
lemma note_apply (event : Event) (run : Run η σ ι) :
    note event run = .ok () { run with events := run.events ++ [event] } := rfl

omit [DecidableEq η] in
lemma get_apply (run : Run η σ ι) : (get : Action (Run η σ ι) (Run η σ ι)) run = .ok run run := rfl

/-- An instance that is kept is used again, and nothing is built. -/
lemma obtain_of_kept {run : Run η σ ι} {host : η} {version : CodeText} {kept : ι}
    (hkept : run.session.instance? host version = some kept) (build : Action σ (Option ι)) :
    obtain host version build run =
      .ok (some kept) {
        session := run.session.register host
        events := run.events ++ [.reusing version]
        world := run.world } := by
  have hregistered : (run.session.register host).instance? host version = some kept := by
    rw [Session.instance?_register, hkept]
  unfold obtain
  simp only [bind, EStateM.bind, onSession_apply, get_apply, note_apply, hregistered]
  rfl

/-- An instance that is not kept is built; what comes of a build that ends well is kept. -/
lemma obtain_of_absent {run : Run η σ ι} {host : η} {version : CodeText}
    (habsent : run.session.instance? host version = none) (build : Action σ (Option ι)) :
    obtain host version build run =
      match build run.world with
      | .ok built world => .ok built {
          session := (run.session.register host).record host version built
          events := run.events ++ [.building version]
          world }
      | .error fault world => .error fault {
          session := run.session.register host
          events := run.events ++ [.building version]
          world } := by
  have hregistered : (run.session.register host).instance? host version = none := by
    rw [Session.instance?_register, habsent]
  unfold obtain onWorld
  simp only [bind, EStateM.bind, onSession_apply, get_apply, note_apply, hregistered]
  cases build run.world with
  | ok built world => rfl
  | error fault world => rfl

omit [DecidableEq η] in
@[simp] lemma ends_onWorld (step : Action σ β) (run : Run η σ ι) :
    ends (onWorld step) run = ends step run.world := by
  unfold ends onWorld
  cases step run.world with
  | ok value world => rfl
  | error fault world => rfl

omit [DecidableEq η] in
@[simp] lemma leaves_onWorld (step : Action σ β) (run : Run η σ ι) :
    leaves (onWorld step) run = { run with world := leaves step run.world } := by
  unfold leaves onWorld
  cases step run.world with
  | ok value world => rfl
  | error fault world => rfl

omit [DecidableEq η] in
@[simp] lemma ends_note (event : Event) (run : Run η σ ι) : ends (note event) run = .ok () := rfl

/-- Asking for a checker gives the one that is kept, or else what is built. -/
lemma ends_obtain (host : η) (version : CodeText) (build : Action σ (Option ι)) (run : Run η σ ι) :
    ends (obtain host version build) run =
      match run.session.instance? host version with
      | some kept => .ok (some kept)
      | none => ends build run.world := by
  cases hinstance : run.session.instance? host version with
  | some kept => rw [ends, obtain_of_kept hinstance]
  | none =>
    rw [ends, obtain_of_absent hinstance, ends]
    cases build run.world with
    | ok built world => rfl
    | error fault world => rfl

/-- What is kept after asking for a checker was kept before, or has been built just then. -/
lemma instance?_leaves_obtain {run : Run η σ ι} {host other : η} {version asked : CodeText}
    {build : Action σ (Option ι)} {kept : ι}
    (hkept : (leaves (obtain host version build) run).session.instance? other asked = some kept) :
    run.session.instance? other asked = some kept ∨
      other = host ∧ asked = version ∧ ends build run.world = .ok (some kept) := by
  cases hinstance : run.session.instance? host version with
  | some found =>
    rw [leaves, obtain_of_kept hinstance] at hkept
    simp only [Session.instance?_register] at hkept
    exact .inl hkept
  | none =>
    rw [leaves, obtain_of_absent hinstance] at hkept
    cases hresult : build run.world with
    | error fault world =>
      rw [hresult] at hkept
      simp only [Session.instance?_register] at hkept
      exact .inl hkept
    | ok built world =>
      rw [hresult] at hkept
      simp only [Session.instance?_record, Session.instance?_register] at hkept
      split at hkept
      · rename_i hsame
        subst hkept
        exact .inr ⟨hsame.1, hsame.2, (eq_ok_iff.1 hresult).1⟩
      · exact .inl hkept

/-! ## What every kept instance has in common -/

/-- Every instance that the session keeps for a host has a property, which may depend on its
version. -/
def KeepsFor (host : η) (P : CodeText → ι → Prop) (run : Run η σ ι) : Prop :=
  ∀ version kept, run.session.instance? host version = some kept → P version kept

/-- Every instance that the session keeps has a property, which may depend on its version. -/
def KeepsOnly (P : CodeText → ι → Prop) (run : Run η σ ι) : Prop :=
  ∀ host version kept, run.session.instance? host version = some kept → P version kept

variable {P : CodeText → ι → Prop}

lemma keepsFor_note (host : η) (event : Event) :
    Keeps (KeepsFor host P) (note event : Action (Run η σ ι) Unit) :=
  fun _ hfor => hfor

lemma keepsOnly_note (event : Event) : Keeps (KeepsOnly P) (note event : Action (Run η σ ι) Unit) :=
  fun _ honly => honly

lemma keepsFor_onWorld (host : η) (step : Action σ β) :
    Keeps (KeepsFor host P) (onWorld step : Action (Run η σ ι) β) := by
  intro run hfor
  rw [leaves_onWorld]
  exact hfor

/-- Whatever is built with the property is kept with it; what is built for other hosts does not
matter. -/
lemma keepsFor_obtain {host other : η} {version : CodeText} {build : Action σ (Option ι)}
    (hbuild : host = other →
      ∀ world built, ends build world = .ok (some built) → P version built) :
    Keeps (KeepsFor host P) (obtain other version build : Action (Run η σ ι) (Option ι)) := by
  intro run hfor asked kept hkept
  rcases instance?_leaves_obtain hkept with hbefore | ⟨hhost, hversion, hbuilt⟩
  · exact hfor asked kept hbefore
  · rw [hversion]
    exact hbuild hhost run.world kept hbuilt

lemma keepsOnly_obtain (host : η) {version : CodeText} {build : Action σ (Option ι)}
    (hbuild : ∀ world built, ends build world = .ok (some built) → P version built) :
    Keeps (KeepsOnly P) (obtain host version build : Action (Run η σ ι) (Option ι)) :=
  fun run honly other => keepsFor_obtain (fun _ => hbuild) run (honly other)

end Run

/-! ## What rules put into a session -/

namespace Options

/-- All installs that options name, the newest first and then the older ones, oldest first. -/
def installs (options : Options) : List Install := options.nextInstall :: options.older

lemma nextInstall_mem_installs (options : Options) : options.nextInstall ∈ options.installs :=
  List.mem_cons_self

lemma mem_installs_of_mem_older {options : Options} {install : Install}
    (hmem : install ∈ options.older) : install ∈ options.installs :=
  List.mem_cons_of_mem _ hmem

/-- No two installs that options name have one version. -/
lemma nodup_versions (options : Options) : (options.installs.map (·.version)).Nodup := by
  rw [installs, List.map_cons, List.nodup_cons]
  refine ⟨fun hnext => ?_, options.distinct⟩
  obtain ⟨older, holder, hname⟩ := List.mem_map.1 hnext
  exact options.unreserved older holder hname

/-- Installs that options name are known by their versions. -/
lemma eq_of_version_eq {options : Options} {install other : Install}
    (hmem : install ∈ options.installs) (hother : other ∈ options.installs)
    (hversion : install.version = other.version) : install = other :=
  List.inj_on_of_nodup_map options.nodup_versions hmem hother hversion

lemma oldest_mem_older (options : Options) : options.oldest ∈ options.older :=
  List.head_mem options.nonempty

lemma mem_older_of_mem_newestFirst {options : Options} {entry : Install × CodeText}
    (hmem : entry ∈ options.newestFirst) : entry.1 ∈ options.older :=
  List.mem_reverse.1 (List.of_mem_zip hmem).1

end Options

namespace Rule

/-- Whatever a rule builds for an install that its options name has a property, which may depend
on the version. -/
def BuildsOnly (P : CodeText → Checker σ α τ → Prop) (rule : Rule σ α τ) : Prop :=
  ∀ options, rule.options = some options → ∀ install ∈ options.installs, ∀ world built,
    ends (rule.build options.configPath install) world = .ok (some built) →
      P install.version built

variable {P : CodeText → Checker σ α τ → Prop} {rule : Rule σ α τ} {options : Options}

lemma verify_eq_search (hoptions : rule.options = some options) (file : String)
    (host : Host η σ α τ) : rule.verify file host = rule.search options file host := by
  unfold verify
  rw [hoptions]

section Parts

variable {ρ : Type} {R : ∀ β : Type, Action (Run η σ (Checker σ α τ)) β →
    Action (Run η ρ (Checker ρ α τ)) β → Prop} {rule' : Rule ρ α τ} {file : String}
  {host : Host η σ α τ} {host' : Host η ρ α τ}

lemma firstFailing_related (hR : Compositional R)
    (hnote : ∀ event, R _ (Run.note event) (Run.note event))
    (hthrow : ∀ β fault, R β (throw fault) (throw fault)) :
    ∀ installs : List (Install × CodeText),
      (∀ entry ∈ installs, ∀ above, R _ (rule.failuresUnder options file host entry.1 above)
        (rule'.failuresUnder options file host' entry.1 above)) →
      R _ (rule.firstFailing options file host installs)
        (rule'.firstFailing options file host' installs)
  | [], _ => hthrow _ _
  | (install, above) :: installs, hunder => by
    refine hR.bind (hnote _) fun _ => ?_
    refine hR.bind (hunder _ List.mem_cons_self _) fun failures => ?_
    split
    · exact firstFailing_related hR hnote hthrow installs
        fun entry hentry => hunder entry (List.mem_cons_of_mem _ hentry)
    · exact hR.pure _

/-- Two rules compose their searches alike, of notes, of a fault, and of verifying under versions
that the options name: whatever sequences inherit, the searches inherit from these. -/
theorem search_related (hR : Compositional R)
    (hnote : ∀ event, R _ (Run.note event) (Run.note event))
    (hthrow : ∀ β fault, R β (throw fault) (throw fault))
    (hunder : ∀ install ∈ options.installs, ∀ above,
      R _ (rule.failuresUnder options file host install above)
        (rule'.failuresUnder options file host' install above)) :
    R _ (rule.search options file host) (rule'.search options file host') := by
  refine hR.bind (hunder _ options.nextInstall_mem_installs _) fun newest => ?_
  split
  · exact hR.pure _
  · have holdest := Options.mem_installs_of_mem_older options.oldest_mem_older
    refine hR.bind (hunder _ holdest _) fun oldest => ?_
    split
    · exact hR.bind (hnote _) fun _ => hR.pure _
    · refine firstFailing_related hR hnote hthrow _ fun entry hentry => ?_
      have holder := Options.mem_older_of_mem_newestFirst hentry
      exact hunder _ (Options.mem_installs_of_mem_older holder)

end Parts

/-- What sequences inherit, a search inherits from its parts. -/
theorem search_of_parts {R : ∀ β : Type, Action (Run η σ (Checker σ α τ)) β →
      Action (Run η σ (Checker σ α τ)) β → Prop} {file : String} {host : Host η σ α τ}
    (hR : Compositional R) (hnote : ∀ event, R _ (Run.note event) (Run.note event))
    (hthrow : ∀ β fault, R β (throw fault) (throw fault))
    (hunder : ∀ install ∈ options.installs, ∀ above,
      let step := rule.failuresUnder options file host install above
      R _ step step) :
    R _ (rule.search options file host) (rule.search options file host) :=
  search_related hR hnote hthrow hunder

lemma keepsFor_failuresUnder {host : η} {other : Host η σ α τ}
    (hrule : host = other.key → rule.BuildsOnly P) (hoptions : rule.options = some options)
    (file : String) {install : Install} (hmem : install ∈ options.installs)
    (above : Option CodeText) :
    Keeps (Run.KeepsFor host P) (rule.failuresUnder options file other install above) :=
  (Run.keepsFor_obtain fun hhost => hrule hhost options hoptions install hmem).bind
    fun _ => Run.keepsFor_onWorld host _

lemma keepsOnly_failuresUnder (hrule : rule.BuildsOnly P) (hoptions : rule.options = some options)
    (file : String) (host : Host η σ α τ) {install : Install} (hmem : install ∈ options.installs)
    (above : Option CodeText) :
    Keeps (Run.KeepsOnly P) (rule.failuresUnder options file host install above) :=
  fun run honly _ =>
    keepsFor_failuresUnder (fun _ => hrule) hoptions file hmem above run (honly _)

lemma keepsFor_verify {host : η} {other : Host η σ α τ}
    (hrule : host = other.key → rule.BuildsOnly P) (file : String) :
    Keeps (Run.KeepsFor host P) (rule.verify file other) := by
  unfold verify
  split
  · exact Run.keepsFor_onWorld host _
  · rename_i options hoptions
    exact search_of_parts (R := fun _ step _ => Keeps (Run.KeepsFor host P) step)
      (Keeps.compositional _) (Run.keepsFor_note host) (fun _ => .throw)
      fun install hmem above => keepsFor_failuresUnder hrule hoptions file hmem above

end Rule

/-! ## Steps -/

/-- What is done with a session. -/
inductive Step (η σ α τ : Type) where
  /-- A rule verifies a file. -/
  | verify (rule : Rule σ α τ) (file : String) (host : Host η σ α τ)
  /-- All that is kept for a host is dropped. -/
  | forget (host : η)
  /-- All that is kept is dropped. -/
  | close

namespace Step

/-- Takes a step; only verifying has a result. -/
def perform : Step η σ α τ → Action (Run η σ (Checker σ α τ)) (List Failure)
  | verify rule file host => rule.verify file host
  | forget host => do
    Run.onSession (·.forget host)
    return []
  | close => do
    Run.onSession (·.close)
    return []

/-- Whoever verifies in a step is one of the given rules. -/
def By (rules : Rule σ α τ → Prop) : Step η σ α τ → Prop
  | verify rule _ _ => rules rule
  | forget _ => True
  | close => True

/-- Whoever verifies for a host in a step is one of the given rules. -/
def ByFor (host : η) (rules : Rule σ α τ → Prop) : Step η σ α τ → Prop
  | verify rule _ other => host = other.key → rules rule
  | forget _ => True
  | close => True

omit [DecidableEq η] in
lemma By.byFor {rules allowed : Rule σ α τ → Prop} {step : Step η σ α τ} (hstep : step.By rules)
    (hrules : ∀ rule, rules rule → allowed rule) (host : η) : step.ByFor host allowed := by
  cases step with
  | verify rule file other => exact fun _ => hrules rule hstep
  | forget other => trivial
  | close => trivial

/-- A step puts nothing into a session but what a rule builds. -/
lemma keepsFor_perform {P : CodeText → Checker σ α τ → Prop} {host : η} {step : Step η σ α τ}
    (hstep : step.ByFor host (·.BuildsOnly P)) : Keeps (Run.KeepsFor host P) step.perform := by
  cases step with
  | verify rule file other => exact Rule.keepsFor_verify hstep file
  | forget other =>
    intro run hfor version kept hkept
    change (run.session.forget other).instance? host version = some kept at hkept
    rw [Session.instance?_forget] at hkept
    split at hkept
    · cases hkept
    · exact hfor version kept hkept
  | close =>
    intro run hfor version kept hkept
    cases hkept

end Step

namespace Run

/-- The run after some steps, each of which may have ended in a fault. -/
def after (run : Run η σ (Checker σ α τ)) (steps : List (Step η σ α τ)) :
    Run η σ (Checker σ α τ) :=
  steps.foldl (fun run step => leaves step.perform run) run

/-- A session keeps nothing for a host but what the rules have built that verify for it. -/
theorem after_keepsFor {P : CodeText → Checker σ α τ → Prop} {host : η}
    {steps : List (Step η σ α τ)} (hsteps : ∀ step ∈ steps, step.ByFor host (·.BuildsOnly P))
    {run : Run η σ (Checker σ α τ)} (hfor : run.KeepsFor host P) :
    (run.after steps).KeepsFor host P := by
  induction steps generalizing run with
  | nil => exact hfor
  | cons step steps ih =>
    have hfirst : (leaves step.perform run).KeepsFor host P :=
      Step.keepsFor_perform (hsteps step List.mem_cons_self) run hfor
    exact ih (fun other hother => hsteps other (List.mem_cons_of_mem _ hother)) hfirst

/-- A session keeps nothing but what the rules have built that share it. -/
theorem after_keepsOnly {P : CodeText → Checker σ α τ → Prop} {rules : Rule σ α τ → Prop}
    (hrules : ∀ rule, rules rule → rule.BuildsOnly P) {steps : List (Step η σ α τ)}
    (hsteps : ∀ step ∈ steps, step.By rules) {run : Run η σ (Checker σ α τ)}
    (honly : run.KeepsOnly P) : (run.after steps).KeepsOnly P :=
  fun host => after_keepsFor (fun step hmem => (hsteps step hmem).byFor hrules host) (honly host)

/-- A new session keeps nothing. -/
lemma keepsOnly_new (P : CodeText → ι → Prop) (world : σ) :
    ({ world } : Run η σ ι).KeepsOnly P := by
  intro host version kept hkept
  cases hkept

end Run

end TypeTest
