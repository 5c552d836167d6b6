import Mathlib.Data.List.Nodup
import TypeTest.Proofs.Boundary

/-!
# Whether a session has been used does not show

A session saves builds, and should save nothing else: whatever a rule is asked, the outcome ought
to be the one that it would have with a session in which nothing has been built.  This file shows
that it is, for a rule that has its session to itself and a provider on which one can rely: what
its builds come to depends on the configuration and the install alone, and what the checkers answer
depends on the question alone (`Consistent`).  A build may well raise, or have nothing to give.

Two builds of such a provider need not give one and the same checker, only checkers that answer
alike, and so `BuiltAlike` is what is said about the ends of builds throughout.

The invariant is about every instance that is kept: it is like what the rule would build itself, at
any later time, for the version under which it is kept (`Rule.WouldBuild`).  A session that keeps
nothing has it.  It survives whatever the rule does, faults included, since nothing gets into a
session but what has been built (`Run.after_keepsFor`).  And among runs that have it, the outcome of
a search is the same (`Rule.uniform_verify`), since a kept instance ends each of the search's parts
as a new one does (`Rule.ends_failuresUnder_of_builtAlike`).

The invariant is kept host by host.  A session that several rules share has it for some hosts and
may lack it for others.
-/

namespace TypeTest

open TypeTest.Action

variable {η σ α τ : Type} [DecidableEq η]

/-! ## Builds that come to the same -/

/-- Two ends of builds that nothing which is done afterwards tells apart: one fault, nothing to
give, or checkers that answer alike. -/
inductive BuiltAlike :
    Except Fault (Option (Checker σ α τ)) → Except Fault (Option (Checker σ α τ)) → Prop
  | fault (fault : Fault) : BuiltAlike (.error fault) (.error fault)
  | nothing : BuiltAlike (.ok none) (.ok none)
  | checker {checker other : Checker σ α τ} (halike : checker.Alike other) :
    BuiltAlike (.ok (some checker)) (.ok (some other))

namespace BuiltAlike

variable {built middle other : Except Fault (Option (Checker σ α τ))}

lemma symm (hbuilt : BuiltAlike built other) : BuiltAlike other built := by
  cases hbuilt with
  | fault fault => exact .fault fault
  | nothing => exact .nothing
  | checker halike => exact .checker halike.symm

lemma trans (hfirst : BuiltAlike built middle) (hsecond : BuiltAlike middle other) :
    BuiltAlike built other := by
  cases hfirst with
  | fault fault => exact hsecond
  | nothing => exact hsecond
  | checker halike =>
    cases hsecond with
    | checker halike' => exact .checker (halike.trans halike')

end BuiltAlike

/-- A provider on which one can rely: for one configuration and install all builds come to the
same, at whatever time they are made. -/
def Consistent (build : CodeText → Install → Action σ (Option (Checker σ α τ))) : Prop :=
  ∀ configPath install world world',
    BuiltAlike (ends (build configPath install) world) (ends (build configPath install) world')

namespace Rule

variable {rule other : Rule σ α τ} {options : Options}

/-- Two rules have the versions that they both name built alike. -/
def Agrees (rule other : Rule σ α τ) : Prop :=
  ∀ options options', rule.options = some options → other.options = some options' →
    ∀ install ∈ options.installs, ∀ install' ∈ options'.installs,
      install.version = install'.version → ∀ world world',
        BuiltAlike (ends (rule.build options.configPath install) world)
          (ends (other.build options'.configPath install') world')

lemma agrees_self (hconsistent : Consistent rule.build) : rule.Agrees rule := by
  intro options options' hoptions hoptions' install hmem install' hmem' hversion world world'
  obtain rfl := Option.some.inj (hoptions.symm.trans hoptions')
  obtain rfl := Options.eq_of_version_eq hmem hmem' hversion
  exact hconsistent options.configPath install world world'

/-- A checker is like what a rule builds for a version, whenever it does. -/
def WouldBuild (rule : Rule σ α τ) (options : Options) (version : CodeText)
    (checker : Checker σ α τ) : Prop :=
  ∀ install ∈ options.installs, install.version = version → ∀ world,
    BuiltAlike (.ok (some checker)) (ends (rule.build options.configPath install) world)

/-- What is built for one of two rules that agree, the other one would build. -/
lemma Agrees.buildsOnly (hagrees : other.Agrees rule) (hoptions : rule.options = some options) :
    other.BuildsOnly (rule.WouldBuild options) := by
  intro options' hoptions' install' hmem' world' built hbuilt install hmem hversion world
  rw [← hbuilt]
  exact hagrees options' options hoptions' hoptions install' hmem' install hmem hversion.symm
    world' world

/-! ## Searches that cannot tell whether the session has been used -/

/-- In a session that keeps what the rule would build, asking for a checker comes to the same as
building one. -/
lemma builtAlike_obtain (hconsistent : Consistent rule.build) {host : η} {install : Install}
    (hmem : install ∈ options.installs) {run : Run η σ (Checker σ α τ)}
    (hfor : run.KeepsFor host (rule.WouldBuild options)) (world : σ) :
    BuiltAlike
      (ends (Run.obtain host install.version (rule.build options.configPath install)) run)
      (ends (rule.build options.configPath install) world) := by
  rw [Run.ends_obtain]
  cases hkept : run.session.instance? host install.version with
  | some kept => exact hfor install.version kept hkept install hmem rfl world
  | none => exact hconsistent options.configPath install run.world world

/-- Verifying under a version ends alike if asking for the checker has come to the same. -/
lemma ends_failuresUnder_of_builtAlike {host : Host η σ α τ} {install : Install}
    {run run' : Run η σ (Checker σ α τ)}
    (hbuilt : BuiltAlike
      (ends (Run.obtain host.key install.version (rule.build options.configPath install)) run)
      (ends (Run.obtain host.key install.version (rule.build options.configPath install)) run'))
    (file : String) (above : Option CodeText) :
    ends (rule.failuresUnder options file host install above) run =
      ends (rule.failuresUnder options file host install above) run' := by
  rw [failuresUnder, ends_bind, ends_bind]
  generalize ends (Run.obtain host.key install.version (rule.build options.configPath install))
    run = built at hbuilt ⊢
  generalize ends (Run.obtain host.key install.version (rule.build options.configPath install))
    run' = built' at hbuilt ⊢
  cases hbuilt with
  | fault fault => rfl
  | nothing =>
    simp only [Run.ends_onWorld, Option.getD_none]
    exact Checker.unusable_alike.verify file _ _ _
  | checker halike =>
    simp only [Run.ends_onWorld, Option.getD_some]
    exact halike.verify file _ _ _

lemma uniform_failuresUnder (hconsistent : Consistent rule.build)
    (hoptions : rule.options = some options) (file : String) (host : Host η σ α τ)
    {install : Install} (hmem : install ∈ options.installs) (above : Option CodeText) :
    Uniform (Run.KeepsFor host.key (rule.WouldBuild options))
      (rule.failuresUnder options file host install above) where
  keeps := keepsFor_failuresUnder (fun _ => (agrees_self hconsistent).buildsOnly hoptions) hoptions
    file hmem above
  same := by
    intro run run' hrun hrun'
    have hbuilt := builtAlike_obtain hconsistent hmem hrun run.world
    have hbuilt' := builtAlike_obtain hconsistent hmem hrun' run.world
    exact ends_failuresUnder_of_builtAlike (hbuilt.trans hbuilt'.symm) file above

/-- Among runs whose session keeps for a host what the rule would build itself, verifying a file of
that host ends in one way, and such a run is left behind. -/
theorem uniform_verify (hconsistent : Consistent rule.build)
    (hoptions : rule.options = some options) (file : String) (host : Host η σ α τ) :
    Uniform (Run.KeepsFor host.key (rule.WouldBuild options)) (rule.verify file host) := by
  have hnote : ∀ event, Uniform (Run.KeepsFor host.key (rule.WouldBuild options))
      (Run.note event : Action (Run η σ (Checker σ α τ)) Unit) :=
    fun event => ⟨Run.keepsFor_note host.key event, fun _ _ => rfl⟩
  rw [verify_eq_search hoptions]
  exact search_of_parts
    (R := fun _ step _ => Uniform (Run.KeepsFor host.key (rule.WouldBuild options)) step)
    (Uniform.compositional _) hnote (fun _ => .throw)
    fun install hmem above => uniform_failuresUnder hconsistent hoptions file host hmem above

end Rule

/-! ## Steps and their outcomes -/

namespace Step

variable {rule : Rule σ α τ} {options : Options}

/-- Among runs whose session keeps nothing but what the rule would build itself, each of its steps
ends in one way, and such a run is left behind. -/
lemma uniform_perform (hconsistent : Consistent rule.build)
    (hoptions : rule.options = some options) {step : Step η σ α τ} (hstep : step.By (· = rule)) :
    Uniform (Run.KeepsOnly (rule.WouldBuild options)) step.perform where
  keeps := by
    have hrule : ∀ other, other = rule → other.BuildsOnly (rule.WouldBuild options) := by
      rintro other rfl
      exact (Rule.agrees_self hconsistent).buildsOnly hoptions
    exact fun run honly host => keepsFor_perform (hstep.byFor hrule host) run (honly host)
  same := by
    intro run run' hrun hrun'
    cases step with
    | verify other file host =>
      obtain rfl : other = rule := hstep
      exact (Rule.uniform_verify hconsistent hoptions file host).same (hrun host.key)
        (hrun' host.key)
    | forget host => rfl
    | close => rfl

end Step

/-- How some steps end, each taken in the run that the steps before it have left. -/
def Run.outcomes (run : Run η σ (Checker σ α τ)) :
    List (Step η σ α τ) → List (Except Fault (List Failure))
  | [] => []
  | step :: steps => ends step.perform run :: (leaves step.perform run).outcomes steps

/-- **Whether its session has been used does not show in what a rule reports.**  Let a rule with
options have its session to itself, and let its provider be consistent.  However files of any hosts
are verified, hosts are forgotten and the session is closed, each of these steps ends as it would if
it were the first one, with a new session: in the same failures, or in the same fault, and also if
steps before it have ended in faults. -/
theorem outcomes_eq_outcomes_new {rule : Rule σ α τ} {options : Options}
    (hoptions : rule.options = some options) (hconsistent : Consistent rule.build)
    {steps : List (Step η σ α τ)} (hsteps : ∀ step ∈ steps, step.By (· = rule)) (start fresh : σ) :
    ({ world := start } : Run η σ (Checker σ α τ)).outcomes steps =
      steps.map fun step => ends step.perform { world := fresh } := by
  have hfresh := Run.keepsOnly_new (η := η) (rule.WouldBuild options) fresh
  have hall : ∀ run : Run η σ (Checker σ α τ), run.KeepsOnly (rule.WouldBuild options) →
      run.outcomes steps = steps.map fun step => ends step.perform { world := fresh } := by
    induction steps with
    | nil => exact fun _ _ => rfl
    | cons step steps ih =>
      intro run hrun
      have huniform := Step.uniform_perform hconsistent hoptions (hsteps step List.mem_cons_self)
      have hrest := ih (fun other hother => hsteps other (List.mem_cons_of_mem _ hother))
      rw [Run.outcomes, List.map_cons, huniform.same hrun hfresh,
        hrest _ (huniform.keeps run hrun)]
  exact hall _ (Run.keepsOnly_new _ start)

/-- What the versions say about a file that calls a function of version 3.0, and about one that no
version accepts. -/
def typoAnswers (version : CodeText) : Answers Unit String :=
  { widgetAnswers version with
    diagnostics := fun file =>
      if file = "typo.ts" then [⟨.plain "Cannot find name 'maek'.", some file, some 0, 4⟩]
      else (widgetAnswers version).diagnostics file }

/-- A rule that cannot have version 2.0 built.  The world counts the builds that are begun. -/
def brokenRule : Rule Nat Unit String where
  options := some widgetOptions
  build _ install := do
    modify (· + 1)
    if install.version = "2.0" then throw (.raised "version 2.0 is broken")
    else return some (typoAnswers install.version).checker

lemma consistent_brokenRule : Consistent brokenRule.build := by
  intro configPath install world world'
  have hends : ∀ world, ends (brokenRule.build configPath install) world =
      if install.version = "2.0" then .error (.raised "version 2.0 is broken")
      else .ok (some (typoAnswers install.version).checker) := by
    intro world
    unfold brokenRule
    by_cases hversion : install.version = "2.0"
    · simp only [hversion, if_true]
      rfl
    · simp only [hversion, if_false]
      rfl
  have hgives := (typoAnswers install.version).checker_gives (σ := Nat)
  rw [hends world, hends world']
  split
  · exact .fault _
  · exact .checker (hgives.alike hgives)

/-- A program under test, for that rule. -/
def brokenHost : Host String Nat Unit String := ⟨"host", (typoAnswers "").checker⟩

/-- The session is used before and after a search that cannot be finished, and dropped twice. -/
def brokenSteps : List (Step String Nat Unit String) :=
  [.verify brokenRule "widget.ts" brokenHost, .verify brokenRule "typo.ts" brokenHost,
    .verify brokenRule "widget.ts" brokenHost, .forget "host",
    .verify brokenRule "typo.ts" brokenHost, .close, .verify brokenRule "widget.ts" brokenHost]

/-- What every version says about the file that none accepts, as the newest one reports it. -/
def typoFailure : Failure where
  start := 0
  length := 4
  message := "TypeScript@next compile error: \nCannot find name 'maek'."
  kind := .unexpectedDiagnostic
  file := "typo.ts"
  version := some nextVersion

/-- A search that is stopped by the build of version 2.0 is stopped by it whenever it is tried, and
has no influence on what is said about another file. -/
theorem outcomes_eq_outcomes_new_broken :
    brokenRule.options = some widgetOptions ∧ Consistent brokenRule.build ∧
      (∀ step ∈ brokenSteps, step.By (· = brokenRule)) ∧
      ({ world := 0 } : Run String Nat (Checker Nat Unit String)).outcomes brokenSteps =
        [.error (.raised "version 2.0 is broken"), .ok [typoFailure],
          .error (.raised "version 2.0 is broken"), .ok [], .ok [typoFailure], .ok [],
          .error (.raised "version 2.0 is broken")] := by
  have hsteps : ∀ step ∈ brokenSteps, step.By (· = brokenRule) := by
    simp [brokenSteps, Step.By]
  have houtcomes := outcomes_eq_outcomes_new rfl consistent_brokenRule hsteps 0 0
  refine ⟨rfl, consistent_brokenRule, hsteps, houtcomes.trans ?_⟩
  decide +kernel

end TypeTest
