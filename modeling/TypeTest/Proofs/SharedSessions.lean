import TypeTest.Proofs.Transparency

/-!
# Rules that share a session

Rules with options of their own may share a session and a provider.  A session keeps an instance
by host and by version name, and by nothing else, although a build also depends on the
configuration and on the path of the install.  So a rule may be handed an instance that was built
for another rule, and this shows: `interference` is a file that fails in its own project, and
passes once a rule of another project has been there.

Such a clash is the only way in which rules interfere.  Two rules agree if the versions that both
name, of which the newest is always one, are built alike for both (`Rule.Agrees`).  For that it is
enough that configuration and paths are the same (`Rule.agrees_of_eq`); rules that name different
older versions of one project agree, and profit from each other's builds.  If a rule agrees with
all that have used one of its hosts before it, then it reports what it would report if none of them
had used the session at all (`outcomesOf_eq_outcomesOf_filter`).

The argument compares two runs, one with all turns and one without those of other rules.  Both
sessions keep, for each host that is yet to be used by the rule in question, only what the rule
would build itself (`Run.ReadyFor`); the two runs need not agree in anything else.
-/

namespace TypeTest

open TypeTest.Action

variable {κ η σ α τ : Type}

/-- The rules that share a provider, each with its own options. -/
def Rule.sharing (build : CodeText → Install → Action σ (Option (Checker σ α τ)))
    (options : κ → Options) (key : κ) : Rule σ α τ where
  options := some (options key)
  build := build

/-- Rules that share a provider agree if they name one configuration, and no version with two
paths. -/
lemma Rule.agrees_of_eq {build : CodeText → Install → Action σ (Option (Checker σ α τ))}
    (hconsistent : Consistent build) {options : κ → Options} {key other : κ}
    (hconfig : (options key).configPath = (options other).configPath)
    (hinstalls : ∀ install ∈ (options key).installs, ∀ install' ∈ (options other).installs,
      install.version = install'.version → install = install') :
    (Rule.sharing build options key).Agrees (Rule.sharing build options other) := by
  intro first second hfirst hsecond install hmem install' hmem' hversion world world'
  obtain rfl := Option.some.inj hfirst
  obtain rfl := Option.some.inj hsecond
  obtain rfl := hinstalls install hmem install' hmem' hversion
  rw [← hconfig]
  exact hconsistent _ install world world'

/-- One rule verifies a file. -/
structure Turn (κ η σ α τ : Type) where
  rule : κ
  file : String
  host : Host η σ α τ

/-- A turn as a step with the session. -/
def Turn.step (rules : κ → Rule σ α τ) (turn : Turn κ η σ α τ) : Step η σ α τ :=
  .verify (rules turn.rule) turn.file turn.host

variable [DecidableEq κ] [DecidableEq η]

/-- How the turns of one rule end if the turns of all are taken, one after the other. -/
def outcomesOf (rules : κ → Rule σ α τ) (asked : κ) (run : Run η σ (Checker σ α τ)) :
    List (Turn κ η σ α τ) → List (Except Fault (List Failure))
  | [] => []
  | turn :: turns =>
    let step := (turn.step rules).perform
    let later := outcomesOf rules asked (leaves step run) turns
    if turn.rule = asked then ends step run :: later else later

/-! ## What turns leave to those that come later -/

/-- A turn does no harm to a later one of a rule: if it is another rule's, and has the same host,
then the two rules agree. -/
def Turn.Harmless (rules : κ → Rule σ α τ) (asked : κ) (turn later : Turn κ η σ α τ) : Prop :=
  turn.rule ≠ asked → later.rule = asked → turn.host.key = later.host.key →
    (rules turn.rule).Agrees (rules asked)

/-- A run is ready for some turns of a rule if it keeps for their hosts only what that rule would
build itself. -/
def Run.ReadyFor (rule : Rule σ α τ) (options : Options) (asked : κ)
    (turns : List (Turn κ η σ α τ)) (run : Run η σ (Checker σ α τ)) : Prop :=
  ∀ turn ∈ turns, turn.rule = asked → run.KeepsFor turn.host.key (rule.WouldBuild options)

section Turns

variable {rules : κ → Rule σ α τ} {asked : κ} {own : Options} {turn : Turn κ η σ α τ}
  {turns : List (Turn κ η σ α τ)} {run run' : Run η σ (Checker σ α τ)}

/-- A harmless turn leaves a run that is ready for the turns that come later. -/
lemma Run.ReadyFor.perform (hconsistent : Consistent (rules asked).build)
    (hown : (rules asked).options = some own)
    (hharmless : ∀ later ∈ turns, turn.Harmless rules asked later)
    (hready : run.ReadyFor (rules asked) own asked (turn :: turns)) :
    (leaves (turn.step rules).perform run).ReadyFor (rules asked) own asked turns := by
  intro later hmem hlater
  have hbuilds : later.host.key = turn.host.key →
      (rules turn.rule).BuildsOnly ((rules asked).WouldBuild own) := by
    intro hhost
    by_cases hturn : turn.rule = asked
    · rw [hturn]
      exact (Rule.agrees_self hconsistent).buildsOnly hown
    · exact (hharmless later hmem hturn hlater hhost.symm).buildsOnly hown
  have hbefore := hready later (List.mem_cons_of_mem _ hmem) hlater
  exact Rule.keepsFor_verify hbuilds turn.file run hbefore

/-- The turns of one rule end alike in two runs that are ready for them, also if only one of the
runs takes the turns of other rules in between. -/
lemma outcomesOf_eq_of_readyFor (hconsistent : Consistent (rules asked).build)
    (hown : (rules asked).options = some own)
    (hharmless : turns.Pairwise (Turn.Harmless rules asked))
    (hready : run.ReadyFor (rules asked) own asked turns)
    (hready' : run'.ReadyFor (rules asked) own asked turns) :
    outcomesOf rules asked run turns =
      outcomesOf rules asked run' (turns.filter (·.rule = asked)) := by
  induction turns generalizing run run' with
  | nil => rfl
  | cons turn turns ih =>
    obtain ⟨hhead, htail⟩ := List.pairwise_cons.1 hharmless
    have hnext := hready.perform hconsistent hown hhead
    by_cases hturn : turn.rule = asked
    · -- both runs take this turn
      have hnext' := hready'.perform hconsistent hown hhead
      have hsame : ends (turn.step rules).perform run = ends (turn.step rules).perform run' := by
        have huniform := Rule.uniform_verify hconsistent hown turn.file turn.host
        rw [← hturn] at huniform
        exact huniform.same (hturn ▸ hready turn List.mem_cons_self hturn)
          (hturn ▸ hready' turn List.mem_cons_self hturn)
      rw [List.filter_cons_of_pos (by simpa using hturn), outcomesOf, outcomesOf]
      simp only [if_pos hturn]
      rw [hsame, ih htail hnext hnext']
    · -- the second run goes on without it
      have hskip : run'.ReadyFor (rules asked) own asked turns :=
        fun later hmem => hready' later (List.mem_cons_of_mem _ hmem)
      rw [List.filter_cons_of_neg (by simpa using hturn), outcomesOf]
      simp only [if_neg hturn]
      exact ih htail hnext hskip

end Turns

/-- **Rules that agree do not interfere.**  Let any number of rules with options of their own share
a session and a consistent provider.  If whoever uses a host before one of the rules agrees with
it, then whatever turns are taken, those of that rule end as they do if all turns of other rules
are left out: in the same failures, or in the same fault. -/
theorem outcomesOf_eq_outcomesOf_filter
    {build : CodeText → Install → Action σ (Option (Checker σ α τ))}
    (hconsistent : Consistent build) {options : κ → Options} {asked : κ}
    {turns : List (Turn κ η σ α τ)}
    (hharmless : turns.Pairwise (Turn.Harmless (Rule.sharing build options) asked)) (start : σ) :
    outcomesOf (Rule.sharing build options) asked { world := start } turns =
      outcomesOf (Rule.sharing build options) asked { world := start }
        (turns.filter (·.rule = asked)) := by
  have hnew : ∀ turn ∈ turns, turn.rule = asked →
      ({ world := start } : Run η σ (Checker σ α τ)).KeepsFor turn.host.key
        ((Rule.sharing build options asked).WouldBuild (options asked)) :=
    fun turn _ _ => Run.keepsOnly_new _ start turn.host.key
  exact outcomesOf_eq_of_readyFor hconsistent rfl hharmless hnew hnew

/-- The widget project with the recent versions only. -/
def recentOptions : Options where
  configPath := "project/tsconfig.json"
  nextPath := "/checkers/next"
  older := [⟨"2.0", "/checkers/2.0"⟩, ⟨"3.0", "/checkers/3.0"⟩]
  label := "Recent"
  nonempty := by decide
  distinct := by decide
  unreserved := by decide

/-- The provider of the widget project's checkers. -/
def widgetProvider (_ : CodeText) (install : Install) :
    Action Unit (Option (Checker Unit Unit String)) :=
  pure (some (widgetAnswers install.version).checker)

/-- Two rules for the project: one for all versions, and one for the recent ones. -/
def widgetRules (recent : Bool) : Options := if recent then recentOptions else widgetOptions

/-- The rules take turns. -/
def widgetTurns : List (Turn Bool String Unit Unit String) :=
  [⟨false, "widget.ts", widgetHost⟩, ⟨true, "widget.ts", widgetHost⟩,
    ⟨false, "other.ts", widgetHost⟩]

/-- What the rule for the recent versions reports. -/
def recentFailure : Failure :=
  { widgetFailure with
    message := "Compile error in Recent@2.0 but not in Recent@3.0.\n" ++
      "Fix with a comment '// Recent Version: 3.0' just under the header.\n" ++
      "Cannot find name 'make'." }

/-- The two rules agree on the versions that they both name, so the second one reports what it
would report alone. -/
theorem outcomesOf_eq_outcomesOf_filter_widget :
    Consistent widgetProvider ∧
      widgetTurns.Pairwise (Turn.Harmless (Rule.sharing widgetProvider widgetRules) true) ∧
      outcomesOf (Rule.sharing widgetProvider widgetRules) true { world := () } widgetTurns =
        [.ok [recentFailure]] := by
  have hconsistent : Consistent widgetProvider := by
    intro _ install _ _
    have hgives := (widgetAnswers install.version).checker_gives (σ := Unit)
    exact .checker (hgives.alike hgives)
  have hagrees : (Rule.sharing widgetProvider widgetRules false).Agrees
      (Rule.sharing widgetProvider widgetRules true) :=
    Rule.agrees_of_eq hconsistent rfl (by decide)
  have hharmless :
      widgetTurns.Pairwise (Turn.Harmless (Rule.sharing widgetProvider widgetRules) true) := by
    refine List.pairwise_of_forall fun turn later hturn _ _ => ?_
    rw [Bool.eq_false_iff.2 hturn]
    exact hagrees
  have houtcomes := outcomesOf_eq_outcomesOf_filter hconsistent hharmless ()
  refine ⟨hconsistent, hharmless, houtcomes.trans ?_⟩
  decide +kernel

/-! ## A clash -/

/-- The options for a project, given by its configuration. -/
def projectOptions (configPath : CodeText) : Options where
  configPath
  nextPath := "/checkers/next"
  older := [⟨"1.0", "/checkers/1.0"⟩]
  label := defaultLabel
  nonempty := by decide
  distinct := by decide
  unreserved := by decide

/-- What is known in the projects: the application knows less than the library. -/
def projectAnswers (configPath : CodeText) : Answers Unit String :=
  widgetAnswers (if configPath = "app/tsconfig.json" then "1.0" else "3.0")

/-- The provider for both projects. -/
def projectProvider (configPath : CodeText) (_ : Install) :
    Action Unit (Option (Checker Unit Unit String)) :=
  pure (some (projectAnswers configPath).checker)

/-- First the library is verified, and then the application, as parts of one program. -/
def projectTurns : List (Turn CodeText String Unit Unit String) :=
  [⟨"lib/tsconfig.json", "widget.ts", widgetHost⟩, ⟨"app/tsconfig.json", "widget.ts", widgetHost⟩]

/-- What the application's rule reports on its own. -/
def projectFailure : Failure where
  start := 0
  length := 4
  message := "TypeScript@next compile error: \nCannot find name 'make'."
  kind := .unexpectedDiagnostic
  file := "widget.ts"
  version := some nextVersion

/-- A file that fails in its own project passes once a rule of another project has verified
something for the same host: the session hands out the checkers of that other project. -/
theorem interference :
    Consistent projectProvider ∧
      outcomesOf (Rule.sharing projectProvider projectOptions) "app/tsconfig.json"
        { world := () } projectTurns = [.ok []] ∧
      outcomesOf (Rule.sharing projectProvider projectOptions) "app/tsconfig.json"
        { world := () } (projectTurns.filter (·.rule = "app/tsconfig.json")) =
          [.ok [projectFailure]] := by
  have hconsistent : Consistent projectProvider := by
    intro configPath _ _ _
    have hgives := (projectAnswers configPath).checker_gives (σ := Unit)
    exact .checker (hgives.alike hgives)
  exact ⟨hconsistent, by decide +kernel, by decide +kernel⟩

end TypeTest
