import TypeTest.Proofs.Boundary

/-!
# The search compared with trying every version

The search looks at the newest version and at the oldest, and passes over all that lies in between
when both pass.  The plain way to the same end tries them all, from the newest to the oldest, and
stops at the first one that fails.  This file compares the two, for checkers whose answers depend on
the version and on the question alone.

What makes the shortcut right is a property of the versions, not of the search: where any older
version fails, the oldest one fails too.  Under this hypothesis the search returns whatever the
plain way returns, down to the stamp on each failure (`verify_eq_exhaustiveSearch`).  The plain
way does return, unless some tree keeps an expression from it (`Options.exists_exhaustiveSearch`).

The session is no obstacle, since every checker that it keeps for a version gives that version's
answers (`Rule.BuildsAnswers`, `Run.after_keepsOnly`).  Nor is the oldest version, which the
search tries twice and under two stamps: whether a file passes does not depend on the stamp
(`Answers.verify_eq_nil_iff`).
-/

namespace TypeTest

open TypeTest.Action

variable {η σ α τ : Type} [DecidableEq η]

/-! ## The first attempt with a result -/

section Attempts

variable {κ β ε : Type} {attempt : κ → Except ε (List β)}

/-- Makes one attempt after the other until one has results, or ends in an error. -/
def firstNonempty (attempt : κ → Except ε (List β)) : List κ → Except ε (List β)
  | [] => .ok []
  | key :: keys => do
    let results ← attempt key
    if results.isEmpty then firstNonempty attempt keys else return results

lemma firstNonempty_cons_of_nil {key : κ} (hnil : attempt key = .ok []) (keys : List κ) :
    firstNonempty attempt (key :: keys) = firstNonempty attempt keys := by
  rw [firstNonempty, hnil]
  rfl

lemma firstNonempty_cons_of_ne_nil {key : κ} {results : List β}
    (hresults : attempt key = .ok results) (hne : results ≠ []) (keys : List κ) :
    firstNonempty attempt (key :: keys) = .ok results := by
  rw [firstNonempty, hresults]
  show (if results.isEmpty then _ else _) = _
  rw [List.isEmpty_eq_false_iff.2 hne, if_neg Bool.false_ne_true]
  rfl

lemma firstNonempty_cons_of_error {key : κ} {error : ε} (herror : attempt key = .error error)
    (keys : List κ) : firstNonempty attempt (key :: keys) = .error error := by
  rw [firstNonempty, herror]
  rfl

/-- There are no results exactly if no attempt has any. -/
lemma firstNonempty_eq_nil_iff {keys : List κ} :
    firstNonempty attempt keys = .ok [] ↔ ∀ key ∈ keys, attempt key = .ok [] := by
  induction keys with
  | nil => exact iff_of_true rfl fun _ hmem => absurd hmem List.not_mem_nil
  | cons key keys ih =>
    rw [List.forall_mem_cons]
    cases hresults : attempt key with
    | error error =>
      rw [firstNonempty_cons_of_error hresults]
      exact iff_of_false nofun fun hall => nomatch hall.1
    | ok results =>
      by_cases hnil : results = []
      · subst hnil
        rw [firstNonempty_cons_of_nil hresults, ih]
        exact (and_iff_right rfl).symm
      · rw [firstNonempty_cons_of_ne_nil hresults hnil]
        exact iff_of_false (fun hall => hnil (Except.ok.inj hall))
          fun hall => hnil (Except.ok.inj hall.1)

/-- The attempt with results comes after attempts without any. -/
lemma exists_append_of_firstNonempty {keys : List κ} {results : List β}
    (hfirst : firstNonempty attempt keys = .ok results) (hne : results ≠ []) :
    ∃ before key after, keys = before ++ key :: after ∧ attempt key = .ok results ∧
      ∀ other ∈ before, attempt other = .ok [] := by
  induction keys with
  | nil => exact absurd (Except.ok.inj hfirst).symm hne
  | cons key keys ih =>
    cases hresults : attempt key with
    | error error =>
      rw [firstNonempty_cons_of_error hresults] at hfirst
      cases hfirst
    | ok found =>
      by_cases hnil : found = []
      · subst hnil
        rw [firstNonempty_cons_of_nil hresults] at hfirst
        obtain ⟨before, key', after, rfl, hkey', hbefore⟩ := ih hfirst
        exact ⟨key :: before, key', after, rfl, hkey', List.forall_mem_cons.2 ⟨hresults, hbefore⟩⟩
      · rw [firstNonempty_cons_of_ne_nil hresults hnil] at hfirst
        refine ⟨[], key, keys, rfl, hresults.trans hfirst, ?_⟩
        exact fun _ hmem => absurd hmem List.not_mem_nil

/-- If no attempt ends in an error, some list is returned. -/
lemma exists_firstNonempty {keys : List κ}
    (hreturns : ∀ key ∈ keys, ∃ results, attempt key = .ok results) :
    ∃ results, firstNonempty attempt keys = .ok results := by
  induction keys with
  | nil => exact ⟨[], rfl⟩
  | cons key keys ih =>
    obtain ⟨⟨results, hresults⟩, hkeys⟩ := List.forall_mem_cons.1 hreturns
    by_cases hnil : results = []
    · subst hnil
      rw [firstNonempty_cons_of_nil hresults]
      exact ih hkeys
    · exact ⟨results, firstNonempty_cons_of_ne_nil hresults hnil keys⟩

end Attempts

/-! ## Trying every version -/

/-- What verifying a file under a stamp comes to, where each version has answers of its own. -/
def Stamp.attempt (answers : CodeText → Answers α τ) (file : String) (stamp : Stamp) :
    Except Fault (List Failure) :=
  (answers stamp.version).verify file stamp

namespace Options

/-- The stamps of all versions from the newest to the oldest, each older one with the name of the
version above its index. -/
def exhaustiveOrder (options : Options) : List Stamp :=
  options.newestStamp :: options.older.zipIdx.reverse.map fun (install, index) =>
    { version := install.version, above := options.versionAbove? index, label := options.label }

/-- What trying one version after the other ends in, from the newest to the oldest: the failures
under the first one that has any, or the fault that is met before. -/
def exhaustiveSearch (options : Options) (answers : CodeText → Answers α τ) (file : String) :
    Except Fault (List Failure) :=
  firstNonempty (Stamp.attempt answers file) options.exhaustiveOrder

/-- The stamp of an entry of the search order. -/
def stampOf (options : Options) (entry : Install × CodeText) : Stamp where
  version := entry.1.version
  above := some entry.2
  label := options.label

/-- The search meets the older installs in the order, and under the stamps, in which they are all
tried. -/
lemma exhaustiveOrder_eq (options : Options) :
    options.exhaustiveOrder = options.newestStamp :: options.newestFirst.map options.stampOf := by
  unfold exhaustiveOrder
  congr 1
  apply List.ext_getElem?
  intro place
  by_cases hplace : place < options.older.length
  · have hindex : options.older.length - 1 - place < options.older.length := by omega
    have hback : options.older.length - 1 - (options.older.length - 1 - place) = place := by omega
    have hentry := options.getElem?_newestFirst hindex
    rw [hback] at hentry
    have habove := options.versionAbove?_natCast hindex
    simp [hplace, hentry, stampOf, habove]
  · have hlength := options.length_newestFirst
    rw [List.getElem?_eq_none (by simp; omega), List.getElem?_eq_none (by simp; omega)]

lemma exists_install_of_mem_exhaustiveOrder {options : Options} {stamp : Stamp}
    (hmem : stamp ∈ options.exhaustiveOrder) :
    ∃ install ∈ options.installs, install.version = stamp.version := by
  rw [exhaustiveOrder_eq, List.mem_cons, List.mem_map] at hmem
  rcases hmem with rfl | ⟨entry, hentry, rfl⟩
  · exact ⟨options.nextInstall, options.nextInstall_mem_installs, rfl⟩
  · exact ⟨entry.1, mem_installs_of_mem_older (mem_older_of_mem_newestFirst hentry), rfl⟩

lemma exists_mem_exhaustiveOrder {options : Options} {install : Install}
    (hmem : install ∈ options.installs) :
    ∃ stamp ∈ options.exhaustiveOrder, stamp.version = install.version := by
  rw [exhaustiveOrder_eq]
  rcases List.mem_cons.1 hmem with rfl | hmem
  · exact ⟨options.newestStamp, List.mem_cons_self, rfl⟩
  · rw [← List.mem_reverse, ← map_fst_newestFirst] at hmem
    obtain ⟨entry, hentry, rfl⟩ := List.mem_map.1 hmem
    exact ⟨options.stampOf entry, List.mem_cons_of_mem _ (List.mem_map_of_mem hentry), rfl⟩

end Options

/-! ## A search among checkers that are known by their answers -/

namespace Rule

/-- A rule has a checker built for every install that its options name, and the checker gives the
answers of the install's version. -/
def BuildsAnswers (rule : Rule σ α τ) (options : Options) (answers : CodeText → Answers α τ) :
    Prop :=
  ∀ install ∈ options.installs, ∀ world, ∃ checker,
    ends (rule.build options.configPath install) world = .ok (some checker) ∧
      checker.Gives (answers install.version)

variable {rule : Rule σ α τ} {options : Options} {answers : CodeText → Answers α τ} {file : String}

lemma BuildsAnswers.provides (hbuilds : rule.BuildsAnswers options answers) :
    rule.Provides Course.any options where
  forward _ _ _ := trivial
  returns install hmem world := by
    obtain ⟨checker, hends, -⟩ := hbuilds install hmem world
    exact ⟨checker, hends⟩

lemma BuildsAnswers.buildsOnly (hbuilds : rule.BuildsAnswers options answers)
    (hoptions : rule.options = some options) :
    rule.BuildsOnly fun version checker => checker.Gives (answers version) := by
  intro other hother install hmem world built hbuilt
  obtain rfl := Option.some.inj (hoptions.symm.trans hother)
  obtain ⟨checker, hends, hgives⟩ := hbuilds install hmem world
  rw [hends] at hbuilt
  obtain rfl := Option.some.inj (Except.ok.inj hbuilt)
  exact hgives

/-- Verifying under one version ends as it does under its answers, and nothing is kept that gives
others. -/
lemma BuildsAnswers.failuresUnder (hbuilds : rule.BuildsAnswers options answers)
    (hoptions : rule.options = some options) {run : Run η σ (Checker σ α τ)}
    (honly : run.KeepsOnly fun version checker => checker.Gives (answers version))
    (host : Host η σ α τ) {install : Install} (hmem : install ∈ options.installs) (file : String)
    (above : Option CodeText) :
    let stamp : Stamp := { version := install.version, above, label := options.label }
    let step := rule.failuresUnder options file host install above
    ends step run = (answers install.version).verify file stamp ∧
      (leaves step run).KeepsOnly fun version checker => checker.Gives (answers version) := by
  intro stamp step
  have hrule := hbuilds.buildsOnly hoptions
  obtain ⟨checker, hends, hkept, -⟩ := obtain_spec hbuilds.provides host.key hmem run
  have hgives : checker.Gives (answers install.version) :=
    Run.keepsOnly_obtain host.key (hrule options hoptions install hmem) run honly _ _ _ hkept
  refine ⟨?_, keepsOnly_failuresUnder hrule hoptions file host hmem above run honly⟩
  show ends (rule.failuresUnder options file host install above) run = _
  rw [ends_failuresUnder hends, hgives.verify]

/-- Going through some older versions ends as trying them does, unless they all pass. -/
lemma BuildsAnswers.firstFailing (hbuilds : rule.BuildsAnswers options answers)
    (hoptions : rule.options = some options) (host : Host η σ α τ) (file : String) :
    ∀ (entries : List (Install × CodeText)) (run : Run η σ (Checker σ α τ)),
      (∀ entry ∈ entries, entry.1 ∈ options.older) →
      run.KeepsOnly (fun version checker => checker.Gives (answers version)) →
      let tried := firstNonempty (Stamp.attempt answers file) (entries.map options.stampOf)
      tried ≠ .ok [] → ends (rule.firstFailing options file host entries) run = tried := by
  intro entries
  induction entries with
  | nil =>
    intro run _ _ tried hne
    exact absurd rfl hne
  | cons entry entries ih =>
    obtain ⟨install, above⟩ := entry
    intro run hmem honly tried hne
    have hinstall : install ∈ options.installs :=
      Options.mem_installs_of_mem_older (hmem _ List.mem_cons_self)
    obtain ⟨hends, honly'⟩ := hbuilds.failuresUnder hoptions
      (Run.keepsOnly_note (.testing install.version) run honly) host hinstall file (some above)
    rw [Rule.firstFailing, ends_bind_of_ok (Run.ends_note _ _)]
    cases hverify : (options.stampOf (install, above)).attempt answers file with
    | error fault =>
      rw [ends_bind_of_error (hends.trans hverify)]
      exact (firstNonempty_cons_of_error hverify _).symm
    | ok failures =>
      rw [ends_bind_of_ok (hends.trans hverify)]
      by_cases hnil : failures = []
      · subst hnil
        have hrest : tried = firstNonempty (Stamp.attempt answers file)
            (entries.map options.stampOf) := firstNonempty_cons_of_nil hverify _
        rw [hrest] at hne ⊢
        exact ih _ (fun other hother => hmem other (List.mem_cons_of_mem _ hother)) honly' hne
      · rw [List.isEmpty_eq_false_iff.2 hnil, if_neg Bool.false_ne_true, ends_pure]
        exact (firstNonempty_cons_of_ne_nil hverify hnil _).symm

end Rule

/-! ## The comparison -/

namespace Options

variable {options : Options} {answers : CodeText → Answers α τ} {file : String}

/-- Trying every version finds nothing exactly if all versions pass. -/
theorem exhaustiveSearch_eq_nil_iff :
    options.exhaustiveSearch answers file = .ok [] ↔
      ∀ install ∈ options.installs, (answers install.version).Passes file := by
  rw [exhaustiveSearch, firstNonempty_eq_nil_iff]
  constructor
  · intro hnil install hmem
    obtain ⟨stamp, hstamp, hversion⟩ := exists_mem_exhaustiveOrder hmem
    rw [← hversion]
    exact Answers.verify_eq_nil_iff.1 (hnil stamp hstamp)
  · intro hpasses stamp hstamp
    obtain ⟨install, hmem, hversion⟩ := exists_install_of_mem_exhaustiveOrder hstamp
    have hinstall := hpasses install hmem
    rw [hversion] at hinstall
    exact hinstall stamp

/-- Trying every version returns a list if the expression statements in the trees of the file state
their expressions. -/
theorem exists_exhaustiveSearch
    (hcomplete : ∀ install ∈ options.installs,
      ((answers install.version).syntaxTree file).Complete) :
    ∃ failures, options.exhaustiveSearch answers file = .ok failures := by
  apply exists_firstNonempty
  intro stamp hstamp
  obtain ⟨install, hmem, hversion⟩ := exists_install_of_mem_exhaustiveOrder hstamp
  have hinstall := hcomplete install hmem
  rw [hversion] at hinstall
  exact Answers.exists_verify_of_complete hinstall stamp

/-- What trying every version finds are the failures under the newest version that does not
pass. -/
theorem exists_newest_failing {failures : List Failure}
    (hsearch : options.exhaustiveSearch answers file = .ok failures) (hne : failures ≠ []) :
    ∃ newer stamp older, options.exhaustiveOrder = newer ++ stamp :: older ∧
      (answers stamp.version).verify file stamp = .ok failures ∧
      ∀ other ∈ newer, (answers other.version).Passes file := by
  obtain ⟨newer, stamp, older, horder, hstamp, hnewer⟩ :=
    exists_append_of_firstNonempty hsearch hne
  exact ⟨newer, stamp, older, horder, hstamp, fun other hmem =>
    Answers.verify_eq_nil_iff.1 (hnewer other hmem)⟩

end Options

namespace Rule

variable {rule : Rule σ α τ} {options : Options} {answers : CodeText → Answers α τ} {file : String}

/-- Once the newest version has passed, the search returns what trying the older ones returns. -/
lemma BuildsAnswers.searchOlder (hbuilds : rule.BuildsAnswers options answers)
    (hoptions : rule.options = some options)
    (hmono : ∀ install ∈ options.older, (answers install.version).Fails file →
      (answers options.oldest.version).Fails file)
    {run : Run η σ (Checker σ α τ)}
    (honly : run.KeepsOnly fun version checker => checker.Gives (answers version))
    (host : Host η σ α τ) {failures : List Failure}
    (htried : firstNonempty (Stamp.attempt answers file)
      (options.newestFirst.map options.stampOf) = .ok failures) :
    ends (rule.searchOlder options file host) run = .ok failures := by
  have holdest : options.oldest ∈ options.installs :=
    Options.mem_installs_of_mem_older options.oldest_mem_older
  obtain ⟨hends, honly'⟩ := hbuilds.failuresUnder hoptions honly host holdest file none
  by_cases hnil : failures = []
  · -- all older versions pass, and so does the oldest
    subst hnil
    rw [firstNonempty_eq_nil_iff, List.forall_mem_map] at htried
    obtain ⟨entry, hentry, hinstall⟩ := options.exists_mem_newestFirst_oldest
    have hpasses := Answers.verify_eq_nil_iff.1 (htried entry hentry)
    rw [Options.stampOf, hinstall] at hpasses
    rw [Rule.searchOlder, ends_bind_of_ok (hends.trans (hpasses _)), List.isEmpty_nil, if_pos rfl,
      ends_bind_of_ok (Run.ends_note _ _), ends_pure]
  · -- some older version fails, and so does the oldest
    have hfails : (answers options.oldest.version).Fails file := by
      obtain ⟨before, stamp, after, hsplit, hstamp, -⟩ :=
        exists_append_of_firstNonempty htried hnil
      have hmem : stamp ∈ options.newestFirst.map options.stampOf := by simp [hsplit]
      obtain ⟨entry, hentry, rfl⟩ := List.mem_map.1 hmem
      exact hmono entry.1 (Options.mem_older_of_mem_newestFirst hentry) ⟨_, failures, hstamp, hnil⟩
    obtain ⟨oldest, holdest, hne⟩ := hfails.verify
      { version := options.oldest.version, label := options.label }
    rw [Rule.searchOlder, ends_bind_of_ok (hends.trans holdest), List.isEmpty_eq_false_iff.2 hne,
      if_neg Bool.false_ne_true]
    have hscan := hbuilds.firstFailing hoptions host file options.newestFirst _
      (fun entry hentry => Options.mem_older_of_mem_newestFirst hentry) honly'
    rw [htried] at hscan
    exact hscan fun hok => hnil (Except.ok.inj hok)

/-- The search returns what trying every version returns. -/
theorem BuildsAnswers.search (hbuilds : rule.BuildsAnswers options answers)
    (hoptions : rule.options = some options)
    (hmono : ∀ install ∈ options.older, (answers install.version).Fails file →
      (answers options.oldest.version).Fails file)
    {run : Run η σ (Checker σ α τ)}
    (honly : run.KeepsOnly fun version checker => checker.Gives (answers version))
    (host : Host η σ α τ) {failures : List Failure}
    (htried : options.exhaustiveSearch answers file = .ok failures) :
    ends (rule.search options file host) run = .ok failures := by
  obtain ⟨hends, honly'⟩ := hbuilds.failuresUnder hoptions honly host
    options.nextInstall_mem_installs file none
  rw [Options.exhaustiveSearch, Options.exhaustiveOrder_eq] at htried
  rw [search_eq]
  cases hverify : options.newestStamp.attempt answers file with
  | error fault =>
    rw [firstNonempty_cons_of_error hverify] at htried
    cases htried
  | ok newest =>
    rw [ends_bind_of_ok (hends.trans hverify)]
    by_cases hnil : newest = []
    · subst hnil
      rw [firstNonempty_cons_of_nil hverify] at htried
      exact hbuilds.searchOlder hoptions hmono honly' host htried
    · rw [firstNonempty_cons_of_ne_nil hverify hnil] at htried
      rw [List.isEmpty_eq_false_iff.2 hnil]
      exact htried

end Rule

/-- **The search returns what trying every version returns.**  Let a rule have a checker built for
each of its versions, with answers that depend on the version and on the question alone, and let the
oldest version fail wherever an older one does.  From any state of a session that only this rule has
used, the search returns the list that trying all versions from the newest to the oldest returns.
The list is empty exactly if all versions pass, and otherwise it holds the failures under the newest
one that does not. -/
theorem verify_eq_exhaustiveSearch {rule : Rule σ α τ} {options : Options}
    (hoptions : rule.options = some options) {answers : CodeText → Answers α τ}
    (hbuilds : rule.BuildsAnswers options answers) {file : String}
    (hmono : ∀ install ∈ options.older, (answers install.version).Fails file →
      (answers options.oldest.version).Fails file)
    {steps : List (Step η σ α τ)} (hsteps : ∀ step ∈ steps, step.By (· = rule)) (start : σ)
    (host : Host η σ α τ) {failures : List Failure}
    (htried : options.exhaustiveSearch answers file = .ok failures) :
    let run : Run η σ (Checker σ α τ) := Run.after { world := start } steps
    (∃ run', rule.verify file host run = .ok failures run') ∧
      (failures = [] ↔ ∀ install ∈ options.installs, (answers install.version).Passes file) ∧
      (failures ≠ [] → ∃ newer stamp older, options.exhaustiveOrder = newer ++ stamp :: older ∧
        (answers stamp.version).verify file stamp = .ok failures ∧
        ∀ other ∈ newer, (answers other.version).Passes file) := by
  intro run
  have hrules : ∀ other, other = rule →
      other.BuildsOnly fun version checker => checker.Gives (answers version) := by
    rintro other rfl
    exact hbuilds.buildsOnly hoptions
  have honly := Run.after_keepsOnly hrules hsteps (Run.keepsOnly_new _ start)
  have hends := hbuilds.search hoptions hmono honly host htried
  refine ⟨⟨_, eq_ok_iff.2 ⟨?_, rfl⟩⟩, ?_, Options.exists_newest_failing htried⟩
  · rw [Rule.verify_eq_search hoptions]
    exact hends
  · rw [← Options.exhaustiveSearch_eq_nil_iff, htried, Except.ok.injEq]

/-- The versions of the sample pass or agree with the oldest one, and what is reported are the
failures under version 2.0. -/
theorem verify_eq_exhaustiveSearch_widget :
    widgetRule.options = some widgetOptions ∧
      widgetRule.BuildsAnswers widgetOptions widgetAnswers ∧
      (∀ install ∈ widgetOptions.older, (widgetAnswers install.version).Fails "widget.ts" →
        (widgetAnswers widgetOptions.oldest.version).Fails "widget.ts") ∧
      (∀ step ∈ widgetSteps, step.By (· = widgetRule)) ∧
      (widgetAnswers "2.0").verify "widget.ts"
        { version := "2.0", above := some "3.0", label := widgetOptions.label } =
          .ok [widgetFailure] ∧
      widgetOptions.exhaustiveSearch widgetAnswers "widget.ts" = .ok [widgetFailure] ∧
      ∃ run', widgetRule.verify "widget.ts" widgetHost (Run.after { world := () } widgetSteps) =
        .ok [widgetFailure] run' := by
  have hbuilds : widgetRule.BuildsAnswers widgetOptions widgetAnswers :=
    fun install _ _ => ⟨_, rfl, (widgetAnswers install.version).checker_gives⟩
  have hverify : ∀ version ∈ (["1.0", "2.0"] : List CodeText),
      (widgetAnswers version).verify "widget.ts"
        { version := "2.0", above := some "3.0", label := widgetOptions.label } =
          .ok [widgetFailure] := by
    decide +kernel
  have holdest : (widgetAnswers widgetOptions.oldest.version).Fails "widget.ts" :=
    ⟨_, _, hverify "1.0" (by decide), List.cons_ne_nil _ _⟩
  have hsteps : ∀ step ∈ widgetSteps, step.By (· = widgetRule) := by
    simp [widgetSteps, Step.By]
  have htried : widgetOptions.exhaustiveSearch widgetAnswers "widget.ts" =
      .ok [widgetFailure] := by
    decide +kernel
  obtain ⟨hsearch, -⟩ := verify_eq_exhaustiveSearch rfl hbuilds (fun _ _ _ => holdest)
    hsteps () widgetHost htried
  exact ⟨rfl, hbuilds, fun _ _ _ => holdest, hsteps, hverify "2.0" (by decide), htried, hsearch⟩

end TypeTest
