import TypeTest.Number.Integer
import TypeTest.Proofs.FlatSessions

/-!
# What a failed build leaves behind

A session is asked for an instance, the instance has to be built, and the build ends in a fault.
The fault is passed on, and nothing is kept or counted.  But a host has an entry from the moment it
is first asked about, which is before the build, and the entry of a new host stays although nothing
is in it.  `leaves_failed_build` says that the host count, and with it the summary, is all that
tells the session from one that was not asked: whatever is called afterwards ends in the same way.

Two sessions end calls in the same way if they keep the same for each host, have counted the same
builds and are in the same world (`Run.KeepsSame`).  Every call preserves this, whether or not the
hosts have entries.
-/

namespace TypeTest

open TypeTest.Action

variable {η σ ι : Type} [DecidableEq η]

/-! ## Entries of hosts -/

namespace Session

/-- The entry that registering a host adds has nothing in it. -/
lemma bindings_register (session : Session η ι) (host : η) :
    (session.register host).bindings = session.bindings := by
  unfold register
  split
  · rfl
  · rename_i hnew
    rw [bindings, bindings, Assoc.entries_insert (Assoc.get?_eq_none_of_not_contains hnew),
      List.flatMap_append]
    exact List.append_nil _

lemma size_register (session : Session η ι) (host : η) :
    (session.register host).size = session.size := by
  rw [← length_bindings, bindings_register, length_bindings]

lemma contains_register (session : Session η ι) (host other : η) (version : CodeText) :
    (session.register host).contains other version = session.contains other version := by
  rw [contains, versionsOf_register, contains]

/-- A host without an entry is given one. -/
lemma hostCount_register (session : Session η ι) (host : η) :
    (session.register host).hostCount =
      session.hostCount + if session.hosts.contains host then 0 else 1 := by
  unfold register
  split
  · rfl
  · rename_i hnew
    exact Assoc.size_insert (Assoc.get?_eq_none_of_not_contains hnew) _

lemma hostCount_register_eq_iff {session : Session η ι} {host : η} :
    (session.register host).hostCount = session.hostCount ↔
      session.hosts.contains host = true := by
  rw [hostCount_register]
  split
  · rename_i hknown
    exact iff_of_true rfl hknown
  · rename_i hnew
    exact iff_of_false (Nat.succ_ne_self _) hnew

lemma register_eq_self_iff {session : Session η ι} {host : η} :
    session.register host = session ↔ session.hosts.contains host = true := by
  constructor
  · intro hsame
    apply hostCount_register_eq_iff.1
    rw [hsame]
  · intro hknown
    rw [register, if_pos hknown]

omit [DecidableEq η] in
/-- The summary tells the number of hosts. -/
lemma hostCount_eq_of_summary_eq {session other : Session η ι} (hsize : session.size = other.size)
    (hsame : session.summary = other.summary) : session.hostCount = other.hostCount := by
  have htexts : s!"<VerificationSession hosts={session.hostCount} instances={session.size}>" =
      s!"<VerificationSession hosts={other.hostCount} instances={other.size}>" := hsame
  rw [hsize] at htexts
  have hchars := congrArg String.toList htexts
  simp only [String.toList_append, List.append_assoc] at hchars
  have hdigits := List.append_cancel_right (List.append_cancel_left hchars)
  exact Number.eq_of_toString_eq (String.toList_inj.1 hdigits)

/-- Whoever knows the summary knows whether the host had an entry. -/
lemma summary_register_eq_iff {session : Session η ι} {host : η} :
    (session.register host).summary = session.summary ↔
      session.hosts.contains host = true := by
  constructor
  · intro hsame
    apply hostCount_register_eq_iff.1
    exact hostCount_eq_of_summary_eq (session.size_register host) hsame
  · intro hknown
    rw [register_eq_self_iff.2 hknown]

end Session

namespace Run

/-! ## Sessions that keep the same -/

/-- Two runs keep the same for each host, they have counted the same builds, and they are in the
same world.  Which hosts have entries does not matter, and neither does what has been noted. -/
structure KeepsSame (run other : Run η σ ι) : Prop where
  versionsOf : run.session.versionsOf = other.session.versionsOf
  builds : run.session.builds = other.session.builds
  world : run.world = other.world

variable {run other : Run η σ ι}

namespace KeepsSame

lemma instance?_eq (hsame : run.KeepsSame other) (host : η) (version : CodeText) :
    run.session.instance? host version = other.session.instance? host version := by
  rw [Session.instance?, hsame.versionsOf, Session.instance?]

/-- Registering a host in the one or the other makes no difference. -/
lemma register (hsame : run.KeepsSame other) (host : η) :
    (run.session.register host).versionsOf = (other.session.register host).versionsOf := by
  funext owner
  rw [Session.versionsOf_register, Session.versionsOf_register, hsame.versionsOf]

lemma obtain (hsame : run.KeepsSame other) (host : η) (version : CodeText)
    (build : Action σ (Option ι)) :
    ends (Run.obtain host version build) run = ends (Run.obtain host version build) other ∧
      (leaves (Run.obtain host version build) run).KeepsSame
        (leaves (Run.obtain host version build) other) := by
  have hregister := hsame.register host
  have hbuilds : (run.session.register host).builds = (other.session.register host).builds := by
    rw [Session.builds_register, hsame.builds, Session.builds_register]
  have hinstance := hsame.instance?_eq host version
  unfold ends leaves
  cases hkept : other.session.instance? host version with
  | some kept =>
    rw [obtain_of_kept (hinstance.trans hkept), obtain_of_kept hkept]
    exact ⟨rfl, hregister, hbuilds, hsame.world⟩
  | none =>
    rw [obtain_of_absent (hinstance.trans hkept), obtain_of_absent hkept, hsame.world]
    cases build other.world with
    | error fault world => exact ⟨rfl, hregister, hbuilds, rfl⟩
    | ok built world =>
      refine ⟨rfl, funext fun owner => ?_, congrArg (· + 1) hbuilds, rfl⟩
      rw [Session.versionsOf_record, hregister, Session.versionsOf_record]

/-- A call ends on both in the same way, and they go on to keep the same. -/
lemma onRun (hsame : run.KeepsSame other) (call : Call η σ ι) :
    ends call.onRun run = ends call.onRun other ∧
      (leaves call.onRun run).KeepsSame (leaves call.onRun other) := by
  cases call with
  | obtain host version build => exact hsame.obtain host version (some <$> build)
  | forget host =>
    refine ⟨rfl, funext fun owner => ?_, hsame.builds, hsame.world⟩
    show (run.session.forget host).versionsOf owner = (other.session.forget host).versionsOf owner
    rw [Session.versionsOf_forget, hsame.versionsOf, Session.versionsOf_forget]
  | close => exact ⟨rfl, rfl, hsame.builds, hsame.world⟩

lemma takeAll (hsame : run.KeepsSame other) (calls : List (Call η σ ι)) :
    (Action.takeAll (calls.map Call.onRun) run).1 =
      (Action.takeAll (calls.map Call.onRun) other).1 := by
  induction calls generalizing run other with
  | nil => rfl
  | cons call calls ih =>
    obtain ⟨hends, hnext⟩ := hsame.onRun call
    exact congrArg₂ List.cons hends (ih hnext)

end KeepsSame

/-! ## Failed builds -/

/-- **A failed build is passed on, and leaves a session that keeps what it kept before.**  No
builds, results or instances are added or lost, and whatever is called afterwards ends as if the
session had not been asked.  If the host had an entry, the session has not changed.  If it had none
it has one now: the host count has risen by one, and this is seen in the summary. -/
theorem leaves_failed_build {run : Run η σ ι} {host : η} {version : CodeText}
    {build : Action σ (Option ι)} {fault : Fault}
    (habsent : run.session.instance? host version = none)
    (hfault : ends build run.world = .error fault) :
    let left := leaves (obtain host version build) run
    ends (obtain host version build) run = .error fault ∧
      left.session.builds = run.session.builds ∧ left.session.size = run.session.size ∧
      (∀ other asked, left.session.contains other asked = run.session.contains other asked) ∧
      (∀ calls : List (Call η σ ι), (takeAll (calls.map Call.onRun) left).1 =
        (takeAll (calls.map Call.onRun) { run with world := left.world }).1) ∧
      left.session.hostCount =
        run.session.hostCount + (if run.session.hosts.contains host then 0 else 1) ∧
      (left.session = run.session ↔ run.session.hosts.contains host = true) ∧
      (left.session.summary = run.session.summary ↔ run.session.hosts.contains host = true) := by
  intro left
  have hleft : left.session = run.session.register host := by
    show (leaves (obtain host version build) run).session = _
    unfold leaves
    rw [obtain_of_absent habsent, (eq_error_iff.2 ⟨hfault, rfl⟩)]
  have hsame : left.KeepsSame { run with world := left.world } :=
    ⟨funext fun owner => by rw [hleft, Session.versionsOf_register],
      by rw [hleft, Session.builds_register], rfl⟩
  refine ⟨?_, hsame.builds, ?_, fun other asked => ?_, hsame.takeAll, ?_, ?_, ?_⟩
  · rw [ends_obtain, habsent]
    exact hfault
  · rw [hleft, Session.size_register]
  · rw [hleft, Session.contains_register]
  · rw [hleft, Session.hostCount_register]
  · rw [hleft, Session.register_eq_self_iff]
  · rw [hleft, Session.summary_register_eq_iff]

/-- Where the host has an entry nothing changes, and a new one adds to the host count. -/
theorem leaves_failed_build_known :
    let failing : Action Unit (Option Unit) := throw (.raised "build failed")
    let run : Run Bool Unit Unit := { session := Session.new.register true, world := () }
    run.session.instance? true "next" = none ∧ run.session.instance? false "next" = none ∧
      ends failing run.world = .error (.raised "build failed") ∧
      (leaves (obtain true "next" failing) run).session = run.session ∧
      (leaves (obtain false "next" failing) run).session.hostCount = 2 := by
  intro failing run
  have hknown : run.session.instance? true "next" = none := rfl
  have hnew : run.session.instance? false "next" = none := rfl
  have hfault : ends failing run.world = .error (.raised "build failed") := rfl
  obtain ⟨-, -, -, -, -, -, hsession, -⟩ := leaves_failed_build hknown hfault
  obtain ⟨-, -, -, -, -, hcount, -, -⟩ := leaves_failed_build hnew hfault
  exact ⟨hknown, hnew, hfault, hsession.2 rfl, hcount⟩

/-- The summary of a new session is another one after a build has failed. -/
theorem summary_failed_build_ne :
    let failing : Action Unit (Option Unit) := throw (.raised "build failed")
    let run : Run Unit Unit Unit := { world := () }
    let left := leaves (obtain () "next" failing) run
    run.session = .new ∧
      ends (obtain () "next" failing) run = .error (.raised "build failed") ∧
      left.session.hostCount ≠ run.session.hostCount ∧
      left.session.summary ≠ run.session.summary := by
  intro failing run left
  exact ⟨rfl, rfl, by decide, by decide +kernel⟩

end Run

end TypeTest
