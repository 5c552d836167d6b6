import Mathlib.Data.List.Nodup
import Mathlib.Data.List.Perm.Basic
import TypeTest.Proofs.Maps
import TypeTest.Proofs.Sessions

/-!
# A session is one flat map

A session keeps a map for each host, with an entry for a host from the moment it is first asked
about, and whatever else it tells is derived from that.  Seen from outside it is simpler: one map
from hosts and versions to instances, and a count.  `FlatSession` is that map, with what each call
does to it, and `calls_flat` says that no sequence of calls tells a session from it.

The two keep the same instances (`Run.Flattens`), each call ends on both alike and preserves this
(`Call.step_flat`), and by induction so do all calls.  What a session shows is then read off what it
keeps; only its size takes an argument, as it is summed up host by host: the bindings of all hosts
are listed without repetition (`Session.nodup_bindings`), and so are the entries of the flat map.
-/

namespace TypeTest

open TypeTest.Action

variable {η σ ι κ ν β : Type} [DecidableEq η] [DecidableEq κ]

/-! ## Maps -/

namespace Assoc

/-- The map without the keys that are not to be kept. -/
def restrict (map : Assoc κ ν) (keep : κ → Bool) : Assoc κ ν :=
  ⟨map.entries.filter (keep ·.1), (List.filter_sublist.map _).nodup map.distinct⟩

/-- What is kept is found as before. -/
lemma get?_restrict (map : Assoc κ ν) (keep : κ → Bool) (key : κ) :
    (map.restrict keep).get? key = if keep key then map.get? key else none :=
  lookup_filter keep key map.entries

omit [DecidableEq κ] in
lemma size_restrict_le (map : Assoc κ ν) (keep : κ → Bool) :
    (map.restrict keep).size ≤ map.size :=
  List.length_filter_le _ _

end Assoc

/-! ## The bindings of a session -/

namespace Session

/-- The hosts and versions that a session keeps something for. -/
def bindings (session : Session η ι) : List (η × CodeText) :=
  session.hosts.entries.flatMap fun (host, versions) => versions.keys.map (host, ·)

omit [DecidableEq η] in
lemma length_bindings (session : Session η ι) : session.bindings.length = session.size := by
  unfold bindings size
  induction session.hosts.entries with
  | nil => rfl
  | cons entry entries ih =>
    rw [List.flatMap_cons, List.length_append, ih, List.length_map, Assoc.length_keys]
    rfl

lemma mem_bindings_iff {session : Session η ι} {host : η} {version : CodeText} :
    (host, version) ∈ session.bindings ↔ session.contains host version = true := by
  unfold bindings contains versionsOf
  simp only [List.mem_flatMap, List.mem_map, Prod.exists, Prod.mk.injEq]
  constructor
  · rintro ⟨owner, versions, hentry, found, hversion, rfl, rfl⟩
    rw [Assoc.mem_entries_iff.1 hentry, Option.getD_some]
    exact Assoc.mem_keys_iff.1 hversion
  · intro hcontains
    cases hhost : session.hosts.get? host with
    | none =>
      rw [hhost] at hcontains
      cases hcontains
    | some versions =>
      rw [hhost] at hcontains
      exact ⟨host, versions, Assoc.mem_entries_iff.2 hhost, version,
        Assoc.mem_keys_iff.2 hcontains, rfl, rfl⟩

omit [DecidableEq η] in
lemma nodup_bindings (session : Session η ι) : session.bindings.Nodup := by
  refine List.nodup_flatMap.2 ⟨fun entry _ => ?_, ?_⟩
  · exact entry.2.nodup_keys.map fun version other hsame => (Prod.ext_iff.1 hsame).2
  · have hhosts : session.hosts.entries.Pairwise fun entry other => entry.1 ≠ other.1 :=
      List.pairwise_map.1 session.hosts.distinct
    refine hhosts.imp fun {entry other} hne binding hmem hmem' => hne ?_
    obtain ⟨version, -, rfl⟩ := List.mem_map.1 hmem
    obtain ⟨version', -, hsame⟩ := List.mem_map.1 hmem'
    exact (Prod.ext_iff.1 hsame).1.symm

end Session

/-! ## Flat sessions -/

/-- One map from hosts and versions to instances, the number of builds that ended well, and the
collaborators' world. -/
structure FlatSession (η σ ι : Type) where
  kept : Assoc (η × CodeText) ι := .empty
  builds : Nat := 0
  world : σ

namespace FlatSession

/-- The instance bound to a host and a version.  If there is none it is built, once, and if the
build ends well it is bound and counted. -/
def obtain (host : η) (version : CodeText) (build : Action σ ι) :
    Action (FlatSession η σ ι) (Option ι) := fun flat =>
  match flat.kept.get? (host, version) with
  | some kept => .ok (some kept) flat
  | none =>
    match build flat.world with
    | .ok built world => .ok (some built) {
        kept := flat.kept.insert (host, version) built
        builds := flat.builds + 1
        world }
    | .error fault world => .error fault { flat with world }

/-- Removes the bindings of a host. -/
def forget (host : η) (flat : FlatSession η σ ι) : FlatSession η σ ι :=
  { flat with kept := flat.kept.restrict (·.1 ≠ host) }

/-- Removes all bindings. -/
def close (flat : FlatSession η σ ι) : FlatSession η σ ι := { flat with kept := .empty }

end FlatSession

/-! ## Calls -/

/-- A call of a session.  A build gives an instance, or ends in a fault. -/
inductive Call (η σ ι : Type) where
  | obtain (host : η) (version : CodeText) (build : Action σ ι)
  | forget (host : η)
  | close

namespace Call

/-- What a call does with the session of a run; only asking for an instance has a result. -/
def onRun : Call η σ ι → Action (Run η σ ι) (Option ι)
  | obtain host version build => Run.obtain host version (some <$> build)
  | forget host => do
    Run.onSession (·.forget host)
    return none
  | close => do
    Run.onSession (·.close)
    return none

/-- What a call does with a flat session. -/
def onFlat : Call η σ ι → Action (FlatSession η σ ι) (Option ι)
  | obtain host version build => FlatSession.obtain host version build
  | forget host => do
    modify (·.forget host)
    return none
  | close => do
    modify (·.close)
    return none

end Call

/-- Takes steps one after the other, whether or not they end in faults: how each has ended, and what
they leave behind. -/
def Action.takeAll : List (Action σ β) → σ → List (Except Fault β) × σ
  | [], world => ([], world)
  | step :: steps, world =>
    let later := takeAll steps (leaves step world)
    (ends step world :: later.1, later.2)

/-! ## The flat map of a session -/

/-- The session of a run keeps the instances that are bound in a flat map, and no others; it has
counted the same builds, and the worlds are the same. -/
structure Run.Flattens (run : Run η σ ι) (flat : FlatSession η σ ι) : Prop where
  kept : ∀ host version, (run.session.versionsOf host).get? version =
    (flat.kept.get? (host, version)).map some
  builds : run.session.builds = flat.builds
  world : run.world = flat.world

namespace Run.Flattens

variable {run : Run η σ ι} {flat : FlatSession η σ ι}

lemma new (world : σ) :
    ({ world } : Run η σ ι).Flattens ({ world } : FlatSession η σ ι) where
  kept _ _ := rfl
  builds := rfl
  world := rfl

/-! ### What is seen of a session -/

lemma contains_eq (hflat : run.Flattens flat) (host : η) (version : CodeText) :
    run.session.contains host version = flat.kept.contains (host, version) := by
  rw [Session.contains, Assoc.contains_eq_isSome_get?, Assoc.contains_eq_isSome_get?, hflat.kept,
    Option.isSome_map]

lemma instance?_eq (hflat : run.Flattens flat) (host : η) (version : CodeText) :
    run.session.instance? host version = flat.kept.get? (host, version) := by
  rw [Session.instance?, hflat.kept]
  cases flat.kept.get? (host, version) with
  | none => rfl
  | some kept => rfl

/-- The bindings of the session and the keys of the flat map are the same, and neither repeats
any. -/
lemma size_eq (hflat : run.Flattens flat) : run.session.size = flat.kept.size := by
  have hperm : run.session.bindings.Perm flat.kept.keys := by
    refine (List.perm_ext_iff_of_nodup run.session.nodup_bindings flat.kept.nodup_keys).2 ?_
    rintro ⟨host, version⟩
    rw [Session.mem_bindings_iff, Assoc.mem_keys_iff, hflat.contains_eq]
  rw [← Session.length_bindings, hperm.length_eq, Assoc.length_keys]

/-! ### What calls do -/

/-- Asking for an instance: one that is kept is given, and another one is built and bound. -/
lemma obtain (hflat : run.Flattens flat) (host : η) (version : CodeText) (build : Action σ ι) :
    ends (Run.obtain host version (some <$> build)) run =
        ends (FlatSession.obtain host version build) flat ∧
      (leaves (Run.obtain host version (some <$> build)) run).Flattens
        (leaves (FlatSession.obtain host version build) flat) := by
  have hinstance := hflat.instance?_eq host version
  have hregistered : ∀ other asked,
      ((run.session.register host).versionsOf other).get? asked =
        (flat.kept.get? (other, asked)).map some := by
    intro other asked
    rw [Session.versionsOf_register, hflat.kept]
  unfold ends leaves FlatSession.obtain
  cases hkept : flat.kept.get? (host, version) with
  | some kept =>
    rw [Run.obtain_of_kept (hinstance.trans hkept)]
    exact ⟨rfl, hregistered, (Session.builds_register ..).trans hflat.builds, hflat.world⟩
  | none =>
    have hbuild : (some <$> build) run.world = match build flat.world with
        | .ok built world => .ok (some built) world
        | .error fault world => .error fault world := by
      rw [hflat.world]
      show EStateM.map some build flat.world = _
      unfold EStateM.map
      cases build flat.world with
      | ok built world => rfl
      | error fault world => rfl
    rw [Run.obtain_of_absent (hinstance.trans hkept), hbuild]
    cases build flat.world with
    | error fault world =>
      exact ⟨rfl, hregistered, (Session.builds_register ..).trans hflat.builds, rfl⟩
    | ok built world =>
      refine ⟨rfl, fun other asked => ?_, ?_, rfl⟩
      · rw [Session.get?_versionsOf_record, hregistered, Assoc.get?_insert]
        simp only [Prod.mk.injEq]
        split
        · rfl
        · rfl
      · exact congrArg (· + 1) ((Session.builds_register ..).trans hflat.builds)

lemma forget (hflat : run.Flattens flat) (host : η) :
    Run.Flattens { run with session := run.session.forget host } (flat.forget host) where
  kept other version := by
    rw [Session.versionsOf_forget, FlatSession.forget, Assoc.get?_restrict]
    by_cases hhost : other = host
    · simp [hhost]
    · simp [hhost, hflat.kept]
  builds := hflat.builds
  world := hflat.world

lemma close (hflat : run.Flattens flat) :
    Run.Flattens { run with session := run.session.close } flat.close where
  kept _ _ := rfl
  builds := hflat.builds
  world := hflat.world

end Run.Flattens

/-- A call ends on a session as it does on its flat map, and leaves the one to be the flat map of
the other. -/
theorem Call.step_flat {run : Run η σ ι} {flat : FlatSession η σ ι} (hflat : run.Flattens flat)
    (call : Call η σ ι) :
    ends call.onRun run = ends call.onFlat flat ∧
      (leaves call.onRun run).Flattens (leaves call.onFlat flat) := by
  cases call with
  | obtain host version build => exact hflat.obtain host version build
  | forget host => exact ⟨rfl, hflat.forget host⟩
  | close => exact ⟨rfl, hflat.close⟩

/-! ## No more bindings than builds -/

namespace FlatSession

/-- There are no more bindings than builds that ended well. -/
def Counted (flat : FlatSession η σ ι) : Prop := flat.kept.size ≤ flat.builds

/-- A call binds an instance only if it counts a build. -/
lemma counted_onFlat (call : Call η σ ι) :
    Keeps (Counted : FlatSession η σ ι → Prop) call.onFlat := by
  intro flat hcounted
  cases call with
  | obtain host version build =>
    show Counted (leaves (FlatSession.obtain host version build) flat)
    unfold leaves FlatSession.obtain
    cases hkept : flat.kept.get? (host, version) with
    | some kept => exact hcounted
    | none =>
      cases build flat.world with
      | error fault world => exact hcounted
      | ok built world =>
        show (flat.kept.insert (host, version) built).size ≤ flat.builds + 1
        rw [Assoc.size_insert hkept]
        exact Nat.succ_le_succ hcounted
  | forget host => exact Nat.le_trans (Assoc.size_restrict_le ..) hcounted
  | close => exact Nat.zero_le _

end FlatSession

/-- How calls end and what they leave, from a session and its flat map on. -/
lemma takeAll_flat (calls : List (Call η σ ι)) {run : Run η σ ι} {flat : FlatSession η σ ι}
    (hflat : run.Flattens flat) (hcounted : flat.Counted) :
    (takeAll (calls.map Call.onRun) run).1 = (takeAll (calls.map Call.onFlat) flat).1 ∧
      (takeAll (calls.map Call.onRun) run).2.Flattens (takeAll (calls.map Call.onFlat) flat).2 ∧
      (takeAll (calls.map Call.onFlat) flat).2.Counted := by
  induction calls generalizing run flat with
  | nil => exact ⟨rfl, hflat, hcounted⟩
  | cons call calls ih =>
    obtain ⟨hends, hnext⟩ := call.step_flat hflat
    obtain ⟨hlater, hleft, hbounded⟩ := ih hnext (FlatSession.counted_onFlat call flat hcounted)
    exact ⟨congrArg₂ List.cons hends hlater, hleft, hbounded⟩

/-- **A session is a flat map.**  Let any calls be made of a new session, where every build gives an
instance or ends in a fault.  Each call ends as it does on a flat map from hosts and versions to
instances, and the collaborators are asked for the same builds.  At every point the session contains
a host and a version, and has an instance for them, as the map does; its size is the number of
bindings; and it has counted the builds that ended well, which are no fewer. -/
theorem calls_flat (calls : List (Call η σ ι)) (world : σ) :
    let onRun := takeAll (calls.map Call.onRun) { world }
    let onFlat := takeAll (calls.map Call.onFlat) { world }
    let session := onRun.2.session
    let flat := onFlat.2
    onRun.1 = onFlat.1 ∧ onRun.2.world = flat.world ∧
      (∀ host version, session.contains host version = flat.kept.contains (host, version)) ∧
      (∀ host version, session.instance? host version = flat.kept.get? (host, version)) ∧
      session.size = flat.kept.size ∧ session.builds = flat.builds ∧
      session.size ≤ session.builds := by
  obtain ⟨hends, hflat, hcounted⟩ := takeAll_flat calls (Run.Flattens.new world) (Nat.zero_le _)
  have hbound : (takeAll (calls.map Call.onRun) { world }).2.session.size ≤
      (takeAll (calls.map Call.onRun) { world }).2.session.builds := by
    rw [hflat.size_eq, hflat.builds]
    exact hcounted
  exact ⟨hends, hflat.world, hflat.contains_eq, hflat.instance?_eq, hflat.size_eq, hflat.builds,
    hbound⟩

end TypeTest
