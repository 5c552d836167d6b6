import Mathlib.Data.List.Nodup
import Mathlib.Tactic.Lemma
import TypeTest.Assoc

/-!
# What is bound in a map

The entries of a map are what is found under its keys (`Assoc.mem_entries_iff`), and a key that was
not bound is bound behind the others (`Assoc.entries_insert`).  So pairs with distinct keys, bound
one after the other, are the entries as they are (`Assoc.entries_ofList`).
-/

namespace TypeTest

variable {κ ν : Type} [DecidableEq κ]

namespace Assoc

omit [DecidableEq κ] in
lemma nodup_keys (map : Assoc κ ν) : map.keys.Nodup := map.distinct

omit [DecidableEq κ] in
lemma length_keys (map : Assoc κ ν) : map.keys.length = map.size := List.length_map _

lemma mem_keys_iff {map : Assoc κ ν} {key : κ} : key ∈ map.keys ↔ map.contains key = true := by
  rw [contains, decide_eq_true_iff]

lemma get?_eq_none_of_not_contains {map : Assoc κ ν} {key : κ}
    (habsent : ¬ map.contains key = true) : map.get? key = none := by
  rwa [contains_eq_isSome_get?, Option.not_isSome_iff_eq_none] at habsent

lemma bindEntry_of_absent {key : κ} {entries : List (κ × ν)}
    (habsent : entries.lookup key = none) (value : ν) :
    bindEntry key value entries = entries ++ [(key, value)] := by
  induction entries with
  | nil => rfl
  | cons entry entries ih =>
    rw [lookup_cons_eq_if] at habsent
    split at habsent
    · cases habsent
    · rename_i hother
      rw [bindEntry, if_neg hother, ih habsent, List.cons_append]

/-- A key that was not bound is bound behind the others. -/
lemma entries_insert {map : Assoc κ ν} {key : κ} (habsent : map.get? key = none) (value : ν) :
    (map.insert key value).entries = map.entries ++ [(key, value)] :=
  bindEntry_of_absent habsent value

/-- A key that was not bound is one more entry. -/
lemma size_insert {map : Assoc κ ν} {key : κ} (habsent : map.get? key = none) (value : ν) :
    (map.insert key value).size = map.size + 1 := by
  rw [size, entries_insert habsent, List.length_append, List.length_singleton, size]

lemma mem_iff_lookup {key : κ} {value : ν} {entries : List (κ × ν)}
    (hdistinct : (entries.map (·.1)).Nodup) :
    (key, value) ∈ entries ↔ entries.lookup key = some value := by
  induction entries with
  | nil => simp
  | cons entry entries ih =>
    rw [List.map_cons, List.nodup_cons] at hdistinct
    rw [List.mem_cons, lookup_cons_eq_if, ih hdistinct.2]
    by_cases hkey : entry.1 = key
    · -- the key is not bound a second time
      have hlater : entries.lookup key = none := by
        rw [← Option.not_isSome_iff_eq_none, ← mem_keys_iff_isSome_lookup, ← hkey]
        exact hdistinct.1
      rw [if_pos hkey, hlater, ← hkey]
      simp [Prod.ext_iff, eq_comm]
    · have hne : (key, value) ≠ entry := fun heq => hkey (heq ▸ rfl)
      rw [if_neg hkey]
      exact or_iff_right hne

/-- The entries of a map are what is found under its keys. -/
lemma mem_entries_iff {map : Assoc κ ν} {key : κ} {value : ν} :
    (key, value) ∈ map.entries ↔ map.get? key = some value :=
  mem_iff_lookup map.distinct

/-- Pairs with distinct keys that are not bound yet are bound behind the others, in their order. -/
lemma entries_foldl_insert {pairs : List (κ × ν)} {map : Assoc κ ν}
    (hdistinct : (pairs.map (·.1)).Nodup) (habsent : ∀ pair ∈ pairs, map.get? pair.1 = none) :
    (pairs.foldl (fun map pair => map.insert pair.1 pair.2) map).entries =
      map.entries ++ pairs := by
  induction pairs generalizing map with
  | nil => exact (List.append_nil _).symm
  | cons pair pairs ih =>
    rw [List.map_cons, List.nodup_cons] at hdistinct
    obtain ⟨hpair, hpairs⟩ := List.forall_mem_cons.1 habsent
    have hlater : ∀ other ∈ pairs, (map.insert pair.1 pair.2).get? other.1 = none := by
      intro other hmem
      have hne : other.1 ≠ pair.1 :=
        fun hsame => hdistinct.1 (hsame ▸ List.mem_map_of_mem hmem)
      rw [get?_insert, if_neg hne]
      exact hpairs other hmem
    rw [List.foldl_cons, ih hdistinct.2 hlater, entries_insert hpair, List.append_assoc,
      List.singleton_append]

/-- Pairs with distinct keys are the entries of the map that they make. -/
lemma entries_ofList {pairs : List (κ × ν)} (hdistinct : (pairs.map (·.1)).Nodup) :
    (ofList pairs).entries = pairs :=
  entries_foldl_insert hdistinct fun _ _ => rfl

end Assoc

end TypeTest
