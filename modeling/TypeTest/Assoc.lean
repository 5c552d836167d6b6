/-!
# Finite maps in insertion order

A map is the list of its entries, each key once, in the order in which the keys were first
bound.  Binding a key anew keeps its place; erasing a key and binding it again moves it to the
end.  Everything that shows its entries in order of arrival is kept in such a map.
-/

namespace TypeTest

/-- Binds a key among entries: in its place if it is bound already, at the end otherwise. -/
def bindEntry [DecidableEq κ] (key : κ) (value : ν) : List (κ × ν) → List (κ × ν)
  | [] => [(key, value)]
  | entry :: entries =>
    if entry.1 = key then (key, value) :: entries else entry :: bindEntry key value entries

theorem mem_keys_bindEntry [DecidableEq κ] {key other : κ} {value : ν} {entries : List (κ × ν)} :
    other ∈ (bindEntry key value entries).map (·.1) ↔
      other = key ∨ other ∈ entries.map (·.1) := by
  induction entries with
  | nil => simp [bindEntry]
  | cons entry entries ih =>
    unfold bindEntry
    split
    · rename_i same
      simp [same]
    · rw [List.map_cons, List.mem_cons, ih, List.map_cons, List.mem_cons]
      exact or_left_comm

theorem nodup_keys_bindEntry [DecidableEq κ] {key : κ} {value : ν} {entries : List (κ × ν)}
    (distinct : (entries.map (·.1)).Nodup) :
    ((bindEntry key value entries).map (·.1)).Nodup := by
  induction entries with
  | nil => simp [bindEntry]
  | cons entry entries ih =>
    rw [List.map_cons, List.nodup_cons] at distinct
    unfold bindEntry
    split
    · rename_i same
      simpa [same] using distinct
    · rename_i different
      rw [List.map_cons, List.nodup_cons, mem_keys_bindEntry]
      exact ⟨fun mem => mem.elim different distinct.1, ih distinct.2⟩

/-- A finite map with its entries in order of insertion. -/
structure Assoc (κ ν : Type) where
  entries : List (κ × ν) := []
  distinct : (entries.map (·.1)).Nodup := by simp
  deriving DecidableEq, Repr

namespace Assoc

variable {κ ν : Type} [DecidableEq κ]

/-- The map without entries. -/
def empty : Assoc κ ν := {}

instance : Inhabited (Assoc κ ν) := ⟨empty⟩

/-- The keys that are bound, in order. -/
def keys (map : Assoc κ ν) : List κ := map.entries.map (·.1)

/-- Number of entries. -/
def size (map : Assoc κ ν) : Nat := map.entries.length

/-- Is nothing bound? -/
def isEmpty (map : Assoc κ ν) : Bool := map.entries.isEmpty

/-- The value bound to a key. -/
def get? (map : Assoc κ ν) (key : κ) : Option ν := map.entries.lookup key

/-- Is a key bound? -/
def contains (map : Assoc κ ν) (key : κ) : Bool := key ∈ map.keys

/-- Binds a key. -/
def insert (map : Assoc κ ν) (key : κ) (value : ν) : Assoc κ ν :=
  ⟨bindEntry key value map.entries, nodup_keys_bindEntry map.distinct⟩

/-- Removes a key. -/
def erase (map : Assoc κ ν) (key : κ) : Assoc κ ν :=
  ⟨map.entries.filter (·.1 ≠ key),
    (List.filter_sublist.map _).nodup map.distinct⟩

/-- The map that binds each pair in turn; of two pairs with one key the later counts. -/
def ofList (pairs : List (κ × ν)) : Assoc κ ν :=
  pairs.foldl (fun map pair => map.insert pair.1 pair.2) empty

/-! ## What the operations do to look-ups -/

theorem lookup_cons_eq_if (key : κ) (entry : κ × ν) (entries : List (κ × ν)) :
    (entry :: entries).lookup key = if entry.1 = key then some entry.2 else entries.lookup key := by
  by_cases same : entry.1 = key
  · rw [List.lookup_cons, ← same, beq_self_eq_true, if_pos rfl]
  · rw [List.lookup_cons, beq_false_of_ne (Ne.symm same), if_neg same]

theorem lookup_bindEntry (key other : κ) (value : ν) (entries : List (κ × ν)) :
    (bindEntry key value entries).lookup other =
      if other = key then some value else entries.lookup other := by
  induction entries with
  | nil => simp [bindEntry, lookup_cons_eq_if, eq_comm]
  | cons entry entries ih =>
    unfold bindEntry
    split
    · rename_i bound
      by_cases same : other = key
      · simp [lookup_cons_eq_if, same]
      · simp [lookup_cons_eq_if, bound, same, Ne.symm same]
    · rename_i different
      rw [lookup_cons_eq_if, lookup_cons_eq_if, ih]
      by_cases same : other = key
      · simp [same, different]
      · simp [same]

theorem lookup_filter (keep : κ → Bool) (key : κ) (entries : List (κ × ν)) :
    (entries.filter fun entry => keep entry.1).lookup key =
      if keep key then entries.lookup key else none := by
  induction entries with
  | nil => simp
  | cons entry entries ih =>
    rw [List.filter_cons]
    split
    · rename_i kept
      rw [lookup_cons_eq_if, lookup_cons_eq_if, ih]
      by_cases same : entry.1 = key
      · subst same
        simp [kept]
      · simp [same]
    · rename_i removed
      rw [lookup_cons_eq_if, ih]
      by_cases same : entry.1 = key
      · subst same
        simp [removed]
      · simp [same]

theorem mem_keys_iff_isSome_lookup (key : κ) (entries : List (κ × ν)) :
    key ∈ entries.map (·.1) ↔ (entries.lookup key).isSome := by
  rw [List.lookup_isSome_iff, List.mem_map]
  exact exists_congr fun entry => and_congr_right fun _ => by rw [beq_iff_eq, eq_comm]

@[simp] theorem get?_empty (key : κ) : (empty : Assoc κ ν).get? key = none := rfl

/-- Binding a key changes what is found under it, and nothing else. -/
theorem get?_insert (map : Assoc κ ν) (key other : κ) (value : ν) :
    (map.insert key value).get? other = if other = key then some value else map.get? other :=
  lookup_bindEntry key other value map.entries

/-- Erasing a key leaves nothing under it, and all else as it was. -/
theorem get?_erase (map : Assoc κ ν) (key other : κ) :
    (map.erase key).get? other = if other = key then none else map.get? other := by
  refine (lookup_filter (· ≠ key) other map.entries).trans ?_
  by_cases same : other = key
  · simp [same]
  · simp [same, get?]

/-- A key is bound exactly when a value is found under it. -/
theorem contains_eq_isSome_get? (map : Assoc κ ν) (key : κ) :
    map.contains key = (map.get? key).isSome := by
  rw [contains, get?, Bool.eq_iff_iff, decide_eq_true_iff]
  exact mem_keys_iff_isSome_lookup key map.entries

end Assoc

end TypeTest
