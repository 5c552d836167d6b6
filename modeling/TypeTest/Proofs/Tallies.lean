import Mathlib.Data.List.Induction
import Mathlib.Data.List.Nodup
import Mathlib.Tactic.Lemma
import TypeTest.DirectiveTable

/-!
# A table depends on how often a line is spoken about

The table of a file keeps no counters.  That a line has had two type assertions shows only in its
being flagged and having none, and that it has had an error assertion in its being listed.  Still
the table tells apart just what counting would tell apart, for each line and each kind of directive
by itself: whether there has been no update, one, or more than one.

`DirectiveTable.Tallies` says what a table holds in terms of the updates made to it so far.  One
update keeps it (`Tallies.record`), so it holds after any number of them, in whatever order
(`foldl_record_tallies`).  The duplicates are even known in their order: a line is flagged for a
kind when the second update of this kind is made (`seconds`).

The main result (`updates_tallied`) adds what follows from the counts alone.  Above all, what a
table holds for one kind is the same if all updates of the other kind are left out.
-/

namespace TypeTest

/-! ## Updates and their counts -/

/-- Those of some updates that are of a kind and speak about a line. -/
def updatesFor (updates : List (Int × Directive)) (line : Int) (kind : Directive.Kind) :
    List (Int × Directive) :=
  updates.filter fun update => update.1 = line ∧ update.2.kind = kind

/-- The lines and kinds of those updates that are the second one of their kind for their line, in
the order of the updates. -/
def seconds (updates : List (Int × Directive)) : List Duplicate :=
  (updates.zipIdx.filter fun entry =>
    (updatesFor (updates.take entry.2) entry.1.1 entry.1.2.kind).length = 1).map
      fun entry => ⟨entry.1.1, entry.1.2.kind⟩

variable {updates : List (Int × Directive)} {update : Int × Directive} {line : Int}
  {kind : Directive.Kind}

/-- A further update counts for its line and kind. -/
lemma updatesFor_append_of_key (hkey : update.1 = line ∧ update.2.kind = kind) :
    updatesFor (updates ++ [update]) line kind = updatesFor updates line kind ++ [update] := by
  simp [updatesFor, hkey]

/-- For other lines and kinds it does not. -/
lemma updatesFor_append_of_ne (hkey : ¬ (update.1 = line ∧ update.2.kind = kind)) :
    updatesFor (updates ++ [update]) line kind = updatesFor updates line kind := by
  simp [updatesFor, hkey]

/-- To the updates of one kind the updates of the other do not matter. -/
lemma updatesFor_filter (updates : List (Int × Directive)) (line : Int) (kind : Directive.Kind) :
    updatesFor (updates.filter (·.2.kind = kind)) line kind = updatesFor updates line kind := by
  rw [updatesFor, List.filter_filter]
  refine List.filter_congr fun update _ => ?_
  simp

/-- What speaks about a line is of one kind or of the other. -/
lemma length_updatesFor_add (updates : List (Int × Directive)) (line : Int) :
    (updatesFor updates line .expectType).length + (updatesFor updates line .expectError).length =
      (updates.filter (·.1 = line)).length := by
  have hother : ∀ kind : Directive.Kind,
      (!decide (kind = .expectType)) = decide (kind = .expectError) := by
    intro kind
    cases kind with
    | expectType => rfl
    | expectError => rfl
  rw [List.length_eq_length_filter_add (l := updates.filter (·.1 = line)) (·.2.kind = .expectType),
    List.filter_filter, List.filter_filter]
  simp only [updatesFor, hother, Bool.decide_and, Bool.and_comm]

/-- A further update is the second of its kind for its line if there has been one before. -/
lemma seconds_append (hkey : update.1 = line ∧ update.2.kind = kind) :
    seconds (updates ++ [update]) =
      seconds updates ++
        if (updatesFor updates line kind).length = 1 then [⟨line, kind⟩] else [] := by
  obtain ⟨rfl, rfl⟩ := hkey
  have htake : ∀ entry ∈ updates.zipIdx, (updates ++ [update]).take entry.2 =
      updates.take entry.2 := by
    intro entry hentry
    have hplace := (List.mem_zipIdx' hentry).1
    exact List.take_append_of_le_length (Nat.le_of_lt hplace)
  have hearlier : (updates.zipIdx.filter fun entry =>
        (updatesFor ((updates ++ [update]).take entry.2) entry.1.1 entry.1.2.kind).length = 1) =
      updates.zipIdx.filter fun entry =>
        (updatesFor (updates.take entry.2) entry.1.1 entry.1.2.kind).length = 1 :=
    List.filter_congr fun entry hentry => by rw [htake entry hentry]
  unfold seconds
  rw [List.zipIdx_append, List.filter_append, List.map_append, hearlier, List.append_cancel_left_eq,
    Nat.zero_add, List.zipIdx_singleton, List.filter_cons, List.filter_nil, List.take_left]
  by_cases hone : (updatesFor updates update.1 update.2.kind).length = 1
  · simp [hone]
  · simp [hone]

/-- A line has a second update of a kind if it has two or more of them. -/
lemma mem_seconds_iff :
    ⟨line, kind⟩ ∈ seconds updates ↔ 2 ≤ (updatesFor updates line kind).length := by
  induction updates using List.reverseRecOn with
  | nil => exact iff_of_false List.not_mem_nil (Nat.not_succ_le_zero 1)
  | append_singleton updates update ih =>
    by_cases hkey : update.1 = line ∧ update.2.kind = kind
    · rw [seconds_append hkey, List.mem_append, ih, updatesFor_append_of_key hkey,
        List.length_append, List.length_singleton]
      split
      · exact iff_of_true (.inr (List.mem_singleton_self _)) (by omega)
      · rw [or_iff_left List.not_mem_nil]
        omega
    · rw [seconds_append ⟨rfl, rfl⟩, List.mem_append, ih, updatesFor_append_of_ne hkey]
      refine or_iff_left fun hmem => hkey ?_
      split at hmem
      · rw [List.mem_singleton, Duplicate.mk.injEq] at hmem
        exact ⟨hmem.1.symm, hmem.2.symm⟩
      · exact absurd hmem List.not_mem_nil

/-- No line has the second of its updates of a kind twice. -/
lemma nodup_seconds (updates : List (Int × Directive)) : (seconds updates).Nodup := by
  induction updates using List.reverseRecOn with
  | nil => exact List.nodup_nil
  | append_singleton updates update ih =>
    rw [seconds_append ⟨rfl, rfl⟩]
    split
    · have hnew : ⟨update.1, update.2.kind⟩ ∉ seconds updates := by
        rw [mem_seconds_iff]
        omega
      rw [List.nodup_append_comm]
      exact List.nodup_cons.2 ⟨hnew, ih⟩
    · rwa [List.append_nil]

/-- The updates of one kind have the same second ones by themselves as among all. -/
lemma seconds_filter (updates : List (Int × Directive)) (kind : Directive.Kind) :
    seconds (updates.filter (·.2.kind = kind)) = (seconds updates).filter (·.kind = kind) := by
  induction updates using List.reverseRecOn with
  | nil => rfl
  | append_singleton updates update ih =>
    rw [seconds_append ⟨rfl, rfl⟩, List.filter_append, List.filter_append, ← ih]
    by_cases hkind : update.2.kind = kind
    · subst hkind
      rw [List.filter_cons_of_pos (by simp), List.filter_nil, seconds_append ⟨rfl, rfl⟩,
        updatesFor_filter]
      split
      · simp
      · rfl
    · rw [List.filter_cons_of_neg (by simpa using hkind), List.filter_nil, List.append_nil]
      split
      · simp [hkind]
      · simp

/-! ## What a table holds -/

namespace DirectiveTable

/-- Records what is stated about a line. -/
def record (table : DirectiveTable) (update : Int × Directive) : DirectiveTable :=
  match update with
  | (line, .expectType expected) => table.recordType line expected
  | (line, .expectError) => table.recordError line

/-- What a table holds goes by the number of updates of each kind for a line. -/
structure Tallies (table : DirectiveTable) (updates : List (Int × Directive)) : Prop where
  /-- An error is expected on the lines with at least one error assertion. -/
  errorLines : ∀ line, line ∈ table.errorLines ↔
    1 ≤ (updatesFor updates line .expectError).length
  /-- A type is expected on the lines with just one type assertion, and it is the one asserted. -/
  typeAssertions : ∀ line expected, table.typeAssertions.get? line = some expected ↔
    updatesFor updates line .expectType = [(line, .expectType expected)]
  /-- A line is flagged for a kind with its second directive of this kind. -/
  duplicates : table.duplicates = seconds updates

lemma mem_flaggedLines {table : DirectiveTable} {line : Int} {kind : Directive.Kind} :
    line ∈ table.flaggedLines kind ↔ ⟨line, kind⟩ ∈ table.duplicates := by
  simp only [flaggedLines, List.mem_map, List.mem_filter, decide_eq_true_eq]
  constructor
  · rintro ⟨found, ⟨hmem, rfl⟩, rfl⟩
    exact hmem
  · intro hmem
    exact ⟨⟨line, kind⟩, ⟨hmem, rfl⟩, rfl⟩

lemma mem_recordError {table : DirectiveTable} {line other : Int} :
    other ∈ (table.recordError line).errorLines ↔ other ∈ table.errorLines ∨ other = line := by
  unfold recordError
  split
  · rename_i hmem
    rw [flag_errorLines]
    refine ⟨.inl, ?_⟩
    rintro (hother | rfl)
    · exact hother
    · exact hmem
  · simp

/-- Flagging a line with at least one update before has an effect if it is the second one. -/
lemma flag_duplicates {table : DirectiveTable} (hduplicates : table.duplicates = seconds updates)
    (hsome : 1 ≤ (updatesFor updates line kind).length) :
    (table.flag line kind).duplicates =
      seconds updates ++
        if (updatesFor updates line kind).length = 1 then [⟨line, kind⟩] else [] := by
  have hflagged : ⟨line, kind⟩ ∈ table.duplicates ↔ 2 ≤ (updatesFor updates line kind).length := by
    rw [hduplicates, mem_seconds_iff]
  unfold flag
  split
  · rename_i hmem
    rw [hflagged] at hmem
    rw [if_neg (by omega), List.append_nil, hduplicates]
  · rename_i hnew
    rw [hflagged] at hnew
    rw [if_pos (by omega), ← hduplicates]

namespace Tallies

variable {table : DirectiveTable}

lemma empty : Tallies .empty [] where
  errorLines _ := by simp [DirectiveTable.empty, updatesFor]
  typeAssertions _ _ := by simp [DirectiveTable.empty, updatesFor]
  duplicates := rfl

/-- A type is expected on a line if there is just one type assertion for it. -/
lemma contains_iff (htallies : table.Tallies updates) (line : Int) :
    table.typeAssertions.contains line = true ↔
      (updatesFor updates line .expectType).length = 1 := by
  rw [Assoc.contains_eq_isSome_get?, Option.isSome_iff_exists, List.length_eq_one_iff]
  simp only [htallies.typeAssertions]
  constructor
  · rintro ⟨expected, hsingle⟩
    exact ⟨_, hsingle⟩
  · rintro ⟨⟨number, directive⟩, hsingle⟩
    have hmem : (number, directive) ∈ updatesFor updates line .expectType := by
      rw [hsingle]
      exact List.mem_singleton_self _
    simp only [updatesFor, List.mem_filter, decide_eq_true_eq] at hmem
    obtain ⟨-, rfl, hkind⟩ := hmem
    cases directive with
    | expectType expected => exact ⟨expected, hsingle⟩
    | expectError => cases hkind

lemma mem_flaggedLines_iff (htallies : table.Tallies updates) (line : Int)
    (kind : Directive.Kind) :
    line ∈ table.flaggedLines kind ↔ 2 ≤ (updatesFor updates line kind).length := by
  rw [mem_flaggedLines, htallies.duplicates, mem_seconds_iff]

/-- One more error assertion. -/
lemma recordError (htallies : table.Tallies updates) (line : Int) :
    (table.recordError line).Tallies (updates ++ [(line, .expectError)]) where
  errorLines other := by
    rw [mem_recordError, htallies.errorLines]
    by_cases hline : line = other
    · rw [updatesFor_append_of_key (by simp [hline, Directive.kind]), List.length_append,
        List.length_singleton]
      exact iff_of_true (.inr hline.symm) (by omega)
    · rw [updatesFor_append_of_ne (by simp [hline])]
      exact or_iff_left (Ne.symm hline)
  typeAssertions other expected := by
    rw [recordError_typeAssertions, updatesFor_append_of_ne (by simp [Directive.kind])]
    exact htallies.typeAssertions other expected
  duplicates := by
    have hadded : seconds (updates ++ [(line, .expectError)]) = seconds updates ++
        if (updatesFor updates line .expectError).length = 1 then [⟨line, .expectError⟩] else [] :=
      seconds_append ⟨rfl, rfl⟩
    rw [hadded, DirectiveTable.recordError]
    split
    · rename_i hmem
      exact flag_duplicates htallies.duplicates ((htallies.errorLines line).1 hmem)
    · rename_i hmem
      rw [htallies.errorLines] at hmem
      rw [if_neg fun hone => hmem (Nat.le_of_eq hone.symm), List.append_nil]
      exact htallies.duplicates

/-- A further type on a line that has had one before is one too many. -/
lemma append_ne_singleton (hsome : 1 ≤ (updatesFor updates line kind).length)
    (update other : Int × Directive) : updatesFor updates line kind ++ [update] ≠ [other] := by
  intro heq
  have hlength := congrArg List.length heq
  rw [List.length_append, List.length_singleton, List.length_singleton] at hlength
  omega

/-- One more type assertion. -/
lemma recordType (htallies : table.Tallies updates) (line : Int) (expected : String) :
    (table.recordType line expected).Tallies (updates ++ [(line, .expectType expected)]) where
  errorLines other := by
    rw [recordType_errorLines, updatesFor_append_of_ne (by simp [Directive.kind])]
    exact htallies.errorLines other
  typeAssertions other asserted := by
    have hcontains := htallies.contains_iff line
    have hflagged := htallies.mem_flaggedLines_iff line .expectType
    rw [DirectiveTable.recordType]
    by_cases hline : line = other
    · subst hline
      rw [updatesFor_append_of_key (by simp [Directive.kind])]
      split
      · -- the second assertion takes the first one away
        rename_i hone
        rw [hcontains] at hone
        rw [flag_typeAssertions, Assoc.get?_erase, if_pos rfl]
        exact iff_of_false nofun (append_ne_singleton (Nat.le_of_eq hone.symm) _ _)
      rename_i hone
      have hnone : table.typeAssertions.get? line = none := by
        simpa [Assoc.contains_eq_isSome_get?] using hone
      rw [hcontains] at hone
      split
      · -- the line has been flagged before, so it takes none
        rename_i htwo
        rw [hflagged] at htwo
        rw [hnone]
        exact iff_of_false nofun (append_ne_singleton (Nat.le_of_succ_le htwo) _ _)
      · rename_i htwo
        rw [hflagged] at htwo
        have hnil : updatesFor updates line .expectType = [] := by
          rw [← List.length_eq_zero_iff]
          omega
        rw [hnil, Assoc.get?_insert, if_pos rfl]
        simp
    · rw [updatesFor_append_of_ne (by simp [hline]), ← htallies.typeAssertions]
      split
      · rw [flag_typeAssertions, Assoc.get?_erase, if_neg (Ne.symm hline)]
      · split
        · rfl
        · rw [Assoc.get?_insert, if_neg (Ne.symm hline)]
  duplicates := by
    have hcontains := htallies.contains_iff line
    have hadded : seconds (updates ++ [(line, .expectType expected)]) = seconds updates ++
        if (updatesFor updates line .expectType).length = 1 then [⟨line, .expectType⟩] else [] :=
      seconds_append ⟨rfl, rfl⟩
    rw [hadded, DirectiveTable.recordType]
    split
    · rename_i hone
      rw [hcontains] at hone
      exact flag_duplicates htallies.duplicates (Nat.le_of_eq hone.symm)
    rename_i hone
    rw [hcontains] at hone
    rw [if_neg hone, List.append_nil]
    split
    · exact htallies.duplicates
    · exact htallies.duplicates

/-- One more update. -/
lemma record (htallies : table.Tallies updates) (update : Int × Directive) :
    (table.record update).Tallies (updates ++ [update]) := by
  obtain ⟨line, directive⟩ := update
  cases directive with
  | expectType expected => exact htallies.recordType line expected
  | expectError => exact htallies.recordError line

end Tallies

/-- What a table holds after some updates goes by their counts. -/
theorem foldl_record_tallies (updates : List (Int × Directive)) :
    (updates.foldl record .empty).Tallies updates := by
  induction updates using List.reverseRecOn with
  | nil => exact Tallies.empty
  | append_singleton updates update ih =>
    rw [List.foldl_append]
    exact ih.record update

/-- **A table depends only on how often each line is spoken about.**  Let any updates be made of an
empty table.  Then an error is expected on the lines with at least one error assertion, a type on
those with just one type assertion, namely the type asserted there, and the duplicates are the lines
with at least two updates of a kind, each once for this kind, in the order in which the second one
of them was made.  So no line has both a type and a flag for two of them; and what is held for a
kind is the same without the updates of the other. -/
theorem updates_tallied (updates : List (Int × Directive)) :
    let table := updates.foldl record .empty
    let alone := fun kind => (updates.filter (·.2.kind = kind)).foldl record .empty
    (∀ line, line ∈ table.errorLines ↔ 1 ≤ (updatesFor updates line .expectError).length) ∧
      (∀ line expected, table.typeAssertions.get? line = some expected ↔
        updatesFor updates line .expectType = [(line, .expectType expected)]) ∧
      (∀ line kind, ⟨line, kind⟩ ∈ table.duplicates ↔
        2 ≤ (updatesFor updates line kind).length) ∧
      table.duplicates.Nodup ∧ table.duplicates = seconds updates ∧
      (∀ line, ¬ (table.typeAssertions.contains line ∧
        ⟨line, .expectType⟩ ∈ table.duplicates)) ∧
      (∀ line, line ∈ table.errorLines ↔ line ∈ (alone .expectError).errorLines) ∧
      (∀ line, table.typeAssertions.get? line = (alone .expectType).typeAssertions.get? line) ∧
      ∀ kind, table.duplicates.filter (·.kind = kind) = (alone kind).duplicates := by
  intro table alone
  have htallies : table.Tallies updates := foldl_record_tallies updates
  have halone : ∀ kind, (alone kind).Tallies (updates.filter (·.2.kind = kind)) :=
    fun kind => foldl_record_tallies _
  have hduplicates : ∀ line kind, ⟨line, kind⟩ ∈ table.duplicates ↔
      2 ≤ (updatesFor updates line kind).length := by
    intro line kind
    rw [htallies.duplicates, mem_seconds_iff]
  refine ⟨htallies.errorLines, htallies.typeAssertions, hduplicates, ?_, htallies.duplicates, ?_,
    ?_, ?_, ?_⟩
  · rw [htallies.duplicates]
    exact nodup_seconds updates
  · rintro line ⟨hone, htwo⟩
    rw [htallies.contains_iff] at hone
    rw [hduplicates] at htwo
    omega
  · intro line
    rw [htallies.errorLines, (halone _).errorLines, updatesFor_filter]
  · intro line
    apply Option.ext
    intro expected
    rw [htallies.typeAssertions, (halone _).typeAssertions, updatesFor_filter]
  · intro kind
    rw [htallies.duplicates, (halone kind).duplicates, seconds_filter]

/-- A third type assertion does not bring a type back. -/
example :
    let updates := [(4, .expectType "A"), (4, .expectError), (4, .expectType "B"),
      (4, .expectType "A")]
    updates.foldl record .empty = ⟨[4], .empty, [⟨4, .expectType⟩]⟩ := by
  decide

end DirectiveTable

end TypeTest
