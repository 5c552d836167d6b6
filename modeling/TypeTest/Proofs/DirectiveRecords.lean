import TypeTest.Proofs.Tallies

/-!
# What the table of a file's directives holds

The table is built by going through the directives once, and its entries come and go: a second type
assertion for a line takes the first one away.  What it holds in the end depends only on how many
directives of each kind there are for a line, and `Records` says how:

* an error is expected on a line if there is an error assertion for it;
* a type is expected on a line if there is just one type assertion for it, and then it is that one;
* a line is a duplicate of a kind if there are two or more directives of that kind for it.

The directives are updates of the table, so this is what is known of updates in general
(`ofDirectives_records`).
-/

namespace TypeTest

/-- What two directives must not have in common: their line and their kind. -/
def PlacedDirective.key (placed : PlacedDirective) : Int × Directive.Kind :=
  (placed.line, placed.directive.kind)

/-- The type that a directive asserts for a line, if it does. -/
def PlacedDirective.typeFor? (line : Int) (placed : PlacedDirective) : Option String :=
  match placed.directive with
  | .expectType expected => if (placed.line : Int) = line then some expected else none
  | .expectError => none

/-- The types that some directives assert for a line, in order. -/
def typesFor (directives : List PlacedDirective) (line : Int) : List String :=
  directives.filterMap (·.typeFor? line)

/-- How many of some directives are of a kind and speak about a line. -/
def countFor (directives : List PlacedDirective) (line : Int) (kind : Directive.Kind) : Nat :=
  (directives.map (·.key)).count (line, kind)

/-! ## Directives as updates -/

/-- The update of the table that a directive asks for. -/
def PlacedDirective.update (placed : PlacedDirective) : Int × Directive :=
  (placed.line, placed.directive)

lemma length_updatesFor (directives : List PlacedDirective) (line : Int) (kind : Directive.Kind) :
    (updatesFor (directives.map (·.update)) line kind).length = countFor directives line kind := by
  rw [updatesFor, ← List.countP_eq_length_filter, countFor, List.count, List.countP_map,
    List.countP_map]
  refine List.countP_congr fun placed _ => ?_
  simp [PlacedDirective.update, PlacedDirective.key]

lemma updatesFor_expectType (directives : List PlacedDirective) (line : Int) :
    updatesFor (directives.map (·.update)) line .expectType =
      (typesFor directives line).map fun expected => (line, .expectType expected) := by
  unfold updatesFor typesFor
  induction directives with
  | nil => rfl
  | cons placed directives ih =>
    obtain ⟨number, directive⟩ := placed
    cases directive with
    | expectType expected =>
      by_cases hline : (number : Int) = line
      · simpa [PlacedDirective.update, PlacedDirective.typeFor?, Directive.kind, hline] using ih
      · simpa [PlacedDirective.update, PlacedDirective.typeFor?, hline] using ih
    | expectError =>
      simpa [PlacedDirective.update, PlacedDirective.typeFor?, Directive.kind] using ih

/-- There are as many types asserted for a line as there are type assertions for it. -/
lemma length_typesFor (directives : List PlacedDirective) (line : Int) :
    (typesFor directives line).length = countFor directives line .expectType := by
  rw [← length_updatesFor, updatesFor_expectType, List.length_map]

namespace DirectiveTable

/-- A table holds what some directives assert. -/
structure Records (table : DirectiveTable) (directives : List PlacedDirective) : Prop where
  errorLines : ∀ line, line ∈ table.errorLines ↔ 1 ≤ countFor directives line .expectError
  typeAssertions : ∀ line expected, table.typeAssertions.get? line = some expected ↔
    typesFor directives line = [expected]
  duplicates : ∀ line kind, ⟨line, kind⟩ ∈ table.duplicates ↔ 2 ≤ countFor directives line kind

lemma ofDirectives_eq (directives : List PlacedDirective) :
    ofDirectives directives = (directives.map (·.update)).foldl record .empty := by
  rw [ofDirectives, List.foldl_map]
  congr 1
  funext table placed
  obtain ⟨line, directive⟩ := placed
  cases directive with
  | expectType expected => rfl
  | expectError => rfl

/-- The table of some directives holds what they assert. -/
theorem ofDirectives_records (directives : List PlacedDirective) :
    (ofDirectives directives).Records directives := by
  have htallies := foldl_record_tallies (directives.map (·.update))
  rw [← ofDirectives_eq] at htallies
  refine ⟨fun line => ?_, fun line expected => ?_, fun line kind => ?_⟩
  · rw [htallies.errorLines, length_updatesFor]
  · rw [htallies.typeAssertions, updatesFor_expectType]
    exact List.map_eq_singleton_iff.trans (by simp)
  · rw [htallies.duplicates, mem_seconds_iff, length_updatesFor]

/-! ## Directives that do not repeat each other -/

variable {directives : List PlacedDirective}

/-- There are no duplicates exactly if no two directives are of one kind and speak about one
line. -/
theorem duplicates_eq_nil_iff :
    (ofDirectives directives).duplicates = [] ↔ (directives.map (·.key)).Nodup := by
  have hduplicates := (ofDirectives_records directives).duplicates
  rw [List.nodup_iff_count, List.eq_nil_iff_forall_not_mem]
  constructor
  · rintro hnone ⟨line, kind⟩
    have hcount : ¬ 2 ≤ countFor directives line kind :=
      fun htwo => hnone ⟨line, kind⟩ ((hduplicates line kind).2 htwo)
    unfold countFor at hcount
    omega
  · rintro hnodup ⟨line, kind⟩ hmem
    have hcount := (hduplicates line kind).1 hmem
    have hone := hnodup (line, kind)
    unfold countFor at hcount
    omega

/-- An error is expected on a line if some directive asserts it. -/
theorem mem_errorLines_iff {line : Int} :
    line ∈ (ofDirectives directives).errorLines ↔
      ∃ placed ∈ directives, placed.directive = .expectError ∧ (placed.line : Int) = line := by
  rw [(ofDirectives_records directives).errorLines, countFor, List.one_le_count_iff,
    List.mem_map]
  refine exists_congr fun placed => and_congr_right fun _ => ?_
  obtain ⟨number, directive⟩ := placed
  cases directive with
  | expectType expected => simp [PlacedDirective.key, Directive.kind]
  | expectError => simp [PlacedDirective.key, Directive.kind]

lemma mem_typesFor {line : Int} {expected : String} :
    expected ∈ typesFor directives line ↔
      ∃ placed ∈ directives, placed.directive = .expectType expected ∧
        (placed.line : Int) = line := by
  rw [typesFor, List.mem_filterMap]
  refine exists_congr fun placed => and_congr_right fun _ => ?_
  obtain ⟨number, directive⟩ := placed
  cases directive with
  | expectType other =>
    by_cases hline : (number : Int) = line
    · simp [PlacedDirective.typeFor?, hline]
    · simp [PlacedDirective.typeFor?, hline]
  | expectError => simp [PlacedDirective.typeFor?]

/-- A type is expected on a line if some directive asserts it, as long as no two of them repeat
each other. -/
theorem get?_typeAssertions_iff (hnodup : (directives.map (·.key)).Nodup) {line : Int}
    {expected : String} :
    (ofDirectives directives).typeAssertions.get? line = some expected ↔
      ∃ placed ∈ directives, placed.directive = .expectType expected ∧
        (placed.line : Int) = line := by
  rw [(ofDirectives_records directives).typeAssertions, ← mem_typesFor]
  have hlength : (typesFor directives line).length ≤ 1 := by
    rw [length_typesFor]
    exact List.nodup_iff_count.1 hnodup _
  constructor
  · intro hsingle
    rw [hsingle]
    exact List.mem_singleton.2 rfl
  · intro hmem
    have hone : (typesFor directives line).length = 1 := by
      have hpos := List.length_pos_of_mem hmem
      omega
    obtain ⟨only, hsingle⟩ := List.length_eq_one_iff.1 hone
    rw [hsingle, List.mem_singleton] at hmem
    rw [hsingle, hmem]

end DirectiveTable

end TypeTest
