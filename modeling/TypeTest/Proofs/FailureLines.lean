import TypeTest.Failure
import TypeTest.Proofs.Json.Printing

/-!
# Failures on one line

A failure is handed on as a data value on one line of text.  Nothing is lost on the way: the value
of a failure whose texts are made of characters is faithful (`Failure.faithful_toJson`), as it has
only texts, integers and nothing in it, so that the line can be read as this value and as no other;
and the value says all about the failure (`Failure.toJson_inj`).  So failures with the same line are
the same.  A surrogate that stands alone is another matter: where two halves meet, they are read as
one character.
-/

namespace TypeTest

/-- Nothing is told apart from every text, that of its name as well. -/
lemma Json.ofText?_inj {text other : Option CodeText} :
    Json.ofText? text = Json.ofText? other ↔ text = other := by
  cases text with
  | none =>
    cases other with
    | none => exact iff_of_true rfl rfl
    | some other => exact iff_of_false nofun nofun
  | some text =>
    cases other with
    | none => exact iff_of_false nofun nofun
    | some other =>
      rw [Json.ofText?, Json.ofText?, Json.str.injEq, Option.some.injEq]

namespace Failure

lemma Kind.label_inj {kind other : Kind} : kind.label = other.label ↔ kind = other := by
  refine ⟨fun hsame => Option.some.inj ?_, fun hsame => hsame ▸ rfl⟩
  rw [← Kind.ofLabel?_label kind, hsame, Kind.ofLabel?_label]

/-- The data value of a failure says all about it. -/
lemma toJson_inj {failure other : Failure} : failure.toJson = other.toJson ↔ failure = other := by
  refine ⟨fun hsame => ?_, fun hsame => hsame ▸ rfl⟩
  obtain ⟨start, length, message, kind, file, version, above⟩ := failure
  obtain ⟨start', length', message', kind', file', version', above'⟩ := other
  simp only [toJson, Json.obj.injEq, List.cons.injEq, Prod.mk.injEq, true_and, and_true,
    Json.str.injEq, Json.int.injEq, CodeText.ofString_inj, Kind.label_inj, Json.ofText?_inj]
    at hsame
  obtain ⟨rfl, rfl, rfl, rfl, rfl, rfl, rfl⟩ := hsame
  rfl

/-- The keys of the data value of a failure, in their order. -/
def jsonKeys : List String :=
  ["file", "start", "length", "kind", "message", "version", "nextHigherVersion"]

/-- The texts of a failure are made of characters: no surrogate stands alone in them. -/
def IsUnicode (failure : Failure) : Prop :=
  ∀ text ∈ failure.message :: (failure.version.toList ++ failure.above.toList),
    ∀ code ∈ text.codes, code.isValidChar

instance (failure : Failure) : Decidable failure.IsUnicode :=
  List.decidableBAll (fun text : CodeText => ∀ code ∈ text.codes, code.isValidChar) _

/-- Nothing of such a failure is lost in print. -/
lemma faithful_toJson {failure : Failure} (hunicode : failure.IsUnicode) :
    failure.toJson.Faithful := by
  obtain ⟨hmessage, hothers⟩ := List.forall_mem_cons.1 hunicode
  obtain ⟨hversion, habove⟩ := List.forall_mem_append.1 hothers
  have hkeys : (jsonKeys.map CodeText.ofString).Nodup := by decide
  have htext (text : String) : ∀ code ∈ (CodeText.ofString text).codes, code.isValidChar :=
    Json.isValidChar_of_mem_ofString
  have hoptional {text? : Option CodeText}
      (hvalid : ∀ text ∈ text?.toList, ∀ code ∈ text.codes, code.isValidChar) :
      (Json.ofText? text?).Faithful := by
    cases text? with
    | none => trivial
    | some text => exact hvalid text List.mem_cons_self
  exact ⟨hkeys, htext _, htext _, htext _, trivial, htext _, trivial, htext _, htext _,
    htext _, hmessage, htext _, hoptional hversion, htext _, hoptional habove, trivial⟩

/-- **The line of a failure tells all about it.**  It is one line of printable ASCII, whatever the
texts of the failure are.  If they are made of characters, the line spells the data value of the
failure and no other value, and this value is read from it: an object with seven members, each under
its key.  No other failure made of characters has this line. -/
theorem toJsonLine_round_trip (failure : Failure) :
    (∀ c ∈ failure.toJsonLine.toList, ' ' ≤ c ∧ c ≤ '~') ∧
      (failure.IsUnicode →
        (∀ value : Json, value.SpelledBy failure.toJsonLine ↔ value = failure.toJson) ∧
        Json.read? failure.toJsonLine = some failure.toJson ∧
        (∃ members, failure.toJson = .obj members ∧
          members.map (·.1) = jsonKeys.map CodeText.ofString) ∧
        ∀ other : Failure, other.IsUnicode →
          (other.toJsonLine = failure.toJsonLine ↔ other = failure)) := by
  have hread {failure : Failure} (hunicode : failure.IsUnicode) :
      Json.read? failure.toJsonLine = some failure.toJson :=
    Json.read?_line (faithful_toJson hunicode)
  refine ⟨fun c hmem => ?_, fun hunicode => ⟨fun value => ?_, hread hunicode, ⟨_, rfl, rfl⟩,
    fun other hother => ?_⟩⟩
  · rw [toJsonLine, Json.line, String.toList_ofList] at hmem
    exact Json.printable_print failure.toJson c hmem
  · rw [← Json.read?_eq_some_iff, hread hunicode, Option.some.injEq, eq_comm]
  · refine ⟨fun hsame => ?_, fun hsame => hsame ▸ rfl⟩
    rw [← toJson_inj, ← Option.some.injEq, ← hread hother, hsame, hread hunicode]

/-- Quotes and breaks are escaped, and a character beyond U+FFFF by two surrogates; a version that
is not there is not the one that is called null. -/
theorem toJsonLine_round_trip_escapes :
    let failure : Failure := {
      start := -1
      length := 0
      message := "\"\n😀"
      kind := .typeMismatch
      file := "a.ts"
      above := some "null" }
    failure.IsUnicode ∧
      failure.toJsonLine =
        "\x7b\"file\": \"a.ts\", \"start\": -1, \"length\": 0, \"kind\": \"typeMismatch\", " ++
          "\"message\": \"\\\"\\n\\ud83d\\ude00\", \"version\": null, " ++
          "\"nextHigherVersion\": \"null\"\x7d" ∧
      Json.read? failure.toJsonLine = some failure.toJson ∧
      { failure with above := none }.toJsonLine ≠ failure.toJsonLine := by
  intro failure
  have hunicode : failure.IsUnicode := by decide
  have hother : { failure with above := none }.IsUnicode := by decide
  obtain ⟨-, hround⟩ := failure.toJsonLine_round_trip
  obtain ⟨-, hread, -, hsame⟩ := hround hunicode
  exact ⟨hunicode, by decide +kernel, hread,
    fun hline => absurd ((hsame _ hother).1 hline) (by decide)⟩

end Failure

end TypeTest
