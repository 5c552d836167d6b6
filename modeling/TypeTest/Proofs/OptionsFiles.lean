import Mathlib.Tactic.SplitIfs
import TypeTest.Proofs.Json.Spelling
import TypeTest.Proofs.OptionsReading

/-!
# Options in files

A file may be missing, its bytes may be no text, the text may spell no value, and the value may be
no object.  `Json.HeldBy` says of the content of a file that none of the first three is the case.
Each of them is a fault of reading (`Options.readData_of_not_held`), and is caught.  Asking data
that are no object can end in a fault that is not about options, too; but a file is refused before
that happens, so loading it ends with options or with an error of the configuration
(`Options.load_contained`).  The cause that a file cannot be read is given for the three reasons
only: what is wrong with an object has other codes (`Options.code_of_mem_violations`).
-/

namespace TypeTest

/-! ## What a file holds -/

/-- The text of some bytes is the one that has them as its UTF-8. -/
lemma fromUTF8?_eq_some_iff {bytes : ByteArray} {text : String} :
    String.fromUTF8? bytes = some text ↔ bytes = text.toUTF8 := by
  unfold String.fromUTF8?
  split
  · rename_i hvalid
    rw [Option.some.injEq]
    refine ⟨fun hsame => hsame ▸ rfl, ?_⟩
    rintro rfl
    rfl
  · rename_i hinvalid
    refine ⟨nofun, ?_⟩
    rintro rfl
    exact absurd text.isValidUTF8 hinvalid

/-- A file holds a value: it can be read, its bytes are the UTF-8 of a text, and the text spells the
value. -/
def Json.HeldBy (value : Json) (content : Except String ByteArray) : Prop :=
  ∃ text : String, content = .ok text.toUTF8 ∧ value.SpelledBy text

namespace Options

variable {file : String} {refusal : ByteArray → String} {content : Except String ByteArray}

/-- The value in a file is read. -/
lemma readData_eq_ok_iff {value : Json} :
    readData refusal content = .ok value ↔ value.HeldBy content := by
  cases content with
  | error reason =>
    refine ⟨nofun, ?_⟩
    rintro ⟨text, hcontent, -⟩
    cases hcontent
  | ok bytes =>
    have hvalue : readData refusal (.ok bytes) = .ok value ↔
        (String.fromUTF8? bytes).bind Json.read? = some value := by
      rw [readData]
      cases (String.fromUTF8? bytes).bind Json.read? with
      | none => exact ⟨nofun, nofun⟩
      | some other =>
        exact ⟨fun hok => congrArg some (Except.ok.inj hok),
          fun hsome => congrArg Except.ok (Option.some.inj hsome)⟩
    rw [hvalue, Option.bind_eq_some_iff]
    simp only [fromUTF8?_eq_some_iff, Json.read?_eq_some_iff]
    constructor
    · rintro ⟨text, rfl, hspelled⟩
      exact ⟨text, rfl, hspelled⟩
    · rintro ⟨text, hcontent, hspelled⟩
      exact ⟨text, Except.ok.inj hcontent, hspelled⟩

/-- Where there is no value, there is a reason for it, and it is one of two kinds of fault. -/
lemma readData_of_not_held (refusal : ByteArray → String)
    (hnone : ¬ ∃ value : Json, value.HeldBy content) :
    ∃ reason, readData refusal content = .error (.unreadable reason) ∨
      readData refusal content = .error (.notData reason) := by
  cases content with
  | error reason => exact ⟨reason, .inl rfl⟩
  | ok bytes =>
    refine ⟨refusal bytes, .inr ?_⟩
    cases hvalue : (String.fromUTF8? bytes).bind Json.read? with
    | none => rw [readData, hvalue]; rfl
    | some value =>
      have hread : readData refusal (.ok bytes) = .ok value := by rw [readData, hvalue]; rfl
      exact absurd ⟨value, readData_eq_ok_iff.1 hread⟩ hnone

/-! ## What is wrong with an object -/

lemma code_of_mem_installFaults {installs : Json} {cause : OptionsError}
    (hmem : cause ∈ installFaults installs) : cause.code ≠ .unreadableOptions := by
  cases installs with
  | arr entries =>
    rw [installFaults, List.mem_append, List.mem_append] at hmem
    rcases hmem with hincomplete | hlacking | hclash
    · obtain ⟨⟨entry, index⟩, -, hcause⟩ := List.mem_filterMap.1 hincomplete
      dsimp only at hcause
      split at hcause
      · cases hcause
      · rw [← Option.some.inj hcause]
        simp [OptionsError.code]
    · unfold lacking at hlacking
      split at hlacking
      · rw [List.mem_singleton.1 hlacking]
        simp [OptionsError.code]
      · exact absurd hlacking List.not_mem_nil
    · obtain ⟨⟨name, place⟩, -, hcause⟩ := List.mem_filterMap.1 hclash
      dsimp only [clash?] at hcause
      split_ifs at hcause
      · rw [← Option.some.inj hcause]
        simp [OptionsError.code]
      · rw [← Option.some.inj hcause]
        simp [OptionsError.code]
  | _ =>
    rw [List.mem_singleton.1 hmem]
    simp [OptionsError.code]

/-- No violation of an object is that a file cannot be read. -/
lemma code_of_mem_violations {members : List (CodeText × Json)} {cause : OptionsError}
    (hmem : cause ∈ violations members) : cause.code ≠ .unreadableOptions := by
  rcases List.mem_append.1 hmem with hrequired | hinstalls
  · obtain ⟨key, -, habsent⟩ := List.mem_flatMap.1 hrequired
    unfold absent at habsent
    split at habsent
    · rw [List.mem_singleton.1 habsent]
      simp [OptionsError.code]
    · exact absurd habsent List.not_mem_nil
  · obtain ⟨installs, -, hfault⟩ := List.mem_flatMap.1 hinstalls
    exact code_of_mem_installFaults hfault

/-- An object is not refused as a file that cannot be read, and with no fault but an error of the
configuration. -/
lemma exists_cause_of_ofJson {members : List (CodeText × Json)} {fault : Fault}
    (herror : ofJson (.obj members) = .error fault) :
    ∃ cause, fault = .options cause ∧ cause.code ≠ .unreadableOptions := by
  obtain ⟨cause, hhead, hfault⟩ := (ofJson_refusedBy members fault).1 herror
  exact ⟨cause, hfault, code_of_mem_violations (List.mem_of_mem_head? hhead)⟩

/-! ## Loading -/

/-- Both kinds of fault of reading are caught. -/
lemma load_of_not_held (file : String) (refusal : ByteArray → String)
    (hnone : ¬ ∃ value : Json, value.HeldBy content) :
    ∃ reason, load file refusal content = .error (.options (.unreadable file reason)) := by
  obtain ⟨reason, hread | hread⟩ := readData_of_not_held refusal hnone
  · refine ⟨reason, ?_⟩
    rw [load, hread]
    rfl
  · refine ⟨reason, ?_⟩
    rw [load, hread]
    rfl

/-- What is loaded from a file that holds a value. -/
lemma load_of_held {value : Json} (hheld : value.HeldBy content) :
    load file refusal content = match value with
      | .obj members => ofJson (.obj members)
      | _ => .error (.options (.notAnObject file)) := by
  rw [load, readData_eq_ok_iff.2 hheld]
  cases value with
  | _ => rfl

lemma load_of_not_obj {value : Json} (hheld : value.HeldBy content)
    (hdata : value.members? = none) :
    load file refusal content = .error (.options (.notAnObject file)) := by
  rw [load_of_held hheld]
  cases value with
  | obj members => exact nomatch hdata
  | _ => rfl

/-- Whatever a file holds, only errors of the configuration end its loading; that it cannot be read
is the error only if it holds nothing. -/
lemma exists_cause_of_load {fault : Fault} (herror : load file refusal content = .error fault) :
    ∃ cause, fault = .options cause ∧
      (cause.code = .unreadableOptions → ¬ ∃ value : Json, value.HeldBy content) := by
  by_cases hheld : ∃ value : Json, value.HeldBy content
  · obtain ⟨value, hvalue⟩ := hheld
    cases hdata : value.members? with
    | none =>
      rw [load_of_not_obj hvalue hdata] at herror
      exact ⟨_, (Except.error.inj herror).symm, nofun⟩
    | some members =>
      cases value with
      | obj members =>
        rw [load_of_held hvalue] at herror
        obtain ⟨cause, rfl, hcode⟩ := exists_cause_of_ofJson herror
        exact ⟨cause, rfl, fun hunreadable => absurd hunreadable hcode⟩
      | _ => exact nomatch hdata
  · obtain ⟨reason, hload⟩ := load_of_not_held file refusal hheld
    rw [hload] at herror
    exact ⟨_, (Except.error.inj herror).symm, fun _ => hheld⟩

/-- **Whatever a file holds, loading it is contained.**  It ends with consistent options or with an
error of the configuration, and with no other fault.  The error is EXP-1006 exactly if the file is
missing or its bytes are not the UTF-8 of a text that spells a value.  A value that is no object
gives EXP-1002.  For an object the file ends as the object itself does, with the same options or the
same fault. -/
theorem load_contained (file : String) (refusal : ByteArray → String)
    (content : Except String ByteArray) :
    ((∃ options : Options, load file refusal content = .ok options ∧ options.older ≠ [] ∧
        (options.older.map (·.version)).Nodup ∧
        nextVersion ∉ options.older.map (·.version)) ∨
      ∃ cause, load file refusal content = .error (.options cause) ∧
        (Fault.options cause).report? = some ⟨.configuration, cause.message, cause.code⟩) ∧
    ((∃ cause, load file refusal content = .error (.options cause) ∧
        cause.code.label = "EXP-1006") ↔
      ¬ ∃ value : Json, value.HeldBy content) ∧
    (∀ value : Json, value.HeldBy content → value.members? = none →
      ∃ cause, load file refusal content = .error (.options cause) ∧
        cause.code.label = "EXP-1002") ∧
    ∀ members, (Json.obj members).HeldBy content →
      load file refusal content = ofJson (.obj members) := by
  have hcode (code : ErrorCode) : code.label = "EXP-1006" ↔ code = .unreadableOptions := by
    cases code
    all_goals decide
  have hinvalid : ErrorCode.invalidOption.label = "EXP-1002" := by decide
  refine ⟨?_, ⟨?_, ?_⟩, ?_, fun members hheld => load_of_held hheld⟩
  · cases hload : load file refusal content with
    | ok options =>
      refine .inl ⟨options, rfl, options.nonempty, options.distinct, fun hmem => ?_⟩
      obtain ⟨install, hinstall, hname⟩ := List.mem_map.1 hmem
      exact options.unreserved install hinstall hname
    | error fault =>
      obtain ⟨cause, rfl, -⟩ := exists_cause_of_load hload
      exact .inr ⟨cause, rfl, rfl⟩
  · rintro ⟨cause, herror, hlabel⟩
    obtain ⟨other, hsame, hnone⟩ := exists_cause_of_load herror
    obtain rfl := Fault.options.inj hsame
    exact hnone ((hcode _).1 hlabel)
  · intro hnone
    obtain ⟨reason, hload⟩ := load_of_not_held file refusal hnone
    exact ⟨_, hload, (hcode _).2 rfl⟩
  · exact fun value hheld hdata => ⟨_, load_of_not_obj hheld hdata, hinvalid⟩

/-- A list gives no options, and neither does a text that breaks off. -/
example : load "expect.json" (fun _ => "cut") (.ok "[1, 2]".toUTF8) =
      .error (.options (.notAnObject "expect.json")) ∧
    load "expect.json" (fun _ => "cut") (.ok "\x7bnot json".toUTF8) =
      .error (.options (.unreadable "expect.json" "cut")) := by
  decide +kernel

end Options

end TypeTest
