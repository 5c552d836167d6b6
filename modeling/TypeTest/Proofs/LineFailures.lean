import TypeTest.Proofs.DirectivesMet
import TypeTest.Proofs.LineBreaks
import TypeTest.Proofs.Matching

/-!
# Failures of whole lines

Three kinds of failure are about the directives of a file and not about its nodes or its problems: a
line has two directives of a kind, it misses its error, or no node starts on it.  They are reported
at the line that the directive speaks about.  The number of this line is found by the scan, kept in
the table, and handed on by what sets diagnostics against expected errors and nodes against type
assertions, until it is turned into a span of the text.

A directive that is the first thing on the last line of a text speaks about a line that is not
there, the one behind the last (`Source.Asserts.line_le`).  No directive speaks about a line beyond
it.  So such a failure covers the whole content of its line, or it is an empty span at the end of
the text (`Failure.TakesUp`), whatever the checker answers (`verify_takes_up_lines`).
-/

namespace TypeTest

open TypeTest.Action

variable {σ α τ : Type}

/-! ## Lines that directives speak about -/

namespace Source

variable {source : Source}

/-- The start of a line lies on that line. -/
lemma IsLine.lineAt_eq {line start stop : Nat} (hline : source.IsLine line start stop) :
    source.lineAt start = line := by
  obtain ⟨hbound, hstart⟩ := List.getElem?_eq_some_iff.1 hline.start_eq
  rw [source.lineAt_eq_iff start hbound]
  refine ⟨by rw [hstart], fun hnext => ?_⟩
  have hascends := List.pairwise_iff_getElem.1 source.lineStarts_ascending line (line + 1) hbound
    hnext (Nat.lt_succ_self line)
  rw [hstart] at hascends
  exact Int.ofNat_lt.2 hascends

/-- A line ends in the text. -/
lemma IsLine.stop_le {line start stop : Nat} (hline : source.IsLine line start stop) :
    stop ≤ source.length := by
  have hcount : line < source.lineCount := by
    rw [← length_lineStarts]
    exact (List.getElem?_eq_some_iff.1 hline.start_eq).1
  rcases Nat.lt_or_eq_of_le (Nat.succ_le_of_lt hcount) with hmore | hlast
  · obtain ⟨next, -, -, hbreak, -⟩ := hline.terminator hmore
    refine Nat.le_of_not_lt fun hbehind => ?_
    -- behind the end of the text no line break stands
    have hempty : source.chars.extract stop next = [] := by
      rw [List.extract_eq_take_drop, List.drop_eq_nil_of_le (Nat.le_of_lt hbehind), List.take_nil]
    rw [hempty] at hbreak
    exact absurd hbreak (by decide)
  · exact Nat.le_of_eq (hline.last hlast)

/-- A directive that is the first thing on the last line of a source. -/
def OpensLastLine (source : Source) (place : Nat) : Prop :=
  ∃ comment, source.tokens[place]? = some comment ∧
    source.lineAt comment.start + 1 = source.lineCount ∧
    ¬ source.Shared (source.tokens.take place) comment.start

/-- A directive speaks about a line that is there, or it opens the last line and speaks about the
one behind it. -/
lemma Asserts.line_le {place : Nat} {directive : Directive} {line : Int}
    (hasserts : source.Asserts place directive line) :
    0 ≤ line ∧ (line < source.lineCount ∨
      line = source.lineCount ∧ source.OpensLastLine place) := by
  obtain ⟨comment, hcomment, -, -, htarget⟩ := hasserts
  have hnonneg := source.target_nonneg (source.tokens.take place) comment.start
  obtain ⟨number, hnumber, hat⟩ := source.exists_lineAt_eq comment.start
  rw [length_lineStarts] at hnumber
  refine ⟨htarget ▸ hnonneg, ?_⟩
  unfold target at htarget
  split at htarget
  · exact .inl (by omega)
  · rename_i hopens
    rcases Nat.lt_or_eq_of_le (Nat.succ_le_of_lt hnumber) with hmore | hlast
    · exact .inl (by omega)
    · exact .inr ⟨by omega, comment, hcomment, by omega, hopens⟩

end Source

/-! ## Spans of lines -/

/-- The kinds of failure that are about a line as a whole. -/
def Failure.Kind.ofLines : List Failure.Kind :=
  [.duplicateAssertion, .missingExpectedError, .unmatchedAssertion]

/-- A failure is about a directive: it says that there are two of this kind, or that the error or
the node is not there of which the directive speaks. -/
def Failure.Concerns (failure : Failure) (directive : Directive) : Prop :=
  match failure.kind with
  | .duplicateAssertion => failure.message = duplicateMessage directive.kind
  | .missingExpectedError => directive.kind = .expectError
  | .unmatchedAssertion => directive.kind = .expectType
  | .unexpectedDiagnostic | .typeMismatch => False

/-- A failure takes up a line, from `start` to `stop`.  There is no line end between them.  If the
line is there, they are the ends of its content, and if not, it is the line behind the last one and
both are the end of the text. -/
structure Failure.TakesUp (failure : Failure) (source : Source) (line start stop : Nat) :
    Prop where
  start_eq : failure.start = start
  stop_eq : failure.stop = stop
  start_le : start ≤ stop
  stop_le : stop ≤ source.length
  unbroken : ∀ c ∈ source.chars.extract start stop, c ≠ '\r' ∧ c ≠ '\n'
  inside : line < source.lineCount → source.lineAt start = line ∧
    source.lines[line]? = some (String.ofList (source.chars.extract start stop))
  behind : source.lineCount ≤ line → line = source.lineCount ∧ start = source.length ∧
    stop = source.length

/-- The failure of a line that a directive may speak about takes up this line. -/
lemma Subject.takesUp_failureOnLine (subject : Subject) {line : Nat}
    (hline : line ≤ subject.source.lineCount) (message : CodeText) (kind : Failure.Kind) :
    ∃ start stop,
      (subject.failureOnLine line message kind).TakesUp subject.source line start stop := by
  rcases Nat.lt_or_eq_of_le hline with hinside | hbehind
  · obtain ⟨start, stop, hstarts⟩ := subject.source.exists_isLine hinside
    refine ⟨start, stop, ?_, ?_, hstarts.start_le, hstarts.stop_le, hstarts.content,
      fun _ => ⟨hstarts.lineAt_eq, hstarts.content_eq⟩,
      fun hmore => absurd hinside (Nat.not_lt.2 hmore)⟩
    · simp only [failureOnLine, hstarts.span_eq, Option.getD_some, failureAt]
    · simp only [failureOnLine, hstarts.span_eq, Option.getD_some, failureAt, Failure.stop]
      omega
  · have hspan : subject.source.spanOfLine? line =
        some (subject.source.length, subject.source.length) :=
      subject.source.spanOfLine?_of_lineCount_le (Int.ofNat_le.2 (Nat.le_of_eq hbehind.symm))
    refine ⟨subject.source.length, subject.source.length, ?_, ?_, Nat.le_refl _, Nat.le_refl _, ?_,
      fun hmore => absurd hmore (Nat.not_lt.2 (Nat.le_of_eq hbehind.symm)),
      fun _ => ⟨hbehind, rfl, rfl⟩⟩
    · simp only [failureOnLine, hspan, Option.getD_some, failureAt]
    · simp only [failureOnLine, hspan, Option.getD_some, failureAt, Failure.stop]
      omega
    · rw [List.extract_eq_take_drop, Nat.sub_self, List.take_zero]
      exact fun _ hmem => nomatch hmem

/-- A problem that no directive expects is reported as that. -/
lemma Subject.kind_unexpected (subject : Subject) (diagnostic : Diagnostic) :
    (subject.unexpected diagnostic).kind = .unexpectedDiagnostic := by
  unfold unexpected
  cases diagnostic.start with
  | none => rfl
  | some start =>
    dsimp only
    split <;> rfl

/-! ## The lines of what is found -/

namespace DirectiveTable

variable {source : Source}

/-- A line is flagged because of some directive of the kind that it is flagged for. -/
lemma exists_asserts_of_mem_duplicates {line : Int} {kind : Directive.Kind}
    (hmem : ⟨line, kind⟩ ∈ (ofSource source).duplicates) :
    ∃ place directive, source.Asserts place directive line ∧ directive.kind = kind := by
  have htwo : 2 ≤ countFor source.directives line kind :=
    ((ofDirectives_records source.directives).duplicates line kind).1 hmem
  have hkey : (line, kind) ∈ source.directives.map (·.key) :=
    List.count_pos_iff.1 (Nat.lt_of_lt_of_le Nat.two_pos htwo)
  obtain ⟨placed, hplaced, hsame⟩ := List.mem_map.1 hkey
  obtain ⟨hline, hkind⟩ := Prod.mk.inj hsame
  obtain ⟨place, hasserts⟩ := Source.mem_directives_iff.1 ⟨placed, hplaced, rfl, hline⟩
  exact ⟨place, placed.directive, hasserts, hkind⟩

/-- A type is expected on a line because of some directive. -/
lemma exists_asserts_of_get?_typeAssertions {line : Int} {expected : String}
    (hget : (ofSource source).typeAssertions.get? line = some expected) :
    ∃ place, source.Asserts place (.expectType expected) line := by
  have htypes : typesFor source.directives line = [expected] :=
    ((ofDirectives_records source.directives).typeAssertions line expected).1 hget
  refine Source.mem_directives_iff.1 (mem_typesFor.1 ?_)
  rw [htypes]
  exact List.mem_singleton.2 rfl

end DirectiveTable

/-- The lines that an examination finds fault with are lines that directives speak about. -/
structure Examination.Asserted (found : Examination α) : Prop where
  duplicates : ∀ duplicate ∈ found.duplicates, ∃ place directive,
    found.source.Asserts place directive duplicate.line ∧ directive.kind = duplicate.kind
  missing : ∀ line ∈ found.missing, ∃ place, found.source.Asserts place .expectError line
  unpaired : ∀ line ∈ found.unpaired, ∃ place expected,
    found.source.Asserts place (.expectType expected) line

/-- The lines left without a node are those of the walk, whatever the types are. -/
lemma unpaired_of_matchTypes {checker : Checker σ α τ} {source : Source} {root : Node α}
    {assertions : Assoc Int String} {world : σ} {types : TypeMatch α}
    (htypes : ends (matchTypes checker source root assertions) world = .ok types) :
    types.unpaired = (pairNodes source assertions root.children).2.keys.mergeSort := by
  unfold matchTypes at htypes
  obtain ⟨unmet, -, hreturned⟩ := ends_bind_eq_ok_iff.1 htypes
  rw [← Except.ok.inj hreturned]

namespace Checker

variable {checker : Checker σ α τ} {file : String} {world : σ} {found : Examination α}

lemma asserted_of_examineDirectives {source : Source} {diagnostics : List Diagnostic}
    (hfound : ends (checker.examineDirectives file source diagnostics) world = .ok found) :
    found.source = source ∧ found.Asserted := by
  unfold examineDirectives at hfound
  obtain ⟨root, -, hfound⟩ := ends_bind_eq_ok_iff.1 hfound
  obtain ⟨types, htypes, hfound⟩ := ends_bind_eq_ok_iff.1 hfound
  obtain rfl := Except.ok.inj hfound
  refine ⟨rfl, fun _ hmem => DirectiveTable.exists_asserts_of_mem_duplicates hmem,
    fun line hmem => ?_, fun line hmem => ?_⟩
  · exact DirectiveTable.mem_errorLines_ofSource.1 (ErrorMatch.mem_missing_iff.1 hmem).1
  · dsimp only at hmem
    rw [unpaired_of_matchTypes htypes, mem_unpaired_iff] at hmem
    obtain ⟨expected, hget⟩ := Option.isSome_iff_exists.1 hmem.1
    obtain ⟨place, hasserts⟩ := DirectiveTable.exists_asserts_of_get?_typeAssertions hget
    exact ⟨place, expected, hasserts⟩

/-- An examination finds fault with lines that the directives of the text speak about. -/
lemma asserted_of_examine (hfound : ends (checker.examine file) world = .ok found) :
    ∃ text, ends (checker.sourceText file) world = .ok text ∧ found.source = .ofString text ∧
      found.Asserted := by
  obtain ⟨text, htext, hfound⟩ := ends_bind_eq_ok_iff.1 hfound
  obtain ⟨diagnostics, -, hfound⟩ := ends_bind_eq_ok_iff.1 hfound
  obtain ⟨declares, -, hfound⟩ := ends_bind_eq_ok_iff.1 hfound
  refine ⟨text, htext, ?_⟩
  split at hfound
  · obtain rfl := Except.ok.inj hfound
    exact ⟨rfl, { duplicates := nofun, missing := nofun, unpaired := nofun }⟩
  · exact asserted_of_examineDirectives hfound

end Checker

/-- Behind each failure of a line that is reported stands a directive, and the failure takes up the
line that this directive speaks about. -/
lemma Examination.Asserted.takesUp {found : Examination α} (hasserted : found.Asserted)
    {file : String} {stamp : Stamp} {failure : Failure}
    (hmem : failure ∈ found.failures file stamp) (hkind : failure.kind ∈ Failure.Kind.ofLines) :
    ∃ place directive, ∃ line start stop : Nat, found.source.Asserts place directive line ∧
      failure.Concerns directive ∧ failure.TakesUp found.source line start stop := by
  -- one argument for the three kinds of line failures
  have hline : ∀ {place : Nat} {directive : Directive} {line : Int} {message : CodeText}
      {kind : Failure.Kind}, found.source.Asserts place directive line →
      let reported := Subject.failureOnLine ⟨file, found.source, stamp⟩ line message kind
      reported.Concerns directive → ∃ place directive, ∃ line start stop : Nat,
        found.source.Asserts place directive line ∧ reported.Concerns directive ∧
          reported.TakesUp found.source line start stop := by
    intro place directive line message kind hasserts reported hconcerns
    obtain ⟨hnonneg, hbound⟩ := hasserts.line_le
    obtain ⟨number, rfl⟩ := Int.eq_ofNat_of_zero_le hnonneg
    obtain ⟨start, stop, htakes⟩ :=
      Subject.takesUp_failureOnLine ⟨file, found.source, stamp⟩
        (show number ≤ found.source.lineCount by omega) message kind
    exact ⟨place, directive, number, start, stop, hasserts, hconcerns, htakes⟩
  simp only [failures, List.mem_append, List.mem_map] at hmem
  rcases hmem with (((⟨duplicate, hduplicate, rfl⟩ | ⟨diagnostic, -, rfl⟩) | ⟨line, hmissing, rfl⟩)
    | ⟨unmet, -, rfl⟩) | ⟨line, hunpaired, rfl⟩
  · obtain ⟨place, directive, hasserts, hsame⟩ := hasserted.duplicates duplicate hduplicate
    exact hline hasserts (congrArg (Failure.duplicateMessage · : _ → CodeText) hsame.symm)
  · rw [Subject.kind_unexpected] at hkind
    exact absurd hkind (by decide)
  · obtain ⟨place, hasserts⟩ := hasserted.missing line hmissing
    exact hline hasserts rfl
  · exact absurd (show Failure.Kind.typeMismatch ∈ Failure.Kind.ofLines from hkind) (by decide)
  · obtain ⟨place, expected, hasserts⟩ := hasserted.unpaired line hunpaired
    exact hline hasserts rfl

/-- **A failure of a line points at its line.**  Let a checker answer as it likes, and let the
verification of a file end with failures.  No directive in the text that the checker gave speaks
about a line behind the one that follows the last, and only one that opens the last line speaks
about that.  Each failure of a line that is reported is about a directive in the text and takes up
the line that this directive speaks about: all of its content, or, if the line is not there, nothing
at the end of the text. -/
theorem verify_takes_up_lines {checker : Checker σ α τ} {file : String} {stamp : Stamp} {world : σ}
    {failures : List Failure}
    (hverify : ends (checker.verify file stamp) world = .ok failures) :
    ∃ text, ends (checker.sourceText file) world = .ok text ∧
      let source := Source.ofString text
      (∀ place directive line, source.Asserts place directive line →
        0 ≤ line ∧ (line < source.lineCount ∨
          line = source.lineCount ∧ source.OpensLastLine place)) ∧
      ∀ failure ∈ failures, failure.kind ∈ Failure.Kind.ofLines →
        ∃ place directive, ∃ line start stop : Nat, source.Asserts place directive line ∧
          failure.Concerns directive ∧ failure.TakesUp source line start stop := by
  rw [Checker.verify_eq_examine, ends_map] at hverify
  cases hfound : ends (checker.examine file) world with
  | error fault =>
    rw [hfound] at hverify
    exact nomatch hverify
  | ok found =>
    rw [hfound] at hverify
    obtain rfl := Except.ok.inj hverify
    obtain ⟨text, htext, hsource, hasserted⟩ := Checker.asserted_of_examine hfound
    refine ⟨text, htext, fun _ _ _ hasserts => hasserts.line_le, fun failure hmem hkind => ?_⟩
    rw [← hsource]
    exact hasserted.takesUp hmem hkind

/-- Two type assertions for the third line, one for the first line, and an error asserted for the
line behind the last.  The line breaks have two characters. -/
def brokenText : String :=
  "f; // $ExpectType F\r\n// $ExpectType A\r\ng; // $ExpectType B\r\n// $ExpectError"

/-- A checker that gives this text, and sees neither a node nor a problem in it. -/
def brokenChecker : Checker Unit Unit String :=
  Answers.checker {
    sourceText _ := brokenText
    isDeclarationFile _ := false
    syntaxTree _ := .mk "SourceFile" 0 75 () [] none
    diagnostics _ := []
    typeOf _ := ""
    renderType type _ := type }

/-- The failures of that text. -/
def brokenFailures : List Failure :=
  let failure (start length : Int) (message : CodeText) (kind : Failure.Kind) : Failure :=
    { start, length, message, kind, file := "broken.ts", version := some nextVersion }
  [failure 39 19 (Failure.duplicateMessage .expectType) .duplicateAssertion,
    failure 75 0 Failure.missingErrorMessage .missingExpectedError,
    failure 0 19 Failure.unmatchedMessage .unmatchedAssertion]

/-- The third line and the first one are taken up, without their breaks, and the one behind the
last. -/
theorem verify_takes_up_lines_broken :
    ends (brokenChecker.verify "broken.ts" { version := nextVersion }) () = .ok brokenFailures ∧
      ∀ failure ∈ brokenFailures, ∃ place directive, ∃ line start stop : Nat,
        (Source.ofString brokenText).Asserts place directive line ∧ failure.Concerns directive ∧
          failure.TakesUp (.ofString brokenText) line start stop := by
  have hverify : ends (brokenChecker.verify "broken.ts" { version := nextVersion }) () =
      .ok brokenFailures := by
    decide +kernel
  obtain ⟨text, htext, -, htakes⟩ := verify_takes_up_lines hverify
  obtain rfl : brokenText = text := Except.ok.inj htext
  have hkinds : ∀ failure ∈ brokenFailures, failure.kind ∈ Failure.Kind.ofLines := by decide
  exact ⟨hverify, fun failure hmem => htakes failure hmem (hkinds failure hmem)⟩

end TypeTest
