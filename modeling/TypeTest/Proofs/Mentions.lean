import TypeTest.Proofs.DirectivesMet

/-!
# Files in which no directive is mentioned

A file in which no directive is mentioned is not scanned.  This spares the work of a scan, and it is
all that it does.  `Checker.verifyScanning` verifies a file without looking for a mention first, and
`ends_verify_eq_verifyScanning` says that it ends with the same failures, in the same order.

There are two sides to it.  Looking for a mention misses no directive, as a directive is found where
its text stands (`Source.directives_eq_nil_of_not_mentioned`).  And a scan that finds no directive
has nothing to report but the diagnostics, all of them and in their order
(`Checker.verifyDirectives_of_no_directives`); besides, it asks for the tree of the file, and
for the type of no node.
-/

namespace TypeTest

open TypeTest.Action

variable {σ α τ : Type}

/-! ## Nothing mentioned, nothing asserted -/

/-- A text in which no directive is mentioned has none. -/
theorem Source.directives_eq_nil_of_not_mentioned {source : Source}
    (hmentioned : Directive.mentionedIn source.chars = false) : source.directives = [] := by
  refine List.eq_nil_iff_forall_not_mem.2 fun placed hmem => ?_
  obtain ⟨place, hasserts⟩ := Source.mem_directives_iff.1 ⟨placed, hmem, rfl, rfl⟩
  rw [mentionedIn_of_asserts hasserts] at hmentioned
  cases hmentioned

/-- Where no error is expected, every diagnostic is unexpected. -/
lemma ErrorMatch.ofDiagnostics_nil (diagnostics : List Diagnostic) (flaggedLines : List Int)
    (source : Source) (file : String) :
    ofDiagnostics diagnostics [] flaggedLines source file = { unexpected := diagnostics } := by
  let errors := ofDiagnostics diagnostics [] flaggedLines source file
  have hunexpected : errors.unexpected = diagnostics := by
    have hnever : ∀ diagnostic : Diagnostic, diagnostic.isExpected [] file source = false := by
      intro diagnostic
      simp [Diagnostic.isExpected]
    simp only [errors, unexpected_eq, hnever, Bool.not_false, List.filter_true]
  have hmissing : errors.missing = [] := by
    refine List.eq_nil_iff_forall_not_mem.2 fun line hmem => ?_
    exact List.not_mem_nil (mem_missing_iff.1 hmem).1
  calc errors = ⟨errors.unexpected, errors.missing⟩ := rfl
    _ = ⟨diagnostics, []⟩ := by rw [hunexpected, hmissing]

/-- A walk with nothing pending pairs nothing. -/
lemma pairNodes_empty (source : Source) (nodes : List (Node α)) :
    pairNodes source .empty nodes = ([], .empty) := by
  cases nodes with
  | nil => rw [pairNodes]
  | cons node nodes =>
    rw [pairNodes]
    exact if_pos rfl

/-! ## Scanning whatever is mentioned -/

namespace Checker

variable {checker : Checker σ α τ}

/-- The failures of a file, found without looking first whether a directive is mentioned in it: if
it does not just declare, it is scanned. -/
def verifyScanning (checker : Checker σ α τ) (file : String) (stamp : Stamp) :
    Action σ (List Failure) := do
  let text ← checker.sourceText file
  let subject : Subject := { file, source := .ofString text, stamp }
  let diagnostics ← checker.diagnostics file
  let declares ← checker.isDeclarationFile file
  if declares then
    return diagnostics.map subject.unexpected
  else
    checker.verifyDirectives subject diagnostics

/-- A scan that finds no directive asks for the tree, and then reports every diagnostic. -/
lemma verifyDirectives_of_no_directives (checker : Checker σ α τ) {subject : Subject}
    (hnone : subject.source.directives = []) (diagnostics : List Diagnostic) :
    checker.verifyDirectives subject diagnostics =
      (fun _ => diagnostics.map subject.unexpected) <$> checker.syntaxTree subject.file := by
  have htable : DirectiveTable.ofSource subject.source = .empty := by
    rw [DirectiveTable.ofSource, hnone, DirectiveTable.ofDirectives_nil]
  have htypes : ∀ root : Node α,
      matchTypes checker subject.source root .empty = pure { unmet := [], unpaired := [] } := by
    intro root
    simp only [matchTypes, pairNodes_empty, checkPairings, pure_bind]
    simp [Assoc.keys, Assoc.empty]
  unfold verifyDirectives
  rw [htable]
  simp only [DirectiveTable.empty, ErrorMatch.ofDiagnostics_nil, htypes, pure_bind, List.map_nil,
    List.nil_append, List.append_nil]
  rw [bind_pure_comp]

/-- If the checker hands out a tree, a file without a mention of a directive has the failures that
scanning it finds. -/
lemma Total.ends_verifyScanning (htotal : checker.Total) (file : String) (stamp : Stamp)
    (world : σ) :
    ends (checker.verify file stamp) world = ends (checker.verifyScanning file stamp) world := by
  obtain ⟨text, htext⟩ := htotal.sourceText file world
  obtain ⟨diagnostics, hdiagnostics⟩ := htotal.diagnostics file (leaves _ world)
  obtain ⟨declares, hdeclares⟩ := htotal.isDeclarationFile file (leaves _ (leaves _ world))
  rw [verify, verifyScanning, ends_bind_of_ok htext, ends_bind_of_ok htext]
  rw [ends_bind_of_ok hdiagnostics, ends_bind_of_ok hdiagnostics]
  rw [ends_bind_of_ok hdeclares, ends_bind_of_ok hdeclares]
  cases declares with
  | true => rfl
  | false =>
    let subject : Subject := { file, source := .ofString text, stamp }
    show ends (if (!Directive.mentionedIn subject.source.chars) = true then
        pure (diagnostics.map subject.unexpected)
      else checker.verifyDirectives subject diagnostics) _ =
        ends (checker.verifyDirectives subject diagnostics) _
    cases hmentioned : Directive.mentionedIn subject.source.chars with
    | true => rfl
    | false =>
      have hnone := Source.directives_eq_nil_of_not_mentioned hmentioned
      obtain ⟨root, hroot⟩ := htotal.syntaxTree file (leaves _ (leaves _ (leaves _ world)))
      rw [checker.verifyDirectives_of_no_directives hnone, ends_map, hroot]
      rfl

end Checker

/-- **Looking for a mention first changes nothing.**  Where directives are found in a text, one is
mentioned in it.  And verifying a file by a checker that answers every question ends as if the file
were always scanned, unless it just declares: with the same failures in the same order, or, if an
expression statement in the tree does not state its expression, with the same fault. -/
theorem ends_verify_eq_verifyScanning {checker : Checker σ α τ} (htotal : checker.Total) :
    (∀ source : Source, source.directives ≠ [] →
      Directive.mentionedIn source.chars = true) ∧
    ∀ file stamp world,
      ends (checker.verify file stamp) world = ends (checker.verifyScanning file stamp) world ∧
        ∃ said, ends (checker.interview file) world = .ok said ∧
          (said.root.Complete →
            ∃ failures, ends (checker.verify file stamp) world = .ok failures) := by
  constructor
  · intro source hfound
    refine Classical.byContradiction fun hmentioned => hfound ?_
    rw [Bool.not_eq_true] at hmentioned
    exact Source.directives_eq_nil_of_not_mentioned hmentioned
  · intro file stamp world
    refine ⟨htotal.ends_verifyScanning file stamp world, ?_⟩
    obtain ⟨said, hsaid⟩ := htotal.interview file world
    refine ⟨said, hsaid, fun hcomplete => ?_⟩
    rw [Checker.verify_eq_examine, ends_map, Checker.examine_of_interview hsaid hcomplete]
    exact ⟨_, rfl⟩

/-- What a checker says about a file without directives: there is a problem in it, and one that
has no place. -/
def plainAnswers : Answers Unit String where
  sourceText _ := "make(1);\n"
  isDeclarationFile _ := false
  syntaxTree _ := .mk "SourceFile" 0 9 () [callStatement 0 8] none
  diagnostics file :=
    [⟨.plain "Expected 0 arguments, but got 1.", some file, some 5, 1⟩,
      ⟨.plain "Cannot find a library.", none, none, 0⟩]
  typeOf _ := "Widget"
  renderType type _ := type

/-- The checker that says so. -/
def plainChecker : Checker Unit Unit String := plainAnswers.checker

/-- The sample with directives mentions one.  A file without directives fails for both of its
problems, scanned or not. -/
theorem ends_verify_eq_verifyScanning_plain :
    (Source.ofString (callAnswers.sourceText "call.ts")).directives ≠ [] ∧
    Directive.mentionedIn (Source.ofString (callAnswers.sourceText "call.ts")).chars = true ∧
    plainChecker.Total ∧ ∃ failures : List Failure, failures.map (·.start) = [5, 0] ∧
      ends (plainChecker.verifyScanning "plain.ts" { version := nextVersion }) () =
        .ok failures := by
  have hgives : plainChecker.Gives plainAnswers := plainAnswers.checker_gives
  obtain ⟨hmentions, hscanning⟩ := ends_verify_eq_verifyScanning hgives.total
  have hfound : (Source.ofString (callAnswers.sourceText "call.ts")).directives ≠ [] := by
    decide +kernel
  obtain ⟨hsame, said, hsaid, hreturns⟩ := hscanning "plain.ts" { version := nextVersion } ()
  have hcomplete : said.root.Complete := by
    have hnodes : ∀ node ∈ [callStatement 0 8], node.expression.isSome = true := by decide
    rw [(hgives.of_interview hsaid).2]
    exact fun node hmem _ => hnodes node hmem
  obtain ⟨failures, hfailures⟩ := hreturns hcomplete
  have hstarts :
      (ends (plainChecker.verify "plain.ts" { version := nextVersion }) ()).map
        (·.map (·.start)) = .ok [5, 0] := by
    decide +kernel
  rw [hfailures] at hstarts
  exact ⟨hfound, hmentions _ hfound, hgives.total, failures, Except.ok.inj hstarts,
    hsame.symm.trans hfailures⟩

end TypeTest
