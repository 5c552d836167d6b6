import Mathlib.Data.List.Nodup
import TypeTest.Proofs.Answers
import TypeTest.Proofs.DirectivePlaces
import TypeTest.Proofs.Reconciliation

/-!
# A file passes if its directives are met

What a verification of a file amounts to can be said without any of its parts.  `Interview.Met` says
it of the answers of a checker: no two directives of one kind speak about one line, every
diagnostic starts on a line for which an error is asserted, on every such line one does, and the
first node on a line for which a type is asserted has that type.  The directives here are those that
stand among the tokens of the text, and the nodes are all that lie below the root of the tree.

The main theorem says that verifying the file ends without failures exactly if this holds
(`verify_eq_nil_iff_met`), and that no answer is missing which it depends on
(`Interview.Thorough`).  Each kind of failure stands for one of the conditions
(`scanned_clean_iff`), and a text in which no directive is mentioned has none
(`mentionedIn_of_asserts`), so nothing is lost by not scanning it.
-/

namespace TypeTest

open TypeTest.Action

variable {σ α τ : Type}

namespace Interview

/-- Asked for the type of a node, the checker answered with this text. -/
def Renders (said : Interview α) (node : Node α) (text : String) : Prop :=
  ∃ pairing, (pairing, text) ∈ said.rendered ∧ pairing.node = node

/-- No two directives of one kind speak about one line. -/
def Unique (said : Interview α) : Prop :=
  ∀ place place' directive directive' line,
    said.source.Asserts place directive line → said.source.Asserts place' directive' line →
      directive.kind = directive'.kind → place = place'

/-- If no two directives repeat each other, the checker was asked for the type of the first node on
every line for which one is asserted, and gave one answer. -/
def Thorough (said : Interview α) : Prop :=
  said.Unique → ∀ place line asserted node,
    said.source.Asserts place (.expectType asserted) line →
    firstOn said.source line said.root.descendants = some node →
      ∃ text, said.Renders node text ∧ ∀ other, said.Renders node other → other = text

/-- The answers of a checker about a file meet the directives in its text. -/
structure Met (said : Interview α) (file : String) : Prop where
  /-- No two directives of one kind speak about one line. -/
  unique : said.Unique
  /-- Every diagnostic starts in the file, on a line for which an error is asserted. -/
  expected : ∀ diagnostic ∈ said.diagnostics, diagnostic.file = some file ∧
    ∃ start, diagnostic.start = some start ∧
      ∃ place, said.source.Asserts place .expectError (said.source.lineAt start)
  /-- On every line for which an error is asserted some diagnostic of the file starts. -/
  reported : ∀ place line, said.source.Asserts place .expectError line →
    ∃ diagnostic ∈ said.diagnostics, diagnostic.file = some file ∧
      ∃ start, diagnostic.start = some start ∧ said.source.lineAt start = line
  /-- On every line for which a type is asserted a node starts, and the first one that does has
  that type. -/
  typed : ∀ place line asserted, said.source.Asserts place (.expectType asserted) line →
    ∃ node text, firstOn said.source line said.root.descendants = some node ∧
      said.Renders node text ∧ TypeText.normalize text = TypeText.normalize asserted

end Interview

/-! ## A text without a mention of a directive -/

/-- Where a directive stands, it is mentioned. -/
lemma mentionedIn_of_asserts {source : Source} {place : Nat} {directive : Directive} {line : Int}
    (hasserts : source.Asserts place directive line) :
    Directive.mentionedIn source.chars = true := by
  obtain ⟨comment, htoken, hkind, htext, -⟩ := hasserts
  have hinfix : comment.chars <:+: source.chars :=
    Token.infix_of_mem_scan (List.mem_of_getElem? htoken) hkind
  have hchars : comment.chars = directive.comment.toList := by
    rw [← htext, Token.text, String.toList_ofList]
  rw [hchars] at hinfix
  unfold Directive.mentionedIn
  rw [Bool.or_eq_true, Text.occursIn_iff, Text.occursIn_iff]
  cases directive with
  | expectType asserted =>
    have hcomment : (Directive.expectType asserted).comment.toList =
        "// $ExpectType ".toList ++ asserted.toList := String.toList_append
    have hbegin : "// $ExpectType ".toList = "// ".toList ++ "$ExpectType".toList ++ [' '] := by
      decide
    refine .inl (List.IsInfix.trans ⟨"// ".toList, [' '] ++ asserted.toList, ?_⟩ hinfix)
    rw [hcomment, hbegin, List.append_assoc _ [' ']]
  | expectError =>
    refine .inr (List.IsInfix.trans ⟨"// ".toList, [], ?_⟩ hinfix)
    decide

/-! ## The table of a source -/

namespace DirectiveTable

variable {source : Source}

lemma mem_errorLines_ofSource {line : Int} :
    line ∈ (ofSource source).errorLines ↔ ∃ place, source.Asserts place .expectError line :=
  mem_errorLines_iff.trans Source.mem_directives_iff

lemma get?_typeAssertions_ofSource (hduplicates : (ofSource source).duplicates = []) {line : Int}
    {asserted : String} :
    (ofSource source).typeAssertions.get? line = some asserted ↔
      ∃ place, source.Asserts place (.expectType asserted) line :=
  (get?_typeAssertions_iff (duplicates_eq_nil_iff.1 hduplicates)).trans Source.mem_directives_iff

lemma flaggedLines_eq_nil {table : DirectiveTable} (hduplicates : table.duplicates = [])
    (kind : Directive.Kind) : table.flaggedLines kind = [] := by
  rw [flaggedLines, hduplicates]
  rfl

end DirectiveTable

lemma Assoc.keys_eq_nil_iff {κ ν : Type} [DecidableEq κ] {map : Assoc κ ν} :
    map.keys = [] ↔ ∀ key, map.get? key = none := by
  rw [List.eq_nil_iff_forall_not_mem]
  refine forall_congr' fun key => ?_
  rw [keys, mem_keys_iff_isSome_lookup, Bool.not_eq_true, Option.isSome_eq_false_iff,
    Option.isNone_iff_eq_none]
  rfl

/-! ## Each condition by itself -/

namespace Interview

variable {said : Interview α} {file : String}

lemma duplicates_eq_nil_iff : (said.scanned file).duplicates = [] ↔ said.Unique :=
  DirectiveTable.duplicates_eq_nil_iff.trans Source.nodup_directives_iff

lemma unexpected_eq_nil_iff :
    (said.scanned file).unexpected = [] ↔
      ∀ diagnostic ∈ said.diagnostics, diagnostic.file = some file ∧
        ∃ start, diagnostic.start = some start ∧
          ∃ place, said.source.Asserts place .expectError (said.source.lineAt start) := by
  have hfilter : (said.scanned file).unexpected =
      said.diagnostics.filter (!·.isExpected said.table.errorLines file said.source) :=
    ErrorMatch.unexpected_eq _ _ (said.table.flaggedLines .expectError) _ _
  rw [hfilter, List.filter_eq_nil_iff]
  refine forall_congr' fun diagnostic => imp_congr_right fun _ => ?_
  rw [Bool.not_eq_true, Bool.not_eq_false', Diagnostic.isExpected, Option.any_eq_true]
  simp only [Diagnostic.lineIn?_eq_some_iff, decide_eq_true_eq]
  constructor
  · rintro ⟨line, ⟨hfile, start, hstart, rfl⟩, hmem⟩
    exact ⟨hfile, start, hstart, DirectiveTable.mem_errorLines_ofSource.1 hmem⟩
  · rintro ⟨hfile, start, hstart, hasserts⟩
    exact ⟨_, ⟨hfile, start, hstart, rfl⟩, DirectiveTable.mem_errorLines_ofSource.2 hasserts⟩

lemma missing_eq_nil_iff (hduplicates : (said.scanned file).duplicates = []) :
    (said.scanned file).missing = [] ↔
      ∀ place line, said.source.Asserts place .expectError line →
        ∃ diagnostic ∈ said.diagnostics, diagnostic.file = some file ∧
          ∃ start, diagnostic.start = some start ∧ said.source.lineAt start = line := by
  have hmissing : ∀ line, line ∈ (said.scanned file).missing ↔
      (∃ place, said.source.Asserts place .expectError line) ∧
        ∀ diagnostic ∈ said.diagnostics, diagnostic.lineIn? file said.source ≠ some line := by
    intro line
    have hflagged := DirectiveTable.flaggedLines_eq_nil hduplicates .expectError
    rw [← DirectiveTable.mem_errorLines_ofSource]
    refine ErrorMatch.mem_missing_iff.trans (and_congr_right fun _ => ?_)
    show line ∉ said.table.flaggedLines .expectError ∧ _ ↔ _
    rw [show said.table.flaggedLines .expectError = [] from hflagged]
    exact and_iff_right List.not_mem_nil
  rw [List.eq_nil_iff_forall_not_mem]
  simp only [hmissing, ← Diagnostic.lineIn?_eq_some_iff]
  constructor
  · intro hnone place line hasserts
    refine Classical.byContradiction fun hsilent => hnone line ⟨⟨place, hasserts⟩, ?_⟩
    exact fun diagnostic hmem hline => hsilent ⟨diagnostic, hmem, hline⟩
  · rintro hreported line ⟨⟨place, hasserts⟩, hsilent⟩
    obtain ⟨diagnostic, hmem, hline⟩ := hreported place line hasserts
    exact hsilent diagnostic hmem hline

/-- A pairing is made with the first node on a line for which a type is asserted. -/
lemma mem_walk_iff (hduplicates : (said.scanned file).duplicates = []) {pairing : Pairing α} :
    pairing ∈ said.walk.1 ↔
      (∃ place, said.source.Asserts place (.expectType pairing.expected) pairing.line) ∧
        firstOn said.source pairing.line said.root.descendants = some pairing.node := by
  rw [Node.descendants_eq, ← DirectiveTable.get?_typeAssertions_ofSource hduplicates]
  exact mem_pairNodes_iff

lemma unpaired_eq_nil_iff (hduplicates : (said.scanned file).duplicates = []) :
    (said.scanned file).unpaired = [] ↔
      ∀ place line asserted, said.source.Asserts place (.expectType asserted) line →
        (firstOn said.source line said.root.descendants).isSome = true := by
  have hkeys : (said.scanned file).unpaired = [] ↔ said.walk.2.keys = [] := by
    show said.walk.2.keys.mergeSort = [] ↔ _
    rw [← List.length_eq_zero_iff, List.length_mergeSort, List.length_eq_zero_iff]
  rw [hkeys, Assoc.keys_eq_nil_iff, Node.descendants_eq]
  have hleft : ∀ line, said.walk.2.get? line =
      if (firstOn said.source line (Node.withDescendants said.root.children)).isSome then none
      else said.table.typeAssertions.get? line :=
    get?_pairNodes said.source said.table.typeAssertions said.root.children
  constructor
  · intro hnone place line asserted hasserts
    have hpending :=
      (DirectiveTable.get?_typeAssertions_ofSource hduplicates).2 ⟨place, hasserts⟩
    have hline := hnone line
    rw [hleft] at hline
    split at hline
    · assumption
    · exact nomatch hpending.symm.trans hline
  · intro hfirst line
    rw [hleft]
    split
    · rfl
    · rename_i hunserved
      refine Option.eq_none_iff_forall_not_mem.2 fun asserted hasserts => hunserved ?_
      obtain ⟨place, hplace⟩ :=
        (DirectiveTable.get?_typeAssertions_ofSource hduplicates).1 hasserts
      exact hfirst place line asserted hplace

lemma unmet_eq_nil_iff :
    (said.scanned file).unmet = [] ↔ ∀ pairing text, (pairing, text) ∈ said.rendered →
      TypeText.normalize pairing.expected = TypeText.normalize text := by
  apply List.filterMap_eq_nil_iff.trans
  constructor
  · intro hnone pairing text hmem
    have hmet := hnone (pairing, text) hmem
    dsimp only [Pairing.unmet?] at hmet
    split at hmet
    · assumption
    · cases hmet
  · rintro hsame ⟨pairing, text⟩ hmem
    exact if_pos (hsame pairing text hmem)

/-- A node is asked for once, so that its type has one text. -/
lemma eq_of_renders (hwalk : said.rendered.map (·.1) = said.walk.1) {pairing : Pairing α}
    {text other : String} (hmem : (pairing, text) ∈ said.rendered)
    (hrenders : said.Renders pairing.node other) : other = text := by
  obtain ⟨pairing', hmem', hnode⟩ := hrenders
  have hpaired : ∀ entry ∈ said.rendered, entry.1 ∈ said.walk.1 := by
    intro entry hentry
    rw [← hwalk]
    exact List.mem_map_of_mem hentry
  have hline : ∀ entry ∈ said.rendered,
      said.source.lineAt entry.1.node.start = entry.1.line :=
    fun entry hentry => lineAt_of_firstOn (mem_pairNodes_iff.1 (hpaired entry hentry)).2
  have hnodup : (said.rendered.map fun entry => entry.1.line).Nodup := by
    have hlines := nodup_lines_pairNodes said.source said.table.typeAssertions said.root.children
    rw [show (pairNodes ..).1 = said.walk.1 from rfl, ← hwalk, List.map_map] at hlines
    exact hlines
  have hsame : (pairing', other) = (pairing, text) := by
    apply List.inj_on_of_nodup_map hnodup hmem' hmem
    rw [← hline _ hmem', ← hline _ hmem, hnode]
  exact congrArg Prod.snd hsame

/-- The first node on a line for which a type is asserted was asked for its type. -/
lemma exists_rendered (hwalk : said.rendered.map (·.1) = said.walk.1)
    (hduplicates : (said.scanned file).duplicates = []) {place : Nat} {line : Int}
    {asserted : String} {node : Node α}
    (hasserts : said.source.Asserts place (.expectType asserted) line)
    (hnode : firstOn said.source line said.root.descendants = some node) :
    ∃ text, (⟨line, asserted, node⟩, text) ∈ said.rendered := by
  have hpaired : ⟨line, asserted, node⟩ ∈ said.walk.1 :=
    (mem_walk_iff hduplicates).2 ⟨⟨place, hasserts⟩, hnode⟩
  rw [← hwalk] at hpaired
  obtain ⟨⟨pairing, text⟩, hmem, rfl⟩ := List.mem_map.1 hpaired
  exact ⟨text, hmem⟩

/-- An interview leaves none of the nodes out that the directives speak about. -/
lemma thorough (hwalk : said.rendered.map (·.1) = said.walk.1) : said.Thorough := by
  intro hunique place line asserted node hasserts hnode
  have hduplicates : (said.scanned "").duplicates = [] := duplicates_eq_nil_iff.2 hunique
  obtain ⟨text, hmem⟩ := exists_rendered hwalk hduplicates hasserts hnode
  exact ⟨text, ⟨_, hmem, rfl⟩, fun other hrenders => eq_of_renders hwalk hmem hrenders⟩

lemma types_eq_nil_iff (hwalk : said.rendered.map (·.1) = said.walk.1)
    (hduplicates : (said.scanned file).duplicates = []) :
    (said.scanned file).unmet = [] ∧ (said.scanned file).unpaired = [] ↔
      ∀ place line asserted, said.source.Asserts place (.expectType asserted) line →
        ∃ node text, firstOn said.source line said.root.descendants = some node ∧
          said.Renders node text ∧ TypeText.normalize text = TypeText.normalize asserted := by
  rw [unmet_eq_nil_iff, unpaired_eq_nil_iff hduplicates]
  constructor
  · rintro ⟨hsame, hfirst⟩ place line asserted hasserts
    obtain ⟨node, hnode⟩ := Option.isSome_iff_exists.1 (hfirst place line asserted hasserts)
    obtain ⟨text, hmem⟩ := exists_rendered hwalk hduplicates hasserts hnode
    exact ⟨node, text, hnode, ⟨_, hmem, rfl⟩, (hsame _ text hmem).symm⟩
  · intro htyped
    constructor
    · intro pairing text hmem
      have hpaired : pairing ∈ said.walk.1 := by
        rw [← hwalk]
        exact List.mem_map_of_mem hmem
      obtain ⟨⟨place, hasserts⟩, hfirst⟩ := (mem_walk_iff hduplicates).1 hpaired
      obtain ⟨node, other, hnode, hrenders, hsame⟩ := htyped place _ _ hasserts
      obtain rfl := Option.some.inj (hfirst.symm.trans hnode)
      rw [← eq_of_renders hwalk hmem hrenders, hsame]
    · intro place line asserted hasserts
      obtain ⟨node, -, hnode, -⟩ := htyped place line asserted hasserts
      rw [hnode]
      rfl

/-- Nothing is wrong with a file whose directives are looked at exactly if they are met. -/
lemma scanned_clean_iff (hwalk : said.rendered.map (·.1) = said.walk.1) :
    (said.scanned file).Clean ↔ said.Met file := by
  constructor
  · rintro ⟨hduplicates, hunexpected, hmissing, hunmet, hunpaired⟩
    have hreported := (missing_eq_nil_iff hduplicates).1 hmissing
    have htyped := (types_eq_nil_iff hwalk hduplicates).1 ⟨hunmet, hunpaired⟩
    exact ⟨duplicates_eq_nil_iff.1 hduplicates, unexpected_eq_nil_iff.1 hunexpected, hreported,
      htyped⟩
  · rintro ⟨hunique, hexpected, hreported, htyped⟩
    have hduplicates : (said.scanned file).duplicates = [] := duplicates_eq_nil_iff.2 hunique
    obtain ⟨hunmet, hunpaired⟩ := (types_eq_nil_iff hwalk hduplicates).2 htyped
    exact ⟨hduplicates, unexpected_eq_nil_iff.2 hexpected,
      (missing_eq_nil_iff hduplicates).2 hreported, hunmet, hunpaired⟩

/-- Without a directive there is nothing to be met, but all diagnostics are unexpected. -/
lemma met_iff_of_not_mentioned
    (hmentioned : Directive.mentionedIn said.source.chars = false) :
    said.Met file ↔ said.diagnostics = [] := by
  have hnone : ∀ place directive line, ¬ said.source.Asserts place directive line := by
    intro place directive line hasserts
    rw [mentionedIn_of_asserts hasserts] at hmentioned
    cases hmentioned
  constructor
  · intro hmet
    refine List.eq_nil_iff_forall_not_mem.2 fun diagnostic hmem => ?_
    obtain ⟨-, start, -, place, hasserts⟩ := hmet.expected diagnostic hmem
    exact hnone _ _ _ hasserts
  · intro hnil
    refine ⟨?_, ?_, ?_, ?_⟩
    · exact fun place _ directive _ line hasserts => absurd hasserts (hnone place directive line)
    · rw [hnil]
      exact fun _ hmem => absurd hmem List.not_mem_nil
    · exact fun place line hasserts => absurd hasserts (hnone place _ line)
    · exact fun place line _ hasserts => absurd hasserts (hnone place _ line)

/-- Nothing is wrong with a file that does not just declare exactly if its directives are met. -/
theorem examination_clean_iff (hwalk : said.rendered.map (·.1) = said.walk.1)
    (hdeclares : said.declares = false) : (said.examination file).Clean ↔ said.Met file := by
  unfold examination
  rw [hdeclares, Bool.false_or]
  cases hmentioned : Directive.mentionedIn said.source.chars with
  | false =>
    rw [met_iff_of_not_mentioned hmentioned]
    constructor
    · exact fun hclean => hclean.unexpected
    · exact fun hnil => ⟨rfl, hnil, rfl, rfl, rfl⟩
  | true => exact scanned_clean_iff hwalk

end Interview

/-- A statement that consists of a call. -/
def callStatement (start stop : Int) : Node Unit :=
  .mk Node.expressionStatementKind start stop () []
    (some (.mk "CallExpression" start (stop - 1) () [] none))

/-- What a checker says about a file with a directive of each kind. -/
def callAnswers : Answers Unit String where
  sourceText _ := "make(); // $ExpectType Widget\nmake(1); // $ExpectError\n"
  isDeclarationFile _ := false
  syntaxTree _ := .mk "SourceFile" 0 54 () [callStatement 0 7, callStatement 30 38] none
  diagnostics file := [⟨.plain "Expected 0 arguments, but got 1.", some file, some 35, 1⟩]
  typeOf _ := "Widget"
  renderType type _ := type

/-- The checker that says so. -/
def callChecker : Checker Unit Unit String := callAnswers.checker

/-- **A file passes exactly if its directives are met.**  Let a checker answer every question, in
whatever way.  If it says of a file that it does not just declare, and the expression statements
in its tree state their expressions, then verifying the file ends with a list of failures, which
is empty exactly if the checker's answers meet the directives of the file.  What it was asked
leaves out no node whose type is asserted. -/
theorem verify_eq_nil_iff_met {checker : Checker σ α τ} (htotal : checker.Total) (file : String)
    (stamp : Stamp) (world : σ) :
    ∃ said, ends (checker.interview file) world = .ok said ∧ said.Thorough ∧
      (said.declares = false → said.root.Complete →
        ∃ failures, ends (checker.verify file stamp) world = .ok failures ∧
          (failures = [] ↔ said.Met file)) := by
  obtain ⟨said, hsaid⟩ := htotal.interview file world
  have hwalk := Checker.walk_of_interview hsaid
  refine ⟨said, hsaid, said.thorough hwalk, fun hdeclares hcomplete => ?_⟩
  have hfound := Checker.examine_of_interview hsaid hcomplete
  refine ⟨(said.examination file).failures file stamp, ?_, ?_⟩
  · rw [Checker.verify_eq_examine, ends_map, hfound]
    rfl
  · rw [Examination.failures_eq_nil_iff]
    exact Interview.examination_clean_iff hwalk hdeclares

/-- Both directives of the sample are met, and the file passes. -/
theorem verify_eq_nil_iff_met_call :
    callChecker.Total ∧ ∃ said, ends (callChecker.interview "call.ts") () = .ok said ∧
      said.declares = false ∧ said.root.Complete ∧
      ends (callChecker.verify "call.ts" { version := nextVersion }) () = .ok [] ∧
      said.Met "call.ts" := by
  have hgives : callChecker.Gives callAnswers := callAnswers.checker_gives
  have hpasses : ends (callChecker.verify "call.ts" { version := nextVersion }) () = .ok [] := by
    decide +kernel
  obtain ⟨said, hsaid, -, hverify⟩ :=
    verify_eq_nil_iff_met hgives.total "call.ts" { version := nextVersion } ()
  obtain ⟨hdeclares, hroot⟩ := hgives.of_interview hsaid
  have hcomplete : said.root.Complete := by
    have hnodes : ∀ node ∈ [callStatement 0 7, callStatement 30 38],
        node.expression.isSome = true := by decide
    rw [hroot]
    exact fun node hmem _ => hnodes node hmem
  obtain ⟨failures, hfailures, hmet⟩ := hverify hdeclares hcomplete
  obtain rfl := Except.ok.inj (hpasses.symm.trans hfailures)
  exact ⟨hgives.total, said, hsaid, hdeclares, hcomplete, hpasses, hmet.1 rfl⟩

end TypeTest
