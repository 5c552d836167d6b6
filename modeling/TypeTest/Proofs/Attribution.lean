import Mathlib.Data.List.Basic
import TypeTest.Proofs.DirectivePlaces

/-!
# The updates of the table, found one comment at a time

The table of a file is filled in one pass over the tokens.  The pass keeps a line cursor, which
moves only when a directive is met, and the start of the last token that counts, which may lie many
lines back.  So what it does at one comment depends on all that came before.

`Source.attributions` finds the same updates without a state.  It takes the line comments one by
one; for each it reads off the text what is stated (`Directive.ofText?`), looks up the line by
bisection, and searches all the tokens for one that counts and starts between the start of that line
and the comment (`Source.Preceded`).

The main result (`directives_eq_attributions`) is that the pass makes exactly these updates, in this
order.
-/

namespace TypeTest

/-! ## Updates -/

/-- What the text of a comment states: an expected error, or an expected type, which is all that
follows the space. -/
def Directive.ofText? (text : String) : Option Directive :=
  if text = "// $ExpectError" then some .expectError
  else if "// $ExpectType ".toList <+: text.toList then
    some (.expectType (String.ofList (text.toList.drop "// $ExpectType ".length)))
  else none

namespace Source

/-- Some token that counts starts before an offset, but not before the line of the offset does. -/
def Preceded (source : Source) (offset : Nat) : Prop :=
  ∃ token ∈ source.tokens, token.Counts ∧
    source.startOfLineAt offset ≤ token.start ∧ token.start < offset

instance (source : Source) (offset : Nat) : Decidable (source.Preceded offset) :=
  inferInstanceAs (Decidable (∃ token ∈ source.tokens, _))

/-- The update that a comment asks for: what it states, about its own line if something precedes it
there and about the next line otherwise. -/
def attribution? (source : Source) (comment : Token) : Option (Int × Directive) :=
  (Directive.ofText? comment.text).map fun directive =>
    (if source.Preceded comment.start then source.lineAt comment.start
      else source.lineAt comment.start + 1, directive)

/-- The updates that the line comments of a source ask for, in order. -/
def attributions (source : Source) : List (Int × Directive) :=
  (source.tokens.filter (·.kind = .lineComment)).filterMap source.attribution?

end Source

/-! ## What a comment states -/

lemma Directive.ofText?_eq_some_iff {text : String} {directive : Directive} :
    ofText? text = some directive ↔ text = directive.comment := by
  unfold ofText?
  cases directive with
  | expectError =>
    split
    · rename_i herror
      exact iff_of_true rfl herror
    · rename_i herror
      refine iff_of_false ?_ herror
      split
      · exact nofun
      · exact nofun
  | expectType expected =>
    have hcomment : (expectType expected).comment.toList =
        "// $ExpectType ".toList ++ expected.toList := String.toList_append
    have htext : text = (expectType expected).comment ↔
        text.toList = "// $ExpectType ".toList ++ expected.toList := by
      rw [← hcomment, String.toList_inj]
    rw [htext]
    split
    · rename_i herror
      refine iff_of_false nofun fun heq => ?_
      have hbegins : "// $ExpectType ".toList <+: "// $ExpectError".toList :=
        ⟨expected.toList, heq.symm.trans (congrArg String.toList herror)⟩
      exact absurd hbegins (by decide)
    · split
      · rename_i hbegins
        obtain ⟨rest, hrest⟩ := hbegins
        rw [← hrest, List.append_cancel_left_eq, String.length, List.drop_left, Option.some.injEq,
          expectType.injEq, ← String.toList_inj, String.toList_ofList]
      · rename_i hbegins
        exact iff_of_false nofun fun heq => hbegins ⟨_, heq.symm⟩

/-- The two readings of a comment agree. -/
lemma Directive.ofComment?_eq_ofText? {comment : Token} (hline : '\n' ∉ comment.chars) :
    ofComment? comment.chars = ofText? comment.text := by
  apply Option.ext
  intro directive
  rw [ofComment?_eq_some_iff hline, ofText?_eq_some_iff, Token.text]

namespace Source

/-- A search among the tokens before a comment finds what a search among all of them finds. -/
lemma shared_iff_preceded {source : Source} {place : Nat} {comment : Token}
    (hcomment : source.tokens[place]? = some comment) :
    source.Shared (source.tokens.take place) comment.start ↔ source.Preceded comment.start := by
  obtain ⟨hplace, hat⟩ := List.getElem?_eq_some_iff.1 hcomment
  have htokens : source.tokens =
      source.tokens.take place ++ comment :: source.tokens.drop (place + 1) := by
    rw [← hat, List.getElem_cons_drop, List.take_append_drop]
  obtain ⟨hbefore, hlater⟩ := starts_around htokens
  constructor
  · rintro ⟨token, hmem, hcounts, hsame⟩
    have hlt := hbefore token hmem
    have hstart := (source.lineAt_eq_lineAt_iff (Nat.le_of_lt hlt)).1 hsame
    exact ⟨token, List.mem_of_mem_take hmem, hcounts, hstart, hlt⟩
  · rintro ⟨token, hmem, hcounts, hstart, hlt⟩
    refine ⟨token, ?_, hcounts, (source.lineAt_eq_lineAt_iff (Nat.le_of_lt hlt)).2 hstart⟩
    -- the comment itself and what comes after it do not start before it
    rw [htokens, List.mem_append, List.mem_cons] at hmem
    rcases hmem with hmem | rfl | hmem
    · exact hmem
    · exact absurd hlt (Nat.lt_irrefl _)
    · exact absurd hlt (Nat.lt_asymm (hlater token hmem))

/-- What the pass makes of a token is the update that the token asks for. -/
lemma placed?_map {source : Source} {token : Token} {place : Nat}
    (htoken : source.tokens[place]? = some token) :
    (source.placed? (token, place)).map (fun placed => ((placed.line : Int), placed.directive)) =
      if token.kind = .lineComment then source.attribution? token else none := by
  have hmem : token ∈ Token.scan source.chars := List.mem_of_getElem? htoken
  have hnonneg := source.target_nonneg (source.tokens.take place) token.start
  unfold placed?
  split
  · rename_i hkind
    have hline : '\n' ∉ token.chars :=
      fun hc => nomatch Token.not_isLineEnd_of_mem_scan hmem hkind hc
    have htarget : source.target (source.tokens.take place) token.start =
        if source.Preceded token.start then source.lineAt token.start
        else source.lineAt token.start + 1 := by
      simp only [target, shared_iff_preceded htoken]
    rw [Option.map_map, Directive.ofComment?_eq_ofText? hline, attribution?, ← htarget]
    refine Option.map_congr fun directive _ => ?_
    exact Prod.ext (Int.toNat_of_nonneg hnonneg) rfl
  · rfl

/-- **The table is updated as its comments ask for, one by one.** -/
theorem directives_eq_attributions (source : Source) :
    source.directives.map (fun placed => ((placed.line : Int), placed.directive)) =
        source.attributions ∧
      DirectiveTable.ofSource source =
        source.attributions.foldl DirectiveTable.record .empty := by
  have hupdates : source.directives.map
      (fun placed => ((placed.line : Int), placed.directive)) = source.attributions := by
    have htokens : source.tokens = source.tokens.zipIdx.map Prod.fst :=
      (List.zipIdx_map_fst 0 source.tokens).symm
    rw [directives_eq, List.map_filterMap, attributions, List.filterMap_filter, htokens,
      List.filterMap_map, ← htokens]
    refine List.filterMap_congr fun entry hentry => ?_
    simpa using placed?_map (List.mem_zipIdx_iff_getElem?.1 hentry)
  have hadd : DirectiveTable.add =
      fun table placed => table.record (placed.line, placed.directive) := by
    funext table placed
    obtain ⟨line, directive⟩ := placed
    cases directive with
    | expectType expected => rfl
    | expectError => rfl
  refine ⟨hupdates, ?_⟩
  rw [← hupdates, List.foldl_map, ← hadd]
  rfl

end Source

end TypeTest
