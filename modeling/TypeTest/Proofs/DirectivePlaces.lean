import TypeTest.Proofs.DirectiveRecords
import TypeTest.Proofs.Lines
import TypeTest.Proofs.TokenOrder

/-!
# Where directives stand, and which lines they speak about

`Source.Asserts` says of a place in the token list of a source that a directive stands there and
speaks about a line.  It looks at all tokens before the place and asks for the line of each of
them.  The scan does not do that.  It keeps a line cursor, which only moves forward, and the start
of the last token that counts, and it stops at the end-of-file token.

Both find the same (`mem_directives_iff`), and the scan lists each directive once
(`nodup_directives_iff`).  What the scan keeps is enough because tokens and line starts both ascend:
of the tokens before a comment that count, the last one starts on the comment's line if any does.
-/

namespace TypeTest

/-! ## Directives by their place -/

/-- The comment that states a directive. -/
def Directive.comment : Directive → String
  | expectType expected => "// $ExpectType " ++ expected
  | expectError => "// $ExpectError"

/-- A token counts if it is neither blank nor a line comment. -/
def Token.Counts (token : Token) : Prop :=
  token.kind ≠ .whitespace ∧ token.kind ≠ .lineComment

instance (token : Token) : Decidable token.Counts :=
  inferInstanceAs (Decidable (_ ∧ _))

namespace Source

/-- The tokens of a source. -/
def tokens (source : Source) : List Token := Token.scan source.chars

/-- One of the tokens before an offset counts and starts on the line of the offset. -/
def Shared (source : Source) (before : List Token) (offset : Nat) : Prop :=
  ∃ token ∈ before, token.Counts ∧ source.lineAt token.start = source.lineAt offset

instance (source : Source) (before : List Token) (offset : Nat) :
    Decidable (source.Shared before offset) :=
  inferInstanceAs (Decidable (∃ token ∈ before, _))

/-- The line that a directive at an offset speaks about: its own line, if a token before it counts
and starts there, and otherwise the next one. -/
def target (source : Source) (before : List Token) (offset : Nat) : Int :=
  if source.Shared before offset then source.lineAt offset else source.lineAt offset + 1

/-- At some place among the tokens of a source stands a comment that states a directive, and the
directive speaks about a line. -/
def Asserts (source : Source) (place : Nat) (directive : Directive) (line : Int) : Prop :=
  ∃ comment, source.tokens[place]? = some comment ∧ comment.kind = .lineComment ∧
    comment.text = directive.comment ∧
    line = source.target (source.tokens.take place) comment.start

end Source

/-! ## What a comment states -/

namespace Directive

lemma ofList_eq_comment_iff {comment : List Char} {directive : Directive} :
    String.ofList comment = directive.comment ↔
      match directive with
      | expectType expected =>
        "// $ExpectType ".toList.isPrefixOf? comment = some expected.toList
      | expectError => comment = "// $ExpectError".toList := by
  rw [← String.toList_inj, String.toList_ofList]
  cases directive with
  | expectError => rfl
  | expectType expected =>
    have hcomment : (expectType expected).comment.toList =
        "// $ExpectType ".toList ++ expected.toList := String.toList_append
    rw [hcomment, eq_comm]
    exact List.isPrefixOf?_eq_some_iff_append_eq.symm

/-- A comment on one line states a directive if it is exactly the comment of that directive. -/
lemma ofComment?_eq_some_iff {comment : List Char} (hline : '\n' ∉ comment)
    {directive : Directive} :
    ofComment? comment = some directive ↔ String.ofList comment = directive.comment := by
  rw [ofList_eq_comment_iff]
  unfold ofComment?
  split
  · rename_i herror
    subst herror
    cases directive with
    | expectError => simp
    | expectType expected =>
      have hnone : "// $ExpectType ".toList.isPrefixOf? "// $ExpectError".toList = none := by decide
      exact iff_of_false nofun fun hsome => nomatch hnone.symm.trans hsome
  · rename_i herror
    cases hafter : "// $ExpectType ".toList.isPrefixOf? comment with
    | none =>
      cases directive with
      | expectError => exact iff_of_false nofun herror
      | expectType expected => exact iff_of_false nofun nofun
    | some rest =>
      have hsplit := (List.isPrefixOf?_eq_some_iff_append_eq.1 hafter).symm
      have hrest : '\n' ∉ rest := fun hmem => hline (hsplit ▸ List.mem_append_right _ hmem)
      dsimp only
      rw [if_neg hrest]
      cases directive with
      | expectError => exact iff_of_false nofun herror
      | expectType expected =>
        dsimp only
        rw [Option.some.injEq, Option.some.injEq, expectType.injEq, ← String.toList_inj,
          String.toList_ofList]

end Directive

/-! ## What the scan keeps -/

/-- What is kept of the tokens so far: the start of the last one that counts.  Whether any of them
counts and starts at some offset or later can be told from it. -/
def KeepsLast (last : Option Nat) (before : List Token) : Prop :=
  ∀ start, (∃ token ∈ before, token.Counts ∧ start ≤ token.start) ↔ ∃ kept ∈ last, start ≤ kept

namespace KeepsLast

variable {last : Option Nat} {before : List Token} {token : Token}

lemma nil : KeepsLast none [] := by
  intro start
  simp

lemma append_of_not_counts (hlast : KeepsLast last before) (htoken : ¬ token.Counts) :
    KeepsLast last (before ++ [token]) := by
  intro start
  rw [← hlast start]
  constructor
  · rintro ⟨other, hmem, hcounts, hstart⟩
    rcases List.mem_append.1 hmem with hmem | hmem
    · exact ⟨other, hmem, hcounts, hstart⟩
    · obtain rfl := List.mem_singleton.1 hmem
      exact absurd hcounts htoken
  · rintro ⟨other, hmem, hrest⟩
    exact ⟨other, List.mem_append_left _ hmem, hrest⟩

lemma append_of_counts (htoken : token.Counts)
    (hbefore : ∀ other ∈ before, other.start < token.start) :
    KeepsLast (some token.start) (before ++ [token]) := by
  intro start
  constructor
  · rintro ⟨other, hmem, hcounts, hstart⟩
    refine ⟨token.start, rfl, ?_⟩
    rcases List.mem_append.1 hmem with hmem | hmem
    · have hlt := hbefore other hmem
      omega
    · obtain rfl := List.mem_singleton.1 hmem
      exact hstart
  · rintro ⟨kept, hkept, hstart⟩
    obtain rfl := Option.some.inj hkept
    exact ⟨token, by simp, htoken, hstart⟩

end KeepsLast

/-- From the line of a comment and the last token before it that counts, the scan finds the line
that a directive speaks about. -/
lemma LineCursor.target_eq {source : Source} {cursor : LineCursor} {last : Option Nat}
    {before : List Token} {offset : Nat} (hvalid : cursor.Valid source)
    (hcovers : cursor.Covers offset) (hlast : KeepsLast last before)
    (hbefore : ∀ token ∈ before, token.start < offset) :
    (cursor.target last : Int) = source.target before offset := by
  have hline : source.lineAt offset = cursor.line := lineAt_eq_line hvalid hcovers
  have hshared : source.Shared before offset ↔ ∃ kept ∈ last, cursor.start ≤ kept := by
    rw [← hlast cursor.start, Source.Shared]
    refine exists_congr fun token => and_congr_right fun hmem => and_congr_right fun _ => ?_
    rw [hline]
    exact lineAt_eq_line_iff hvalid hcovers (Nat.le_of_lt (hbefore token hmem))
  unfold LineCursor.target Source.target
  rw [hline]
  cases last with
  | none =>
    have hnot : ¬ source.Shared before offset := fun hshares => nomatch hshared.1 hshares
    rw [if_neg hnot]
    rfl
  | some kept =>
    by_cases hkept : cursor.start ≤ kept
    · rw [if_pos (hshared.2 ⟨kept, rfl, hkept⟩), if_neg (by simpa using hkept)]
    · have hnot : ¬ source.Shared before offset := by
        intro hshares
        obtain ⟨other, hother, hle⟩ := hshared.1 hshares
        obtain rfl := Option.some.inj hother
        exact hkept hle
      rw [if_neg hnot, if_pos (by simpa using hkept)]
      rfl

namespace Source

/-- What the scan makes of the token at a place. -/
def placed? (source : Source) (entry : Token × Nat) : Option PlacedDirective :=
  if entry.1.kind = .lineComment then
    (Directive.ofComment? entry.1.chars).map fun directive =>
      ⟨(source.target (source.tokens.take entry.2) entry.1.start).toNat, directive⟩
  else none

lemma placed?_of_kind_ne (source : Source) (token : Token) (place : Nat)
    (hkind : token.kind ≠ .lineComment) : source.placed? (token, place) = none :=
  if_neg hkind

lemma starts_around {source : Source} {before rest : List Token} {token : Token}
    (htokens : source.tokens = before ++ token :: rest) :
    (∀ other ∈ before, other.start < token.start) ∧ ∀ later ∈ rest, token.start < later.start := by
  have hascending := Token.scan_ascending source.chars
  rw [← tokens, htokens, List.pairwise_append, List.pairwise_cons] at hascending
  obtain ⟨-, ⟨hlater, -⟩, hbefore⟩ := hascending
  exact ⟨fun other hmem => hbefore other hmem token List.mem_cons_self, hlater⟩

lemma eq_nil_after_endOfFile {source : Source} {before rest : List Token} {token : Token}
    (htokens : source.tokens = before ++ token :: rest) (hkind : token.kind = .endOfFile) :
    rest = [] := by
  have hendOfFile := Token.scan_endOfFile source.chars
  rw [← tokens, htokens, List.pairwise_append, List.pairwise_cons] at hendOfFile
  obtain ⟨-, ⟨hlater, -⟩, -⟩ := hendOfFile
  exact List.eq_nil_iff_forall_not_mem.2 fun later hmem => hlater later hmem hkind

/-- From any place on, the scan makes of each token what is to be made of it. -/
lemma placeDirectives_eq (source : Source) {cursor : LineCursor} {last : Option Nat}
    {before rest : List Token} (htokens : source.tokens = before ++ rest)
    (hvalid : cursor.Valid source) (hstart : ∀ token ∈ rest, cursor.start ≤ token.start)
    (hlast : KeepsLast last before) :
    placeDirectives cursor last rest =
      (rest.zipIdx before.length).filterMap source.placed? := by
  fun_induction placeDirectives cursor last rest generalizing before with
  | case1 cursor last => rfl
  | case2 cursor last token rest hkind =>
    obtain rfl := eq_nil_after_endOfFile htokens hkind
    have hnone := source.placed?_of_kind_ne token before.length (by simp [hkind])
    rw [List.zipIdx_cons, List.filterMap_cons_none hnone]
    rfl
  | case3 cursor last token rest hkind ih =>
    have hnone := source.placed?_of_kind_ne token before.length (by simp [hkind])
    have hkeeps : KeepsLast last (before ++ [token]) :=
      hlast.append_of_not_counts (by simp [Token.Counts, hkind])
    have hrest := ih (by simp [htokens]) hvalid
      (fun later hmem => hstart later (List.mem_cons_of_mem _ hmem)) hkeeps
    rw [List.zipIdx_cons, List.filterMap_cons_none hnone, hrest, List.length_append]
    rfl
  | case4 cursor last token rest hkind hnone ih =>
    have hnone : source.placed? (token, before.length) = none := by
      simp [placed?, hkind, hnone]
    have hkeeps : KeepsLast last (before ++ [token]) :=
      hlast.append_of_not_counts (by simp [Token.Counts, hkind])
    have hrest := ih (by simp [htokens]) hvalid
      (fun later hmem => hstart later (List.mem_cons_of_mem _ hmem)) hkeeps
    rw [List.zipIdx_cons, List.filterMap_cons_none hnone, hrest, List.length_append]
    rfl
  | case5 cursor last token rest hkind directive hsome ih =>
    obtain ⟨hbefore, hlater⟩ := starts_around htokens
    obtain ⟨hmoved, hcovers⟩ :=
      LineCursor.moveTo_spec hvalid (hstart token List.mem_cons_self)
    have htarget := LineCursor.target_eq hmoved hcovers hlast hbefore
    have hplaced : source.placed? (token, before.length) =
        some ⟨(cursor.moveTo token.start).target last, directive⟩ := by
      simp [placed?, hkind, hsome, htokens, ← htarget]
    have hkeeps : KeepsLast last (before ++ [token]) :=
      hlast.append_of_not_counts (by simp [Token.Counts, hkind])
    have hrest := ih (by simp [htokens]) hmoved
      (fun later hmem => Nat.le_of_lt (Nat.lt_of_le_of_lt hcovers.start_le (hlater later hmem)))
      hkeeps
    rw [List.zipIdx_cons, List.filterMap_cons_some hplaced, hrest, List.length_append]
    rfl
  | case6 cursor last token rest hendOfFile hwhitespace hcomment ih =>
    obtain ⟨hbefore, hlater⟩ := starts_around htokens
    have hnone := source.placed?_of_kind_ne token before.length hcomment
    have hkeeps : KeepsLast (some token.start) (before ++ [token]) :=
      .append_of_counts ⟨hwhitespace, hcomment⟩ hbefore
    have hrest := ih (by simp [htokens]) hvalid
      (fun later hmem => hstart later (List.mem_cons_of_mem _ hmem)) hkeeps
    rw [List.zipIdx_cons, List.filterMap_cons_none hnone, hrest, List.length_append]
    rfl

/-- The directives that the scan lists are those that stand at the places of the tokens, in
order. -/
theorem directives_eq (source : Source) :
    source.directives = source.tokens.zipIdx.filterMap source.placed? :=
  source.placeDirectives_eq rfl (LineCursor.valid_first source) (fun _ _ => Nat.zero_le _) .nil

/-! ## The two agree -/

lemma target_nonneg (source : Source) (before : List Token) (offset : Nat) :
    0 ≤ source.target before offset := by
  have hline := source.lineAt_natCast_nonneg offset
  unfold target
  split
  · exact hline
  · omega

lemma placed?_eq_some_iff {source : Source} {place : Nat} {token : Token}
    (htoken : source.tokens[place]? = some token) {placed : PlacedDirective} :
    source.placed? (token, place) = some placed ↔
      source.Asserts place placed.directive placed.line := by
  have hmem : token ∈ Token.scan source.chars := List.mem_of_getElem? htoken
  have hnonneg := source.target_nonneg (source.tokens.take place) token.start
  by_cases hkind : token.kind = .lineComment
  · have hline : '\n' ∉ token.chars :=
      fun hc => nomatch Token.not_isLineEnd_of_mem_scan hmem hkind hc
    rw [placed?, if_pos hkind, Option.map_eq_some_iff]
    constructor
    · rintro ⟨directive, hstates, rfl⟩
      have htext := (Directive.ofComment?_eq_some_iff hline).1 hstates
      exact ⟨token, htoken, hkind, htext, Int.toNat_of_nonneg hnonneg⟩
    · rintro ⟨comment, hcomment, -, htext, htarget⟩
      obtain rfl := Option.some.inj (htoken.symm.trans hcomment)
      refine ⟨placed.directive, (Directive.ofComment?_eq_some_iff hline).2 htext, ?_⟩
      rw [← htarget, Int.toNat_natCast]
  · refine iff_of_false (by simp [source.placed?_of_kind_ne token place hkind]) ?_
    rintro ⟨comment, hcomment, hcomment', -⟩
    obtain rfl := Option.some.inj (htoken.symm.trans hcomment)
    exact hkind hcomment'

/-- A directive stands at a place if the scan makes it of the token there. -/
lemma asserts_iff {source : Source} {place : Nat} {directive : Directive} {line : Int} :
    source.Asserts place directive line ↔ ∃ token placed, source.tokens[place]? = some token ∧
      source.placed? (token, place) = some placed ∧ placed.directive = directive ∧
      (placed.line : Int) = line := by
  constructor
  · intro hasserts
    obtain ⟨token, htoken, -, -, htarget⟩ := id hasserts
    have hnonneg := source.target_nonneg (source.tokens.take place) token.start
    have hline : (line.toNat : Int) = line := Int.toNat_of_nonneg (by omega)
    refine ⟨token, ⟨line.toNat, directive⟩, htoken, (placed?_eq_some_iff htoken).2 ?_, rfl, hline⟩
    exact hline.symm ▸ hasserts
  · rintro ⟨token, placed, htoken, hplaced, rfl, rfl⟩
    exact (placed?_eq_some_iff htoken).1 hplaced

/-- The scan lists just the directives that stand somewhere among the tokens. -/
theorem mem_directives_iff {source : Source} {directive : Directive} {line : Int} :
    (∃ placed ∈ source.directives, placed.directive = directive ∧ (placed.line : Int) = line) ↔
      ∃ place, source.Asserts place directive line := by
  simp only [directives_eq, List.mem_filterMap, Prod.exists, List.mem_zipIdx_iff_getElem?,
    asserts_iff]
  constructor
  · rintro ⟨placed, ⟨token, place, htoken, hplaced⟩, hdirective, hline⟩
    exact ⟨place, token, placed, htoken, hplaced, hdirective, hline⟩
  · rintro ⟨place, token, placed, htoken, hplaced, hdirective, hline⟩
    exact ⟨placed, ⟨token, place, htoken, hplaced⟩, hdirective, hline⟩

/-- The scan lists no two directives of one kind for one line exactly if no two such stand at
different places. -/
theorem nodup_directives_iff {source : Source} :
    (source.directives.map (·.key)).Nodup ↔
      ∀ place place' directive directive' line, source.Asserts place directive line →
        source.Asserts place' directive' line → directive.kind = directive'.kind →
          place = place' := by
  rw [directives_eq, List.Nodup, List.pairwise_map, List.pairwise_filterMap,
    List.pairwise_iff_getElem]
  simp only [List.length_zipIdx, List.getElem_zipIdx, Nat.zero_add]
  constructor
  · intro hnodup
    have hdiffer : ∀ place place' directive directive' line, place < place' →
        source.Asserts place directive line → source.Asserts place' directive' line →
          directive.kind ≠ directive'.kind := by
      intro place place' directive directive' line hlt hfirst hsecond hkind
      obtain ⟨token, placed, htoken, hplaced, rfl, rfl⟩ := asserts_iff.1 hfirst
      obtain ⟨token', placed', htoken', hplaced', rfl, hline⟩ := asserts_iff.1 hsecond
      obtain ⟨hbound, rfl⟩ := List.getElem?_eq_some_iff.1 htoken
      obtain ⟨hbound', rfl⟩ := List.getElem?_eq_some_iff.1 htoken'
      apply hnodup place place' hbound hbound' hlt placed hplaced placed' hplaced'
      exact Prod.ext hline.symm hkind
    intro place place' directive directive' line hfirst hsecond hkind
    rcases Nat.lt_trichotomy place place' with hlt | heq | hgt
    · exact absurd hkind (hdiffer _ _ _ _ _ hlt hfirst hsecond)
    · exact heq
    · exact absurd hkind.symm (hdiffer _ _ _ _ _ hgt hsecond hfirst)
  · intro hunique place place' hbound hbound' hlt placed hplaced placed' hplaced' hkey
    have htoken := List.getElem?_eq_getElem hbound
    have htoken' := List.getElem?_eq_getElem hbound'
    have hfirst := (placed?_eq_some_iff htoken).1 hplaced
    have hsecond := (placed?_eq_some_iff htoken').1 hplaced'
    have hline : (placed.line : Int) = placed'.line := congrArg Prod.fst hkey
    have hsame := hunique place place' _ _ _ hfirst (hline ▸ hsecond) (congrArg Prod.snd hkey)
    omega

end Source

end TypeTest
