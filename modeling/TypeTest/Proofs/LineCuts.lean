import TypeTest.Proofs.DirectivesPerLine
import TypeTest.Proofs.LineBreaks
import TypeTest.Proofs.TokenCover

/-!
# Cutting a text behind a line break

Directives can be looked for in a text part by part, if it is cut where a token that is a line break
ends.  Code that is added behind a finished line does not change what the directives before it speak
about, and code that is added before only moves the lines.  This is the main result
(`Source.directives_cut`), and it comes from three things.

No rule looks more than one character past what it takes (`Token.Local`).  A token before the break
has at least the break behind it, so that it is the same without the rest of the text; and the break
itself is the same when it stands alone.  Hence the scan can be cut (`Token.scanFrom_cut`).

A line break ends at an offset by what stands on both sides of it.  Hence the lines before the cut
stay the same, and those behind it are counted on (`Source.lineAt_take`, `Source.lineAt_add`).

A directive shares its line only with tokens of its own part, since a line starts at the cut
(`Source.target_drop`).
-/

namespace TypeTest

open Unicode (isLineEnd)

namespace Token

/-! ## How far the rules look -/

/-- A rule looks no more than one character past what it takes: if there is such a character, then
what the rule takes does not depend on what comes after it. -/
def Local (rule : List Char → List Char) : Prop :=
  ∀ text more, (rule (text ++ more)).length < text.length → rule text = rule (text ++ more)

lemma local_takeWhile (p : Char → Bool) : Local (List.takeWhile p) := by
  intro text more hshort
  rw [List.takeWhile_append] at hshort ⊢
  split at hshort
  · rw [List.length_append] at hshort
    omega
  · rename_i hends
    rw [if_neg hends]

/-- A line break is decided on by two characters. -/
lemma local_newline : Local newline := by
  intro text more hshort
  match text with
  | [] => exact absurd hshort (Nat.not_lt_zero _)
  | [c] =>
    have hnone : newline (c :: more) = [] := List.length_eq_zero_iff.1 (Nat.lt_one_iff.1 hshort)
    have hc := newline_eq_nil_iff.1 hnone
    rw [List.cons_append, List.nil_append, hnone, newline_eq_nil_iff.2 hc]
  | c :: d :: rest =>
    by_cases hpair : c = '\r' ∧ d = '\n'
    · obtain ⟨rfl, rfl⟩ := hpair
      rfl
    · have hnot : ∀ more others, c = '\r' → d :: more = '\n' :: others → False :=
        fun more others hc hd => hpair ⟨hc, (List.cons.inj hd).1⟩
      rw [newline.eq_2 _ _ (hnot _), List.cons_append, List.cons_append, newline.eq_2 _ _ (hnot _)]

/-- A comment is decided on by its two opening characters, and then by its body. -/
lemma local_of_opened {rule body : List Char → List Char} {mark : Char}
    (hopened : ∀ rest, rule ('/' :: mark :: rest) = '/' :: mark :: body rest)
    (hother : ∀ text, (∀ rest, text = '/' :: mark :: rest → False) → rule text = [])
    (hbody : Local body) : Local rule := by
  intro text more hshort
  by_cases hopen : ∃ rest, text = '/' :: mark :: rest
  · obtain ⟨rest, rfl⟩ := hopen
    rw [List.cons_append, List.cons_append, hopened] at hshort ⊢
    rw [hopened, hbody rest more (by simpa using hshort)]
  · have hnot : ∀ rest, text ++ more = '/' :: mark :: rest → False := by
      intro rest htext
      match text with
      | [] => exact Nat.not_lt_zero _ hshort
      | [c] =>
        rw [htext, hopened] at hshort
        exact absurd hshort (by simp)
      | c :: d :: others =>
        obtain ⟨rfl, htail⟩ := List.cons.inj htext
        obtain ⟨rfl, -⟩ := List.cons.inj htail
        exact hopen ⟨others, rfl⟩
    rw [hother text fun rest htext => hopen ⟨rest, htext⟩, hother _ hnot]

lemma local_lineComment : Local lineComment :=
  local_of_opened (fun _ => rfl) lineComment.eq_2 (local_takeWhile _)

lemma local_blockBody : Local blockBody := by
  intro text more hshort
  fun_induction blockBody text with
  | case1 rest => rfl
  | case2 c rest hopen ih =>
    have hopen' : ∀ others, c = '*' → rest ++ more = '/' :: others → False := by
      rintro others rfl hclosed
      cases rest with
      | nil =>
        -- the text would end with the star of a closing that takes two characters
        rw [List.cons_append, hclosed] at hshort
        exact absurd hshort (by simp [blockBody])
      | cons d rest =>
        obtain ⟨rfl, -⟩ := List.cons.inj hclosed
        exact hopen rest rfl rfl
    rw [List.cons_append, blockBody.eq_2 _ _ hopen'] at hshort ⊢
    rw [ih (Nat.lt_of_succ_lt_succ hshort)]
  | case3 => exact absurd hshort (Nat.not_lt_zero _)

lemma local_literalBody (quote : Char) (oneLine : Bool) : Local (literalBody quote oneLine) := by
  intro text more hshort
  fun_induction literalBody quote oneLine text with
  | case1 => exact absurd hshort (Nat.not_lt_zero _)
  | case2 =>
    cases more with
    | nil => rfl
    | cons escaped more => exact absurd hshort (by simp [literalBody])
  | case3 escaped rest ih =>
    rw [List.cons_append, List.cons_append, literalBody] at hshort ⊢
    rw [ih (Nat.lt_of_succ_lt_succ (Nat.lt_of_succ_lt_succ hshort))]
  | case4 rest hlast hescape =>
    have hbackslash := Marker.ne_backslash hlast hescape
    rw [List.cons_append, literalBody_cons hbackslash, if_pos rfl]
  | case5 c rest hlast hescape hquote hend =>
    have hbackslash := Marker.ne_backslash hlast hescape
    rw [List.cons_append, literalBody_cons hbackslash, if_neg hquote, if_pos hend]
  | case6 c rest hlast hescape hquote hend ih =>
    have hbackslash := Marker.ne_backslash hlast hescape
    rw [List.cons_append, literalBody_cons hbackslash, if_neg hquote, if_neg hend] at hshort ⊢
    rw [ih (Nat.lt_of_succ_lt_succ hshort)]

lemma local_literal : Local literal := by
  intro text more hshort
  cases text with
  | nil => exact absurd hshort (Nat.not_lt_zero _)
  | cons c rest =>
    rw [List.cons_append, literal] at hshort ⊢
    rw [literal]
    split
    · rename_i hquote
      rw [if_pos hquote] at hshort
      rw [local_literalBody c true rest more (Nat.lt_of_succ_lt_succ hshort)]
    · rename_i hquote
      rw [if_neg hquote] at hshort
      split
      · rename_i hback
        rw [if_pos hback] at hshort
        rw [local_literalBody c false rest more (Nat.lt_of_succ_lt_succ hshort)]
      · rfl

lemma local_take_one : Local (List.take 1) := by
  intro text more hshort
  cases text with
  | nil => exact absurd hshort (Nat.not_lt_zero _)
  | cons c rest => rfl

/-- None of the alternatives looks farther. -/
lemma local_of_mem_alternatives : ∀ rule ∈ alternatives, Local rule.2 := by
  simp only [alternatives, rules, List.cons_append, List.nil_append, List.forall_mem_cons]
  exact ⟨local_newline, local_takeWhile _, local_lineComment,
    local_of_opened (fun _ => rfl) blockComment.eq_2 local_blockBody, local_literal,
    local_takeWhile _, local_take_one, List.forall_mem_nil _⟩

lemma findSome?_local {rules : List (Kind × (List Char → List Char))}
    (hrules : ∀ rule ∈ rules, Local rule.2) {text more : List Char} {token : Kind × List Char}
    (hfound : rules.findSome? (takenBy? (text ++ more)) = some token)
    (hshort : token.2.length < text.length) : rules.findSome? (takenBy? text) = some token := by
  induction rules with
  | nil => cases hfound
  | cons rule rules ih =>
    obtain ⟨hrule, hrules⟩ := List.forall_mem_cons.1 hrules
    have hsame := hrule text more
    rw [List.findSome?_cons, takenBy?] at hfound ⊢
    cases htaken : rule.2 (text ++ more) with
    | nil =>
      rw [htaken] at hfound hsame
      rw [hsame (Nat.zero_lt_of_lt hshort)]
      exact ih hrules hfound
    | cons c taken =>
      rw [htaken] at hfound hsame
      obtain rfl := Option.some.inj hfound
      rw [hsame hshort]

/-- The first token of a text stays the same when the text goes on in another way, more than one
character past it. -/
lemma first_local {c : Char} {rest more : List Char}
    (hshort : (first c (rest ++ more)).2.length < (c :: rest).length) :
    first c rest = first c (rest ++ more) := by
  have hfirst : alternatives.findSome? (takenBy? (c :: rest)) = some (first c (rest ++ more)) :=
    findSome?_local local_of_mem_alternatives (alternatives_cons c (rest ++ more)) hshort
  exact Option.some.inj ((alternatives_cons c rest).symm.trans hfirst)

/-! ## Cutting the scan -/

/-- A token other than the last one takes something. -/
lemma lt_stop_of_mem_scanFrom {offset : Nat} {text : List Char} {token : Token}
    (hmem : token ∈ scanFrom offset text) (hkind : token.kind ≠ .endOfFile) :
    offset < token.stop := by
  have hstart := le_start_of_mem_scanFrom hmem
  obtain ⟨tokens, hscan, htokens, -⟩ := exists_tokens offset text
  rw [hscan] at hmem
  rcases List.mem_append.1 hmem with hmem | hmem
  · have hpos := List.length_pos_iff.2 (htokens token hmem).2
    unfold stop
    omega
  · obtain rfl := List.mem_singleton.1 hmem
    exact absurd rfl hkind

/-- Behind a line break a line starts. -/
lemma stop_mem_startsAfterBreaks {offset : Nat} {text : List Char} {token : Token}
    (hmem : token ∈ scanFrom offset text) (hkind : token.kind = .newline) :
    token.stop ∈ startsAfterBreaks offset text := by
  fun_induction scanFrom offset text with
  | case1 offset =>
    obtain rfl := List.mem_singleton.1 hmem
    cases hkind
  | case2 offset c rest ih =>
    rcases List.mem_cons.1 hmem with rfl | hmem
    · obtain ⟨hc, htaken⟩ := first_eq_newline hkind
      rw [stop, htaken]
      exact newline_mem_startsAfterBreaks hc offset rest
    · exact mem_startsAfterBreaks_drop _ (ih hmem)

/-- A line break that stands alone is taken for what it was. -/
lemma newline_newline (text : List Char) : newline (newline text) = newline text := by
  rw [newline.eq_def text]
  split
  · rfl
  · rename_i c rest hpair
    split
    · rename_i hc
      have halone : ∀ rest, c = '\r' → [] = '\n' :: rest → False :=
        fun _ _ hlf => absurd hlf.symm (List.cons_ne_nil _ _)
      rw [newline.eq_2 c [] halone, if_pos hc]
    · rfl
  · rfl

/-- If the first token of a text is a line break, the text up to its end has it as its only one. -/
lemma scanFrom_newline {c : Char} {rest more : List Char}
    (hkind : (first c (rest ++ more)).1 = .newline)
    (hlength : (first c (rest ++ more)).2.length = (c :: rest).length) (offset : Nat) :
    (first c (rest ++ more)).2 = c :: rest ∧ scanFrom offset (c :: rest) =
      [⟨.newline, offset, c :: rest⟩, ⟨.endOfFile, offset + (c :: rest).length, []⟩] := by
  obtain ⟨hc, htaken⟩ := first_eq_newline hkind
  have htext : (first c (rest ++ more)).2 = c :: rest := by
    rw [List.prefix_iff_eq_take.1 (opens_first c (rest ++ more)).begins, hlength]
    exact List.take_left
  have halone : newline (c :: rest) = c :: rest := by
    rw [← htext, htaken, newline_newline]
  refine ⟨htext, ?_⟩
  rw [scanFrom, first_newline hc, halone, List.drop_length, scanFrom]

/-- **A scan can be cut behind a line break.**  Up to there the tokens are those of the text up to
there, and from there on the scan goes on like a new one. -/
lemma scanFrom_cut {offset : Nat} {text more : List Char} {token : Token}
    (hmem : token ∈ scanFrom offset (text ++ more)) (hkind : token.kind = .newline)
    (hstop : token.stop = offset + text.length) :
    ∃ before, scanFrom offset (text ++ more) = before ++ scanFrom token.stop more ∧
      scanFrom offset text = before ++ [⟨.endOfFile, token.stop, []⟩] := by
  have hother : token.kind ≠ .endOfFile := by
    rw [hkind]
    exact nofun
  have hlt := lt_stop_of_mem_scanFrom hmem hother
  match text with
  | [] => exact absurd hstop (Nat.ne_of_gt hlt)
  | c :: rest =>
    rw [List.cons_append, scanFrom] at hmem ⊢
    rcases List.mem_cons.1 hmem with hfirst | hlater
    · rw [hfirst] at hkind hstop ⊢
      have hkind' : (first c (rest ++ more)).1 = .newline := hkind
      obtain ⟨htext, hscan⟩ := scanFrom_newline hkind' (Nat.add_left_cancel hstop) offset
      refine ⟨[⟨.newline, offset, c :: rest⟩], ?_, ?_⟩
      · rw [hstop, hkind', htext, ← List.cons_append, List.drop_left]
        rfl
      · rw [hscan, hstop]
        rfl
    · have hshort := lt_stop_of_mem_scanFrom hlater hother
      rw [hstop] at hshort
      have hlocal := first_local (Nat.lt_of_add_lt_add_left hshort)
      rw [← List.cons_append, List.drop_append_of_le_length
        (Nat.le_of_lt (Nat.lt_of_add_lt_add_left hshort))] at hlater ⊢
      have hstop' : token.stop = offset + (first c (rest ++ more)).2.length +
          ((c :: rest).drop (first c (rest ++ more)).2.length).length := by
        rw [List.length_drop]
        omega
      obtain ⟨before, hscan, hcut⟩ := scanFrom_cut hlater hkind hstop'
      refine ⟨⟨(first c (rest ++ more)).1, offset, (first c (rest ++ more)).2⟩ :: before, ?_, ?_⟩
      · rw [hscan, List.cons_append]
      · rw [scanFrom, hlocal, hcut, List.cons_append]
termination_by text.length
decreasing_by
  have hpos := List.length_pos_iff.2 (first_ne_nil c (rest ++ more))
  rw [List.length_drop, List.length_cons]
  omega

/-- A token of the same text further behind. -/
def moved (distance : Nat) (token : Token) : Token :=
  { token with start := distance + token.start }

lemma scanFrom_add (distance offset : Nat) (text : List Char) :
    scanFrom (distance + offset) text = (scanFrom offset text).map (moved distance) := by
  fun_induction scanFrom offset text with
  | case1 offset =>
    rw [scanFrom]
    rfl
  | case2 offset c rest ih =>
    rw [scanFrom, Nat.add_assoc, ih]
    rfl

end Token

/-! ## Cutting the lines -/

lemma breakEndsAt_take {text : List Char} {offset place : Nat} (hplace : place < offset) :
    BreakEndsAt (text.take offset) place ↔ BreakEndsAt text place := by
  cases place with
  | zero => exact Iff.rfl
  | succ place =>
    rw [BreakEndsAt, BreakEndsAt, List.getElem?_take_of_lt (Nat.lt_of_succ_lt hplace),
      List.getElem?_take_of_lt hplace]

lemma breakEndsAt_drop {text : List Char} {offset place : Nat} :
    BreakEndsAt (text.drop offset) (place + 1) ↔ BreakEndsAt text (offset + place + 1) := by
  rw [BreakEndsAt, BreakEndsAt, List.getElem?_drop, List.getElem?_drop, Nat.add_assoc]

namespace Source

/-- The source with the text up to an offset. -/
def take (source : Source) (offset : Nat) : Source := { chars := source.chars.take offset }

/-- The source with the text from an offset on. -/
def drop (source : Source) (offset : Nat) : Source := { chars := source.chars.drop offset }

/-- Up to the cut, offsets lie on the same lines. -/
lemma lineAt_take {source : Source} {stop offset : Nat} (hoffset : offset < stop) :
    (source.take stop).lineAt offset = source.lineAt offset := by
  rw [lineAt_natCast, lineAt_natCast]
  congr 1
  refine List.countP_congr fun place hplace => ?_
  rw [decide_eq_true_iff, decide_eq_true_iff]
  exact breakEndsAt_take (Nat.lt_of_lt_of_le (List.mem_range.1 hplace) hoffset)

/-- From the cut on, lines are counted from its line on. -/
lemma lineAt_add (source : Source) (stop offset : Nat) :
    source.lineAt (stop + offset : Nat) =
      source.lineAt stop + (source.drop stop).lineAt offset := by
  have hplaces : List.range (stop + offset + 1) =
      List.range (stop + 1) ++ (List.range offset).map fun place => stop + 1 + place := by
    rw [← List.range_add, Nat.add_right_comm]
  have hlater : (List.range (offset + 1)).countP (BreakEndsAt (source.drop stop).chars ·) =
      (List.range offset).countP fun place => BreakEndsAt source.chars (stop + 1 + place) := by
    have hfirst : ¬ decide (BreakEndsAt (source.drop stop).chars 0) = true := of_decide_eq_true
    rw [List.range_succ_eq_map, List.countP_cons, if_neg hfirst, Nat.add_zero, List.countP_map]
    refine List.countP_congr fun place _ => ?_
    rw [Function.comp_apply, decide_eq_true_iff, decide_eq_true_iff, Nat.add_right_comm]
    exact breakEndsAt_drop
  rw [lineAt_natCast, lineAt_natCast, lineAt_natCast, hplaces, List.countP_append, List.countP_map,
    hlater]
  rfl

/-! ## Cutting the directives -/

/-- The update that the token at a place of a source asks for. -/
def update? (source : Source) (entry : Token × Nat) : Option (Int × Directive) :=
  (source.placed? entry).map (·.update)

lemma update?_eq (source : Source) (token : Token) (place : Nat) :
    source.update? (token, place) =
      if token.kind = .lineComment then
        (Directive.ofComment? token.chars).map fun directive =>
          (source.target (source.tokens.take place) token.start, directive)
      else none := by
  have hnonneg := source.target_nonneg (source.tokens.take place) token.start
  rw [update?, placed?]
  split
  · rw [Option.map_map]
    refine Option.map_congr fun directive _ => ?_
    exact Prod.ext (Int.toNat_of_nonneg hnonneg) rfl
  · rfl

lemma map_update_directives (source : Source) :
    source.directives.map (·.update) = source.tokens.zipIdx.filterMap source.update? := by
  rw [directives_eq, List.map_filterMap]
  rfl

/-- A directive before the cut speaks about the same line. -/
lemma target_take {source : Source} {stop offset : Nat} {before : List Token}
    (hbefore : ∀ token ∈ before, token.start < stop) (hoffset : offset < stop) :
    (source.take stop).target before offset = source.target before offset := by
  have hshared : (source.take stop).Shared before offset ↔ source.Shared before offset := by
    refine exists_congr fun token => and_congr_right fun hmem => and_congr_right fun _ => ?_
    rw [lineAt_take (hbefore token hmem), lineAt_take hoffset]
  rw [target, target, lineAt_take hoffset]
  simp only [hshared]

/-- A line starts at the cut, and so what comes before it has no part in what comes after. -/
lemma target_drop {source : Source} {stop : Nat} (hstop : stop ∈ source.lineStarts)
    {before : List Token} (hbefore : ∀ token ∈ before, token.start < stop) (later : List Token)
    (offset : Nat) :
    source.target (before ++ later.map (Token.moved stop)) (stop + offset) =
      (source.drop stop).target later offset + source.lineAt stop := by
  have hshared : source.Shared (before ++ later.map (Token.moved stop)) (stop + offset) ↔
      (source.drop stop).Shared later offset := by
    constructor
    · rintro ⟨token, hmem, hcounts, hline⟩
      rcases List.mem_append.1 hmem with hmem | hmem
      · have hlt := lineAt_lt_lineAt hstop (hbefore token hmem) (Nat.le_add_right stop offset)
        exact absurd hline (Int.ne_of_lt hlt)
      · obtain ⟨found, hfound, rfl⟩ := List.mem_map.1 hmem
        rw [Token.moved, lineAt_add, lineAt_add] at hline
        exact ⟨found, hfound, hcounts, Int.add_left_cancel hline⟩
    · rintro ⟨token, hmem, hcounts, hline⟩
      refine ⟨token.moved stop, List.mem_append_right _ (List.mem_map_of_mem hmem), hcounts, ?_⟩
      rw [Token.moved, lineAt_add, lineAt_add, hline]
  rw [target, target, lineAt_add]
  simp only [hshared]
  split
  · exact Int.add_comm _ _
  · omega

/-- A source is cut at the start of a line: the tokens of its first part come first, and those of
its second part come after them. -/
structure IsCut (source : Source) (stop : Nat) (before : List Token) : Prop where
  tokens_eq : source.tokens = before ++ (source.drop stop).tokens.map (Token.moved stop)
  take_eq : (source.take stop).tokens = before ++ [⟨.endOfFile, stop, []⟩]
  mem_lineStarts : stop ∈ source.lineStarts

/-- Behind a line break a source can be cut. -/
lemma exists_isCut {source : Source} {token : Token} (hmem : token ∈ source.tokens)
    (hkind : token.kind = .newline) : ∃ before, source.IsCut token.stop before := by
  have hstart := Token.stop_mem_startsAfterBreaks hmem hkind
  obtain ⟨place, hplace, hends⟩ := mem_startsAfterBreaks_iff.1 hstart
  rw [Nat.zero_add] at hplace
  have hlength : token.stop = 0 + (source.chars.take token.stop).length := by
    rw [Nat.zero_add, List.length_take_of_le (hplace ▸ le_length_of_breakEndsAt hends)]
  have hwhole := List.take_append_drop token.stop source.chars
  have hmem' : token ∈ Token.scanFrom 0
      (source.chars.take token.stop ++ source.chars.drop token.stop) := hwhole.symm ▸ hmem
  obtain ⟨before, hscan, hcut⟩ := Token.scanFrom_cut hmem' hkind hlength
  refine ⟨before, ?_, hcut, ?_⟩
  · have hlater := Token.scanFrom_add token.stop 0 (source.chars.drop token.stop)
    rw [Nat.add_zero] at hlater
    rw [hwhole, hlater] at hscan
    exact hscan
  · rw [lineStarts_eq]
    exact List.mem_cons_of_mem _ hstart

namespace IsCut

variable {source : Source} {stop : Nat} {before : List Token}

lemma start_lt (hcut : source.IsCut stop before) : ∀ token ∈ before, token.start < stop :=
  (starts_around hcut.take_eq).1

/-- The tokens before the cut ask for the updates that they ask for in the first part. -/
lemma update?_take (hcut : source.IsCut stop before) {token : Token} {place : Nat}
    (htoken : before[place]? = some token) :
    source.update? (token, place) = (source.take stop).update? (token, place) := by
  have hplace := Nat.le_of_lt (List.getElem?_eq_some_iff.1 htoken).1
  have hstart := hcut.start_lt token (List.mem_of_getElem? htoken)
  rw [update?_eq, update?_eq, hcut.tokens_eq, hcut.take_eq, List.take_append_of_le_length hplace,
    List.take_append_of_le_length hplace,
    target_take (fun kept hkept => hcut.start_lt kept (List.mem_of_mem_take hkept)) hstart]

/-- The tokens after the cut ask for the updates that they ask for in the second part, on lines
further below. -/
lemma update?_drop (hcut : source.IsCut stop before) (token : Token) (place : Nat) :
    source.update? (token.moved stop, before.length + place) =
      ((source.drop stop).update? (token, place)).map fun update =>
        (update.1 + source.lineAt stop, update.2) := by
  have htarget := target_drop hcut.mem_lineStarts hcut.start_lt
    ((source.drop stop).tokens.take place) token.start
  rw [update?_eq, update?_eq, hcut.tokens_eq, List.take_length_add_append, ← List.map_take]
  by_cases hcomment : token.kind = .lineComment
  · have hmoved : (token.moved stop).kind = .lineComment := hcomment
    rw [if_pos hmoved, if_pos hcomment, Option.map_map]
    apply Option.map_congr
    intro directive _
    exact Prod.ext htarget rfl
  · have hmoved : ¬ (token.moved stop).kind = .lineComment := hcomment
    rw [if_neg hmoved, if_neg hcomment, Option.map_none]

end IsCut

/-- **Directives can be looked for in parts, if the text is cut behind a line break.**  Those of the
first part come first, with the lines that they speak about in it; those of the second part come
after them, with their lines moved on by the number of line breaks in the first. -/
theorem directives_cut {source : Source} {token : Token} (hmem : token ∈ source.tokens)
    (hkind : token.kind = .newline) :
    source.directives.map (·.update) =
      (source.take token.stop).directives.map (·.update) ++
        ((source.drop token.stop).directives.map (·.update)).map fun update =>
          (update.1 + source.lineAt token.stop, update.2) := by
  obtain ⟨before, hcut⟩ := exists_isCut hmem hkind
  generalize token.stop = stop at hcut ⊢
  have hfirst : before.zipIdx.filterMap source.update? =
      (source.take stop).tokens.zipIdx.filterMap (source.take stop).update? := by
    rw [hcut.take_eq, List.zipIdx_append, List.filterMap_append]
    refine (List.filterMap_congr fun entry hentry => ?_).trans (List.append_nil _).symm
    exact hcut.update?_take (List.mem_zipIdx_iff_getElem?.1 hentry)
  have hsecond : (((source.drop stop).tokens.map (Token.moved stop)).zipIdx
        (0 + before.length)).filterMap source.update? =
      (source.drop stop).tokens.zipIdx.filterMap fun entry =>
        ((source.drop stop).update? entry).map fun update =>
          (update.1 + source.lineAt stop, update.2) := by
    rw [List.zipIdx_map, List.zipIdx_eq_map_add, List.filterMap_map, List.filterMap_map,
      Nat.zero_add]
    apply List.filterMap_congr
    intro entry _
    exact hcut.update?_drop entry.1 entry.2
  rw [map_update_directives, map_update_directives, map_update_directives, List.map_filterMap,
    hcut.tokens_eq, List.zipIdx_append, List.filterMap_append, hfirst, hsecond]

/-- A text with a directive on each of two lines, the first of which ends with CR LF. -/
def twoLines : Source := .ofString "a; // $ExpectError\r\n// $ExpectType b\nc"

/-- The second directive speaks about the line below it, which comes one line later in the whole
text than in the part that begins with it. -/
theorem directives_cut_twoLines :
    (⟨.newline, 18, ['\r', '\n']⟩ : Token) ∈ twoLines.tokens ∧
      ((twoLines.drop 20).directives.map (·.update)) = [(1, .expectType "b")] ∧
      twoLines.directives.map (·.update) = [(0, .expectError), (2, .expectType "b")] := by
  have hmem : (⟨.newline, 18, ['\r', '\n']⟩ : Token) ∈ twoLines.tokens := by decide +kernel
  have hfirst : (twoLines.take 20).directives.map (·.update) = [(0, .expectError)] := by
    decide +kernel
  have hsecond : (twoLines.drop 20).directives.map (·.update) = [(1, .expectType "b")] := by
    decide +kernel
  have hline : twoLines.lineAt 20 = 1 := by decide +kernel
  have hcut : twoLines.directives.map (·.update) =
      (twoLines.take 20).directives.map (·.update) ++
        ((twoLines.drop 20).directives.map (·.update)).map fun update =>
          (update.1 + twoLines.lineAt 20, update.2) := directives_cut hmem rfl
  refine ⟨hmem, hsecond, ?_⟩
  rw [hcut, hfirst, hsecond, hline]
  rfl

end Source

end TypeTest
