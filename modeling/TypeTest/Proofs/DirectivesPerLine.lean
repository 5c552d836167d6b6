import TypeTest.Proofs.DirectivePlaces
import TypeTest.Proofs.Regions

/-!
# How many directives speak about a line

A line comment runs to the end of its line, so there is one on a line at most
(`Token.scanFrom_comments_apart`).  And a directive speaks about the line it stands on or about the
next one.  Therefore a line can be spoken about twice, but not more often: by the directive on the
line above it, and by the one on the line itself.

The main result (`directives_per_line`) says this, and what comes of it for the table of a source.
The second directive for a line stands on the line itself, so that duplicates are found in the order
of their lines.  And a line with a duplicate has no directive of the other kind.
-/

namespace TypeTest

open Unicode (isLineEnd)

/-! ## Between two comments -/

namespace Token

/-- Just past a line break a line starts. -/
lemma newline_mem_startsAfterBreaks {c : Char} (hc : isLineEnd c = true) (offset : Nat)
    (rest : List Char) :
    offset + (newline (c :: rest)).length ∈ startsAfterBreaks offset (c :: rest) := by
  rw [startsAfterBreaks.eq_def]
  split
  · rename_i heq
    cases heq
  · rename_i more heq
    obtain ⟨rfl, rfl⟩ := List.cons.inj heq
    exact List.mem_cons_self
  · rename_i other rest hpair heq
    obtain ⟨rfl, rfl⟩ := List.cons.inj heq
    rw [if_pos hc, newline.eq_2 _ _ fun more hcr hrest => hpair more hcr hrest, if_pos hc]
    exact List.mem_cons_self

/-- A text that begins with a line break has it as its first token. -/
lemma first_newline {c : Char} (hc : isLineEnd c = true) (rest : List Char) :
    first c rest = (.newline, newline (c :: rest)) := by
  have htaken : takenBy? (c :: rest) (.newline, newline) =
      some (.newline, newline (c :: rest)) := by
    unfold takenBy?
    split
    · rename_i hnone
      exact nomatch hc.symm.trans (newline_eq_nil_iff.1 hnone)
    · rfl
  rw [first, rules, List.findSome?_cons, htaken]
  rfl

/-- Behind a line comment the text ends, or a line break follows. -/
lemma Opens.isLineEnd_of_lineComment {text : List Char} {token : Kind × List Char}
    (hopens : Opens text token) (hkind : token.1 = .lineComment) {c : Char} {more : List Char}
    (hmore : text.drop token.2.length = c :: more) : isLineEnd c = true := by
  cases hopens with
  | lineComment rest =>
    have hdrop : (rest.takeWhile (fun c => !isLineEnd c) ++
        rest.dropWhile fun c => !isLineEnd c).drop (rest.takeWhile fun c => !isLineEnd c).length =
          c :: more := by
      rw [List.takeWhile_append_dropWhile]
      exact hmore
    have hhead := List.head?_dropWhile_not (fun c => !isLineEnd c) rest
    rw [List.drop_left] at hdrop
    rw [hdrop] at hhead
    simpa using hhead
  | blockComment rest => cases hkind
  | literal quote rest hquote => cases hkind
  | slash rest hslash hstar => cases hkind
  | inert kind taken rest hregion htaken =>
    subst hkind
    cases hregion

/-- Behind a line comment the scan goes on with a line break, if it finds another comment. -/
lemma exists_start_of_mem_scanFrom {offset : Nat} {text : List Char}
    (hend : ∀ c more, text = c :: more → isLineEnd c = true) {later : Token}
    (hmem : later ∈ scanFrom offset text) (hkind : later.kind = .lineComment) :
    ∃ start ∈ startsAfterBreaks offset text, start ≤ later.start := by
  cases text with
  | nil =>
    rw [scanFrom, List.mem_singleton] at hmem
    subst hmem
    cases hkind
  | cons c more =>
    have hc := hend c more rfl
    refine ⟨_, newline_mem_startsAfterBreaks hc offset more, ?_⟩
    rw [scanFrom, first_newline hc] at hmem
    rcases List.mem_cons.1 hmem with rfl | hmem
    · cases hkind
    · exact le_start_of_mem_scanFrom hmem

/-- **Between two line comments a line starts.** -/
lemma scanFrom_comments_apart (offset : Nat) (text : List Char) :
    (scanFrom offset text).Pairwise fun comment later =>
      comment.kind = .lineComment → later.kind = .lineComment →
        ∃ start ∈ startsAfterBreaks offset text, comment.start < start ∧ start ≤ later.start := by
  fun_induction scanFrom offset text with
  | case1 offset => exact List.pairwise_singleton ..
  | case2 offset c rest ih =>
    refine .cons (fun later hlater hkind hlater' => ?_) (ih.imp fun hrest hkind hlater => ?_)
    · obtain ⟨start, hstart, hle⟩ := exists_start_of_mem_scanFrom
        (fun _ _ => (opens_first c rest).isLineEnd_of_lineComment hkind) hlater hlater'
      have hlt := lt_of_mem_startsAfterBreaks hstart
      refine ⟨start, mem_startsAfterBreaks_drop _ hstart, ?_, hle⟩
      dsimp only
      omega
    · obtain ⟨start, hstart, hbetween⟩ := hrest hkind hlater
      exact ⟨start, mem_startsAfterBreaks_drop _ hstart, hbetween⟩

end Token

/-! ## Where directives stand -/

namespace Source

/-- The directives of a source, each with the comment that states it. -/
def sites (source : Source) : List (Token × PlacedDirective) :=
  source.tokens.zipIdx.filterMap fun entry => (source.placed? entry).map (entry.1, ·)

/-- The line on which a directive stands. -/
def siteLine (source : Source) (site : Token × PlacedDirective) : Int :=
  source.lineAt site.1.start

variable {source : Source} {site : Token × PlacedDirective}

lemma map_snd_sites (source : Source) : source.sites.map Prod.snd = source.directives := by
  rw [sites, List.map_filterMap, directives_eq]
  refine List.filterMap_congr fun entry _ => ?_
  rw [Option.map_map]
  exact Option.map_id'

/-- The comments at which directives stand are the line comments that state one, in order. -/
lemma map_fst_sites (source : Source) : source.sites.map Prod.fst =
    source.tokens.filter fun token =>
      token.kind = .lineComment ∧ (Directive.ofComment? token.chars).isSome := by
  have hplaced : ∀ entry : Token × Nat,
      ((source.placed? entry).map (entry.1, ·)).map Prod.fst =
        Option.guard (fun token : Token => token.kind = .lineComment ∧
          (Directive.ofComment? token.chars).isSome) entry.1 := by
    rintro ⟨token, place⟩
    by_cases hkind : token.kind = .lineComment
    · cases hstates : Directive.ofComment? token.chars with
      | none => simp [placed?, Option.guard, hkind, hstates]
      | some directive => simp [placed?, Option.guard, hkind, hstates]
    · rw [source.placed?_of_kind_ne token place hkind]
      simp [Option.guard, hkind]
  rw [sites, List.map_filterMap, ← List.filterMap_eq_filter]
  conv_rhs => rw [← List.zipIdx_map_fst 0 source.tokens, List.filterMap_map]
  exact List.filterMap_congr fun entry _ => hplaced entry

lemma mem_sites_iff : site ∈ source.sites ↔
    ∃ place, source.tokens[place]? = some site.1 ∧
      source.placed? (site.1, place) = some site.2 := by
  simp only [sites, List.mem_filterMap, Option.map_eq_some_iff, Prod.exists,
    List.mem_zipIdx_iff_getElem?]
  constructor
  · rintro ⟨token, place, htoken, placed, hplaced, rfl⟩
    exact ⟨place, htoken, hplaced⟩
  · rintro ⟨place, htoken, hplaced⟩
    exact ⟨site.1, place, htoken, site.2, hplaced, rfl⟩

/-- A directive stands where a comment states it. -/
lemma text_of_mem_sites (hsite : site ∈ source.sites) :
    site.1.text = site.2.directive.comment := by
  obtain ⟨place, htoken, hplaced⟩ := mem_sites_iff.1 hsite
  obtain ⟨comment, hcomment, -, htext, -⟩ := (placed?_eq_some_iff htoken).1 hplaced
  obtain rfl := Option.some.inj (htoken.symm.trans hcomment)
  exact htext

/-- A directive speaks about its own line or about the next one. -/
lemma line_of_mem_sites (hsite : site ∈ source.sites) :
    source.siteLine site = site.2.line ∨ source.siteLine site + 1 = site.2.line := by
  obtain ⟨place, htoken, hplaced⟩ := mem_sites_iff.1 hsite
  obtain ⟨comment, hcomment, -, -, htarget⟩ := (placed?_eq_some_iff htoken).1 hplaced
  obtain rfl := Option.some.inj (htoken.symm.trans hcomment)
  rw [htarget, target, siteLine]
  split
  · exact .inl rfl
  · exact .inr rfl

/-- Directives stand on different lines, in the order of the lines. -/
lemma sites_ascending (source : Source) :
    source.sites.Pairwise fun site later => source.siteLine site < source.siteLine later := by
  have hcomments : (source.sites.map Prod.fst).Pairwise fun comment later =>
      source.lineAt comment.start < source.lineAt later.start := by
    rw [map_fst_sites, List.pairwise_filter]
    refine (Token.scanFrom_comments_apart 0 source.chars).imp fun hbetween hcomment hlater => ?_
    obtain ⟨start, hstart, hlt, hle⟩ :=
      hbetween (of_decide_eq_true hcomment).1 (of_decide_eq_true hlater).1
    refine lineAt_lt_lineAt ?_ hlt hle
    rw [lineStarts_eq]
    exact List.mem_cons_of_mem _ hstart
  rw [List.pairwise_map] at hcomments
  exact hcomments

/-- Of things on ascending lines two at most are on a line or on the one above it. -/
lemma two_of_near {α : Type} {lineOf : α → Int} {things : List α} {line : Int}
    (hascends : things.Pairwise fun thing later => lineOf thing < lineOf later)
    (hnear : ∀ thing ∈ things, lineOf thing = line ∨ lineOf thing + 1 = line) :
    things.length ≤ 2 ∧ ∀ earlier later, things = [earlier, later] →
      lineOf earlier + 1 = line ∧ lineOf later = line := by
  match things with
  | [] => exact ⟨Nat.zero_le 2, nofun⟩
  | [thing] => exact ⟨Nat.le_succ 1, nofun⟩
  | [first, second] =>
    simp only [List.pairwise_cons, List.forall_mem_cons] at hascends hnear
    refine ⟨Nat.le_refl 2, fun earlier later heq => ?_⟩
    obtain ⟨rfl, rfl⟩ : first = earlier ∧ second = later := by simpa using heq
    omega
  | first :: second :: third :: rest =>
    simp only [List.pairwise_cons, List.forall_mem_cons] at hascends hnear
    omega

/-- The directives for a line are two at most: one on the line above it, and one on the line. -/
lemma sites_for_line (source : Source) (line : Int) :
    (source.sites.filter fun site => (site.2.line : Int) = line).length ≤ 2 ∧
      ∀ earlier later,
        (source.sites.filter fun site => (site.2.line : Int) = line) = [earlier, later] →
          source.siteLine earlier + 1 = line ∧ source.siteLine later = line := by
  refine two_of_near (source.sites_ascending.filter _) fun site hsite => ?_
  obtain ⟨hmem, hline⟩ := List.mem_filter.1 hsite
  rw [← of_decide_eq_true hline]
  exact line_of_mem_sites hmem

/-- A directive that is not the first one for its line stands on this line. -/
lemma siteLine_of_repeated {place : Nat} (hplace : place < source.sites.length)
    {earlier : Token × PlacedDirective} (hearlier : earlier ∈ source.sites.take place)
    (hline : earlier.2.line = source.sites[place].2.line) :
    source.siteLine source.sites[place] = source.sites[place].2.line := by
  have hascends := source.sites_ascending
  rw [← List.take_append_drop place source.sites, List.drop_eq_getElem_cons hplace,
    List.pairwise_append] at hascends
  have hlt := hascends.2.2 earlier hearlier _ List.mem_cons_self
  have hfirst := line_of_mem_sites (List.mem_of_mem_take hearlier)
  have hsecond := line_of_mem_sites (List.getElem_mem hplace)
  omega

/-! ## The table of a source -/

/-- The updates that the directives of a source ask for. -/
def updates (source : Source) : List (Int × Directive) :=
  source.sites.map (·.2.update)

lemma ofSource_tallies (source : Source) :
    (DirectiveTable.ofSource source).Tallies source.updates := by
  have hupdates : source.updates = source.directives.map (·.update) := by
    rw [updates, ← map_snd_sites, List.map_map]
    rfl
  rw [DirectiveTable.ofSource, DirectiveTable.ofDirectives_eq, hupdates]
  exact DirectiveTable.foldl_record_tallies _

lemma getElem_updates {place : Nat} (hplace : place < source.updates.length)
    (hsite : place < source.sites.length) :
    source.updates[place] = source.sites[place].2.update :=
  List.getElem_map ..

/-- A directive that is the second one of its kind for its line stands on this line. -/
lemma siteLine_of_second {place : Nat} (hplace : place < source.sites.length)
    {kind : Directive.Kind} (hsecond : (updatesFor (source.updates.take place)
      source.sites[place].2.line kind).length = 1) :
    source.siteLine source.sites[place] = source.sites[place].2.line := by
  obtain ⟨update, hupdate⟩ := List.exists_mem_of_length_pos (hsecond ▸ Nat.one_pos)
  obtain ⟨hmem, hkey⟩ := List.mem_filter.1 hupdate
  rw [updates, ← List.map_take] at hmem
  obtain ⟨earlier, hearlier, rfl⟩ := List.mem_map.1 hmem
  have hsame := (of_decide_eq_true hkey).1
  exact siteLine_of_repeated hplace hearlier (Int.ofNat_inj.1 hsame)

/-- The second directives for lines are found in the order of these lines. -/
lemma seconds_ascending (source : Source) :
    ((seconds source.updates).map (·.line)).Pairwise (· < ·) := by
  rw [seconds, List.map_map, List.pairwise_map, List.pairwise_filter, List.pairwise_iff_getElem]
  intro place later hplace hlater hlt hsecond hsecond'
  have hsite : place < source.sites.length := by simpa [updates] using hplace
  have hsite' : later < source.sites.length := by simpa [updates] using hlater
  simp only [List.getElem_zipIdx, Nat.zero_add, decide_eq_true_eq, Function.comp_apply,
    getElem_updates _ hsite, getElem_updates _ hsite'] at hsecond hsecond' ⊢
  have hascends := List.pairwise_iff_getElem.1 source.sites_ascending place later hsite hsite' hlt
  rw [siteLine_of_second hsite hsecond, siteLine_of_second hsite' hsecond'] at hascends
  exact hascends

/-- **A line is spoken about twice at most.**  The directives of a source stand at the line comments
that state one, in order.  For each line there are at most two directives, of whatever kind, and if
there are two of them the first one stands on the line above and the second one on the line itself.
So the duplicates are listed in strictly ascending order of their lines; a line with two type
assertions has no type to be met and no error, and a line with two error assertions has an error and
no type. -/
theorem directives_per_line (source : Source) :
    source.sites.map Prod.snd = source.directives ∧
      (source.sites.map Prod.fst = source.tokens.filter fun token =>
        token.kind = .lineComment ∧ (Directive.ofComment? token.chars).isSome) ∧
      (∀ site ∈ source.sites, site.1.text = site.2.directive.comment) ∧
      (∀ line : Int, (source.sites.filter fun site => (site.2.line : Int) = line).length ≤ 2 ∧
        ∀ earlier later,
          (source.sites.filter fun site => (site.2.line : Int) = line) = [earlier, later] →
            source.lineAt earlier.1.start + 1 = line ∧ source.lineAt later.1.start = line) ∧
      ((DirectiveTable.ofSource source).duplicates.map (·.line)).Pairwise (· < ·) ∧
      (∀ line, ⟨line, .expectType⟩ ∈ (DirectiveTable.ofSource source).duplicates →
        (DirectiveTable.ofSource source).typeAssertions.get? line = none ∧
          line ∉ (DirectiveTable.ofSource source).errorLines) ∧
      ∀ line, ⟨line, .expectError⟩ ∈ (DirectiveTable.ofSource source).duplicates →
        line ∈ (DirectiveTable.ofSource source).errorLines ∧
          (DirectiveTable.ofSource source).typeAssertions.get? line = none := by
  have htallies := source.ofSource_tallies
  have hcount : ∀ line, (updatesFor source.updates line .expectType).length +
      (updatesFor source.updates line .expectError).length ≤ 2 := by
    intro line
    rw [length_updatesFor_add, updates, List.filter_map, List.length_map]
    exact (source.sites_for_line line).1
  have huntyped : ∀ line, ¬ (updatesFor source.updates line .expectType).length = 1 →
      (DirectiveTable.ofSource source).typeAssertions.get? line = none := by
    intro line hone
    rw [← htallies.contains_iff] at hone
    simpa [Assoc.contains_eq_isSome_get?] using hone
  refine ⟨source.map_snd_sites, source.map_fst_sites, fun _ => text_of_mem_sites,
    source.sites_for_line, ?_, ?_, ?_⟩
  · rw [htallies.duplicates]
    exact source.seconds_ascending
  · intro line htwo
    have hline := hcount line
    rw [htallies.duplicates, mem_seconds_iff] at htwo
    rw [htallies.errorLines]
    exact ⟨huntyped line (by omega), by omega⟩
  · intro line htwo
    have hline := hcount line
    rw [htallies.duplicates, mem_seconds_iff] at htwo
    rw [htallies.errorLines]
    exact ⟨by omega, huntyped line (by omega)⟩

end Source

end TypeTest
