import Mathlib.Order.Monotone.Basic
import TypeTest.Proofs.DirectivePlaces
import TypeTest.Proofs.Regions

/-!
# Line endings

A text says the same whether its lines end with LF or with CR LF.  `Text.withCrlf` replaces the one
by the other; what follows compares a text that has no CR with what becomes of it.

Every offset of the text comes to lie at another one (`Text.shifted`), and the order of offsets is
kept.  The line starts are moved in this way (`lineStarts_withCrlf`), and so are the tokens
(`Token.scan_withCrlf`): each rule takes the same characters off the head of either text, up to the
line breaks among them (`Token.first_withCrlf`).  As placing a directive only compares offsets with
each other, the directives and their lines stay the same (`Source.directives_withCrlf`).

There is one exception, which the main result (`DirectiveTable.ofSource_withCrlf`) leaves out.  In a
literal a backslash takes just one character along.  If a literal in single or double quotes is
continued over a line break (`Token.Continued`), then this is the LF, and the literal goes on; but
of CR LF it is the CR, and the literal ends before the LF.  What comes next is read as part of the
literal in the one case and as code in the other (`DirectiveTable.ofSource_withCrlf_continued`).
-/

namespace TypeTest

open Unicode (isLineEnd isInlineBlank isWordChar)

/-! ## Another line ending -/

namespace Text

/-- A text with CR LF in place of each LF. -/
def withCrlf (text : List Char) : List Char :=
  text.flatMap fun c => if c = '\n' then ['\r', '\n'] else [c]

/-- Where an offset of a text comes to lie when its line breaks become CR LF. -/
def shifted (text : List Char) (offset : Nat) : Nat :=
  offset + (text.take offset).count '\n'

@[simp] lemma withCrlf_nil : withCrlf [] = [] := rfl

@[simp] lemma withCrlf_cons_lf (rest : List Char) :
    withCrlf ('\n' :: rest) = '\r' :: '\n' :: withCrlf rest := rfl

lemma withCrlf_cons {c : Char} (hc : c ≠ '\n') (rest : List Char) :
    withCrlf (c :: rest) = c :: withCrlf rest := by
  simp [withCrlf, hc]

@[simp] lemma withCrlf_append (text rest : List Char) :
    withCrlf (text ++ rest) = withCrlf text ++ withCrlf rest := by
  simp [withCrlf]

lemma withCrlf_eq_nil_iff {text : List Char} : withCrlf text = [] ↔ text = [] := by
  cases text with
  | nil => simp
  | cons c rest =>
    by_cases hc : c = '\n'
    · simp [hc]
    · simp [withCrlf_cons hc]

/-- On a single line there is nothing to replace. -/
lemma withCrlf_eq_self {text : List Char} (hline : '\n' ∉ text) : withCrlf text = text := by
  induction text with
  | nil => rfl
  | cons c rest ih =>
    obtain ⟨hc, hrest⟩ := List.ne_and_not_mem_of_not_mem_cons hline
    rw [withCrlf_cons (Ne.symm hc), ih hrest]

/-- A text begins with a character other than a line break if it does so with other line breaks. -/
lemma head?_withCrlf {c : Char} (hcr : c ≠ '\r') (hlf : c ≠ '\n') (text : List Char) :
    c ∈ (withCrlf text).head? ↔ c ∈ text.head? := by
  cases text with
  | nil => rfl
  | cons d rest =>
    by_cases hd : d = '\n'
    · simp [hd, Ne.symm hcr, Ne.symm hlf]
    · simp [withCrlf_cons hd]

/-- A run of characters without line breaks is as long with other line breaks. -/
lemma takeWhile_withCrlf {p : Char → Bool} (hcr : p '\r' = false) (hlf : p '\n' = false)
    (text : List Char) : (withCrlf text).takeWhile p = withCrlf (text.takeWhile p) := by
  induction text with
  | nil => rfl
  | cons c rest ih =>
    by_cases hc : c = '\n'
    · simp [hc, hcr, hlf]
    · rw [withCrlf_cons hc, List.takeWhile_cons, List.takeWhile_cons]
      split
      · rw [withCrlf_cons hc, ih]
      · rfl

/-- Offsets keep their order. -/
lemma strictMono_shifted (text : List Char) : StrictMono (shifted text) := by
  intro earlier later hlt
  have hcount : (text.take earlier).count '\n' ≤ (text.take later).count '\n' :=
    (List.take_sublist_take_left (Nat.le_of_lt hlt)).count_le '\n'
  unfold shifted
  omega

lemma length_withCrlf (text : List Char) :
    (withCrlf text).length = text.length + text.count '\n' := by
  induction text with
  | nil => rfl
  | cons c rest ih =>
    by_cases hc : c = '\n'
    · simp [hc, ih]
      omega
    · rw [withCrlf_cons hc, List.length_cons, List.length_cons, List.count_cons_of_ne hc, ih]
      omega

/-- An offset comes to lie behind all that was before it. -/
lemma shifted_length (before rest : List Char) :
    shifted (before ++ rest) before.length = (withCrlf before).length := by
  rw [shifted, List.take_left, length_withCrlf]

/-- What is passed over from an offset on is passed over with other line breaks, too. -/
lemma shifted_length_append (before taken rest : List Char) :
    shifted (before ++ (taken ++ rest)) (before.length + taken.length) =
      shifted (before ++ (taken ++ rest)) before.length + (withCrlf taken).length := by
  rw [shifted_length, ← List.append_assoc, ← List.length_append, shifted_length, withCrlf_append,
    List.length_append]

end Text

open Text

/-! ## Lines -/

/-- How line starts are found at a character that begins no CR LF. -/
lemma startsAfterBreaks_cons {c : Char} (hc : c ≠ '\r') (offset : Nat) (rest : List Char) :
    startsAfterBreaks offset (c :: rest) =
      if isLineEnd c then (offset + 1) :: startsAfterBreaks (offset + 1) rest
      else startsAfterBreaks (offset + 1) rest :=
  startsAfterBreaks.eq_3 offset c rest fun _ h _ => hc h

/-- Each line starts where the start of the same line comes to lie. -/
lemma startsAfterBreaks_withCrlf {text rest : List Char} (before : List Char)
    (htext : text = before ++ rest) (hcr : '\r' ∉ rest) :
    startsAfterBreaks (shifted text before.length) (withCrlf rest) =
      (startsAfterBreaks before.length rest).map (shifted text) := by
  induction rest generalizing before with
  | nil => rfl
  | cons c rest ih =>
    obtain ⟨hc, hrest⟩ := List.ne_and_not_mem_of_not_mem_cons hcr
    have hnext := ih (before ++ [c]) (by simp [htext]) hrest
    have hshift := shifted_length_append before [c] rest
    rw [List.singleton_append, ← htext, List.length_singleton] at hshift
    rw [List.length_append, List.length_singleton, hshift] at hnext
    by_cases hlf : c = '\n'
    · subst hlf
      simp only [withCrlf_cons_lf, withCrlf_nil, List.length_cons, List.length_nil] at hshift hnext
      simp [startsAfterBreaks, isLineEnd, hnext, hshift]
    · have hend : isLineEnd c = false := by simp [isLineEnd, Ne.symm hc, hlf]
      rw [withCrlf_cons hlf] at hshift hnext
      simp only [withCrlf_nil, List.length_cons, List.length_nil] at hnext
      rw [withCrlf_cons hlf, startsAfterBreaks_cons hc.symm, startsAfterBreaks_cons hc.symm, hend]
      simpa using hnext

lemma lineStarts_withCrlf {source other : Source} (hother : other.chars = withCrlf source.chars)
    (hcr : '\r' ∉ source.chars) :
    other.lineStarts = source.lineStarts.map (shifted source.chars) := by
  have hstarts := startsAfterBreaks_withCrlf [] rfl hcr
  rw [Source.lineStarts_eq, Source.lineStarts_eq, List.map_cons, hother]
  exact congrArg (0 :: ·) hstarts

/-! ## Tokens -/

namespace Token

/-- A literal in single or double quotes that runs on over a line break, behind a backslash. -/
def Continued (token : Token) : Prop :=
  token.kind = .string ∧ '\n' ∈ token.chars ∧ token.chars.head? ≠ some '\x60'

instance (token : Token) : Decidable token.Continued :=
  inferInstanceAs (Decidable (_ ∧ _))

/-- A block comment ends at the same place. -/
lemma blockBody_withCrlf (text : List Char) :
    blockBody (withCrlf text) = withCrlf (blockBody text) := by
  fun_induction blockBody text with
  | case1 rest => rfl
  | case2 c rest hopen ih =>
    by_cases hlf : c = '\n'
    · subst hlf
      simp [blockBody, ih]
    · have hopen' : ∀ more, c = '*' → withCrlf rest = '/' :: more → False := by
        intro more hc hmore
        have hhead : '/' ∈ rest.head? := by
          rw [← head?_withCrlf (by decide) (by decide), hmore]
          rfl
        obtain ⟨others, rfl⟩ := List.head?_eq_some_iff.1 hhead
        exact hopen others hc rfl
      rw [withCrlf_cons hlf, withCrlf_cons hlf, blockBody.eq_2 _ _ hopen', ih]
  | case3 => rfl

/-- A literal ends at the same place, unless it stays on one line and is continued over a break. -/
lemma literalBody_withCrlf {quote : Char} (hquote : isQuote quote = true) {oneLine : Bool}
    {text : List Char} (hcr : '\r' ∉ text)
    (hline : oneLine = true → '\n' ∉ literalBody quote oneLine text) :
    literalBody quote oneLine (withCrlf text) = withCrlf (literalBody quote oneLine text) := by
  have hends : '\r' ≠ quote ∧ '\n' ≠ quote := by
    rcases isQuote_iff.1 hquote with rfl | rfl | rfl <;> decide
  fun_induction literalBody quote oneLine text with
  | case1 => rfl
  | case2 => rfl
  | case3 escaped rest ih =>
    have hrest : '\r' ∉ rest := fun h => hcr (by simp [h])
    have hbody := ih hrest fun hone h => hline hone (by simp [h])
    by_cases hlf : escaped = '\n'
    · -- the literal may run over the break, and takes both characters of the new one
      subst hlf
      have hmany : oneLine = false := Bool.eq_false_iff.2 fun hone => hline hone (by simp)
      subst hmany
      simp [withCrlf_cons, literalBody, literalBody_cons, hends.2, hbody]
    · simp [withCrlf_cons, hlf, literalBody, hbody]
  | case4 rest hlast hescape =>
    have hbackslash := Marker.ne_backslash hlast hescape
    simp [withCrlf_cons hends.2.symm, literalBody_cons hbackslash]
  | case5 c rest hlast hescape hquote hend =>
    obtain ⟨hone, hc⟩ := Bool.and_eq_true_iff.1 hend
    have hlf : c = '\n' := by
      have hcr' : '\r' ≠ c := (List.ne_and_not_mem_of_not_mem_cons hcr).1
      simpa [isLineEnd, hcr'.symm] using hc
    subst hlf
    simp [literalBody_cons, hends.1, hone, isLineEnd]
  | case6 c rest hlast hescape hquote hend ih =>
    have hbackslash := Marker.ne_backslash hlast hescape
    have hrest : '\r' ∉ rest := fun h => hcr (by simp [h])
    have hbody := ih hrest fun hone h => hline hone (by simp [h])
    by_cases hlf : c = '\n'
    · subst hlf
      have hmany : oneLine = false := by simpa [isLineEnd] using hend
      subst hmany
      simp [literalBody_cons, hends, hbody]
    · rw [withCrlf_cons hlf, withCrlf_cons hlf, literalBody_cons hbackslash, if_neg hquote,
        if_neg hend, hbody]

lemma first_lineComment (rest : List Char) :
    first '/' ('/' :: rest) =
      (.lineComment, '/' :: '/' :: rest.takeWhile fun c => !isLineEnd c) := rfl

lemma first_blockComment (rest : List Char) :
    first '/' ('*' :: rest) = (.blockComment, '/' :: '*' :: blockBody rest) := rfl

/-- The first token of a text that begins with a quote. -/
lemma first_quote {c : Char} (hquote : isQuote c = true) (rest : List Char) :
    first c rest = (.string, c :: literalBody c (c ≠ '\x60') rest) := by
  rcases isQuote_iff.1 hquote with rfl | rfl | rfl <;> rfl

/-- The first token of a text that begins with a character of no other use: a run of blanks, a word,
or that character. -/
lemma first_of_inert {c : Char} (hc : Inert c) (hend : isLineEnd c = false) (rest : List Char) :
    first c rest =
      if isInlineBlank c then (.whitespace, blanks (c :: rest))
      else if isWordChar c || c == '$' then (.other, word (c :: rest))
      else (.other, [c]) := by
  have hnewline : newline (c :: rest) = [] := newline_eq_nil_iff.2 hend
  have hline : lineComment (c :: rest) = [] := by simp [lineComment, hc.1]
  have hblock : blockComment (c :: rest) = [] := by simp [blockComment, hc.1]
  have hliteral : literal (c :: rest) = [] := by
    have hquote := fun heq => Bool.eq_false_iff.1 hc.2 (isQuote_iff.2 heq)
    rw [← or_assoc] at hquote
    simp [literal, not_or.1 hquote]
  simp only [first, rules, List.findSome?_cons, List.findSome?_nil, takenBy?, hnewline, hline,
    hblock, hliteral, blanks, word, List.takeWhile_cons]
  split_ifs <;> rfl

/-- The first token stays the same when line breaks become CR LF, up to the breaks that it holds. -/
lemma first_withCrlf {c d : Char} {rest more : List Char} (hcr : '\r' ∉ c :: rest)
    (hmore : withCrlf (c :: rest) = d :: more)
    (hstays : ¬ Continued ⟨(first c rest).1, 0, (first c rest).2⟩) :
    first d more = ((first c rest).1, withCrlf (first c rest).2) := by
  obtain ⟨hc, hrest⟩ := List.ne_and_not_mem_of_not_mem_cons hcr
  by_cases hlf : c = '\n'
  · subst hlf
    obtain ⟨rfl, rfl⟩ := List.cons.inj hmore
    rfl
  rw [withCrlf_cons hlf] at hmore
  obtain ⟨rfl, rfl⟩ := List.cons.inj hmore
  by_cases hquote : isQuote c = true
  · rw [first_quote hquote] at hstays ⊢
    have hline : decide (c ≠ '\x60') = true → '\n' ∉ literalBody c (c ≠ '\x60') rest := by
      intro hone hmem
      exact hstays ⟨rfl, List.mem_cons_of_mem c hmem, by simpa using hone⟩
    rw [first_quote hquote, literalBody_withCrlf hquote hrest hline, withCrlf_cons hlf]
  by_cases hslash : c = '/'
  · subst hslash
    by_cases hopen : '/' ∈ rest.head?
    · obtain ⟨rest, rfl⟩ := List.head?_eq_some_iff.1 hopen
      have hbody : (withCrlf rest).takeWhile (fun c => !isLineEnd c) =
          withCrlf (rest.takeWhile fun c => !isLineEnd c) :=
        takeWhile_withCrlf (by decide) (by decide) rest
      rw [first_lineComment]
      simp [withCrlf_cons, first_lineComment, hbody]
    by_cases hstar : '*' ∈ rest.head?
    · obtain ⟨rest, rfl⟩ := List.head?_eq_some_iff.1 hstar
      rw [first_blockComment]
      simp [withCrlf_cons, first_blockComment, blockBody_withCrlf]
    · rw [first_slash hopen hstar]
      refine first_slash ?_ ?_
      · rwa [head?_withCrlf (by decide) (by decide)]
      · rwa [head?_withCrlf (by decide) (by decide)]
  · have hinert : Inert c := ⟨hslash, Bool.eq_false_iff.2 hquote⟩
    have hend : isLineEnd c = false := by simp [isLineEnd, Ne.symm hc, hlf]
    have hblanks : blanks (c :: withCrlf rest) = withCrlf (blanks (c :: rest)) := by
      rw [← withCrlf_cons hlf]
      exact takeWhile_withCrlf (by decide) (by decide) _
    have hword : word (c :: withCrlf rest) = withCrlf (word (c :: rest)) := by
      rw [← withCrlf_cons hlf]
      exact takeWhile_withCrlf (by decide) (by decide) _
    rw [first_of_inert hinert hend, first_of_inert hinert hend, hblanks, hword]
    split_ifs
    · rfl
    · rfl
    · rw [withCrlf_cons hlf, withCrlf_nil]

/-- A token of a text, as it stands there when the line breaks have become CR LF. -/
def withCrlf (token : Token) (text : List Char) : Token :=
  ⟨token.kind, shifted text token.start, Text.withCrlf token.chars⟩

/-- From any place on, the tokens are the same. -/
lemma scanFrom_withCrlf {text rest : List Char} (before : List Char) (htext : text = before ++ rest)
    (hcr : '\r' ∉ rest) (hstays : ∀ token ∈ scanFrom before.length rest, ¬ token.Continued) :
    scanFrom (shifted text before.length) (Text.withCrlf rest) =
      (scanFrom before.length rest).map (·.withCrlf text) := by
  generalize hoffset : before.length = offset at hstays ⊢
  fun_induction scanFrom offset rest generalizing before with
  | case1 offset =>
    rw [Text.withCrlf_nil, scanFrom]
    rfl
  | case2 offset c rest ih =>
    have hne : Text.withCrlf (c :: rest) ≠ [] := mt withCrlf_eq_nil_iff.1 (List.cons_ne_nil c rest)
    obtain ⟨d, more, hmore⟩ := List.exists_cons_of_ne_nil hne
    obtain ⟨hfirst, hlater⟩ := List.forall_mem_cons.1 hstays
    have htoken := first_withCrlf hcr hmore hfirst
    obtain ⟨tail, htail⟩ := (opens_first c rest).begins
    rw [hmore, scanFrom, htoken, List.map_cons, ← hmore]
    generalize first c rest = token at *
    rw [← htail] at htext hcr ih hlater ⊢
    rw [List.drop_left] at ih hlater ⊢
    subst hoffset
    have hshift := shifted_length_append before token.2 tail
    rw [← htext] at hshift
    have hrest := ih (before ++ token.2) (by rw [htext, List.append_assoc])
      (fun h => hcr (List.mem_append_right _ h)) List.length_append hlater
    rw [withCrlf_append, List.drop_left, ← hshift, hrest]
    rfl

/-- A text has the same tokens with CR LF line breaks, at the offsets to which they come to lie, if
none of its literals is continued over a line break. -/
theorem scan_withCrlf {text : List Char} (hcr : '\r' ∉ text)
    (hstays : ∀ token ∈ scan text, ¬ token.Continued) :
    scan (Text.withCrlf text) = (scan text).map (·.withCrlf text) :=
  scanFrom_withCrlf [] rfl hcr hstays

end Token

/-! ## Directives -/

namespace LineCursor

/-- A cursor over the same lines at other offsets. -/
def map (move : Nat → Nat) (cursor : LineCursor) : LineCursor :=
  ⟨cursor.line, move cursor.start, cursor.later.map move⟩

variable {move : Nat → Nat}

lemma map_moveTo (hmove : StrictMono move) (cursor : LineCursor) (offset : Nat) :
    (cursor.map move).moveTo (move offset) = (cursor.moveTo offset).map move := by
  obtain ⟨line, start, later⟩ := cursor
  show advance (move offset) line (move start) (later.map move) =
    (advance offset line start later).map move
  induction later generalizing line start with
  | nil => rfl
  | cons next later ih =>
    rw [List.map_cons, advance, advance]
    simp only [hmove.le_iff_le]
    split
    · exact ih (line + 1) next
    · rfl

lemma map_target (hmove : StrictMono move) (cursor : LineCursor) (last : Option Nat) :
    (cursor.map move).target (last.map move) = cursor.target last := by
  cases last with
  | none => rfl
  | some kept => simp [target, map, hmove.lt_iff_lt]

end LineCursor

/-- For placing directives only the order of offsets matters, and of the tokens only the comments:
moved to other offsets in the same order, the tokens have the same directives. -/
lemma placeDirectives_map {move : Nat → Nat} (hmove : StrictMono move) (moved : Token → Token)
    {tokens : List Token} (hkind : ∀ token, (moved token).kind = token.kind)
    (hstart : ∀ token, (moved token).start = move token.start)
    (hchars : ∀ token ∈ tokens, token.kind = .lineComment → (moved token).chars = token.chars)
    (cursor : LineCursor) (last : Option Nat) :
    placeDirectives (cursor.map move) (last.map move) (tokens.map moved) =
      placeDirectives cursor last tokens := by
  fun_induction placeDirectives cursor last tokens with
  | case1 cursor last => rfl
  | case2 cursor last token rest hend =>
    rw [List.map_cons, placeDirectives, hkind]
    simp only [hend]
  | case3 cursor last token rest hblank ih =>
    rw [List.map_cons, placeDirectives, hkind]
    simp only [hblank]
    exact ih fun later hmem => hchars later (List.mem_cons_of_mem _ hmem)
  | case4 cursor last token rest hcomment hnone ih =>
    rw [List.map_cons, placeDirectives, hkind, hchars token List.mem_cons_self hcomment]
    simp only [hcomment, hnone]
    exact ih fun later hmem => hchars later (List.mem_cons_of_mem _ hmem)
  | case5 cursor last token rest hcomment directive hsome ih =>
    have hrest := ih fun later hmem => hchars later (List.mem_cons_of_mem _ hmem)
    rw [List.map_cons, placeDirectives, hkind, hchars token List.mem_cons_self hcomment]
    simp only [hcomment, hsome]
    rw [hstart, LineCursor.map_moveTo hmove, LineCursor.map_target hmove, hrest]
  | case6 cursor last token rest hendOfFile hblank hcomment ih =>
    have hrest := ih fun later hmem => hchars later (List.mem_cons_of_mem _ hmem)
    rw [List.map_cons, placeDirectives.eq_2, hkind, hstart]
    split
    · contradiction
    · contradiction
    · contradiction
    · exact hrest

lemma Source.chars_ofString (text : String) : (Source.ofString text).chars = text.toList := rfl

/-- The directives of a text, and the lines that they speak about, are those of the same text with
CR LF line breaks. -/
theorem Source.directives_withCrlf {source other : Source}
    (hother : other.chars = Text.withCrlf source.chars) (hcr : '\r' ∉ source.chars)
    (hstays : ∀ token ∈ Token.scan source.chars, ¬ token.Continued) :
    other.directives = source.directives := by
  have hchars : ∀ token ∈ Token.scan source.chars, token.kind = .lineComment →
      (token.withCrlf source.chars).chars = token.chars := by
    intro token hmem hkind
    exact withCrlf_eq_self fun hlf => nomatch Token.not_isLineEnd_of_mem_scan hmem hkind hlf
  rw [directives, directives, lineStarts_withCrlf hother hcr, ← List.map_tail, hother,
    Token.scan_withCrlf hcr hstays]
  exact placeDirectives_map (strictMono_shifted source.chars) (·.withCrlf source.chars)
    (fun _ => rfl) (fun _ => rfl) hchars ⟨0, 0, source.lineStarts.tail⟩ none

/-- A text with CR LF in place of each LF. -/
def withCrlf (text : String) : String := String.ofList (Text.withCrlf text.toList)

namespace DirectiveTable

/-- **Whether lines end with LF or with CR LF makes no difference to the directives**, unless a
literal in single or double quotes is continued over a line break. -/
theorem ofSource_withCrlf {text : String} (hcr : '\r' ∉ text.toList)
    (hstays : ∀ token ∈ Token.scan text.toList, ¬ token.Continued) :
    ofSource (.ofString (withCrlf text)) = ofSource (.ofString text) := by
  have hchars : (Source.ofString (withCrlf text)).chars = Text.withCrlf text.toList := by
    rw [Source.chars_ofString, withCrlf, String.toList_ofList]
  have hdirectives : (Source.ofString (withCrlf text)).directives =
      (Source.ofString text).directives := Source.directives_withCrlf hchars hcr hstays
  rw [ofSource, ofSource, hdirectives]

/-- A text with line breaks in a template, in a block comment and after a literal without an end. -/
def brokenText : String :=
  "f(\x60a\\\n// $ExpectError\n\x60); /* b\n*/ // $ExpectError\n\"c\n// $ExpectType C\nd;"

/-- Its directives speak about the same lines with either line ending. -/
theorem ofSource_withCrlf_broken :
    '\r' ∉ brokenText.toList ∧ (∀ token ∈ Token.scan brokenText.toList, ¬ token.Continued) ∧
      (ofSource (.ofString (withCrlf brokenText))).errorLines = [4] := by
  have hcr : '\r' ∉ brokenText.toList := by decide +kernel
  have hstays : ∀ token ∈ Token.scan brokenText.toList, ¬ token.Continued := by decide +kernel
  have hlines : (ofSource (.ofString brokenText)).errorLines = [4] := by decide +kernel
  rw [← ofSource_withCrlf hcr hstays] at hlines
  exact ⟨hcr, hstays, hlines⟩

/-- A literal that is continued on the next line, where it goes on like a directive. -/
def continuedText : String := "s = 'a \\\n// $ExpectType number';\n"

/-- With CR LF line breaks the backslash takes only the CR along, and the literal ends before the
LF.  What was the rest of it is then read as a directive. -/
theorem ofSource_withCrlf_continued :
    '\r' ∉ continuedText.toList ∧ ofSource (.ofString continuedText) = .empty ∧
      (ofSource (.ofString (withCrlf continuedText))).typeAssertions.entries =
        [(2, "number';")] := by
  decide +kernel

end DirectiveTable

end TypeTest
