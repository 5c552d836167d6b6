import TypeTest.Proofs.TokenOrder

/-!
# Comments and literals, marked in one pass

The scan finds tokens by ordered choice: six rules, each of which looks as far ahead as it needs.
What its comments and literals are can also be told by an automaton that reads a text once, one
character at a time, and never looks ahead.  `Marker` is that automaton.  Between two characters it
knows whether it is in a *region*, which is a comment or a literal, and what it has read of it;
`Marker.read` says what one character does to that, and `Marker.regions` lists the regions of a
text.

The main result (`scan_regions`) is that the regions are the comments and literals among the tokens,
in order and with the same starts and characters.  Everything else that the scan tells apart, such
as words and blanks, is passed over without a trace: of such tokens only a single slash holds a
character that may open a region (`Opens`).

From this comes the rule that matters for directives.  A line comment starts at each `//` that lies
in no region opened before it, and nowhere else.
-/

namespace TypeTest

open Unicode (isLineEnd isInlineBlank isWordChar)

namespace Token

/-! ## Regions -/

/-- The kinds of the tokens in which nothing is read as code: comments and literals. -/
def Kind.isRegion : Kind → Bool
  | .lineComment | .blockComment | .string => true
  | .endOfFile | .whitespace | .newline | .other => false

/-- The offset just past a token. -/
def stop (token : Token) : Nat := token.start + token.chars.length

/-- A place lies in a token that was opened before it. -/
def Encloses (token : Token) (place : Nat) : Prop :=
  token.start < place ∧ place < token.stop

/-- The quotes, each of which opens a literal. -/
def isQuote (c : Char) : Bool :=
  c == '"' || c == '\'' || c == '\x60'

/-- A character with which no region opens. -/
def Inert (c : Char) : Prop :=
  c ≠ '/' ∧ isQuote c = false

end Token

/-! ## The automaton -/

/-- What is known of a text between two of its characters. -/
inductive Marker where
  /-- Outside all regions. -/
  | outside
  /-- Outside all regions, just after the slash at `start`, with which a comment may open. -/
  | slash (start : Nat)
  /-- In a line comment. -/
  | lineComment (start : Nat) (taken : List Char)
  /-- In a block comment; `starred` after a star that may begin its end. -/
  | blockComment (start : Nat) (taken : List Char) (starred : Bool)
  /-- In a literal; `escaped` after a backslash that waits for the character it takes along. -/
  | literal (quote : Char) (start : Nat) (taken : List Char) (escaped : Bool)

namespace Marker

/-- What is known after a character that is read outside all regions. -/
def enter (offset : Nat) (c : Char) : Marker :=
  if c = '/' then .slash offset
  else if Token.isQuote c then .literal c offset [c] false
  else .outside

/-- Reads the character at an offset: the region that ends there, if one does, and what is known
after the character. -/
def read (offset : Nat) (c : Char) : Marker → Option Token × Marker
  | outside => (none, enter offset c)
  | slash start =>
    if c = '/' then (none, .lineComment start ['/', '/'])
    else if c = '*' then (none, .blockComment start ['/', '*'] false)
    else (none, enter offset c)
  | lineComment start taken =>
    if isLineEnd c then (some ⟨.lineComment, start, taken⟩, .outside)
    else (none, .lineComment start (taken ++ [c]))
  | blockComment start taken starred =>
    if starred ∧ c = '/' then (some ⟨.blockComment, start, taken ++ [c]⟩, .outside)
    else (none, .blockComment start (taken ++ [c]) (c = '*'))
  | literal quote start taken escaped =>
    if escaped then (none, .literal quote start (taken ++ ['\\', c]) false)
    else if c = '\\' then (none, .literal quote start taken true)
    else if c = quote then (some ⟨.string, start, taken ++ [c]⟩, .outside)
    else if quote ≠ '\x60' ∧ isLineEnd c then (some ⟨.string, start, taken⟩, .outside)
    else (none, .literal quote start (taken ++ [c]) false)

/-- The region that is still open at the end of a text, if one is.  A backslash that waits for a
character is no part of it. -/
def finish : Marker → Option Token
  | outside => none
  | slash _ => none
  | lineComment start taken => some ⟨.lineComment, start, taken⟩
  | blockComment start taken _ => some ⟨.blockComment, start, taken⟩
  | literal _ start taken _ => some ⟨.string, start, taken⟩

/-- The regions that end in a text that begins at an offset. -/
def marks (marker : Marker) (offset : Nat) : List Char → List Token
  | [] => marker.finish.toList
  | c :: rest => (marker.read offset c).1.toList ++ (marker.read offset c).2.marks (offset + 1) rest

/-- The comments and literals of a text. -/
def regions (text : List Char) : List Token := outside.marks 0 text

end Marker

/-! ## What the first token can be -/

namespace Token

/-- What the first token of a text can be: a region, a slash with which none opens, or a run of
characters with none of which a region opens. -/
inductive Opens : List Char → Kind × List Char → Prop
  | lineComment (rest : List Char) :
    Opens ('/' :: '/' :: rest) (.lineComment, '/' :: '/' :: rest.takeWhile fun c => !isLineEnd c)
  | blockComment (rest : List Char) :
    Opens ('/' :: '*' :: rest) (.blockComment, '/' :: '*' :: blockBody rest)
  | literal (quote : Char) (rest : List Char) (hquote : isQuote quote = true) :
    Opens (quote :: rest) (.string, quote :: literalBody quote (quote ≠ '\x60') rest)
  | slash (rest : List Char) (hslash : '/' ∉ rest.head?) (hstar : '*' ∉ rest.head?) :
    Opens ('/' :: rest) (.other, ['/'])
  | inert (kind : Kind) (taken rest : List Char) (hkind : kind.isRegion = false)
      (htaken : ∀ c ∈ taken, Inert c) :
    Opens (taken ++ rest) (kind, taken)

lemma inert_of_isLineEnd {c : Char} (hc : isLineEnd c = true) : Inert c := by
  simp only [isLineEnd, Bool.or_eq_true, beq_iff_eq] at hc
  rcases hc with rfl | rfl
  · exact ⟨by decide, by decide⟩
  · exact ⟨by decide, by decide⟩

lemma inert_of_isInlineBlank {c : Char} (hc : isInlineBlank c = true) : Inert c := by
  simp only [isInlineBlank, Bool.or_eq_true, beq_iff_eq] at hc
  rcases hc with ((((rfl | rfl) | rfl) | rfl) | rfl) | rfl <;> exact ⟨by decide, by decide⟩

lemma isQuote_iff {c : Char} : isQuote c = true ↔ c = '"' ∨ c = '\'' ∨ c = '\x60' := by
  simp [isQuote, or_assoc]

lemma inert_of_word {c : Char} (hc : (isWordChar c || c == '$') = true) : Inert c := by
  refine ⟨?_, ?_⟩
  · rintro rfl
    exact absurd hc (by decide)
  · rw [Bool.eq_false_iff]
    intro hquote
    rcases isQuote_iff.1 hquote with rfl | rfl | rfl
    · exact absurd hc (by decide)
    · exact absurd hc (by decide)
    · exact absurd hc (by decide)

/-- A line break is the beginning of the text that it is taken from, and ends its line. -/
lemma newline_begins (text : List Char) :
    newline text <+: text ∧ ∀ c ∈ newline text, isLineEnd c = true := by
  unfold newline
  split
  · exact ⟨List.prefix_append ['\r', '\n'] _, by simp [isLineEnd]⟩
  · rename_i c rest _
    split
    · rename_i hc
      exact ⟨List.prefix_append [c] rest, by simpa using hc⟩
    · exact ⟨List.nil_prefix, fun _ hmem => absurd hmem List.not_mem_nil⟩
  · exact ⟨List.nil_prefix, fun _ hmem => absurd hmem List.not_mem_nil⟩

/-- A text that begins with a character that opens nothing begins with a run of such characters. -/
lemma opens_of_inert {c : Char} (hc : Inert c) (rest : List Char) :
    Opens (c :: rest) (first c rest) := by
  have hrun : ∀ (kind : Kind) (taken : List Char), kind.isRegion = false →
      taken <+: c :: rest → (∀ d ∈ taken, Inert d) → Opens (c :: rest) (kind, taken) := by
    rintro kind taken hkind ⟨others, htext⟩ htaken
    exact htext ▸ .inert kind taken others hkind htaken
  have hwhile : ∀ (p : Char → Bool), (∀ d, p d = true → Inert d) →
      ∀ d ∈ (c :: rest).takeWhile p, Inert d :=
    fun p hp d hd => hp d (List.all_eq_true.1 List.all_takeWhile d hd)
  have hne := first_ne_nil c rest
  rcases first_cases c rest with ⟨rule, hrule, hfirst⟩ | hfirst
  · rw [hfirst] at hne ⊢
    simp only [rules, List.mem_cons, List.not_mem_nil, or_false] at hrule
    rcases hrule with rfl | rfl | rfl | rfl | rfl | rfl
    · obtain ⟨hbegins, hends⟩ := newline_begins (c :: rest)
      exact hrun .newline _ rfl hbegins fun d hd => inert_of_isLineEnd (hends d hd)
    · exact hrun .whitespace _ rfl (List.takeWhile_prefix _)
        (hwhile _ fun _ => inert_of_isInlineBlank)
    · exact absurd (by simp [lineComment, hc.1]) hne
    · exact absurd (by simp [blockComment, hc.1]) hne
    · have hquote := fun heq => Bool.eq_false_iff.1 hc.2 (isQuote_iff.2 heq)
      rw [← or_assoc] at hquote
      exact absurd (by simp [literal, not_or.1 hquote]) hne
    · exact hrun .other _ rfl (List.takeWhile_prefix _) (hwhile _ fun _ => inert_of_word)
  · rw [hfirst]
    exact hrun .other [c] rfl (List.prefix_append [c] rest) (by simpa using hc)

/-- A slash with which no comment opens is a token of its own: no rule takes anything. -/
lemma first_slash {rest : List Char} (hslash : '/' ∉ rest.head?) (hstar : '*' ∉ rest.head?) :
    first '/' rest = (.other, ['/']) := by
  have hline : lineComment ('/' :: rest) = [] := by
    unfold lineComment
    split
    · rename_i heq
      exact absurd (by simp [(List.cons.inj heq).2]) hslash
    · rfl
  have hblock : blockComment ('/' :: rest) = [] := by
    unfold blockComment
    split
    · rename_i heq
      exact absurd (by simp [(List.cons.inj heq).2]) hstar
    · rfl
  rcases first_cases '/' rest with ⟨rule, hrule, hfirst⟩ | hfirst
  · have hne := first_ne_nil '/' rest
    rw [hfirst] at hne
    simp only [rules, List.mem_cons, List.not_mem_nil, or_false] at hrule
    rcases hrule with rfl | rfl | rfl | rfl | rfl | rfl
    · exact absurd rfl hne
    · exact absurd rfl hne
    · exact absurd hline hne
    · exact absurd hblock hne
    · exact absurd rfl hne
    · exact absurd rfl hne
  · exact hfirst

/-- The first token of a text is one that the text can open with. -/
theorem opens_first (c : Char) (rest : List Char) : Opens (c :: rest) (first c rest) := by
  by_cases hquote : isQuote c = true
  · rcases isQuote_iff.1 hquote with rfl | rfl | rfl
    · exact .literal '"' rest rfl
    · exact .literal '\'' rest rfl
    · exact .literal '\x60' rest rfl
  by_cases hslash : c = '/'
  · subst hslash
    by_cases hline : '/' ∈ rest.head?
    · obtain ⟨rest, rfl⟩ := List.head?_eq_some_iff.1 hline
      exact .lineComment rest
    by_cases hblock : '*' ∈ rest.head?
    · obtain ⟨rest, rfl⟩ := List.head?_eq_some_iff.1 hblock
      exact .blockComment rest
    · exact first_slash hline hblock ▸ .slash rest hline hblock
  · exact opens_of_inert ⟨hslash, Bool.eq_false_iff.2 hquote⟩ rest

lemma blockBody_begins (text : List Char) : blockBody text <+: text := by
  fun_induction blockBody text with
  | case1 rest => exact List.prefix_append ['*', '/'] rest
  | case2 c rest _ ih => exact (List.prefix_cons_inj c).2 ih
  | case3 => exact List.nil_prefix

/-- How a literal goes on at a character that is no backslash. -/
lemma literalBody_cons {c : Char} (hc : c ≠ '\\') (quote : Char) (oneLine : Bool)
    (rest : List Char) :
    literalBody quote oneLine (c :: rest) =
      if c = quote then [c]
      else if oneLine && isLineEnd c then []
      else c :: literalBody quote oneLine rest :=
  literalBody.eq_4 quote oneLine c rest (fun h _ => hc h) fun _ _ h _ => hc h

lemma literalBody_begins (quote : Char) (oneLine : Bool) (text : List Char) :
    literalBody quote oneLine text <+: text := by
  fun_induction literalBody quote oneLine text with
  | case1 => exact List.nil_prefix
  | case2 => exact List.nil_prefix
  | case3 escaped rest ih => exact (List.prefix_append_right_inj ['\\', escaped]).2 ih
  | case4 rest => exact List.prefix_append [quote] rest
  | case5 => exact List.nil_prefix
  | case6 c rest _ _ _ _ ih => exact (List.prefix_cons_inj c).2 ih

/-- The first token of a text is the beginning of it. -/
lemma Opens.begins {text : List Char} {token : Kind × List Char} (hopens : Opens text token) :
    token.2 <+: text := by
  cases hopens with
  | lineComment rest => exact (List.prefix_append_right_inj ['/', '/']).2 (List.takeWhile_prefix _)
  | blockComment rest => exact (List.prefix_append_right_inj ['/', '*']).2 (blockBody_begins rest)
  | literal quote rest hquote => exact (List.prefix_cons_inj quote).2 (literalBody_begins _ _ rest)
  | slash rest => exact List.prefix_append ['/'] rest
  | inert kind taken rest => exact List.prefix_append taken rest

end Token

/-! ## What the automaton makes of it -/

namespace Marker

/-- A character that opens nothing is passed over. -/
lemma marks_inert {c : Char} (hc : Token.Inert c) (offset : Nat) (rest : List Char) :
    outside.marks offset (c :: rest) = outside.marks (offset + 1) rest := by
  have hread : read offset c outside = (none, outside) := by simp [read, enter, hc.1, hc.2]
  rw [marks, hread]
  rfl

/-- So are several of them. -/
lemma marks_inert_append {taken : List Char} (htaken : ∀ c ∈ taken, Token.Inert c) (offset : Nat)
    (rest : List Char) :
    outside.marks offset (taken ++ rest) = outside.marks (offset + taken.length) rest := by
  induction taken generalizing offset with
  | nil => rfl
  | cons c taken ih =>
    obtain ⟨hc, htaken⟩ := List.forall_mem_cons.1 htaken
    rw [List.cons_append, marks_inert hc, ih htaken, List.length_cons, Nat.add_right_comm,
      Nat.add_assoc]

/-- A slash with which no comment opens is passed over as well. -/
lemma marks_slash {rest : List Char} (hslash : '/' ∉ rest.head?) (hstar : '*' ∉ rest.head?)
    (offset : Nat) : outside.marks offset ('/' :: rest) = outside.marks (offset + 1) rest := by
  show (slash offset).marks (offset + 1) rest = _
  cases rest with
  | nil => rfl
  | cons c rest =>
    have hc : c ≠ '/' ∧ c ≠ '*' := by simpa using And.intro hslash hstar
    have hread : read (offset + 1) c (slash offset) = read (offset + 1) c outside := by
      simp [read, hc]
    rw [marks, hread, marks]

/-- What is marked if a region that is open takes some more characters of the text, and ends. -/
def ending (kind : Token.Kind) (start : Nat) (taken body : List Char) (offset : Nat)
    (text : List Char) : List Token :=
  ⟨kind, start, taken ++ body⟩ :: outside.marks (offset + body.length) (text.drop body.length)

lemma ending_cons (kind : Token.Kind) (start : Nat) (taken : List Char) (c : Char)
    (body : List Char) (offset : Nat) (rest : List Char) :
    ending kind start (taken ++ [c]) body (offset + 1) rest =
      ending kind start taken (c :: body) offset (c :: rest) := by
  simp [ending, Nat.add_assoc, Nat.add_comm 1]

/-- A line comment ends before the next line break. -/
lemma marks_lineComment (start : Nat) (taken : List Char) (offset : Nat) (text : List Char) :
    (lineComment start taken).marks offset text =
      ending .lineComment start taken (text.takeWhile fun c => !isLineEnd c) offset text := by
  induction text generalizing taken offset with
  | nil => simp [marks, finish, ending]
  | cons c rest ih =>
    by_cases hc : isLineEnd c = true
    · rw [marks, read, if_pos hc]
      simp [ending, hc, marks_inert (Token.inert_of_isLineEnd hc)]
    · rw [marks, read, if_neg hc]
      simp [hc, ih, ending_cons]

/-- A block comment ends after the next star with a slash behind it. -/
lemma marks_blockComment (start : Nat) (taken : List Char) (starred : Bool) (offset : Nat)
    (text : List Char) (hstarred : starred = true → '/' ∉ text.head?) :
    (blockComment start taken starred).marks offset text =
      ending .blockComment start taken (Token.blockBody text) offset text := by
  fun_induction Token.blockBody text generalizing taken starred offset with
  | case1 rest =>
    simp [marks, read, ending]
  | case2 c rest hopen ih =>
    have hread : ¬ (starred = true ∧ c = '/') := by
      rintro ⟨hstar, rfl⟩
      exact hstarred hstar rfl
    have hnext : decide (c = '*') = true → '/' ∉ rest.head? := by
      intro hc hhead
      obtain ⟨more, rfl⟩ := List.head?_eq_some_iff.1 hhead
      exact hopen more (of_decide_eq_true hc) rfl
    rw [marks, read, if_neg hread, ← ending_cons, ← ih _ _ _ hnext]
    rfl
  | case3 => simp [marks, finish, ending]

/-- A character that is not read as the beginning of an escape is no backslash. -/
lemma ne_backslash {c : Char} {rest : List Char} (hlast : c = '\\' → rest = [] → False)
    (hescape : ∀ escaped more, c = '\\' → rest = escaped :: more → False) : c ≠ '\\' := by
  intro hc
  cases rest with
  | nil => exact hlast hc rfl
  | cons escaped more => exact hescape escaped more hc rfl

/-- A literal ends after its quote or, if it stays on one line, before the next line break. -/
lemma marks_literal (quote : Char) (start : Nat) (taken : List Char) (offset : Nat)
    (text : List Char) :
    (literal quote start taken false).marks offset text =
      ending .string start taken (Token.literalBody quote (quote ≠ '\x60') text) offset text := by
  fun_induction Token.literalBody quote (quote ≠ '\x60') text generalizing taken offset with
  | case1 => simp [marks, finish, ending]
  | case2 =>
    -- the last backslash of the text is left outside
    have hinert : outside.marks offset ['\\'] = [] :=
      marks_inert (by simp [Token.Inert, Token.isQuote]) offset []
    simp [marks, read, finish, ending, hinert]
  | case3 escaped rest ih =>
    have hread : (literal quote start taken false).marks offset ('\\' :: escaped :: rest) =
        (literal quote start (taken ++ ['\\'] ++ [escaped]) false).marks (offset + 1 + 1) rest := by
      simp [marks, read]
    rw [hread, ih, ending_cons, ending_cons]
  | case4 rest hlast hescape =>
    have hbackslash := ne_backslash hlast hescape
    simp [marks, read, ending, hbackslash]
  | case5 c rest hlast hescape hquote hend =>
    have hbackslash := ne_backslash hlast hescape
    rw [Bool.and_eq_true, decide_eq_true_iff] at hend
    rw [ending, List.length_nil, List.drop_zero, Nat.add_zero,
      marks_inert (Token.inert_of_isLineEnd hend.2)]
    simp [marks, read, hbackslash, hquote, hend]
  | case6 c rest hlast hescape hquote hend ih =>
    have hbackslash := ne_backslash hlast hescape
    rw [Bool.and_eq_true, decide_eq_true_iff] at hend
    rw [← ending_cons, ← ih]
    simp [marks, read, hbackslash, hquote, hend]

/-- What there is to be marked when the first token of a text is known: that token if it is a
region, and what comes after it. -/
theorem marks_of_opens {text : List Char} {token : Token.Kind × List Char}
    (hopens : Token.Opens text token) (offset : Nat) :
    outside.marks offset text =
      (if token.1.isRegion then [⟨token.1, offset, token.2⟩] else []) ++
        outside.marks (offset + token.2.length) (text.drop token.2.length) := by
  cases hopens with
  | lineComment rest =>
    show (lineComment offset ([] ++ ['/'] ++ ['/'])).marks (offset + 1 + 1) rest = _
    rw [marks_lineComment, ending_cons, ending_cons]
    rfl
  | blockComment rest =>
    show (blockComment offset ([] ++ ['/'] ++ ['*']) false).marks (offset + 1 + 1) rest = _
    rw [marks_blockComment _ _ false _ _ nofun, ending_cons, ending_cons]
    rfl
  | literal quote rest hquote =>
    have hread :
        read offset quote outside = (none, literal quote offset ([] ++ [quote]) false) := by
      rcases Token.isQuote_iff.1 hquote with rfl | rfl | rfl <;> rfl
    rw [marks, hread, Option.toList_none, List.nil_append, marks_literal, ending_cons]
    rfl
  | slash rest hslash hstar =>
    rw [marks_slash hslash hstar]
    rfl
  | inert kind taken rest hkind htaken =>
    rw [marks_inert_append htaken, if_neg (by simp [hkind]), List.drop_left, List.nil_append]

/-- From any place on, the comments and literals among the tokens are the regions that are
marked. -/
lemma filter_scanFrom (offset : Nat) (text : List Char) :
    (Token.scanFrom offset text).filter (·.kind.isRegion) = outside.marks offset text := by
  fun_induction Token.scanFrom offset text with
  | case1 offset => rfl
  | case2 offset c rest ih =>
    rw [marks_of_opens (Token.opens_first c rest) offset, ← ih, List.filter_cons]
    split
    · rfl
    · rfl

end Marker

/-! ## Where line comments start -/

namespace Token

/-- Two slashes within the first token of a text open a line comment there, or they lie in a region
that was opened before them. -/
lemma Opens.lineComment_iff {text : List Char} {token : Kind × List Char}
    (hopens : Opens text token) {place : Nat} (hplace : place < token.2.length) :
    token.1 = .lineComment ∧ place = 0 ↔
      ['/', '/'] <+: text.drop place ∧ (token.1.isRegion = true → place = 0) := by
  cases hopens with
  | lineComment rest =>
    refine ⟨fun ⟨_, hzero⟩ => ⟨?_, fun _ => hzero⟩, fun ⟨_, hzero⟩ => ⟨rfl, hzero rfl⟩⟩
    rw [hzero]
    exact List.prefix_append ['/', '/'] rest
  | blockComment rest =>
    refine iff_of_false nofun fun ⟨hslashes, hzero⟩ => ?_
    rw [hzero rfl] at hslashes
    simp at hslashes
  | literal quote rest hquote =>
    refine iff_of_false nofun fun ⟨hslashes, hzero⟩ => ?_
    rw [hzero rfl, List.drop_zero, List.cons_prefix_cons] at hslashes
    rw [← hslashes.1] at hquote
    cases hquote
  | slash rest hslash hstar =>
    refine iff_of_false nofun fun ⟨hslashes, _⟩ => ?_
    rw [Nat.lt_one_iff.1 hplace, List.drop_zero, List.cons_prefix_cons] at hslashes
    obtain ⟨more, rfl⟩ := hslashes.2
    exact hslash rfl
  | inert kind taken rest hkind htaken =>
    refine iff_of_false ?_ fun ⟨hslashes, _⟩ => ?_
    · rintro ⟨rfl, -⟩
      cases hkind
    · rw [List.drop_append_of_le_length (Nat.le_of_lt hplace), List.drop_eq_getElem_cons hplace,
        List.cons_append, List.cons_prefix_cons] at hslashes
      exact (htaken _ (List.getElem_mem hplace)).1 hslashes.1.symm

/-- From any place on, a line comment starts where two slashes lie in no region opened before
them. -/
lemma exists_lineComment_iff (offset : Nat) (text : List Char) (place : Nat) :
    (∃ token ∈ scanFrom offset text, token.kind = .lineComment ∧ token.start = offset + place) ↔
      ['/', '/'] <+: text.drop place ∧ ∀ token ∈ scanFrom offset text,
        token.kind.isRegion = true → ¬ token.Encloses (offset + place) := by
  fun_induction scanFrom offset text generalizing place with
  | case1 offset => simp
  | case2 offset c rest ih =>
    have hopens := opens_first c rest
    have hne := List.length_pos_iff.2 (first_ne_nil c rest)
    have hlater : ∀ token ∈ scanFrom (offset + (first c rest).2.length)
        ((c :: rest).drop (first c rest).2.length),
        offset + (first c rest).2.length ≤ token.start :=
      fun _ hmem => le_start_of_mem_scanFrom hmem
    generalize c :: rest = text, first c rest = token at *
    simp only [List.mem_cons, exists_eq_or_imp, forall_eq_or_imp]
    by_cases hplace : place < token.2.length
    · -- the place is in the first token, and no later token has to do with it
      have hnone : ¬ ∃ later ∈ scanFrom (offset + token.2.length) (text.drop token.2.length),
          later.kind = .lineComment ∧ later.start = offset + place := by
        rintro ⟨later, hmem, -, hstart⟩
        have hle := hlater later hmem
        omega
      have hall : ∀ later ∈ scanFrom (offset + token.2.length) (text.drop token.2.length),
          later.kind.isRegion = true → ¬ later.Encloses (offset + place) := by
        intro later hmem _ hencloses
        have hle := hlater later hmem
        have hlt := hencloses.1
        omega
      have hstart : offset = offset + place ↔ place = 0 := by omega
      have hencloses : ¬ Encloses ⟨token.1, offset, token.2⟩ (offset + place) ↔ place = 0 := by
        unfold Encloses stop
        dsimp only
        omega
      rw [or_iff_left hnone, and_iff_left hall, hstart, hencloses]
      exact hopens.lineComment_iff hplace
    · obtain ⟨more, rfl⟩ := Nat.exists_eq_add_of_le (Nat.le_of_not_lt hplace)
      have hrest := ih more
      have hstart : ¬ (token.1 = .lineComment ∧ offset = offset + (token.2.length + more)) := by
        omega
      have hencloses :
          ¬ Encloses ⟨token.1, offset, token.2⟩ (offset + (token.2.length + more)) := by
        unfold Encloses stop
        dsimp only
        omega
      rw [List.drop_drop, Nat.add_assoc] at hrest
      rw [or_iff_right hstart, and_iff_right fun _ => hencloses]
      exact hrest

/-- **The comments and literals of a text are the regions that one pass over it marks.**  They stand
among its tokens in the same order, with the same starts and characters.  And a line comment starts
at each `//` that lies in no region opened before it, and nowhere else. -/
theorem scan_regions (text : List Char) :
    (scan text).filter (·.kind.isRegion) = Marker.regions text ∧
      ∀ place, (∃ token ∈ scan text, token.kind = .lineComment ∧ token.start = place) ↔
        ['/', '/'] <+: text.drop place ∧
          ∀ region ∈ Marker.regions text, ¬ region.Encloses place := by
  have hregions := Marker.filter_scanFrom 0 text
  refine ⟨hregions, fun place => ?_⟩
  have hplace := exists_lineComment_iff 0 text place
  rw [Nat.zero_add] at hplace
  unfold Marker.regions
  rw [scan, hplace, ← hregions]
  simp [List.mem_filter]

example : Marker.regions "'//' // a".toList =
    [⟨.string, 0, "'//'".toList⟩, ⟨.lineComment, 5, "// a".toList⟩] := rfl

end Token

end TypeTest
