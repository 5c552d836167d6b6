import Mathlib.Data.List.Basic
import TypeTest.Proofs.Json.Numerals
import TypeTest.Proofs.Json.Strings

/-!
# Which texts are values

`Spells` is the grammar of values: it says of some characters that they spell a value, by the parts
that they are made of, and nothing about how they are read.  Blanks may stand between the parts, and
a text may have blanks around its value (`SpelledBy`).

Reading a text finds the value that it spells, and finds one only if there is one
(`read?_eq_some_iff`).  So a text spells one value at most.

The items of a list and the members of an object are read the same way, one step and then the rest
(`GoesOn`), so what is true of both is proved once for anything read so (`SpellsAll.read_append`,
`exists_of_read`).

The reader takes one step of its fuel for each part of a value.  Each part has a character of its
own: its first one, or the comma before it.  Two steps for each character of a text are therefore
enough.
-/

namespace TypeTest.Json

/-! ## The grammar -/

/-- Characters that are all blanks. -/
def AreBlanks (text : List Char) : Prop := ∀ c ∈ text, isSpace c = true

/-- Characters spell one or more items, with commas between them. -/
inductive SpellsAll {α : Type} (Spelled : List Char → α → Prop) : List Char → List α → Prop where
  | last {chars blanks : List Char} {item : α} (first : Spelled chars item)
    (blank : AreBlanks blanks) : SpellsAll Spelled (chars ++ blanks) [item]
  | more {chars before after others : List Char} {item : α} {items : List α}
    (first : Spelled chars item) (blankBefore : AreBlanks before) (blankAfter : AreBlanks after)
    (rest : SpellsAll Spelled others items) :
    SpellsAll Spelled (chars ++ (before ++ ',' :: (after ++ others))) (item :: items)

mutual

/-- Characters spell a value. -/
inductive Spells : List Char → Json → Prop where
  | word {chars : List Char} {value : Json} (listed : (chars, value) ∈ words) : Spells chars value
  | number (numeral : Numeral) : Spells numeral.chars numeral.value
  | string {chars : List Char} {units : List Nat} (spelled : SpellsUnits chars units) :
    Spells ('"' :: (chars ++ ['"'])) (str ⟨joinSurrogates units⟩)
  | noItems {blanks : List Char} (blank : AreBlanks blanks) :
    Spells ('[' :: (blanks ++ [']'])) (arr [])
  | items {blanks chars : List Char} {items : List Json} (blank : AreBlanks blanks)
    (spelled : SpellsAll Spells chars items) :
    Spells ('[' :: (blanks ++ (chars ++ [']']))) (arr items)
  | noMembers {blanks : List Char} (blank : AreBlanks blanks) :
    Spells ('\x7b' :: (blanks ++ ['\x7d'])) (obj [])
  /-- Of two members with one key the later value counts, in the earlier place. -/
  | members {blanks chars : List Char} {members : List (CodeText × Json)}
    (blank : AreBlanks blanks) (spelled : SpellsAll SpellsMember chars members) :
    Spells ('\x7b' :: (blanks ++ (chars ++ ['\x7d']))) (obj (Assoc.ofList members).entries)

/-- Characters spell a member of an object: its key, a colon and its value. -/
inductive SpellsMember : List Char → CodeText × Json → Prop where
  | colon {key before after chars : List Char} {units : List Nat} {value : Json}
    (named : SpellsUnits key units) (blankBefore : AreBlanks before) (blankAfter : AreBlanks after)
    (spelled : Spells chars value) :
    SpellsMember ('"' :: (key ++ '"' :: (before ++ ':' :: (after ++ chars))))
      (⟨joinSurrogates units⟩, value)

end

/-- A text spells a value, with nothing but blanks around it. -/
def SpelledBy (value : Json) (text : String) : Prop :=
  ∃ before chars after, text.toList = before ++ (chars ++ after) ∧ AreBlanks before ∧
    AreBlanks after ∧ Spells chars value

/-! ## Blanks -/

variable {chars blanks text rest : List Char}

lemma areBlanks_nil : AreBlanks [] := fun _ hmem => absurd hmem List.not_mem_nil

lemma areBlanks_space : AreBlanks [' '] := by simp [AreBlanks, isSpace]

lemma skipSpace_append (hblank : AreBlanks blanks) (text : List Char) :
    skipSpace (blanks ++ text) = skipSpace text :=
  List.dropWhile_append_of_pos hblank

lemma skipSpace_cons {c : Char} (hc : isSpace c = false) (rest : List Char) :
    skipSpace (c :: rest) = c :: rest := by
  rw [skipSpace, List.dropWhile_cons, hc]
  rfl

/-- Blanks are skipped up to what is none. -/
lemma skipSpace_append_cons (hblank : AreBlanks blanks) {c : Char} (hc : isSpace c = false)
    (rest : List Char) : skipSpace (blanks ++ c :: rest) = c :: rest := by
  rw [skipSpace_append hblank, skipSpace_cons hc]

lemma exists_blanks (text : List Char) :
    ∃ blanks, AreBlanks blanks ∧ text = blanks ++ skipSpace text :=
  ⟨text.takeWhile isSpace, fun _ hmem => List.mem_takeWhile_imp hmem,
    List.takeWhile_append_dropWhile.symm⟩

/-- No number goes on with a blank. -/
lemma stopsNumber_of_isSpace {c : Char} (hc : isSpace c = true) :
    c.isDigit = false ∧ c ≠ '.' ∧ c ≠ 'e' ∧ c ≠ 'E' := by
  simp only [isSpace, Bool.or_eq_true, beq_iff_eq] at hc
  rcases hc with ((rfl | rfl) | rfl) | rfl
  all_goals decide

lemma AreBlanks.stopsNumber (hblank : AreBlanks blanks) : StopsNumber blanks :=
  fun _ hmem => stopsNumber_of_isSpace (hblank _ (List.mem_of_mem_head? hmem))

/-- No number goes on with blanks and a mark behind them. -/
lemma stopsNumber_append (hblank : AreBlanks blanks) {c : Char}
    (hc : c.isDigit = false ∧ c ≠ '.' ∧ c ≠ 'e' ∧ c ≠ 'E') (rest : List Char) :
    StopsNumber (blanks ++ c :: rest) := by
  cases blanks with
  | nil =>
    intro d hmem
    obtain rfl : c = d := Option.some.inj hmem
    exact hc
  | cons b blanks =>
    intro d hmem
    exact hblank.stopsNumber d hmem

/-! ## Where values begin -/

lemma head_of_mem_words {value : Json} (hmem : (chars, value) ∈ words) :
    ∃ c others, chars = c :: others ∧ isSpace c = false ∧ c ≠ '"' ∧ c ≠ '[' ∧ c ≠ '\x7b' ∧
      c ≠ ']' := by
  simp only [words, List.mem_cons, Prod.mk.injEq, List.not_mem_nil, or_false] at hmem
  rcases hmem with ⟨rfl, -⟩ | ⟨rfl, -⟩ | ⟨rfl, -⟩ | ⟨rfl, -⟩ | ⟨rfl, -⟩ | ⟨rfl, -⟩
  all_goals exact ⟨_, _, rfl, by decide⟩

/-- A sign or a digit is none of the characters that lead to anything but a number. -/
lemma Numeral.head_chars (numeral : Numeral) :
    ∃ c others, numeral.chars = c :: others ∧ isSpace c = false ∧ c ≠ '"' ∧ c ≠ '[' ∧ c ≠ '\x7b' ∧
      c ≠ ']' := by
  obtain ⟨c, others, hunsigned, hdigit⟩ := numeral.head_unsigned
  unfold chars Number.signed
  cases numeral.negative with
  | true => exact ⟨'-', _, rfl, by decide⟩
  | false =>
    have hne {d : Char} (hd : d.isDigit = false) : c ≠ d := by
      rintro rfl
      exact absurd hdigit (by rw [hd]; exact Bool.false_ne_true)
    refine ⟨c, others, hunsigned, ?_, hne (by decide), hne (by decide), hne (by decide),
      hne (by decide)⟩
    simp only [isSpace, Bool.or_eq_false_iff, beq_eq_false_iff_ne]
    exact ⟨⟨⟨hne (by decide), hne (by decide)⟩, hne (by decide)⟩, hne (by decide)⟩

/-- A value does not begin with a blank, nor with what closes a list. -/
lemma Spells.head {value : Json} (hspells : Spells chars value) :
    ∃ c others, chars = c :: others ∧ isSpace c = false ∧ c ≠ ']' := by
  cases hspells with
  | word hlisted =>
    obtain ⟨c, others, hchars, hspace, -, -, -, hclose⟩ := head_of_mem_words hlisted
    exact ⟨c, others, hchars, hspace, hclose⟩
  | number numeral =>
    obtain ⟨c, others, hchars, hspace, -, -, -, hclose⟩ := numeral.head_chars
    exact ⟨c, others, hchars, hspace, hclose⟩
  | string _ => exact ⟨_, _, rfl, by decide⟩
  | noItems _ => exact ⟨_, _, rfl, by decide⟩
  | items _ _ => exact ⟨_, _, rfl, by decide⟩
  | noMembers _ => exact ⟨_, _, rfl, by decide⟩
  | members _ _ => exact ⟨_, _, rfl, by decide⟩

/-- Items begin as their first one does. -/
lemma SpellsAll.head {α : Type} {Spelled : List Char → α → Prop} {items : List α}
    {Begins : Char → Prop}
    (hhead : ∀ {chars item}, Spelled chars item → ∃ c others, chars = c :: others ∧ Begins c)
    (hspells : SpellsAll Spelled chars items) : ∃ c others, chars = c :: others ∧ Begins c := by
  cases hspells with
  | last hfirst _ =>
    obtain ⟨c, others, rfl, hbegins⟩ := hhead hfirst
    exact ⟨c, _, rfl, hbegins⟩
  | more hfirst _ _ _ =>
    obtain ⟨c, others, rfl, hbegins⟩ := hhead hfirst
    exact ⟨c, _, rfl, hbegins⟩

lemma SpellsMember.head {member : CodeText × Json} (hspells : SpellsMember chars member) :
    ∃ c others, chars = c :: others ∧ c = '"' := by
  cases hspells with
  | colon _ _ _ _ => exact ⟨_, _, rfl, rfl⟩

/-! ## Reading what is spelled -/

lemma readString?_append {units : List Nat} (hspells : SpellsUnits chars units)
    (rest : List Char) :
    readString? (chars ++ '"' :: rest) = some (⟨joinSurrogates units⟩, rest) := by
  rw [readString?, readUnits?_append hspells]
  rfl

lemma readPlain?_word {value : Json} (hmem : (chars, value) ∈ words) (rest : List Char) :
    readPlain? (chars ++ rest) = some (value, rest) := by
  simp only [words, List.mem_cons, Prod.mk.injEq, List.not_mem_nil, or_false] at hmem
  rcases hmem with ⟨rfl, rfl⟩ | ⟨rfl, rfl⟩ | ⟨rfl, rfl⟩ | ⟨rfl, rfl⟩ | ⟨rfl, rfl⟩ | ⟨rfl, rfl⟩
  all_goals rfl

/-- No word begins as a number does. -/
lemma isPrefixOf?_word_numeral {word : List Char × Json} (hmem : word ∈ words)
    (numeral : Numeral) (rest : List Char) :
    word.1.isPrefixOf? (numeral.chars ++ rest) = none := by
  obtain ⟨c, others, hunsigned, hdigit⟩ := numeral.head_unsigned
  have hne {d : Char} (hd : d.isDigit = false) : ¬ (d == c) = true := by
    rw [beq_iff_eq]
    rintro rfl
    exact absurd hdigit (by rw [hd]; exact Bool.false_ne_true)
  unfold Numeral.chars Number.signed
  rw [hunsigned]
  simp only [words, List.mem_cons, List.not_mem_nil, or_false] at hmem
  cases numeral.negative with
  | true =>
    rcases hmem with rfl | rfl | rfl | rfl | rfl | rfl
    all_goals try rfl
    exact if_neg (hne (by decide))
  | false =>
    rcases hmem with rfl | rfl | rfl | rfl | rfl | rfl
    all_goals exact if_neg (hne (by decide))

lemma readPlain?_chars (numeral : Numeral) (hstops : StopsNumber rest) :
    readPlain? (numeral.chars ++ rest) = some (numeral.value, rest) := by
  have hnone : (words.findSome? fun word =>
      (word.1.isPrefixOf? (numeral.chars ++ rest)).map fun rest => (word.2, rest)) = none := by
    rw [List.findSome?_eq_none_iff]
    intro word hmem
    rw [isPrefixOf?_word_numeral hmem]
    rfl
  rw [readPlain?, hnone]
  exact readNumber?_chars numeral hstops

/-- What begins neither a text nor a list nor an object is read as a word or a number. -/
lemma readValue?_plain {c : Char} (hquote : c ≠ '"') (hbracket : c ≠ '[') (hbrace : c ≠ '\x7b')
    (fuel : Nat) (rest : List Char) :
    readValue? (fuel + 1) (c :: rest) = readPlain? (c :: rest) := by
  rw [readValue?]
  · rintro _ ⟨rfl, -⟩; exact hquote rfl
  · rintro _ ⟨rfl, -⟩; exact hbracket rfl
  · rintro _ ⟨rfl, -⟩; exact hbrace rfl

/-! ### Items -/

section Items

variable {α : Type} {Spelled : List Char → α → Prop} {close : Char} {fuel : Nat}
  {read : Nat → List Char → Option (List α × List Char)}

/-- How the reading of items goes on after one of them: behind a comma the others are read, and a
closing mark is the end. -/
def GoesOn (read : List Char → Option (List α × List Char)) (close : Char) (item : α)
    (left : List Char) (items : List α) (rest : List Char) : Prop :=
  (∃ others more, skipSpace left = ',' :: others ∧ read (skipSpace others) = some (more, rest) ∧
      items = item :: more) ∨
    (skipSpace left = close :: rest ∧ items = [item])

/-- Items are read as they are spelled if each of them is. -/
lemma SpellsAll.read_append {items : List α} (hspells : SpellsAll Spelled chars items)
    (hhead : ∀ {chars item}, Spelled chars item →
      ∃ c others, chars = c :: others ∧ isSpace c = false)
    (hclose : isSpace close = false)
    (hmark : close.isDigit = false ∧ close ≠ '.' ∧ close ≠ 'e' ∧ close ≠ 'E')
    (hstep : ∀ less < fuel, ∀ {chars left rest : List Char} {item : α} {items : List α},
      Spelled chars item → 2 * chars.length ≤ less → StopsNumber left →
        GoesOn (read less) close item left items rest →
          read (less + 1) (chars ++ left) = some (items, rest))
    (hfuel : 2 * chars.length + 1 ≤ fuel) (rest : List Char) :
    read fuel (chars ++ close :: rest) = some (items, rest) := by
  induction hspells generalizing fuel with
  | last hfirst hblank =>
    obtain ⟨less, rfl⟩ := Nat.exists_eq_add_of_le' (Nat.le_of_add_left_le hfuel)
    rw [List.length_append] at hfuel
    rw [List.append_assoc]
    exact hstep less (Nat.lt_succ_self less) hfirst (by omega)
      (stopsNumber_append hblank hmark rest) (.inr ⟨skipSpace_append_cons hblank hclose rest, rfl⟩)
  | more hfirst hbefore hafter hothers ih =>
    obtain ⟨less, rfl⟩ := Nat.exists_eq_add_of_le' (Nat.le_of_add_left_le hfuel)
    obtain ⟨c, others, rfl, hspace⟩ := hothers.head hhead
    simp only [List.length_append, List.length_cons] at hfuel ih
    have hothersRead := ih (fun smaller hsmaller => hstep smaller (by omega))
      (show _ ≤ less by omega)
    simp only [List.append_assoc, List.cons_append] at hothersRead ⊢
    refine hstep less (Nat.lt_succ_self less) hfirst (by omega)
      (stopsNumber_append hbefore (by decide) _)
      (.inl ⟨_, _, skipSpace_append_cons hbefore rfl _, ?_, rfl⟩)
    rw [skipSpace_append_cons hafter hspace]
    exact hothersRead

/-- Items are spelled by what is read if each of them is. -/
lemma exists_of_read {items : List α} (hzero : ∀ text, read 0 text = none)
    (hstep : ∀ less < fuel, ∀ {text rest : List Char} {items : List α},
      read (less + 1) text = some (items, rest) →
        ∃ chars item left, text = chars ++ left ∧ Spelled chars item ∧
          GoesOn (read less) close item left items rest)
    (hread : read fuel text = some (items, rest)) :
    ∃ chars, text = chars ++ close :: rest ∧ SpellsAll Spelled chars items := by
  induction fuel generalizing text items with
  | zero =>
    rw [hzero] at hread
    cases hread
  | succ fuel ih =>
    obtain ⟨chars, item, left, rfl, hspelled, hgoes⟩ := hstep fuel (Nat.lt_succ_self fuel) hread
    obtain ⟨before, hbefore, hleft⟩ := exists_blanks left
    rcases hgoes with ⟨others, more, hcomma, hmore, rfl⟩ | ⟨hclose, rfl⟩
    · obtain ⟨after, hafter, hothers⟩ := exists_blanks others
      obtain ⟨spelled, hspells, hall⟩ :=
        ih (fun less hless => hstep less (Nat.lt_succ_of_lt hless)) hmore
      refine ⟨_, ?_, .more hspelled hbefore hafter hall⟩
      rw [hleft, hcomma, hothers, hspells]
      simp only [List.append_assoc, List.cons_append]
    · refine ⟨_, ?_, .last hspelled hbefore⟩
      rw [hleft, hclose, List.append_assoc]

end Items

/-- One step of the reading of items takes a value. -/
lemma readItems?_succ_iff {fuel : Nat} {items : List Json} :
    readItems? (fuel + 1) text = some (items, rest) ↔
      ∃ item left, readValue? fuel text = some (item, left) ∧
        GoesOn (readItems? fuel) ']' item left items rest := by
  rw [readItems?]
  constructor
  · intro hread
    obtain ⟨⟨item, left⟩, hitem, hmatch⟩ := Option.bind_eq_some_iff.1 hread
    refine ⟨item, left, hitem, ?_⟩
    dsimp only at hmatch
    split at hmatch
    · rename_i others hcomma
      obtain ⟨⟨more, _⟩, hmore, hsame⟩ := Option.bind_eq_some_iff.1 hmatch
      obtain ⟨rfl, rfl⟩ := Prod.mk.inj (Option.some.inj hsame)
      exact .inl ⟨others, more, hcomma, hmore, rfl⟩
    · rename_i hclose
      obtain ⟨rfl, rfl⟩ := Prod.mk.inj (Option.some.inj hmatch)
      exact .inr ⟨hclose, rfl⟩
    · cases hmatch
  · rintro ⟨item, left, hitem, ⟨others, more, hcomma, hmore, rfl⟩ | ⟨hclose, rfl⟩⟩
    · simp only [hitem, Option.bind_eq_bind, Option.bind_some, hcomma, hmore]
      rfl
    · simp only [hitem, Option.bind_eq_bind, Option.bind_some, hclose]
      rfl

/-- One step of the reading of members takes a key, a colon and a value. -/
lemma readMembers?_succ_iff {fuel : Nat} {members : List (CodeText × Json)} :
    readMembers? (fuel + 1) text = some (members, rest) ↔
      ∃ quoted key afterKey afterColon value left, text = '"' :: quoted ∧
        readString? quoted = some (key, afterKey) ∧ skipSpace afterKey = ':' :: afterColon ∧
        readValue? fuel (skipSpace afterColon) = some (value, left) ∧
        GoesOn (readMembers? fuel) '\x7d' (key, value) left members rest := by
  rw [readMembers?.eq_def]
  constructor
  · intro hread
    dsimp only at hread
    split at hread
    · rename_i quoted
      obtain ⟨⟨key, afterKey⟩, hkey, hread⟩ := Option.bind_eq_some_iff.1 hread
      obtain ⟨afterColon, hcolon, hread⟩ := Option.bind_eq_some_iff.1 hread
      obtain ⟨⟨value, left⟩, hvalue, hmatch⟩ := Option.bind_eq_some_iff.1 hread
      refine ⟨quoted, key, afterKey, afterColon, value, left, rfl, hkey,
        (List.isPrefixOf?_eq_some_iff_append_eq.1 hcolon).symm, hvalue, ?_⟩
      dsimp only at hmatch
      split at hmatch
      · rename_i others hcomma
        obtain ⟨⟨more, _⟩, hmore, hsame⟩ := Option.bind_eq_some_iff.1 hmatch
        obtain ⟨rfl, rfl⟩ := Prod.mk.inj (Option.some.inj hsame)
        exact .inl ⟨others, more, hcomma, hmore, rfl⟩
      · rename_i hclose
        obtain ⟨rfl, rfl⟩ := Prod.mk.inj (Option.some.inj hmatch)
        exact .inr ⟨hclose, rfl⟩
      · cases hmatch
    · cases hread
  · rintro ⟨quoted, key, afterKey, afterColon, value, left, rfl, hkey, hcolon, hvalue, hgoes⟩
    have hafter : [':'].isPrefixOf? (skipSpace afterKey) = some afterColon :=
      List.isPrefixOf?_eq_some_iff_append_eq.2 hcolon.symm
    rcases hgoes with ⟨others, more, hcomma, hmore, rfl⟩ | ⟨hclose, rfl⟩
    · simp only [hkey, hafter, hvalue, Option.bind_eq_bind, Option.bind_some, hcomma, hmore]
      rfl
    · simp only [hkey, hafter, hvalue, Option.bind_eq_bind, Option.bind_some, hclose]
      rfl

/-! ### Values -/

/-- With this much fuel values are read as they are spelled. -/
def ReadsSpelled (fuel : Nat) : Prop :=
  ∀ {chars rest : List Char} {value : Json}, Spells chars value → 2 * chars.length ≤ fuel →
    StopsNumber rest → readValue? fuel (chars ++ rest) = some (value, rest)

lemma readItems?_append {items : List Json} (hspells : SpellsAll Spells chars items) {fuel : Nat}
    (hfuel : 2 * chars.length + 1 ≤ fuel) (hvalues : ∀ less < fuel, ReadsSpelled less)
    (rest : List Char) : readItems? fuel (chars ++ ']' :: rest) = some (items, rest) := by
  refine hspells.read_append (fun hspelled => ?_) rfl (by decide) ?_ hfuel rest
  · obtain ⟨c, others, hchars, hspace, -⟩ := hspelled.head
    exact ⟨c, others, hchars, hspace⟩
  · intro less hless _ _ _ _ _ hspelled hlength hstops hgoes
    exact readItems?_succ_iff.2 ⟨_, _, hvalues less hless hspelled hlength hstops, hgoes⟩

lemma readMembers?_append {members : List (CodeText × Json)}
    (hspells : SpellsAll SpellsMember chars members) {fuel : Nat}
    (hfuel : 2 * chars.length + 1 ≤ fuel) (hvalues : ∀ less < fuel, ReadsSpelled less)
    (rest : List Char) : readMembers? fuel (chars ++ '\x7d' :: rest) = some (members, rest) := by
  refine hspells.read_append (fun hspelled => ?_) rfl (by decide) ?_ hfuel rest
  · obtain ⟨c, others, hchars, rfl⟩ := hspelled.head
    exact ⟨'"', others, hchars, rfl⟩
  · intro less hless _ left rest _ members hspelled hlength hstops hgoes
    cases hspelled with
    | colon hnamed hbefore hafter hspelled =>
      obtain ⟨c, others, rfl, hspace, -⟩ := hspelled.head
      simp only [List.length_append, List.length_cons] at hlength
      have hvalue := hvalues less hless hspelled (by rw [List.length_cons]; omega) hstops
      simp only [List.cons_append, List.append_assoc] at hvalue ⊢
      refine readMembers?_succ_iff.2 ⟨_, _, _, _, _, _, rfl, readString?_append hnamed _,
        skipSpace_append_cons hbefore rfl _, ?_, hgoes⟩
      rw [skipSpace_append_cons hafter hspace]
      exact hvalue

/-- A value is read as it is spelled, if there is fuel for it and it is not a number that goes
on. -/
theorem readValue?_append (fuel : Nat) : ReadsSpelled fuel := by
  induction fuel using Nat.strong_induction_on with
  | _ fuel ih =>
    intro chars rest value hspells hfuel hstops
    obtain ⟨fuel, rfl⟩ : ∃ less, fuel = less + 1 := by
      obtain ⟨c, others, rfl, -⟩ := hspells.head
      rw [List.length_cons] at hfuel
      exact ⟨fuel - 1, by omega⟩
    cases hspells with
    | word hlisted =>
      obtain ⟨c, others, rfl, -, hquote, hbracket, hbrace, -⟩ := head_of_mem_words hlisted
      rw [List.cons_append, readValue?_plain hquote hbracket hbrace, ← List.cons_append]
      exact readPlain?_word hlisted rest
    | number numeral =>
      obtain ⟨c, others, hchars, -, hquote, hbracket, hbrace, -⟩ := numeral.head_chars
      rw [hchars, List.cons_append, readValue?_plain hquote hbracket hbrace, ← List.cons_append,
        ← hchars]
      exact readPlain?_chars numeral hstops
    | string hspelled =>
      simp only [List.cons_append, List.append_assoc, List.nil_append]
      rw [readValue?, readString?_append hspelled]
      rfl
    | noItems hblank =>
      simp only [List.cons_append, List.append_assoc, List.nil_append]
      simp only [readValue?, skipSpace_append_cons hblank (c := ']') rfl]
    | items hblank hspelled =>
      simp only [List.length_append, List.length_cons, List.length_nil] at hfuel
      have hitems := readItems?_append hspelled (show _ ≤ fuel by omega)
        (fun less hless => ih less (by omega)) rest
      obtain ⟨c, others, rfl, hspace, hclose⟩ := hspelled.head Spells.head
      simp only [List.cons_append, List.append_assoc, List.nil_append] at hitems ⊢
      rw [readValue?, skipSpace_append_cons hblank hspace]
      split
      · rename_i hsame
        exact absurd (List.cons.inj hsame).1 hclose
      · rw [hitems]
        rfl
    | noMembers hblank =>
      simp only [List.cons_append, List.append_assoc, List.nil_append]
      simp only [readValue?, skipSpace_append_cons hblank (c := '\x7d') rfl]
    | members hblank hspelled =>
      simp only [List.length_append, List.length_cons, List.length_nil] at hfuel
      have hmembers := readMembers?_append hspelled (show _ ≤ fuel by omega)
        (fun less hless => ih less (by omega)) rest
      obtain ⟨c, others, rfl, rfl⟩ := hspelled.head SpellsMember.head
      simp only [List.cons_append, List.append_assoc, List.nil_append] at hmembers ⊢
      rw [readValue?, skipSpace_append_cons hblank (c := '"') rfl]
      split
      · rename_i hsame
        exact absurd (List.cons.inj hsame).1 (by decide)
      · rw [hmembers]
        rfl

/-! ## Only what is spelled is read -/

variable {fuel : Nat}

/-- With this much fuel only spelled values are read. -/
def SpellsRead (fuel : Nat) : Prop :=
  ∀ {text rest : List Char} {value : Json}, readValue? fuel text = some (value, rest) →
    ∃ chars, text = chars ++ rest ∧ Spells chars value

lemma exists_of_readString? {value : CodeText} (hread : readString? text = some (value, rest)) :
    ∃ chars units, text = chars ++ '"' :: rest ∧ SpellsUnits chars units ∧
      value = ⟨joinSurrogates units⟩ := by
  obtain ⟨⟨units, left⟩, hunits, hsame⟩ := Option.bind_eq_some_iff.1 hread
  obtain ⟨rfl, rfl⟩ := Prod.mk.inj (Option.some.inj hsame)
  obtain ⟨chars, htext, hspells⟩ := exists_of_readUnits? hunits
  exact ⟨chars, units, htext, hspells, rfl⟩

lemma exists_of_readPlain? {value : Json} (hread : readPlain? text = some (value, rest)) :
    ∃ chars, text = chars ++ rest ∧ Spells chars value := by
  unfold readPlain? at hread
  split at hread
  · rename_i found hword
    obtain rfl := Option.some.inj hread
    obtain ⟨word, hmem, hfound⟩ := List.exists_of_findSome?_eq_some hword
    obtain ⟨left, hafter, hsame⟩ := Option.map_eq_some_iff.1 hfound
    obtain ⟨rfl, rfl⟩ := Prod.mk.inj hsame
    exact ⟨word.1, (List.isPrefixOf?_eq_some_iff_append_eq.1 hafter).symm, .word hmem⟩
  · obtain ⟨numeral, rfl, rfl⟩ := exists_numeral_of_readNumber? hread
    exact ⟨numeral.chars, rfl, .number numeral⟩

lemma exists_of_readItems? (hvalues : ∀ less < fuel, SpellsRead less) {items : List Json}
    (hread : readItems? fuel text = some (items, rest)) :
    ∃ chars, text = chars ++ ']' :: rest ∧ SpellsAll Spells chars items := by
  refine exists_of_read (fun _ => rfl) (fun less hless _ _ _ hstep => ?_) hread
  obtain ⟨item, left, hitem, hgoes⟩ := readItems?_succ_iff.1 hstep
  obtain ⟨chars, htext, hspells⟩ := hvalues less hless hitem
  exact ⟨chars, item, left, htext, hspells, hgoes⟩

lemma exists_of_readMembers? (hvalues : ∀ less < fuel, SpellsRead less)
    {members : List (CodeText × Json)} (hread : readMembers? fuel text = some (members, rest)) :
    ∃ chars, text = chars ++ '\x7d' :: rest ∧ SpellsAll SpellsMember chars members := by
  refine exists_of_read (fun _ => rfl) (fun less hless _ _ _ hstep => ?_) hread
  obtain ⟨quoted, key, afterKey, afterColon, value, left, rfl, hkey, hcolon, hvalue, hgoes⟩ :=
    readMembers?_succ_iff.1 hstep
  obtain ⟨named, units, rfl, hnamed, rfl⟩ := exists_of_readString? hkey
  obtain ⟨before, hbefore, hafterKey⟩ := exists_blanks afterKey
  obtain ⟨after, hafter, hafterColon⟩ := exists_blanks afterColon
  obtain ⟨chars, hchars, hspells⟩ := hvalues less hless hvalue
  refine ⟨_, _, left, ?_, .colon hnamed hbefore hafter hspells, hgoes⟩
  rw [hafterKey, hcolon, hafterColon, hchars]
  simp only [List.append_assoc, List.cons_append]

/-- All that is read as a value spells it. -/
theorem exists_of_readValue? (fuel : Nat) : SpellsRead fuel := by
  induction fuel using Nat.strong_induction_on with
  | _ fuel ih =>
    intro text rest value hread
    cases fuel with
    | zero => exact nomatch hread
    | succ fuel =>
      have hless : ∀ less < fuel, SpellsRead less := fun less hless => ih less (by omega)
      rw [readValue?.eq_def] at hread
      dsimp only at hread
      split at hread
      · rename_i quoted
        obtain ⟨⟨value, left⟩, hstring, hsame⟩ := Option.bind_eq_some_iff.1 hread
        obtain ⟨rfl, rfl⟩ := Prod.mk.inj (Option.some.inj hsame)
        obtain ⟨chars, units, hquoted, hspells, rfl⟩ := exists_of_readString? hstring
        refine ⟨_, ?_, .string hspells⟩
        rw [hquoted]
        simp only [List.append_assoc, List.cons_append, List.nil_append]
      · rename_i inside
        obtain ⟨blanks, hblanks, hinside⟩ := exists_blanks inside
        split at hread
        · rename_i hclose
          obtain ⟨rfl, rfl⟩ := Prod.mk.inj (Option.some.inj hread)
          refine ⟨_, ?_, .noItems hblanks⟩
          rw [hinside, hclose]
          simp only [List.append_assoc, List.cons_append, List.nil_append]
        · obtain ⟨⟨items, left⟩, hitems, hsame⟩ := Option.bind_eq_some_iff.1 hread
          obtain ⟨rfl, rfl⟩ := Prod.mk.inj (Option.some.inj hsame)
          obtain ⟨chars, hchars, hspells⟩ := exists_of_readItems? hless hitems
          refine ⟨_, ?_, .items hblanks hspells⟩
          rw [hinside, hchars]
          simp only [List.append_assoc, List.cons_append, List.nil_append]
      · rename_i inside
        obtain ⟨blanks, hblanks, hinside⟩ := exists_blanks inside
        split at hread
        · rename_i hclose
          obtain ⟨rfl, rfl⟩ := Prod.mk.inj (Option.some.inj hread)
          refine ⟨_, ?_, .noMembers hblanks⟩
          rw [hinside, hclose]
          simp only [List.append_assoc, List.cons_append, List.nil_append]
        · obtain ⟨⟨members, left⟩, hmembers, hsame⟩ := Option.bind_eq_some_iff.1 hread
          obtain ⟨rfl, rfl⟩ := Prod.mk.inj (Option.some.inj hsame)
          obtain ⟨chars, hchars, hspells⟩ := exists_of_readMembers? hless hmembers
          refine ⟨_, ?_, .members hblanks hspells⟩
          rw [hinside, hchars]
          simp only [List.append_assoc, List.cons_append, List.nil_append]
      · exact exists_of_readPlain? hread

/-! ## Whole texts -/

lemma skipSpace_eq_nil_iff : skipSpace text = [] ↔ AreBlanks text :=
  List.dropWhile_eq_nil_iff

/-- A text is read as a value exactly if it spells that value. -/
theorem read?_eq_some_iff {text : String} {value : Json} :
    read? text = some value ↔ value.SpelledBy text := by
  constructor
  · intro hread
    obtain ⟨⟨found, rest⟩, hfound, hsame⟩ := Option.bind_eq_some_iff.1 hread
    dsimp only at hsame
    split at hsame
    · rename_i hrest
      obtain rfl := Option.some.inj hsame
      obtain ⟨before, hbefore, htext⟩ := exists_blanks text.toList
      obtain ⟨chars, hchars, hspells⟩ := exists_of_readValue? _ hfound
      rw [hchars] at htext
      exact ⟨before, chars, rest, htext, hbefore,
        skipSpace_eq_nil_iff.1 (List.isEmpty_iff.1 hrest), hspells⟩
    · exact nomatch hsame
  · rintro ⟨before, chars, after, htext, hbefore, hafter, hspells⟩
    obtain ⟨c, others, rfl, hspace, -⟩ := hspells.head
    have hlength : (c :: others).length ≤ text.toList.length := by
      rw [htext, List.length_append, List.length_append]
      omega
    have hfound := readValue?_append (2 * text.toList.length + 2) hspells (by omega)
      hafter.stopsNumber
    have hskip : skipSpace text.toList = c :: others ++ after := by
      rw [htext, List.cons_append]
      exact skipSpace_append_cons hbefore hspace _
    rw [read?, hskip, hfound]
    simp [skipSpace_eq_nil_iff.2 hafter]

/-- A text spells one value at most. -/
theorem SpelledBy.unique {text : String} {value other : Json} (hvalue : value.SpelledBy text)
    (hother : other.SpelledBy text) : value = other := by
  rw [← read?_eq_some_iff] at hvalue hother
  exact Option.some.inj (hvalue.symm.trans hother)

end TypeTest.Json
