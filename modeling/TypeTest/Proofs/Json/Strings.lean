import Mathlib.Tactic.Lemma
import TypeTest.Json.Printer
import TypeTest.Json.Reader

/-!
# How texts are written in quotes

Between the quotes of a written text stand characters and escapes, and each of them spells one code
unit (`SpellsUnits`).  Reading finds the code units that are spelled and nothing else
(`readUnits?_eq_some_iff`).  A text can be spelled in many ways; the printer chooses one, with only
printable ASCII in it.

A code point above U+FFFF is printed as two units, a high surrogate and a low one, and joined again
when it is read.  In a text of characters no surrogate stands alone.  So the units of such a text
are joined at the right places, and the text that is read is the one that was printed
(`joinSurrogates_units`).
-/

namespace TypeTest.Json

/-! ## Spelling code units -/

/-- What stands between quotes spells the numbers of code units, one after the other. -/
inductive SpellsUnits : List Char → List Nat → Prop where
  | nil : SpellsUnits [] []
  /-- A character stands for itself if it is none below the space, no quote and no backslash. -/
  | plain {c : Char} {text : List Char} {units : List Nat} (printed : 0x20 ≤ c.toNat)
    (unquoted : c ≠ '"') (unescaped : c ≠ '\\') (more : SpellsUnits text units) :
    SpellsUnits (c :: text) (c.toNat :: units)
  /-- An escape by a letter. -/
  | letter {letter c : Char} {text : List Char} {units : List Nat}
    (stands : escaped? letter = some c) (more : SpellsUnits text units) :
    SpellsUnits ('\\' :: letter :: text) (c.toNat :: units)
  /-- An escape by the number of a code unit, in four digits. -/
  | number {a b c d : Char} {unit : Nat} {text : List Char} {units : List Nat}
    (stands : Text.hexNumber? [a, b, c, d] = some unit) (more : SpellsUnits text units) :
    SpellsUnits ('\\' :: 'u' :: a :: b :: c :: d :: text) (unit :: units)

variable {text rest : List Char} {units : List Nat}

/-- Code units are read up to the closing quote. -/
lemma readUnits?_append (hspells : SpellsUnits text units) (rest : List Char) :
    readUnits? (text ++ '"' :: rest) = some (units, rest) := by
  induction hspells with
  | nil => rfl
  | plain hprinted hunquoted hunescaped _ ih =>
    rw [List.cons_append, readUnits?]
    · rw [if_neg (Nat.not_lt.2 hprinted), ih]
      rfl
    · exact fun hsame => hunquoted hsame
    · rintro _ _ _ _ _ hsame -
      exact hunescaped hsame
    · rintro _ _ hsame -
      exact hunescaped hsame
  | letter hstands _ ih =>
    rw [List.cons_append, List.cons_append, readUnits?]
    · rw [hstands, ih]
      rfl
    · rintro _ _ _ _ _ rfl -
      exact nomatch hstands
  | number hstands _ ih =>
    simp only [List.cons_append]
    rw [readUnits?, hstands, ih]
    rfl

/-- A unit is put before those that are read after it. -/
lemma exists_of_consUnit {found : Option (List Nat × List Char)} {unit : Nat}
    (hread : (do
      let (units, rest) ← found
      return (unit :: units, rest)) = some (units, rest)) :
    ∃ more, found = some (more, rest) ∧ unit :: more = units := by
  obtain ⟨⟨more, left⟩, hfound, hsame⟩ := Option.bind_eq_some_iff.1 hread
  obtain ⟨rfl, rfl⟩ := Prod.mk.inj (Option.some.inj hsame)
  exact ⟨more, hfound, rfl⟩

lemma exists_of_readUnits? (hread : readUnits? text = some (units, rest)) :
    ∃ spelled, text = spelled ++ '"' :: rest ∧ SpellsUnits spelled units := by
  fun_induction readUnits? text generalizing units with
  | case1 => exact nomatch hread
  | case2 others =>
    obtain ⟨rfl, rfl⟩ := Prod.mk.inj (Option.some.inj hread)
    exact ⟨[], rfl, .nil⟩
  | case3 a b c d others ih =>
    obtain ⟨unit, hunit, hread⟩ := Option.bind_eq_some_iff.1 hread
    obtain ⟨more, hmore, rfl⟩ := exists_of_consUnit hread
    obtain ⟨spelled, rfl, hspells⟩ := ih hmore
    exact ⟨'\\' :: 'u' :: a :: b :: c :: d :: spelled, rfl, .number hunit hspells⟩
  | case4 letter others _ ih =>
    obtain ⟨c, hletter, hread⟩ := Option.bind_eq_some_iff.1 hread
    obtain ⟨more, hmore, rfl⟩ := exists_of_consUnit hread
    obtain ⟨spelled, rfl, hspells⟩ := ih hmore
    exact ⟨'\\' :: letter :: spelled, rfl, .letter hletter hspells⟩
  | case5 => exact nomatch hread
  | case6 c others hunquoted _ hunescaped hprinted ih =>
    obtain ⟨more, hmore, rfl⟩ := exists_of_consUnit hread
    obtain ⟨spelled, rfl, hspells⟩ := ih hmore
    refine ⟨c :: spelled, rfl, .plain (Nat.not_lt.1 hprinted) hunquoted (fun hsame => ?_) hspells⟩
    -- a backslash is read together with what follows it, at least the closing quote
    cases spelled with
    | nil => exact hunescaped _ _ hsame rfl
    | cons d spelled => exact hunescaped _ _ hsame rfl

/-- What is read as code units is what spells them, up to the closing quote. -/
theorem readUnits?_eq_some_iff :
    readUnits? text = some (units, rest) ↔
      ∃ spelled, text = spelled ++ '"' :: rest ∧ SpellsUnits spelled units := by
  refine ⟨exists_of_readUnits?, ?_⟩
  rintro ⟨spelled, rfl, hspells⟩
  exact readUnits?_append hspells rest

lemma SpellsUnits.append {others : List Char} {more : List Nat} (hspells : SpellsUnits text units)
    (hmore : SpellsUnits others more) : SpellsUnits (text ++ others) (units ++ more) := by
  induction hspells with
  | nil => exact hmore
  | plain hprinted hunquoted hunescaped _ ih => exact .plain hprinted hunquoted hunescaped ih
  | letter hstands _ ih => exact .letter hstands ih
  | number hstands _ ih => exact .number hstands ih

/-! ## The units of a code point -/

/-- The code units by which a code point is written: itself, or two surrogates. -/
def unitsOf (code : Nat) : List Nat :=
  if code < 0x10000 then [code]
  else [0xd800 + (code - 0x10000) / 0x400, 0xdc00 + (code - 0x10000) % 0x400]

lemma joinSurrogates_cons_of_not_high {unit : Nat} (hunit : ¬ (0xd800 ≤ unit ∧ unit < 0xdc00))
    (units : List Nat) : joinSurrogates (unit :: units) = unit :: joinSurrogates units := by
  cases units with
  | nil => rfl
  | cons next units =>
    rw [joinSurrogates, if_neg fun hpair => hunit ⟨hpair.1, hpair.2.1⟩]

/-- The units of a character are joined to its code point. -/
lemma joinSurrogates_unitsOf {code : Nat} (hvalid : code.isValidChar) (units : List Nat) :
    joinSurrogates (unitsOf code ++ units) = code :: joinSurrogates units := by
  unfold Nat.isValidChar at hvalid
  unfold unitsOf
  split
  · exact joinSurrogates_cons_of_not_high (by omega) units
  · have hpair : 0xd800 ≤ 0xd800 + (code - 0x10000) / 0x400 ∧
        0xd800 + (code - 0x10000) / 0x400 < 0xdc00 ∧
        0xdc00 ≤ 0xdc00 + (code - 0x10000) % 0x400 ∧
        0xdc00 + (code - 0x10000) % 0x400 < 0xe000 := by
      omega
    have hjoined : 0x10000 + (0xd800 + (code - 0x10000) / 0x400 - 0xd800) * 0x400 +
        (0xdc00 + (code - 0x10000) % 0x400 - 0xdc00) = code := by
      omega
    simp only [List.cons_append, List.nil_append, joinSurrogates, hpair, and_self, if_true, hjoined]

/-- A text of characters is joined from its units. -/
theorem joinSurrogates_units {codes : List Nat} (hvalid : ∀ code ∈ codes, code.isValidChar) :
    joinSurrogates (codes.flatMap unitsOf) = codes := by
  induction codes with
  | nil => rfl
  | cons code codes ih =>
    obtain ⟨hcode, hcodes⟩ := List.forall_mem_cons.1 hvalid
    rw [List.flatMap_cons, joinSurrogates_unitsOf hcode, ih hcodes]

/-! ## What is printed -/

lemma hexNumber?_hexFixed {unit : Nat} (hunit : unit < 0x10000) :
    Text.hexNumber? (Text.hexFixed 4 unit) = some unit := by
  have hdigit (value : Nat) : Text.hexValue? (Text.hexDigit (value % 16)) = some (value % 16) :=
    Text.hexValue?_hexDigit (Nat.mod_lt value (by decide))
  have hdigits : Text.hexFixed 4 unit = [Text.hexDigit (unit / 16 / 16 / 16 % 16),
      Text.hexDigit (unit / 16 / 16 % 16), Text.hexDigit (unit / 16 % 16),
      Text.hexDigit (unit % 16)] := rfl
  rw [hdigits, Text.hexNumber?]
  simp only [List.foldl_cons, List.foldl_nil, hdigit, Option.bind_eq_bind, Option.bind_some]
  exact congrArg some (by omega)

lemma spellsUnits_unitEscape {unit : Nat} (hunit : unit < 0x10000) :
    SpellsUnits (unitEscape unit) [unit] :=
  .number (hexNumber?_hexFixed hunit) .nil

lemma exists_toNat_eq {code : Nat} (hvalid : code.isValidChar) : ∃ c : Char, c.toNat = code := by
  refine ⟨Char.ofNat code, ?_⟩
  rw [Char.ofNat, dif_pos hvalid]
  rfl

/-- The ways in which a code point is escaped. -/
inductive EscapedAs (code : Nat) : List Char → Prop where
  | letter {letter c : Char} (stands : escaped? letter = some c) (same : c.toNat = code)
    (small : c.toNat < 0x10000) (printed : 0x20 ≤ letter.toNat ∧ letter.toNat ≤ 0x7e) :
    EscapedAs code ['\\', letter]
  | plain {c : Char} (same : c.toNat = code) (printed : 0x20 ≤ c.toNat ∧ c.toNat ≤ 0x7e)
    (unquoted : c ≠ '"') (unescaped : c ≠ '\\') : EscapedAs code [c]
  | number (small : code < 0x10000) : EscapedAs code (unitEscape code)
  | surrogates (large : 0x10000 ≤ code) :
    EscapedAs code (unitEscape (0xd800 + (code - 0x10000) / 0x400) ++
      unitEscape (0xdc00 + (code - 0x10000) % 0x400))

/-- A code point is escaped in one of these ways. -/
lemma escapedAs_escape (code : Nat) : EscapedAs code (escape code) := by
  unfold escape
  by_cases hquote : code = '"'.toNat
  · rw [if_pos hquote]
    exact .letter rfl hquote.symm (by decide) (by decide)
  by_cases hbackslash : code = '\\'.toNat
  · rw [if_neg hquote, if_pos hbackslash]
    exact .letter rfl hbackslash.symm (by decide) (by decide)
  rw [if_neg hquote, if_neg hbackslash]
  by_cases hnewline : code = '\n'.toNat
  · rw [if_pos hnewline]
    exact .letter rfl hnewline.symm (by decide) (by decide)
  by_cases hreturn : code = '\r'.toNat
  · rw [if_neg hnewline, if_pos hreturn]
    exact .letter rfl hreturn.symm (by decide) (by decide)
  by_cases htab : code = '\t'.toNat
  · rw [if_neg hnewline, if_neg hreturn, if_pos htab]
    exact .letter rfl htab.symm (by decide) (by decide)
  rw [if_neg hnewline, if_neg hreturn, if_neg htab]
  by_cases hback : code = 0x08
  · rw [if_pos hback]
    exact .letter rfl hback.symm (by decide) (by decide)
  by_cases hfeed : code = 0x0c
  · rw [if_neg hback, if_pos hfeed]
    exact .letter rfl hfeed.symm (by decide) (by decide)
  rw [if_neg hback, if_neg hfeed]
  by_cases hprinted : 0x20 ≤ code ∧ code ≤ 0x7e
  · rw [if_pos hprinted]
    obtain ⟨c, rfl⟩ := exists_toNat_eq (.inl (by omega : code < 0xd800))
    rw [Char.ofNat_toNat]
    exact .plain rfl hprinted (fun hsame => hquote (congrArg Char.toNat hsame))
      fun hsame => hbackslash (congrArg Char.toNat hsame)
  rw [if_neg hprinted]
  by_cases hsmall : code < 0x10000
  · rw [if_pos hsmall]
    exact .number hsmall
  · rw [if_neg hsmall]
    exact .surrogates (Nat.not_lt.1 hsmall)

/-- The escape of a code point spells its units. -/
lemma EscapedAs.spellsUnits {code : Nat} (hescaped : EscapedAs code text)
    (hcode : code < 0x110000) : SpellsUnits text (unitsOf code) := by
  have hsingle {unit : Nat} (hunit : unit < 0x10000) : unitsOf unit = [unit] := if_pos hunit
  cases hescaped with
  | letter hstands hsame hsmall _ =>
    rw [← hsame, hsingle hsmall]
    exact .letter hstands .nil
  | plain hsame hprinted hquote hbackslash =>
    rw [← hsame, hsingle (by omega)]
    exact .plain hprinted.1 hquote hbackslash .nil
  | number hsmall =>
    rw [hsingle hsmall]
    exact spellsUnits_unitEscape hsmall
  | surrogates hlarge =>
    rw [unitsOf, if_neg (Nat.not_lt.2 hlarge)]
    exact (spellsUnits_unitEscape (by omega)).append (spellsUnits_unitEscape (by omega))

end TypeTest.Json
