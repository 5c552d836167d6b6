import Mathlib.Data.List.TakeWhile
import Mathlib.Tactic.Lemma
import TypeTest.Json.Reader
import TypeTest.Number.Integer

/-!
# How numbers are written

A number is written as a sign, a whole part, a fraction and a power of ten, and all but the whole
part may be left out.  A `Numeral` keeps these parts, and only those that may be written: there are
digits where there must be some, and no needless zero at the head.

Reading takes as many characters as can belong to a number.  So a number is read as it was written
if what follows it does not go on with the number (`readNumber?_chars`), and only what is written as
a number is read as one (`exists_numeral_of_readNumber?`).
-/

namespace TypeTest.Json

/-- Characters that are all digits. -/
def AreDigits (text : List Char) : Prop := ∀ c ∈ text, c.isDigit = true

/-- A text that does not go on with a digit. -/
def StopsDigits (text : List Char) : Prop := ∀ c ∈ text.head?, c.isDigit = false

/-- A text that does not go on with anything that could belong to a number. -/
def StopsNumber (text : List Char) : Prop :=
  ∀ c ∈ text.head?, c.isDigit = false ∧ c ≠ '.' ∧ c ≠ 'e' ∧ c ≠ 'E'

/-- A power of ten behind a number: the letter, a sign that may be left out, and digits. -/
structure Power where
  letter : Char
  sign : List Char
  digits : List Char
  letter_eq : letter = 'e' ∨ letter = 'E'
  sign_eq : sign = [] ∨ sign = ['+'] ∨ sign = ['-']
  nonempty : digits ≠ []
  areDigits : AreDigits digits

namespace Power

/-- A power as it is written. -/
def chars (power : Power) : List Char := power.letter :: (power.sign ++ power.digits)

/-- The exponent that is meant. -/
def exponent (power : Power) : Int :=
  if power.sign = ['-'] then -decimalNumber power.digits else decimalNumber power.digits

end Power

/-- A number in its parts.  Where there is no fraction there are no places. -/
structure Numeral where
  negative : Bool
  whole : List Char
  places : List Char
  power : Option Power
  nonempty : whole ≠ []
  wholeDigits : AreDigits whole
  /-- A zero at the head stands alone. -/
  zeroAlone : whole.head? = some '0' → whole = ['0']
  placesDigits : AreDigits places

namespace Numeral

/-- The fraction as it is written. -/
def fraction (numeral : Numeral) : List Char :=
  if numeral.places = [] then [] else '.' :: numeral.places

/-- The power of ten as it is written. -/
def powerChars (numeral : Numeral) : List Char := (numeral.power.map Power.chars).getD []

/-- A number as it is written, without its sign. -/
def unsigned (numeral : Numeral) : List Char :=
  numeral.whole ++ (numeral.fraction ++ numeral.powerChars)

/-- A number as it is written. -/
def chars (numeral : Numeral) : List Char := Number.signed numeral.negative numeral.unsigned

/-- The value of a number: an integer, unless a fraction or a power is written. -/
def value (numeral : Numeral) : Json :=
  if numeral.places = [] ∧ numeral.power = none then
    let size : Int := decimalNumber numeral.whole
    int (if numeral.negative then -size else size)
  else
    float (.ofDecimal numeral.negative (decimalNumber (numeral.whole ++ numeral.places))
      ((numeral.power.map Power.exponent).getD 0 - numeral.places.length))

end Numeral

/-! ## Runs of digits -/

variable {text rest : List Char}

lemma StopsNumber.stopsDigits (hstops : StopsNumber rest) : StopsDigits rest :=
  fun c hmem => (hstops c hmem).1

lemma spanDigits_append {digits : List Char} (hdigits : AreDigits digits)
    (hstops : StopsDigits rest) : spanDigits (digits ++ rest) = (digits, rest) := by
  have htake : rest.takeWhile Char.isDigit = [] := by
    cases rest with
    | nil => rfl
    | cons c rest => rw [List.takeWhile_cons, hstops c rfl]; rfl
  have hdrop : rest.dropWhile Char.isDigit = rest := by
    cases rest with
    | nil => rfl
    | cons c rest => rw [List.dropWhile_cons, hstops c rfl]; rfl
  rw [spanDigits, List.takeWhile_append_of_pos hdigits, List.dropWhile_append_of_pos hdigits, htake,
    hdrop, List.append_nil]

lemma spanDigits_eq {digits : List Char} (hspan : spanDigits text = (digits, rest)) :
    text = digits ++ rest ∧ AreDigits digits := by
  obtain ⟨rfl, rfl⟩ := Prod.mk.inj hspan
  exact ⟨List.takeWhile_append_dropWhile.symm, fun c hmem => List.mem_takeWhile_imp hmem⟩

/-! ## The parts of a number -/

section Parts

variable {digits : List Char}

lemma readWhole?_append (hnonempty : digits ≠ []) (hdigits : AreDigits digits)
    (hzero : digits.head? = some '0' → digits = ['0']) (hstops : StopsDigits rest) :
    readWhole? (digits ++ rest) = some (digits, rest) := by
  unfold readWhole?
  split
  · rename_i others htext
    cases digits with
    | nil => exact absurd rfl hnonempty
    | cons c digits =>
      obtain ⟨rfl, hothers⟩ := List.cons.inj htext
      obtain rfl : digits = [] := (List.cons.inj (hzero rfl)).2
      rw [← hothers]
      rfl
  · rw [spanDigits_append hdigits hstops]
    split
    · rename_i hspan
      exact absurd (Prod.mk.inj hspan).1 hnonempty
    · rfl

lemma readWhole?_eq (hread : readWhole? text = some (digits, rest)) :
    text = digits ++ rest ∧ digits ≠ [] ∧ AreDigits digits ∧
      (digits.head? = some '0' → digits = ['0']) := by
  unfold readWhole? at hread
  split at hread
  · obtain ⟨rfl, rfl⟩ := Prod.mk.inj (Option.some.inj hread)
    exact ⟨rfl, List.cons_ne_nil _ _, by simp [AreDigits], fun _ => rfl⟩
  · rename_i hhead
    split at hread
    · exact nomatch hread
    · rename_i hempty
      have hspan := Option.some.inj hread
      obtain ⟨htext, hdigits⟩ := spanDigits_eq hspan
      have hnonempty : digits ≠ [] := fun hnil => hempty rest (by rw [hspan, hnil])
      refine ⟨htext, hnonempty, hdigits, fun hzero => ?_⟩
      cases digits with
      | nil => exact absurd rfl hnonempty
      | cons c digits =>
        obtain rfl := Option.some.inj hzero
        exact absurd htext (hhead _)

lemma readFraction?_append (hnonempty : digits ≠ []) (hdigits : AreDigits digits)
    (hstops : StopsDigits rest) :
    readFraction? ('.' :: (digits ++ rest)) = some (digits, rest) := by
  rw [readFraction?, spanDigits_append hdigits hstops]
  split
  · rename_i hspan
    exact absurd (Prod.mk.inj hspan).1 hnonempty
  · rfl

lemma readFraction?_eq_none (hhead : ∀ c ∈ text.head?, c ≠ '.') : readFraction? text = none := by
  unfold readFraction?
  split
  · exact absurd rfl (hhead _ rfl)
  · rfl

lemma readFraction?_eq (hread : readFraction? text = some (digits, rest)) :
    text = '.' :: (digits ++ rest) ∧ digits ≠ [] ∧ AreDigits digits := by
  unfold readFraction? at hread
  split at hread
  · split at hread
    · exact nomatch hread
    · rename_i hempty
      have hspan := Option.some.inj hread
      obtain ⟨rfl, hdigits⟩ := spanDigits_eq hspan
      exact ⟨rfl, fun hnil => hempty rest (by rw [hspan, hnil]), hdigits⟩
  · exact nomatch hread

lemma readSign_append {sign : List Char} (hsign : sign = [] ∨ sign = ['+'] ∨ sign = ['-'])
    (hnonempty : digits ≠ []) (hdigits : AreDigits digits) (rest : List Char) :
    readSign (sign ++ (digits ++ rest)) = (decide (sign = ['-']), digits ++ rest) := by
  rcases hsign with rfl | rfl | rfl
  · cases digits with
    | nil => exact absurd rfl hnonempty
    | cons c digits =>
      have hdigit : c.isDigit = true := hdigits c List.mem_cons_self
      rw [List.nil_append, List.cons_append, readSign]
      · rfl
      · rintro _ ⟨rfl, -⟩
        exact absurd hdigit (by decide)
      · rintro _ ⟨rfl, -⟩
        exact absurd hdigit (by decide)
  · rfl
  · rfl

lemma readSign_eq (text : List Char) :
    ∃ sign, (sign = [] ∨ sign = ['+'] ∨ sign = ['-']) ∧ text = sign ++ (readSign text).2 ∧
      (readSign text).1 = decide (sign = ['-']) := by
  fun_cases readSign text with
  | case1 rest => exact ⟨['-'], .inr (.inr rfl), rfl, rfl⟩
  | case2 rest => exact ⟨['+'], .inr (.inl rfl), rfl, rfl⟩
  | case3 => exact ⟨[], .inl rfl, rfl, rfl⟩

lemma readExponent?_append (power : Power) (hstops : StopsDigits rest) :
    readExponent? (power.chars ++ rest) = some (power.exponent, rest) := by
  rw [Power.chars, List.cons_append, List.append_assoc, readExponent?, if_pos power.letter_eq,
    readSign_append power.sign_eq power.nonempty power.areDigits,
    spanDigits_append power.areDigits hstops]
  split
  · rename_i hspan
    exact absurd (Prod.mk.inj hspan).1 power.nonempty
  · rename_i hspan
    obtain ⟨rfl, rfl⟩ := Prod.mk.inj hspan
    simp only [decide_eq_true_eq, Power.exponent]

lemma readExponent?_eq_none (hhead : ∀ c ∈ text.head?, c ≠ 'e' ∧ c ≠ 'E') :
    readExponent? text = none := by
  cases text with
  | nil => rfl
  | cons c text => rw [readExponent?, if_neg (not_or.2 (hhead c rfl))]

lemma readExponent?_eq {exponent : Int} (hread : readExponent? text = some (exponent, rest)) :
    ∃ power : Power, text = power.chars ++ rest ∧ power.exponent = exponent := by
  unfold readExponent? at hread
  split at hread
  · rename_i letter others
    split at hread
    · rename_i hletter
      obtain ⟨sign, hsign, hothers, hnegative⟩ := readSign_eq others
      split at hread
      · exact nomatch hread
      · rename_i digits left hempty hspan
        obtain ⟨hexponent, rfl⟩ := Prod.mk.inj (Option.some.inj hread)
        obtain ⟨hleft, hdigits⟩ := spanDigits_eq hspan
        refine ⟨⟨letter, sign, digits, hletter, hsign, hempty, hdigits⟩, ?_, ?_⟩
        · rw [Power.chars, List.cons_append, List.append_assoc, ← hleft, ← hothers]
        · rw [← hexponent, hnegative]
          simp only [decide_eq_true_eq, Power.exponent]
    · exact nomatch hread
  · exact nomatch hread

end Parts

/-! ## Numbers -/

namespace Numeral

lemma head?_powerChars_append (numeral : Numeral) (hstops : StopsNumber rest) :
    ∀ c ∈ (numeral.powerChars ++ rest).head?, c.isDigit = false ∧ c ≠ '.' := by
  unfold powerChars
  cases numeral.power with
  | none => exact fun c hmem => ⟨(hstops c hmem).1, (hstops c hmem).2.1⟩
  | some power =>
    intro c hmem
    obtain rfl : power.letter = c := Option.some.inj hmem
    rcases power.letter_eq with hletter | hletter
    · rw [hletter]; decide
    · rw [hletter]; decide

lemma readExponent?_powerChars (numeral : Numeral) (hstops : StopsNumber rest) :
    readExponent? (numeral.powerChars ++ rest) =
      numeral.power.map fun power => (power.exponent, rest) := by
  unfold powerChars
  cases numeral.power with
  | none => exact readExponent?_eq_none fun c hmem => (hstops c hmem).2.2
  | some power => exact readExponent?_append power hstops.stopsDigits

lemma readFraction?_fraction (numeral : Numeral) (hstops : StopsNumber rest) :
    readFraction? (numeral.fraction ++ (numeral.powerChars ++ rest)) =
      if numeral.places = [] then none else some (numeral.places, numeral.powerChars ++ rest) := by
  have hhead := numeral.head?_powerChars_append hstops
  unfold fraction
  split
  · exact readFraction?_eq_none fun c hmem => (hhead c hmem).2
  · rename_i hplaces
    exact readFraction?_append hplaces numeral.placesDigits fun c hmem => (hhead c hmem).1

lemma stopsDigits_fraction (numeral : Numeral) (hstops : StopsNumber rest) :
    StopsDigits (numeral.fraction ++ (numeral.powerChars ++ rest)) := by
  unfold fraction
  split
  · exact fun c hmem => (numeral.head?_powerChars_append hstops c hmem).1
  · intro c hmem
    obtain rfl : '.' = c := Option.some.inj hmem
    decide

/-- A number is read if its parts are. -/
lemma readUnsigned?_of_parts (numeral : Numeral)
    (hwhole : readWhole? text =
      some (numeral.whole, numeral.fraction ++ (numeral.powerChars ++ rest)))
    (hfraction : readFraction? (numeral.fraction ++ (numeral.powerChars ++ rest)) =
      if numeral.places = [] then none else some (numeral.places, numeral.powerChars ++ rest))
    (hpower : readExponent? (numeral.powerChars ++ rest) =
      numeral.power.map fun power => (power.exponent, rest)) :
    readUnsigned? numeral.negative text = some (numeral.value, rest) := by
  rw [readUnsigned?, hwhole]
  simp only [Option.bind_eq_bind, Option.bind_some, hfraction]
  unfold value fraction
  by_cases hplaces : numeral.places = []
  · simp only [hplaces, ↓reduceIte, List.nil_append, Option.map_none, Option.getD_none, hpower]
    cases hnone : numeral.power with
    | none => simp [powerChars, hnone]
    | some power => simp
  · simp only [hplaces, ↓reduceIte, Option.map_some, Option.getD_some, hpower]
    cases hnone : numeral.power with
    | none => simp [powerChars, hnone]
    | some power => simp

lemma readUnsigned?_unsigned (numeral : Numeral) (hstops : StopsNumber rest) :
    readUnsigned? numeral.negative (numeral.unsigned ++ rest) = some (numeral.value, rest) := by
  refine numeral.readUnsigned?_of_parts ?_ (numeral.readFraction?_fraction hstops)
    (numeral.readExponent?_powerChars hstops)
  rw [unsigned, List.append_assoc, List.append_assoc]
  exact readWhole?_append numeral.nonempty numeral.wholeDigits numeral.zeroAlone
    (numeral.stopsDigits_fraction hstops)

end Numeral

lemma exists_fraction (text : List Char) :
    ∃ places rest, AreDigits places ∧
      text = (if places = [] then [] else '.' :: places) ++ rest ∧
      readFraction? text = if places = [] then none else some (places, rest) := by
  cases hread : readFraction? text with
  | none => exact ⟨[], text, nofun, rfl, rfl⟩
  | some found =>
    obtain ⟨htext, hnonempty, hdigits⟩ := readFraction?_eq hread
    exact ⟨found.1, found.2, hdigits, by rw [if_neg hnonempty]; exact htext, by
      rw [if_neg hnonempty]⟩

lemma exists_power (text : List Char) :
    ∃ (power : Option Power) (rest : List Char),
      text = (power.map Power.chars).getD [] ++ rest ∧
      readExponent? text = power.map fun power => (power.exponent, rest) := by
  cases hread : readExponent? text with
  | none => exact ⟨none, text, rfl, rfl⟩
  | some found =>
    obtain ⟨power, htext, hexponent⟩ := readExponent?_eq hread
    exact ⟨some power, found.2, htext, by rw [Option.map_some, hexponent]⟩

/-- Only a number is read as one, and all that is read of it belongs to it. -/
lemma exists_numeral_of_readUnsigned? {negative : Bool} {value : Json}
    (hread : readUnsigned? negative text = some (value, rest)) :
    ∃ numeral : Numeral, numeral.negative = negative ∧ text = numeral.unsigned ++ rest ∧
      numeral.value = value := by
  cases hwhole : readWhole? text with
  | none =>
    rw [readUnsigned?, hwhole] at hread
    exact nomatch hread
  | some found =>
    obtain ⟨htext, hnonempty, hdigits, hzero⟩ := readWhole?_eq hwhole
    obtain ⟨places, afterPlaces, hplaces, hafterWhole, hfraction⟩ := exists_fraction found.2
    obtain ⟨power, left, rfl, hpower⟩ := exists_power afterPlaces
    let numeral : Numeral :=
      ⟨negative, found.1, places, power, hnonempty, hdigits, hzero, hplaces⟩
    have hnumeral : readUnsigned? negative text = some (numeral.value, left) := by
      refine numeral.readUnsigned?_of_parts (hwhole.trans ?_) ?_ hpower
      · exact congrArg some (Prod.ext rfl hafterWhole)
      · exact (congrArg readFraction? hafterWhole.symm).trans hfraction
    obtain ⟨hvalue, rfl⟩ := Prod.mk.inj (Option.some.inj (hnumeral.symm.trans hread))
    refine ⟨numeral, rfl, ?_, hvalue⟩
    rw [htext, hafterWhole, Numeral.unsigned, List.append_assoc, List.append_assoc]
    rfl

/-- A number that is not negative does not begin with a sign. -/
lemma Numeral.head_unsigned (numeral : Numeral) :
    ∃ c others, numeral.unsigned = c :: others ∧ c.isDigit = true := by
  unfold unsigned
  cases hwhole : numeral.whole with
  | nil => exact absurd hwhole numeral.nonempty
  | cons c whole =>
    refine ⟨c, _, rfl, numeral.wholeDigits c ?_⟩
    rw [hwhole]
    exact List.mem_cons_self

/-- A number is read as it was written, if it does not go on. -/
theorem readNumber?_chars (numeral : Numeral) (hstops : StopsNumber rest) :
    readNumber? (numeral.chars ++ rest) = some (numeral.value, rest) := by
  have hread := numeral.readUnsigned?_unsigned hstops
  unfold Numeral.chars Number.signed
  cases hnegative : numeral.negative with
  | true =>
    rw [hnegative] at hread
    exact hread
  | false =>
    rw [hnegative] at hread
    obtain ⟨c, others, hunsigned, hdigit⟩ := numeral.head_unsigned
    rw [if_neg Bool.false_ne_true, ← hread, hunsigned, List.cons_append, readNumber?]
    rintro _ ⟨rfl, -⟩
    exact absurd hdigit (by decide)

/-- Only what is written as a number is read as one. -/
theorem exists_numeral_of_readNumber? {value : Json}
    (hread : readNumber? text = some (value, rest)) :
    ∃ numeral : Numeral, text = numeral.chars ++ rest ∧ numeral.value = value := by
  unfold readNumber? at hread
  split at hread
  · obtain ⟨numeral, hnegative, rfl, rfl⟩ := exists_numeral_of_readUnsigned? hread
    exact ⟨numeral, by rw [Numeral.chars, hnegative]; rfl, rfl⟩
  · obtain ⟨numeral, hnegative, rfl, rfl⟩ := exists_numeral_of_readUnsigned? hread
    exact ⟨numeral, by rw [Numeral.chars, hnegative]; rfl, rfl⟩

/-! ## Integers -/

lemma head?_toDigits {n : Nat} (hn : 0 < n) : (Nat.toDigits 10 n).head? ≠ some '0' := by
  induction n using Nat.strong_induction_on with
  | _ n ih =>
    rcases Nat.lt_or_ge n 10 with hsmall | hlarge
    · have hdigits : ∀ d ∈ List.range 10, 0 < d → d.digitChar ≠ '0' := by decide
      rw [Nat.toDigits_of_lt_base hsmall, List.head?_cons, Ne, Option.some.injEq]
      exact hdigits n (List.mem_range.2 hsmall) hn
    · have hhead : (Nat.toDigits 10 (n / 10)).head?.isSome = true :=
        List.isSome_head?.2 Nat.toDigits_ne_nil
      rw [Nat.toDigits_of_base_le (by decide) hlarge, List.head?_append, Option.or_of_isSome hhead]
      exact ih (n / 10) (by omega) (by omega)

lemma areDigits_toDigits (n : Nat) : AreDigits (Nat.toDigits 10 n) :=
  fun _ hmem => Nat.isDigit_of_mem_toDigits (by decide) (Nat.le_refl 10) hmem

lemma decimalNumber_toDigits (n : Nat) : decimalNumber (Nat.toDigits 10 n) = n :=
  Nat.ofDigitChars_ten_toDigits

namespace Numeral

/-- An integer in full. -/
def ofInt (value : Int) : Numeral where
  negative := decide (value < 0)
  whole := Nat.toDigits 10 value.natAbs
  places := []
  power := none
  nonempty := Nat.toDigits_ne_nil
  wholeDigits := areDigits_toDigits _
  zeroAlone := by
    rcases Nat.eq_zero_or_pos value.natAbs with hzero | hpos
    · rw [hzero, Nat.toDigits_zero]
      exact fun _ => rfl
    · exact fun hhead => absurd hhead (head?_toDigits hpos)
  placesDigits := nofun

lemma chars_ofInt (value : Int) : (ofInt value).chars = Number.intChars value := by
  simp [chars, unsigned, fraction, powerChars, ofInt, Number.intChars]

lemma value_ofInt (value : Int) : (ofInt value).value = int value := by
  simp only [Numeral.value, ofInt, decimalNumber_toDigits, and_self, if_true, decide_eq_true_eq]
  congr 1
  omega

end Numeral

end TypeTest.Json
