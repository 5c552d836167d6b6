import Mathlib.Tactic.SplitIfs
import TypeTest.Proofs.Json.Spelling
import TypeTest.Proofs.Maps

/-!
# What is printed

Whatever a value is, it is printed on one line of printable ASCII (`printable_print`): numbers have
digits and marks only, and a character beyond ASCII is escaped by its number.

What is printed spells the value, and so it is read as that value, as long as nothing of the value
is lost in print (`read?_line`).  That is the case for a `Faithful` value: its texts are made of
characters, its objects have distinct keys, and it has no finite number with a fraction, which is
printed with as few digits as will do.
-/

namespace TypeTest.Json

/-! ## Printable characters -/

/-- Characters that are all printable ASCII. -/
def ArePrintable (text : List Char) : Prop := ∀ c ∈ text, 0x20 ≤ c.toNat ∧ c.toNat ≤ 0x7e

instance (text : List Char) : Decidable (ArePrintable text) :=
  List.decidableBAll (fun c : Char => 0x20 ≤ c.toNat ∧ c.toNat ≤ 0x7e) text

variable {text others : List Char}

lemma ArePrintable.nil : ArePrintable [] := fun _ hmem => absurd hmem List.not_mem_nil

lemma ArePrintable.append (htext : ArePrintable text) (hothers : ArePrintable others) :
    ArePrintable (text ++ others) :=
  List.forall_mem_append.2 ⟨htext, hothers⟩

lemma ArePrintable.cons {c : Char} (hc : 0x20 ≤ c.toNat ∧ c.toNat ≤ 0x7e)
    (htext : ArePrintable text) : ArePrintable (c :: text) :=
  List.forall_mem_cons.2 ⟨hc, htext⟩

lemma ArePrintable.of_subset (htext : ArePrintable text) (hsubset : others ⊆ text) :
    ArePrintable others :=
  fun c hmem => htext c (hsubset hmem)

lemma AreDigits.printable (hdigits : AreDigits text) : ArePrintable text := by
  intro c hmem
  have hdigit := hdigits c hmem
  rw [Char.isDigit, Bool.and_eq_true, decide_eq_true_eq, decide_eq_true_eq] at hdigit
  have hlow : 0x30 ≤ c.toNat := hdigit.1
  have hhigh : c.toNat ≤ 0x39 := hdigit.2
  omega

lemma printable_signed (negative : Bool) (htext : ArePrintable text) :
    ArePrintable (Number.signed negative text) := by
  cases negative with
  | true => exact .cons (by decide) htext
  | false => exact htext

lemma printable_toDigits (n : Nat) : ArePrintable (Nat.toDigits 10 n) :=
  (areDigits_toDigits n).printable

lemma printable_intChars (value : Int) : ArePrintable (Number.intChars value) :=
  printable_signed _ (printable_toDigits _)

/-! ### Numbers with a fraction -/

section Fractions

open Number

lemma printable_ofScaled (n : Nat) (exponent : Int) :
    ArePrintable (Decimal.ofScaled n exponent).digits := by
  refine (printable_toDigits n).of_subset fun c hmem => ?_
  have hdropped : c ∈ (Nat.toDigits 10 n).reverse.dropWhile (· == '0') := List.mem_reverse.1 hmem
  exact List.mem_reverse.1 ((List.dropWhile_sublist _).subset hdropped)

lemma printable_onGrid? {value : Binary64} {n d : Nat} {exponent : Int} {decimal : Decimal}
    (hgrid : Decimal.onGrid? value n d exponent = some decimal) : ArePrintable decimal.digits := by
  unfold Decimal.onGrid? at hgrid
  dsimp only at hgrid
  split_ifs at hgrid
  all_goals
    rw [← Option.some.inj hgrid]
    exact printable_ofScaled _ _

lemma printable_shortest (mantissa : Nat) (exponent : Int) :
    ArePrintable (Decimal.shortest mantissa exponent).digits := by
  unfold Decimal.shortest
  dsimp only
  cases hfound : (List.range 17).findSome? _ with
  | none => exact printable_ofScaled _ _
  | some decimal =>
    obtain ⟨more, -, hgrid⟩ := List.exists_of_findSome?_eq_some hfound
    exact printable_onGrid? hgrid

lemma printable_replicate_zero (n : Nat) : ArePrintable (List.replicate n '0') := by
  intro c hmem
  rw [List.eq_of_mem_replicate hmem]
  decide

variable {layout : Layout} {decimal : Decimal}

lemma printable_positional (hdigits : ArePrintable decimal.digits) :
    ArePrintable (Layout.positional decimal) := by
  unfold Layout.positional
  dsimp only
  split_ifs
  · exact .cons (by decide) (.cons (by decide) ((printable_replicate_zero _).append hdigits))
  · exact (hdigits.append (printable_replicate_zero _)).append (by decide)
  · exact (hdigits.of_subset (List.take_subset _ _)).append
      (.cons (by decide) (hdigits.of_subset (List.drop_subset _ _)))

lemma printable_scientific (hdigits : ArePrintable decimal.digits) :
    ArePrintable (layout.scientific decimal) := by
  have hpoint : ArePrintable (if decimal.digits.length ≤ 1 then [] else ['.']) := by
    split_ifs
    · decide
    · decide
  have hexponent : ArePrintable (layout.exponentText (decimal.point - 1)) := by
    refine .cons ?_ ((printable_replicate_zero _).append (printable_toDigits _))
    split_ifs
    · decide
    · decide
  exact (((hdigits.of_subset (List.take_subset _ _)).append hpoint).append
    (hdigits.of_subset (List.drop_subset _ _))).append (.cons (by decide) hexponent)

/-- Numbers are set in printable characters if the words of the layout are. -/
lemma printable_render (hnan : ArePrintable layout.nan.toList)
    (hinfinity : ArePrintable layout.infinity.toList) (value : Binary64) :
    ArePrintable (layout.render value) := by
  cases value with
  | nan => exact hnan
  | infinite negative => exact printable_signed negative hinfinity
  | finite negative mantissa exponent =>
    refine printable_signed negative ?_
    unfold Layout.decimal
    dsimp only
    split_ifs
    · decide
    · exact printable_positional (printable_shortest _ _)
    · exact printable_scientific (printable_shortest _ _)

end Fractions

/-! ### Texts -/

lemma printable_hexDigit {value : Nat} (hvalue : value < 16) :
    ArePrintable [Text.hexDigit value] := by
  have hall : ∀ v ∈ List.range 16, ArePrintable [Text.hexDigit v] := by decide
  exact hall value (List.mem_range.2 hvalue)

lemma printable_hexFixed (width n : Nat) : ArePrintable (Text.hexFixed width n) := by
  induction width generalizing n with
  | zero => exact .nil
  | succ width ih => exact (ih (n / 16)).append (printable_hexDigit (Nat.mod_lt n (by decide)))

lemma printable_unitEscape (unit : Nat) : ArePrintable (unitEscape unit) :=
  .cons (by decide) (.cons (by decide) (printable_hexFixed 4 unit))

lemma EscapedAs.printable {code : Nat} (hescaped : EscapedAs code text) : ArePrintable text := by
  cases hescaped with
  | letter _ _ _ hprinted => exact .cons (by decide) (.cons hprinted .nil)
  | plain _ hprinted _ _ => exact .cons hprinted .nil
  | number _ => exact printable_unitEscape _
  | surrogates _ => exact (printable_unitEscape _).append (printable_unitEscape _)

lemma printable_quote (text : CodeText) : ArePrintable (quote text) := by
  refine .cons (by decide) (.append (fun c hmem => ?_) (by decide))
  obtain ⟨code, -, hc⟩ := List.mem_flatMap.1 hmem
  exact (escapedAs_escape code).printable c hc

/-! ### Values -/

mutual

/-- Every value is printed in printable ASCII. -/
theorem printable_print : ∀ value : Json, ArePrintable value.print
  | .null => by decide
  | .bool true => by decide
  | .bool false => by decide
  | .int value => printable_intChars value
  | .float value => printable_render (by decide) (by decide) value
  | .str text => printable_quote text
  | .arr items => .cons (by decide) ((printable_printItems items).append (by decide))
  | .obj members => .cons (by decide) ((printable_printMembers members).append (by decide))

theorem printable_printItems : ∀ items : List Json, ArePrintable (printItems items)
  | [] => .nil
  | [item] => printable_print item
  | item :: next :: items =>
    (printable_print item).append
      (.cons (by decide) (.cons (by decide) (printable_printItems (next :: items))))

theorem printable_printMembers :
    ∀ members : List (CodeText × Json), ArePrintable (printMembers members)
  | [] => .nil
  | [(key, value)] =>
    (printable_quote key).append (.cons (by decide) (.cons (by decide) (printable_print value)))
  | (key, value) :: next :: members =>
    ((printable_quote key).append
      (.cons (by decide) (.cons (by decide) (printable_print value)))).append
      (.cons (by decide) (.cons (by decide) (printable_printMembers (next :: members))))

end

/-! ## Faithful values -/

mutual

/-- Nothing of a value is lost when it is printed: there is no finite number with a fraction in it,
its texts are made of characters, and no key stands twice in an object. -/
def Faithful : Json → Prop
  | .float (.finite _ _ _) => False
  | .str text => ∀ code ∈ text.codes, code.isValidChar
  | .arr items => FaithfulItems items
  | .obj members => (members.map (·.1)).Nodup ∧ FaithfulMembers members
  | _ => True

/-- All items are faithful. -/
def FaithfulItems : List Json → Prop
  | [] => True
  | item :: items => Faithful item ∧ FaithfulItems items

/-- All members are faithful, their keys and their values. -/
def FaithfulMembers : List (CodeText × Json) → Prop
  | [] => True
  | (key, value) :: members =>
    (∀ code ∈ key.codes, code.isValidChar) ∧ Faithful value ∧ FaithfulMembers members

end

lemma isValidChar_of_mem_ofString {text : String} :
    ∀ code ∈ (CodeText.ofString text).codes, code.isValidChar := by
  intro code hmem
  obtain ⟨c, -, rfl⟩ := List.mem_map.1 hmem
  exact c.valid

/-! ## Printing spells -/

lemma spells_intChars (value : Int) : Spells (Number.intChars value) (int value) := by
  rw [← Numeral.chars_ofInt, ← Numeral.value_ofInt]
  exact .number (Numeral.ofInt value)

/-- What stands between the quotes spells the units of the text. -/
lemma spellsUnits_flatMap_escape {codes : List Nat} (hvalid : ∀ code ∈ codes, code.isValidChar) :
    SpellsUnits (codes.flatMap escape) (codes.flatMap unitsOf) := by
  induction codes with
  | nil => exact .nil
  | cons code codes ih =>
    obtain ⟨hcode, hcodes⟩ := List.forall_mem_cons.1 hvalid
    have hbound : code < 0x110000 := by
      unfold Nat.isValidChar at hcode
      omega
    exact ((escapedAs_escape code).spellsUnits hbound).append (ih hcodes)

/-- A printed text of characters spells that text. -/
lemma spells_quote {text : CodeText} (hvalid : ∀ code ∈ text.codes, code.isValidChar) :
    Spells (quote text) (str text) := by
  have hspells := Spells.string (spellsUnits_flatMap_escape hvalid)
  rw [joinSurrogates_units hvalid] at hspells
  exact hspells

/-- A printed key with its value spells a member. -/
lemma spellsMember_colon {key : CodeText} {value : Json}
    (hvalid : ∀ code ∈ key.codes, code.isValidChar) (hspells : Spells text value) :
    SpellsMember (quote key ++ ':' :: ' ' :: text) (key, value) := by
  have hmember := SpellsMember.colon (spellsUnits_flatMap_escape hvalid) areBlanks_nil
    areBlanks_space hspells
  rw [joinSurrogates_units hvalid] at hmember
  simpa only [quote, List.cons_append, List.append_assoc, List.nil_append] using hmember

lemma SpellsAll.single {α : Type} {Spelled : List Char → α → Prop} {item : α}
    (hspells : Spelled text item) : SpellsAll Spelled text [item] := by
  have hlast := SpellsAll.last hspells areBlanks_nil
  rwa [List.append_nil] at hlast

/-- Between printed items stand a comma and a space. -/
lemma SpellsAll.comma {α : Type} {Spelled : List Char → α → Prop} {item : α} {items : List α}
    (hspells : Spelled text item) (hothers : SpellsAll Spelled others items) :
    SpellsAll Spelled (text ++ ',' :: ' ' :: others) (item :: items) :=
  .more hspells areBlanks_nil areBlanks_space hothers

mutual

/-- A faithful value is spelled by what is printed of it. -/
theorem spells_print : ∀ {value : Json}, value.Faithful → Spells value.print value
  | .null, _ => .word (.head _)
  | .bool true, _ => .word (.tail _ (.head _))
  | .bool false, _ => .word (.tail _ (.tail _ (.head _)))
  | .int value, _ => spells_intChars value
  | .float .nan, _ => .word (.tail _ (.tail _ (.tail _ (.head _))))
  | .float (.infinite false), _ => .word (.tail _ (.tail _ (.tail _ (.tail _ (.head _)))))
  | .float (.infinite true), _ =>
    .word (.tail _ (.tail _ (.tail _ (.tail _ (.tail _ (.head _))))))
  | .str _, hvalid => spells_quote hvalid
  | .arr [], _ => .noItems areBlanks_nil
  | .arr (item :: items), hfaithful =>
    .items areBlanks_nil
      (spells_printItems (item :: items) hfaithful (List.cons_ne_nil item items))
  | .obj [], _ => .noMembers areBlanks_nil
  | .obj (member :: members), hfaithful => by
    have hspells := Spells.members areBlanks_nil
      (spells_printMembers (member :: members) hfaithful.2 (List.cons_ne_nil _ _))
    rwa [Assoc.entries_ofList hfaithful.1] at hspells

theorem spells_printItems : ∀ items : List Json, FaithfulItems items → items ≠ [] →
    SpellsAll Spells (printItems items) items
  | [], _, hnil => absurd rfl hnil
  | [_], hfaithful, _ => .single (spells_print hfaithful.1)
  | _ :: next :: items, hfaithful, _ =>
    .comma (spells_print hfaithful.1)
      (spells_printItems (next :: items) hfaithful.2 (List.cons_ne_nil _ _))

theorem spells_printMembers : ∀ members : List (CodeText × Json), FaithfulMembers members →
    members ≠ [] → SpellsAll SpellsMember (printMembers members) members
  | [], _, hnil => absurd rfl hnil
  | [(_, _)], hfaithful, _ => .single (spellsMember_colon hfaithful.1 (spells_print hfaithful.2.1))
  | (_, _) :: next :: members, hfaithful, _ =>
    .comma (spellsMember_colon hfaithful.1 (spells_print hfaithful.2.1))
      (spells_printMembers (next :: members) hfaithful.2.2 (List.cons_ne_nil _ _))

end

/-- The line of a faithful value spells that value. -/
theorem spelledBy_line {value : Json} (hfaithful : value.Faithful) : value.SpelledBy value.line :=
  ⟨[], value.print, [], by simp [line], areBlanks_nil, areBlanks_nil, spells_print hfaithful⟩

/-- A faithful value is read back from its line. -/
theorem read?_line {value : Json} (hfaithful : value.Faithful) : read? value.line = some value :=
  read?_eq_some_iff.2 (spelledBy_line hfaithful)

end TypeTest.Json
