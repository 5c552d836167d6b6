import Mathlib.Data.List.DropRight
import TypeTest.Failure
import TypeTest.Proofs.Json.Printing
import TypeTest.Proofs.Parts

/-!
# Messages folded onto one line

A failure is reported in the manner of a compiler on one line, whatever lines its message has.  The
message is folded: its lines are stripped, and those that are not blank are joined by single spaces.
The main result (`Failure.toCompilerLine_folded`) says that the report has no break, that folding
drops white space only, and that a folded message is neither padded nor changed by folding it again.

Breaks and white space are two classes of characters.  Nothing but white space is lost because every
break is white space (`Unicode.isDisplayBlank_of_isDisplayBreak`), and a folded message stays as it
is because stripped lines are `IsTrim`, and so is what they are joined to.
-/

namespace TypeTest

namespace Unicode

/-- A code point of printable ASCII breaks no line. -/
lemma isDisplayBreak_of_printable {code : Nat} (hcode : 0x20 ≤ code ∧ code ≤ 0x7e) :
    isDisplayBreak code = false := by
  rw [← Bool.not_eq_true]
  intro hbreak
  simp only [isDisplayBreak, Bool.or_eq_true, beq_iff_eq] at hbreak
  rcases hbreak with (((((((((rfl | rfl) | rfl) | rfl) | rfl) | rfl) | rfl) | rfl) | rfl) | rfl)
  all_goals exact absurd hcode (by decide)

end Unicode

namespace Text

open Unicode

variable {codes others : List Nat}

/-- Code points without breaks. -/
def IsUnbroken (codes : List Nat) : Prop := ∀ code ∈ codes, isDisplayBreak code = false

instance (codes : List Nat) : Decidable (IsUnbroken codes) :=
  List.decidableBAll (fun code => isDisplayBreak code = false) codes

lemma IsUnbroken.append (hcodes : IsUnbroken codes) (hothers : IsUnbroken others) :
    IsUnbroken (codes ++ others) :=
  List.forall_mem_append.2 ⟨hcodes, hothers⟩

lemma isUnbroken_of_printable {text : List Char} (htext : Json.ArePrintable text) :
    IsUnbroken (text.map Char.toNat) :=
  List.forall_mem_map.2 fun c hc => isDisplayBreak_of_printable (htext c hc)

/-- Code points without breaks, and without white space at their ends. -/
structure IsTrim (codes : List Nat) : Prop where
  unbroken : IsUnbroken codes
  head : ∀ code ∈ codes.head?, isDisplayBlank code = false
  last : ∀ code ∈ codes.getLast?, isDisplayBlank code = false

lemma isTrim_nil : IsTrim [] where
  unbroken := by simp [IsUnbroken]
  head := by simp
  last := by simp

/-! ## Stripped lines -/

/-- A text is stripped at its beginning, and then at its end. -/
lemma strip_eq (codes : List Nat) :
    strip codes = (codes.dropWhile isDisplayBlank).rdropWhile isDisplayBlank := rfl

/-- A line is trim once it is stripped. -/
lemma isTrim_strip {line : List Nat} (hline : IsUnbroken line) : IsTrim (strip line) := by
  have hinitial : strip line <+: line.dropWhile isDisplayBlank := List.rdropWhile_prefix _ _
  refine ⟨fun code hcode => ?_, fun code hcode => ?_, fun code hcode => ?_⟩
  · exact hline code ((List.dropWhile_suffix _).subset (hinitial.subset hcode))
  · obtain ⟨behind, hbehind⟩ := hinitial
    have hfirst := List.head?_dropWhile_not isDisplayBlank line
    rw [← hbehind, List.head?_append, Option.mem_def.1 hcode] at hfirst
    exact hfirst
  · obtain ⟨hne, rfl⟩ := List.mem_getLast?_eq_getLast hcode
    exact Bool.eq_false_iff.2 (List.rdropWhile_last_not isDisplayBlank _ hne)

/-- Stripping takes nothing off a trim text. -/
lemma IsTrim.strip_eq_self (htrim : IsTrim codes) : strip codes = codes := by
  have hfirst : codes.dropWhile isDisplayBlank = codes := by
    cases hcodes : codes with
    | nil => rfl
    | cons code rest =>
      exact List.dropWhile_cons_of_neg (Bool.eq_false_iff.1 (htrim.head code (by rw [hcodes]; rfl)))
  rw [strip_eq, hfirst, List.rdropWhile_eq_self_iff]
  exact fun hne => Bool.eq_false_iff.1 (htrim.last _ (List.getLast?_eq_getLast_of_ne_nil hne))

/-! ## Joined lines -/

/-- Trim texts are joined to a trim text. -/
lemma IsTrim.join (hcodes : IsTrim codes) (hne : codes ≠ []) (hothers : IsTrim others)
    (hne' : others ≠ []) : IsTrim (codes ++ [' '.toNat] ++ others) where
  unbroken := (hcodes.unbroken.append (by decide)).append hothers.unbroken
  head := by
    rw [List.append_assoc, List.head?_append_of_ne_nil _ hne]
    exact hcodes.head
  last := by
    rw [List.getLast?_append_of_ne_nil _ hne']
    exact hothers.last

lemma isTrim_intercalate {lines : List (List Nat)}
    (hlines : ∀ line ∈ lines, IsTrim line ∧ line ≠ []) :
    IsTrim ([' '.toNat].intercalate lines) ∧
      (lines ≠ [] → [' '.toNat].intercalate lines ≠ []) := by
  induction lines with
  | nil => exact ⟨isTrim_nil, fun hne => absurd rfl hne⟩
  | cons line others ih =>
    obtain ⟨hline, hrest⟩ := List.forall_mem_cons.1 hlines
    cases others with
    | nil => simpa using hline
    | cons next others =>
      obtain ⟨htrim, hne⟩ := ih hrest
      rw [List.intercalate_cons_cons]
      exact ⟨hline.1.join hline.2 htrim (hne (List.cons_ne_nil _ _)),
        fun _ => by simp [hline.2]⟩

/-- A folded text is trim. -/
lemma isTrim_fold (text : CodeText) : IsTrim (fold text).codes := by
  refine (isTrim_intercalate fun line hline => ?_).1
  rw [solidLines, List.mem_filter, List.mem_map] at hline
  obtain ⟨⟨part, hpart, rfl⟩, hne⟩ := hline
  exact ⟨isTrim_strip fun code hcode => isCut_of_mem_splitOnP hpart hcode, by simpa using hne⟩

/-- Folding does not change a trim text. -/
lemma fold_eq_self {text : CodeText} (htrim : IsTrim text.codes) : fold text = text := by
  obtain ⟨codes⟩ := text
  rw [fold, solidLines, List.splitOnP_eq_singleton htrim.unbroken, List.map_singleton,
    htrim.strip_eq_self]
  cases codes with
  | nil => rfl
  | cons code rest => exact congrArg CodeText.mk List.intercalate_singleton

/-! ## What is left of a text -/

/-- The code points that are not white space. -/
def visible (codes : List Nat) : List Nat := codes.filter fun code => !isDisplayBlank code

lemma visible_append (codes others : List Nat) :
    visible (codes ++ others) = visible codes ++ visible others :=
  List.filter_append codes others

lemma visible_eq_nil (hblank : ∀ code ∈ codes, isDisplayBlank code = true) :
    visible codes = [] :=
  List.filter_eq_nil_iff.2 fun code hcode => by simp [hblank code hcode]

lemma visible_dropWhile (codes : List Nat) :
    visible (codes.dropWhile isDisplayBlank) = visible codes := by
  have hblank : visible (codes.takeWhile isDisplayBlank) = [] :=
    visible_eq_nil fun code hcode => List.mem_takeWhile_imp hcode
  calc visible (codes.dropWhile isDisplayBlank)
    _ = visible (codes.takeWhile isDisplayBlank ++ codes.dropWhile isDisplayBlank) := by
      rw [visible_append, hblank, List.nil_append]
    _ = visible codes := by rw [List.takeWhile_append_dropWhile]

lemma visible_reverse (codes : List Nat) : visible codes.reverse = (visible codes).reverse :=
  List.filter_reverse

lemma visible_strip (codes : List Nat) : visible (strip codes) = visible codes := by
  rw [strip, visible_reverse, visible_dropWhile, visible_reverse, visible_dropWhile,
    List.reverse_reverse]

lemma visible_intercalate (lines : List (List Nat)) :
    visible ([' '.toNat].intercalate lines) = (lines.map visible).flatten := by
  induction lines with
  | nil => rfl
  | cons line others ih =>
    cases others with
    | nil => simp
    | cons next others =>
      have hspace : visible [' '.toNat] = [] := rfl
      rw [List.intercalate_cons_cons, visible_append, visible_append, hspace, List.append_nil, ih]
      rfl

lemma flatten_map_visible (lines : List (List Nat)) :
    (lines.map visible).flatten = visible lines.flatten :=
  List.filter_flatten.symm

/-- Nothing but white space is lost when a text is folded. -/
lemma visible_fold (text : CodeText) : visible (fold text).codes = visible text.codes := by
  have hbreaks : visible (text.codes.splitOnP isDisplayBreak).flatten = visible text.codes := by
    rw [flatten_splitOnP, visible, List.filter_filter]
    refine List.filter_congr fun code _ => ?_
    cases hbreak : isDisplayBreak code with
    | false => simp
    | true => simp [isDisplayBlank_of_isDisplayBreak hbreak]
  have hstrip : visible ∘ strip = visible := funext visible_strip
  rw [fold, visible_intercalate, flatten_map_visible, solidLines,
    List.flatten_filter_not_isEmpty, ← flatten_map_visible, List.map_map, hstrip,
    flatten_map_visible, hbreaks]

end Text

namespace Failure

open Text

lemma isUnbroken_intText (value : Int) :
    IsUnbroken (CodeText.ofString (Number.intText value)).codes := by
  rw [Number.intText, CodeText.codes_ofString, String.toList_ofList]
  exact isUnbroken_of_printable (Json.printable_intChars value)

/-- The place of a failure has no break that is not in the name of its file. -/
lemma exists_place (failure : Failure) (source? : Option Source)
    (hfile : IsUnbroken (CodeText.ofString failure.file).codes) :
    ∃ place : String, IsUnbroken (CodeText.ofString place).codes ∧
      failure.toCompilerLine source? = failure.lineAt place := by
  cases source? with
  | none =>
    refine ⟨_, ?_, rfl⟩
    rw [offsetPlace]
    simp only [toString, CodeText.ofString_append, CodeText.codes_append]
    exact (hfile.append (by decide)).append (isUnbroken_intText _)
  | some source =>
    refine ⟨_, ?_, rfl⟩
    simp only [linePlace, toString, CodeText.ofString_append, CodeText.codes_append]
    exact (((hfile.append (by decide)).append (isUnbroken_intText _)).append
      (by decide)).append (isUnbroken_intText _)

lemma isUnbroken_label (kind : Kind) : IsUnbroken (CodeText.ofString kind.label).codes := by
  cases kind <;> decide

/-- **A failure is reported on one line, and its message is kept.**  Without a break in the name of
the file there is none in the report, with or without a source at hand.  The report gives the
message folded.  That has the characters of the message that are not white space, in their order; it
neither begins nor ends with white space; and folding it again does not change it. -/
theorem toCompilerLine_folded (failure : Failure) (source? : Option Source)
    (hfile : IsUnbroken (CodeText.ofString failure.file).codes) :
    IsUnbroken (failure.toCompilerLine source?).codes ∧
      ∃ (place : String) (folded : CodeText),
        failure.toCompilerLine source? =
          s!"{place}: error: " ++ folded ++ s!" [{failure.kind.label}]" ∧
        folded = fold failure.message ∧
        visible folded.codes = visible failure.message.codes ∧
        (∀ code ∈ folded.codes.head?, Unicode.isDisplayBlank code = false) ∧
        (∀ code ∈ folded.codes.getLast?, Unicode.isDisplayBlank code = false) ∧
        fold folded = folded := by
  obtain ⟨place, hplace, hline⟩ := failure.exists_place source? hfile
  have htrim : IsTrim (fold failure.message).codes := isTrim_fold _
  refine ⟨?_, place, fold failure.message, hline, rfl, visible_fold _, htrim.head, htrim.last,
    fold_eq_self htrim⟩
  simp only [hline, lineAt, toString, CodeText.ofString_append, CodeText.codes_append]
  exact ((hplace.append (by decide)).append htrim.unbroken).append
    (((by decide : IsUnbroken _).append (isUnbroken_label _)).append (by decide))

/-- A message with breaks of several kinds, a blank line, and white space at its ends. -/
theorem toCompilerLine_folded_breaks :
    let failure : Failure := {
      start := 0
      length := 1
      message := " a \r\n\t\n b\u2028\x1f c "
      kind := .typeMismatch
      file := "a.ts" }
    IsUnbroken (CodeText.ofString failure.file).codes ∧
      IsUnbroken (failure.toCompilerLine none).codes ∧
      visible (fold failure.message).codes = (CodeText.ofString "abc").codes ∧
      fold (fold failure.message) = fold failure.message := by
  intro failure
  have hfile : IsUnbroken (CodeText.ofString failure.file).codes := by decide
  obtain ⟨hline, place, folded, -, hfolded, hvisible, -, -, hagain⟩ :=
    failure.toCompilerLine_folded none hfile
  rw [hfolded] at hvisible hagain
  exact ⟨hfile, hline, hvisible.trans (by decide), hagain⟩

/-- The lines of a message are put behind each other, without those that are blank. -/
example : fold " a \r\n\t\n b\u2028\x1f c " = "a b c" := by
  decide

end Failure

end TypeTest
