import Mathlib.Tactic.Lemma
import TypeTest.Token

/-!
# The tokens of a text, in order

What the rest of the theory needs to know about a scan is little.  The tokens stand in the order of
the offsets at which they start (`scan_ascending`); the end-of-file token is the last one and no
other is of its kind (`scan_endOfFile`); and a line comment is part of the text and stays on its
line (`infix_of_mem_scan`, `not_isLineEnd_of_mem_scan`).  All of it follows from what the first
token of a text can be (`first_cases`).
-/

namespace TypeTest

open Unicode (isLineEnd)

namespace Token

/-! ## The first token -/

/-- The first token of a text is what one of the rules takes, or a single character. -/
lemma first_cases (c : Char) (rest : List Char) :
    (∃ rule ∈ rules, first c rest = (rule.1, rule.2 (c :: rest))) ∨
      first c rest = (.other, [c]) := by
  unfold first
  cases hfound : rules.findSome? (takenBy? (c :: rest)) with
  | none => exact .inr rfl
  | some token =>
    obtain ⟨rule, hrule, happlied⟩ := List.exists_of_findSome?_eq_some hfound
    refine .inl ⟨rule, hrule, ?_⟩
    unfold takenBy? at happlied
    split at happlied
    · cases happlied
    · exact (Option.some.inj happlied).symm

lemma first_kind_ne_endOfFile (c : Char) (rest : List Char) :
    (first c rest).1 ≠ .endOfFile := by
  have hrules : ∀ rule ∈ rules, rule.1 ≠ .endOfFile := by decide
  rcases first_cases c rest with ⟨rule, hrule, hfirst⟩ | hfirst
  · rw [hfirst]
    exact hrules rule hrule
  · rw [hfirst]
    exact nofun

/-- Where a single rule makes tokens of a kind, such a token is what this rule takes. -/
lemma first_eq_of_kind {c : Char} {rest : List Char} {kind : Kind} {taking : List Char → List Char}
    (hrules : ∀ rule ∈ rules, rule.1 = kind → rule.2 = taking) (hother : kind ≠ .other)
    (hkind : (first c rest).1 = kind) : (first c rest).2 = taking (c :: rest) := by
  rcases first_cases c rest with ⟨rule, hrule, hfirst⟩ | hfirst
  · rw [hfirst] at hkind ⊢
    rw [← hrules rule hrule hkind]
  · rw [hfirst] at hkind
    exact absurd hkind.symm hother

lemma first_eq_lineComment {c : Char} {rest : List Char}
    (hkind : (first c rest).1 = .lineComment) : (first c rest).2 = lineComment (c :: rest) := by
  have hrules : ∀ rule ∈ rules, rule.1 = .lineComment → rule.2 = lineComment := by simp [rules]
  exact first_eq_of_kind hrules (by decide) hkind

lemma newline_eq_nil_iff {c : Char} {rest : List Char} :
    newline (c :: rest) = [] ↔ isLineEnd c = false := by
  rw [newline.eq_def]
  split
  · rename_i heq
    obtain ⟨rfl, rfl⟩ := List.cons.inj heq
    exact iff_of_false nofun nofun
  · rename_i heq
    obtain ⟨rfl, rfl⟩ := List.cons.inj heq
    simp
  · rename_i heq
    cases heq

/-- A token that is a line break is one with which the text begins. -/
lemma first_eq_newline {c : Char} {rest : List Char} (hkind : (first c rest).1 = .newline) :
    isLineEnd c = true ∧ (first c rest).2 = newline (c :: rest) := by
  have hrules : ∀ rule ∈ rules, rule.1 = .newline → rule.2 = newline := by simp [rules]
  have htaken := first_eq_of_kind hrules (by decide) hkind
  refine ⟨?_, htaken⟩
  rw [← Bool.not_eq_false]
  intro hc
  exact first_ne_nil c rest (htaken.trans (newline_eq_nil_iff.2 hc))

/-- A line comment is the beginning of what it is taken from. -/
lemma lineComment_begins (text : List Char) : lineComment text <+: text := by
  unfold lineComment
  split
  · rename_i rest
    exact (List.prefix_append_right_inj ['/', '/']).2 (List.takeWhile_prefix _)
  · exact List.nil_prefix

/-- A line comment does not run past its line. -/
lemma not_isLineEnd_of_mem_lineComment {text : List Char} {c : Char}
    (hmem : c ∈ lineComment text) : isLineEnd c = false := by
  unfold lineComment at hmem
  split at hmem
  · rename_i rest
    simp only [List.mem_cons] at hmem
    rcases hmem with rfl | rfl | hmem
    · rfl
    · rfl
    · have hall := List.all_takeWhile (p := fun c => !isLineEnd c) (l := rest)
      have hkept := List.all_eq_true.1 hall c hmem
      simpa using hkept
  · cases hmem

/-! ## The scan -/

lemma le_start_of_mem_scanFrom {offset : Nat} {text : List Char} {token : Token}
    (hmem : token ∈ scanFrom offset text) : offset ≤ token.start := by
  fun_induction scanFrom offset text with
  | case1 offset =>
    obtain rfl := List.mem_singleton.1 hmem
    exact Nat.le_refl _
  | case2 offset c rest ih =>
    rcases List.mem_cons.1 hmem with rfl | hmem
    · exact Nat.le_refl _
    · have hrest := ih hmem
      omega

lemma scanFrom_ascending (offset : Nat) (text : List Char) :
    (scanFrom offset text).Pairwise (·.start < ·.start) := by
  fun_induction scanFrom offset text with
  | case1 offset => exact List.pairwise_singleton ..
  | case2 offset c rest ih =>
    refine .cons (fun later hlater => ?_) ih
    have hlength := List.length_pos_iff.2 (first_ne_nil c rest)
    have hstart := le_start_of_mem_scanFrom hlater
    show offset < later.start
    omega

/-- Every token starts after the one before it. -/
theorem scan_ascending (text : List Char) : (scan text).Pairwise (·.start < ·.start) :=
  scanFrom_ascending 0 text

/-- A token that another one comes after does not end the file. -/
theorem scan_endOfFile (text : List Char) :
    (scan text).Pairwise fun token _ => token.kind ≠ .endOfFile := by
  have hfrom : ∀ offset text,
      (scanFrom offset text).Pairwise fun token _ => token.kind ≠ .endOfFile := by
    intro offset text
    fun_induction scanFrom offset text with
    | case1 offset => exact List.pairwise_singleton ..
    | case2 offset c rest ih => exact .cons (fun _ _ => first_kind_ne_endOfFile c rest) ih
  exact hfrom 0 text

/-- A line comment is taken off what the text goes on with at some place. -/
lemma exists_suffix_of_mem_scanFrom {offset : Nat} {text : List Char} {token : Token}
    (hmem : token ∈ scanFrom offset text) (hkind : token.kind = .lineComment) :
    ∃ rest, rest <:+ text ∧ token.chars = lineComment rest := by
  fun_induction scanFrom offset text with
  | case1 offset =>
    obtain rfl := List.mem_singleton.1 hmem
    cases hkind
  | case2 offset c rest ih =>
    rcases List.mem_cons.1 hmem with rfl | hmem
    · exact ⟨c :: rest, List.suffix_rfl, first_eq_lineComment hkind⟩
    · obtain ⟨later, hsuffix, hchars⟩ := ih hmem
      exact ⟨later, hsuffix.trans (List.drop_suffix _ _), hchars⟩

/-- A line comment is part of the text. -/
theorem infix_of_mem_scan {text : List Char} {token : Token} (hmem : token ∈ scan text)
    (hkind : token.kind = .lineComment) : token.chars <:+: text := by
  obtain ⟨rest, hsuffix, hchars⟩ := exists_suffix_of_mem_scanFrom hmem hkind
  rw [hchars]
  exact (lineComment_begins rest).isInfix.trans hsuffix.isInfix

/-- A line comment stays on its line. -/
theorem not_isLineEnd_of_mem_scan {text : List Char} {token : Token} (hmem : token ∈ scan text)
    (hkind : token.kind = .lineComment) {c : Char} (hc : c ∈ token.chars) :
    isLineEnd c = false := by
  obtain ⟨rest, -, hchars⟩ := exists_suffix_of_mem_scanFrom hmem hkind
  rw [hchars] at hc
  exact not_isLineEnd_of_mem_lineComment hc

end Token

end TypeTest
