import Mathlib.Algebra.GroupWithZero.Nat
import TypeTest.Proofs.Regions

/-!
# The tokens of a text make up the text

The scan is a function, and so it has an answer for each text.  That alone does not say that the
rules by which it finds tokens are enough.  They are put to the test here as a grammar: a text is a
repetition of tokens, a token is taken by the first of seven alternatives that takes something, and
the repetition goes on for as long as one of them does (`Token.Repetition`).  Such a grammar might
stop within the text, or have no answer at all.

The main result (`scan_lossless`) is that it ends only where the text does, with the tokens of the
scan.  They lie one after the other and leave nothing out: put together their characters are the
text, and each token starts where those before it end.
-/

namespace TypeTest

namespace Token

/-! ## The grammar -/

/-- The alternatives for a token, in order of choice: the rules, and any single character. -/
def alternatives : List (Kind × (List Char → List Char)) :=
  rules ++ [(.other, List.take 1)]

/-- Tokens are taken off a text, one after the other, by the first alternative that takes something,
until none of them does.  What is left of the text then is left over. -/
inductive Repetition : List Char → List (Kind × List Char) → List Char → Prop
  | stop {text : List Char} (hnone : alternatives.findSome? (takenBy? text) = none) :
    Repetition text [] text
  | more {text left : List Char} {token : Kind × List Char} {tokens : List (Kind × List Char)}
      (hsome : alternatives.findSome? (takenBy? text) = some token)
      (hrest : Repetition (text.drop token.2.length) tokens left) :
    Repetition text (token :: tokens) left

/-- Of an empty text no alternative takes anything. -/
lemma alternatives_nil : alternatives.findSome? (takenBy? []) = none := rfl

/-- Of any other text one of the alternatives takes something, and it makes the first token. -/
lemma alternatives_cons (c : Char) (rest : List Char) :
    alternatives.findSome? (takenBy? (c :: rest)) = some (first c rest) := by
  rw [alternatives, List.findSome?_append, first]
  cases rules.findSome? (takenBy? (c :: rest)) with
  | none => rfl
  | some token => rfl

/-- The first token of a text, and what follows it, are the text. -/
lemma first_append_drop (c : Char) (rest : List Char) :
    (first c rest).2 ++ (c :: rest).drop (first c rest).2.length = c :: rest :=
  List.prefix_iff_eq_append.1 (opens_first c rest).begins

/-! ## The scan -/

/-- The scan finds tokens, none of them empty, that make up the text, and ends with the end of the
file. -/
lemma exists_tokens (offset : Nat) (text : List Char) :
    ∃ tokens, scanFrom offset text = tokens ++ [⟨.endOfFile, offset + text.length, []⟩] ∧
      (∀ token ∈ tokens, token.kind ≠ .endOfFile ∧ token.chars ≠ []) ∧
      tokens.flatMap (·.chars) = text := by
  fun_induction scanFrom offset text with
  | case1 offset => exact ⟨[], rfl, List.forall_mem_nil _, rfl⟩
  | case2 offset c rest ih =>
    obtain ⟨tokens, hscan, htokens, hchars⟩ := ih
    have htext := first_append_drop c rest
    have hlength := congrArg List.length htext
    rw [List.length_append] at hlength
    refine ⟨⟨(first c rest).1, offset, (first c rest).2⟩ :: tokens, ?_, ?_, ?_⟩
    · rw [hscan, List.cons_append, Nat.add_assoc, hlength]
    · exact List.forall_mem_cons.2
        ⟨⟨first_kind_ne_endOfFile c rest, first_ne_nil c rest⟩, htokens⟩
    · rw [List.flatMap_cons, hchars]
      exact htext

/-- Each token starts where those before it end. -/
lemma start_eq_sum {offset : Nat} {text : List Char} {before after : List Token} {token : Token}
    (hscan : scanFrom offset text = before ++ token :: after) :
    token.start = offset + (before.map (·.chars.length)).sum := by
  fun_induction scanFrom offset text generalizing before with
  | case1 offset =>
    cases before with
    | nil =>
      obtain ⟨rfl, -⟩ := List.cons.inj hscan
      rfl
    | cons found before => exact absurd (List.cons.inj hscan).2 (by simp)
  | case2 offset c rest ih =>
    cases before with
    | nil =>
      obtain ⟨rfl, -⟩ := List.cons.inj hscan
      rfl
    | cons found before =>
      obtain ⟨rfl, hrest⟩ := List.cons.inj hscan
      rw [ih hrest, List.map_cons, List.sum_cons, Nat.add_assoc]

/-- The grammar has one answer for a text: it takes the tokens of the scan, and leaves nothing
over. -/
lemma repetition_iff (offset : Nat) {text : List Char} {taken : List (Kind × List Char)}
    {left : List Char} :
    Repetition text taken left ↔ left = [] ∧ taken ++ [(.endOfFile, [])] =
      (scanFrom offset text).map fun token => (token.kind, token.chars) := by
  fun_induction scanFrom offset text generalizing taken with
  | case1 offset =>
    constructor
    · intro hrepeats
      cases hrepeats with
      | stop hnone => exact ⟨rfl, rfl⟩
      | more hsome hrest => cases alternatives_nil.symm.trans hsome
    · rintro ⟨rfl, htaken⟩
      cases taken with
      | nil => exact .stop alternatives_nil
      | cons token taken => exact absurd (List.cons.inj htaken).2 (by simp)
  | case2 offset c rest ih =>
    have hfirst := alternatives_cons c rest
    constructor
    · intro hrepeats
      cases hrepeats with
      | stop hnone => cases hfirst.symm.trans hnone
      | more hsome hrest =>
        obtain rfl := Option.some.inj (hfirst.symm.trans hsome)
        obtain ⟨hleft, htokens⟩ := ih.1 hrest
        exact ⟨hleft, congrArg (first c rest :: ·) htokens⟩
    · rintro ⟨hleft, htaken⟩
      cases taken with
      | nil =>
        have hkind := congrArg Prod.fst (List.cons.inj htaken).1
        exact absurd hkind.symm (first_kind_ne_endOfFile c rest)
      | cons token taken =>
        obtain ⟨rfl, htokens⟩ := List.cons.inj htaken
        exact .more hfirst (ih.2 ⟨hleft, htokens⟩)

/-- **The tokens of a text make up the text.**  The scan ends with a token for the end of the file,
which stands at the end of the text, and there is no other of its kind.  The tokens before it are
not empty, and their characters put together are the text; each token starts where those before it
end.  And they are what the grammar takes from the text: there is no other way to repeat its
alternatives, and none that stops within the text. -/
theorem scan_lossless (text : List Char) :
    ∃ tokens, scan text = tokens ++ [⟨.endOfFile, text.length, []⟩] ∧
      (∀ token ∈ tokens, token.kind ≠ .endOfFile ∧ token.chars ≠ []) ∧
      tokens.flatMap (·.chars) = text ∧
      (∀ before token after, scan text = before ++ token :: after →
        token.start = (before.map (·.chars.length)).sum) ∧
      ∀ taken left, Repetition text taken left ↔
        left = [] ∧ taken = tokens.map fun token => (token.kind, token.chars) := by
  obtain ⟨tokens, hscan, htokens, hchars⟩ := exists_tokens 0 text
  rw [Nat.zero_add] at hscan
  refine ⟨tokens, hscan, htokens, hchars, fun before token after hsplit => ?_, fun taken left => ?_⟩
  · rw [start_eq_sum hsplit, Nat.zero_add]
  · rw [repetition_iff 0, show scanFrom 0 text = _ from hscan, List.map_append, List.map_singleton,
      List.append_left_inj]

end Token

end TypeTest
