import TypeTest.Proofs.TypeText.Expressions

/-!
# What is cut, and what is unwrapped

Bringing a text to normal form goes down into it in two ways: a text is cut at its top-level
separators, and a part that is wrapped in parentheses is unwrapped.  Both are exact, for any text
and whatever brackets it opens and closes.

Cutting loses nothing and leaves nothing to be cut (`split_complete`).  A part is read again from
depth zero, but so it was when it was cut: it stands behind a separator, where no bracket is open,
and a bracket that is closed without having been opened does not count there either.  So the second
reading goes through the same depths as the first (`splitAt_parts`).  A separator that it met would
stand in the text as well, and would have been met there.

A text is unwrapped exactly if its first and last characters are parentheses that belong together,
which is a statement about all beginnings of what stands between them (`unwrap?_exact`).
-/

namespace TypeTest.TypeText

open Text (extendFirst)

/-! ## Cutting -/

/-- The first part of a text stands at its beginning. -/
lemma prefix_of_splitAt {mark : Char} {depth : Nat} {text first : List Char}
    {others : List (List Char)} (hsplit : splitAt mark depth text = first :: others) :
    first <+: text := by
  have hjoin := join_splitAt mark depth text
  rw [hsplit] at hjoin
  cases others with
  | nil =>
    rw [join_singleton] at hjoin
    exact hjoin ▸ List.prefix_rfl
  | cons next others =>
    rw [join_cons_cons] at hjoin
    exact ⟨_, hjoin⟩

/-- No part of a text is cut when it is read again: the first part at the depth at which the text
was read, all others at depth zero. -/
lemma splitAt_parts (mark : Char) : ∀ (depth : Nat) (text : List Char),
    ∃ first others, splitAt mark depth text = first :: others ∧
      splitAt mark depth first = [first] ∧ ∀ part ∈ others, split mark part = [part]
  | depth, text => by
    by_cases hcut : depth = 0 ∧ separator mark <+: text
    · -- a cut: the first part is empty, and the others are the parts of the rest
      obtain ⟨rfl, rest, rfl⟩ := hcut
      have _shorter : rest.length < (separator mark ++ rest).length := by
        rw [List.length_append]
        exact Nat.lt_add_of_pos_left (Nat.succ_pos 2)
      obtain ⟨first, others, hsplit, hfirst, hothers⟩ := splitAt_parts mark 0 rest
      refine ⟨[], first :: others, ?_, rfl, List.forall_mem_cons.2 ⟨hfirst, hothers⟩⟩
      rw [splitAt_separator, hsplit]
    · cases text with
      | nil => exact ⟨[], [], rfl, rfl, fun _ hmem => nomatch hmem⟩
      | cons c rest =>
        obtain ⟨first, others, hsplit, hfirst, hothers⟩ :=
          splitAt_parts mark (advance depth c) rest
        refine ⟨c :: first, others, ?_, ?_, hothers⟩
        · rw [splitAt_advance fun hzero hbegins => hcut ⟨hzero, hbegins⟩, hsplit, extendFirst]
        · -- the first part begins as the text does, so there is no separator at its head either
          have hbeginning : c :: first <+: c :: rest :=
            List.cons_prefix_cons.2 ⟨rfl, prefix_of_splitAt hsplit⟩
          rw [splitAt_advance fun hzero hbegins => hcut ⟨hzero, hbegins.trans hbeginning⟩, hfirst,
            extendFirst]
termination_by _ text => text.length

/-- **Cutting is lossless and complete.**  At either of the two marks, joining the parts that a text
is cut into gives back the text; no part can be cut further; and if the brackets of the text
balance, so do those of every part. -/
theorem split_complete (level : Level) (text : List Char) :
    join level.mark (split level.mark text) = text ∧
      (∀ part ∈ split level.mark text, split level.mark part = [part]) ∧
      (Balanced text → ∀ part ∈ split level.mark text, Balanced part) := by
  refine ⟨join_splitAt level.mark 0 text, ?_, fun htext part hpart => ?_⟩
  · obtain ⟨first, others, hsplit, hfirst, hothers⟩ := splitAt_parts level.mark 0 text
    rw [split, hsplit]
    exact List.forall_mem_cons.2 ⟨hfirst, hothers⟩
  · exact (of_mem_split level.balanced_separator htext hpart).1

example : split '|' "a) | (b | c) |  | d".toList =
    ["a)".toList, "(b | c)".toList, "".toList, "d".toList] := by decide

/-! ## Unwrapping -/

/-- A text is wrapped around another: the two parentheses at its ends enclose it and belong
together. -/
structure Wraps (text inner : List Char) : Prop where
  encloses : text = '(' :: inner ++ [')']
  balanced : Balanced inner

lemma unwrap?_eq_some_iff {text inner : List Char} :
    unwrap? text = some inner ↔ Wraps text inner := by
  constructor
  · intro hunwrap
    obtain ⟨hencloses, hbalanced⟩ := wrapped_of_unwrap? hunwrap
    exact ⟨hencloses, hbalanced⟩
  · rintro ⟨rfl, hbalanced⟩
    exact unwrap?_wrapped hbalanced

/-- The parentheses of a member stay, and what they enclose is brought to normal form. -/
lemma Wraps.normalizeMember_eq {member inner : List Char} (hwraps : Wraps member inner) :
    normalizeMember member = '(' :: normalizeChars inner ++ [')'] := by
  rw [normalizeMember, unwrap?_eq_some_iff.2 hwraps]

/-- A member whose outer characters do not belong together stays as it is. -/
lemma normalizeMember_eq_self {member : List Char} (hnone : ∀ inner, ¬ Wraps member inner) :
    normalizeMember member = member := by
  unfold normalizeMember
  split
  · rename_i inner hunwrap
    exact absurd (unwrap?_eq_some_iff.1 hunwrap) (hnone inner)
  · rfl

/-- **Unwrapping is exact.**  A text is unwrapped exactly if it is a parenthesis, an inside and a
closing parenthesis, where the brackets of the inside balance.  A text is brought to normal form by
cutting it at both marks, and the members that are unwrapped, and no others, are brought to normal
form inside. -/
theorem unwrap?_exact (text : List Char) :
    ((unwrap? text).isSome = true ↔ ∃ inner, Wraps text inner) ∧
      normalizeChars text = join '|' (sort ((split '|' text).map fun part =>
        join '&' (sort ((split '&' part).map normalizeMember)))) ∧
      (∀ inner, Wraps text inner →
        normalizeMember text = '(' :: normalizeChars inner ++ [')']) ∧
      ((∀ inner, ¬ Wraps text inner) → normalizeMember text = text) := by
  refine ⟨?_, normalizeChars_eq text, fun inner hwraps => hwraps.normalizeMember_eq,
    normalizeMember_eq_self⟩
  rw [Option.isSome_iff_exists]
  exact exists_congr fun inner => unwrap?_eq_some_iff

example : unwrap? "(A] | B)".toList = none ∧ unwrap? "(A) & (B)".toList = none ∧
    unwrap? "(A [b))".toList = some "A [b)".toList := by decide

end TypeTest.TypeText
