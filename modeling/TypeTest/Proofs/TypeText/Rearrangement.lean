import TypeTest.Proofs.TypeText.Expressions

/-!
# A normal form has the characters of its text

A type text is brought to normal form by cutting it, putting the pieces in order and joining them
again, inside parentheses too.  None of this needs the text to be well formed: it may close brackets
that it has not opened, and its members may be empty.  The normal form is made of the characters of
the text all the same, each as often as it stands there (`normalize_rearranges`).

Joined parts have the characters of the parts and of the separators between them
(`join_perm_flatten`).  So it does not matter in which order the parts are joined
(`join_perm_of_perm`), nor in which order the characters stand in each of them
(`join_map_perm`).  And cutting loses nothing, as joining undoes it.
-/

namespace TypeTest.TypeText

open scoped List

/-! ## Joined parts -/

/-- Joined parts have the characters of the parts, and those of a separator for each part but the
first one. -/
lemma join_perm_flatten (mark : Char) (part : List Char) (parts : List (List Char)) :
    join mark (part :: parts) ~
      (part :: parts).flatten ++ (List.replicate parts.length (separator mark)).flatten := by
  induction parts generalizing part with
  | nil =>
    rw [join_singleton, List.flatten_singleton, List.length_nil, List.replicate_zero,
      List.flatten_nil, List.append_nil]
  | cons next parts ih =>
    let separators := (List.replicate parts.length (separator mark)).flatten
    have hrest : separator mark ++ join mark (next :: parts) ~
        (next :: parts).flatten ++ (separator mark ++ separators) :=
      calc separator mark ++ join mark (next :: parts)
        _ ~ separator mark ++ ((next :: parts).flatten ++ separators) := (ih next).append_left _
        _ ~ (next :: parts).flatten ++ (separator mark ++ separators) := by
          rw [← List.append_assoc, ← List.append_assoc]
          exact List.perm_append_comm.append_right _
    rw [join_cons_cons, List.flatten_cons, List.length_cons, List.replicate_succ, List.flatten_cons,
      List.append_assoc]
    exact hrest.append_left part

/-- In another order the parts are joined to a text with the same characters. -/
lemma join_perm_of_perm (mark : Char) {parts others : List (List Char)} (hperm : parts ~ others) :
    join mark parts ~ join mark others := by
  cases parts with
  | nil => rw [hperm.nil_eq]
  | cons part parts =>
    cases others with
    | nil => exact absurd hperm.eq_nil (List.cons_ne_nil part parts)
    | cons other others =>
      have hlength : parts.length = others.length := Nat.succ.inj hperm.length_eq
      have hcharacters := join_perm_flatten mark part parts
      rw [hlength] at hcharacters
      exact hcharacters.trans
        ((hperm.flatten.append_right _).trans (join_perm_flatten mark other others).symm)

/-- If each part keeps its characters, so does what the parts are joined to. -/
lemma join_map_perm (mark : Char) {arrange : List Char → List Char} {parts : List (List Char)}
    (harrange : ∀ part ∈ parts, arrange part ~ part) :
    join mark (parts.map arrange) ~ join mark parts := by
  induction parts with
  | nil => exact .refl _
  | cons part parts ih =>
    obtain ⟨hpart, hparts⟩ := List.forall_mem_cons.1 harrange
    cases parts with
    | nil => rwa [List.map_singleton, join_singleton, join_singleton]
    | cons next parts =>
      rw [List.map_cons, List.map_cons, join_cons_cons, join_cons_cons, ← List.map_cons]
      exact hpart.append ((ih hparts).append_left _)

/-- A text that is cut keeps its characters when each part does and the parts are put in order. -/
lemma join_sort_perm (mark : Char) {arrange : List Char → List Char} {text : List Char}
    (harrange : ∀ part ∈ split mark text, arrange part ~ part) :
    join mark (sort ((split mark text).map arrange)) ~ text :=
  calc join mark (sort ((split mark text).map arrange))
    _ ~ join mark ((split mark text).map arrange) := join_perm_of_perm mark (sort_perm _)
    _ ~ join mark (split mark text) := join_map_perm mark harrange
    _ = text := join_splitAt mark 0 text

/-! ## Normal forms -/

/-- The normal form of a text has its characters.  The induction is on the length of the text, as
what is wrapped in parentheses is brought to normal form in its turn. -/
lemma normalizeChars_perm (text : List Char) : normalizeChars text ~ text := by
  rw [normalizeChars_eq]
  refine join_sort_perm '|' fun part hpart => join_sort_perm '&' fun member hmember => ?_
  unfold normalizeMember
  split
  · rename_i inner hunwrap
    have hshorter : inner.length < text.length :=
      calc inner.length
        _ < member.length := length_lt_of_unwrap? hunwrap
        _ ≤ part.length := length_le_of_mem_splitAt hmember
        _ ≤ text.length := length_le_of_mem_splitAt hpart
    have hinner : normalizeChars inner ~ inner := normalizeChars_perm inner
    rw [(wrapped_of_unwrap? hunwrap).1]
    exact (hinner.append_right [')']).cons '('
  · exact .refl _
termination_by text.length

/-- **Bringing a text to normal form loses nothing and invents nothing.**  The normal form is a
rearrangement of the characters of the text, whatever brackets it opens and closes: each character
occurs equally often in both, and they are of one length. -/
theorem normalize_rearranges (text : String) :
    (normalize text).toList ~ text.toList ∧
      (∀ c, (normalize text).toList.count c = text.toList.count c) ∧
      (normalize text).length = text.length := by
  have hperm : (normalize text).toList ~ text.toList := by
    rw [normalize, String.toList_ofList]
    exact normalizeChars_perm text.toList
  refine ⟨hperm, fun c => hperm.count_eq c, ?_⟩
  rw [← String.length_toList, ← String.length_toList, hperm.length_eq]

end TypeTest.TypeText
