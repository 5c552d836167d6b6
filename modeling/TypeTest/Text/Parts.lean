/-!
# Texts in parts

Cutting a text goes through it once and builds the parts from the back: a character that is not
cut at goes to the head of the part that is begun already.  Apart from that, a text can be looked
for in another.
-/

namespace TypeTest.Text

/-- Does a list occur in another, from some item on?  The way to decide it is named, as there is
more than one. -/
def occursIn {α : Type} [DecidableEq α] (part whole : List α) : Bool :=
  @decide (part <:+: whole) (List.instDecidableIsInfixOfDecidableEq part whole)

theorem occursIn_iff {α : Type} [DecidableEq α] {part whole : List α} :
    occursIn part whole = true ↔ part <:+: whole :=
  @decide_eq_true_iff (part <:+: whole) (List.instDecidableIsInfixOfDecidableEq part whole)

/-- Puts a character before the first part. -/
def extendFirst (c : Char) : List (List Char) → List (List Char)
  | [] => [[c]]
  | part :: parts => (c :: part) :: parts

theorem length_le_of_mem_extendFirst {c : Char} {parts : List (List Char)} {bound : Nat}
    (small : ∀ part ∈ parts, part.length ≤ bound) {part : List Char}
    (mem : part ∈ extendFirst c parts) : part.length ≤ bound + 1 := by
  cases parts with
  | nil => simp_all [extendFirst]
  | cons first others =>
    rcases List.mem_cons.1 mem with rfl | mem
    · simpa using small first (by simp)
    · exact Nat.le_succ_of_le (small part (List.mem_cons_of_mem _ mem))

end TypeTest.Text
