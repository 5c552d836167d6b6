/-!
# Signed indices

An index below zero counts from the end: `-1` names the last entry.  An index outside both
directions names nothing.
-/

namespace TypeTest.Text

/-- The entry at a signed index, if there is one. -/
def signedGet? (xs : List α) (index : Int) : Option α :=
  if 0 ≤ index then xs[index.toNat]?
  else if 0 ≤ index + xs.length then xs[(index + xs.length).toNat]?
  else none

/-- From zero on a signed index is an ordinary one. -/
theorem signedGet?_natCast (xs : List α) (index : Nat) : signedGet? xs index = xs[index]? := by
  simp [signedGet?]

/-- Minus one names the last entry. -/
theorem signedGet?_neg_one (xs : List α) : signedGet? xs (-1) = xs.getLast? := by
  cases xs with
  | nil => rfl
  | cons x xs =>
    have inside : (0 : Int) ≤ -1 + ((x :: xs).length : Int) := by
      simp only [List.length_cons]; omega
    have last : (-1 + ((x :: xs).length : Int)).toNat = (x :: xs).length - 1 := by
      simp only [List.length_cons]; omega
    rw [signedGet?, if_neg (by decide), if_pos inside, last, List.getLast?_eq_getElem?]

end TypeTest.Text
