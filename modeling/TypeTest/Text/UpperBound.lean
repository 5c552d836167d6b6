/-!
# Upper bounds by bisection

`upperBound xs x` is the number of entries of an ascending array that do not exceed `x`.  It is
found by halving, so looking up a position costs the logarithm of the number of entries.
-/

namespace TypeTest.Text

/-- The bound within `lo … hi`: entries before `lo` do not exceed `x`, entries from `hi` on do. -/
def upperBoundIn (xs : Array Nat) (x : Int) (lo hi : Nat) (bounded : hi ≤ xs.size) : Nat :=
  if _open : lo < hi then
    let mid := (lo + hi) / 2
    if x < xs[mid] then upperBoundIn xs x lo mid (by omega)
    else upperBoundIn xs x (mid + 1) hi bounded
  else lo
termination_by hi - lo

/-- How many entries of an ascending array do not exceed `x`. -/
def upperBound (xs : Array Nat) (x : Int) : Nat :=
  upperBoundIn xs x 0 xs.size (Nat.le_refl _)

theorem upperBoundIn_le (xs : Array Nat) (x : Int) (lo hi : Nat) (bounded : hi ≤ xs.size)
    (ordered : lo ≤ hi) : upperBoundIn xs x lo hi bounded ≤ hi := by
  fun_induction upperBoundIn xs x lo hi bounded with
  | case1 lo hi _ _ mid _ ih => have := ih (by omega); omega
  | case2 lo hi _ _ mid _ ih => exact ih (by omega)
  | case3 lo hi _ _ => exact ordered

/-- There are no more entries below a value than entries. -/
theorem upperBound_le_size (xs : Array Nat) (x : Int) : upperBound xs x ≤ xs.size :=
  upperBoundIn_le xs x 0 xs.size (Nat.le_refl _) (Nat.zero_le _)

end TypeTest.Text
