import Mathlib.Data.Int.Order.Basic
import Mathlib.Data.List.Nodup
import Mathlib.Data.Nat.Basic
import Mathlib.Order.Lattice
import Mathlib.Tactic.Lemma
import TypeTest.Directive

/-!
# On which line an offset lies

A source keeps the offsets at which its lines start, and finds the line of an offset by bisection.
The scan for directives goes about it in another way: its line cursor never looks back, and moves on
as long as the next line starts at or before the offset.

Both are described here by the line starts alone.  An offset lies on a line if the line starts at
or before it and the next one, if there is one, starts after it (`lineAt_eq_iff`).  That is where
bisection ends, because line starts ascend (`upperBound_spec`, `lineStarts_ascending`), and where
the cursor stops (`Cursor.moveTo`).

Lines are reported in ascending order, and so it does not matter how they were found
(`mergeSort_ascending`, `eq_of_ascending`).
-/

namespace TypeTest

/-! ## Lines in order -/

/-- Repeated lines are struck out. -/
lemma nodup_eraseDups (lines : List Int) : lines.eraseDups.Nodup := by
  match lines with
  | [] => exact List.nodup_nil
  | line :: lines =>
    rw [List.eraseDups_cons, List.nodup_cons, List.mem_eraseDups]
    exact ⟨by simp, nodup_eraseDups _⟩
termination_by lines.length
decreasing_by exact Nat.lt_succ_of_le (List.length_filter_le ..)

/-- Lines that are all different strictly ascend once they are sorted. -/
lemma mergeSort_ascending {lines : List Int} (hlines : lines.Nodup) :
    lines.mergeSort.Pairwise (· < ·) := by
  have hsorted : lines.mergeSort.Pairwise fun line other => decide (line ≤ other) = true := by
    refine List.pairwise_mergeSort (fun first second third hfirst hsecond => ?_)
      (fun line other => ?_) lines
    · exact decide_eq_true (Int.le_trans (of_decide_eq_true hfirst) (of_decide_eq_true hsecond))
    · rw [Bool.or_eq_true, decide_eq_true_iff, decide_eq_true_iff]
      exact Int.le_total line other
  have hdistinct : lines.mergeSort.Nodup := (List.mergeSort_perm lines _).nodup_iff.2 hlines
  refine hsorted.imp₂ (fun line other hle hne => ?_) hdistinct
  exact Int.lt_iff_le_and_ne.2 ⟨of_decide_eq_true hle, hne⟩

/-- Strictly ascending lists are known by what is in them. -/
lemma eq_of_ascending {α : Type} [LinearOrder α] {lines others : List α}
    (hlines : lines.Pairwise (· < ·)) (hothers : others.Pairwise (· < ·))
    (hsame : ∀ line, line ∈ lines ↔ line ∈ others) : lines = others := by
  have hperm : lines.Perm others :=
    (List.perm_ext_iff_of_nodup (hlines.imp ne_of_lt) (hothers.imp ne_of_lt)).2 hsame
  exact hperm.eq_of_pairwise (fun _ _ _ _ hlt hgt => absurd hgt (lt_asymm hlt)) hlines hothers

/-! ## Bisection -/

namespace Text

variable {xs : Array Nat} {x : Int}

/-- Bisection keeps to its promise: entries before the bound do not exceed `x`, those from the
bound on do. -/
lemma upperBoundIn_spec (hxs : xs.toList.Pairwise (· < ·)) {lo hi : Nat} (hhi : hi ≤ xs.size)
    (hordered : lo ≤ hi) (hbelow : ∀ i, ∀ h : i < xs.size, i < lo → (xs[i] : Int) ≤ x)
    (habove : ∀ i, ∀ h : i < xs.size, hi ≤ i → x < xs[i]) :
    (∀ i, ∀ h : i < xs.size, i < upperBoundIn xs x lo hi hhi → (xs[i] : Int) ≤ x) ∧
      ∀ i, ∀ h : i < xs.size, upperBoundIn xs x lo hi hhi ≤ i → x < xs[i] := by
  have hascends : ∀ i j, ∀ hi : i < xs.size, ∀ hj : j < xs.size, i ≤ j → xs[i] ≤ xs[j] := by
    intro i j hi hj hij
    rcases Nat.lt_or_eq_of_le hij with hlt | rfl
    · exact Nat.le_of_lt (List.pairwise_iff_getElem.1 hxs i j (by simpa) (by simpa) hlt)
    · exact Nat.le_refl _
  fun_induction upperBoundIn xs x lo hi hhi with
  | case1 lo hi hhi hopen mid hlt ih =>
    refine ih (by omega) hbelow fun i h hmid => ?_
    have hstep := hascends mid i (by omega) h hmid
    omega
  | case2 lo hi hhi hopen mid hge ih =>
    refine ih (by omega) (fun i h hmid => ?_) habove
    have hstep := hascends i mid h (by omega) (by omega)
    omega
  | case3 lo hi hhi hclosed =>
    have heq : hi = lo := by omega
    exact ⟨hbelow, heq ▸ habove⟩

/-- In an ascending array exactly the entries before the upper bound do not exceed `x`. -/
theorem upperBound_spec (hxs : xs.toList.Pairwise (· < ·)) (x : Int) {i : Nat}
    (hi : i < xs.size) : i < upperBound xs x ↔ (xs[i] : Int) ≤ x := by
  obtain ⟨hbelow, habove⟩ := upperBoundIn_spec (x := x) hxs (Nat.le_refl xs.size)
    (Nat.zero_le _) (fun _ _ hnone => absurd hnone (Nat.not_lt_zero _))
    (fun i h hsize => absurd h (Nat.not_lt.2 hsize))
  constructor
  · exact hbelow i hi
  · intro hle
    by_cases hbound : i < upperBound xs x
    · exact hbound
    · have habove' := habove i hi (Nat.le_of_not_lt hbound)
      omega

/-- The upper bound is the number of entries that do not exceed `x`. -/
lemma upperBound_eq_countP (hxs : xs.toList.Pairwise (· < ·)) (x : Int) :
    upperBound xs x = xs.toList.countP fun entry : Nat => (entry : Int) ≤ x := by
  have hbound := upperBound_le_size xs x
  have hbelow : (xs.toList.take (upperBound xs x)).countP (fun entry : Nat => (entry : Int) ≤ x) =
      upperBound xs x := by
    rw [List.countP_eq_length.2, List.length_take, Array.length_toList, Nat.min_eq_left hbound]
    intro entry hentry
    obtain ⟨i, hi, rfl⟩ := List.mem_take_iff_getElem.1 hentry
    rw [Array.length_toList, Nat.min_eq_left hbound] at hi
    exact decide_eq_true ((upperBound_spec hxs x (Nat.lt_of_lt_of_le hi hbound)).1 hi)
  have habove :
      (xs.toList.drop (upperBound xs x)).countP (fun entry : Nat => (entry : Int) ≤ x) = 0 := by
    rw [List.countP_eq_zero]
    intro entry hentry
    obtain ⟨i, hi, rfl⟩ := List.mem_drop_iff_getElem.1 hentry
    rw [Array.length_toList, Nat.add_comm] at hi
    have hspec := upperBound_spec hxs x hi
    simp only [Array.getElem_toList, decide_eq_true_eq]
    omega
  rw [← List.take_append_drop (upperBound xs x) xs.toList, List.countP_append, hbelow, habove,
    Nat.add_zero]

end Text

/-! ## Line starts -/

/-- A line starts after the break that ends the line before it. -/
lemma lt_of_mem_startsAfterBreaks {offset start : Nat} {text : List Char}
    (hmem : start ∈ startsAfterBreaks offset text) : offset < start := by
  fun_induction startsAfterBreaks offset text with
  | case1 => cases hmem
  | case2 offset rest ih =>
    rcases List.mem_cons.1 hmem with rfl | hmem
    · omega
    · have hrest := ih hmem
      omega
  | case3 offset c rest _ _ ih =>
    rcases List.mem_cons.1 hmem with rfl | hmem
    · omega
    · have hrest := ih hmem
      omega
  | case4 offset c rest _ _ ih =>
    have hrest := ih hmem
    omega

lemma startsAfterBreaks_ascending (offset : Nat) (text : List Char) :
    (startsAfterBreaks offset text).Pairwise (· < ·) := by
  fun_induction startsAfterBreaks offset text with
  | case1 => exact .nil
  | case2 offset rest ih => exact .cons (fun _ hmem => lt_of_mem_startsAfterBreaks hmem) ih
  | case3 offset c rest _ _ ih => exact .cons (fun _ hmem => lt_of_mem_startsAfterBreaks hmem) ih
  | case4 offset c rest _ _ ih => exact ih

/-- The lines of what a text goes on with are lines of the text. -/
lemma mem_startsAfterBreaks_cons {offset start : Nat} {c : Char} {rest : List Char}
    (hmem : start ∈ startsAfterBreaks (offset + 1) rest) :
    start ∈ startsAfterBreaks offset (c :: rest) := by
  rw [startsAfterBreaks.eq_def]
  split
  · rename_i heq
    cases heq
  · rename_i more heq
    -- between the CR and the LF of a line break no other one begins
    obtain ⟨rfl, rfl⟩ := List.cons.inj heq
    exact hmem
  · rename_i heq
    obtain ⟨rfl, rfl⟩ := List.cons.inj heq
    split
    · exact List.mem_cons_of_mem _ hmem
    · exact hmem

lemma mem_startsAfterBreaks_drop {offset start : Nat} {text : List Char} (taken : Nat)
    (hmem : start ∈ startsAfterBreaks (offset + taken) (text.drop taken)) :
    start ∈ startsAfterBreaks offset text := by
  induction taken generalizing offset text with
  | zero => exact hmem
  | succ taken ih =>
    cases text with
    | nil => cases hmem
    | cons c rest =>
      refine mem_startsAfterBreaks_cons (ih ?_)
      rwa [Nat.add_right_comm]

namespace Source

/-- Every line starts after the one before it. -/
theorem lineStarts_ascending (source : Source) : source.lineStarts.Pairwise (· < ·) := by
  rw [lineStarts_eq]
  exact .cons (fun _ hmem => lt_of_mem_startsAfterBreaks hmem) (startsAfterBreaks_ascending _ _)

/-- The line of an offset is the number of line breaks that end at or before it. -/
lemma lineAt_eq_countP (source : Source) (offset : Int) :
    source.lineAt offset =
      (source.lineStarts.countP fun start : Nat => (start : Int) ≤ offset : Nat) - 1 := by
  rw [lineAt, Text.upperBound_eq_countP source.lineStarts_ascending, lineStarts]

lemma lineAt_le_lineAt (source : Source) {earlier later : Int} (hle : earlier ≤ later) :
    source.lineAt earlier ≤ source.lineAt later := by
  have hcount : (source.lineStarts.countP fun start : Nat => (start : Int) ≤ earlier) ≤
      source.lineStarts.countP fun start : Nat => (start : Int) ≤ later :=
    List.countP_mono_left fun start _ hstart =>
      decide_eq_true (Int.le_trans (of_decide_eq_true hstart) hle)
  rw [lineAt_eq_countP, lineAt_eq_countP]
  omega

/-- An offset lies on the line that starts at or before it, if the next one starts after it. -/
theorem lineAt_eq_iff (source : Source) (offset : Int) {line : Nat}
    (hline : line < source.lineStarts.length) :
    source.lineAt offset = line ↔
      (source.lineStarts[line] : Int) ≤ offset ∧
        ∀ hnext : line + 1 < source.lineStarts.length,
          offset < source.lineStarts[line + 1] := by
  have hspec : ∀ i, ∀ hi : i < source.starts.size,
      i < Text.upperBound source.starts offset ↔ (source.starts[i] : Int) ≤ offset :=
    fun i hi => Text.upperBound_spec source.lineStarts_ascending offset hi
  have hbound := Text.upperBound_le_size source.starts offset
  simp only [lineAt, lineStarts, Array.getElem_toList, Array.length_toList] at hline ⊢
  constructor
  · intro hat
    refine ⟨(hspec line hline).1 (by omega), fun hnext => ?_⟩
    have hpast := hspec (line + 1) hnext
    omega
  · rintro ⟨hstart, hpast⟩
    have hbefore := (hspec line hline).2 hstart
    by_cases hnext : line + 1 < source.starts.size
    · have hafter := hspec (line + 1) hnext
      have hpast' := hpast hnext
      omega
    · omega

/-- An offset lies on a line or on a later one if the line starts at or before it. -/
theorem le_lineAt_iff (source : Source) (offset : Int) {line : Nat}
    (hline : line < source.lineStarts.length) :
    (line : Int) ≤ source.lineAt offset ↔ (source.lineStarts[line] : Int) ≤ offset := by
  have hsize : line < source.starts.size := by
    simpa [lineStarts] using hline
  have hspec := Text.upperBound_spec source.lineStarts_ascending offset hsize
  simp only [lineAt, lineStarts, Array.getElem_toList]
  omega

/-- If a line starts between two offsets, they lie on different lines. -/
lemma lineAt_lt_lineAt {source : Source} {earlier later start : Nat}
    (hstart : start ∈ source.lineStarts) (hearlier : earlier < start) (hlater : start ≤ later) :
    source.lineAt earlier < source.lineAt later := by
  obtain ⟨line, hline, rfl⟩ := List.mem_iff_getElem.1 hstart
  have hfirst := source.le_lineAt_iff earlier hline
  have hsecond := source.le_lineAt_iff later hline
  omega

/-- An offset in the text is not before its first line. -/
lemma lineAt_natCast_nonneg (source : Source) (offset : Nat) : 0 ≤ source.lineAt offset := by
  have hfirst := source.lineCount_pos
  have hbound := (Text.upperBound_spec source.lineStarts_ascending offset hfirst).2
  have hzero : source.starts[0] = 0 := by simp [source.starts_eq]
  unfold lineAt
  omega

/-- Every offset in the text lies on one of its lines. -/
lemma exists_lineAt_eq (source : Source) (offset : Nat) :
    ∃ line, line < source.lineStarts.length ∧ source.lineAt offset = line := by
  have hnonneg := source.lineAt_natCast_nonneg offset
  have hbound := Text.upperBound_le_size source.starts offset
  refine ⟨(source.lineAt offset).toNat, ?_, (Int.toNat_of_nonneg hnonneg).symm⟩
  simp only [lineAt, lineStarts, Array.length_toList] at hnonneg ⊢
  omega

lemma startOfLineAt_eq {source : Source} {offset line : Nat}
    (hline : line < source.lineStarts.length) (hat : source.lineAt offset = line) :
    source.startOfLineAt offset = source.lineStarts[line] := by
  have hstart : source.startOfLine? (source.lineAt offset) = some source.lineStarts[line] := by
    have hcount : ¬ (source.lineCount : Int) ≤ line := by
      simp only [lineCount, lineStarts, Array.length_toList] at hline ⊢
      omega
    rw [hat, startOfLine?, if_neg hcount, Text.signedGet?_natCast, List.getElem?_eq_getElem hline]
  simp only [startOfLineAt, hstart, Option.get_some]

/-- What comes before an offset is on the same line if it does not come before the line's start. -/
lemma lineAt_eq_lineAt_iff (source : Source) {earlier offset : Nat} (hearlier : earlier ≤ offset) :
    source.lineAt earlier = source.lineAt offset ↔ source.startOfLineAt offset ≤ earlier := by
  obtain ⟨line, hline, hat⟩ := source.exists_lineAt_eq offset
  have hnext := ((source.lineAt_eq_iff offset hline).1 hat).2
  rw [hat, startOfLineAt_eq hline hat, source.lineAt_eq_iff earlier hline]
  constructor
  · rintro ⟨hstart, -⟩
    exact Int.ofNat_le.1 hstart
  · intro hstart
    refine ⟨Int.ofNat_le.2 hstart, fun hmore => ?_⟩
    have hlater := hnext hmore
    omega

end Source

/-! ## The line cursor -/

namespace LineCursor

/-- A cursor is in order if it stands at a line of the source, with the lines after it still to
come. -/
def Valid (cursor : LineCursor) (source : Source) : Prop :=
  source.lineStarts.drop cursor.line = cursor.start :: cursor.later

/-- A cursor covers an offset if its line starts at or before it and the next one after it. -/
structure Covers (cursor : LineCursor) (offset : Nat) : Prop where
  start_le : cursor.start ≤ offset
  lt_next : ∀ next ∈ cursor.later.head?, offset < next

variable {source : Source} {cursor : LineCursor} {offset : Nat}

lemma valid_first (source : Source) :
    Valid ⟨0, 0, source.lineStarts.tail⟩ source := by
  rw [Valid, List.drop_zero, source.lineStarts_eq, List.tail_cons]

/-- Moving forward, a cursor stops at the line that covers the offset. -/
lemma advance_spec {line start : Nat} {later : List Nat}
    (hvalid : Valid ⟨line, start, later⟩ source) (hstart : start ≤ offset) :
    (advance offset line start later).Valid source ∧
      (advance offset line start later).Covers offset := by
  fun_induction advance offset line start later with
  | case1 line start => exact ⟨hvalid, hstart, fun _ hnext => nomatch hnext⟩
  | case2 line start next later hle ih =>
    refine ih ?_ hle
    show source.lineStarts.drop (line + 1) = next :: later
    rw [← List.tail_drop, show source.lineStarts.drop line = start :: next :: later from hvalid,
      List.tail_cons]
  | case3 line start next later hgt =>
    refine ⟨hvalid, hstart, fun other hother => ?_⟩
    obtain rfl := Option.some.inj hother
    exact Nat.lt_of_not_le hgt

lemma moveTo_spec (hvalid : cursor.Valid source) (hstart : cursor.start ≤ offset) :
    (cursor.moveTo offset).Valid source ∧ (cursor.moveTo offset).Covers offset :=
  advance_spec hvalid hstart

/-- The line of a cursor that covers an offset, and all before it on that line, are on one line. -/
lemma lineAt_eq_line_iff (hvalid : cursor.Valid source) (hcovers : cursor.Covers offset)
    {earlier : Nat} (hearlier : earlier ≤ offset) :
    source.lineAt earlier = cursor.line ↔ cursor.start ≤ earlier := by
  have hline : cursor.line < source.lineStarts.length := by
    have hlength := congrArg List.length hvalid
    rw [List.length_drop, List.length_cons] at hlength
    omega
  have hvalid' := hvalid
  rw [Valid, List.drop_eq_getElem_cons hline, List.cons.injEq] at hvalid'
  rw [source.lineAt_eq_iff earlier hline, hvalid'.1]
  constructor
  · rintro ⟨hstart, -⟩
    omega
  · intro hstart
    refine ⟨by omega, fun hnext => ?_⟩
    have hlater := hcovers.lt_next source.lineStarts[cursor.line + 1] (by
      rw [← hvalid'.2, List.head?_drop, List.getElem?_eq_getElem hnext]
      rfl)
    omega

/-- A cursor that covers an offset stands at its line. -/
lemma lineAt_eq_line (hvalid : cursor.Valid source) (hcovers : cursor.Covers offset) :
    source.lineAt offset = cursor.line :=
  (lineAt_eq_line_iff hvalid hcovers (Nat.le_refl offset)).2 hcovers.start_le

end LineCursor

end TypeTest
