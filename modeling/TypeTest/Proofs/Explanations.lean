import Mathlib.Tactic.Lemma
import TypeTest.Message

/-!
# Explanations on lines

A flattened explanation is written from a list of what is still pending: the first entry is taken
off, its text is written, and what explains it is put in front of the rest.  Two things are shown of
the text that this leads to.

It is what one would write by recursion on the explanation, `rendered`: a text, and behind it each
of its explanations on a line of its own, deeper by one level (`flatten_eq_rendered`).  What carries
this is that the list of what is pending may be taken apart (`outline_eq`): its outline is that of
its entries, one behind the other.

And it says all about the explanation, as long as no text breaks into lines or begins with a blank
(`flatten_eq_flatten_iff`).  Then the lines can be told apart, and the depth of a text can be told
from its line; and explanations of one depth are recovered from their outline, whatever follows them
at a lesser depth (`eq_of_entriesAll_append_eq`).
-/

namespace TypeTest.Explanation

/-! ## Texts with their depths -/

mutual

/-- The texts of an explanation that stands at a given depth, each with its own depth, in the order
in which they are read. -/
def entries (depth : Nat) : Explanation → List (String × Nat)
  | mk text details => (text, depth) :: entriesAll (depth + 1) details

/-- The texts of several explanations at a given depth, each with its own depth. -/
def entriesAll (depth : Nat) : List Explanation → List (String × Nat)
  | [] => []
  | top :: others => top.entries depth ++ entriesAll depth others

end

lemma flatMap_atDepth (depth : Nat) (tops : List Explanation) :
    (atDepth depth tops).flatMap (fun entry => entry.1.entries entry.2) =
      entriesAll depth tops := by
  induction tops with
  | nil => rfl
  | cons top others ih =>
    rw [entriesAll, ← ih]
    rfl

/-- What is pending is written entry by entry, each with all that explains it. -/
lemma outline_eq (pending : List (Explanation × Nat)) :
    outline pending = pending.flatMap fun entry => entry.1.entries entry.2 := by
  induction pending using outline.induct with
  | case1 => rw [outline, List.flatMap_nil]
  | case2 text details depth rest ih =>
    rw [outline, ih, List.flatMap_append, flatMap_atDepth, List.flatMap_cons, entries,
      List.cons_append]

/-! ## Written by recursion -/

/-- The blanks before a text at a given depth: two for each level. -/
def indent (depth : Nat) : String := String.ofList (List.replicate (2 * depth) ' ')

mutual

/-- An explanation at a given depth: its text, and then all that explains it. -/
def rendered (newLine : String) (depth : Nat) : Explanation → String
  | mk text details => text ++ renderedAll newLine (depth + 1) details

/-- Explanations at a given depth, each of them on a line of its own. -/
def renderedAll (newLine : String) (depth : Nat) : List Explanation → String
  | [] => ""
  | top :: others =>
    newLine ++ indent depth ++ top.rendered newLine depth ++ renderedAll newLine depth others

end

/-- Texts with their depths, each behind a line break and its blanks. -/
def written (newLine : String) : List (String × Nat) → String
  | [] => ""
  | entry :: rest => newLine ++ line entry ++ written newLine rest

lemma written_append (newLine : String) (first second : List (String × Nat)) :
    written newLine (first ++ second) = written newLine first ++ written newLine second := by
  induction first with
  | nil => exact String.empty_append.symm
  | cons entry first ih => rw [List.cons_append, written, written, ih, ← String.append_assoc]

/-- Only the first of several lines has no line break before it. -/
lemma intercalate_line (newLine : String) (entry : String × Nat) (rest : List (String × Nat)) :
    newLine.intercalate ((entry :: rest).map line) = line entry ++ written newLine rest := by
  induction rest generalizing entry with
  | nil => rw [List.map_singleton, String.intercalate_singleton, written, String.append_empty]
  | cons next rest ih =>
    rw [List.map_cons, List.map_cons, String.intercalate_cons_cons, ← List.map_cons, ih, written]
    simp only [String.append_assoc]

mutual

lemma written_entries (newLine : String) : ∀ (depth : Nat) (top : Explanation),
    written newLine (top.entries depth) =
      newLine ++ indent depth ++ top.rendered newLine depth
  | depth, mk text details => by
    rw [entries, written, written_entriesAll newLine (depth + 1) details, rendered, line, indent]
    simp only [String.append_assoc]

lemma written_entriesAll (newLine : String) : ∀ (depth : Nat) (tops : List Explanation),
    written newLine (entriesAll depth tops) = renderedAll newLine depth tops
  | _, [] => rfl
  | depth, top :: others => by
    rw [entriesAll, written_append, written_entries newLine depth top,
      written_entriesAll newLine depth others, renderedAll]

end

/-- **Explanations are flattened as if by recursion.**  Whatever stands between the lines, an
explanation is flattened to its text, followed by each of its explanations in turn: behind a line
break and two more blanks than the one above it has, and flattened in the same way.  Empty texts are
no exception. -/
theorem flatten_eq_rendered (newLine : String) (top : Explanation) :
    top.flatten newLine = top.rendered newLine 0 := by
  obtain ⟨text, details⟩ := top
  calc flatten newLine (mk text details)
    _ = newLine.intercalate (((text, 0) :: entriesAll 1 details).map line) := by
      rw [flatten, outline_eq, List.flatMap_singleton, entries]
    _ = line (text, 0) ++ written newLine (entriesAll 1 details) := intercalate_line _ _ _
    _ = text ++ renderedAll newLine 1 details := by
      rw [written_entriesAll, line, Nat.mul_zero, List.replicate_zero, String.ofList_nil,
        String.empty_append]

/-! ## Read back from the lines -/

/-- Nothing that follows at once stands at a given depth or below it. -/
def EndsAbove (depth : Nat) (rest : List (String × Nat)) : Prop :=
  ∀ entry ∈ rest.head?, entry.2 < depth

lemma endsAbove_nil (depth : Nat) : EndsAbove depth [] := by
  simp [EndsAbove]

lemma EndsAbove.not_entriesAll {depth : Nat} {text : String} {rest : List (String × Nat)} :
    ¬ EndsAbove depth ((text, depth) :: rest) :=
  fun hends => Nat.lt_irrefl depth (hends (text, depth) rfl)

lemma entriesAll_cons (depth : Nat) (text : String) (details others : List Explanation)
    (rest : List (String × Nat)) :
    entriesAll depth (mk text details :: others) ++ rest =
      (text, depth) :: (entriesAll (depth + 1) details ++ (entriesAll depth others ++ rest)) := by
  rw [entriesAll, entries, List.cons_append, List.cons_append, List.append_assoc]

/-- What explains a text ends where the next explanation of its depth begins. -/
lemma EndsAbove.entriesAll {depth : Nat} {rest : List (String × Nat)} (hends : EndsAbove depth rest)
    (others : List Explanation) : EndsAbove (depth + 1) (entriesAll depth others ++ rest) := by
  intro entry hentry
  cases others with
  | nil => exact Nat.lt_succ_of_lt (hends entry hentry)
  | cons top others =>
    obtain ⟨text, details⟩ := top
    rw [entriesAll_cons, List.head?_cons, Option.mem_some_iff] at hentry
    exact hentry ▸ Nat.lt_succ_self depth

/-- Explanations of one depth are recovered from their texts with their depths, and so is what
follows them at a lesser depth. -/
lemma eq_of_entriesAll_append_eq : ∀ {depth : Nat} {tops others : List Explanation}
    {rest rest' : List (String × Nat)}, EndsAbove depth rest → EndsAbove depth rest' →
    entriesAll depth tops ++ rest = entriesAll depth others ++ rest' →
    tops = others ∧ rest = rest'
  | _, [], [], _, _, _, _, hsame => ⟨rfl, hsame⟩
  | _, [], mk _ _ :: _, _, _, hrest, _, hsame => by
    rw [entriesAll_cons, entriesAll, List.nil_append] at hsame
    exact absurd (hsame ▸ hrest) EndsAbove.not_entriesAll
  | _, mk _ _ :: _, [], _, _, _, hrest', hsame => by
    rw [entriesAll_cons, entriesAll, List.nil_append] at hsame
    exact absurd (hsame ▸ hrest') EndsAbove.not_entriesAll
  | depth, mk text details :: tops, mk text' details' :: others, rest, rest', hrest, hrest',
      hsame => by
    rw [entriesAll_cons, entriesAll_cons, List.cons.injEq, Prod.mk.injEq] at hsame
    obtain ⟨⟨rfl, -⟩, hbelow⟩ := hsame
    obtain ⟨rfl, hbehind⟩ :=
      eq_of_entriesAll_append_eq (hrest.entriesAll tops) (hrest'.entriesAll others) hbelow
    obtain ⟨rfl, rfl⟩ := eq_of_entriesAll_append_eq hrest hrest' hbehind
    exact ⟨rfl, rfl⟩

/-- The texts of an explanation. -/
def texts (top : Explanation) : List String := (top.entries 0).map Prod.fst

/-- A text that has one line, and does not begin with a blank. -/
def FitsLine (text : String) : Prop := '\n' ∉ text.toList ∧ text.toList.head? ≠ some ' '

instance : DecidablePred FitsLine := fun _ => inferInstanceAs (Decidable (_ ∧ _))

/-- The text of a line and its depth, by the blanks that the line begins with. -/
def ofLine (line : List Char) : String × Nat :=
  (String.ofList (line.dropWhile (· == ' ')), (line.takeWhile (· == ' ')).length / 2)

lemma ofLine_line {entry : String × Nat} (hfits : FitsLine entry.1) :
    ofLine (line entry).toList = entry := by
  obtain ⟨text, depth⟩ := entry
  have hblanks : ∀ c ∈ List.replicate (2 * depth) ' ', (c == ' ') = true := by
    intro c hc
    rw [List.eq_of_mem_replicate hc]
    rfl
  have hstop : text.toList.takeWhile (· == ' ') = [] ∧
      text.toList.dropWhile (· == ' ') = text.toList := by
    cases htext : text.toList with
    | nil => exact ⟨rfl, rfl⟩
    | cons c rest =>
      have hc : ¬ (c == ' ') = true :=
        fun hblank => hfits.2 (by rw [htext, beq_iff_eq.1 hblank, List.head?_cons])
      exact ⟨List.takeWhile_cons_of_neg hc, List.dropWhile_cons_of_neg hc⟩
  rw [ofLine, line, String.toList_append, String.toList_ofList,
    List.takeWhile_append_of_pos hblanks, List.dropWhile_append_of_pos hblanks, hstop.1, hstop.2,
    List.append_nil, List.length_replicate, Nat.mul_div_cancel_left _ Nat.two_pos,
    String.ofList_toList]

lemma not_mem_line {entry : String × Nat} (hfits : FitsLine entry.1) :
    '\n' ∉ (line entry).toList := by
  rw [line, String.toList_append, String.toList_ofList, List.mem_append, not_or]
  exact ⟨fun hmem => absurd (List.eq_of_mem_replicate hmem) (by decide), hfits.1⟩

/-- The lines of a flattened explanation give its texts and their depths. -/
lemma map_ofLine_flatten {top : Explanation} (hfits : ∀ text ∈ top.texts, FitsLine text) :
    ((top.flatten "\n").toList.splitOn '\n').map ofLine = top.entries 0 := by
  have hentry : ∀ entry ∈ top.entries 0, FitsLine entry.1 :=
    fun entry hmem => hfits entry.1 (List.mem_map_of_mem hmem)
  have hapart : ∀ chars ∈ ((top.entries 0).map line).map String.toList, '\n' ∉ chars := by
    simp only [List.mem_map]
    rintro _ ⟨_, ⟨entry, hmem, rfl⟩, rfl⟩
    exact not_mem_line (hentry entry hmem)
  have hsome : ((top.entries 0).map line).map String.toList ≠ [] := by
    cases top
    exact List.cons_ne_nil _ _
  rw [flatten, outline_eq, List.flatMap_singleton, String.toList_intercalate,
    show "\n".toList = ['\n'] from rfl, List.splitOn_intercalate '\n' hapart hsome, List.map_map,
    List.map_map]
  exact (List.map_congr_left fun entry hmem => ofLine_line (hentry entry hmem)).trans
    (List.map_id _)

/-- **Nothing of an explanation is lost in its lines.**  If none of their texts holds a line break
or begins with a blank, two explanations are flattened to one text only if they are the same, in all
their texts and in how these are nested. -/
theorem flatten_eq_flatten_iff {top other : Explanation}
    (htop : ∀ text ∈ top.texts, FitsLine text) (hother : ∀ text ∈ other.texts, FitsLine text) :
    top.flatten "\n" = other.flatten "\n" ↔ top = other := by
  refine ⟨fun hsame => ?_, fun hsame => hsame ▸ rfl⟩
  have hentries : entriesAll 0 [top] ++ [] = entriesAll 0 [other] ++ [] := by
    simp only [entriesAll, List.append_nil]
    rw [← map_ofLine_flatten htop, hsame, map_ofLine_flatten hother]
  have htops : [top] = [other] :=
    (eq_of_entriesAll_append_eq (endsAbove_nil 0) (endsAbove_nil 0) hentries).1
  exact List.singleton_inj.1 htops

/-- Whether the last text explains the first one or the one before it can be told from the lines,
also next to texts that are empty. -/
theorem flatten_eq_flatten_iff_emptyTexts :
    let top := mk "" [mk "a" [mk "" []], mk "" []]
    let other := mk "" [mk "a" [mk "" [], mk "" []]]
    (∀ text ∈ top.texts, FitsLine text) ∧ (∀ text ∈ other.texts, FitsLine text) ∧
      (top.flatten "\n" = other.flatten "\n" ↔ top = other) ∧ top ≠ other := by
  intro top other
  have htop : ∀ text ∈ top.texts, FitsLine text := by decide
  have hother : ∀ text ∈ other.texts, FitsLine text := by decide
  exact ⟨htop, hother, flatten_eq_flatten_iff htop hother, by simp [top, other]⟩

end TypeTest.Explanation
