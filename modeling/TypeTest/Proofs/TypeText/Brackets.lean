import Mathlib.Tactic.Lemma
import TypeTest.TypeText

/-!
# Counting brackets

Brackets of all kinds are counted alike, and a text is `Balanced` if none of its beginnings closes
more than it has opened and the whole of it closes all.  That is a property of counts.  The
functions that read type texts go from one character to the next instead and keep how many
brackets are open.  `depthAfter?` is their common walk: it gives the number of open brackets after
a text, and nothing if one is closed that has not been opened.

The two notions agree (`depthAfter?_eq_some_iff`, `balanced_iff`), and a parenthesis is found to be
closed by the last character just if what it encloses is balanced (`unwrap?_wrapped`,
`wrapped_of_unwrap?`).
-/

namespace TypeTest.TypeText

/-! ## Counts -/

/-- How many brackets a text opens. -/
def openers (text : List Char) : Nat := text.countP isOpener

/-- How many brackets a text closes. -/
def closers (text : List Char) : Nat := text.countP isCloser

/-- The brackets of a text balance: no beginning of it closes more than it opens, and on the whole
it closes as many as it opens. -/
structure Balanced (text : List Char) : Prop where
  closers_le : ∀ before, before <+: text → closers before ≤ openers before
  closers_eq : closers text = openers text

lemma openers_eq_zero {text : List Char} (hplain : ∀ c ∈ text, isOpener c = false) :
    openers text = 0 := by
  refine List.countP_eq_zero.2 fun c hc hopener => ?_
  rw [hplain c hc] at hopener
  cases hopener

lemma closers_eq_zero {text : List Char} (hplain : ∀ c ∈ text, isCloser c = false) :
    closers text = 0 := by
  refine List.countP_eq_zero.2 fun c hc hcloser => ?_
  rw [hplain c hc] at hcloser
  cases hcloser

lemma isCloser_of_isOpener {c : Char} (hopener : isOpener c = true) : isCloser c = false := by
  simp only [isOpener, Bool.or_eq_true, beq_iff_eq] at hopener
  rcases hopener with (rfl | rfl) | rfl
  · rfl
  · rfl
  · rfl

/-- What a character does to the counts. -/
lemma counts_cons (c : Char) (rest : List Char) :
    openers (c :: rest) = openers rest + (if isOpener c then 1 else 0) ∧
      closers (c :: rest) = closers rest + (if isCloser c then 1 else 0) :=
  ⟨List.countP_cons, List.countP_cons⟩

/-! ## The walk -/

/-- How many brackets are open after a character; a bracket that has not been opened cannot be
closed. -/
def step? (depth : Nat) (c : Char) : Option Nat :=
  if isOpener c then some (depth + 1)
  else if isCloser c then (if depth = 0 then none else some (depth - 1))
  else some depth

/-- How many brackets are open after a text. -/
def depthAfter? (depth : Nat) (text : List Char) : Option Nat := text.foldlM step? depth

@[simp] lemma depthAfter?_nil (depth : Nat) : depthAfter? depth [] = some depth := rfl

lemma depthAfter?_cons (depth : Nat) (c : Char) (rest : List Char) :
    depthAfter? depth (c :: rest) = (step? depth c).bind fun next => depthAfter? next rest :=
  List.foldlM_cons

lemma depthAfter?_append (depth : Nat) (text more : List Char) :
    depthAfter? depth (text ++ more) =
      (depthAfter? depth text).bind fun next => depthAfter? next more :=
  List.foldlM_append

/-- The walk goes on from a character that it can get past. -/
lemma exists_step_of_depthAfter? {depth after : Nat} {c : Char} {rest : List Char}
    (hwalk : depthAfter? depth (c :: rest) = some after) :
    ∃ next, step? depth c = some next ∧ depthAfter? next rest = some after := by
  rw [depthAfter?_cons] at hwalk
  exact Option.bind_eq_some_iff.1 hwalk

lemma step?_eq_some_iff {depth next : Nat} {c : Char} :
    step? depth c = some next ↔
      next + (if isCloser c then 1 else 0) = depth + (if isOpener c then 1 else 0) := by
  unfold step?
  by_cases hopener : isOpener c
  · simp [hopener, isCloser_of_isOpener hopener, eq_comm]
  · by_cases hcloser : isCloser c
    · by_cases hzero : depth = 0
      · simp [hopener, hcloser, hzero]
      · simp only [hopener, hcloser, hzero, if_true, if_false, Bool.false_eq_true,
          Option.some.injEq]
        omega
    · simp [hopener, hcloser, eq_comm]

/-- The walk gets through a text if no beginning closes more than has been opened, and what it ends
with is what the counts say. -/
theorem depthAfter?_eq_some_iff {depth after : Nat} {text : List Char} :
    depthAfter? depth text = some after ↔
      (∀ before, before <+: text → closers before ≤ depth + openers before) ∧
        after + closers text = depth + openers text := by
  induction text generalizing depth with
  | nil => simp [closers, openers, eq_comm]
  | cons c rest ih =>
    obtain ⟨hopeners, hclosers⟩ := counts_cons c rest
    constructor
    · intro hwalk
      obtain ⟨next, hstep, hrest⟩ := exists_step_of_depthAfter? hwalk
      rw [step?_eq_some_iff] at hstep
      obtain ⟨hbefore, hafter⟩ := ih.1 hrest
      refine ⟨fun before hprefix => ?_, by omega⟩
      rcases List.prefix_cons_iff.1 hprefix with rfl | ⟨tail, rfl, htail⟩
      · exact Nat.zero_le _
      · obtain ⟨hopeners', hclosers'⟩ := counts_cons c tail
        have hle := hbefore tail htail
        omega
    · rintro ⟨hbefore, hafter⟩
      have hhead := hbefore [c] (List.prefix_append [c] rest)
      obtain ⟨hopeners', hclosers'⟩ := counts_cons c []
      have hnil : openers [] = 0 ∧ closers [] = 0 := ⟨rfl, rfl⟩
      rw [hopeners', hclosers', hnil.1, hnil.2] at hhead
      obtain ⟨next, hstep⟩ : ∃ next,
          next + (if isCloser c then 1 else 0) = depth + (if isOpener c then 1 else 0) :=
        ⟨depth + (if isOpener c then 1 else 0) - (if isCloser c then 1 else 0), by omega⟩
      rw [depthAfter?_cons, step?_eq_some_iff.2 hstep, Option.bind_some, ih]
      refine ⟨fun before hprefix => ?_, by omega⟩
      have hle := hbefore (c :: before) (List.cons_prefix_cons.2 ⟨rfl, hprefix⟩)
      obtain ⟨hopeners'', hclosers''⟩ := counts_cons c before
      omega

/-- A text is balanced if the walk gets through it and ends where it began. -/
theorem balanced_iff {text : List Char} : Balanced text ↔ depthAfter? 0 text = some 0 := by
  rw [depthAfter?_eq_some_iff]
  constructor
  · rintro ⟨hbefore, hequal⟩
    exact ⟨fun before hprefix => by simpa using hbefore before hprefix, by omega⟩
  · rintro ⟨hbefore, hequal⟩
    exact ⟨fun before hprefix => by simpa using hbefore before hprefix, by omega⟩

/-- More open brackets around a text make no difference to its own. -/
lemma depthAfter?_add {depth after : Nat} {text : List Char}
    (hwalk : depthAfter? depth text = some after) (more : Nat) :
    depthAfter? (depth + more) text = some (after + more) := by
  rw [depthAfter?_eq_some_iff] at hwalk ⊢
  refine ⟨fun before hprefix => ?_, by omega⟩
  have hle := hwalk.1 before hprefix
  omega

lemma Balanced.append {text more : List Char} (htext : Balanced text) (hmore : Balanced more) :
    Balanced (text ++ more) := by
  rw [balanced_iff] at htext hmore ⊢
  rw [depthAfter?_append, htext]
  exact hmore

/-- A balanced text in parentheses is balanced. -/
lemma Balanced.wrapped {inner : List Char} (hinner : Balanced inner) :
    Balanced ('(' :: inner ++ [')']) := by
  have hdeeper := depthAfter?_add (balanced_iff.1 hinner) 1
  rw [balanced_iff, List.cons_append, depthAfter?_cons, show step? 0 '(' = some 1 from rfl,
    Option.bind_some, depthAfter?_append, hdeeper]
  rfl

/-! ## What a parenthesis encloses -/

/-- The search for a closing bracket passes over a text that closes what it opens. -/
lemma afterClose?_append {depth after : Nat} {text : List Char}
    (hwalk : depthAfter? depth text = some after) (more : List Char) :
    afterClose? depth (text ++ more) = afterClose? after more := by
  induction text generalizing depth with
  | nil =>
    obtain rfl := Option.some.inj hwalk
    rfl
  | cons c rest ih =>
    obtain ⟨next, hstep, hrest⟩ := exists_step_of_depthAfter? hwalk
    rw [List.cons_append, ← ih hrest, afterClose?.eq_def]
    dsimp only
    rw [step?_eq_some_iff] at hstep
    by_cases hopener : isOpener c
    · rw [if_pos hopener, isCloser_of_isOpener hopener] at hstep
      obtain rfl : next = depth + 1 := hstep
      rw [if_pos hopener]
    rw [if_neg hopener] at hstep ⊢
    by_cases hcloser : isCloser c
    · rw [if_pos hcloser] at hstep ⊢
      obtain rfl : depth = next + 1 := hstep.symm
      rfl
    · rw [if_neg hcloser] at hstep ⊢
      obtain rfl : next = depth := hstep
      rfl

/-- The search stops at the bracket that closes all that are open. -/
lemma exists_append_of_afterClose? {depth : Nat} {text after : List Char}
    (hfound : afterClose? depth text = some after) :
    ∃ inside c, text = inside ++ c :: after ∧ depthAfter? depth inside = some 0 := by
  fun_induction afterClose? depth text with
  | case1 => cases hfound
  | case2 depth c rest hopener ih =>
    obtain ⟨inside, close, rfl, hwalk⟩ := ih hfound
    refine ⟨c :: inside, close, rfl, ?_⟩
    rw [depthAfter?_cons, step?, if_pos hopener]
    exact hwalk
  | case3 c rest hopener hcloser =>
    obtain rfl := Option.some.inj hfound
    exact ⟨[], c, rfl, rfl⟩
  | case4 c rest hopener hcloser depth ih =>
    obtain ⟨inside, close, rfl, hwalk⟩ := ih hfound
    refine ⟨c :: inside, close, rfl, ?_⟩
    rw [depthAfter?_cons, step?, if_neg hopener, if_pos hcloser, if_neg (Nat.succ_ne_zero depth)]
    exact hwalk
  | case5 depth c rest hopener hcloser ih =>
    obtain ⟨inside, close, rfl, hwalk⟩ := ih hfound
    refine ⟨c :: inside, close, rfl, ?_⟩
    rw [depthAfter?_cons, step?, if_neg hopener, if_neg hcloser]
    exact hwalk

/-- A balanced text in parentheses is unwrapped. -/
theorem unwrap?_wrapped {inner : List Char} (hinner : Balanced inner) :
    unwrap? ('(' :: inner ++ [')']) = some inner := by
  have hclose : afterClose? 0 (inner ++ [')']) = some [] := by
    rw [afterClose?_append (balanced_iff.1 hinner)]
    rfl
  have hlast : (inner ++ [')']).getLast? = some ')' := List.getLast?_concat
  rw [List.cons_append, unwrap?, if_pos ⟨hlast, hclose⟩, List.dropLast_concat]

/-- Only a balanced text in parentheses is unwrapped. -/
theorem wrapped_of_unwrap? {text inner : List Char} (hunwrap : unwrap? text = some inner) :
    text = '(' :: inner ++ [')'] ∧ Balanced inner := by
  unfold unwrap? at hunwrap
  split at hunwrap
  · split at hunwrap
    · rename_i rest hends
      obtain ⟨hlast, hclose⟩ := hends
      obtain rfl := Option.some.inj hunwrap
      obtain ⟨inside, c, rfl, hwalk⟩ := exists_append_of_afterClose? hclose
      rw [List.getLast?_concat] at hlast
      obtain rfl := Option.some.inj hlast
      rw [List.dropLast_concat]
      exact ⟨rfl, balanced_iff.2 hwalk⟩
    · cases hunwrap
  · cases hunwrap

end TypeTest.TypeText
