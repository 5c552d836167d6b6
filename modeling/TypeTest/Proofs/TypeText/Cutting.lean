import TypeTest.Proofs.TypeText.Brackets

/-!
# Cutting what has been joined

Parts that are joined with a separator are found again by cutting the text at that separator
(`split_join`), if none of them has a cut of its own.  Two things could go wrong.  A part may hold
a separator outside its brackets, or one may come about where a part meets the separator next to
it.  The first is ruled out by `Uncut`, the second by what a part begins and ends with; a text of
which both are ruled out, and whose brackets balance, is `Solid`.

Solid texts stay solid for one mark when they are joined with another (`Solid.join`), and a balanced
text in parentheses is solid for every mark (`Solid.wrapped`).

The other way round every text is had back by joining the parts that it is cut into
(`join_splitAt`).  If the brackets of the text balance, so do those of its parts, and none of them
has a cut of its own (`of_mem_split`).
-/

namespace TypeTest.TypeText

open Text (extendFirst)

/-! ## Separators -/

/-- What stands between two parts: the mark with a space on either side. -/
def separator (mark : Char) : List Char := [' ', mark, ' ']

lemma join_singleton (mark : Char) (part : List Char) : join mark [part] = part := by
  simp [join, List.intercalate]

lemma join_cons_cons (mark : Char) (part next : List Char) (parts : List (List Char)) :
    join mark (part :: next :: parts) = part ++ (separator mark ++ join mark (next :: parts)) := by
  simp [join, List.intercalate, separator]

/-- No bracket stands in a separator, unless it is the mark. -/
lemma balanced_separator {mark : Char} (hopener : isOpener mark = false)
    (hcloser : isCloser mark = false) : Balanced (separator mark) := by
  have hspace : step? 0 ' ' = some 0 := rfl
  have hmark : step? 0 mark = some 0 := by simp [step?, hopener, hcloser]
  rw [balanced_iff, separator, depthAfter?_cons, hspace, Option.bind_some, depthAfter?_cons, hmark,
    Option.bind_some, depthAfter?_cons, hspace]
  rfl

/-- Balanced parts make up a balanced text. -/
lemma Balanced.join {mark : Char} (hopener : isOpener mark = false)
    (hcloser : isCloser mark = false) {parts : List (List Char)}
    (hparts : ∀ part ∈ parts, Balanced part) : Balanced (TypeText.join mark parts) := by
  induction parts with
  | nil => exact balanced_iff.2 rfl
  | cons part parts ih =>
    obtain ⟨hpart, hparts⟩ := List.forall_mem_cons.1 hparts
    cases parts with
    | nil => rwa [join_singleton]
    | cons next parts =>
      rw [join_cons_cons]
      exact hpart.append ((balanced_separator hopener hcloser).append (ih hparts))

/-! ## Where a cut is made -/

/-- How many brackets are open after a character, if a bracket that has not been opened does not
count when it is closed. -/
def advance (depth : Nat) (c : Char) : Nat :=
  if isOpener c then depth + 1 else if isCloser c then depth - 1 else depth

/-- Where every closed bracket has been opened, it counts. -/
lemma advance_of_step {depth next : Nat} {c : Char} (hstep : step? depth c = some next) :
    advance depth c = next := by
  unfold step? at hstep
  unfold advance
  split at hstep
  · rename_i hopener
    rw [if_pos hopener, Option.some.inj hstep]
  split at hstep
  · rename_i hopener hcloser
    split at hstep
    · cases hstep
    · rw [if_neg hopener, if_pos hcloser, Option.some.inj hstep]
  · rename_i hopener hcloser
    rw [if_neg hopener, if_neg hcloser, Option.some.inj hstep]

/-- Where no cut is made, a character goes to the part that is begun, whatever it closes. -/
lemma splitAt_advance {mark c : Char} {depth : Nat} {rest : List Char}
    (huncut : depth = 0 → ¬ separator mark <+: c :: rest) :
    splitAt mark depth (c :: rest) = extendFirst c (splitAt mark (advance depth c) rest) := by
  rw [splitAt.eq_def]
  split
  · rename_i heq
    cases heq
  · rename_i m tail heq
    obtain ⟨rfl, rfl⟩ := List.cons.inj heq
    rw [if_neg]
    · rfl
    · rintro ⟨hzero, rfl⟩
      exact huncut hzero ⟨tail, rfl⟩
  · rename_i first tail _ heq
    obtain ⟨rfl, rfl⟩ := List.cons.inj heq
    unfold advance
    split
    · rfl
    split
    · rfl
    · rfl

/-- Where no cut is made, a character goes to the part that is begun. -/
lemma splitAt_cons {mark c : Char} {depth next : Nat} {rest : List Char}
    (hstep : step? depth c = some next) (huncut : depth = 0 → ¬ separator mark <+: c :: rest) :
    splitAt mark depth (c :: rest) = extendFirst c (splitAt mark next rest) := by
  rw [splitAt_advance huncut, advance_of_step hstep]

/-- At a separator that no bracket encloses a new part begins. -/
lemma splitAt_separator (mark : Char) (rest : List Char) :
    splitAt mark 0 (separator mark ++ rest) = [] :: splitAt mark 0 rest := by
  show splitAt mark 0 (' ' :: mark :: ' ' :: rest) = _
  rw [splitAt, if_pos ⟨rfl, rfl⟩]

/-- Between the beginning of a text and its end no cut is made, not even with what comes after it:
wherever no bracket is open, no separator begins. -/
def Uncut (mark : Char) (depth : Nat) (text after : List Char) : Prop :=
  ∀ before rest, text = before ++ rest → rest ≠ [] → depthAfter? depth before = some 0 →
    ¬ separator mark <+: rest ++ after

namespace Uncut

variable {mark : Char} {depth next : Nat} {text more after : List Char}

lemma head {c : Char} (huncut : Uncut mark depth (c :: text) after) (hzero : depth = 0) :
    ¬ separator mark <+: c :: (text ++ after) := by
  subst hzero
  exact huncut [] (c :: text) rfl (List.cons_ne_nil c text) rfl

lemma tail {c : Char} (huncut : Uncut mark depth (c :: text) after)
    (hstep : step? depth c = some next) : Uncut mark next text after := by
  intro before rest hsplit hrest hdepth
  apply huncut (c :: before) rest (by rw [hsplit, List.cons_append]) hrest
  rw [depthAfter?_cons, hstep]
  exact hdepth

/-- If there is no cut in a text by itself, what comes after it makes none, as long as no mark is
at the end of the one or at the beginning of the other. -/
lemma before_text (huncut : Uncut mark depth text [])
    (hlast : ∀ c ∈ text.getLast?, c ≠ mark) (hhead : ∀ c ∈ after.head?, c ≠ mark) :
    Uncut mark depth text after := by
  rintro before rest rfl hrest hdepth hprefix
  cases rest with
  | nil => exact hrest rfl
  | cons a rest =>
    cases rest with
    | nil =>
      -- the separator begins with the last character
      cases after with
      | nil => simp [separator] at hprefix
      | cons b after =>
        simp only [separator, List.cons_append, List.nil_append, List.cons_prefix_cons] at hprefix
        exact hhead b rfl hprefix.2.1.symm
    | cons b rest =>
      cases rest with
      | nil =>
        -- the separator begins with the last character but one
        simp only [separator, List.cons_append, List.nil_append, List.cons_prefix_cons] at hprefix
        refine hlast b ?_ hprefix.2.1.symm
        simp
      | cons c rest =>
        apply huncut before (a :: b :: c :: rest) rfl hrest hdepth
        simp only [separator, List.cons_append, List.cons_prefix_cons, List.append_nil,
          List.nil_prefix, and_true] at hprefix ⊢
        exact hprefix

/-- Two texts that follow one another have no cut if neither of them has one. -/
lemma append (htext : Uncut mark depth text (more ++ after))
    (hwalk : depthAfter? depth text = some next) (hmore : Uncut mark next more after) :
    Uncut mark depth (text ++ more) after := by
  intro before rest hsplit hrest hdepth
  rcases List.append_eq_append_iff.1 hsplit with ⟨middle, rfl, rfl⟩ | ⟨middle, rfl, rfl⟩
  · rw [depthAfter?_append, hwalk] at hdepth
    exact hmore middle rest rfl hrest hdepth
  · cases middle with
    | nil =>
      rw [List.append_nil] at hwalk
      rw [hwalk] at hdepth
      exact hmore [] more rfl (by simpa using hrest) hdepth
    | cons c middle =>
      rw [List.append_assoc]
      exact htext before (c :: middle) rfl (List.cons_ne_nil c middle) hdepth

/-- Inside brackets no cut is made. -/
lemma of_enclosed (hwalk : depthAfter? depth text = some next) :
    Uncut mark (depth + 1) text after := by
  rintro before rest rfl hrest hdepth
  rw [depthAfter?_append] at hwalk
  obtain ⟨inside, hinside, -⟩ := Option.bind_eq_some_iff.1 hwalk
  rw [depthAfter?_add hinside 1] at hdepth
  exact absurd (Option.some.inj hdepth) (Nat.succ_ne_zero inside)

/-- A text has no cut if none is made at its first character and the rest has none. -/
lemma cons {c : Char} (hhead : depth = 0 → ¬ separator mark <+: c :: (text ++ after))
    (hstep : step? depth c = some next) (htail : Uncut mark next text after) :
    Uncut mark depth (c :: text) after := by
  intro before rest hsplit hrest hdepth
  cases before with
  | nil =>
    obtain rfl : c :: text = rest := hsplit
    exact hhead (Option.some.inj hdepth)
  | cons first before =>
    rw [List.cons_append, List.cons.injEq] at hsplit
    obtain ⟨rfl, hsplit⟩ := hsplit
    rw [depthAfter?_cons, hstep, Option.bind_some] at hdepth
    exact htail before rest hsplit hrest hdepth

/-- Where a text has no cut, no beginning of it has one. -/
lemma left (huncut : Uncut mark depth (text ++ more) after) : Uncut mark depth text [] := by
  rintro before rest rfl hrest hdepth hprefix
  rw [List.append_nil] at hprefix
  refine huncut before (rest ++ more) (by simp) (by simp [hrest]) hdepth ?_
  rw [List.append_assoc]
  exact hprefix.trans (List.prefix_append rest (more ++ after))

/-- Where a text has no cut, no end of it has one. -/
lemma right (huncut : Uncut mark depth (text ++ more) after)
    (hwalk : depthAfter? depth text = some next) : Uncut mark next more after := by
  rintro before rest rfl hrest hdepth
  refine huncut (text ++ before) rest (by simp) hrest ?_
  rw [depthAfter?_append, hwalk]
  exact hdepth

end Uncut

/-- A text without a cut goes to the part that is begun. -/
lemma splitAt_append {mark : Char} {depth next : Nat} {text after : List Char}
    (huncut : Uncut mark depth text after) (hwalk : depthAfter? depth text = some next) :
    splitAt mark depth (text ++ after) =
      text.foldr extendFirst (splitAt mark next after) := by
  induction text generalizing depth with
  | nil =>
    obtain rfl := Option.some.inj hwalk
    rfl
  | cons c text ih =>
    obtain ⟨middle, hstep, hrest⟩ := exists_step_of_depthAfter? hwalk
    rw [List.cons_append, splitAt_cons hstep huncut.head, List.foldr_cons,
      ih (huncut.tail hstep) hrest]

lemma foldr_extendFirst (text part : List Char) (parts : List (List Char)) :
    text.foldr extendFirst (part :: parts) = (text ++ part) :: parts := by
  induction text with
  | nil => rfl
  | cons c text ih => rw [List.foldr_cons, ih, extendFirst, List.cons_append]

/-! ## Solid texts -/

/-- A text that is not cut at a mark, wherever it stands among others: its brackets balance, it has
no separator outside of them, and it neither begins nor ends with the mark. -/
structure Solid (mark : Char) (text : List Char) : Prop where
  balanced : Balanced text
  uncut : Uncut mark 0 text []
  head : ∀ c ∈ text.head?, c ≠ mark
  last : ∀ c ∈ text.getLast?, c ≠ mark

/-- A solid text is one part. -/
lemma Solid.split_eq {mark : Char} {text : List Char} (hsolid : Solid mark text) :
    split mark text = [text] := by
  have hcut := splitAt_append hsolid.uncut (balanced_iff.1 hsolid.balanced)
  rw [List.append_nil, splitAt, foldr_extendFirst, List.append_nil] at hcut
  exact hcut

/-- Before a separator a solid text is one part, and cutting goes on after the separator. -/
lemma Solid.split_append_eq {mark : Char} (hmark : mark ≠ ' ') {text : List Char}
    (hsolid : Solid mark text) (rest : List Char) :
    split mark (text ++ (separator mark ++ rest)) = text :: split mark rest := by
  have hhead : ∀ c ∈ (separator mark ++ rest).head?, c ≠ mark := by
    intro c hc
    obtain rfl := Option.some.inj hc
    exact Ne.symm hmark
  have huncut : Uncut mark 0 text (separator mark ++ rest) :=
    hsolid.uncut.before_text hsolid.last hhead
  unfold split
  rw [splitAt_append huncut (balanced_iff.1 hsolid.balanced), splitAt_separator,
    foldr_extendFirst, List.append_nil]

/-- **Cutting undoes joining**, if the parts are solid. -/
theorem split_join {mark : Char} (hmark : mark ≠ ' ') {parts : List (List Char)}
    (hne : parts ≠ []) (hsolid : ∀ part ∈ parts, Solid mark part) :
    split mark (join mark parts) = parts := by
  induction parts with
  | nil => exact absurd rfl hne
  | cons part parts ih =>
    obtain ⟨hpart, hparts⟩ := List.forall_mem_cons.1 hsolid
    cases parts with
    | nil => rw [join_singleton, hpart.split_eq]
    | cons next parts =>
      rw [join_cons_cons, hpart.split_append_eq hmark, ih (List.cons_ne_nil next parts) hparts]

/-- Solid texts can be told from what they are joined to. -/
lemma join_injective {mark : Char} (hmark : mark ≠ ' ') {parts others : List (List Char)}
    (hne : parts ≠ []) (hne' : others ≠ []) (hsolid : ∀ part ∈ parts, Solid mark part)
    (hsolid' : ∀ part ∈ others, Solid mark part) (hjoin : join mark parts = join mark others) :
    parts = others := by
  rw [← split_join hmark hne hsolid, hjoin, split_join hmark hne' hsolid']

namespace Solid

variable {mark other : Char}

/-- The separator of another mark has no cut. -/
lemma uncut_separator (hother : other ≠ mark) : Uncut mark 0 (separator other) [] := by
  intro before rest hsplit hrest hdepth hprefix
  rw [List.append_nil] at hprefix
  have hlength := hprefix.length_le
  have hwhole := congrArg List.length hsplit
  rw [List.length_append] at hwhole
  have hnil : before = [] := by
    rw [← List.length_eq_zero_iff]
    simp only [separator, List.length_cons, List.length_nil] at hlength hwhole
    omega
  rw [hnil, List.nil_append] at hsplit
  rw [← hsplit] at hprefix
  simp only [separator, List.cons_prefix_cons] at hprefix
  exact hother hprefix.2.1.symm

/-- Two texts that are solid for one mark are so when they are joined with another. -/
lemma join_two (hmark : mark ≠ ' ') (hother : other ≠ mark) (hopener : isOpener other = false)
    (hcloser : isCloser other = false) {text more : List Char} (htext : Solid mark text)
    (hmore : Solid mark more) : Solid mark (text ++ (separator other ++ more)) where
  balanced := htext.balanced.append ((balanced_separator hopener hcloser).append hmore.balanced)
  uncut := by
    have hseparator : Uncut mark 0 (separator other) (more ++ []) := by
      rw [List.append_nil]
      refine (uncut_separator hother).before_text (fun c hc => ?_) hmore.head
      obtain rfl := Option.some.inj hc
      exact Ne.symm hmark
    have hrest : Uncut mark 0 (separator other ++ more) [] :=
      hseparator.append (balanced_iff.1 (balanced_separator hopener hcloser)) hmore.uncut
    refine Uncut.append ?_ (balanced_iff.1 htext.balanced) hrest
    rw [List.append_nil]
    refine htext.uncut.before_text htext.last (fun c hc => ?_)
    obtain rfl := Option.some.inj hc
    exact Ne.symm hmark
  head := by
    intro c hc
    rw [List.head?_append, Option.mem_def, Option.or_eq_some_iff] at hc
    rcases hc with hc | ⟨-, hc⟩
    · exact htext.head c hc
    · obtain rfl := Option.some.inj hc
      exact Ne.symm hmark
  last := by
    intro c hc
    rw [← List.append_assoc, List.getLast?_append, Option.mem_def, Option.or_eq_some_iff] at hc
    rcases hc with hc | ⟨-, hc⟩
    · exact hmore.last c hc
    · rw [List.getLast?_append] at hc
      obtain rfl := Option.some.inj hc
      exact Ne.symm hmark

/-- Texts that are solid for one mark are so when they are joined with another. -/
lemma join (hmark : mark ≠ ' ') (hother : other ≠ mark) (hopener : isOpener other = false)
    (hcloser : isCloser other = false) {parts : List (List Char)} (hne : parts ≠ [])
    (hparts : ∀ part ∈ parts, Solid mark part) : Solid mark (TypeText.join other parts) := by
  induction parts with
  | nil => exact absurd rfl hne
  | cons part parts ih =>
    obtain ⟨hpart, hparts⟩ := List.forall_mem_cons.1 hparts
    cases parts with
    | nil => rwa [join_singleton]
    | cons next parts =>
      rw [join_cons_cons]
      exact hpart.join_two hmark hother hopener hcloser (ih (List.cons_ne_nil next parts) hparts)

/-- A balanced text in parentheses is solid for every mark but the parentheses. -/
lemma wrapped (hopen : '(' ≠ mark) (hclose : ')' ≠ mark) {inner : List Char}
    (hinner : Balanced inner) : Solid mark ('(' :: inner ++ [')']) where
  balanced := hinner.wrapped
  uncut := by
    have hdeeper := depthAfter?_add (balanced_iff.1 hinner) 1
    have hinside : Uncut mark 1 inner ([')'] ++ []) := Uncut.of_enclosed (balanced_iff.1 hinner)
    have hend : Uncut mark 1 [')'] [] := by
      intro before rest hsplit hrest hdepth hprefix
      rw [List.append_nil] at hprefix
      have hlength := hprefix.length_le
      have hwhole := congrArg List.length hsplit
      rw [List.length_append] at hwhole
      simp only [separator, List.length_cons, List.length_nil] at hlength hwhole
      omega
    have hrest : Uncut mark 1 (inner ++ [')']) [] := hinside.append hdeeper hend
    have hstart : Uncut mark 0 ['('] ((inner ++ [')']) ++ []) := by
      intro before rest hsplit hrest hdepth hprefix
      rcases List.append_eq_singleton_iff.1 hsplit.symm with ⟨rfl, rfl⟩ | ⟨rfl, rfl⟩
      · simp [separator] at hprefix
      · exact hrest rfl
    exact hstart.append rfl hrest
  head := by
    intro c hc
    obtain rfl := Option.some.inj hc
    exact hopen
  last := by
    intro c hc
    rw [List.getLast?_concat] at hc
    obtain rfl := Option.some.inj hc
    exact hclose

end Solid

/-! ## The parts of a text -/

lemma splitAt_ne_nil (mark : Char) (depth : Nat) (text : List Char) :
    splitAt mark depth text ≠ [] := by
  have hextend : ∀ (c : Char) (parts : List (List Char)), extendFirst c parts ≠ [] := by
    intro c parts
    cases parts with
    | nil => exact List.cons_ne_nil _ _
    | cons part parts => exact List.cons_ne_nil _ _
  fun_cases splitAt mark depth text with
  | case1 => exact List.cons_ne_nil _ _
  | case2 => exact List.cons_ne_nil _ _
  | case3 => exact hextend _ _
  | case4 => exact hextend _ _
  | case5 => exact hextend _ _
  | case6 => exact hextend _ _

lemma join_extendFirst (mark c : Char) {parts : List (List Char)} (hne : parts ≠ []) :
    join mark (extendFirst c parts) = c :: join mark parts := by
  cases parts with
  | nil => exact absurd rfl hne
  | cons part parts =>
    cases parts with
    | nil => rw [extendFirst, join_singleton, join_singleton]
    | cons next parts => rw [extendFirst, join_cons_cons, join_cons_cons, List.cons_append]

/-- **Joining undoes cutting.** -/
theorem join_splitAt (mark : Char) (depth : Nat) (text : List Char) :
    join mark (splitAt mark depth text) = text := by
  have hextend : ∀ (c : Char) {depth : Nat} {rest : List Char},
      join mark (splitAt mark depth rest) = rest →
        join mark (extendFirst c (splitAt mark depth rest)) = c :: rest := by
    intro c depth rest hrest
    rw [join_extendFirst mark c (splitAt_ne_nil mark depth rest), hrest]
  fun_induction splitAt mark depth text with
  | case1 => rfl
  | case2 depth m rest hcut ih =>
    obtain ⟨part, parts, hparts⟩ := List.exists_cons_of_ne_nil (splitAt_ne_nil mark 0 rest)
    rw [hparts] at ih ⊢
    rw [join_cons_cons, ih, hcut.2]
    rfl
  | case3 depth m rest hcut ih => exact hextend ' ' ih
  | case4 depth c rest hplain hopener ih => exact hextend c ih
  | case5 depth c rest hplain hopener hcloser ih => exact hextend c ih
  | case6 depth c rest hplain hopener hcloser ih => exact hextend c ih

/-- What is known of the parts of a text that closes all its brackets: the first part closes those
that were open before it, each further part closes its own, and none has a cut of its own. -/
lemma splitAt_spec {mark : Char} (hmark : Balanced (separator mark)) :
    ∀ {depth : Nat} {text : List Char}, depthAfter? depth text = some 0 →
      ∃ first others, splitAt mark depth text = first :: others ∧ first <+: text ∧
        depthAfter? depth first = some 0 ∧ Uncut mark depth first [] ∧
        ∀ part ∈ others, Balanced part ∧ Uncut mark 0 part []
  | depth, text, hwalk => by
    by_cases hcut : depth = 0 ∧ separator mark <+: text
    · -- a cut: nothing comes before it, and the parts of the rest come after it
      obtain ⟨rfl, rest, rfl⟩ := hcut
      rw [depthAfter?_append, balanced_iff.1 hmark, Option.bind_some] at hwalk
      have _shorter : rest.length < (separator mark ++ rest).length := by
        rw [List.length_append]
        exact Nat.lt_add_of_pos_left (Nat.succ_pos 2)
      obtain ⟨first, others, hsplit, -, hfirst, huncut, hothers⟩ := splitAt_spec hmark hwalk
      refine ⟨[], first :: others, ?_, List.nil_prefix, rfl, ?_, ?_⟩
      · rw [splitAt_separator, hsplit]
      · intro before rest' hnil hrest
        exact absurd (List.append_eq_nil_iff.1 hnil.symm).2 hrest
      · exact List.forall_mem_cons.2 ⟨⟨balanced_iff.2 hfirst, huncut⟩, hothers⟩
    · cases text with
      | nil =>
        obtain rfl : depth = 0 := Option.some.inj hwalk
        refine ⟨[], [], rfl, List.prefix_rfl, rfl, ?_, fun _ hmem => nomatch hmem⟩
        intro before rest hnil hrest
        exact absurd (List.append_eq_nil_iff.1 hnil.symm).2 hrest
      | cons c rest =>
        obtain ⟨next, hstep, hrest⟩ := exists_step_of_depthAfter? hwalk
        obtain ⟨first, others, hsplit, hprefix, hfirst, huncut, hothers⟩ := splitAt_spec hmark hrest
        have hlonger : c :: first <+: c :: rest := List.cons_prefix_cons.2 ⟨rfl, hprefix⟩
        refine ⟨c :: first, others, ?_, hlonger, ?_, ?_, hothers⟩
        · rw [splitAt_cons hstep fun hzero hbegins => hcut ⟨hzero, hbegins⟩, hsplit, extendFirst]
        · rw [depthAfter?_cons, hstep, Option.bind_some, hfirst]
        · refine huncut.cons (fun hzero hbegins => hcut ⟨hzero, ?_⟩) hstep
          rw [List.append_nil] at hbegins
          exact hbegins.trans hlonger
termination_by _ text => text.length

/-- A balanced text is cut into balanced parts, none of which has a cut of its own. -/
theorem of_mem_split {mark : Char} (hmark : Balanced (separator mark)) {text part : List Char}
    (htext : Balanced text) (hpart : part ∈ split mark text) :
    Balanced part ∧ Uncut mark 0 part [] := by
  obtain ⟨first, others, hsplit, -, hfirst, huncut, hothers⟩ :=
    splitAt_spec hmark (balanced_iff.1 htext)
  rw [split, hsplit] at hpart
  exact List.forall_mem_cons.2 ⟨⟨balanced_iff.2 hfirst, huncut⟩, hothers⟩ part hpart

/-- If there is no cut in a text of balanced parts, there is none in the parts, whatever they are
joined with. -/
lemma Uncut.of_join {mark other : Char} (hother : Balanced (separator other))
    {parts : List (List Char)} (hparts : ∀ part ∈ parts, Balanced part)
    (huncut : Uncut mark 0 (join other parts) []) : ∀ part ∈ parts, Uncut mark 0 part [] := by
  induction parts with
  | nil => exact fun _ hmem => nomatch hmem
  | cons part parts ih =>
    obtain ⟨hpart, hparts⟩ := List.forall_mem_cons.1 hparts
    cases parts with
    | nil =>
      rw [join_singleton] at huncut
      exact fun _ hmem => List.mem_singleton.1 hmem ▸ huncut
    | cons next parts =>
      rw [join_cons_cons] at huncut
      have hrest := (huncut.right (balanced_iff.1 hpart)).right (balanced_iff.1 hother)
      exact List.forall_mem_cons.2 ⟨huncut.left, ih hparts hrest⟩

end TypeTest.TypeText
