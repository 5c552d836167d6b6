import Mathlib.Data.List.Permutation
import TypeTest.Proofs.Interview
import TypeTest.Proofs.TypeText.Expressions

/-!
# When a normal form is its own normal form

The normal form of a text is brought to normal form again whenever somebody copies it from the
report of a mismatch into the directive.  It ought to stay as it is, and it does if two things are
right about the text (`normalize_normalize`).  Its brackets balance, and no mark dangles at an edge
of one of its members: the text is `Tidy`.  The text of every type expression is of this kind
(`Chain.tidy_write`).

Neither condition can be left out (`normalize_normalize_ne`).  Sorting moves members around.  A
member with a bracket too many may end up behind one with a bracket too few, where the two make up
a group that was none before; and a mark at the end of a member may make up a separator with the
spaces around it.  Either way the result is cut in other places than the text.

The argument goes by levels.  What is cut and joined again with its parts in order is cut in the
same places the next time, if the parts are solid (`arranged_arranged`).  This is used for the
members of an intersection, for the intersections of a union, and by induction on how a text is
`Tidy` for the groups among the members (`Tidy.settles`).
-/

namespace TypeTest.TypeText

/-! ## Tidy texts -/

/-- The members of a text: what it is cut into at both of the marks. -/
def members (text : List Char) : List (List Char) := (split '|' text).flatMap (split '&')

/-- The groups among the members of a text: what stands in parentheses there. -/
def groups (text : List Char) : List (List Char) := (members text).filterMap unwrap?

/-- No mark dangles in a text: each of its members begins and ends with something other than a mark,
and so does each member of its groups, at any depth. -/
inductive Tidy : List Char → Prop where
  | intro {text : List Char}
      (head : ∀ member ∈ members text, ∀ c ∈ member.head?, c ∉ ['|', '&'])
      (last : ∀ member ∈ members text, ∀ c ∈ member.getLast?, c ∉ ['|', '&'])
      (inside : ∀ group ∈ groups text, Tidy group) :
      Tidy text

/-! ## Type expressions are tidy -/

/-- A member has no mark at either end, and if it is a group, it is a tidy one. -/
structure TidyMember (member : List Char) : Prop where
  head : ∀ c ∈ member.head?, c ∉ ['|', '&']
  last : ∀ c ∈ member.getLast?, c ∉ ['|', '&']
  inside : ∀ inner, unwrap? member = some inner → Tidy inner

lemma Tidy.of_members {text : List Char} (hmembers : ∀ member ∈ members text, TidyMember member) :
    Tidy text := by
  refine .intro (fun member hmem => (hmembers member hmem).head)
    (fun member hmem => (hmembers member hmem).last) fun group hgroup => ?_
  obtain ⟨member, hmem, hunwrap⟩ := List.mem_filterMap.1 hgroup
  exact (hmembers member hmem).inside group hunwrap

/-- What a link of a level consists of: an intersection of its members, a member of itself. -/
def Level.cut : Level → List Char → List (List Char)
  | .union, text => split '&' text
  | .intersection, text => [text]

lemma Chain.tidy_of_links {union : Chain .union}
    (hlinks : ∀ part ∈ union.parts id, ∀ member ∈ Level.union.cut part, TidyMember member) :
    Tidy (union.write id) := by
  refine .of_members fun member hmember => ?_
  obtain ⟨part, hpart, hmem⟩ := List.mem_flatMap.1 hmember
  have hsplit : split '|' (union.write id) = union.parts id := split_write union
  rw [hsplit] at hpart
  exact hlinks part hpart member hmem

mutual

lemma Chain.tidyMember_of_mem : ∀ {level : Level} (chain : Chain level), ∀ part ∈ chain.parts id,
    ∀ member ∈ level.cut part, TidyMember member
  | _, .single link, part, hpart, member, hmember => by
    obtain rfl := List.mem_singleton.1 hpart
    exact link.tidyMember_of_mem member hmember
  | _, .cons first rest, part, hpart, member, hmember => by
    rcases List.mem_cons.1 hpart with rfl | hpart
    · exact first.tidyMember_of_mem member hmember
    · exact rest.tidyMember_of_mem part hpart member hmember

lemma Link.tidyMember_of_mem : ∀ {level : Level} (link : Link level),
    ∀ member ∈ level.cut (link.write id), TidyMember member
  | _, .chain members, member, hmember => by
    have hsplit : split '&' (members.write id) = members.parts id := split_write members
    have hpart : member ∈ members.parts id := hsplit ▸ hmember
    exact members.tidyMember_of_mem member hpart member List.mem_cons_self
  | _, .atom atom, member, hmember => by
    obtain rfl := List.mem_singleton.1 hmember
    refine ⟨fun c hc hmark => ?_, fun c hc hmark => ?_, fun inner hunwrap => ?_⟩
    · exact atom.head c hc (List.mem_cons_of_mem _ hmark)
    · exact atom.last c hc (List.mem_cons_of_mem _ hmark)
    · obtain ⟨hwrapped, hbalanced⟩ := wrapped_of_unwrap? hunwrap
      exact absurd hbalanced (atom.unwrapped inner ')' hwrapped)
  | _, .group union, member, hmember => by
    obtain rfl := List.mem_singleton.1 hmember
    have hbalanced : Balanced (union.write id) := union.balanced_write fun _ => .refl _
    refine ⟨fun c hc => ?_, fun c hc => ?_, fun inner hunwrap => ?_⟩
    · obtain rfl := Option.some.inj hc
      decide
    · have hlast : ('(' :: union.write id ++ [')']).getLast? = some ')' := List.getLast?_concat
      obtain rfl := Option.some.inj (hlast.symm.trans hc)
      decide
    · have hgroup := (unwrap?_wrapped hbalanced).symm.trans hunwrap
      obtain rfl := Option.some.inj hgroup
      exact Chain.tidy_of_links union.tidyMember_of_mem

end

/-- No mark dangles in the text of a type expression, and its brackets balance. -/
theorem Chain.tidy_write (union : Chain .union) :
    Tidy (union.write id) ∧ Balanced (union.write id) :=
  ⟨Chain.tidy_of_links union.tidyMember_of_mem, union.balanced_write fun _ => .refl _⟩

/-! ## Tidy texts have solid members -/

/-- If the brackets of a text balance and no mark dangles in it, its members are solid. -/
lemma solid_of_mem_members {text member : List Char} (htext : Balanced text)
    (hmember : member ∈ members text) (hhead : ∀ c ∈ member.head?, c ∉ ['|', '&'])
    (hlast : ∀ c ∈ member.getLast?, c ∉ ['|', '&']) (level : Level) :
    Solid level.mark member := by
  obtain ⟨part, hpart, hmem⟩ := List.mem_flatMap.1 hmember
  obtain ⟨hbalanced, huncut⟩ := of_mem_split Level.union.balanced_separator htext hpart
  have hmembers : ∀ other ∈ split '&' part, Balanced other ∧ Uncut '&' 0 other [] :=
    fun other hother => of_mem_split Level.intersection.balanced_separator hbalanced hother
  have huncut' : Uncut level.mark 0 member [] := by
    cases level with
    | union =>
      -- the part has no cut at this mark, and so neither has a member of it
      have hwhole : Uncut '|' 0 (join '&' (split '&' part)) [] := by
        rw [split, join_splitAt]
        exact huncut
      exact Uncut.of_join Level.intersection.balanced_separator
        (fun other hother => (hmembers other hother).1) hwhole member hmem
    | intersection => exact (hmembers member hmem).2
  have hmark : level.mark ∈ ['|', '&'] := by
    cases level with
    | union => decide
    | intersection => decide
  exact ⟨(hmembers member hmem).1, huncut', fun c hc heq => hhead c hc (heq ▸ hmark),
    fun c hc heq => hlast c hc (heq ▸ hmark)⟩

/-! ## One level -/

/-- A text that is cut at a mark and joined again, with its parts rewritten and in order. -/
def arranged (mark : Char) (rewrite : List Char → List Char) (text : List Char) : List Char :=
  join mark (sort ((split mark text).map rewrite))

lemma normalizeLink_union (text : List Char) :
    normalizeLink .union text = arranged '&' normalizeMember text := rfl

lemma normalizeChars_eq_arranged (text : List Char) :
    normalizeChars text = arranged '|' (normalizeLink .union) text := normalizeChars_eq text

section Arranged

variable {mark : Char} {rewrite : List Char → List Char} {text : List Char}

lemma sorted_parts_ne_nil (mark : Char) (rewrite : List Char → List Char) (text : List Char) :
    sort ((split mark text).map rewrite) ≠ [] := by
  intro hnil
  have hperm : [].Perm ((split mark text).map rewrite) := hnil ▸ sort_perm _
  exact splitAt_ne_nil mark 0 text (List.map_eq_nil_iff.1 hperm.nil_eq.symm)

lemma exists_of_mem_sorted {part : List Char}
    (hpart : part ∈ sort ((split mark text).map rewrite)) :
    ∃ old ∈ split mark text, rewrite old = part :=
  List.mem_map.1 ((sort_perm _).mem_iff.1 hpart)

/-- Solid parts are found again in the order in which they have been joined. -/
lemma split_arranged (hmark : mark ≠ ' ')
    (hsolid : ∀ part ∈ split mark text, Solid mark (rewrite part)) :
    split mark (arranged mark rewrite text) = sort ((split mark text).map rewrite) := by
  refine split_join hmark (sorted_parts_ne_nil mark rewrite text) fun part hpart => ?_
  obtain ⟨old, hold, rfl⟩ := exists_of_mem_sorted hpart
  exact hsolid old hold

/-- **Arranging once is enough**, if the rewritten parts are solid and are not rewritten again. -/
theorem arranged_arranged (hmark : mark ≠ ' ')
    (hsolid : ∀ part ∈ split mark text, Solid mark (rewrite part))
    (hagain : ∀ part ∈ split mark text, rewrite (rewrite part) = rewrite part) :
    arranged mark rewrite (arranged mark rewrite text) = arranged mark rewrite text := by
  have hsame : (sort ((split mark text).map rewrite)).map rewrite =
      sort ((split mark text).map rewrite) := by
    refine (List.map_congr_left fun part hpart => ?_).trans (List.map_id _)
    obtain ⟨old, hold, rfl⟩ := exists_of_mem_sorted hpart
    exact hagain old hold
  have hsorted : sort (sort ((split mark text).map rewrite)) =
      sort ((split mark text).map rewrite) := sort_eq_sort_iff.2 (sort_perm _)
  rw [arranged, split_arranged hmark hsolid, hsame, hsorted, arranged]

end Arranged

/-! ## All levels -/

/-- A text whose normal form is balanced and is its own normal form. -/
structure Settles (text : List Char) : Prop where
  balanced : Balanced (normalizeChars text)
  again : normalizeChars (normalizeChars text) = normalizeChars text

/-- The normal form of a solid member is solid and is not rewritten again, if what it encloses
settles. -/
lemma normalizeMember_spec {member : List Char} (hsolid : ∀ level : Level, Solid level.mark member)
    (hinside : ∀ inner, unwrap? member = some inner → Settles inner) :
    (∀ level : Level, Solid level.mark (normalizeMember member)) ∧
      normalizeMember (normalizeMember member) = normalizeMember member := by
  cases hunwrap : unwrap? member with
  | none =>
    have hself : normalizeMember member = member := by rw [normalizeMember, hunwrap]
    rw [hself]
    exact ⟨hsolid, hself⟩
  | some inner =>
    obtain ⟨hbalanced, hagain⟩ := hinside inner hunwrap
    have hgroup : normalizeMember member = '(' :: normalizeChars inner ++ [')'] := by
      rw [normalizeMember, hunwrap]
    rw [hgroup]
    refine ⟨fun level => ?_, ?_⟩
    · cases level with
      | union => exact Solid.wrapped (by decide) (by decide) hbalanced
      | intersection => exact Solid.wrapped (by decide) (by decide) hbalanced
    · rw [normalizeMember, unwrap?_wrapped hbalanced]
      exact congrArg (fun chars => '(' :: chars ++ [')']) hagain

/-- The normal form of a part is solid and is not rewritten again, if that is so for its members. -/
lemma normalizeLink_union_spec {part : List Char}
    (hmembers : ∀ member ∈ split '&' part,
      (∀ level : Level, Solid level.mark (normalizeMember member)) ∧
        normalizeMember (normalizeMember member) = normalizeMember member) :
    Solid '|' (normalizeLink .union part) ∧
      normalizeLink .union (normalizeLink .union part) = normalizeLink .union part := by
  constructor
  · refine Solid.join (by decide) (by decide) (by decide) (by decide)
      (sorted_parts_ne_nil '&' normalizeMember part) fun member hmember => ?_
    obtain ⟨old, hold, rfl⟩ := exists_of_mem_sorted hmember
    exact (hmembers old hold).1 .union
  · rw [normalizeLink_union, normalizeLink_union]
    exact arranged_arranged (by decide) (fun old hold => (hmembers old hold).1 .intersection)
      fun old hold => (hmembers old hold).2

/-- A balanced text in which no mark dangles settles. -/
lemma Tidy.settles {text : List Char} (htidy : Tidy text) (hbalanced : Balanced text) :
    Settles text := by
  induction htidy with
  | intro head last inside ih =>
    rename_i text
    have hparts : ∀ part ∈ split '|' text, Solid '|' (normalizeLink .union part) ∧
        normalizeLink .union (normalizeLink .union part) = normalizeLink .union part := by
      intro part hpart
      refine normalizeLink_union_spec fun member hmem => ?_
      have hmember : member ∈ members text := List.mem_flatMap.2 ⟨part, hpart, hmem⟩
      have hsolid := solid_of_mem_members hbalanced hmember (head member hmember)
        (last member hmember)
      refine normalizeMember_spec hsolid fun inner hunwrap => ?_
      have hgroup : inner ∈ groups text := List.mem_filterMap.2 ⟨member, hmember, hunwrap⟩
      exact ih inner hgroup (wrapped_of_unwrap? hunwrap).2
    constructor
    · rw [normalizeChars_eq]
      refine Balanced.join (by decide) (by decide) fun part hpart => ?_
      obtain ⟨old, hold, rfl⟩ := exists_of_mem_sorted hpart
      exact (hparts old hold).1.balanced
    · rw [normalizeChars_eq_arranged, normalizeChars_eq_arranged]
      exact arranged_arranged (by decide) (fun old hold => (hparts old hold).1)
        fun old hold => (hparts old hold).2

/-- **A normal form is its own normal form**, if the brackets of the text balance and no mark
dangles in it.  So the actual type that is reported of a mismatch is in normal form, and an
assertion into which it is copied is met. -/
theorem normalize_normalize {text : String} (hbalanced : Balanced text.toList)
    (htidy : Tidy text.toList) :
    normalize (normalize text) = normalize text ∧
      ∀ {α : Type} (pairing : Pairing α) (unmet : Unmet α), pairing.unmet? text = some unmet →
        normalize unmet.actual = unmet.actual ∧
          { pairing with expected := unmet.actual }.unmet? text = none := by
  have hagain : normalize (normalize text) = normalize text := by
    unfold normalize
    rw [String.toList_ofList, (htidy.settles hbalanced).again]
  refine ⟨hagain, fun pairing unmet hunmet => ?_⟩
  have hactual : unmet.actual = normalize text := by
    unfold Pairing.unmet? at hunmet
    split at hunmet
    · cases hunmet
    · rw [← Option.some.inj hunmet]
  rw [hactual]
  refine ⟨hagain, ?_⟩
  rw [Pairing.unmet?, if_pos hagain]

/-- A union in a group, which has an intersection in a group, both in disorder. -/
theorem normalize_normalize_nested :
    Balanced "(b | (d & a))".toList ∧ Tidy "(b | (d & a))".toList ∧
      normalize "(b | (d & a))" = "((a & d) | b)" ∧
      normalize "((a & d) | b)" = "((a & d) | b)" := by
  have hchars : "(b | (d & a))".toList =
      ['(', 'b', ' ', '|', ' ', '(', 'd', ' ', '&', ' ', 'a', ')', ')'] := rfl
  have hbalanced : Balanced "(b | (d & a))".toList := by
    rw [hchars]
    exact balanced_iff.2 rfl
  have hand : Tidy ['d', ' ', '&', ' ', 'a'] := by
    have hmembers : members ['d', ' ', '&', ' ', 'a'] = [['d'], ['a']] := rfl
    refine .of_members ?_
    rw [hmembers, List.forall_mem_cons, List.forall_mem_singleton]
    exact ⟨⟨by simp, by simp, nofun⟩, by simp, by simp, nofun⟩
  have hor : Tidy ['b', ' ', '|', ' ', '(', 'd', ' ', '&', ' ', 'a', ')'] := by
    have hmembers : members ['b', ' ', '|', ' ', '(', 'd', ' ', '&', ' ', 'a', ')'] =
        [['b'], ['(', 'd', ' ', '&', ' ', 'a', ')']] := rfl
    refine .of_members ?_
    rw [hmembers, List.forall_mem_cons, List.forall_mem_singleton]
    refine ⟨⟨by simp, by simp, nofun⟩, by simp, by simp, fun inner hunwrap => ?_⟩
    obtain rfl : ['d', ' ', '&', ' ', 'a'] = inner := Option.some.inj hunwrap
    exact hand
  have htidy : Tidy "(b | (d & a))".toList := by
    have hmembers : members ['(', 'b', ' ', '|', ' ', '(', 'd', ' ', '&', ' ', 'a', ')', ')'] =
        [['(', 'b', ' ', '|', ' ', '(', 'd', ' ', '&', ' ', 'a', ')', ')']] := rfl
    rw [hchars]
    refine .of_members ?_
    rw [hmembers, List.forall_mem_singleton]
    refine ⟨by simp, by simp, fun inner hunwrap => ?_⟩
    obtain rfl : ['b', ' ', '|', ' ', '(', 'd', ' ', '&', ' ', 'a', ')'] = inner :=
      Option.some.inj hunwrap
    exact hor
  have hnormal : normalize "(b | (d & a))" = "((a & d) | b)" := by cbv
  have hagain := (normalize_normalize hbalanced htidy).1
  rw [hnormal] at hagain
  exact ⟨hbalanced, htidy, hnormal, hagain⟩

/-- Without these conditions a normal form need not be its own: neither if a bracket is closed
that was not opened, nor if a mark dangles at the end of a member. -/
theorem normalize_normalize_ne :
    ¬ (∀ text, normalize (normalize text) = normalize text) ∧
      normalize (normalize ") | (a") ≠ normalize ") | (a" ∧
      normalize (normalize "b & a &") ≠ normalize "b & a &" := by
  have hbracket : normalize (normalize ") | (a") ≠ normalize ") | (a" := by
    have hfirst : normalize ") | (a" = "(a | )" := by cbv
    have hsecond : normalize "(a | )" = "( | a)" := by cbv
    rw [hfirst, hsecond]
    decide
  have hmark : normalize (normalize "b & a &") ≠ normalize "b & a &" := by
    have hfirst : normalize "b & a &" = "a & & b" := by cbv
    have hsecond : normalize "a & & b" = "& b & a" := by cbv
    rw [hfirst, hsecond]
    decide
  exact ⟨fun hall => hbracket (hall _), hbracket, hmark⟩

end TypeTest.TypeText
