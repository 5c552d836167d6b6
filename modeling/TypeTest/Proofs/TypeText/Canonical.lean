import TypeTest.Proofs.TypeText.Expressions

/-!
# The normal form is canonical

Two type expressions are the `Same` if one is obtained from the other by exchanging links that stand
next to each other, in any chain at any depth.  The main theorem says that these are exactly the
expressions whose texts have one normal form (`normalize_eq_iff`): the order of the members never
matters, and nothing else is ever overlooked.

One direction goes along the exchanges, none of which changes how a chain is written in sorted
order.  The other one reads the normal form again.  It is itself the text of an expression, so
that cutting it gives back the sorted links (`Chain.perm_of_write_eq`); two chains with the same
sorted links are brought into line by moving one link after the other to the front
(`Chain.exists_front`).
-/

namespace TypeTest.TypeText

mutual

/-- One chain is obtained from another by exchanging links that stand next to each other, in the
chain and in the chains inside it. -/
inductive Chain.Same : {level : Level} → Chain level → Chain level → Prop where
  | single {level : Level} {link link' : Link level} (hlink : Link.Same link link') :
      Chain.Same (.single link) (.single link')
  | cons {level : Level} {first first' : Link level} {rest rest' : Chain level}
      (hfirst : Link.Same first first') (hrest : Chain.Same rest rest') :
      Chain.Same (.cons first rest) (.cons first' rest')
  | swap {level : Level} (first second : Link level) (rest : Chain level) :
      Chain.Same (.cons first (.cons second rest)) (.cons second (.cons first rest))
  | swapLast {level : Level} (first second : Link level) :
      Chain.Same (.cons first (.single second)) (.cons second (.single first))
  | trans {level : Level} {chain middle chain' : Chain level} (hfirst : Chain.Same chain middle)
      (hsecond : Chain.Same middle chain') : Chain.Same chain chain'

/-- One link is obtained from another by exchanges in the chains inside it. -/
inductive Link.Same : {level : Level} → Link level → Link level → Prop where
  | chain {members members' : Chain .intersection} (hmembers : Chain.Same members members') :
      Link.Same (.chain members) (.chain members')
  | atom (atom : Atom) : Link.Same (.atom atom) (.atom atom)
  | group {union union' : Chain .union} (hunion : Chain.Same union union') :
      Link.Same (.group union) (.group union')

end

mutual

lemma Chain.Same.refl : ∀ {level : Level} (chain : Chain level), chain.Same chain
  | _, .single link => .single (.refl link)
  | _, .cons first rest => .cons (.refl first) (.refl rest)

lemma Link.Same.refl : ∀ {level : Level} (link : Link level), link.Same link
  | _, .chain members => .chain (.refl members)
  | _, .atom atom => .atom atom
  | _, .group union => .group (.refl union)

end

/-! ## Order does not matter -/

mutual

/-- Exchanges do not change which texts the links of a chain have in sorted order. -/
theorem Chain.Same.parts_perm : ∀ {level : Level} {chain chain' : Chain level},
    chain.Same chain' → (chain.parts sort).Perm (chain'.parts sort)
  | _, _, _, .single hlink => by
    rw [Chain.parts, Chain.parts, hlink.write_eq]
  | _, _, _, .cons hfirst hrest => by
    rw [Chain.parts, Chain.parts, hfirst.write_eq]
    exact hrest.parts_perm.cons _
  | _, _, _, .swap first second rest => .swap _ _ _
  | _, _, _, .swapLast first second => .swap _ _ _
  | _, _, _, .trans hfirst hsecond => hfirst.parts_perm.trans hsecond.parts_perm

/-- Exchanges do not change how a link is written in sorted order. -/
theorem Link.Same.write_eq : ∀ {level : Level} {link link' : Link level},
    link.Same link' → link.write sort = link'.write sort
  | _, _, _, .chain hmembers => by
    rw [Link.write, Link.write, sort_eq_sort_iff.2 hmembers.parts_perm]
  | _, _, _, .atom _ => rfl
  | _, _, _, .group hunion => by
    rw [Link.write, Link.write, sort_eq_sort_iff.2 hunion.parts_perm]

end

/-! ## Nothing else is overlooked -/

/-- Chains that are written alike in sorted order have the same links in sorted order. -/
lemma Chain.perm_of_write_eq {level : Level} {chain chain' : Chain level}
    (hwrite : chain.write sort = chain'.write sort) :
    (chain.parts sort).Perm (chain'.parts sort) := by
  have hne : ∀ chain : Chain level, sort (chain.parts sort) ≠ [] := fun chain =>
    chain.arrange_parts_ne_nil sort_perm
  have hsolid : ∀ chain : Chain level, ∀ part ∈ sort (chain.parts sort), Solid level.mark part := by
    intro chain part hpart
    have hmem : part ∈ chain.parts sort := (sort_perm _).mem_iff.1 hpart
    exact chain.solid sort_perm part hmem level.mark level.mark_mem_marks
  have hsorted : sort (chain.parts sort) = sort (chain'.parts sort) :=
    join_injective level.mark_ne_space (hne chain) (hne chain') (hsolid chain) (hsolid chain')
      hwrite
  exact sort_eq_sort_iff.1 hsorted

/-- A link of a chain can be moved to the front. -/
lemma Chain.exists_front : ∀ {level : Level} (chain : Chain level),
    ∀ text ∈ chain.parts sort,
      (∃ link, chain = .single link ∧ link.write sort = text) ∨
        ∃ first rest, (Chain.cons first rest).Same chain ∧ first.write sort = text ∧
          (chain.parts sort).Perm (text :: rest.parts sort)
  | _, .single link, text, htext => by
    rw [Chain.parts, List.mem_singleton] at htext
    exact .inl ⟨link, rfl, htext.symm⟩
  | _, .cons first rest, text, htext => by
    rw [Chain.parts, List.mem_cons] at htext
    apply Or.inr
    rcases htext with rfl | htext
    · exact ⟨first, rest, .refl _, rfl, .refl _⟩
    rcases rest.exists_front text htext with
      ⟨link, rfl, hlink⟩ | ⟨second, others, hsame, hsecond, hperm⟩
    · refine ⟨link, .single first, .swapLast link first, hlink, ?_⟩
      rw [Chain.parts, Chain.parts, Chain.parts, hlink]
      exact .swap _ _ _
    · refine ⟨second, .cons first others, ?_, hsecond, ?_⟩
      · exact (Chain.Same.swap second first others).trans (.cons (.refl first) hsame)
      · rw [Chain.parts, Chain.parts]
        exact (hperm.cons _).trans (.swap _ _ _)

mutual

/-- Chains with the same links in sorted order are the same up to exchanges. -/
theorem Chain.same_of_perm : ∀ {level : Level} (chain chain' : Chain level),
    (chain.parts sort).Perm (chain'.parts sort) → chain.Same chain'
  | _, .single link, chain', hperm => by
    cases chain' with
    | single link' =>
      have hwrite : link.write sort = link'.write sort :=
        (List.cons.inj (List.perm_singleton.1 hperm)).1
      exact .single (link.same_of_write_eq link' hwrite)
    | cons first rest =>
      have hlength := hperm.length_eq
      have hrest : 0 < (rest.parts sort).length := List.length_pos_iff.2 rest.parts_ne_nil
      rw [Chain.parts, Chain.parts, List.length_singleton, List.length_cons] at hlength
      omega
  | _, .cons first rest, chain', hperm => by
    have hmem : first.write sort ∈ chain'.parts sort :=
      hperm.mem_iff.1 List.mem_cons_self
    rcases chain'.exists_front _ hmem with ⟨link, rfl, -⟩ | ⟨first', rest', hsame, hfirst, hperm'⟩
    · have hlength := hperm.length_eq
      have hrest : 0 < (rest.parts sort).length := List.length_pos_iff.2 rest.parts_ne_nil
      rw [Chain.parts, Chain.parts, List.length_singleton, List.length_cons] at hlength
      omega
    · have hrest : (rest.parts sort).Perm (rest'.parts sort) :=
        (hperm.trans hperm').cons_inv
      have hcons : (Chain.cons first rest).Same (.cons first' rest') :=
        .cons (first.same_of_write_eq first' hfirst.symm) (rest.same_of_perm rest' hrest)
      exact hcons.trans hsame

/-- Links that are written alike in sorted order are the same up to exchanges. -/
theorem Link.same_of_write_eq : ∀ {level : Level} (link link' : Link level),
    link.write sort = link'.write sort → link.Same link'
  | _, .chain members, .chain members', hwrite =>
    .chain (members.same_of_perm members' (Chain.perm_of_write_eq hwrite))
  | _, .atom atom, .atom atom', hwrite => by
    obtain rfl : atom = atom' := by
      cases atom
      cases atom'
      congr
    exact .atom atom
  | _, .atom atom, .group union, hwrite =>
    absurd (union.balanced_write sort_perm) (atom.unwrapped _ _ hwrite)
  | _, .group union, .atom atom, hwrite =>
    absurd (union.balanced_write sort_perm) (atom.unwrapped _ _ hwrite.symm)
  | _, .group union, .group union', hwrite => by
    rw [Link.write, Link.write, List.cons_append, List.cons_append, List.cons.injEq] at hwrite
    have hinner := List.append_cancel_right hwrite.2
    exact .group (union.same_of_perm union' (Chain.perm_of_write_eq hinner))

end

/-- **The normal form is canonical.**  Two type expressions have texts with one normal form
exactly if one is obtained from the other by exchanging members of unions and intersections, at
any depth. -/
theorem normalize_eq_iff (union union' : Chain .union) :
    normalize union.text = normalize union'.text ↔ union.Same union' := by
  have hnormal : ∀ union : Chain .union,
      (normalize union.text).toList = union.write sort := by
    intro union
    rw [normalize, Chain.text, String.toList_ofList, String.toList_ofList, normalizeChars_write]
  rw [← String.toList_inj, hnormal, hnormal]
  constructor
  · intro hwrite
    exact union.same_of_perm union' (Chain.perm_of_write_eq hwrite)
  · intro hsame
    unfold Chain.write
    rw [sort_eq_sort_iff.2 hsame.parts_perm]

example : normalize "c & (b | a)" = normalize "(a | b) & c" := by cbv

end TypeTest.TypeText
