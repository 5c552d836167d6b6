import TypeTest.Proofs.TypeText.Cutting

/-!
# Type expressions

A type expression is a union of one or more intersections, and an intersection consists of one or
more members, each of them an atom or a union in parentheses.  Unions and intersections are alike
but for their marks, so both are a `Chain` here, at one of two levels, and a `Link` is what a
chain of a level is made of.  An `Atom` is any text that cannot be taken for something else.

`Chain.write` writes an expression, and `arrange` says in which order the links of each chain are
written.  Written in the order in which they stand, this is the text of the expression.  Written in
order of their own texts, it is the normal form of that text (`normalizeChars_write`): what has been
joined is cut in the same places again, however deep it lies.
-/

namespace TypeTest.TypeText

/-! ## Syntax -/

/-- The two levels of a type expression. -/
inductive Level where
  | union | intersection
  deriving DecidableEq, Repr

/-- The mark that joins the links of a chain. -/
def Level.mark : Level → Char
  | .union => '|'
  | .intersection => '&'

/-- A text that cannot be taken for something else: it begins and ends with something other than a
space or a mark, its brackets balance, no separator stands outside of them, and it is not as a whole
in parentheses. -/
structure Atom where
  chars : List Char
  nonempty : chars ≠ []
  head : ∀ c ∈ chars.head?, c ∉ [' ', '|', '&']
  last : ∀ c ∈ chars.getLast?, c ∉ [' ', '|', '&']
  balanced : Balanced chars
  unsplit : ∀ (level : Level) (before after : List Char),
    chars = before ++ separator level.mark ++ after → openers before ≠ closers before
  unwrapped : ∀ (inner : List Char) (close : Char),
    chars = '(' :: inner ++ [close] → ¬ Balanced inner

/-- A text without spaces, marks and brackets, such as a name, is an atom. -/
def Atom.ofPlain (chars : List Char) (nonempty : chars ≠ [])
    (hplain : ∀ c ∈ chars, c ∉ [' ', '|', '&'] ∧ isOpener c = false ∧ isCloser c = false) :
    Atom where
  chars := chars
  nonempty := nonempty
  head := fun c hc => (hplain c (List.mem_of_mem_head? hc)).1
  last := fun c hc => (hplain c (List.mem_of_getLast? hc)).1
  balanced := by
    have hclosers : ∀ before, before <+: chars → closers before = 0 := by
      intro before hbefore
      exact closers_eq_zero fun c hc => (hplain c (hbefore.subset hc)).2.2
    have hopeners : openers chars = 0 := openers_eq_zero fun c hc => (hplain c hc).2.1
    refine ⟨fun before hbefore => ?_, ?_⟩
    · rw [hclosers before hbefore]
      exact Nat.zero_le _
    · rw [hopeners, hclosers chars (List.prefix_refl chars)]
  unsplit := by
    rintro level before after rfl
    have hspace : ' ' ∈ before ++ separator level.mark ++ after := by simp [separator]
    exact absurd List.mem_cons_self (hplain ' ' hspace).1
  unwrapped := by
    rintro inner close rfl
    have hopener := (hplain '(' (by simp)).2.1
    exact absurd hopener (by decide)

mutual

/-- One or more links of a level.  A chain of unions is a type expression. -/
inductive Chain : Level → Type where
  | single {level : Level} (link : Link level) : Chain level
  | cons {level : Level} (first : Link level) (rest : Chain level) : Chain level

/-- A link of a union is an intersection.  A link of an intersection is an atom, or a union in
parentheses. -/
inductive Link : Level → Type where
  | chain (members : Chain .intersection) : Link .union
  | atom (atom : Atom) : Link .intersection
  | group (union : Chain .union) : Link .intersection

end

/-! ## Writing -/

mutual

/-- The texts of the links of a chain. -/
def Chain.parts (arrange : List (List Char) → List (List Char)) {level : Level} :
    Chain level → List (List Char)
  | .single link => [link.write arrange]
  | .cons first rest => first.write arrange :: rest.parts arrange

/-- The text of a link; the links of all chains in it are arranged. -/
def Link.write (arrange : List (List Char) → List (List Char)) {level : Level} :
    Link level → List Char
  | .chain members => join Level.intersection.mark (arrange (members.parts arrange))
  | .atom atom => atom.chars
  | .group union => '(' :: join Level.union.mark (arrange (union.parts arrange)) ++ [')']

end

variable {arrange : List (List Char) → List (List Char)} {level : Level}

/-- The text of a chain; its links and those of all chains in it are arranged. -/
def Chain.write (arrange : List (List Char) → List (List Char)) (chain : Chain level) : List Char :=
  join level.mark (arrange (chain.parts arrange))

/-- The text of a type expression, with everything in the order in which it stands. -/
def Chain.text (chain : Chain level) : String := String.ofList (chain.write id)

lemma Chain.parts_ne_nil (chain : Chain level) : chain.parts arrange ≠ [] := by
  cases chain with
  | single link => exact List.cons_ne_nil _ _
  | cons first rest => exact List.cons_ne_nil _ _

/-! ## Written links are solid -/

/-- The marks that join what a link of a level stands among: that of its own chain, and those of the
chains around it, up to the next parentheses. -/
def Level.marks : Level → List Char
  | .union => ['|']
  | .intersection => ['|', '&']

lemma Level.mark_mem_marks : ∀ level : Level, level.mark ∈ level.marks
  | .union => List.mem_cons_self
  | .intersection => List.mem_cons_of_mem _ List.mem_cons_self

lemma Level.mark_ne_space : ∀ level : Level, level.mark ≠ ' '
  | .union => by decide
  | .intersection => by decide

lemma Level.balanced_separator : ∀ level : Level, Balanced (separator level.mark)
  | .union => TypeText.balanced_separator (by decide) (by decide)
  | .intersection => TypeText.balanced_separator (by decide) (by decide)

/-- A chain remains nonempty however its links are arranged. -/
lemma Chain.arrange_parts_ne_nil (harrange : ∀ texts, (arrange texts).Perm texts)
    (chain : Chain level) : arrange (chain.parts arrange) ≠ [] := by
  intro hnil
  have hperm : [].Perm (chain.parts arrange) := hnil ▸ harrange _
  exact chain.parts_ne_nil hperm.nil_eq.symm

lemma Atom.solid (atom : Atom) {mark : Char} (hmark : mark ∈ Level.intersection.marks) :
    Solid mark atom.chars where
  balanced := atom.balanced
  uncut := by
    rintro before rest hsplit hrest hdepth ⟨after, hprefix⟩
    rw [List.append_nil] at hprefix
    have hcounts := (depthAfter?_eq_some_iff.1 hdepth).2
    have hchars : atom.chars = before ++ separator mark ++ after := by
      rw [hsplit, List.append_assoc, hprefix]
    rcases List.mem_cons.1 hmark with rfl | hmark
    · exact atom.unsplit .union before after hchars (by omega)
    · obtain rfl := List.mem_singleton.1 hmark
      exact atom.unsplit .intersection before after hchars (by omega)
  head := by
    rintro c hc rfl
    exact atom.head c hc (List.mem_cons_of_mem _ hmark)
  last := by
    rintro c hc rfl
    exact atom.last c hc (List.mem_cons_of_mem _ hmark)

mutual

/-- The texts of the links of a chain are not cut at any mark that they stand among. -/
lemma Chain.solid (harrange : ∀ texts, (arrange texts).Perm texts) :
    ∀ {level : Level} (chain : Chain level), ∀ part ∈ chain.parts arrange,
      ∀ mark ∈ level.marks, Solid mark part
  | _, .single link, part, hpart, mark, hmark => by
    obtain rfl := List.mem_singleton.1 hpart
    exact link.solid harrange mark hmark
  | _, .cons first rest, part, hpart, mark, hmark => by
    rcases List.mem_cons.1 hpart with rfl | hpart
    · exact first.solid harrange mark hmark
    · exact rest.solid harrange part hpart mark hmark

/-- The text of a link is not cut at any mark that the link stands among. -/
lemma Link.solid (harrange : ∀ texts, (arrange texts).Perm texts) :
    ∀ {level : Level} (link : Link level), ∀ mark ∈ level.marks, Solid mark (link.write arrange)
  | _, .chain members, mark, hmark => by
    obtain rfl := List.mem_singleton.1 hmark
    have hparts : ∀ part ∈ arrange (members.parts arrange), Solid '|' part := by
      intro part hpart
      exact members.solid harrange part ((harrange _).mem_iff.1 hpart) '|' List.mem_cons_self
    have hne : arrange (members.parts arrange) ≠ [] := members.arrange_parts_ne_nil harrange
    exact Solid.join (by decide) (by decide) (by decide) (by decide) hne hparts
  | _, .atom atom, mark, hmark => atom.solid hmark
  | _, .group union, mark, hmark => by
    have hparts : ∀ part ∈ arrange (union.parts arrange), Balanced part := by
      intro part hpart
      exact (union.solid harrange part ((harrange _).mem_iff.1 hpart) '|'
        List.mem_cons_self).balanced
    refine Solid.wrapped ?_ ?_ (Balanced.join (by decide) (by decide) hparts)
    · rintro rfl
      exact absurd hmark (by decide)
    · rintro rfl
      exact absurd hmark (by decide)

end

/-! ## Sorting -/

lemma sort_perm (texts : List (List Char)) : (sort texts).Perm texts :=
  List.mergeSort_perm texts _

/-- Two lists of texts are sorted to the same one exactly if one is a permutation of the other. -/
theorem sort_eq_sort_iff {texts others : List (List Char)} :
    sort texts = sort others ↔ texts.Perm others := by
  constructor
  · intro heq
    exact (sort_perm texts).symm.trans (heq ▸ sort_perm others)
  · intro hperm
    have hsorted : ∀ list : List (List Char), (sort list).Pairwise fun a b => ¬ b < a := by
      intro list
      have hpairwise : (sort list).Pairwise fun a b => decide (¬ b < a) = true := by
        refine List.pairwise_mergeSort (fun a b c hab hbc => ?_) (fun a b => ?_) list
        · rw [decide_eq_true_eq, List.not_lt] at hab hbc ⊢
          exact List.le_trans hab hbc
        · rw [Bool.or_eq_true, decide_eq_true_eq, decide_eq_true_eq, List.not_lt, List.not_lt]
          exact List.le_total a b
      simpa only [decide_eq_true_eq] using hpairwise
    have hantisymm : ∀ a b : List Char, ¬ b < a → ¬ a < b → a = b := by
      intro a b hab hba
      exact List.le_antisymm (List.not_lt.1 hab) (List.not_lt.1 hba)
    refine List.Perm.eq_of_pairwise (fun a b _ _ => hantisymm a b) (hsorted texts)
      (hsorted others) ?_
    exact (sort_perm texts).trans (hperm.trans (sort_perm others).symm)

/-! ## The normal form -/

/-- The normal form of a member of an intersection. -/
def normalizeMember (member : List Char) : List Char :=
  match unwrap? member with
  | some inner => '(' :: normalizeChars inner ++ [')']
  | none => member

/-- The normal form of a link of a level. -/
def normalizeLink : Level → List Char → List Char
  | .union, text => join '&' (sort ((split '&' text).map normalizeMember))
  | .intersection, text => normalizeMember text

lemma map_attach_eq {β γ : Type} {list : List β} {f : { x // x ∈ list } → γ} {g : β → γ}
    (heq : ∀ x, f x = g x.1) : list.attach.map f = list.map g := by
  rw [funext heq, List.attach_map_val]

/-- A type text is brought to normal form link by link. -/
lemma normalizeChars_eq (text : List Char) :
    normalizeChars text = join '|' (sort ((split '|' text).map (normalizeLink .union))) := by
  rw [normalizeChars]
  refine congrArg (fun links => join '|' (sort links)) (map_attach_eq fun part => ?_)
  refine congrArg (fun links => join '&' (sort links)) (map_attach_eq fun member => ?_)
  unfold normalizeMember
  split
  · rename_i inner hwrapped
    rw [hwrapped]
  · rename_i hwrapped
    rw [hwrapped]

/-- An atom is not taken for a union in parentheses. -/
lemma Atom.normalizeMember_chars (atom : Atom) : normalizeMember atom.chars = atom.chars := by
  unfold normalizeMember
  split
  · rename_i inner hunwrap
    obtain ⟨hwrapped, hbalanced⟩ := wrapped_of_unwrap? hunwrap
    exact absurd hbalanced (atom.unwrapped inner ')' hwrapped)
  · rfl

/-- A text is its own list of parts if nothing is rearranged. -/
lemma split_write {level : Level} (chain : Chain level) :
    split level.mark (chain.write id) = chain.parts id := by
  refine split_join level.mark_ne_space chain.parts_ne_nil fun part hpart => ?_
  exact chain.solid (fun _ => .refl _) part hpart level.mark level.mark_mem_marks

lemma Chain.balanced_write (union : Chain .union)
    (harrange : ∀ texts, (arrange texts).Perm texts) : Balanced (union.write arrange) := by
  refine Balanced.join (by decide) (by decide) fun part hpart => ?_
  exact (union.solid harrange part ((harrange _).mem_iff.1 hpart) '|' List.mem_cons_self).balanced

mutual

/-- The normal forms of the links of a chain are the links in sorted order inside. -/
lemma Chain.map_normalizeLink : ∀ {level : Level} (chain : Chain level),
    (chain.parts id).map (normalizeLink level) = chain.parts sort
  | _, .single link => by
    rw [Chain.parts, Chain.parts, List.map_singleton, link.normalizeLink_write]
  | _, .cons first rest => by
    rw [Chain.parts, Chain.parts, List.map_cons, first.normalizeLink_write, rest.map_normalizeLink]

/-- The normal form of the text of a link is its text in sorted order. -/
lemma Link.normalizeLink_write : ∀ {level : Level} (link : Link level),
    normalizeLink level (link.write id) = link.write sort
  | _, .chain members => by
    have hsplit : split '&' (members.write id) = members.parts id := split_write members
    have hmembers : (members.parts id).map normalizeMember = members.parts sort :=
      members.map_normalizeLink
    show join '&' (sort ((split '&' (members.write id)).map normalizeMember)) =
      join '&' (sort (members.parts sort))
    rw [hsplit, hmembers]
  | _, .atom atom => atom.normalizeMember_chars
  | _, .group union => by
    show normalizeMember ('(' :: union.write id ++ [')']) =
      '(' :: join '|' (sort (union.parts sort)) ++ [')']
    have hbalanced : Balanced (union.write id) := union.balanced_write fun _ => .refl _
    have hsplit : split '|' (union.write id) = union.parts id := split_write union
    rw [normalizeMember, unwrap?_wrapped hbalanced]
    dsimp only
    rw [normalizeChars_eq, hsplit, union.map_normalizeLink]

end

/-- **The normal form of an expression is the expression in sorted order**, at every depth. -/
theorem normalizeChars_write (union : Chain .union) :
    normalizeChars (union.write id) = union.write sort := by
  have hsplit : split '|' (union.write id) = union.parts id := split_write union
  rw [normalizeChars_eq, hsplit, union.map_normalizeLink]
  rfl

end TypeTest.TypeText
