import TypeTest.Proofs.Loads

/-!
# What becomes of known modules

A module that is known by name can be asked for again and again, and it is always the same one.
Importing makes other modules known, forgets those whose bodies fail and runs any number of bodies,
but a module that was known before is neither forgotten nor made anew, whatever is loaded and
however that ends (`retains_load`).  At most it gets to see modules below it: importing one makes it
an attribute of the module above.  This is what `Module.Grown` allows, and it allows nothing else.

The reason is that a module is only made where its name is not known, and only forgotten while its
own body runs, where it has been made.  So the invariant `Imports.Retains`, which speaks of one name
and of the module that was known by it, goes through all steps that concern other names
(`retains_execute`), and the steps that concern this one look things up in the module or make
another one its attribute.

A load by name that ends well leaves the module known (`knows_of_load`).
-/

namespace TypeTest.Modules

open TypeTest.Action

variable {σ ρ : Type} {tree : Tree σ ρ} {name other : CodeText} {module : Module σ ρ}

/-! ## Use of known modules -/

/-- Makes what has become of a used module known, and the world in which it was used current. -/
def Imports.putBack (imports : Imports σ ρ) (name : CodeText) (use : Use σ ρ) : Imports σ ρ :=
  { imports with world := use.world }.learn name use.module

lemma useKnown_apply {imports : Imports σ ρ} (hget : imports.modules.get? name = some module)
    (step : Action (Use σ ρ) β) :
    useKnown name step imports =
      match step ⟨module, imports.world⟩ with
      | .ok value use => .ok value (imports.putBack name use)
      | .error fault use => .error fault (imports.putBack name use) := by
  have hgot : (get : Action (Imports σ ρ) (Imports σ ρ)) imports = .ok imports imports := rfl
  unfold useKnown
  simp only [bind, EStateM.bind, hgot, hget]
  unfold useModule
  cases step ⟨module, imports.world⟩ <;> rfl

/-- A known module is used as it is by itself. -/
lemma leaves_useKnown {imports : Imports σ ρ} (hget : imports.modules.get? name = some module)
    (step : Action (Use σ ρ) β) :
    leaves (useKnown name step) imports =
      imports.putBack name (leaves step ⟨module, imports.world⟩) := by
  unfold leaves
  rw [useKnown_apply hget]
  cases step ⟨module, imports.world⟩ <;> rfl

/-- A module that is not known cannot be used. -/
lemma useKnown_of_unknown {imports : Imports σ ρ} (hget : imports.modules.get? name = none)
    (step : Action (Use σ ρ) β) :
    useKnown name step imports = .error (.forgotten name) imports := by
  have hgot : (get : Action (Imports σ ρ) (Imports σ ρ)) imports = .ok imports imports := rfl
  unfold useKnown
  simp only [bind, EStateM.bind, hgot, hget]
  rfl

lemma Imports.get?_putBack (imports : Imports σ ρ) (name other : CodeText) (use : Use σ ρ) :
    (imports.putBack name use).modules.get? other =
      if other = name then some use.module else imports.modules.get? other :=
  Assoc.get?_insert _ _ _ _

lemma Imports.knows_iff {imports : Imports σ ρ} :
    imports.knows name = true ↔ ∃ module, imports.modules.get? name = some module := by
  rw [Imports.knows, Assoc.contains_eq_isSome_get?, Option.isSome_iff_exists]

lemma Imports.knows_putBack {imports : Imports σ ρ} (hknows : imports.knows name = true)
    (other : CodeText) (use : Use σ ρ) : (imports.putBack other use).knows name = true := by
  obtain ⟨module, hget⟩ := Imports.knows_iff.1 hknows
  rw [Imports.knows_iff, Imports.get?_putBack]
  split
  · exact ⟨use.module, rfl⟩
  · exact ⟨module, hget⟩

/-! ## What a module may have become -/

/-- A module has at most got to see others below it: whatever it had under a name it still has,
unless it is another module that is there now. -/
def Module.Grown (module later : Module σ ρ) : Prop :=
  ∀ key, later.attributes.get? key = module.attributes.get? key ∨
    later.attributes.get? key = some (.plain .other)

lemma Module.Grown.refl (module : Module σ ρ) : module.Grown module :=
  fun _ => .inl rfl

/-- A module grows by being shown another one. -/
lemma Module.Grown.define {known : Module σ ρ} (hgrown : module.Grown known) (key : CodeText) :
    module.Grown (known.define [(key, .plain .other)]) := by
  intro asked
  have hget : (known.define [(key, .plain .other)]).attributes.get? asked =
      if asked = key then some (.plain .other) else known.attributes.get? asked :=
    Assoc.get?_insert _ _ _ _
  rw [hget]
  split
  · exact .inr rfl
  · exact hgrown asked

/-! ## What importing does with a known module -/

/-- A step with a module that lets it grow at most. -/
abbrev GrowsOnly (module : Module σ ρ) (step : Action (Use σ ρ) β) : Prop :=
  Upholds (fun use => module.Grown use.module) (fun _ => True) (fun _ => True) step

lemma growsOnly_callWith {call : (CodeText → Option (Value ρ)) → CodeText → Action σ (Value ρ)}
    {given : CodeText} : GrowsOnly module (callWith call given) := by
  refine Upholds.get.bind fun use _ =>
    ⟨fun world hworld => ?_, fun _ _ => trivial, fun _ _ => trivial⟩
  unfold leaves inWorld
  cases call use.module.names given world.world <;> exact hworld

/-- Looking something up changes a module only if it is asked for its notes. -/
lemma growsOnly_lookUp {key : CodeText} (hkey : key ≠ notesKey) :
    GrowsOnly module (lookUp key) := by
  have hsame (known : Module σ ρ) : known.lookedAt key = known :=
    if_neg fun hnotes => hkey hnotes.1
  have halter : GrowsOnly module (alter (·.lookedAt key)) := by
    refine .modify fun use hgrown => ?_
    show module.Grown (use.module.lookedAt key)
    rwa [hsame]
  refine halter.bind fun _ _ => Upholds.get.bind fun use _ => ?_
  dsimp only
  split
  next => exact .pure trivial
  next => exact growsOnly_callWith.bind fun _ _ => .pure trivial
  next => exact .throw trivial
  next => exact .throw trivial

lemma growsOnly_lookUp? {key : CodeText} (hkey : key ≠ notesKey) :
    GrowsOnly module (lookUp? key) := by
  rw [lookUp?_eq, ← bind_pure_comp]
  refine ((growsOnly_lookUp hkey).bind fun _ _ => .pure trivial).tryCatch fun fault _ => ?_
  cases fault with
  | noAttribute => exact .pure trivial
  | _ => exact .throw trivial

lemma growsOnly_assign (key : CodeText) : GrowsOnly module (assign key .other) := by
  unfold assign
  split
  next => exact .throw trivial
  next =>
    split
    next => exact .throw trivial
    next => exact .modify fun _ hgrown => hgrown.define key

/-- A module that was known by a name is known by it still, and has grown at most. -/
def Imports.Retains (name : CodeText) (module : Module σ ρ) (imports : Imports σ ρ) : Prop :=
  ∃ known, imports.modules.get? name = some known ∧ module.Grown known

/-- A step that concerns imports and retains a module. -/
abbrev Retaining (name : CodeText) (module : Module σ ρ) (step : Action (Imports σ ρ) β) : Prop :=
  Upholds (Imports.Retains name module) (fun _ => True) (fun _ => True) step

lemma Imports.Retains.knows {imports : Imports σ ρ} (hretains : imports.Retains name module) :
    imports.knows name = true := by
  obtain ⟨known, hget, -⟩ := hretains
  exact Imports.knows_iff.2 ⟨known, hget⟩

/-- A module of another name may be made known. -/
lemma Imports.Retains.learn {imports : Imports σ ρ} (hretains : imports.Retains name module)
    (hother : other ≠ name) (made : Module σ ρ) :
    (imports.learn other made).Retains name module := by
  obtain ⟨known, hget, hgrown⟩ := hretains
  refine ⟨known, ?_, hgrown⟩
  rw [Imports.learn, Assoc.get?_insert, if_neg hother.symm, hget]

/-- A module of another name may be forgotten. -/
lemma Imports.Retains.forget {imports : Imports σ ρ} (hretains : imports.Retains name module)
    (hother : other ≠ name) : (imports.forget other).Retains name module := by
  obtain ⟨known, hget, hgrown⟩ := hretains
  refine ⟨known, ?_, hgrown⟩
  rw [Imports.forget, Assoc.get?_erase, if_neg hother.symm, hget]

/-- What lets a module grow at most may be done with any module that is known. -/
lemma retains_useKnown {step : Action (Use σ ρ) β} (hstep : ∀ module, GrowsOnly module step)
    (other : CodeText) : Retaining name module (useKnown other step) := by
  refine ⟨fun imports hretains => ?_, fun _ _ => trivial, fun _ _ => trivial⟩
  obtain ⟨known, hget, hgrown⟩ := hretains
  cases hknown : imports.modules.get? other with
  | none =>
    rw [leaves, useKnown_of_unknown hknown]
    exact ⟨known, hget, hgrown⟩
  | some used =>
    rw [leaves_useKnown hknown]
    by_cases hname : name = other
    · subst hname
      obtain rfl := Option.some.inj (hget.symm.trans hknown)
      refine ⟨_, (imports.get?_putBack _ _ _).trans (if_pos rfl), ?_⟩
      exact (hstep module).keeps _ hgrown
    · exact ⟨known, ((imports.get?_putBack _ _ _).trans (if_neg hname)).trans hget, hgrown⟩

/-- Anything may be done with a module of another name. -/
lemma retains_useKnown_of_ne (hother : other ≠ name) (step : Action (Use σ ρ) β) :
    Retaining name module (useKnown other step) := by
  refine ⟨fun imports hretains => ?_, fun _ _ => trivial, fun _ _ => trivial⟩
  cases hknown : imports.modules.get? other with
  | none =>
    rw [leaves, useKnown_of_unknown hknown]
    exact hretains
  | some used =>
    obtain ⟨known, hget, hgrown⟩ := hretains
    rw [leaves_useKnown hknown]
    exact ⟨known, ((imports.get?_putBack _ _ _).trans (if_neg hother.symm)).trans hget, hgrown⟩

lemma retains_ofExcept (result : Except Fault β) :
    Retaining name module (MonadExcept.ofExcept result) :=
  .ofExcept (fun _ _ => trivial) fun _ _ => trivial

lemma retains_lookUp_places (other : CodeText) :
    Retaining name module (useKnown other (lookUp placesKey)) :=
  retains_useKnown (fun _ => growsOnly_lookUp (by decide)) other

lemma retains_placesIn (parts : List CodeText) (member : Member σ ρ) :
    Retaining name module (placesIn tree parts member) := by
  induction parts, member using placesIn.induct tree with
  | case1 part known =>
    rw [placesIn, pure_bind]
    refine (retains_ofExcept _).bind fun found? _ => ?_
    split
    next => exact .pure trivial
    next => exact .pure trivial
  | case2 part known head tail ih =>
    rw [placesIn]
    refine (retains_lookUp_places _).bind fun member _ => (ih member).bind fun around _ => ?_
    refine (retains_ofExcept _).bind fun found? _ => ?_
    split
    next => exact .pure trivial
    next => exact .pure trivial
  | case3 parts member hother =>
    rw [placesIn.eq_3 tree parts member hother]
    exact retains_ofExcept _

lemma retains_locateIn (part : CodeText) (above places : List CodeText) (origin : Member σ ρ) :
    Retaining name module (do
      match ← MonadExcept.ofExcept (tree.find? part places) with
      | none => throw (.moduleNotFound (some (dotted (part :: above))))
      | some found =>
        if found.file?.isNone then
          discard (placesIn tree above (← useKnown (dotted above) (lookUp placesKey)))
        match origin with
        | .held (.plain (.origin _ _)) => return found
        | _ => if origin.isBlank then return found else throw .noAttribute) := by
  refine (retains_ofExcept _).bind fun found? _ => ?_
  split
  next => exact .throw trivial
  next found =>
    have hend : Retaining name module
        (match origin with
        | .held (.plain (.origin _ _)) => pure found
        | _ => if origin.isBlank then pure found else throw .noAttribute) := by
      split
      next => exact .pure trivial
      next =>
        split
        next => exact .pure trivial
        next => exact .throw trivial
    dsimp only
    split
    next =>
      refine (retains_lookUp_places _).bind fun member _ => ?_
      exact (retains_placesIn above member).discard.bind fun _ _ => hend
    next => exact hend

lemma retains_locate (part : CodeText) (above : List CodeText) :
    Retaining name module (locate tree part above) := by
  unfold locate
  dsimp only
  split
  next =>
    refine (retains_ofExcept _).bind fun found? _ => ?_
    split
    next => exact .pure trivial
    next => exact .throw trivial
  next =>
    refine (retains_useKnown (fun _ => growsOnly_lookUp? (by decide)) _).bind fun member? _ => ?_
    split
    next => exact .throw trivial
    next member =>
      refine (retains_useKnown (fun _ => growsOnly_lookUp (by decide)) _).bind fun origin _ => ?_
      split
      next =>
        rw [pure_bind]
        exact retains_locateIn part above _ origin
      next =>
        exact (retains_placesIn above member).bind fun places _ =>
          retains_locateIn part above places origin

lemma retains_attach (part : CodeText) (above : List CodeText) :
    Retaining name module (attach part above) := by
  rw [attach_eq]
  split
  next => exact .pure trivial
  next =>
    refine (retains_useKnown (fun _ => growsOnly_assign part) _).tryCatch fun fault _ => ?_
    cases fault with
    | noAttribute => exact .pure trivial
    | _ => exact .throw trivial

lemma retains_noteExecuted (path : Path) :
    Retaining name module (modify (·.noteExecuted path)) :=
  .modify fun _ hretains => hretains

mutual

/-- Importing a module by the parts of its name. -/
theorem retains_importParts (tree : Tree σ ρ) (name : CodeText) (module : Module σ ρ)
    (idle : List CodeText) :
    (parts : List CodeText) → Retaining name module (importParts tree idle parts)
  | [] => by
    rw [importParts]
    exact .pure trivial
  | part :: above => by
    rw [importParts]
    refine Upholds.get.bind fun imports _ => ?_
    split
    next => exact .pure trivial
    next =>
      refine (retains_importParts tree name module idle above).bind fun _ _ => ?_
      refine Upholds.get.bind fun imports hretains => ?_
      split
      next => exact .pure trivial
      next hunknown =>
        -- what is made here was not known, so it is another module than the one that is retained
        have hother : dotted (part :: above) ≠ name :=
          fun hsame => hunknown (hsame ▸ hretains.knows)
        refine (retains_locate part above).bind fun found _ => ?_
        dsimp only
        refine (Upholds.modify fun imports hretains => hretains.learn hother _).bind
          fun _ _ => ?_
        split
        next path _ =>
          exact (retains_execute tree name module idle path hother).bind fun _ _ =>
            retains_attach part above
        next => exact retains_attach part above
termination_by parts => (idle.length, 0, parts.length)
decreasing_by
  · exact Prod.Lex.right _ (Prod.Lex.right _ (Nat.lt_succ_self _))
  · exact Prod.Lex.right _ (Prod.Lex.right _ (Nat.succ_pos _))

/-- Executing the file of another module. -/
theorem retains_execute (tree : Tree σ ρ) (name : CodeText) (module : Module σ ρ)
    (idle : List CodeText) {other : CodeText} (path : Path) (hother : other ≠ name) :
    Retaining name module (execute tree idle other path) := by
  rw [execute]
  split
  next => exact .pure trivial
  next body _ =>
    split
    next hidle =>
      have hshorter : (idle.erase other).length < idle.length := by
        rw [List.length_erase_of_mem hidle]
        exact Nat.sub_lt (List.length_pos_of_mem hidle) Nat.one_pos
      have hrun : Retaining name module (do
          modify (·.noteExecuted path)
          importAll tree (idle.erase other) body.imports
          body.raise) :=
        (retains_noteExecuted path).bind fun _ _ =>
          (retains_importAll tree name module (idle.erase other) body.imports).bind fun _ _ =>
            upholds_raise fun _ _ => trivial
      have hgiveUp (fault : Fault) : Retaining name module (do
          modify (·.forget other)
          (throw fault : Action (Imports σ ρ) Unit)) :=
        (Upholds.modify fun _ hretains => hretains.forget hother).bind fun _ _ => .throw trivial
      refine (Upholds.tryCatch ?_ fun fault (_ : True) => hgiveUp fault).bind fun _ _ =>
        retains_useKnown_of_ne hother _
      dsimp only
      split
      next => exact hrun
      next => exact .throw_bind trivial
    next => exact .pure trivial
termination_by (idle.length, 0, 0)
decreasing_by
  exact Prod.Lex.left _ _ hshorter

/-- Importing what a body asks for. -/
theorem retains_importAll (tree : Tree σ ρ) (name : CodeText) (module : Module σ ρ)
    (idle : List CodeText) :
    (names : List CodeText) → Retaining name module (importAll tree idle names)
  | [] => by
    rw [importAll]
    exact .pure trivial
  | other :: names => by
    rw [importAll]
    exact (retains_importParts tree name module idle _).bind fun _ _ =>
      (retains_importParts tree name module idle _).bind fun _ _ =>
        retains_importAll tree name module idle names
termination_by names => (idle.length, 1, names.length)
decreasing_by
  · exact Prod.Lex.right _ (Prod.Lex.left _ _ Nat.one_pos)
  · exact Prod.Lex.right _ (Prod.Lex.left _ _ Nat.one_pos)
  · exact Prod.Lex.right _ (Prod.Lex.right _ (Nat.lt_succ_self _))

end

/-! ## Loads -/

lemma retains_importName (asked : CodeText) :
    Retaining name module (importName tree asked) := by
  refine Upholds.get.bind fun imports _ => ?_
  split
  next => exact (retains_useKnown (fun _ => growsOnly_lookUp? (by decide)) _).discard
  next => exact retains_importParts tree name module _ _

lemma retains_executeUnnamed (path : Path) :
    Retaining name module (executeUnnamed tree path) := by
  unfold executeUnnamed
  dsimp only
  split
  next =>
    refine (retains_noteExecuted path).bind fun _ _ => ?_
    refine (retains_importAll tree name module _ _).bind fun _ _ => ?_
    exact (upholds_raise fun _ _ => trivial).bind fun _ _ => .pure trivial
  next => exact .throw_bind trivial

lemma retains_loadName (asked : CodeText) : Retaining name module (loadName tree asked) := by
  unfold loadName
  dsimp only
  split
  next => exact .throw_bind trivial
  next =>
    exact ((retains_importName asked).tryCatch fun _ _ => .throw trivial).bind
      fun _ _ => .pure trivial

/-- **A known module is retained**, whatever is loaded and however the load ends. -/
theorem retains_load (tree : Tree σ ρ) (name : CodeText) (module : Module σ ρ)
    (location : CodeText) : Retaining name module (load tree location) := by
  have hpath (path : CodeText) : Retaining name module (loadPath tree (tree.resolve path)) :=
    (retains_ofExcept _).bind fun path _ => retains_executeUnnamed path
  refine (retains_ofExcept _).bind fun path? _ => ?_
  cases path? with
  | none => exact retains_loadName location
  | some path =>
    dsimp only
    split
    next => exact hpath path
    next => exact .throw_bind trivial

/-! ## Modules known after a load -/

lemma Imports.knows_leaves {imports : Imports σ ρ} {step : Action (Imports σ ρ) β}
    (hstep : ∀ module, Retaining name module step) (hknows : imports.knows name = true) :
    (leaves step imports).knows name = true := by
  obtain ⟨module, hget⟩ := Imports.knows_iff.1 hknows
  exact ((hstep module).keeps imports ⟨module, hget, .refl module⟩).knows

lemma knows_of_useKnown {imports left : Imports σ ρ} {step : Action (Use σ ρ) β} {value : β}
    (hused : useKnown name step imports = .ok value left) : left.knows name = true := by
  cases hget : imports.modules.get? name with
  | none =>
    rw [useKnown_of_unknown hget] at hused
    cases hused
  | some module =>
    obtain rfl := (eq_ok_iff.1 hused).2
    rw [leaves_useKnown hget]
    exact Imports.knows_iff.2 ⟨_, (imports.get?_putBack _ _ _).trans (if_pos rfl)⟩

/-- A module whose body has run without a fault is known. -/
lemma knows_of_execute {idle : List CodeText} {path : Path} {imports left : Imports σ ρ}
    (hknows : imports.knows name = true)
    (hexecuted : execute tree idle name path imports = .ok () left) : left.knows name = true := by
  rw [execute] at hexecuted
  cases hbody : tree.files.get? path with
  | none =>
    rw [hbody] at hexecuted
    exact (eq_ok_iff.1 hexecuted).2 ▸ hknows
  | some body =>
    rw [hbody] at hexecuted
    dsimp only at hexecuted
    split at hexecuted
    next =>
      obtain ⟨_, _, -, hdefined⟩ := bind_eq_ok_iff.1 hexecuted
      exact knows_of_useKnown hdefined
    next => exact (eq_ok_iff.1 hexecuted).2 ▸ hknows

lemma knows_learn (imports : Imports σ ρ) (name : CodeText) (made : Module σ ρ) :
    (imports.learn name made).knows name = true :=
  Imports.knows_iff.2 ⟨made, (Assoc.get?_insert _ _ _ _).trans (if_pos rfl)⟩

/-- A module that has been imported is known. -/
lemma knows_of_importParts {idle : List CodeText} {part : CodeText} {above : List CodeText}
    {imports left : Imports σ ρ}
    (himported : importParts tree idle (part :: above) imports = .ok () left) :
    left.knows (dotted (part :: above)) = true := by
  rw [importParts, get_bind] at himported
  split at himported
  next hknows => exact (eq_ok_iff.1 himported).2 ▸ hknows
  next =>
    obtain ⟨_, middle, -, himported⟩ := bind_eq_ok_iff.1 himported
    rw [get_bind] at himported
    split at himported
    next hknows => exact (eq_ok_iff.1 himported).2 ▸ hknows
    next =>
      obtain ⟨found, located, -, himported⟩ := bind_eq_ok_iff.1 himported
      dsimp only at himported
      obtain ⟨_, learned, hlearned, himported⟩ := bind_eq_ok_iff.1 himported
      have hknows : learned.knows (dotted (part :: above)) = true := by
        obtain rfl := (eq_ok_iff.1 hlearned).2
        exact knows_learn located _ _
      cases hfile : found.file? with
      | some path =>
        rw [hfile] at himported
        obtain ⟨_, executed, hexecuted, hattached⟩ := bind_eq_ok_iff.1 himported
        obtain rfl := (eq_ok_iff.1 hattached).2
        exact Imports.knows_leaves (fun _ => retains_attach part above)
          (knows_of_execute hknows hexecuted)
      | none =>
        rw [hfile] at himported
        obtain rfl := (eq_ok_iff.1 himported).2
        exact Imports.knows_leaves (fun _ => retains_attach part above) hknows

lemma knows_of_importName {imports left : Imports σ ρ}
    (himported : importName tree name imports = .ok () left) : left.knows name = true := by
  rw [importName, get_bind] at himported
  split at himported
  next hknows =>
    obtain rfl := (eq_ok_iff.1 himported).2
    exact Imports.knows_leaves
      (fun _ => (retains_useKnown (fun _ => growsOnly_lookUp? (by decide)) _).discard) hknows
  next =>
    obtain ⟨part, above, hparts⟩ := List.exists_cons_of_ne_nil (nameParts_ne_nil name)
    rw [hparts] at himported
    have hname : dotted (part :: above) = name := hparts ▸ dotted_nameParts name
    exact hname ▸ knows_of_importParts himported

/-- A module that is loaded from a path is not known by name. -/
lemma fromPath_of_executeUnnamed {path : Path} {imports left : Imports σ ρ} {loaded : Loaded σ ρ}
    (hexecuted : executeUnnamed tree path imports = .ok loaded left) :
    ∃ module, loaded = .fromPath module := by
  unfold executeUnnamed at hexecuted
  dsimp only at hexecuted
  split at hexecuted
  next =>
    obtain ⟨_, _, -, hexecuted⟩ := bind_eq_ok_iff.1 hexecuted
    obtain ⟨_, _, -, hexecuted⟩ := bind_eq_ok_iff.1 hexecuted
    obtain ⟨_, _, -, hexecuted⟩ := bind_eq_ok_iff.1 hexecuted
    exact ⟨_, (Except.ok.inj (eq_ok_iff.1 hexecuted).1).symm⟩
  next => cases hexecuted

lemma knows_of_loadName {asked : CodeText} {imports left : Imports σ ρ} {loaded : Loaded σ ρ}
    (hload : loadName tree asked imports = .ok loaded left) :
    loaded = .byName asked ∧ left.knows asked = true := by
  rw [loadName_eq] at hload
  cases himport : importModule tree asked imports with
  | error fault after =>
    rw [himport] at hload
    cases hload
  | ok other after =>
    rw [himport] at hload
    obtain ⟨rfl, rfl⟩ := EStateM.Result.ok.inj hload
    unfold importModule at himport
    dsimp only at himport
    split at himport
    next => cases himport
    next =>
      obtain ⟨_, known, himported, hdone⟩ := bind_eq_ok_iff.1 himport
      obtain ⟨rfl, rfl⟩ := EStateM.Result.ok.inj hdone
      exact ⟨rfl, knows_of_importName himported⟩

/-- **A load by name leaves the module known**, under the name that is its location. -/
theorem knows_of_load {location : CodeText} {imports left : Imports σ ρ}
    (hload : load tree location imports = .ok (.byName name) left) :
    name = location ∧ left.knows name = true := by
  obtain ⟨path?, start, -, hload⟩ := bind_eq_ok_iff.1 hload
  cases path? with
  | none =>
    obtain ⟨hname, hknows⟩ := knows_of_loadName hload
    obtain rfl := Loaded.byName.inj hname
    exact ⟨rfl, hknows⟩
  | some path =>
    dsimp only at hload
    split at hload
    next =>
      obtain ⟨file, _, -, hexecuted⟩ := bind_eq_ok_iff.1 hload
      obtain ⟨module, hfrom⟩ := fromPath_of_executeUnnamed hexecuted
      cases hfrom
    next => cases hload

end TypeTest.Modules
