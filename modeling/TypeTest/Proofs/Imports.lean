import TypeTest.Proofs.Action
import TypeTest.Proofs.Maps
import TypeTest.Proofs.ModuleNames

/-!
# Importing where the modules are there

Let the module at a location and all above it be there, and not only in the directory of the module
above, but wherever that has its submodules looked up: a body may name other places itself
(`Tree.HasThroughout`; if none does, it is enough that the files are there,
`Tree.hasThroughout_iff_has`).  Then no import says that one of them is missing
(`upholds_importParts`), whatever it is an import of and whatever else the bodies ask for, unless a
body itself raises such a fault.

The invariant is about the modules that are known (`Tree.GuidesAll`).  Each of them on the way to
the location has places for its submodules, and those hold what is below it; a body may replace them
only by places that do so too.  Importing makes modules known, forgets them and runs bodies, and
every step of it upholds the invariant, faults included.  A module is looked up in the places of the
one above it, so on the way to the location it is found (`upholds_locate`), and a module that is
missing is another one.
-/

namespace TypeTest.Modules

open TypeTest.Action

variable {σ ρ : Type}

/-! ## The way to a location -/

/-- The parts of a name, first part first. -/
def way (name : CodeText) : List CodeText := (nameParts name).reverse

lemma way_dotted {parts : List CodeText} (hfree : DotFree parts) (hne : parts ≠ []) :
    way (dotted parts) = parts.reverse := by
  rw [way, nameParts_dotted hfree hne]

lemma way_dotted_cons {part : CodeText} {above : List CodeText} (hfree : DotFree (part :: above))
    (hne : above ≠ []) : way (dotted (part :: above)) = way (dotted above) ++ [part] := by
  rw [way_dotted hfree (List.cons_ne_nil _ _), way_dotted hfree.tail hne, List.reverse_cons]

/-- A module that is at a location or above it lies on the way there. -/
lemma exists_way_of_mem_namesUpTo {parts : List CodeText} {location : CodeText}
    (hfree : DotFree parts) (hne : parts ≠ [])
    (hmem : dotted parts ∈ namesUpTo (nameParts location)) :
    ∃ below, way (dotted parts) ++ below = way location := by
  obtain ⟨front, hfront⟩ := suffix_of_mem_namesUpTo hfree hne hmem
  exact ⟨front.reverse, by rw [way_dotted hfree hne, way, ← hfront, List.reverse_append]⟩

/-! ## Modules that are there -/

/-- The places in which the modules below a found one are looked up at first. -/
def Found.places? : Found → Option (List CodeText)
  | .file _ _ => none
  | .package _ place => some [place]
  | .directories places => some places

/-- The places that a value names for the modules below the one that has it; all roots, if it is
null. -/
def Tree.placesOf? (tree : Tree σ ρ) : Value ρ → Option (List CodeText)
  | .data .null => some (tree.roots.map Path.text)
  | value => value.listed.toOption

/-- The places that the body of a found module names itself for the modules below it. -/
def Tree.redirects (tree : Tree σ ρ) (found : Found) : List (List CodeText) :=
  match found.file?.bind tree.files.get? with
  | none => []
  | some body => body.definitions.filterMap fun entry =>
      if entry.1 = placesKey then tree.placesOf? entry.2.value else none

/-- Some places hold a module, and the places of that hold a module below it, and so on along the
parts of a name.  `elsewhere` tells in which places a module has its submodules looked up besides
those in which it lies. -/
def Tree.Holds (tree : Tree σ ρ) (elsewhere : Found → List (List CodeText)) :
    (places parts : List CodeText) → Prop
  | _, [] => True
  | places, part :: below =>
    ∃ found, tree.find? part places = .ok (some found) ∧
      (below ≠ [] → found.places?.isSome ∧
        ∀ named ∈ found.places?.toList ++ elsewhere found, tree.Holds elsewhere named below)

/-- The module at a location and all above it are there. -/
def Tree.Has (tree : Tree σ ρ) (location : CodeText) : Prop :=
  tree.Holds (fun _ => []) (tree.roots.map Path.text) (way location)

/-- The module at a location and all above it are there, wherever they are looked up. -/
def Tree.HasThroughout (tree : Tree σ ρ) (location : CodeText) : Prop :=
  tree.Holds tree.redirects (tree.roots.map Path.text) (way location)

/-- Where no module file names places for its submodules, a module is there wherever it is looked up
once its files and those above it are there. -/
lemma Tree.hasThroughout_iff_has {tree : Tree σ ρ} {location : CodeText}
    (hstays : ∀ path body, tree.files.get? path = some body →
      ∀ own, (placesKey, own) ∉ body.definitions) :
    tree.HasThroughout location ↔ tree.Has location := by
  have hredirects : tree.redirects = fun _ => [] := by
    funext found
    unfold Tree.redirects
    split
    next => rfl
    next body hbody =>
      obtain ⟨path, -, hget⟩ := Option.bind_eq_some_iff.1 hbody
      refine List.filterMap_eq_nil_iff.2 fun entry hentry => if_neg fun hkey => ?_
      exact hstays path body hget entry.2 (hkey ▸ hentry)
  rw [Tree.HasThroughout, hredirects]
  rfl

/-! ## Faults -/

/-- A fault that a body raises: when it runs, or later on, when the function that it leaves for
missing names is asked. -/
def Body.Raises (body : Body σ ρ) (fault : Fault) : Prop :=
  body.raises = some fault ∨
    ∃ call, (missingKey, .callable call) ∈ body.definitions ∧
      ∃ names given world, ends (call names given) world = .error fault

/-- A fault that one of the module files raises. -/
def Tree.Raises (tree : Tree σ ρ) (fault : Fault) : Prop :=
  ∃ path body, tree.files.get? path = some body ∧ body.Raises fault

/-- A fault that says that a module is not there, and that this is the one at a location or one
above it, unless it leaves open which one it is. -/
def Blames (location : CodeText) : Fault → Prop
  | .moduleNotFound name? => ∀ name ∈ name?, name ∈ namesUpTo (nameParts location)
  | _ => False

/-- A fault that a load from a location may end with if the modules on the way are there: if it
blames something on the way, or is a load error, then a module file raises it. -/
structure Tree.Passes (tree : Tree σ ρ) (location : CodeText) (fault : Fault) : Prop where
  blamed : Blames location fault → tree.Raises fault
  missed : ∀ cause, fault = .load cause → tree.Raises fault

lemma Tree.Raises.passes {tree : Tree σ ρ} {location : CodeText} {fault : Fault}
    (hraises : tree.Raises fault) : tree.Passes location fault :=
  ⟨fun _ => hraises, fun _ _ => hraises⟩

/-! ## Attributes -/

lemma define_cons (module : Module σ ρ) (entry : CodeText × Attribute σ ρ)
    (definitions : List (CodeText × Attribute σ ρ)) :
    module.define (entry :: definitions) =
      (module.define [entry]).define definitions := rfl

/-- What a module has under a name once it has got further attributes. -/
lemma get?_define (module : Module σ ρ) (definitions : List (CodeText × Attribute σ ρ))
    (key : CodeText) :
    (module.define definitions).attributes.get? key = module.attributes.get? key ∨
      ∃ own, (key, own) ∈ definitions ∧
        (module.define definitions).attributes.get? key = some own := by
  induction definitions generalizing module with
  | nil => exact .inl rfl
  | cons entry definitions ih =>
    rcases ih (module.define [entry]) with hkept | ⟨own, hmem, hget⟩
    · by_cases hkey : key = entry.1
      · refine .inr ⟨entry.2, by rw [hkey]; exact List.mem_cons_self, ?_⟩
        rw [define_cons, hkept]
        exact (Assoc.get?_insert _ _ _ _).trans (if_pos hkey)
      · refine .inl ?_
        rw [define_cons, hkept]
        exact (Assoc.get?_insert _ _ _ _).trans (if_neg hkey)
    · exact .inr ⟨own, List.mem_cons_of_mem _ hmem, hget⟩

/-! ## What is known of modules -/

/-- An attribute names no places but those that hold what is below, if it is taken for the places of
a module. -/
def Tree.Offers (tree : Tree σ ρ) (below : List CodeText) (own : Attribute σ ρ) : Prop :=
  ∀ places, tree.placesOf? own.value = some places → tree.Holds tree.redirects places below

/-- What can be relied on of a module that is known by name, on the way to a location or not: it has
the places of its submodules, and what its function for missing names raises is raised by a module
file. -/
structure Tree.Guides (tree : Tree σ ρ) (location name : CodeText) (module : Module σ ρ) :
    Prop where
  places : ∀ below, way name ++ below = way location → below ≠ [] →
    ∃ own, module.attributes.get? placesKey = some own ∧ tree.Offers below own
  asked : ∀ call, module.attributes.get? missingKey = some (.callable call) →
    ∀ names given world fault, ends (call names given) world = .error fault → tree.Raises fault

/-- All modules that are known can be relied on. -/
def Tree.GuidesAll (tree : Tree σ ρ) (location : CodeText) (imports : Imports σ ρ) : Prop :=
  ∀ name module, imports.modules.get? name = some module → tree.Guides location name module

variable {tree : Tree σ ρ} {location name : CodeText}

lemma Tree.Guides.define {module : Module σ ρ} (hguides : tree.Guides location name module)
    {definitions : List (CodeText × Attribute σ ρ)}
    (hplaces : ∀ own, (placesKey, own) ∈ definitions →
      ∀ below, way name ++ below = way location → tree.Offers below own)
    (hasked : ∀ call, (missingKey, .callable call) ∈ definitions →
      ∀ names given world fault, ends (call names given) world = .error fault →
        tree.Raises fault) :
    tree.Guides location name (module.define definitions) where
  places below hway hne := by
    obtain ⟨own, hget, hoffers⟩ := hguides.places below hway hne
    rcases get?_define module definitions placesKey with hkept | ⟨own, hmem, hget⟩
    · exact ⟨own, hkept.trans hget, hoffers⟩
    · exact ⟨own, hget, hplaces own hmem below hway⟩
  asked call hget := by
    rcases get?_define module definitions missingKey with hkept | ⟨own, hmem, hget'⟩
    · exact hguides.asked call (hkept.symm.trans hget)
    · obtain rfl := Option.some.inj (hget'.symm.trans hget)
      exact hasked call hmem

/-! ## Steps with a module -/

/-- What a step with a module upholds. -/
abbrev Tree.UpholdsUse (tree : Tree σ ρ) (location name : CodeText) (fits : β → Prop)
    (step : Action (Use σ ρ) β) : Prop :=
  Upholds (fun use => tree.Guides location name use.module) (tree.Passes location) fits step

/-- What a step that concerns imports upholds. -/
abbrev Tree.UpholdsImports (tree : Tree σ ρ) (location : CodeText) (fits : β → Prop)
    (step : Action (Imports σ ρ) β) : Prop :=
  Upholds (tree.GuidesAll location) (tree.Passes location) fits step

lemma upholds_alter {change : Module σ ρ → Module σ ρ}
    (hchange : ∀ module, tree.Guides location name module →
      tree.Guides location name (change module)) :
    tree.UpholdsUse location name (fun _ => True) (alter change) :=
  .modify fun use => hchange use.module

lemma upholds_callWith {call : (CodeText → Option (Value ρ)) → CodeText → Action σ (Value ρ)}
    {given : CodeText}
    (hcall : ∀ names world fault, ends (call names given) world = .error fault →
      tree.Passes location fault) :
    tree.UpholdsUse location name (fun _ => True) (callWith call given) := by
  refine Upholds.get.bind fun use _ =>
    ⟨fun world hworld => ?_, fun {world fault} _ hfault => ?_, fun _ _ => trivial⟩
  · unfold leaves inWorld
    cases call use.module.names given world.world <;> exact hworld
  · apply hcall use.module.names world.world fault
    unfold ends inWorld at *
    cases hstep : call use.module.names given world.world with
    | ok value left => simp [hstep] at hfault
    | error other left => simpa [hstep] using hfault

/-- A module that something is looked up in can still be relied on: at most it has got notes, if it
has been asked for them. -/
lemma Tree.Guides.lookedAt {module : Module σ ρ} (hguides : tree.Guides location name module)
    (key : CodeText) : tree.Guides location name (module.lookedAt key) := by
  unfold Module.lookedAt
  split
  next hnotes =>
    refine hguides.define (fun own hmem => ?_) (fun call hmem => ?_)
    · exact absurd ((Prod.mk.inj (List.mem_singleton.1 hmem)).1.trans hnotes.1) (by decide)
    · exact absurd ((Prod.mk.inj (List.mem_singleton.1 hmem)).1.trans hnotes.1) (by decide)
  next => exact hguides

lemma upholds_lookUp (key : CodeText) :
    tree.UpholdsUse location name (fun _ => True) (lookUp key) := by
  refine (upholds_alter fun module hguides => hguides.lookedAt key).bind fun _ _ =>
    Upholds.get.bind fun use hguides => ?_
  dsimp only
  split
  next => exact .pure trivial
  next call _ hget =>
    have hcall := hguides.asked call hget
    exact (upholds_callWith fun names world fault hfault =>
      (hcall names key world fault hfault).passes).bind fun _ _ => .pure trivial
  next => exact .throw ⟨False.elim, nofun⟩
  next => exact .throw ⟨False.elim, nofun⟩

/-- Looking up what may not be there is looking it up, and going without it if it is not there. -/
lemma lookUp?_eq (key : CodeText) : (lookUp? key : Action (Use σ ρ) _) =
    tryCatch (some <$> lookUp key) fun
      | .noAttribute => pure none
      | fault => throw fault := by
  funext use
  show lookUp? key use = EStateM.tryCatch (EStateM.map some (lookUp key)) _ use
  unfold lookUp? EStateM.tryCatch EStateM.map
  simp only [bind, EStateM.bind, tryCatch, tryCatchThe, MonadExceptOf.tryCatch, EStateM.tryCatch]
  cases lookUp key use with
  | ok member left => rfl
  | error fault left => cases fault <;> rfl

lemma upholds_lookUp? (key : CodeText) :
    tree.UpholdsUse location name (fun _ => True) (lookUp? key) := by
  rw [lookUp?_eq, ← bind_pure_comp]
  refine ((upholds_lookUp key).bind fun _ _ => .pure trivial).tryCatch
    fun fault hpasses => ?_
  cases fault with
  | noAttribute => exact .pure trivial
  | _ => exact .throw hpasses

/-- A module that has places for its submodules gives them when they are looked up, and stays as it
is. -/
lemma lookUp_places {use : Use σ ρ} {own : Attribute σ ρ}
    (hget : use.module.attributes.get? placesKey = some own) :
    lookUp placesKey use = .ok (.held own) use := by
  have hsame : use.module.lookedAt placesKey = use.module :=
    if_neg fun hnotes => absurd hnotes.1 (by decide)
  have hmember : use.module.member? placesKey = some (.held own) :=
    Module.member?_of_get? rfl hget
  have haltered : alter (Module.lookedAt · placesKey) use = .ok () use := by
    show EStateM.Result.ok () { use with module := use.module.lookedAt placesKey } = _
    rw [hsame]
  have hgot : (get : Action (Use σ ρ) (Use σ ρ)) use = .ok use use := rfl
  rw [lookUp]
  simp only [bind, EStateM.bind, haltered, hgot, hmember]
  rfl

/-- What is found under the name for places on the way to a location. -/
def Tree.LeadsOn (tree : Tree σ ρ) (location name : CodeText)
    (member? : Option (Member σ ρ)) : Prop :=
  ∀ below, way name ++ below = way location → below ≠ [] →
    ∃ own, member? = some (.held own) ∧ tree.Offers below own

lemma upholds_lookUp_places :
    tree.UpholdsUse location name (fun member => tree.LeadsOn location name (some member))
      (lookUp placesKey) where
  keeps := (upholds_lookUp placesKey).keeps
  faults := (upholds_lookUp placesKey).faults
  values {use member} hguides hvalue below hway hne := by
    obtain ⟨own, hget, hoffers⟩ := hguides.places below hway hne
    rw [ends, lookUp_places hget] at hvalue
    exact ⟨own, congrArg some (Except.ok.inj hvalue).symm, hoffers⟩

lemma upholds_lookUp?_places :
    tree.UpholdsUse location name (tree.LeadsOn location name) (lookUp? placesKey) where
  keeps := (upholds_lookUp? placesKey).keeps
  faults := (upholds_lookUp? placesKey).faults
  values {use member?} hguides hvalue below hway hne := by
    obtain ⟨own, hget, hoffers⟩ := hguides.places below hway hne
    rw [lookUp?_eq, ends_tryCatch, ends_map, ends, lookUp_places hget] at hvalue
    exact ⟨own, (Except.ok.inj hvalue).symm, hoffers⟩

/-! ## Steps that concern imports -/

lemma Tree.GuidesAll.learn {imports : Imports σ ρ} (himports : tree.GuidesAll location imports)
    {module : Module σ ρ} (hguides : tree.Guides location name module) :
    tree.GuidesAll location (imports.learn name module) := by
  intro other known hget
  rw [Imports.learn, Assoc.get?_insert] at hget
  split at hget
  next hsame => exact hsame ▸ Option.some.inj hget ▸ hguides
  next => exact himports other known hget

lemma Tree.GuidesAll.forget {imports : Imports σ ρ} (himports : tree.GuidesAll location imports)
    (name : CodeText) : tree.GuidesAll location (imports.forget name) := by
  intro other known hget
  rw [Imports.forget, Assoc.get?_erase] at hget
  split at hget
  next => cases hget
  next => exact himports other known hget

/-- A step with a module gives back how it ends and the module that it leaves. -/
lemma upholds_useModule {fits : β → Prop} {step : Action (Use σ ρ) β}
    (hstep : tree.UpholdsUse location name fits step) {module : Module σ ρ}
    (hguides : tree.Guides location name module) :
    tree.UpholdsImports location (fun used => tree.Guides location name used.2 ∧
      (∀ fault, used.1 = .error fault → tree.Passes location fault) ∧
      ∀ value, used.1 = .ok value → fits value) (useModule module step) := by
  have hends (imports : Imports σ ρ) : ends (useModule module step) imports =
      .ok (ends step ⟨module, imports.world⟩, (leaves step ⟨module, imports.world⟩).module) := by
    unfold ends leaves useModule
    cases step ⟨module, imports.world⟩ <;> rfl
  refine ⟨fun imports himports => ?_, fun {imports fault} _ hfault => ?_,
    fun {imports used} _ hused => ?_⟩
  · unfold leaves useModule
    cases step ⟨module, imports.world⟩ <;> exact himports
  · rw [hends] at hfault
    cases hfault
  · rw [hends] at hused
    obtain rfl := Except.ok.inj hused
    exact ⟨hstep.keeps _ hguides, fun fault hfault => hstep.faults hguides hfault,
      fun value hvalue => hstep.values hguides hvalue⟩

lemma upholds_useKnown {fits : β → Prop} {step : Action (Use σ ρ) β}
    (hstep : tree.UpholdsUse location name fits step) :
    tree.UpholdsImports location fits (useKnown name step) := by
  refine Upholds.get.bind fun imports himports => ?_
  split
  next => exact .throw ⟨False.elim, nofun⟩
  next module hget =>
    refine (upholds_useModule hstep (himports name module hget)).bind fun used hused => ?_
    obtain ⟨hguides, hfaults, hvalues⟩ := hused
    exact (Upholds.modify fun imports himports => himports.learn hguides).bind fun _ _ =>
      .ofExcept hfaults hvalues

/-! ## Looking up what is below a module -/

lemma fault_of_find? {places : List CodeText} {part : CodeText} {fault : Fault}
    (hfault : tree.find? part places = .error fault) : fault = .impossiblePath := by
  induction places with
  | nil => cases hfault
  | cons place places ih =>
    rw [Tree.find?] at hfault
    split at hfault
    · split at hfault
      · exact ih hfault
      · cases hrest : tree.find? part places with
        | ok found? =>
          rw [hrest] at hfault
          rcases found? with _ | _ | _ | _ <;> cases hfault
        | error other =>
          rw [hrest] at hfault
          obtain rfl := Except.error.inj hfault
          exact ih hrest
      · cases hfault
    · exact (Except.error.inj hfault).symm

lemma fault_of_listed {value : Value ρ} {fault : Fault} (hfault : value.listed = .error fault) :
    fault = .noPlaces := by
  unfold Value.listed at hfault
  split at hfault
  case h_5 => exact (Except.error.inj hfault).symm
  all_goals cases hfault

lemma placesOf?_of_listed {value : Value ρ} {places : List CodeText}
    (hplaces : value.listed = .ok places) : tree.placesOf? value = some places := by
  unfold Tree.placesOf?
  split
  next => cases hplaces
  next => rw [hplaces, Except.toOption]

/-- On the way to a location, the places that a module names hold what is below it. -/
lemma Tree.LeadsOn.holds {member : Member σ ρ} (hleads : tree.LeadsOn location name (some member))
    {places : List CodeText} (hplaces : member.value.listed = .ok places) {below : List CodeText}
    (hway : way name ++ below = way location) : tree.Holds tree.redirects places below := by
  cases below with
  | nil => trivial
  | cons part below =>
    obtain ⟨own, hown, hoffers⟩ := hleads _ hway (List.cons_ne_nil _ _)
    obtain rfl := Option.some.inj hown
    exact hoffers places (placesOf?_of_listed hplaces)

/-- If the places of a module are null, all roots hold what is below it. -/
lemma Tree.LeadsOn.holds_roots
    (hleads : tree.LeadsOn location name (some (.held (.plain (.data .null)))))
    {below : List CodeText} (hway : way name ++ below = way location) :
    tree.Holds tree.redirects (tree.roots.map Path.text) below := by
  cases below with
  | nil => trivial
  | cons part below =>
    obtain ⟨own, hown, hoffers⟩ := hleads _ hway (List.cons_ne_nil _ _)
    obtain rfl := Member.held.inj (Option.some.inj hown)
    exact hoffers _ rfl

lemma upholds_find? {places : List CodeText} (part : CodeText) :
    tree.UpholdsImports location (fun found? => tree.find? part places = .ok found?)
      (MonadExcept.ofExcept (tree.find? part places)) :=
  .ofExcept (fun _ hfault => fault_of_find? hfault ▸ ⟨False.elim, nofun⟩) fun _ hfound => hfound

/-- What is found in places that hold it has places that hold what is below it. -/
lemma Tree.Holds.of_find? {elsewhere : Found → List (List CodeText)} {places : List CodeText}
    {part : CodeText} {below : List CodeText} (hholds : tree.Holds elsewhere places (part :: below))
    {found : Found} (hfound : tree.find? part places = .ok (some found)) (hne : below ≠ []) :
    found.places?.isSome ∧
      ∀ named ∈ found.places?.toList ++ elsewhere found, tree.Holds elsewhere named below := by
  obtain ⟨other, hother, hbelow⟩ := hholds
  obtain rfl := Option.some.inj (Except.ok.inj (hother.symm.trans hfound))
  exact hbelow hne

/-- A bare directory is looked up again in the places of the module above it. -/
lemma upholds_lookedUpAgain {part : CodeText} {around known : List CodeText}
    (haround : ∀ below, way name ++ below = way location →
      tree.Holds tree.redirects around (part :: below))
    (hknown : ∀ below, way name ++ below = way location → tree.Holds tree.redirects known below) :
    tree.UpholdsImports location
      (fun places => ∀ below, way name ++ below = way location →
        tree.Holds tree.redirects places below)
      (do
        match ← MonadExcept.ofExcept (tree.find? part around) with
        | some (.directories places) => pure places
        | _ => pure known) := by
  refine (upholds_find? part).bind fun found? hfound => ?_
  split
  next places =>
    refine .pure fun below hway => ?_
    cases below with
    | nil => trivial
    | cons next below =>
      obtain ⟨-, hnamed⟩ := (haround _ hway).of_find? hfound (List.cons_ne_nil _ _)
      exact hnamed places List.mem_cons_self
  next => exact .pure hknown

/-- The places that a module on the way names hold what is below it. -/
lemma upholds_placesIn (hhas : tree.HasThroughout location)
    {parts : List CodeText} (hfree : DotFree parts) {member : Member σ ρ}
    (hleads : tree.LeadsOn location (dotted parts) (some member)) :
    tree.UpholdsImports location (fun places => ∀ below,
        way (dotted parts) ++ below = way location → tree.Holds tree.redirects places below)
      (placesIn tree parts member) := by
  -- only a bare directory asks further up, so the induction goes up the name with it
  induction parts, member using placesIn.induct tree with
  | case1 part known =>
    rw [placesIn, pure_bind]
    refine upholds_lookedUpAgain (fun below hway => ?_) fun below hway => hleads.holds rfl hway
    rw [way_dotted hfree (List.cons_ne_nil _ _)] at hway
    rw [Tree.HasThroughout, ← hway] at hhas
    exact hhas
  | case2 part known head tail ih =>
    have hway (below : List CodeText) :
        way (dotted (part :: head :: tail)) ++ below =
          way (dotted (head :: tail)) ++ part :: below := by
      rw [way_dotted_cons hfree (List.cons_ne_nil _ _), List.append_assoc, List.singleton_append]
    rw [placesIn]
    refine (upholds_useKnown upholds_lookUp_places).bind fun member hmember => ?_
    refine (ih member hfree.tail hmember).bind fun around haround => ?_
    refine upholds_lookedUpAgain (fun below hbelow => ?_) fun below hbelow =>
      hleads.holds rfl hbelow
    exact haround _ ((hway below).symm.trans hbelow)
  | case3 parts member hother =>
    rw [placesIn.eq_3 tree parts member hother]
    exact .ofExcept (fun _ hfault => fault_of_listed hfault ▸ ⟨False.elim, nofun⟩)
      fun _ hplaces _ hway => hleads.holds hplaces hway

/-- What is found on the way to a location has places that hold what is below it. -/
def Tree.OnWay (tree : Tree σ ρ) (location name : CodeText) (found : Found) : Prop :=
  ∀ below, way name ++ below = way location → below ≠ [] →
    found.places?.isSome ∧
      ∀ named ∈ found.places?.toList ++ tree.redirects found,
        tree.Holds tree.redirects named below

/-- To miss a module that is not on the way to a location is none of its faults. -/
lemma passes_missing {parts : List CodeText} (hfree : DotFree parts) (hne : parts ≠ [])
    (hoff : ∀ below, way (dotted parts) ++ below ≠ way location) :
    tree.Passes location (.moduleNotFound (some (dotted parts))) where
  blamed hblames := by
    obtain ⟨below, hway⟩ := exists_way_of_mem_namesUpTo hfree hne (hblames _ rfl)
    exact absurd hway (hoff below)
  missed := nofun

/-- Where the modules on the way to a location are there, only others can be missing. -/
lemma passes_missing_of_find? {part : CodeText} {above places : List CodeText}
    (hfree : DotFree (part :: above))
    (hholds : ∀ below, way (dotted (part :: above)) ++ below = way location →
      tree.Holds tree.redirects places (part :: below))
    (hfound : tree.find? part places = .ok none) :
    tree.Passes location (.moduleNotFound (some (dotted (part :: above)))) := by
  refine passes_missing hfree (List.cons_ne_nil _ _) fun below hway => ?_
  obtain ⟨found, hother, -⟩ := hholds below hway
  rw [hfound] at hother
  cases hother

lemma onWay_of_find? {part : CodeText} {places : List CodeText} {found : Found}
    (hholds : ∀ below, way name ++ below = way location →
      tree.Holds tree.redirects places (part :: below))
    (hfound : tree.find? part places = .ok (some found)) : tree.OnWay location name found :=
  fun below hway hne => (hholds below hway).of_find? hfound hne

/-- On the way to a location, a module is what the places of the one above it hold, whatever that
one says of where it comes from itself. -/
lemma upholds_locateIn (hhas : tree.HasThroughout location) {part : CodeText}
    {above : List CodeText} (hfree : DotFree (part :: above)) (origin : Member σ ρ)
    {places : List CodeText}
    (hholds : ∀ below, way (dotted (part :: above)) ++ below = way location →
      tree.Holds tree.redirects places (part :: below)) :
    tree.UpholdsImports location (tree.OnWay location (dotted (part :: above))) (do
      match ← MonadExcept.ofExcept (tree.find? part places) with
      | none => throw (.moduleNotFound (some (dotted (part :: above))))
      | some found =>
        if found.file?.isNone then
          discard (placesIn tree above (← useKnown (dotted above) (lookUp placesKey)))
        match origin with
        | .held (.plain (.origin _ _)) => return found
        | _ => if origin.isBlank then return found else throw .noAttribute) := by
  refine (upholds_find? part).bind fun found? hfound => ?_
  split
  next => exact .throw (passes_missing_of_find? hfree hholds hfound)
  next found =>
    have hon : tree.OnWay location (dotted (part :: above)) found := onWay_of_find? hholds hfound
    have hend : tree.UpholdsImports location (tree.OnWay location (dotted (part :: above)))
        (match origin with
        | .held (.plain (.origin _ _)) => pure found
        | _ => if origin.isBlank then pure found else throw .noAttribute) := by
      split
      next => exact .pure hon
      next =>
        split
        next => exact .pure hon
        next => exact .throw ⟨False.elim, nofun⟩
    dsimp only
    by_cases hbare : found.file?.isNone = true
    · rw [if_pos hbare]
      refine (upholds_useKnown upholds_lookUp_places).bind fun _ hmember => ?_
      exact (upholds_placesIn hhas hfree.tail hmember).discard.bind fun _ _ => hend
    · rw [if_neg hbare]
      exact hend

/-- A module is looked up where those above it are there. -/
lemma upholds_locate (hhas : tree.HasThroughout location) {part : CodeText} {above : List CodeText}
    (hfree : DotFree (part :: above)) :
    tree.UpholdsImports location (tree.OnWay location (dotted (part :: above)))
      (locate tree part above) := by
  unfold locate
  dsimp only
  split
  next hnil =>
    have hholds : ∀ below, way (dotted (part :: above)) ++ below = way location →
        tree.Holds tree.redirects (tree.roots.map Path.text) (part :: below) := by
      intro below hway
      rw [way_dotted hfree (List.cons_ne_nil _ _), hnil] at hway
      rw [Tree.HasThroughout, ← hway] at hhas
      exact hhas
    refine (upholds_find? part).bind fun found? hfound => ?_
    split
    next found => exact .pure (onWay_of_find? hholds hfound)
    next => exact .throw (passes_missing_of_find? hfree hholds hfound)
  next hne =>
    have hway (below : List CodeText) :
        way (dotted (part :: above)) ++ below = way (dotted above) ++ part :: below := by
      rw [way_dotted_cons hfree hne, List.append_assoc, List.singleton_append]
    refine (upholds_useKnown upholds_lookUp?_places).bind fun member? hmember => ?_
    split
    next =>
      refine .throw (passes_missing hfree (List.cons_ne_nil _ _) fun below hbelow => ?_)
      obtain ⟨own, hown, -⟩ :=
        hmember _ ((hway below).symm.trans hbelow) (List.cons_ne_nil part below)
      cases hown
    next member =>
      refine (upholds_useKnown (upholds_lookUp originKey)).bind fun origin _ => ?_
      split
      next =>
        rw [pure_bind]
        exact upholds_locateIn hhas hfree origin fun below hbelow =>
          hmember.holds_roots ((hway below).symm.trans hbelow)
      next =>
        refine (upholds_placesIn hhas hfree.tail hmember).bind fun places hplaces => ?_
        exact upholds_locateIn hhas hfree origin fun below hbelow =>
          hplaces _ ((hway below).symm.trans hbelow)

/-! ## Importing -/

/-- What cannot be looked into names no places. -/
lemma Tree.offers_other (tree : Tree σ ρ) (below : List CodeText) :
    tree.Offers below (.plain .other : Attribute σ ρ) :=
  nofun

lemma upholds_assign (key : CodeText) :
    tree.UpholdsUse location name (fun _ => True) (assign key .other) := by
  unfold assign
  split
  next => exact .throw ⟨False.elim, nofun⟩
  next =>
    split
    next => exact .throw ⟨False.elim, nofun⟩
    next =>
      refine upholds_alter fun module hguides =>
        hguides.define (fun own hmem below _ => ?_) fun call hmem => ?_
      · rw [(Prod.mk.inj (List.mem_singleton.1 hmem)).2]
        exact tree.offers_other below
      · cases (Prod.mk.inj (List.mem_singleton.1 hmem)).2

/-- A module above that takes no attribute is left as it is. -/
lemma attach_eq (part : CodeText) (above : List CodeText) :
    (attach part above : Action (Imports σ ρ) Unit) =
      if above = [] then pure ()
      else tryCatch (useKnown (dotted above) (assign part .other)) fun
        | .noAttribute => pure ()
        | fault => throw fault := by
  unfold attach
  split
  next => rfl
  next =>
    funext imports
    simp only [bind, EStateM.bind, tryCatch, tryCatchThe, MonadExceptOf.tryCatch, EStateM.tryCatch]
    cases useKnown (dotted above) (assign part .other) imports with
    | ok value left => rfl
    | error fault left => cases fault <;> rfl

lemma upholds_attach (part : CodeText) (above : List CodeText) :
    tree.UpholdsImports location (fun _ => True) (attach part above) := by
  rw [attach_eq]
  split
  next => exact .pure trivial
  next =>
    refine (upholds_useKnown (upholds_assign part)).tryCatch fun fault hpasses => ?_
    cases fault with
    | noAttribute => exact .pure trivial
    | _ => exact .throw hpasses

/-- A module that has just been found names the places that go with what was found. -/
lemma exists_places {found : Found} {places : List CodeText} (hplaces : found.places? = some places)
    (name? package? : Option CodeText) :
    ∃ own : Attribute σ ρ,
      (Module.define {} (found.attributes name? package?)).attributes.get? placesKey = some own ∧
        own.value.listed = .ok places := by
  cases found with
  | file path place => cases hplaces
  | package path place =>
    refine ⟨.plain (.data (.arr [.str place])), rfl, ?_⟩
    show Except.ok [place] = _
    rw [Option.some.inj hplaces]
  | directories known =>
    exact ⟨.plain (.places known), rfl, congrArg Except.ok (Option.some.inj hplaces)⟩

/-- No module has anything to call before its body runs. -/
lemma exists_plain_of_mem_attributes {found : Found} {name? package? : Option CodeText}
    {entry : CodeText × Attribute σ ρ} (hmem : entry ∈ found.attributes name? package?) :
    ∃ value, entry.2 = .plain value := by
  have hall : (found.attributes name? package?).all fun entry : CodeText × Attribute σ ρ =>
      match entry.2 with
      | .plain _ => true
      | .callable _ => false := by
    cases found <;> rfl
  have hplain := List.all_eq_true.1 hall entry hmem
  cases hvalue : entry.2 with
  | plain value => exact ⟨value, rfl⟩
  | callable call =>
    rw [hvalue] at hplain
    cases hplain

/-- A module that has just been found can be relied on. -/
lemma Tree.OnWay.guides {found : Found} (hon : tree.OnWay location name found)
    (name? package? : Option CodeText) :
    tree.Guides location name (Module.define {} (found.attributes name? package?)) where
  places below hway hne := by
    obtain ⟨hsome, hnamed⟩ := hon below hway hne
    obtain ⟨places, hplaces⟩ := Option.isSome_iff_exists.1 hsome
    obtain ⟨own, hget, hlisted⟩ := exists_places hplaces name? package?
    refine ⟨own, hget, fun others hothers => ?_⟩
    obtain rfl := Option.some.inj ((placesOf?_of_listed hlisted).symm.trans hothers)
    exact hnamed _ (List.mem_append_left _ (by simp [hplaces]))
  asked call hget := by
    rcases get?_define {} (found.attributes name? package?) missingKey
      with hkept | ⟨own, hmem, hget'⟩
    · rw [hkept] at hget
      cases hget
    · obtain rfl := Option.some.inj (hget'.symm.trans hget)
      obtain ⟨value, hvalue⟩ := exists_plain_of_mem_attributes hmem
      cases hvalue

/-- A module can be relied on when its body has run: a body that names places itself names such as
hold what is below the module. -/
lemma Tree.Guides.defineBody {module : Module σ ρ} (hguides : tree.Guides location name module)
    {found : Found} (hon : tree.OnWay location name found) {path : Path}
    (hfile : found.file? = some path) {body : Body σ ρ}
    (hbody : tree.files.get? path = some body) :
    tree.Guides location name (module.define body.attributes) := by
  refine hguides.define (fun own hmem below hway => ?_) fun call hmem => ?_
  · rcases List.mem_append.1 hmem with himport | hdefinition
    · obtain ⟨_, _, himport⟩ := List.mem_map.1 himport
      rw [← (Prod.mk.inj himport).2]
      exact tree.offers_other below
    · -- the body moves the submodules itself: these are the places that `redirects` tells of
      intro places hplaces
      cases below with
      | nil => trivial
      | cons part below =>
        refine (hon _ hway (List.cons_ne_nil _ _)).2 places (List.mem_append_right _ ?_)
        rw [Tree.redirects, hfile, Option.bind_some, hbody]
        exact List.mem_filterMap.2 ⟨_, hdefinition, (if_pos rfl).trans hplaces⟩
  · rcases List.mem_append.1 hmem with himport | hdefinition
    · obtain ⟨_, _, himport⟩ := List.mem_map.1 himport
      cases (Prod.mk.inj himport).2
    · exact fun names given world fault hfault =>
        ⟨path, body, hbody, .inr ⟨call, hdefinition, names, given, world, hfault⟩⟩

lemma upholds_raise {P : Imports σ ρ → Prop} {allowed : Fault → Prop} {body : Body σ ρ}
    (hallowed : ∀ fault, body.raises = some fault → allowed fault) :
    Upholds P allowed (fun _ => True) body.raise := by
  unfold Body.raise
  split
  next fault hraises => exact .throw (hallowed fault hraises)
  next => exact .pure trivial

lemma upholds_noteExecuted {allowed : Fault → Prop} (path : Path) :
    Upholds (tree.GuidesAll location) allowed (fun _ => True) (modify (·.noteExecuted path)) :=
  .modify fun _ himports => himports

/-- A module is forgotten when its body fails, and the fault is passed on. -/
lemma upholds_giveUp (name : CodeText) {fault : Fault} (hpasses : tree.Passes location fault) :
    tree.UpholdsImports location (fun _ : Unit => True) (do
      modify (·.forget name)
      throw fault) :=
  (Upholds.modify fun _ himports => himports.forget name).bind fun _ _ => .throw hpasses

mutual

/-- Importing a module by the parts of its name. -/
theorem upholds_importParts (hhas : tree.HasThroughout location) (idle : List CodeText) :
    (parts : List CodeText) → DotFree parts →
      tree.UpholdsImports location (fun _ => True) (importParts tree idle parts)
  | [], _ => by
    rw [importParts]
    exact .pure trivial
  | part :: above, hfree => by
    rw [importParts]
    refine Upholds.get.bind fun imports _ => ?_
    split
    next => exact .pure trivial
    next =>
      refine (upholds_importParts hhas idle above hfree.tail).bind fun _ _ => ?_
      -- the modules above may have been forgotten by now: nothing is used of them but `GuidesAll`
      refine Upholds.get.bind fun imports _ => ?_
      split
      next => exact .pure trivial
      next =>
        refine (upholds_locate hhas hfree).bind fun found hon => ?_
        dsimp only
        refine (Upholds.modify fun imports himports => himports.learn (hon.guides _ _)).bind
          fun _ _ => ?_
        split
        next path hfile =>
          exact (upholds_execute hhas idle hfile hon).bind fun _ _ => upholds_attach part above
        next => exact upholds_attach part above
termination_by parts => (idle.length, 0, parts.length)
decreasing_by
  · exact Prod.Lex.right _ (Prod.Lex.right _ (Nat.lt_succ_self _))
  · exact Prod.Lex.right _ (Prod.Lex.right _ (Nat.succ_pos _))

/-- Executing the file of a module that was found. -/
theorem upholds_execute (hhas : tree.HasThroughout location) (idle : List CodeText)
    {name : CodeText} {found : Found} {path : Path} (hfile : found.file? = some path)
    (hon : tree.OnWay location name found) :
    tree.UpholdsImports location (fun _ => True) (execute tree idle name path) := by
  rw [execute]
  split
  next => exact .pure trivial
  next body hbody =>
    split
    next hidle =>
      have hshorter : (idle.erase name).length < idle.length := by
        rw [List.length_erase_of_mem hidle]
        exact Nat.sub_lt (List.length_pos_of_mem hidle) Nat.one_pos
      have hrun : tree.UpholdsImports location (fun _ => True) (do
          modify (·.noteExecuted path)
          importAll tree (idle.erase name) body.imports
          body.raise) :=
        (upholds_noteExecuted path).bind fun _ _ =>
          (upholds_importAll hhas (idle.erase name) body.imports).bind fun _ _ =>
            upholds_raise fun fault hraises =>
              Tree.Raises.passes ⟨path, body, hbody, .inl hraises⟩
      refine (Upholds.tryCatch ?_ fun fault hpasses => upholds_giveUp name hpasses).bind fun _ _ =>
        upholds_useKnown (upholds_alter fun module hguides => hguides.defineBody hon hfile hbody)
      dsimp only
      split
      next => exact hrun
      next => exact .throw_bind ⟨False.elim, nofun⟩
    next => exact .pure trivial
termination_by (idle.length, 0, 0)
decreasing_by
  exact Prod.Lex.left _ _ hshorter

/-- Importing what a body asks for. -/
theorem upholds_importAll (hhas : tree.HasThroughout location) (idle : List CodeText) :
    (names : List CodeText) →
      tree.UpholdsImports location (fun _ => True) (importAll tree idle names)
  | [] => by
    rw [importAll]
    exact .pure trivial
  | name :: names => by
    rw [importAll]
    exact (upholds_importParts hhas idle _ (dotFree_nameParts name)).bind fun _ _ =>
      (upholds_importParts hhas idle _ (dotFree_topmost name)).bind fun _ _ =>
        upholds_importAll hhas idle names
termination_by names => (idle.length, 1, names.length)
decreasing_by
  · exact Prod.Lex.right _ (Prod.Lex.left _ _ Nat.one_pos)
  · exact Prod.Lex.right _ (Prod.Lex.left _ _ Nat.one_pos)
  · exact Prod.Lex.right _ (Prod.Lex.right _ (Nat.lt_succ_self _))

end

end TypeTest.Modules
