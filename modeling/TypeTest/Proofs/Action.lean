import Mathlib.Tactic.Lemma
import TypeTest.Checker

/-!
# How steps end, and what they leave behind

A step of a collaborator ends with a value or with a fault, and either way it leaves a world
behind.  `ends` and `leaves` take the two apart, so that a fact about the one need not speak of
the other, and each has one equation for a sequence of two steps.

What is said about runs of several steps is built from eight properties of steps.  All but
`Gives`, which is for single answers, are inherited by sequences:

* `Keeps`: a property of the world survives the step, however the step ends;
* `FaultsOnly`: the only faults are those of a given class;
* `Returns`: the step always ends with some value;
* `Gives`: the step ends with a given value, whatever the world is;
* `Alike`: the step always ends as another one does;
* `Uniform`: in all worlds with a property the step ends the same way, and the property survives;
* `Upholds`: in all worlds with a property the step has allowed faults and fitting values only, and
  the property survives;
* `Steady`: the step moves the world forward, and asked again later it ends the same way.

What is inherited by sequences is called `Compositional`, and what a program does to it is then
shown once for all of these properties.  As `Alike` compares two steps, this is a notion about
relations; a property of single steps is a relation that ignores its second side.  `Upholds` stands
apart: its sequences need to know more of the second step only for the values that fit.

The last of the properties needs to know what *later* means.  A `Course` of worlds is any order in
which they may follow each other; nothing else is assumed of the worlds, so a collaborator may log,
cache or decide an answer at the moment it is first asked for it.
-/

namespace TypeTest

namespace Action

variable {σ ρ β γ : Type}

/-- How a step ends. -/
def ends (step : Action σ β) (world : σ) : Except Fault β :=
  match step world with
  | .ok value _ => .ok value
  | .error fault _ => .error fault

/-- The world that a step leaves behind, however it ends. -/
def leaves (step : Action σ β) (world : σ) : σ :=
  match step world with
  | .ok _ left => left
  | .error _ left => left

lemma eq_ok_iff {step : Action σ β} {world left : σ} {value : β} :
    step world = .ok value left ↔ ends step world = .ok value ∧ leaves step world = left := by
  unfold ends leaves
  cases step world with
  | ok other after => simp
  | error fault after => simp

lemma eq_error_iff {step : Action σ β} {world left : σ} {fault : Fault} :
    step world = .error fault left ↔
      ends step world = .error fault ∧ leaves step world = left := by
  unfold ends leaves
  cases step world with
  | ok value after => simp
  | error other after => simp

@[simp] lemma ends_pure (value : β) (world : σ) :
    ends (pure value : Action σ β) world = .ok value := rfl

lemma leaves_pure (value : β) (world : σ) : leaves (pure value : Action σ β) world = world := rfl

/-- A sequence of steps goes on after a value and stops at a fault. -/
lemma ends_bind (step : Action σ β) (next : β → Action σ γ) (world : σ) :
    ends (step >>= next) world =
      match ends step world with
      | .ok value => ends (next value) (leaves step world)
      | .error fault => .error fault := by
  unfold ends leaves
  show (match EStateM.bind step next world with
    | .ok value _ => _ | .error fault _ => _) = _
  unfold EStateM.bind
  cases step world with
  | ok value left => rfl
  | error fault left => rfl

lemma leaves_bind (step : Action σ β) (next : β → Action σ γ) (world : σ) :
    leaves (step >>= next) world =
      match ends step world with
      | .ok value => leaves (next value) (leaves step world)
      | .error _ => leaves step world := by
  unfold ends leaves
  show (match EStateM.bind step next world with
    | .ok _ left => left | .error _ left => left) = _
  unfold EStateM.bind
  cases step world with
  | ok value left => rfl
  | error fault left => rfl

/-- A sequence ends with a value only if both of its steps do. -/
lemma ends_bind_eq_ok_iff {step : Action σ β} {next : β → Action σ γ} {world : σ} {result : γ} :
    ends (step >>= next) world = .ok result ↔
      ∃ value, ends step world = .ok value ∧
        ends (next value) (leaves step world) = .ok result := by
  rw [ends_bind]
  cases ends step world with
  | ok value => simp
  | error fault => simp

lemma bind_eq_ok_iff {step : Action σ β} {next : β → Action σ γ} {world left : σ} {result : γ} :
    (step >>= next) world = .ok result left ↔
      ∃ value middle, step world = .ok value middle ∧ next value middle = .ok result left := by
  show EStateM.bind step next world = _ ↔ _
  unfold EStateM.bind
  constructor
  · intro hbind
    cases hstep : step world with
    | ok value middle =>
      rw [hstep] at hbind
      exact ⟨value, middle, rfl, hbind⟩
    | error fault middle =>
      rw [hstep] at hbind
      cases hbind
  · rintro ⟨value, middle, hstep, hnext⟩
    rw [hstep]
    exact hnext

/-- A step that looks at the world goes on from it. -/
lemma get_bind (next : σ → Action σ β) (world : σ) : (get >>= next) world = next world world := rfl

/-- After a value a sequence goes on from the world that was left. -/
lemma ends_bind_of_ok {step : Action σ β} {world : σ} {value : β}
    (hvalue : ends step world = .ok value) (next : β → Action σ γ) :
    ends (step >>= next) world = ends (next value) (leaves step world) := by
  rw [ends_bind, hvalue]

lemma leaves_bind_of_ok {step : Action σ β} {world : σ} {value : β}
    (hvalue : ends step world = .ok value) (next : β → Action σ γ) :
    leaves (step >>= next) world = leaves (next value) (leaves step world) := by
  rw [leaves_bind, hvalue]

/-- A fault is where a sequence ends. -/
lemma ends_bind_of_error {step : Action σ β} {world : σ} {fault : Fault}
    (hfault : ends step world = .error fault) (next : β → Action σ γ) :
    ends (step >>= next) world = .error fault := by
  rw [ends_bind, hfault]

lemma ends_map (f : β → γ) (step : Action σ β) (world : σ) :
    ends (f <$> step) world = (ends step world).map f := by
  rw [← bind_pure_comp, ends_bind]
  cases ends step world with
  | ok value => rfl
  | error fault => rfl

lemma leaves_map (f : β → γ) (step : Action σ β) (world : σ) :
    leaves (f <$> step) world = leaves step world := by
  rw [← bind_pure_comp, leaves_bind]
  cases ends step world with
  | ok value => rfl
  | error fault => rfl

/-- A fault that is caught is handled in the world that the step left. -/
lemma ends_tryCatch (step : Action σ β) (handle : Fault → Action σ β) (world : σ) :
    ends (tryCatch step handle) world =
      match ends step world with
      | .ok value => .ok value
      | .error fault => ends (handle fault) (leaves step world) := by
  unfold ends leaves
  show (match EStateM.tryCatch step handle world with
    | .ok value _ => _ | .error fault _ => _) = _
  unfold EStateM.tryCatch
  cases step world with
  | ok value left => rfl
  | error fault left => rfl

lemma leaves_tryCatch (step : Action σ β) (handle : Fault → Action σ β) (world : σ) :
    leaves (tryCatch step handle) world =
      match ends step world with
      | .ok _ => leaves step world
      | .error fault => leaves (handle fault) (leaves step world) := by
  unfold ends leaves
  show (match EStateM.tryCatch step handle world with
    | .ok _ left => left | .error _ left => left) = _
  unfold EStateM.tryCatch
  cases step world with
  | ok value left => rfl
  | error fault left => rfl

/-! ## What sequences inherit -/

/-- A relation between steps that their sequences inherit. -/
structure Compositional (R : ∀ β : Type, Action σ β → Action ρ β → Prop) : Prop where
  pure : ∀ {β : Type} (value : β), R β (pure value) (pure value)
  bind : ∀ {β γ : Type} {step : Action σ β} {other : Action ρ β} {next : β → Action σ γ}
    {next' : β → Action ρ γ}, R β step other → (∀ value, R γ (next value) (next' value)) →
      R γ (step >>= next) (other >>= next')

/-! ## What a step keeps -/

/-- A property of the world that holds after a step if it held before. -/
def Keeps (P : σ → Prop) (step : Action σ β) : Prop :=
  ∀ world, P world → P (leaves step world)

lemma Keeps.pure {P : σ → Prop} (value : β) : Keeps P (pure value : Action σ β) :=
  fun _ holds => holds

lemma Keeps.throw {P : σ → Prop} (fault : Fault) : Keeps P (throw fault : Action σ β) :=
  fun _ holds => holds

lemma Keeps.bind {P : σ → Prop} {step : Action σ β} {next : β → Action σ γ}
    (hstep : Keeps P step) (hnext : ∀ value, Keeps P (next value)) :
    Keeps P (step >>= next) := by
  intro world holds
  have hmid : P (leaves step world) := hstep world holds
  rw [leaves_bind]
  cases ends step world with
  | ok value => exact hnext value _ hmid
  | error fault => exact hmid

lemma Keeps.compositional (P : σ → Prop) :
    Compositional fun _ (step : Action σ _) (_ : Action σ _) => Keeps P step where
  pure := .pure
  bind := .bind

/-! ## Which faults a step may have -/

/-- Every fault of a step is of a given class. -/
def FaultsOnly (allowed : Fault → Prop) (step : Action σ β) : Prop :=
  ∀ world fault, ends step world = .error fault → allowed fault

lemma FaultsOnly.pure {allowed : Fault → Prop} (value : β) :
    FaultsOnly allowed (pure value : Action σ β) := by
  intro world fault hfault
  cases hfault

lemma FaultsOnly.throw {allowed : Fault → Prop} {fault : Fault} (hallowed : allowed fault) :
    FaultsOnly allowed (throw fault : Action σ β) := by
  intro world other hfault
  obtain rfl := Except.error.inj hfault
  exact hallowed

lemma FaultsOnly.bind {allowed : Fault → Prop} {step : Action σ β} {next : β → Action σ γ}
    (hstep : FaultsOnly allowed step) (hnext : ∀ value, FaultsOnly allowed (next value)) :
    FaultsOnly allowed (step >>= next) := by
  intro world fault hfault
  rw [ends_bind] at hfault
  cases hends : ends step world with
  | ok value =>
    rw [hends] at hfault
    exact hnext value _ fault hfault
  | error other =>
    rw [hends] at hfault
    obtain rfl := Except.error.inj hfault
    exact hstep world _ hends

lemma FaultsOnly.compositional (allowed : Fault → Prop) :
    Compositional fun _ (step : Action σ _) (_ : Action σ _) => FaultsOnly allowed step where
  pure := .pure
  bind := .bind

/-! ## Steps without faults -/

/-- A step ends with a value in every world. -/
def Returns (step : Action σ β) : Prop :=
  ∀ world, ∃ value, ends step world = .ok value

lemma Returns.pure (value : β) : Returns (pure value : Action σ β) :=
  fun _ => ⟨value, rfl⟩

lemma Returns.bind {step : Action σ β} {next : β → Action σ γ} (hstep : Returns step)
    (hnext : ∀ value, Returns (next value)) : Returns (step >>= next) := by
  intro world
  obtain ⟨value, hvalue⟩ := hstep world
  obtain ⟨result, hresult⟩ := hnext value (leaves step world)
  exact ⟨result, ends_bind_eq_ok_iff.2 ⟨value, hvalue, hresult⟩⟩

lemma Returns.faultsOnly {allowed : Fault → Prop} {step : Action σ β} (hstep : Returns step) :
    FaultsOnly allowed step := by
  intro world fault hfault
  obtain ⟨value, hvalue⟩ := hstep world
  rw [hvalue] at hfault
  cases hfault

/-! ## Steps with one value -/

/-- A step ends with the same value in every world. -/
def Gives (step : Action σ β) (value : β) : Prop :=
  ∀ world, ends step world = .ok value

lemma Gives.pure (value : β) : Gives (pure value : Action σ β) value :=
  fun _ => rfl

/-! ## Steps that end alike -/

/-- Two steps, which may be taken in worlds of different kinds, always end the same way. -/
def Alike (step : Action σ β) (other : Action ρ β) : Prop :=
  ∀ world world', ends step world = ends other world'

lemma Alike.pure (value : β) : Alike (pure value : Action σ β) (pure value : Action ρ β) :=
  fun _ _ => rfl

lemma Alike.throw (fault : Fault) : Alike (throw fault : Action σ β) (throw fault : Action ρ β) :=
  fun _ _ => rfl

lemma Alike.bind {step : Action σ β} {other : Action ρ β} {next : β → Action σ γ}
    {next' : β → Action ρ γ} (hstep : Alike step other)
    (hnext : ∀ value, Alike (next value) (next' value)) :
    Alike (step >>= next) (other >>= next') := by
  intro world world'
  rw [ends_bind, ends_bind, hstep world world']
  cases ends other world' with
  | ok value => exact hnext value _ _
  | error fault => rfl

lemma Alike.compositional :
    Compositional fun _ (step : Action σ _) (other : Action ρ _) => Alike step other where
  pure := .pure
  bind := .bind

lemma Alike.symm {step : Action σ β} {other : Action ρ β} (halike : Alike step other) :
    Alike other step :=
  fun world world' => (halike world' world).symm

lemma Alike.trans {step middle : Action σ β} {other : Action ρ β} (hfirst : Alike step middle)
    (hsecond : Alike middle other) : Alike step other :=
  fun world world' => (hfirst world world).trans (hsecond world world')

/-- Two steps with one and the same value end alike. -/
lemma Gives.alike {step : Action σ β} {other : Action ρ β} {value : β} (hstep : Gives step value)
    (hother : Gives other value) : Alike step other := by
  intro world world'
  rw [hstep world, hother world']

/-! ## Steps that end in one way -/

/-- In all worlds with a property a step ends the same way, and the property survives it. -/
structure Uniform (P : σ → Prop) (step : Action σ β) : Prop where
  keeps : Keeps P step
  same : ∀ {world other}, P world → P other → ends step world = ends step other

lemma Uniform.pure {P : σ → Prop} (value : β) : Uniform P (pure value : Action σ β) where
  keeps := .pure value
  same _ _ := rfl

lemma Uniform.throw {P : σ → Prop} (fault : Fault) : Uniform P (throw fault : Action σ β) where
  keeps := .throw fault
  same _ _ := rfl

lemma Uniform.bind {P : σ → Prop} {step : Action σ β} {next : β → Action σ γ}
    (hstep : Uniform P step) (hnext : ∀ value, Uniform P (next value)) :
    Uniform P (step >>= next) where
  keeps := hstep.keeps.bind fun value => (hnext value).keeps
  same := by
    intro world other hworld hother
    have hmid : P (leaves step world) := hstep.keeps world hworld
    have hmid' : P (leaves step other) := hstep.keeps other hother
    rw [ends_bind, ends_bind, hstep.same hworld hother]
    cases ends step other with
    | ok value => exact (hnext value).same hmid hmid'
    | error fault => rfl

lemma Uniform.compositional (P : σ → Prop) :
    Compositional fun _ (step : Action σ _) (_ : Action σ _) => Uniform P step where
  pure := .pure
  bind := .bind

/-! ## What a step upholds -/

/-- In all worlds with a property a step keeps the property, has none but allowed faults, and gives
none but fitting values. -/
structure Upholds (P : σ → Prop) (allowed : Fault → Prop) (fits : β → Prop) (step : Action σ β) :
    Prop where
  keeps : Keeps P step
  faults : ∀ {world fault}, P world → ends step world = .error fault → allowed fault
  values : ∀ {world value}, P world → ends step world = .ok value → fits value

section Upholds

variable {P : σ → Prop} {allowed allowed' : Fault → Prop} {fits fits' : β → Prop}

lemma Upholds.pure {value : β} (hfits : fits value) :
    Upholds P allowed fits (pure value : Action σ β) where
  keeps := .pure value
  faults _ hfault := by cases hfault
  values _ hvalue := Except.ok.inj hvalue ▸ hfits

lemma Upholds.throw {fault : Fault} (hallowed : allowed fault) :
    Upholds P allowed fits (throw fault : Action σ β) where
  keeps := .throw fault
  faults _ hfault := Except.error.inj hfault ▸ hallowed
  values _ hvalue := by cases hvalue

lemma Upholds.bind {step : Action σ β} {next : β → Action σ γ} {fits' : γ → Prop}
    (hstep : Upholds P allowed fits step)
    (hnext : ∀ value, fits value → Upholds P allowed fits' (next value)) :
    Upholds P allowed fits' (step >>= next) where
  keeps world hworld := by
    have hmid : P (leaves step world) := hstep.keeps world hworld
    rw [leaves_bind]
    cases hends : ends step world with
    | ok value => exact (hnext value (hstep.values hworld hends)).keeps _ hmid
    | error fault => exact hmid
  faults {world fault} hworld hfault := by
    have hmid : P (leaves step world) := hstep.keeps world hworld
    cases hends : ends step world with
    | ok value =>
      rw [ends_bind_of_ok hends] at hfault
      exact (hnext value (hstep.values hworld hends)).faults hmid hfault
    | error other =>
      rw [ends_bind_of_error hends] at hfault
      exact Except.error.inj hfault ▸ hstep.faults hworld hends
  values {world result} hworld hresult := by
    obtain ⟨value, hends, hends'⟩ := ends_bind_eq_ok_iff.1 hresult
    exact (hnext value (hstep.values hworld hends)).values (hstep.keeps world hworld) hends'

/-- Nothing comes after a fault. -/
lemma Upholds.throw_bind {fault : Fault} {next : γ → Action σ β} (hallowed : allowed fault) :
    Upholds P allowed fits (MonadExcept.throw fault >>= next) := by
  have hthrow : Upholds P allowed (fun _ => False) (MonadExcept.throw fault : Action σ γ) :=
    .throw hallowed
  exact hthrow.bind fun _ hfalse => hfalse.elim

lemma Upholds.mono {step : Action σ β} (hstep : Upholds P allowed fits step)
    (hallowed : ∀ fault, allowed fault → allowed' fault)
    (hfits : ∀ value, fits value → fits' value) : Upholds P allowed' fits' step where
  keeps := hstep.keeps
  faults hworld hfault := hallowed _ (hstep.faults hworld hfault)
  values hworld hvalue := hfits _ (hstep.values hworld hvalue)

lemma Upholds.discard {step : Action σ β} (hstep : Upholds P allowed fits step) :
    Upholds P allowed (fun _ => True) (discard step) := by
  have hstep' : Upholds P allowed (fun _ => True) (step >>= fun _ => Pure.pure ()) :=
    hstep.bind fun _ _ => .pure trivial
  rwa [bind_pure_comp] at hstep'

lemma Upholds.get : Upholds P allowed P (get : Action σ σ) where
  keeps _ hworld := hworld
  faults _ hfault := by cases hfault
  values hworld hvalue := Except.ok.inj hvalue ▸ hworld

lemma Upholds.modify {change : σ → σ} (hchange : ∀ world, P world → P (change world)) :
    Upholds P allowed (fun _ => True) (modify change : Action σ PUnit) where
  keeps world hworld := hchange world hworld
  faults _ hfault := by cases hfault
  values _ _ := trivial

lemma Upholds.ofExcept {result : Except Fault β}
    (hfault : ∀ fault, result = .error fault → allowed fault)
    (hvalue : ∀ value, result = .ok value → fits value) :
    Upholds P allowed fits (MonadExcept.ofExcept result : Action σ β) := by
  cases result with
  | ok value => exact .pure (hvalue value rfl)
  | error fault => exact .throw (hfault fault rfl)

/-- Only the faults of the handler are left. -/
lemma Upholds.tryCatch {step : Action σ β} {handle : Fault → Action σ β}
    (hstep : Upholds P allowed fits step)
    (hhandle : ∀ fault, allowed fault → Upholds P allowed' fits (handle fault)) :
    Upholds P allowed' fits (tryCatch step handle) where
  keeps world hworld := by
    have hmid : P (leaves step world) := hstep.keeps world hworld
    rw [leaves_tryCatch]
    cases hends : ends step world with
    | ok value => exact hmid
    | error fault => exact (hhandle fault (hstep.faults hworld hends)).keeps _ hmid
  faults {world fault} hworld hfault := by
    have hmid : P (leaves step world) := hstep.keeps world hworld
    rw [ends_tryCatch] at hfault
    cases hends : ends step world with
    | ok value =>
      rw [hends] at hfault
      cases hfault
    | error other =>
      rw [hends] at hfault
      exact (hhandle other (hstep.faults hworld hends)).faults hmid hfault
  values {world value} hworld hvalue := by
    have hmid : P (leaves step world) := hstep.keeps world hworld
    rw [ends_tryCatch] at hvalue
    cases hends : ends step world with
    | ok other =>
      rw [hends] at hvalue
      exact Except.ok.inj hvalue ▸ hstep.values hworld hends
    | error fault =>
      rw [hends] at hvalue
      exact (hhandle fault (hstep.faults hworld hends)).values hmid hvalue

end Upholds

end Action

/-! ## The course of worlds -/

/-- An order in which worlds may follow each other. -/
structure Course (σ : Type) where
  later : σ → σ → Prop
  refl : ∀ world, later world world
  trans : ∀ {first second third}, later first second → later second third → later first third

namespace Course

/-- The course in which any world may follow any other. -/
def any : Course σ where
  later _ _ := True
  refl _ := trivial
  trans _ _ := trivial

end Course

namespace Action

variable {σ β γ : Type} {course : Course σ}

/-- A step that only moves the world forward, and that ends the same way when it is taken again
in a later world. -/
structure Steady (course : Course σ) (step : Action σ β) : Prop where
  forward : ∀ world, course.later world (leaves step world)
  again : ∀ world late, course.later (leaves step world) late → ends step late = ends step world

lemma Steady.pure (value : β) : Steady course (pure value : Action σ β) where
  forward := course.refl
  again _ _ _ := rfl

lemma Steady.throw (fault : Fault) : Steady course (throw fault : Action σ β) where
  forward := course.refl
  again _ _ _ := rfl

lemma Steady.bind {step : Action σ β} {next : β → Action σ γ} (hstep : Steady course step)
    (hnext : ∀ value, Steady course (next value)) : Steady course (step >>= next) where
  forward world := by
    have hfirst := hstep.forward world
    rw [leaves_bind]
    cases ends step world with
    | ok value => exact course.trans hfirst ((hnext value).forward _)
    | error fault => exact hfirst
  again world late hlate := by
    rw [leaves_bind] at hlate
    rw [ends_bind, ends_bind]
    cases hends : ends step world with
    | ok value =>
      rw [hends] at hlate
      -- the first step is repeated in `late`, and the second one after that
      have hmid : course.later (leaves step world) late :=
        course.trans ((hnext value).forward _) hlate
      rw [hstep.again world late hmid, hends]
      exact (hnext value).again _ _ (course.trans hlate (hstep.forward late))
    | error fault =>
      rw [hends] at hlate
      rw [hstep.again world late hlate, hends]

lemma Steady.compositional (course : Course σ) :
    Compositional fun _ (step : Action σ _) (_ : Action σ _) => Steady course step where
  pure := .pure
  bind := .bind

/-- A step that always gives an answer, and gives the same answer when it is repeated. -/
structure Dependable (course : Course σ) (step : Action σ β) : Prop extends Steady course step where
  returns : Returns step

/-- A dependable step has no faults at all. -/
lemma Dependable.faultsOnly {allowed : Fault → Prop} {step : Action σ β}
    (hstep : Dependable course step) : FaultsOnly allowed step :=
  hstep.returns.faultsOnly

/-- A step with one value is dependable whichever way the world moves. -/
lemma Gives.dependable {step : Action σ β} {value : β} (hstep : Gives step value) :
    Dependable Course.any step where
  forward _ := trivial
  again world late _ := by rw [hstep late, hstep world]
  returns world := ⟨value, hstep world⟩

end Action

end TypeTest
