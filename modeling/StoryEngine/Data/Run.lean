import Mathlib.Data.List.Basic

namespace StoryEngine.Data

/-! # Runs of a state machine

A system is a total step function: an action that is refused leaves the state
as it is.  A run folds the step over a list of actions, `trace` remembers the
state every action was taken in, and `log` collects what an observer notes
along the way.  Invariants are proved for one step and carried over runs by
the rules below.
-/

universe u v w

variable {σ : Type u} {α : Type v} {β : Type w}

def run (step : σ → α → σ) (state : σ) (actions : List α) : σ :=
  actions.foldl step state

@[simp] theorem run_nil (step : σ → α → σ) (state : σ) : run step state [] = state := rfl

@[simp] theorem run_cons (step : σ → α → σ) (state : σ) (action : α) (rest : List α) :
    run step state (action :: rest) = run step (step state action) rest := rfl

theorem run_append (step : σ → α → σ) (state : σ) (first second : List α) :
    run step state (first ++ second) = run step (run step state first) second :=
  List.foldl_append

def trace (step : σ → α → σ) : σ → List α → List (σ × α)
  | _, [] => []
  | state, action :: rest => (state, action) :: trace step (step state action) rest

theorem trace_append (step : σ → α → σ) (state : σ) (first second : List α) :
    trace step state (first ++ second) =
      trace step state first ++ trace step (run step state first) second := by
  induction first generalizing state with
  | nil => rfl
  | cons action rest ih => simp only [List.cons_append, trace, run_cons, ih]

theorem trace_action (step : σ → α → σ) (state : σ) (actions : List α) :
    ∀ taken ∈ trace step state actions, taken.2 ∈ actions := by
  induction actions generalizing state with
  | nil =>
    intro taken member
    cases member
  | cons action rest ih =>
    intro taken member
    rcases List.mem_cons.mp member with rfl | inRest
    · exact List.mem_cons_self
    · exact List.mem_cons_of_mem _ (ih (step state action) taken inRest)

/-- Every action of the run meets the guard in the state it is taken in. -/
def Guarded (step : σ → α → σ) (guard : σ → α → Prop) (state : σ) (actions : List α) : Prop :=
  ∀ taken ∈ trace step state actions, guard taken.1 taken.2

instance (step : σ → α → σ) (guard : σ → α → Prop)
    [∀ state action, Decidable (guard state action)] (state : σ) (actions : List α) :
    Decidable (Guarded step guard state actions) :=
  inferInstanceAs (Decidable (∀ taken ∈ trace step state actions, _))

@[simp] theorem guarded_nil (step : σ → α → σ) (guard : σ → α → Prop) (state : σ) :
    Guarded step guard state [] := by
  intro taken member
  cases member

@[simp] theorem guarded_cons {step : σ → α → σ} {guard : σ → α → Prop} {state : σ}
    {action : α} {rest : List α} :
    Guarded step guard state (action :: rest) ↔
      guard state action ∧ Guarded step guard (step state action) rest := by
  simp [Guarded, trace]

def log (step : σ → α → σ) (observe : σ → α → List β) (state : σ) (actions : List α) : List β :=
  (trace step state actions).flatMap fun taken => observe taken.1 taken.2

@[simp] theorem log_nil (step : σ → α → σ) (observe : σ → α → List β) (state : σ) :
    log step observe state [] = [] := rfl

@[simp] theorem log_cons (step : σ → α → σ) (observe : σ → α → List β) (state : σ)
    (action : α) (rest : List α) :
    log step observe state (action :: rest) =
      observe state action ++ log step observe (step state action) rest := rfl

theorem log_append (step : σ → α → σ) (observe : σ → α → List β) (state : σ)
    (first second : List α) :
    log step observe state (first ++ second) =
      log step observe state first ++ log step observe (run step state first) second := by
  induction first generalizing state with
  | nil => rfl
  | cons action rest ih =>
    simp only [List.cons_append, log_cons, run_cons, ih, List.append_assoc]

/-- An invariant over the notes taken so far and the current state, kept by
every guarded step, holds after every guarded run. -/
theorem run_log_invariant {step : σ → α → σ} {observe : σ → α → List β}
    {guard : σ → α → Prop} (invariant : List β → σ → Prop)
    (keeps : ∀ notes state action, invariant notes state → guard state action →
      invariant (notes ++ observe state action) (step state action))
    {notes : List β} {state : σ} {actions : List α}
    (initial : invariant notes state) (guarded : Guarded step guard state actions) :
    invariant (notes ++ log step observe state actions) (run step state actions) := by
  induction actions generalizing notes state with
  | nil => simpa using initial
  | cons action rest ih =>
    obtain ⟨allowed, later⟩ := guarded_cons.mp guarded
    have next := ih (keeps notes state action initial allowed) later
    simpa only [log_cons, run_cons, List.append_assoc] using next

theorem run_guarded_invariant {step : σ → α → σ} {guard : σ → α → Prop}
    (invariant : σ → Prop)
    (keeps : ∀ state action, invariant state → guard state action →
      invariant (step state action))
    {state : σ} {actions : List α}
    (initial : invariant state) (guarded : Guarded step guard state actions) :
    invariant (run step state actions) := by
  induction actions generalizing state with
  | nil => exact initial
  | cons action rest ih =>
    obtain ⟨allowed, later⟩ := guarded_cons.mp guarded
    exact ih (keeps state action initial allowed) later

theorem trace_guarded_invariant {step : σ → α → σ} {guard : σ → α → Prop}
    (invariant : σ → Prop)
    (keeps : ∀ state action, invariant state → guard state action →
      invariant (step state action))
    {state : σ} {actions : List α}
    (initial : invariant state) (guarded : Guarded step guard state actions) :
    ∀ taken ∈ trace step state actions, invariant taken.1 ∧ guard taken.1 taken.2 := by
  induction actions generalizing state with
  | nil =>
    intro taken member
    cases member
  | cons action rest ih =>
    obtain ⟨allowed, later⟩ := guarded_cons.mp guarded
    intro taken member
    rcases List.mem_cons.mp member with rfl | inRest
    · exact ⟨initial, allowed⟩
    · exact ih (keeps state action initial allowed) later taken inRest

theorem guarded_iff_guarded {step : σ → α → σ} {first second : σ → α → Prop}
    (invariant : σ → Prop)
    (keeps : ∀ state action, invariant state → first state action →
      invariant (step state action))
    (exactly : ∀ state action, invariant state → (first state action ↔ second state action))
    {state : σ} {actions : List α} (initial : invariant state) :
    Guarded step first state actions ↔ Guarded step second state actions := by
  induction actions generalizing state with
  | nil => simp
  | cons action rest ih =>
    rw [guarded_cons, guarded_cons, ← exactly state action initial]
    constructor
    · intro guarded
      exact ⟨guarded.1, (ih (keeps state action initial guarded.1)).mp guarded.2⟩
    · intro guarded
      exact ⟨guarded.1, (ih (keeps state action initial guarded.1)).mpr guarded.2⟩

/-- When a guard is exactly what one step needs to keep a property, a run is
guarded exactly when the property holds after each of its steps. -/
theorem guarded_iff_trace {step : σ → α → σ} {guard : σ → α → Prop} (always good : σ → Prop)
    (keeps : ∀ state action, always state → always (step state action))
    (exactly : ∀ state action, always state → good state →
      (good (step state action) ↔ guard state action))
    {state : σ} {actions : List α} (initial : always state) (holds : good state) :
    Guarded step guard state actions ↔
      ∀ taken ∈ trace step state actions, good (step taken.1 taken.2) := by
  induction actions generalizing state with
  | nil => simp [trace]
  | cons action rest ih =>
    have first := exactly state action initial holds
    have later (next : good (step state action)) := ih (keeps state action initial) next
    simp only [guarded_cons, trace, List.forall_mem_cons]
    constructor
    · rintro ⟨allowed, guarded⟩
      exact ⟨first.mpr allowed, (later (first.mpr allowed)).mp guarded⟩
    · rintro ⟨next, kept⟩
      exact ⟨first.mp next, (later next).mpr kept⟩

/-- When moreover the property does not come back once it is lost, a run is guarded
exactly when the property holds at its end. -/
theorem guarded_iff_run {step : σ → α → σ} {guard : σ → α → Prop} (always good : σ → Prop)
    (keeps : ∀ state action, always state → always (step state action))
    (exactly : ∀ state action, always state → good state →
      (good (step state action) ↔ guard state action))
    (lost : ∀ state action, always state → ¬good state → ¬good (step state action))
    {state : σ} {actions : List α} (initial : always state) (holds : good state) :
    Guarded step guard state actions ↔ good (run step state actions) := by
  have stays (rest : List α) : ∀ current, always current → ¬good current →
      ¬good (run step current rest) := by
    induction rest with
    | nil => exact fun _ _ bad => bad
    | cons action rest ih =>
      exact fun current kept bad =>
        ih (step current action) (keeps current action kept) (lost current action kept bad)
  induction actions generalizing state with
  | nil => simp [holds]
  | cons action rest ih =>
    have first := exactly state action initial holds
    have kept := keeps state action initial
    rw [guarded_cons, run_cons]
    constructor
    · intro guarded
      exact (ih kept (first.mpr guarded.1)).mp guarded.2
    · intro final
      have next : good (step state action) := by
        by_contra bad
        exact stays rest (step state action) kept bad final
      exact ⟨first.mp next, (ih kept next).mpr final⟩

/-- An invariant over the steps taken so far and the current state, kept by every
step, holds after every run. -/
theorem run_trace_invariant {step : σ → α → σ} (invariant : List (σ × α) → σ → Prop)
    (keeps : ∀ taken state action, invariant taken state →
      invariant (taken ++ [(state, action)]) (step state action))
    {state : σ} {actions : List α} (initial : invariant [] state) :
    invariant (trace step state actions) (run step state actions) := by
  have free : Guarded step (fun _ _ => True) state actions := fun _ _ => trivial
  have noted : invariant ([] ++ log step (fun state action => [(state, action)]) state actions)
      (run step state actions) :=
    run_log_invariant invariant (fun taken state action kept _ => keeps taken state action kept)
      initial free
  simpa [log] using noted

/-- An invariant over the actions taken so far and the current state, kept by every step, holds
after every run. -/
theorem run_taken_invariant {step : σ → α → σ} (invariant : List α → σ → Prop)
    (keeps : ∀ taken state action, invariant taken state →
      invariant (taken ++ [action]) (step state action))
    {state : σ} (actions : List α) (initial : invariant [] state) :
    invariant actions (run step state actions) := by
  suffices later : ∀ taken state, invariant taken state →
      invariant (taken ++ actions) (run step state actions) from later [] state initial
  clear initial state
  induction actions with
  | nil =>
    intro taken state kept
    simpa using kept
  | cons action rest ih =>
    intro taken state kept
    simpa using ih (taken ++ [action]) (step state action) (keeps taken state action kept)

theorem run_invariant {step : σ → α → σ} (invariant : σ → Prop)
    (keeps : ∀ state action, invariant state → invariant (step state action))
    {state : σ} (actions : List α) (initial : invariant state) :
    invariant (run step state actions) := by
  induction actions generalizing state with
  | nil => exact initial
  | cons action rest ih => exact ih (keeps state action initial)

/-- A relation to the states of a specification that takes the same actions, kept by every
guarded step, holds after every guarded run. -/
theorem run_refines {τ : Type w} {step : σ → α → σ} {specification : τ → α → τ}
    {guard : σ → α → Prop} (represents : σ → τ → Prop)
    (keeps : ∀ state abstract action, represents state abstract → guard state action →
      represents (step state action) (specification abstract action))
    {state : σ} {abstract : τ} {actions : List α} (initial : represents state abstract)
    (guarded : Guarded step guard state actions) :
    represents (run step state actions) (run specification abstract actions) := by
  induction actions generalizing state abstract with
  | nil => exact initial
  | cons action rest ih =>
    obtain ⟨allowed, later⟩ := guarded_cons.mp guarded
    exact ih (keeps state abstract action initial allowed) later

end StoryEngine.Data
