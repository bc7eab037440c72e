import Mathlib.Order.Defs.PartialOrder

namespace StoryEngine.Data

/-! # Sequences of statements

A statement may throw.  What the statements before it have written stays, unless
they are in one transaction with it.
-/

universe u

variable {ε σ α β : Type u}

namespace Statements

abbrev Work (ε σ α : Type u) := EStateM ε σ α

def after : EStateM.Result ε σ α → σ
  | .ok _ state => state
  | .error _ state => state

def transaction (body : Work ε σ α) : Work ε σ α := fun state =>
  match body state with
  | .ok value written => .ok value written
  | .error failure _ => .error failure state

def each (items : List β) (statement : β → Work ε σ PUnit) : Work ε σ PUnit :=
  match items with
  | [] => pure ⟨⟩
  | item :: rest => do
      statement item
      each rest statement

variable {first : Work ε σ α} {next : α → Work ε σ β} {state : σ}

theorem bind_apply : (first >>= next) state =
    match first state with
    | .ok value written => next value written
    | .error failure written => .error failure written := rfl

theorem bind_eq_ok {result : β} {written : σ} :
    (first >>= next) state = .ok result written ↔
      ∃ value between, first state = .ok value between ∧ next value between = .ok result written := by
  rw [bind_apply]
  cases first state with
  | ok value between =>
    constructor
    · exact fun ran => ⟨value, between, rfl, ran⟩
    · rintro ⟨_, _, same, ran⟩
      obtain ⟨rfl, rfl⟩ := EStateM.Result.ok.inj same
      exact ran
  | error failure between => simp

theorem transaction_eq_ok {body : Work ε σ α} {value : α} {written : σ} :
    transaction body state = .ok value written ↔ body state = .ok value written := by
  unfold transaction
  cases body state <;> simp

theorem transaction_eq_error {body : Work ε σ α} {failure : ε} {written : σ}
    (ran : transaction body state = .error failure written) : written = state := by
  unfold transaction at ran
  split at ran
  · cases ran
  · exact (EStateM.Result.error.inj ran).2.symm

theorem each_append {done rest : List β} {statement : β → Work ε σ PUnit} :
    each (done ++ rest) statement = (do each done statement; each rest statement) := by
  induction done with
  | nil => rfl
  | cons item done ih =>
    funext state
    simp only [List.cons_append, each, ih, bind_apply]
    cases statement item state <;> rfl

/-- What holds before a loop and is kept by each turn that returns holds after a loop
that returns. -/
theorem each_invariant {items : List β} {statement : β → Work ε σ PUnit}
    (invariant : List β → σ → Prop)
    (keeps : ∀ done item rest state next, items = done ++ item :: rest → invariant done state →
      statement item state = .ok ⟨⟩ next → invariant (done ++ [item]) next)
    {start final : σ} (initial : invariant [] start)
    (ran : each items statement start = .ok ⟨⟩ final) : invariant items final := by
  suffices general : ∀ rest done state, items = done ++ rest → invariant done state →
      each rest statement state = .ok ⟨⟩ final → invariant items final from
    general items [] start rfl initial ran
  intro rest
  induction rest with
  | nil =>
    intro done state whole held ranRest
    rw [List.append_nil] at whole
    obtain ⟨_, rfl⟩ := EStateM.Result.ok.inj ranRest
    exact whole ▸ held
  | cons item rest ih =>
    intro done state whole held ranRest
    obtain ⟨⟨⟩, between, first, later⟩ := bind_eq_ok.mp ranRest
    refine ih (done ++ [item]) between ?_ (keeps done item rest state between whole held first) later
    rw [whole, List.append_assoc, List.singleton_append]

/-- A loop whose turns lead from one state of a known sequence to the next, where
each turn fits and otherwise throws, returns exactly when all turns fit. -/
theorem each_eq_ok_iff {items : List β} {statement : β → Work ε σ PUnit} {final : σ}
    (closed : List β → σ) (fits : List β → β → Prop)
    (turn : ∀ done item rest, items = done ++ item :: rest → fits done item →
      statement item (closed done) = .ok ⟨⟩ (closed (done ++ [item])))
    (refused : ∀ done item rest, items = done ++ item :: rest → ¬ fits done item →
      ∀ written, statement item (closed done) ≠ .ok ⟨⟩ written) :
    each items statement (closed []) = .ok ⟨⟩ final ↔
      (∀ done item rest, items = done ++ item :: rest → fits done item) ∧ closed items = final := by
  suffices general : ∀ rest done, items = done ++ rest →
      (each rest statement (closed done) = .ok ⟨⟩ final ↔
        (∀ before item later, rest = before ++ item :: later → fits (done ++ before) item) ∧
          closed items = final) by
    simpa using general items [] rfl
  intro rest
  induction rest with
  | nil =>
    intro done whole
    rw [List.append_nil] at whole
    simp [each, whole, pure, EStateM.pure]
  | cons item rest ih =>
    intro done whole
    have next := ih (done ++ [item]) (by simpa using whole)
    simp only [List.append_assoc, List.singleton_append] at next
    by_cases fit : fits done item
    · rw [each, bind_apply, turn done item rest whole fit]
      refine next.trans (and_congr_left fun _ => ⟨fun all => ?_, fun all => ?_⟩)
      · intro before other later split
        cases before with
        | nil =>
          obtain ⟨rfl, rfl⟩ := List.cons.inj split
          simpa using fit
        | cons head before =>
          obtain ⟨rfl, rfl⟩ := List.cons.inj split
          exact all before other later rfl
      · intro before other later split
        exact all (item :: before) other later (by rw [split, List.cons_append])
    · constructor
      · intro ran
        obtain ⟨⟨⟩, between, first, _⟩ := bind_eq_ok.mp ran
        exact absurd first (refused done item rest whole fit between)
      · rintro ⟨all, _⟩
        exact absurd (by simpa using all [] item rest rfl) fit

/-- Whatever the outcome, the state after is related to the one before. -/
def Keeps (relation : σ → σ → Prop) (work : Work ε σ α) : Prop :=
  ∀ state, relation state (after (work state))

section

variable {relation : σ → σ → Prop}

theorem Keeps.ok {work : Work ε σ α} {value : α} {written : σ} (keeps : Keeps relation work)
    (ran : work state = .ok value written) : relation state written := by
  have kept := keeps state
  rwa [ran] at kept

theorem Keeps.error {work : Work ε σ α} {failure : ε} {written : σ} (keeps : Keeps relation work)
    (ran : work state = .error failure written) : relation state written := by
  have kept := keeps state
  rwa [ran] at kept

theorem Keeps.pure (refl : ∀ state, relation state state) (value : α) :
    Keeps relation (pure value : Work ε σ α) :=
  fun state => refl state

theorem Keeps.throw (refl : ∀ state, relation state state) (failure : ε) :
    Keeps relation (throw failure : Work ε σ α) :=
  fun state => refl state

theorem Keeps.get (refl : ∀ state, relation state state) :
    Keeps relation (get : Work ε σ σ) :=
  fun state => refl state

theorem Keeps.after_bind (refl : ∀ state, relation state state)
    (keepsNext : ∀ value, Keeps relation (next value)) (state : σ) :
    relation (after (first state)) (after ((first >>= next) state)) := by
  rw [bind_apply]
  cases first state with
  | ok value written => exact keepsNext value written
  | error failure written => exact refl written

theorem Keeps.bind_at (trans : ∀ {a b c}, relation a b → relation b c → relation a c)
    (keepsFirst : relation state (after (first state)))
    (keepsNext : ∀ value, Keeps relation (next value)) :
    relation state (after ((first >>= next) state)) := by
  rw [bind_apply]
  cases ran : first state with
  | error failure written => rwa [ran] at keepsFirst
  | ok value written =>
    rw [ran] at keepsFirst
    exact trans keepsFirst (keepsNext value written)

theorem Keeps.bind (trans : ∀ {a b c}, relation a b → relation b c → relation a c)
    (keepsFirst : Keeps relation first) (keepsNext : ∀ value, Keeps relation (next value)) :
    Keeps relation (first >>= next) :=
  fun state => Keeps.bind_at trans (keepsFirst state) keepsNext

theorem Keeps.transaction (refl : ∀ state, relation state state) {body : Work ε σ α}
    (keeps : Keeps relation body) : Keeps relation (transaction body) := by
  intro state
  unfold Statements.transaction
  cases ran : body state with
  | ok value written => exact keeps.ok ran
  | error failure written => exact refl state

theorem Keeps.each (refl : ∀ state, relation state state)
    (trans : ∀ {a b c}, relation a b → relation b c → relation a c) {items : List β}
    {statement : β → Work ε σ PUnit} (keeps : ∀ item ∈ items, Keeps relation (statement item)) :
    Keeps relation (each items statement) := by
  induction items with
  | nil => exact Keeps.pure refl _
  | cons item rest ih =>
    exact Keeps.bind trans (keeps item List.mem_cons_self)
      fun _ => ih fun other member => keeps other (List.mem_cons_of_mem _ member)

end

end Statements

end StoryEngine.Data
