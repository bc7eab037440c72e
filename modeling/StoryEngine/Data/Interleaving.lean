import Mathlib.Algebra.BigOperators.Group.List.Basic
import Mathlib.Algebra.GroupWithZero.Nat
import Mathlib.Data.List.Perm.Basic
import StoryEngine.Data.Run

namespace StoryEngine.Data

/-! # Two runs of a state machine

Two runs take the same actions from a state and from its counterpart, which hides something
else.  While every action is allowed the states stay counterparts; one that is not allowed leaves
a difference in the messages sent, and what was sent stays.
-/

universe u v w

section

variable {σ : Type u} {α : Type v} {μ : Type w}

/-- Two sequences of messages that differ at some place that both have. -/
def Diverged (left right : List μ) : Prop :=
  ∃ (place : Nat) (first second : μ),
    left[place]? = some first ∧ right[place]? = some second ∧ first ≠ second

theorem Diverged.ne {left right : List μ} (diverged : Diverged left right) : left ≠ right := by
  obtain ⟨place, first, second, isFirst, isSecond, differ⟩ := diverged
  intro same
  rw [same, isSecond] at isFirst
  exact differ (Option.some.inj isFirst).symm

theorem Diverged.later {left right leftAfter rightAfter : List μ} (diverged : Diverged left right)
    (leftGrows : left <+: leftAfter) (rightGrows : right <+: rightAfter) :
    Diverged leftAfter rightAfter := by
  obtain ⟨place, first, second, isFirst, isSecond, differ⟩ := diverged
  have stays {before after : List μ} {message : μ} (grows : before <+: after)
      (isMessage : before[place]? = some message) : after[place]? = some message := by
    obtain ⟨rest, rfl⟩ := grows
    rw [List.getElem?_append_left (List.getElem?_eq_some_iff.mp isMessage).1, isMessage]
  exact ⟨place, first, second, stays leftGrows isFirst, stays rightGrows isSecond, differ⟩

theorem diverged_append {sent : List μ} {first second : μ} (differ : first ≠ second) :
    Diverged (sent ++ [first]) (sent ++ [second]) :=
  ⟨sent.length, first, second, List.getElem?_concat_length, List.getElem?_concat_length, differ⟩

section

variable {step : σ → α → σ} {sent : σ → List μ}

theorem run_grows (grows : ∀ state action, sent state <+: sent (step state action)) (state : σ)
    (actions : List α) : sent state <+: sent (run step state actions) := by
  induction actions generalizing state with
  | nil => exact List.prefix_refl _
  | cons action rest ih => exact (grows state action).trans (ih (step state action))

/-- Where counterparts stay counterparts under the actions that are allowed, and the others
tell them apart, two runs send the same exactly when every action is allowed. -/
theorem same_messages_iff {guard : σ → α → Prop} {counterpart : σ → σ} (always : σ → Prop)
    (keeps : ∀ state action, always state → always (step state action))
    (grows : ∀ state action, sent state <+: sent (step state action))
    (same : ∀ state, always state → sent (counterpart state) = sent state)
    (lockstep : ∀ state action, always state → guard state action →
      step (counterpart state) action = counterpart (step state action))
    (diverges : ∀ state action, always state → ¬guard state action →
      Diverged (sent (step (counterpart state) action)) (sent (step state action)))
    {state : σ} {actions : List α} (initial : always state) :
    sent (run step (counterpart state) actions) = sent (run step state actions) ↔
      Guarded step guard state actions := by
  induction actions generalizing state with
  | nil => simpa using same state initial
  | cons action rest ih =>
    rw [guarded_cons, run_cons, run_cons]
    by_cases allowed : guard state action
    · rw [lockstep state action initial allowed, ih (keeps state action initial)]
      exact (and_iff_right allowed).symm
    · have diverged := (diverges state action initial allowed).later
        (run_grows grows _ rest) (run_grows grows _ rest)
      constructor
      · intro equal
        exact absurd equal diverged.ne
      · intro guarded
        exact absurd guarded.1 allowed

/-- Where steps that are allowed keep a relation that shows a property, and the others show the
contrary, the property holds after every step exactly when every step is allowed. -/
theorem trace_iff_guarded {guard : σ → α → Prop} (alike good : σ → Prop)
    (keeps : ∀ state action, alike state → guard state action → alike (step state action))
    (shows : ∀ state, alike state → good state)
    (differs : ∀ state action, alike state → ¬guard state action → ¬good (step state action))
    {state : σ} {actions : List α} (initial : alike state) :
    (∀ taken ∈ trace step state actions, good (step taken.1 taken.2)) ↔
      Guarded step guard state actions := by
  induction actions generalizing state with
  | nil => simp [trace]
  | cons action rest ih =>
    simp only [trace, List.forall_mem_cons, guarded_cons]
    constructor
    · intro all
      have allowed : guard state action := by
        by_contra refused
        exact differs state action initial refused all.1
      exact ⟨allowed, (ih (keeps state action initial allowed)).mp all.2⟩
    · intro guarded
      have kept := keeps state action initial guarded.1
      exact ⟨shows _ kept, (ih kept).mpr guarded.2⟩

end

end

/-! ## Interleaved processes

Processes take turns over one shared state.  A turn lets the process at an
index do its next atomic step; a schedule is a list of indices.
-/

structure Interleaved (σ : Type u) (π : Type v) where
  shared : σ
  processes : List π
deriving DecidableEq

section

variable {σ : Type u} {π : Type v}

def turn (advance : σ → π → σ × π) (system : Interleaved σ π) (index : Nat) : Interleaved σ π :=
  match system.processes[index]? with
  | none => system
  | some process =>
    { shared := (advance system.shared process).1
      processes := system.processes.set index (advance system.shared process).2 }

section

variable {advance : σ → π → σ × π} {system : Interleaved σ π} {index : Nat} {process : π}

theorem turn_none (absent : system.processes[index]? = none) :
    turn advance system index = system := by
  simp [turn, absent]

theorem turn_some (atIndex : system.processes[index]? = some process) :
    turn advance system index =
      { shared := (advance system.shared process).1
        processes := system.processes.set index (advance system.shared process).2 } := by
  simp [turn, atIndex]

theorem turn_shared (keeps : σ → Prop) (initial : keeps system.shared)
    (each : ∀ process, keeps (advance system.shared process).1) :
    keeps (turn advance system index).shared := by
  cases there : system.processes[index]? with
  | none => rwa [turn_none there]
  | some process =>
    rw [turn_some there]
    exact each process

theorem getElem?_turn (atIndex : system.processes[index]? = some process) (other : Nat) :
    (turn advance system index).processes[other]? =
      if other = index then some (advance system.shared process).2
      else system.processes[other]? := by
  have inRange : index < system.processes.length := (List.getElem?_eq_some_iff.mp atIndex).1
  rw [turn_some atIndex]
  by_cases same : other = index
  · subst same
    simp [inRange]
  · rw [if_neg same, List.getElem?_set_ne (Ne.symm same)]

end

section

variable {advance : σ → π → σ × π} {system : Interleaved σ π} {index : Nat} {process other : π}

theorem mem_turn (atIndex : system.processes[index]? = some process)
    (member : other ∈ (turn advance system index).processes) :
    other ∈ system.processes ∨ other = (advance system.shared process).2 := by
  rw [turn_some atIndex] at member
  exact List.mem_or_eq_of_mem_set member

theorem mem_turn_ended (atIndex : system.processes[index]? = some process)
    (ended : ∀ shared, (advance shared other).2 = other) :
    other ∈ (turn advance system index).processes ↔
      other ∈ system.processes ∨ (advance system.shared process).2 = other := by
  constructor
  · intro member
    exact (mem_turn atIndex member).imp_right Eq.symm
  · intro source
    rcases source with before | moved
    · obtain ⟨place, there⟩ := List.mem_iff_getElem?.mp before
      apply List.mem_of_getElem? (i := place)
      rw [getElem?_turn atIndex]
      by_cases same : place = index
      · subst same
        obtain rfl := Option.some.inj (atIndex.symm.trans there)
        rw [if_pos rfl, ended]
      · rw [if_neg same, there]
    · apply List.mem_of_getElem? (i := index)
      rw [getElem?_turn atIndex, if_pos rfl, moved]

end

theorem filterMap_set_perm {β : Type u} {hand : π → Option β} {processes : List π} {index : Nat}
    {before after : π} (atIndex : processes[index]? = some before) :
    ((processes.set index after).filterMap hand ++ (hand before).toList).Perm
      (processes.filterMap hand ++ (hand after).toList) := by
  induction processes generalizing index with
  | nil => cases atIndex
  | cons first rest ih =>
    cases index with
    | zero =>
      obtain rfl : first = before := by simpa using atIndex
      have cons (process : π) : (process :: rest).filterMap hand =
          (hand process).toList ++ rest.filterMap hand := by
        cases known : hand process with
        | none => rw [List.filterMap_cons_none known, Option.toList_none, List.nil_append]
        | some value =>
          rw [List.filterMap_cons_some known, Option.toList_some, List.singleton_append]
      rw [List.set_cons_zero, cons, cons]
      refine List.perm_append_comm.trans ?_
      rw [List.append_assoc]
      exact List.Perm.append_left _ List.perm_append_comm
    | succ index =>
      have next : rest[index]? = some before := by simpa using atIndex
      have tail := ih next
      rw [List.set_cons_succ, List.filterMap_cons, List.filterMap_cons]
      cases hand first with
      | none => exact tail
      | some value => exact tail.cons value

def Nobody (critical : π → Prop) (system : Interleaved σ π) : Prop :=
  ∀ (other : Nat) (process : π), system.processes[other]? = some process → ¬critical process

theorem nobody_iff {critical : π → Prop} {system : Interleaved σ π} :
    Nobody critical system ↔ ∀ process ∈ system.processes, ¬critical process := by
  constructor
  · intro nobody process member
    obtain ⟨index, there⟩ := List.mem_iff_getElem?.mp member
    exact nobody index process there
  · intro outside index process there
    exact outside process (List.mem_of_getElem? there)

instance (critical : π → Prop) [DecidablePred critical] (system : Interleaved σ π) :
    Decidable (Nobody critical system) :=
  decidable_of_iff _ nobody_iff.symm

def Alone (critical : π → Prop) (system : Interleaved σ π) (index : Nat) : Prop :=
  ∀ (other : Nat) (process : π), system.processes[other]? = some process → critical process →
    other = index

section

variable {critical : π → Prop} {advance : σ → π → σ × π} {system : Interleaved σ π}
  {index moved : Nat} {process : π}

theorem Nobody.alone (nobody : Nobody critical system) : Alone critical system index :=
  fun other process there inside => absurd inside (nobody other process there)

theorem Alone.turn_self (alone : Alone critical system index)
    (there : system.processes[index]? = some process) :
    Alone critical (turn advance system index) index := by
  intro other found inOther inside
  rw [getElem?_turn there] at inOther
  split at inOther
  · rename_i same
    exact same
  · exact alone other found inOther inside

theorem Alone.turn_other (alone : Alone critical system index)
    (there : system.processes[moved]? = some process)
    (outside : ¬critical (advance system.shared process).2) :
    Alone critical (turn advance system moved) index := by
  intro other found inOther inside
  rw [getElem?_turn there] at inOther
  split at inOther
  · obtain rfl := Option.some.inj inOther
    exact absurd inside outside
  · exact alone other found inOther inside

theorem Alone.leaves (alone : Alone critical system index)
    (there : system.processes[index]? = some process)
    (outside : ¬critical (advance system.shared process).2) :
    Nobody critical (turn advance system index) := by
  intro other found inOther inside
  rw [getElem?_turn there] at inOther
  split at inOther
  · obtain rfl := Option.some.inj inOther
    exact outside inside
  · rename_i different
    exact different (alone other found inOther inside)

theorem Nobody.turn (nobody : Nobody critical system)
    (there : system.processes[moved]? = some process)
    (outside : ¬critical (advance system.shared process).2) :
    Nobody critical (turn advance system moved) :=
  nobody.alone.leaves there outside

end

end

/-! ## What is in flight

Each process carries a weight that it has not yet handed over to the shared state.  A turn
changes what is in flight by what the weight of the one process changes.
-/

section

variable {σ : Type u} {π : Type v} {weight : π → Nat} {system : Interleaved σ π}

def inFlight (weight : π → Nat) (system : Interleaved σ π) : Nat :=
  (system.processes.map weight).sum

theorem sum_map_set {processes : List π} {index : Nat} {before after : π}
    (atIndex : processes[index]? = some before) :
    ((processes.set index after).map weight).sum + weight before =
      (processes.map weight).sum + weight after := by
  induction processes generalizing index with
  | nil => cases atIndex
  | cons first rest ih =>
    cases index with
    | zero =>
      obtain rfl : first = before := by simpa using atIndex
      simp only [List.set_cons_zero, List.map_cons, List.sum_cons]
      omega
    | succ index =>
      have tail := ih (show rest[index]? = some before by simpa using atIndex)
      simp only [List.set_cons_succ, List.map_cons, List.sum_cons]
      omega

theorem inFlight_turn {advance : σ → π → σ × π} {index : Nat} {process : π}
    (atIndex : system.processes[index]? = some process) :
    inFlight weight (turn advance system index) + weight process =
      inFlight weight system + weight (advance system.shared process).2 := by
  rw [turn_some atIndex]
  exact sum_map_set atIndex

theorem inFlight_spawn (process : π) :
    inFlight weight { system with processes := system.processes ++ [process] } =
      inFlight weight system + weight process := by
  simp [inFlight]

theorem inFlight_none (ended : ∀ process ∈ system.processes, weight process = 0) :
    inFlight weight system = 0 := by
  apply List.sum_eq_zero
  intro carried member
  obtain ⟨process, isProcess, rfl⟩ := List.mem_map.mp member
  exact ended process isProcess

section

variable {α : Type w} {step : σ → α → σ}

def peak (inHand : σ → Nat) (step : σ → α → σ) : σ → List α → Nat
  | _, [] => 0
  | state, action :: rest =>
    max (inHand (step state action)) (peak inHand step (step state action) rest)

theorem guarded_peak (inHand : σ → Nat) (state : σ) (actions : List α) :
    Guarded step (fun state' action =>
      inHand (step state' action) ≤ peak inHand step state actions) state actions := by
  induction actions generalizing state with
  | nil => exact guarded_nil _ _ _
  | cons action rest ih =>
    rw [guarded_cons]
    constructor
    · exact Nat.le_max_left _ _
    · intro taken member
      exact Nat.le_trans (ih (step state action) taken member) (Nat.le_max_right _ _)

/-- Where every step hands over what is in hand, or admits more of it only below a limit, what
is used exceeds the limit by at most the peak. -/
theorem used_le_peak {used : σ → Int} {inHand : σ → Nat} {limit : Int} (always : σ → Prop)
    (keeps : ∀ state action, always state → always (step state action))
    (admits : ∀ state action, always state →
      used (step state action) + inHand (step state action) ≤ used state + inHand state ∨
        used (step state action) ≤ limit)
    {state : σ} {actions : List α} (initial : always state)
    (within : used state + inHand state ≤ limit) :
    used (run step state actions) + inHand (run step state actions) ≤
      limit + peak inHand step state actions := by
  have bounded := run_guarded_invariant (fun current => always current ∧
      used current + inHand current ≤ limit + peak inHand step state actions)
    (fun current action kept below => by
      refine ⟨keeps current action kept.1, ?_⟩
      cases admits current action kept.1 with
      | inl handed => exact Int.le_trans handed kept.2
      | inr admitted => exact Int.add_le_add admitted (Int.ofNat_le.mpr below))
    ⟨initial, by omega⟩ (guarded_peak inHand state actions)
  exact bounded.2

end

end

end StoryEngine.Data
