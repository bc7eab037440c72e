import StoryEngine.Data.Run
import Mathlib.Data.List.Nodup

namespace StoryEngine.Pages

open Data

/-! # Slots for PDF exports

An export waits for a slot.  A release gives the slot to the first export that waits, and makes
it free when none does.
-/

/-- Numbers stand for the promises that the callers of `acquire` await. -/
structure Semaphore where
  max : Nat
  active : Nat := 0
  queue : List Nat := []

def maxPdfConcurrency : Nat := 3

def pdfSemaphore : Semaphore := { max := maxPdfConcurrency }

namespace Semaphore

variable (semaphore : Semaphore)

/-- The semaphore after an `acquire`, and the promise when it is resolved at once. -/
def acquire (promise : Nat) : Semaphore × Option Nat :=
  if semaphore.active < semaphore.max then
    ({ semaphore with active := semaphore.active + 1 }, some promise)
  else
    ({ semaphore with queue := semaphore.queue ++ [promise] }, none)

/-- The semaphore after a `release`, and the promise that it resolves. -/
def release : Semaphore × Option Nat :=
  match semaphore.queue with
  | next :: queue => ({ semaphore with queue }, some next)
  | [] => ({ semaphore with active := semaphore.active - 1 }, none)

end Semaphore

/-- What the callers see of the semaphore: how often it was acquired, the acquires granted so
far, in the order of the grants, and the granted ones that were released. -/
structure ExportSlots where
  semaphore : Semaphore
  acquires : Nat := 0
  granted : List Nat := []
  released : List Nat := []

inductive SlotEvent where
  | acquire
  | release (acquire : Nat)

namespace ExportSlots

variable (slots : ExportSlots)

def held : List Nat := slots.granted.filter fun acquire => !slots.released.elem acquire

/-- The resolved promise, if any, is a grant. -/
def after (outcome : Semaphore × Option Nat) : ExportSlots :=
  { slots with semaphore := outcome.1, granted := slots.granted ++ outcome.2.toList }

end ExportSlots

/-- Each granted acquire is released once at most. -/
def slotStep (slots : ExportSlots) : SlotEvent → ExportSlots
  | .acquire =>
    { slots with acquires := slots.acquires + 1 }.after (slots.semaphore.acquire slots.acquires)
  | .release acquire =>
    if acquire ∈ slots.held then
      { slots with released := slots.released ++ [acquire] }.after slots.semaphore.release
    else slots

def openSlots (max : Nat) : ExportSlots := { semaphore := { max } }

section

variable {slots : ExportSlots} {max : Nat}

structure Accounted (max : Nat) (slots : ExportSlots) : Prop where
  bound : slots.semaphore.max = max
  held : slots.held.length = slots.semaphore.active
  free : slots.semaphore.active ≤ max
  waits : slots.semaphore.queue ≠ [] → slots.semaphore.active = max
  order : slots.granted ++ slots.semaphore.queue = List.range slots.acquires
  released : ∀ acquire ∈ slots.released, acquire ∈ slots.granted

theorem Accounted.nodup (accounted : Accounted max slots) : slots.granted.Nodup := by
  have all : (slots.granted ++ slots.semaphore.queue).Nodup := by
    rw [accounted.order]
    exact List.nodup_range
  exact all.of_append_left

theorem Accounted.granted_lt (accounted : Accounted max slots) {acquire : Nat}
    (isGranted : acquire ∈ slots.granted) : acquire < slots.acquires := by
  have listed := List.mem_append_left slots.semaphore.queue isGranted
  rw [accounted.order] at listed
  exact List.mem_range.mp listed

theorem Accounted.acquire (accounted : Accounted max slots) :
    Accounted max (slotStep slots .acquire) := by
  have bound := accounted.bound
  have held := accounted.held
  have order := accounted.order
  simp only [slotStep, Semaphore.acquire]
  split
  · next isFree =>
      have none : slots.semaphore.queue = [] := by
        by_contra waits
        have full := accounted.waits waits
        omega
      rw [none, List.append_nil] at order
      have fresh : slots.released.elem slots.acquires = false := by
        rw [← Bool.not_eq_true, List.elem_iff]
        intro isReleased
        have before := accounted.granted_lt (accounted.released _ isReleased)
        omega
      refine ⟨bound, ?_, ?_, ?_, ?_, ?_⟩
      · simp only [ExportSlots.held, ExportSlots.after, Option.toList_some, List.filter_append,
          List.length_append, List.filter_cons, fresh, Bool.not_false, if_true,
          List.filter_nil, List.length_singleton] at held ⊢
        omega
      · simp only [ExportSlots.after]
        omega
      · exact fun waits => absurd none waits
      · simp only [ExportSlots.after, Option.toList_some]
        rw [none, List.append_nil, order, List.range_succ]
      · intro acquire isReleased
        exact List.mem_append_left _ (accounted.released acquire isReleased)
  · next isFull =>
      have free := accounted.free
      simp only [ExportSlots.after, Option.toList_none, List.append_nil]
      refine ⟨bound, held, free, ?_, ?_, accounted.released⟩
      · intro _
        simp only
        omega
      · simp only
        rw [← List.append_assoc, order, List.range_succ]

/-- The acquire that is released was held, and the others are held as before. -/
theorem Accounted.length_released (accounted : Accounted max slots) {acquire : Nat}
    (isHeld : acquire ∈ slots.held) :
    (slots.granted.filter fun other => !(slots.released ++ [acquire]).elem other).length + 1 =
      slots.semaphore.active := by
  have rest : (slots.granted.filter fun other => !(slots.released ++ [acquire]).elem other) =
      slots.held.erase acquire := by
    rw [ExportSlots.held, (accounted.nodup.filter _).erase_eq_filter, List.filter_filter]
    apply List.filter_congr
    intro other _
    simp [Bool.and_comm, bne, beq_eq_decide]
  have some := List.length_pos_of_mem isHeld
  rw [rest, List.length_erase_of_mem isHeld, ← accounted.held]
  omega

theorem Accounted.release (accounted : Accounted max slots) {acquire : Nat}
    (isHeld : acquire ∈ slots.held) : Accounted max (slotStep slots (.release acquire)) := by
  have rest := accounted.length_released isHeld
  have free := accounted.free
  have order := accounted.order
  have released : ∀ other ∈ slots.released ++ [acquire], other ∈ slots.granted := by
    intro other isReleased
    cases List.mem_append.mp isReleased with
    | inl before => exact accounted.released other before
    | inr now =>
      rw [List.mem_singleton.mp now]
      exact List.mem_of_mem_filter isHeld
  simp only [slotStep, if_pos isHeld, Semaphore.release]
  split
  · next next queue isQueue =>
      have full : slots.semaphore.active = max := by
        apply accounted.waits
        rw [isQueue]
        exact List.cons_ne_nil _ _
      rw [isQueue] at order
      have waited : next ∉ slots.granted := by
        intro isGranted
        have all : (slots.granted ++ next :: queue).Nodup := by
          rw [order]
          exact List.nodup_range
        exact (List.nodup_append.mp all).2.2 next isGranted next List.mem_cons_self rfl
      have unreleased : (slots.released ++ [acquire]).elem next = false := by
        rw [← Bool.not_eq_true, List.elem_iff]
        intro isReleased
        exact waited (released next isReleased)
      refine ⟨accounted.bound, ?_, free, fun _ => full, ?_, ?_⟩
      · simp only [ExportSlots.held, ExportSlots.after, Option.toList_some, List.filter_append,
          List.length_append, List.filter_cons, unreleased, Bool.not_false, if_true,
          List.filter_nil, List.length_singleton] at rest ⊢
        omega
      · simpa [ExportSlots.after] using order
      · intro other isReleased
        exact List.mem_append_left _ (released other isReleased)
  · next isQueue =>
      simp only [ExportSlots.after, Option.toList_none, List.append_nil]
      refine ⟨accounted.bound, ?_, ?_, ?_, order, released⟩
      · simp only [ExportSlots.held] at rest ⊢
        omega
      · simp only
        omega
      · exact fun waits => absurd isQueue waits

theorem slotStep_accounted (event : SlotEvent) (accounted : Accounted max slots) :
    Accounted max (slotStep slots event) := by
  cases event with
  | acquire => exact accounted.acquire
  | release acquire =>
    by_cases isHeld : acquire ∈ slots.held
    · exact accounted.release isHeld
    · simp only [slotStep, if_neg isHeld]
      exact accounted

theorem openSlots_accounted (max : Nat) : Accounted max (openSlots max) where
  bound := rfl
  held := rfl
  free := Nat.zero_le max
  waits waits := absurd rfl waits
  order := rfl
  released _ isReleased := absurd isReleased List.not_mem_nil

end

/-- In any run the acquires granted and not yet released are as many as the counter says and no
more than the slots, acquires wait only while every slot is taken, and acquires are granted in
the order of their arrival. -/
theorem semaphore_hands_over_exactly (max : Nat) (events : List SlotEvent) :
    let slots := run slotStep (openSlots max) events
    slots.held.length ≤ max ∧ slots.held.length = slots.semaphore.active ∧
      (slots.semaphore.queue ≠ [] → slots.semaphore.active = max) ∧
        slots.granted ++ slots.semaphore.queue = List.range slots.acquires := by
  intro slots
  have accounted : Accounted max slots :=
    run_invariant (Accounted max) (fun _ event accounted => slotStep_accounted event accounted)
      events (openSlots_accounted max)
  refine ⟨?_, accounted.held, accounted.waits, accounted.order⟩
  rw [accounted.held]
  exact accounted.free

/-- Of three exports for one slot the first ends, and the second has the slot. -/
theorem released_slot_is_handed_over :
    let slots := run slotStep (openSlots 1) [.acquire, .acquire, .acquire, .release 0]
    slots.held = [1] ∧ slots.semaphore.queue = [2] ∧ slots.held.length = slots.semaphore.active :=
  ⟨rfl, rfl, (semaphore_hands_over_exactly 1 [.acquire, .acquire, .acquire, .release 0]).2.1⟩

end StoryEngine.Pages
