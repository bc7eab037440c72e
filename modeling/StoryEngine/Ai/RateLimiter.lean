import Mathlib.Algebra.BigOperators.Group.List.Basic
import Mathlib.Algebra.Order.Ring.NNRat
import StoryEngine.Data.Run
import StoryEngine.Schema.Rows

namespace StoryEngine.Ai

open Data Schema

/-! # The limiter of the tagger

A window of a minute has a budget of requests and of tokens.  A caller that fits in takes its
share at once; another one waits in a queue, which a timer drains.  The window starts anew when
a caller or a timer finds it over.
-/

structure RateLimiterOptions where
  maxRPM : Nat
  maxTPM : ℚ≥0

/-- A waiting caller; the number stands for the promise that it awaits. -/
structure PendingRequest where
  id : Nat
  estimatedTokens : ℚ≥0
deriving DecidableEq

structure RateLimiter where
  options : RateLimiterOptions
  requestsThisWindow : Nat := 0
  tokensThisWindow : ℚ≥0 := 0
  windowStartMs : Date
  queue : List PendingRequest := []
  drainScheduled : Bool := false

def windowMs : Nat := 60000

/-- `Math.ceil(text.length / 4)`. -/
def estimateTokens (text : Text) : Nat := (text.length16 + 3) / 4

def taggingEstimate (systemPrompt chunkText : Text) : ℚ≥0 :=
  (estimateTokens (systemPrompt ++ chunkText) + 500 : Nat)

namespace RateLimiter

variable (limiter : RateLimiter)

def windowElapsed (now : Date) : Bool := windowMs ≤ now - limiter.windowStartMs

def maybeResetWindow (now restarted : Date) : RateLimiter :=
  if limiter.windowElapsed now then
    { limiter with requestsThisWindow := 0, tokensThisWindow := 0, windowStartMs := restarted }
  else limiter

def canProceed (estimatedTokens : ℚ≥0) : Bool :=
  limiter.requestsThisWindow < limiter.options.maxRPM &&
    limiter.tokensThisWindow + estimatedTokens ≤ limiter.options.maxTPM

def consume (estimatedTokens : ℚ≥0) : RateLimiter :=
  { limiter with
    requestsThisWindow := limiter.requestsThisWindow + 1
    tokensThisWindow := limiter.tokensThisWindow + estimatedTokens }

def reportUsage (actualTokens estimatedTokens : ℚ≥0) : RateLimiter :=
  if estimatedTokens < actualTokens then
    { limiter with
      tokensThisWindow := limiter.tokensThisWindow + (actualTokens - estimatedTokens) }
  else limiter

def scheduleDrain (now : Date) : RateLimiter × List Date :=
  if limiter.drainScheduled then (limiter, [])
  else
    let timeUntilReset := windowMs - (now - limiter.windowStartMs)
    ({ limiter with drainScheduled := true }, [now + min 500 (timeUntilReset + 50)])

/-- The loop of `drain`, with the requests that it grants. -/
def drainQueue (limiter : RateLimiter) :
    List PendingRequest → List PendingRequest × RateLimiter
  | [] => ([], { limiter with queue := [] })
  | next :: queue =>
    if limiter.canProceed next.estimatedTokens then
      let (granted, drained) := drainQueue (limiter.consume next.estimatedTokens) queue
      (next :: granted, drained)
    else ([], { limiter with queue := next :: queue })

end RateLimiter

inductive LimiterNote where
  | reset
  | proceeds (request : PendingRequest) (waiting : List PendingRequest)
  | drained (granted left : List PendingRequest)
  | reported
deriving DecidableEq

/-- The limiter with the clock, the timers that are set, the number of callers so far and a
record of what happened. -/
structure LimiterSystem where
  limiter : RateLimiter
  clock : Date
  timers : List Date := []
  acquires : Nat := 0
  record : List LimiterNote := []

/-- The time that goes by before each reading of the clock. -/
structure Ticks where
  checked : Nat := 0
  restarted : Nat := 0
  scheduled : Nat := 0

inductive LimiterEvent where
  | acquire (estimatedTokens : ℚ≥0) (ticks : Ticks)
  | reportUsage (actualTokens estimatedTokens : ℚ≥0)
  | timer (place : Nat) (ticks : Ticks)

def startLimiter (options : RateLimiterOptions) (now : Date) : LimiterSystem where
  limiter := { options, windowStartMs := now }
  clock := now

namespace LimiterSystem

variable (system : LimiterSystem)

def maybeResetWindow (ticks : Ticks) : LimiterSystem :=
  let now := system.clock + ticks.checked
  { system with
    limiter := system.limiter.maybeResetWindow now (now + ticks.restarted)
    clock := now + ticks.restarted
    record := system.record ++ if system.limiter.windowElapsed now then [.reset] else [] }

def scheduleDrain (ticks : Ticks) : LimiterSystem :=
  let now := system.clock + ticks.scheduled
  let (limiter, timers) := system.limiter.scheduleDrain now
  { system with limiter, clock := now, timers := system.timers ++ timers }

def arrival (estimatedTokens : ℚ≥0) : PendingRequest := { id := system.acquires, estimatedTokens }

def proceed (estimatedTokens : ℚ≥0) : LimiterSystem :=
  { system with
    limiter := system.limiter.consume estimatedTokens
    acquires := system.acquires + 1
    record := system.record ++ [.proceeds (system.arrival estimatedTokens) system.limiter.queue] }

def enqueue (estimatedTokens : ℚ≥0) : LimiterSystem :=
  { system with
    limiter := { system.limiter with
      queue := system.limiter.queue ++ [system.arrival estimatedTokens] }
    acquires := system.acquires + 1 }

def acquire (estimatedTokens : ℚ≥0) (ticks : Ticks) : LimiterSystem :=
  let reset := system.maybeResetWindow ticks
  if reset.limiter.canProceed estimatedTokens then reset.proceed estimatedTokens
  else (reset.enqueue estimatedTokens).scheduleDrain ticks

def reportUsage (actualTokens estimatedTokens : ℚ≥0) : LimiterSystem :=
  { system with
    limiter := system.limiter.reportUsage actualTokens estimatedTokens
    record := system.record ++ [.reported] }

def drainLoop : LimiterSystem :=
  let (granted, limiter) := system.limiter.drainQueue system.limiter.queue
  { system with limiter, record := system.record ++ [.drained granted limiter.queue] }

def drain (ticks : Ticks) : LimiterSystem :=
  let drained := (system.maybeResetWindow ticks).drainLoop
  if drained.limiter.queue.isEmpty then drained else drained.scheduleDrain ticks

def fire (place : Nat) : LimiterSystem :=
  { system with
    limiter := { system.limiter with drainScheduled := false }
    timers := system.timers.eraseIdx place }

def isDue (place : Nat) (ticks : Ticks) : Bool :=
  system.timers[place]?.any (· ≤ system.clock + ticks.checked)

end LimiterSystem

def limiterStep (system : LimiterSystem) : LimiterEvent → LimiterSystem
  | .acquire estimatedTokens ticks => system.acquire estimatedTokens ticks
  | .reportUsage actualTokens estimatedTokens => system.reportUsage actualTokens estimatedTokens
  | .timer place ticks =>
    if system.isDue place ticks then (system.fire place).drain ticks else system

def LimiterNote.granted : LimiterNote → List PendingRequest
  | .proceeds request _ => [request]
  | .drained granted _ => granted
  | _ => []

def granted (record : List LimiterNote) : List PendingRequest := record.flatMap (·.granted)

def estimated (requests : List PendingRequest) : ℚ≥0 := (requests.map (·.estimatedTokens)).sum

def WithinBudget (options : RateLimiterOptions) (record : List LimiterNote) : Prop :=
  ∀ window, window <:+: record → LimiterNote.reset ∉ window →
    (granted window).length ≤ options.maxRPM ∧ estimated (granted window) ≤ options.maxTPM

def oneByOne : List PendingRequest → List PendingRequest →
    List (PendingRequest × List PendingRequest)
  | [], _ => []
  | next :: granted, left => (next, granted ++ left) :: oneByOne granted left

def LimiterNote.grants : LimiterNote → List (PendingRequest × List PendingRequest)
  | .proceeds request waiting => [(request, waiting)]
  | .drained granted left => oneByOne granted left
  | _ => []

def InOrder (record : List LimiterNote) : Prop :=
  ∀ note ∈ record, ∀ grant ∈ note.grants, ∀ other ∈ grant.2, grant.1.id < other.id

/-- A drain that comes just after a reset grants nothing only if nothing waits. -/
def DrainsAfterReset (record : List LimiterNote) : Prop :=
  ∀ left, [.reset, .drained [] left] <:+: record → left = []

section

variable {limiter drained : RateLimiter} {queue granted : List PendingRequest}

@[simp] theorem estimated_nil : estimated [] = 0 := rfl

@[simp] theorem estimated_cons (request : PendingRequest) (requests : List PendingRequest) :
    estimated (request :: requests) = request.estimatedTokens + estimated requests := by
  simp [estimated]

theorem estimated_append (first second : List PendingRequest) :
    estimated (first ++ second) = estimated first + estimated second := by
  simp [estimated]

theorem RateLimiter.canProceed_iff {estimatedTokens : ℚ≥0} :
    limiter.canProceed estimatedTokens = true ↔
      limiter.requestsThisWindow < limiter.options.maxRPM ∧
        limiter.tokensThisWindow + estimatedTokens ≤ limiter.options.maxTPM := by
  simp [canProceed]

/-- What a drain does to the limiter that grants these requests. -/
structure Drains (limiter : RateLimiter) (queue granted : List PendingRequest)
    (drained : RateLimiter) : Prop where
  fifo : queue = granted ++ drained.queue
  options : drained.options = limiter.options
  requests : drained.requestsThisWindow = limiter.requestsThisWindow + granted.length
  tokens : drained.tokensThisWindow = limiter.tokensThisWindow + estimated granted
  scheduled : drained.drainScheduled = limiter.drainScheduled
  within : granted ≠ [] → drained.requestsThisWindow ≤ limiter.options.maxRPM ∧
    drained.tokensThisWindow ≤ limiter.options.maxTPM
  blocked : ∀ next ∈ drained.queue.head?, drained.canProceed next.estimatedTokens = false

theorem drainQueue_drains (limiter : RateLimiter) (queue : List PendingRequest) :
    Drains limiter queue (limiter.drainQueue queue).1 (limiter.drainQueue queue).2 := by
  induction queue generalizing limiter with
  | nil =>
    exact { fifo := rfl, options := rfl, requests := rfl, tokens := by simp [RateLimiter.drainQueue]
            scheduled := rfl, within := by simp [RateLimiter.drainQueue]
            blocked := by simp [RateLimiter.drainQueue] }
  | cons next queue ih =>
    cases fits : limiter.canProceed next.estimatedTokens with
    | false =>
      simp only [RateLimiter.drainQueue, fits, Bool.false_eq_true, if_false]
      exact { fifo := rfl, options := rfl, requests := rfl, tokens := by simp
              scheduled := rfl, within := by simp
              blocked := by simpa [RateLimiter.canProceed] using fits }
    | true =>
      have rest := ih (limiter.consume next.estimatedTokens)
      obtain ⟨few, cheap⟩ := RateLimiter.canProceed_iff.mp fits
      simp only [RateLimiter.drainQueue, fits, if_true]
      refine { fifo := by rw [List.cons_append, ← rest.fifo], options := rest.options
               requests := ?_, tokens := ?_, scheduled := rest.scheduled, within := ?_
               blocked := rest.blocked }
      · rw [rest.requests, List.length_cons]
        simp only [RateLimiter.consume]
        omega
      · rw [rest.tokens, estimated_cons, ← add_assoc]
        rfl
      · intro _
        by_cases none : (RateLimiter.drainQueue (limiter.consume next.estimatedTokens) queue).1 = []
        · rw [rest.requests, rest.tokens, none]
          simpa [RateLimiter.consume] using ⟨few, cheap⟩
        · exact rest.within none

end

section

variable {limiter after : RateLimiter} {record window : List LimiterNote} {note : LimiterNote}

/-- The counters of the limiter are not below what was granted since the last reset. -/
structure Accounted (limiter : RateLimiter) (record : List LimiterNote) : Prop where
  budget : WithinBudget limiter.options record
  requests : ∀ window, window <:+ record → LimiterNote.reset ∉ window →
    (granted window).length ≤ limiter.requestsThisWindow
  tokens : ∀ window, window <:+ record → LimiterNote.reset ∉ window →
    estimated (granted window) ≤ limiter.tokensThisWindow

theorem granted_concat (record : List LimiterNote) (note : LimiterNote) :
    granted (record ++ [note]) = granted record ++ note.granted := by
  simp [granted]

theorem accounted_nil (limiter : RateLimiter) : Accounted limiter [] where
  budget := by
    intro window inside _
    rw [List.infix_nil.mp inside]
    exact ⟨Nat.zero_le _, bot_le⟩
  requests := by
    intro window ends _
    rw [List.suffix_nil.mp ends]
    exact Nat.zero_le _
  tokens := by
    intro window ends _
    rw [List.suffix_nil.mp ends]
    exact bot_le

theorem Accounted.reset (accounted : Accounted limiter record)
    (same : after.options = limiter.options) : Accounted after (record ++ [.reset]) := by
  have closed : ∀ window, window <:+ record ++ [.reset] → LimiterNote.reset ∉ window →
      window = [] := by
    intro window ends open_
    rcases List.suffix_concat_iff.mp ends with none | ⟨earlier, rfl, _⟩
    · exact none
    · simp at open_
  refine ⟨?_, ?_, ?_⟩
  · intro window inside unbroken
    rcases List.infix_concat_iff.mp inside with ends | inside
    · rw [closed window ends unbroken]
      exact ⟨Nat.zero_le _, bot_le⟩
    · rw [same]
      exact accounted.budget window inside unbroken
  · intro window ends unbroken
    rw [closed window ends unbroken]
    exact Nat.zero_le _
  · intro window ends unbroken
    rw [closed window ends unbroken]
    exact bot_le

theorem Accounted.grants (accounted : Accounted limiter record)
    (same : after.options = limiter.options)
    (requests : limiter.requestsThisWindow + note.granted.length ≤ after.requestsThisWindow)
    (tokens : limiter.tokensThisWindow + estimated note.granted ≤ after.tokensThisWindow)
    (within : note.granted ≠ [] → after.requestsThisWindow ≤ limiter.options.maxRPM ∧
      limiter.tokensThisWindow + estimated note.granted ≤ limiter.options.maxTPM) :
    Accounted after (record ++ [note]) := by
  have ended : ∀ window, window <:+ record ++ [note] → LimiterNote.reset ∉ window → window = [] ∨
      ∃ earlier, earlier <:+ record ∧ LimiterNote.reset ∉ earlier ∧
        granted window = granted earlier ++ note.granted := by
    intro window ends unbroken
    rcases List.suffix_concat_iff.mp ends with none | ⟨earlier, rfl, before⟩
    · exact Or.inl none
    · refine Or.inr ⟨earlier, before, fun inside => unbroken (List.mem_append_left _ inside), ?_⟩
      rw [granted_concat]
  refine ⟨?_, ?_, ?_⟩
  · intro window inside unbroken
    rw [same]
    rcases List.infix_concat_iff.mp inside with ends | inside
    · rcases ended window ends unbroken with rfl | ⟨earlier, ends, unbroken, parts⟩
      · exact ⟨Nat.zero_le _, bot_le⟩
      · have count := accounted.requests earlier ends unbroken
        have cost := accounted.tokens earlier ends unbroken
        by_cases none : note.granted = []
        · rw [parts, none, List.append_nil]
          exact accounted.budget earlier ends.isInfix unbroken
        · obtain ⟨few, cheap⟩ := within none
          rw [parts, List.length_append, estimated_append]
          exact ⟨by omega, (add_le_add_left cost _).trans cheap⟩
    · exact accounted.budget window inside unbroken
  · intro window ends unbroken
    rcases ended window ends unbroken with rfl | ⟨earlier, ends, unbroken, parts⟩
    · exact Nat.zero_le _
    · have count := accounted.requests earlier ends unbroken
      rw [parts, List.length_append]
      omega
  · intro window ends unbroken
    rcases ended window ends unbroken with rfl | ⟨earlier, ends, unbroken, parts⟩
    · exact bot_le
    · rw [parts, estimated_append]
      exact (add_le_add_left (accounted.tokens earlier ends unbroken) _).trans tokens

end

section

variable (system : LimiterSystem) (ticks : Ticks)

theorem RateLimiter.maybeResetWindow_options (limiter : RateLimiter) (now restarted : Date) :
    (limiter.maybeResetWindow now restarted).options = limiter.options := by
  simp only [maybeResetWindow]
  split <;> rfl

theorem RateLimiter.maybeResetWindow_queue (limiter : RateLimiter) (now restarted : Date) :
    (limiter.maybeResetWindow now restarted).queue = limiter.queue := by
  simp only [maybeResetWindow]
  split <;> rfl

theorem RateLimiter.maybeResetWindow_drainScheduled (limiter : RateLimiter)
    (now restarted : Date) :
    (limiter.maybeResetWindow now restarted).drainScheduled = limiter.drainScheduled := by
  simp only [maybeResetWindow]
  split <;> rfl

theorem RateLimiter.scheduleDrain_sets (limiter : RateLimiter) (now : Date) :
    (limiter.scheduleDrain now).1 = { limiter with drainScheduled := true } := by
  simp only [scheduleDrain]
  split
  · next scheduled => rw [← scheduled]
  · rfl

@[simp] theorem LimiterSystem.maybeResetWindow_options :
    (system.maybeResetWindow ticks).limiter.options = system.limiter.options :=
  RateLimiter.maybeResetWindow_options _ _ _

@[simp] theorem LimiterSystem.maybeResetWindow_queue :
    (system.maybeResetWindow ticks).limiter.queue = system.limiter.queue :=
  RateLimiter.maybeResetWindow_queue _ _ _

@[simp] theorem LimiterSystem.maybeResetWindow_drainScheduled :
    (system.maybeResetWindow ticks).limiter.drainScheduled = system.limiter.drainScheduled :=
  RateLimiter.maybeResetWindow_drainScheduled _ _ _

@[simp] theorem LimiterSystem.maybeResetWindow_timers :
    (system.maybeResetWindow ticks).timers = system.timers := rfl

@[simp] theorem LimiterSystem.maybeResetWindow_acquires :
    (system.maybeResetWindow ticks).acquires = system.acquires := rfl

theorem LimiterSystem.maybeResetWindow_cases :
    ((system.maybeResetWindow ticks).record = system.record ∧
        (system.maybeResetWindow ticks).limiter = system.limiter) ∨
      (system.maybeResetWindow ticks).record = system.record ++ [.reset] ∧
        (system.maybeResetWindow ticks).limiter.requestsThisWindow = 0 ∧
        (system.maybeResetWindow ticks).limiter.tokensThisWindow = 0 := by
  simp only [maybeResetWindow, RateLimiter.maybeResetWindow]
  split
  · exact .inr ⟨rfl, rfl, rfl⟩
  · exact .inl ⟨List.append_nil _, rfl⟩

@[simp] theorem LimiterSystem.scheduleDrain_limiter :
    (system.scheduleDrain ticks).limiter = { system.limiter with drainScheduled := true } :=
  RateLimiter.scheduleDrain_sets _ _

@[simp] theorem LimiterSystem.scheduleDrain_record :
    (system.scheduleDrain ticks).record = system.record := rfl

@[simp] theorem LimiterSystem.scheduleDrain_acquires :
    (system.scheduleDrain ticks).acquires = system.acquires := rfl

theorem LimiterSystem.drainLoop_drains :
    ∃ granted, Drains system.limiter system.limiter.queue granted system.drainLoop.limiter ∧
      system.drainLoop.record =
        system.record ++ [.drained granted system.drainLoop.limiter.queue] :=
  ⟨_, drainQueue_drains _ _, rfl⟩

end

section

variable {system : LimiterSystem}

/-- The accounts, the numbers of the requests, and the timer of the queue. -/
structure Sound (options : RateLimiterOptions) (system : LimiterSystem) : Prop where
  options : system.limiter.options = options
  accounted : Accounted system.limiter system.record
  numbered : ((granted system.record ++ system.limiter.queue).map (·.id)).Nodup
  arrived : ∀ request ∈ granted system.record ++ system.limiter.queue,
    request.id < system.acquires
  timed : system.timers.length = if system.limiter.drainScheduled then 1 else 0

def Attended (system : LimiterSystem) : Prop :=
  system.limiter.queue ≠ [] → system.limiter.drainScheduled = true

theorem Sound.maybeResetWindow {options : RateLimiterOptions} (sound : Sound options system)
    (ticks : Ticks) : Sound options (system.maybeResetWindow ticks) := by
  have same : granted (system.maybeResetWindow ticks).record = granted system.record := by
    rcases system.maybeResetWindow_cases ticks with ⟨record, _⟩ | ⟨record, _⟩
    · rw [record]
    · rw [record, granted_concat]
      exact List.append_nil _
  refine ⟨?_, ?_, ?_, ?_, ?_⟩
  · rw [system.maybeResetWindow_options]
    exact sound.options
  · rcases system.maybeResetWindow_cases ticks with ⟨record, limiter⟩ | ⟨record, _⟩
    · rw [record, limiter]
      exact sound.accounted
    · rw [record]
      exact sound.accounted.reset (system.maybeResetWindow_options ticks)
  · rw [same, system.maybeResetWindow_queue]
    exact sound.numbered
  · rw [same, system.maybeResetWindow_queue]
    exact sound.arrived
  · rw [system.maybeResetWindow_drainScheduled]
    exact sound.timed

theorem Sound.scheduleDrain {options : RateLimiterOptions} (sound : Sound options system)
    (ticks : Ticks) : Sound options (system.scheduleDrain ticks) := by
  refine ⟨?_, ?_, ?_, ?_, ?_⟩
  · rw [system.scheduleDrain_limiter]
    exact sound.options
  · rw [system.scheduleDrain_limiter]
    exact ⟨sound.accounted.budget, sound.accounted.requests, sound.accounted.tokens⟩
  · rw [system.scheduleDrain_limiter]
    exact sound.numbered
  · rw [system.scheduleDrain_limiter]
    exact sound.arrived
  · have timed := sound.timed
    simp only [LimiterSystem.scheduleDrain, RateLimiter.scheduleDrain]
    split
    · next scheduled => simpa [scheduled] using timed
    · next idle => simp [timed, idle]

theorem Sound.proceed {options : RateLimiterOptions} {estimatedTokens : ℚ≥0}
    (sound : Sound options system) (fits : system.limiter.canProceed estimatedTokens = true) :
    Sound options (system.proceed estimatedTokens) := by
  obtain ⟨few, cheap⟩ := RateLimiter.canProceed_iff.mp fits
  have record : granted (system.proceed estimatedTokens).record =
      granted system.record ++ [system.arrival estimatedTokens] :=
    granted_concat _ _
  refine ⟨sound.options, ?_, ?_, ?_, sound.timed⟩
  · refine Accounted.grants sound.accounted rfl ?_ ?_ ?_
    · exact Nat.le_refl _
    · simp [LimiterNote.granted, LimiterSystem.arrival, LimiterSystem.proceed, RateLimiter.consume]
    · intro _
      simpa [LimiterNote.granted, LimiterSystem.arrival] using ⟨few, cheap⟩
  · rw [record, List.append_assoc, List.singleton_append]
    rw [((List.perm_middle).map _).nodup_iff, List.map_cons, List.nodup_cons]
    refine ⟨?_, sound.numbered⟩
    intro known
    obtain ⟨request, member, same⟩ := List.mem_map.mp known
    have below := sound.arrived request member
    rw [same] at below
    exact Nat.lt_irrefl _ below
  · rw [record]
    intro request member
    have arrived := sound.arrived request
    simp only [LimiterSystem.proceed, RateLimiter.consume, List.mem_append,
      List.mem_singleton] at member arrived ⊢
    rcases member with (granted | rfl) | waiting
    · exact Nat.lt_succ_of_lt (arrived (.inl granted))
    · exact Nat.lt_succ_self _
    · exact Nat.lt_succ_of_lt (arrived (.inr waiting))

theorem Sound.enqueue {options : RateLimiterOptions} (sound : Sound options system)
    (estimatedTokens : ℚ≥0) :
    Sound options (system.enqueue estimatedTokens) := by
  refine ⟨sound.options, ?_, ?_, ?_, sound.timed⟩
  · exact ⟨sound.accounted.budget, sound.accounted.requests, sound.accounted.tokens⟩
  · simp only [LimiterSystem.enqueue]
    rw [← List.append_assoc, List.map_append, List.map_singleton,
      List.perm_append_comm.nodup_iff, List.singleton_append, List.nodup_cons]
    refine ⟨?_, sound.numbered⟩
    intro known
    obtain ⟨request, member, same⟩ := List.mem_map.mp known
    have below := sound.arrived request member
    rw [same] at below
    exact Nat.lt_irrefl _ below
  · intro request member
    have arrived := sound.arrived request
    simp only [LimiterSystem.enqueue, List.mem_append,
      List.mem_singleton] at member arrived ⊢
    rcases member with granted | waiting | rfl
    · exact Nat.lt_succ_of_lt (arrived (.inl granted))
    · exact Nat.lt_succ_of_lt (arrived (.inr waiting))
    · exact Nat.lt_succ_self _

theorem Sound.drainLoop {options : RateLimiterOptions} (sound : Sound options system) :
    Sound options system.drainLoop := by
  obtain ⟨grants, drains, record⟩ := system.drainLoop_drains
  have whole : granted system.drainLoop.record ++ system.drainLoop.limiter.queue =
      granted system.record ++ system.limiter.queue := by
    rw [record, granted_concat, LimiterNote.granted, List.append_assoc, ← drains.fifo]
  refine ⟨drains.options.trans sound.options, ?_, ?_, ?_, ?_⟩
  · rw [record]
    apply sound.accounted.grants drains.options
    · exact drains.requests.ge
    · exact drains.tokens.ge
    · intro some
      rw [LimiterNote.granted, ← drains.tokens]
      exact drains.within some
  · rw [whole]
    exact sound.numbered
  · rw [whole]
    exact sound.arrived
  · rw [drains.scheduled]
    exact sound.timed

theorem Sound.fire {options : RateLimiterOptions} {place : Nat} {ticks : Ticks}
    (sound : Sound options system) (isDue : system.isDue place ticks = true) :
    Sound options (system.fire place) := by
  refine ⟨sound.options, ?_, sound.numbered, sound.arrived, ?_⟩
  · exact ⟨sound.accounted.budget, sound.accounted.requests, sound.accounted.tokens⟩
  · have timed := sound.timed
    have one : place < system.timers.length := by
      by_contra beyond
      simp [LimiterSystem.isDue, Nat.not_lt.mp beyond] at isDue
    have erased : (system.timers.eraseIdx place).length + 1 = system.timers.length :=
      List.length_eraseIdx_add_one one
    simp only [LimiterSystem.fire, Bool.false_eq_true, if_false]
    split at timed <;> omega

theorem Sound.reportUsage {options : RateLimiterOptions} (sound : Sound options system)
    (actualTokens estimatedTokens : ℚ≥0) :
    Sound options (system.reportUsage actualTokens estimatedTokens) := by
  have kept : (system.limiter.reportUsage actualTokens estimatedTokens).options =
        system.limiter.options ∧
      (system.limiter.reportUsage actualTokens estimatedTokens).requestsThisWindow =
        system.limiter.requestsThisWindow ∧
      system.limiter.tokensThisWindow ≤
        (system.limiter.reportUsage actualTokens estimatedTokens).tokensThisWindow ∧
      (system.limiter.reportUsage actualTokens estimatedTokens).queue = system.limiter.queue ∧
      (system.limiter.reportUsage actualTokens estimatedTokens).drainScheduled =
        system.limiter.drainScheduled := by
    simp only [RateLimiter.reportUsage]
    split
    · exact ⟨rfl, rfl, le_self_add, rfl, rfl⟩
    · exact ⟨rfl, rfl, le_rfl, rfl, rfl⟩
  obtain ⟨sameOptions, requests, tokens, queue, scheduled⟩ := kept
  have record : granted (system.reportUsage actualTokens estimatedTokens).record =
      granted system.record := (granted_concat _ _).trans (List.append_nil _)
  refine ⟨sameOptions.trans sound.options, ?_, ?_, ?_, ?_⟩
  · apply sound.accounted.grants sameOptions
    · exact requests.ge
    · simpa [LimiterNote.granted] using tokens
    · exact fun some => absurd rfl some
  · rw [record, LimiterSystem.reportUsage, queue]
    exact sound.numbered
  · rw [record, LimiterSystem.reportUsage, queue]
    exact sound.arrived
  · rw [LimiterSystem.reportUsage, scheduled]
    exact sound.timed

end

section

variable {options : RateLimiterOptions} {system : LimiterSystem}

theorem limiterStep_sound (event : LimiterEvent) (sound : Sound options system) :
    Sound options (limiterStep system event) := by
  cases event with
  | acquire estimatedTokens ticks =>
    have reset := sound.maybeResetWindow ticks
    simp only [limiterStep, LimiterSystem.acquire]
    split
    · next fits => exact reset.proceed fits
    · exact (reset.enqueue estimatedTokens).scheduleDrain ticks
  | reportUsage actualTokens estimatedTokens =>
    exact sound.reportUsage actualTokens estimatedTokens
  | timer place ticks =>
    simp only [limiterStep]
    split
    · next isDue =>
        have drained := ((sound.fire isDue).maybeResetWindow ticks).drainLoop
        simp only [LimiterSystem.drain]
        split
        · exact drained
        · exact drained.scheduleDrain ticks
    · exact sound

theorem limiterStep_attended (event : LimiterEvent) (attended : Attended system) :
    Attended (limiterStep system event) := by
  cases event with
  | acquire estimatedTokens ticks =>
    simp only [limiterStep, LimiterSystem.acquire]
    split
    · simpa [Attended, LimiterSystem.proceed, RateLimiter.consume] using attended
    · intro _
      rw [LimiterSystem.scheduleDrain_limiter]
  | reportUsage actualTokens estimatedTokens =>
    simp only [limiterStep, LimiterSystem.reportUsage, RateLimiter.reportUsage, Attended]
    split
    · exact attended
    · exact attended
  | timer place ticks =>
    simp only [limiterStep]
    split
    · simp only [LimiterSystem.drain]
      split
      · next none => exact fun waits => absurd (List.isEmpty_iff.mp none) waits
      · intro _
        rw [LimiterSystem.scheduleDrain_limiter]
    · exact attended

theorem startLimiter_sound (options : RateLimiterOptions) (start : Date) :
    Sound options (startLimiter options start) where
  options := rfl
  accounted := accounted_nil _
  numbered := List.nodup_nil
  arrived := by
    intro request absent
    cases absent
  timed := rfl

/-- No window grants more than its budget, no request is granted twice, and a timer is set
whenever requests wait. -/
theorem rateLimiter_withinBudget (options : RateLimiterOptions) (start : Date)
    (events : List LimiterEvent) :
    let system := run limiterStep (startLimiter options start) events
    WithinBudget options system.record ∧ ((granted system.record).map (·.id)).Nodup ∧
      (system.limiter.queue ≠ [] →
        system.limiter.drainScheduled = true ∧ ∃ due, system.timers = [due]) := by
  intro system
  have sound : Sound options system :=
    run_invariant (Sound options) (fun _ event sound => limiterStep_sound event sound) events
      (startLimiter_sound options start)
  have attended : Attended system :=
    run_invariant Attended (fun _ event attended => limiterStep_attended event attended) events
      (fun waits => absurd rfl waits)
  refine ⟨sound.options ▸ sound.accounted.budget, ?_, fun waits => ?_⟩
  · have numbered := sound.numbered
    rw [List.map_append] at numbered
    exact (List.nodup_append.mp numbered).1
  · have scheduled := attended waits
    have timed := sound.timed
    rw [scheduled, if_pos rfl] at timed
    exact ⟨scheduled, List.length_eq_one_iff.mp timed⟩

end

section

variable {options : RateLimiterOptions} {system : LimiterSystem} {record : List LimiterNote}
  {note : LimiterNote}

/-- No request overtakes one that waits, and a drain just after a reset serves one that waits. -/
def Fair (record : List LimiterNote) : Prop := InOrder record ∧ DrainsAfterReset record

instance (record : List LimiterNote) : Decidable (InOrder record) :=
  inferInstanceAs (Decidable (∀ note ∈ record, ∀ grant ∈ note.grants, ∀ other ∈ grant.2, _))

/-- A caller does not fit in while others wait, and the first of those that wait when a drain
comes just after a reset asks for no more than a whole window has. -/
def Yields (system : LimiterSystem) : LimiterEvent → Prop
  | .acquire estimatedTokens ticks => system.limiter.queue = [] ∨
      (system.maybeResetWindow ticks).limiter.canProceed estimatedTokens = false
  | .reportUsage _ _ => True
  | .timer place ticks => system.isDue place ticks = true →
      (system.maybeResetWindow ticks).record.getLast? = some .reset →
        ∀ next ∈ system.limiter.queue.head?,
          next.estimatedTokens ≤ system.limiter.options.maxTPM

instance (system : LimiterSystem) : DecidablePred (Yields system)
  | .acquire _ _ => inferInstanceAs (Decidable (_ ∨ _))
  | .reportUsage _ _ => inferInstanceAs (Decidable True)
  | .timer place ticks => inferInstanceAs (Decidable (system.isDue place ticks = true →
      (system.maybeResetWindow ticks).record.getLast? = some .reset →
        ∀ next ∈ system.limiter.queue.head?,
          next.estimatedTokens ≤ system.limiter.options.maxTPM))

theorem fair_concat : Fair (record ++ [note]) ↔ Fair record ∧
    (∀ grant ∈ note.grants, ∀ other ∈ grant.2, grant.1.id < other.id) ∧
      ∀ left, note = .drained [] left → record.getLast? = some .reset → left = [] := by
  have adjacent : ∀ left, [LimiterNote.reset, .drained [] left] <:+: record ++ [note] ↔
      [LimiterNote.reset, .drained [] left] <:+: record ∨
        note = .drained [] left ∧ record.getLast? = some .reset := by
    intro left
    rw [List.infix_concat_iff, or_comm]
    apply or_congr_right
    constructor
    · intro ends
      rcases List.suffix_concat_iff.mp ends with none | ⟨earlier, parts, ends⟩
      · cases none
      · obtain ⟨isReset, isNote⟩ :=
          @List.append_inj' _ [LimiterNote.reset] _ _ _ parts rfl
        refine ⟨(List.singleton_inj.mp isNote).symm, ?_⟩
        obtain ⟨before, rfl⟩ := ends
        rw [← isReset, List.getLast?_concat]
    · rintro ⟨rfl, last⟩
      obtain ⟨before, rfl⟩ := List.getLast?_eq_some_iff.mp last
      exact ⟨before, by rw [List.append_assoc]; rfl⟩
  simp only [Fair, InOrder, DrainsAfterReset, List.forall_mem_append, List.forall_mem_singleton,
    adjacent, or_imp, forall_and, and_imp]
  constructor
  · rintro ⟨⟨earlier, last⟩, before, now⟩
    exact ⟨⟨earlier, before⟩, last, now⟩
  · rintro ⟨⟨earlier, before⟩, last, now⟩
    exact ⟨⟨earlier, last⟩, before, now⟩

/-- The queue is in the order of arrival, and a reset leaves the counters at zero. -/
structure Lined (options : RateLimiterOptions) (system : LimiterSystem) : Prop where
  sound : Sound options system
  sorted : system.limiter.queue.Pairwise fun first second => first.id < second.id
  fresh : system.record.getLast? = some .reset →
    system.limiter.requestsThisWindow = 0 ∧ system.limiter.tokensThisWindow = 0

theorem Lined.maybeResetWindow (lined : Lined options system) (ticks : Ticks) :
    Lined options (system.maybeResetWindow ticks) where
  sound := lined.sound.maybeResetWindow ticks
  sorted := by
    rw [system.maybeResetWindow_queue]
    exact lined.sorted
  fresh := by
    rcases system.maybeResetWindow_cases ticks with ⟨record, limiter⟩ | ⟨_, zero⟩
    · rw [record, limiter]
      exact lined.fresh
    · exact fun _ => zero

theorem oneByOne_order {granted left : List PendingRequest}
    (sorted : (granted ++ left).Pairwise fun first second => first.id < second.id) :
    ∀ grant ∈ oneByOne granted left, ∀ other ∈ grant.2, grant.1.id < other.id := by
  induction granted with
  | nil =>
    intro grant absent
    cases absent
  | cons next granted ih =>
    obtain ⟨first, rest⟩ := List.pairwise_cons.mp sorted
    intro grant member
    rcases List.mem_cons.mp member with rfl | inRest
    · exact first
    · exact ih rest grant inRest

theorem fair_maybeResetWindow (ticks : Ticks) :
    Fair (system.maybeResetWindow ticks).record ↔ Fair system.record := by
  rcases system.maybeResetWindow_cases ticks with ⟨record, _⟩ | ⟨record, _⟩
  · rw [record]
  · rw [record, fair_concat]
    simp [LimiterNote.grants]

theorem limiterStep_lined (event : LimiterEvent) (lined : Lined options system) :
    Lined options (limiterStep system event) := by
  refine ⟨limiterStep_sound event lined.sound, ?_, ?_⟩
  · cases event with
    | acquire estimatedTokens ticks =>
      have reset := lined.maybeResetWindow ticks
      simp only [limiterStep, LimiterSystem.acquire]
      split
      · exact reset.sorted
      · rw [LimiterSystem.scheduleDrain_limiter]
        refine List.pairwise_append.mpr ⟨reset.sorted, List.pairwise_singleton _ _, ?_⟩
        intro request member other isOther
        rw [List.mem_singleton.mp isOther]
        exact reset.sound.arrived request (List.mem_append_right _ member)
    | reportUsage actualTokens estimatedTokens =>
      simp only [limiterStep, LimiterSystem.reportUsage, RateLimiter.reportUsage]
      split
      · exact lined.sorted
      · exact lined.sorted
    | timer place ticks =>
      simp only [limiterStep]
      split
      · have loop := ((system.fire place).maybeResetWindow ticks).drainLoop_drains
        obtain ⟨granted, drains, _⟩ := loop
        have whole := drains.fifo
        rw [LimiterSystem.maybeResetWindow_queue] at whole
        have sorted := lined.sorted
        rw [show system.limiter.queue = _ from whole] at sorted
        simp only [LimiterSystem.drain]
        split
        · exact (List.pairwise_append.mp sorted).2.1
        · rw [LimiterSystem.scheduleDrain_limiter]
          exact (List.pairwise_append.mp sorted).2.1
      · exact lined.sorted
  · cases event with
    | acquire estimatedTokens ticks =>
      have reset := lined.maybeResetWindow ticks
      simp only [limiterStep, LimiterSystem.acquire]
      split
      · intro last
        rw [LimiterSystem.proceed, List.getLast?_concat] at last
        cases last
      · rw [LimiterSystem.scheduleDrain_limiter]
        exact reset.fresh
    | reportUsage actualTokens estimatedTokens =>
      intro last
      rw [limiterStep, LimiterSystem.reportUsage, List.getLast?_concat] at last
      cases last
    | timer place ticks =>
      simp only [limiterStep]
      split
      · intro last
        have record : ((system.fire place).drain ticks).record =
            ((system.fire place).maybeResetWindow ticks).drainLoop.record := by
          simp only [LimiterSystem.drain]
          split <;> rfl
        rw [record, LimiterSystem.drainLoop, List.getLast?_concat] at last
        cases last
      · exact lined.fresh

theorem Drains.fresh_iff {limiter drained : RateLimiter} {queue granted : List PendingRequest}
    (drains : Drains limiter queue granted drained) (budget : 1 ≤ limiter.options.maxRPM)
    (zero : limiter.requestsThisWindow = 0 ∧ limiter.tokensThisWindow = 0) :
    (granted = [] → drained.queue = []) ↔
      ∀ next ∈ queue.head?, next.estimatedTokens ≤ limiter.options.maxTPM := by
  obtain ⟨noRequests, noTokens⟩ := zero
  have whole := drains.fifo
  cases granted with
  | nil =>
    rw [List.nil_append] at whole
    constructor
    · intro serves next isNext
      rw [whole, serves rfl] at isNext
      cases isNext
    · intro small _
      cases left : drained.queue with
      | nil => rfl
      | cons next later =>
        have blocked := drains.blocked next (by rw [left]; rfl)
        have fits : drained.canProceed next.estimatedTokens = true := by
          rw [RateLimiter.canProceed_iff, drains.options, drains.requests, drains.tokens,
            noRequests, noTokens, estimated_nil, zero_add, zero_add, zero_add]
          exact ⟨budget, small next (by rw [whole, left]; rfl)⟩
        rw [fits] at blocked
        cases blocked
  | cons first later =>
    have within := (drains.within (List.cons_ne_nil _ _)).2
    rw [drains.tokens, noTokens, zero_add, estimated_cons] at within
    constructor
    · intro _ next isNext
      obtain rfl : first = next := by
        rw [whole, List.cons_append, List.head?_cons] at isNext
        exact Option.some.inj isNext
      exact le_self_add.trans within
    · exact fun _ none => absurd none (List.cons_ne_nil _ _)

theorem limiterStep_fair_iff (budget : 1 ≤ options.maxRPM) (event : LimiterEvent)
    (lined : Lined options system) (fair : Fair system.record) :
    Fair (limiterStep system event).record ↔ Yields system event := by
  cases event with
  | acquire estimatedTokens ticks =>
    have reset := (fair_maybeResetWindow ticks).mpr fair
    simp only [limiterStep, LimiterSystem.acquire, Yields]
    split
    · next fits =>
        rw [LimiterSystem.proceed, fair_concat, LimiterNote.grants,
          LimiterSystem.maybeResetWindow_queue]
        have behind : (∀ other ∈ system.limiter.queue, system.acquires < other.id) ↔
            system.limiter.queue = [] := by
          constructor
          · intro later
            apply List.eq_nil_iff_forall_not_mem.mpr
            intro other waits
            have arrived := lined.sound.arrived other (List.mem_append_right _ waits)
            have overtaken := later other waits
            omega
          · intro none other waits
            rw [none] at waits
            cases waits
        simp only [reset, fits, List.forall_mem_singleton, true_and, reduceCtorEq, false_implies,
          implies_true, and_true, Bool.true_eq_false, or_false]
        exact behind
    · next full => simpa [LimiterSystem.enqueue, reset] using .inr (Bool.not_eq_true _ ▸ full)
  | reportUsage actualTokens estimatedTokens =>
    rw [limiterStep, LimiterSystem.reportUsage, fair_concat]
    simp [fair, LimiterNote.grants, Yields]
  | timer place ticks =>
    simp only [limiterStep, Yields]
    split
    · next isDue =>
        have reset : Fair ((system.fire place).maybeResetWindow ticks).record :=
          (fair_maybeResetWindow ticks).mpr fair
        have fired : Lined options (system.fire place) :=
          ⟨lined.sound.fire isDue, lined.sorted, lined.fresh⟩
        have restarted := fired.maybeResetWindow ticks
        obtain ⟨granted, drains, record⟩ :=
          ((system.fire place).maybeResetWindow ticks).drainLoop_drains
        have sorted := restarted.sorted
        rw [drains.fifo] at sorted
        have fresh := fun last =>
          drains.fresh_iff (restarted.sound.options ▸ budget) (restarted.fresh last)
        rw [restarted.sound.options, LimiterSystem.maybeResetWindow_queue,
          ← lined.sound.options] at fresh
        have same : ((system.fire place).drain ticks).record =
            ((system.fire place).maybeResetWindow ticks).drainLoop.record := by
          simp only [LimiterSystem.drain]
          split <;> rfl
        rw [same, record, fair_concat]
        simp only [reset, true_and, LimiterNote.grants, LimiterNote.drained.injEq, and_imp]
        constructor
        · rintro ⟨_, serves⟩ _ last
          exact (fresh last).mp fun none => serves _ none rfl last
        · intro small
          refine ⟨oneByOne_order sorted, ?_⟩
          rintro left none rfl last
          exact (fresh last).mpr (small isDue last) none
    · next early => simp [fair, early]

theorem limiterStep_record (system : LimiterSystem) (event : LimiterEvent) :
    system.record <+: (limiterStep system event).record := by
  have reset : ∀ (system : LimiterSystem) ticks,
      system.record <+: (system.maybeResetWindow ticks).record :=
    fun system ticks => List.prefix_append _ _
  cases event with
  | acquire estimatedTokens ticks =>
    simp only [limiterStep, LimiterSystem.acquire]
    split
    · exact (reset system ticks).trans (List.prefix_append _ _)
    · exact reset system ticks
  | reportUsage actualTokens estimatedTokens => exact List.prefix_append _ _
  | timer place ticks =>
    simp only [limiterStep]
    split
    · have loop : system.record <+:
          ((system.fire place).maybeResetWindow ticks).drainLoop.record :=
        (reset (system.fire place) ticks).trans (List.prefix_append _ _)
      simp only [LimiterSystem.drain]
      split
      · exact loop
      · exact loop
    · exact List.prefix_rfl

theorem Fair.earlier {later : List LimiterNote} (fair : Fair later) (grows : record <+: later) :
    Fair record := by
  refine ⟨fun note member => fair.1 note (grows.subset member), ?_⟩
  intro left inside
  exact fair.2 left (inside.trans grows.isInfix)

/-- When a window admits any request, the queue is fair and never stuck exactly in the runs in
which no caller fits in while others wait and no request that is first after a reset asks for
more than a window has. -/
theorem rateLimiter_fair_iff (options : RateLimiterOptions) (budget : 1 ≤ options.maxRPM)
    (start : Date) (events : List LimiterEvent) :
    Fair (run limiterStep (startLimiter options start) events).record ↔
      Guarded limiterStep Yields (startLimiter options start) events := by
  have started : Lined options (startLimiter options start) :=
    ⟨startLimiter_sound options start, .nil, fun last => by cases last⟩
  have fair : Fair (startLimiter options start).record := by
    refine ⟨?_, ?_⟩
    · intro note absent
      cases absent
    · intro left inside
      cases List.infix_nil.mp inside
  have guarded : Guarded limiterStep Yields (startLimiter options start) events ↔
      Fair (run limiterStep (startLimiter options start) events).record :=
    guarded_iff_run (Lined options) (fun system => Fair system.record)
      (fun system event lined => limiterStep_lined event lined)
      (fun system event lined fair => limiterStep_fair_iff budget event lined fair)
      (fun system event _ unfair fair => unfair (fair.earlier (limiterStep_record system event)))
      started fair
  exact guarded.symm

def taggerBudget : RateLimiterOptions where
  maxRPM := 500
  maxTPM := 30000

def chunkTooLong : List LimiterEvent := [
  .acquire 30001 {},
  .acquire 1000 {},
  .timer 0 { checked := 60000 }]

def twoWaiting : List LimiterEvent := [
  .acquire 25000 {},
  .acquire 10000 {},
  .acquire 8000 {},
  .timer 0 { checked := 60000 }]

/-- The two callers that wait are released in turn by the drain that starts the next window. -/
theorem rateLimiter_fair_tagger :
    (run limiterStep (startLimiter taggerBudget 0) twoWaiting).record =
        [.proceeds { id := 0, estimatedTokens := 25000 } [], .reset,
          .drained [{ id := 1, estimatedTokens := 10000 }, { id := 2, estimatedTokens := 8000 }]
            []] ∧
      Fair (run limiterStep (startLimiter taggerBudget 0) twoWaiting).record :=
  ⟨by decide +kernel,
    (rateLimiter_fair_iff taggerBudget (by decide) 0 twoWaiting).mpr (by decide +kernel)⟩

theorem chunkTooLong_overtaken_and_stuck :
    1 ≤ taggerBudget.maxRPM ∧
      ¬InOrder (run limiterStep (startLimiter taggerBudget 0) chunkTooLong).record ∧
        ¬DrainsAfterReset (run limiterStep (startLimiter taggerBudget 0) chunkTooLong).record := by
  have record : (run limiterStep (startLimiter taggerBudget 0) chunkTooLong).record =
      [.proceeds { id := 1, estimatedTokens := 1000 } [{ id := 0, estimatedTokens := 30001 }],
        .reset, .drained [] [{ id := 0, estimatedTokens := 30001 }]] := by
    decide +kernel
  refine ⟨by decide, ?_, ?_⟩
  · rw [record]
    intro inOrder
    have later := inOrder _ List.mem_cons_self _ List.mem_cons_self _ List.mem_cons_self
    exact absurd later (by decide)
  · rw [record]
    intro drains
    have none := drains _ ⟨[_], [], rfl⟩
    cases none

theorem lt_taggingEstimate (systemPrompt : Text) (budget : Nat) :
    (budget : ℚ≥0) < taggingEstimate systemPrompt (List.replicate (4 * budget) 'a') := by
  have length : (systemPrompt ++ List.replicate (4 * budget) 'a').length16 =
      systemPrompt.length16 + 4 * budget := by
    simp [Text.length16]
  have enough : budget < estimateTokens (systemPrompt ++ List.replicate (4 * budget) 'a') + 500 := by
    rw [estimateTokens, length]
    omega
  rw [taggingEstimate]
  exact_mod_cast enough

end

end StoryEngine.Ai
