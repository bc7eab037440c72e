import Mathlib.Algebra.Order.Field.Rat
import Mathlib.Algebra.Order.Floor.Defs
import Mathlib.Algebra.Order.Ring.NNRat
import Mathlib.Data.Rat.Floor
import StoryEngine.Data.Run
import StoryEngine.Data.TokenBucket

namespace StoryEngine.Integrations

open Data

/-! # Calls to the providers

A caller that finds no token waits for the time that one takes to flow in, and goes on then without
looking again.  With Redis the callers of an interval are counted, and those beyond the limit go
on when the interval is over.  Either way callers who wait go on together.
-/

abbrev Moment := ℚ

structure OutboundRateOptions where
  maxTokens : ℚ
  refillRatePerSecond : ℚ
  roomy : 0 ≤ maxTokens
  flows : 0 < refillRatePerSecond

/-- `Math.ceil(1000 / refillRatePerSecond)`. -/
def OutboundRateOptions.intervalMs (options : OutboundRateOptions) : ℚ :=
  (⌈1000 / options.refillRatePerSecond⌉ : ℤ)

/-- No interval sees more calls through than the tokens and what flows in meanwhile. -/
def WithinRate (options : OutboundRateOptions) (completions : List Moment) : Prop :=
  ∀ first last, first ≤ last → (countIn completions first last : ℚ) ≤
    options.maxTokens + options.refillRatePerSecond * ((last - first) / 1000)

structure OutboundRateLimiter where
  tokens : ℚ
  lastRefill : Moment

def OutboundRateLimiter.refill (options : OutboundRateOptions) (limiter : OutboundRateLimiter)
    (now : Moment) : OutboundRateLimiter :=
  let elapsed := (now - limiter.lastRefill) / 1000
  { tokens := min options.maxTokens (limiter.tokens + elapsed * options.refillRatePerSecond)
    lastRefill := now }

/-- The limiter with the clock, the times until which callers wait, and when calls went through. -/
structure LocalCalls where
  limiter : OutboundRateLimiter
  clock : Moment
  waiting : List Moment := []
  completions : List Moment := []

def startLocal (options : OutboundRateOptions) (now : Moment) : LocalCalls where
  limiter := { tokens := options.maxTokens, lastRefill := now }
  clock := now

inductive LocalEvent where
  | acquires (passed : ℚ≥0)
  | wakes (place : Nat) (passed : ℚ≥0)

section

variable (options : OutboundRateOptions) (calls : LocalCalls)

/-- The part of `acquireLocal` before it waits. -/
def LocalCalls.acquireLocal (now : Moment) : LocalCalls :=
  let limiter := calls.limiter.refill options now
  if 1 ≤ limiter.tokens then
    { calls with
      limiter := { limiter with tokens := limiter.tokens - 1 }
      clock := now
      completions := calls.completions ++ [now] }
  else
    { calls with limiter, clock := now, waiting := calls.waiting ++ [now + options.intervalMs] }

/-- The part of `acquireLocal` behind the wait. -/
def LocalCalls.wake (place : Nat) (now : Moment) : LocalCalls :=
  let limiter := calls.limiter.refill options now
  { limiter := { limiter with tokens := max 0 (limiter.tokens - 1) }
    clock := now
    waiting := calls.waiting.eraseIdx place
    completions := calls.completions ++ [now] }

def LocalCalls.isDue (place : Nat) (now : Moment) : Bool :=
  calls.waiting[place]?.any (· ≤ now)

def localStep : LocalEvent → LocalCalls
  | .acquires passed => calls.acquireLocal options (calls.clock + passed)
  | .wakes place passed =>
    let now := calls.clock + passed
    if calls.isDue place now then calls.wake options place now else calls

def FindsToken : LocalEvent → Prop
  | .acquires _ => True
  | .wakes place passed =>
    let now := calls.clock + passed
    calls.isDue place now = true → 1 ≤ (calls.limiter.refill options now).tokens

instance : DecidablePred (FindsToken options calls)
  | .acquires _ => inferInstanceAs (Decidable True)
  | .wakes _ _ => inferInstanceAs (Decidable (_ → _ ≤ _))

end

def OutboundRateOptions.perMs (options : OutboundRateOptions) : ℚ :=
  options.refillRatePerSecond / 1000

def spentBucket (options : OutboundRateOptions) (start : Moment) (completions : List Moment) :
    Bucket Moment :=
  (Bucket.full options.maxTokens start).takeAll options.maxTokens options.perMs completions

/-- The counter of an interval, which Redis drops when it expires. -/
structure RedisCounter where
  count : Nat := 0
  expiresAt : Option Moment := none

def RedisCounter.at (counter : RedisCounter) (now : Moment) : RedisCounter :=
  match counter.expiresAt with
  | some expiry => if expiry ≤ now then {} else counter
  | none => counter

inductive RedisCaller where
  | starting
  | counted (count : Nat)
  | timed (count : Nat)
  | waiting (dueAt : Moment)
  | asked (pttl : ℚ)
  | done
deriving DecidableEq

structure RedisCalls where
  counter : RedisCounter := {}
  clock : Moment
  callers : List RedisCaller := []
  completions : List Moment := []

inductive RedisEvent where
  | acquires
  | continues (place : Nat) (passed : ℚ≥0)

section

variable (options : OutboundRateOptions)

def RedisCounter.incr (counter : RedisCounter) (now : Moment) : RedisCounter :=
  { counter.at now with count := (counter.at now).count + 1 }

def RedisCounter.pExpire (counter : RedisCounter) (now : Moment) : RedisCounter :=
  if (counter.at now).count = 0 then counter.at now
  else { counter.at now with expiresAt := some (now + options.intervalMs) }

def RedisCounter.pTTL (counter : RedisCounter) (now : Moment) : ℚ :=
  if (counter.at now).count = 0 then -2
  else match (counter.at now).expiresAt with
    | some expiry => expiry - now
    | none => -1

def RedisCaller.admitted (counter : RedisCounter) (now : Moment) (count : Nat) : RedisCaller :=
  if options.maxTokens < count then .asked (counter.pTTL now) else .done

def RedisCaller.advance (counter : RedisCounter) (now : Moment) :
    RedisCaller → RedisCounter × RedisCaller
  | .starting => (counter.incr now, .counted (counter.incr now).count)
  | .counted count =>
    if count = 1 then (counter.pExpire options now, .timed count)
    else (counter, .admitted options counter now count)
  | .timed count => (counter, .admitted options counter now count)
  | .asked pttl =>
    let waitMs := if 0 < pttl then pttl else options.intervalMs
    (counter, .waiting (now + waitMs))
  | .waiting dueAt => (counter, if dueAt ≤ now then .done else .waiting dueAt)
  | .done => (counter, .done)

def RedisCaller.completes (counter : RedisCounter) (now : Moment) (caller : RedisCaller) : Bool :=
  caller != .done && (caller.advance options counter now).2 == .done

def redisStep (calls : RedisCalls) : RedisEvent → RedisCalls
  | .acquires => { calls with callers := calls.callers ++ [.starting] }
  | .continues place passed =>
    let now := calls.clock + passed
    match calls.callers[place]? with
    | none => calls
    | some caller =>
      let (counter, next) := caller.advance options calls.counter now
      { counter
        clock := now
        callers := calls.callers.set place next
        completions :=
          calls.completions ++
            if caller.completes options calls.counter now then [now] else [] }

/-- The caller is counted within the limit and still has to go on. -/
def RedisCaller.isAdmitted : RedisCaller → Bool
  | .counted count | .timed count => count ≤ options.maxTokens
  | _ => false

def admitted (callers : List RedisCaller) : Nat := callers.countP (·.isAdmitted options)

def RedisCalls.HasRecovered (calls : RedisCalls) (now : Moment) : Prop :=
  admitted options calls.callers = 0 ∧ Recovered options.perMs calls.completions now

instance (calls : RedisCalls) (now : Moment) : Decidable (calls.HasRecovered options now) :=
  inferInstanceAs (Decidable (_ ∧ _))

def RedisCaller.MayContinue (calls : RedisCalls) (now : Moment) : RedisCaller → Prop
  | .starting => (calls.counter.at now).count = 0 → calls.HasRecovered options now
  | .waiting dueAt => dueAt ≤ now → 1 ≤ options.maxTokens ∧ calls.HasRecovered options now
  | _ => True

instance (calls : RedisCalls) (now : Moment) :
    DecidablePred (RedisCaller.MayContinue options calls now)
  | .starting | .waiting _ => inferInstanceAs (Decidable (_ → _))
  | .counted _ | .timed _ | .asked _ | .done => inferInstanceAs (Decidable True)

/-- When an interval begins, and when a caller goes on who has waited, nobody counted before is
still to go on, and the tokens of all earlier calls have flowed in. -/
def WindowsRecover (calls : RedisCalls) : RedisEvent → Prop
  | .acquires => True
  | .continues place passed =>
    ∀ caller ∈ calls.callers[place]?, caller.MayContinue options calls (calls.clock + passed)

instance (calls : RedisCalls) : DecidablePred (WindowsRecover options calls)
  | .acquires => inferInstanceAs (Decidable True)
  | .continues _ _ => inferInstanceAs (Decidable (∀ caller ∈ calls.callers[_]?, _))

end

def startRedis (now : Moment) : RedisCalls := { clock := now }

section

variable {options : OutboundRateOptions} {start now : Moment} {completions : List Moment}

theorem OutboundRateOptions.perMs_nonneg : 0 ≤ options.perMs := by
  have flows := options.flows
  rw [perMs]
  positivity

def AllServed (options : OutboundRateOptions) (start : Moment) (completions : List Moment) : Prop :=
  (Bucket.full options.maxTokens start).Serves options.maxTokens options.perMs completions

theorem withinRate_iff : WithinRate options completions ↔
    RateBounded options.maxTokens options.perMs completions := by
  have same : ∀ first last : Moment, options.refillRatePerSecond * ((last - first) / 1000) =
      options.perMs * (last - first) := by
    intro first last
    rw [OutboundRateOptions.perMs]
    ring
  simp only [WithinRate, RateBounded, same]

theorem withinRate_iff_allServed (ordered : (start :: completions).Pairwise (· ≤ ·)) :
    WithinRate options completions ↔ AllServed options start completions := by
  rw [AllServed, Bucket.serves_iff_rateBounded start options.perMs_nonneg options.roomy ordered]
  exact withinRate_iff

theorem allServed_concat : AllServed options start (completions ++ [now]) ↔
    AllServed options start completions ∧
      1 ≤ ((spentBucket options start completions).refill options.maxTokens options.perMs now).level :=
  Bucket.serves_concat

theorem OutboundRateLimiter.refill_tokens (limiter : OutboundRateLimiter) :
    (limiter.refill options now).tokens =
      min options.maxTokens (limiter.tokens + options.perMs * (now - limiter.lastRefill)) := by
  simp only [refill, OutboundRateOptions.perMs]
  congr 2
  ring

end

section

variable {options : OutboundRateOptions} {start : Moment} {calls : LocalCalls}

/-- As long as each call has found a token, the limiter has what is left in the bucket. -/
structure Mirrors (options : OutboundRateOptions) (start : Moment) (calls : LocalCalls) : Prop where
  ordered : (start :: calls.completions).Pairwise (· ≤ ·)
  past : ∀ time ∈ start :: calls.completions, time ≤ calls.clock
  refilled : calls.limiter.lastRefill ≤ calls.clock
  tokens : AllServed options start calls.completions →
    (spentBucket options start calls.completions).filledAt ≤ calls.limiter.lastRefill ∧
      calls.limiter.tokens =
        ((spentBucket options start calls.completions).refill options.maxTokens options.perMs
          calls.limiter.lastRefill).level

theorem Mirrors.refill_tokens (mirrors : Mirrors options start calls)
    (served : AllServed options start calls.completions) {now : Moment}
    (forward : calls.clock ≤ now) :
    (calls.limiter.refill options now).tokens =
      ((spentBucket options start calls.completions).refill options.maxTokens options.perMs
        now).level := by
  obtain ⟨filled, tokens⟩ := mirrors.tokens served
  have again : ((spentBucket options start calls.completions).refill options.maxTokens
      options.perMs calls.limiter.lastRefill).refill options.maxTokens options.perMs now =
      (spentBucket options start calls.completions).refill options.maxTokens options.perMs now :=
    Bucket.refill_refill options.perMs_nonneg (mirrors.refilled.trans forward)
  rw [OutboundRateLimiter.refill_tokens, tokens, ← again]
  rfl

theorem Mirrors.completes (mirrors : Mirrors options start calls) {now : Moment} {tokens : ℚ}
    {waiting : List Moment} (forward : calls.clock ≤ now)
    (taken : 1 ≤ (calls.limiter.refill options now).tokens →
      tokens = (calls.limiter.refill options now).tokens - 1) :
    Mirrors options start {
      limiter := { calls.limiter.refill options now with tokens }
      clock := now
      waiting
      completions := calls.completions ++ [now] } := by
  have past : ∀ time ∈ start :: calls.completions, time ≤ now :=
    fun time member => (mirrors.past time member).trans forward
  refine ⟨?_, ?_, le_rfl, ?_⟩
  · rw [← List.cons_append, List.pairwise_append]
    refine ⟨mirrors.ordered, List.pairwise_singleton _ _, ?_⟩
    intro time member last isLast
    rw [List.mem_singleton.mp isLast]
    exact past time member
  · intro time member
    rw [← List.cons_append] at member
    rcases List.mem_append.mp member with earlier | last
    · exact past time earlier
    · exact (List.mem_singleton.mp last).le
  · intro served
    obtain ⟨earlier, token⟩ := allServed_concat.mp served
    have found := mirrors.refill_tokens earlier forward
    have spent : spentBucket options start (calls.completions ++ [now]) =
        (spentBucket options start calls.completions).take options.maxTokens options.perMs now :=
      Bucket.takeAll_concat
    rw [← found] at token
    refine ⟨by rw [spent]; exact le_rfl, ?_⟩
    simp only [OutboundRateLimiter.refill, spent]
    rw [Bucket.take_refill, ← found, taken token]

theorem Mirrors.waits (mirrors : Mirrors options start calls) {now : Moment}
    {waiting : List Moment} (forward : calls.clock ≤ now) :
    Mirrors options start { calls with
      limiter := calls.limiter.refill options now
      clock := now
      waiting } where
  ordered := mirrors.ordered
  past time member := (mirrors.past time member).trans forward
  refilled := le_rfl
  tokens served := by
    obtain ⟨filled, _⟩ := mirrors.tokens served
    exact ⟨(filled.trans mirrors.refilled).trans forward, mirrors.refill_tokens served forward⟩

theorem localStep_mirrors (event : LocalEvent) (mirrors : Mirrors options start calls) :
    Mirrors options start (localStep options calls event) := by
  cases event with
  | acquires passed =>
    have forward : calls.clock ≤ calls.clock + passed := le_add_of_nonneg_right passed.2
    simp only [localStep, LocalCalls.acquireLocal]
    split
    · exact mirrors.completes forward fun _ => rfl
    · exact mirrors.waits forward
  | wakes place passed =>
    have forward : calls.clock ≤ calls.clock + passed := le_add_of_nonneg_right passed.2
    simp only [localStep, LocalCalls.wake]
    split
    · exact mirrors.completes forward fun token => max_eq_right (by linarith)
    · exact mirrors

theorem localStep_served_iff (event : LocalEvent) (mirrors : Mirrors options start calls)
    (served : AllServed options start calls.completions) :
    AllServed options start (localStep options calls event).completions ↔
      FindsToken options calls event := by
  cases event with
  | acquires passed =>
    have forward : calls.clock ≤ calls.clock + passed := le_add_of_nonneg_right passed.2
    have found := mirrors.refill_tokens served forward
    simp only [localStep, LocalCalls.acquireLocal, FindsToken, iff_true]
    split
    · next token => exact allServed_concat.mpr ⟨served, found ▸ token⟩
    · exact served
  | wakes place passed =>
    have forward : calls.clock ≤ calls.clock + passed := le_add_of_nonneg_right passed.2
    have found := mirrors.refill_tokens served forward
    simp only [localStep, LocalCalls.wake, FindsToken]
    split
    · next isDue =>
        rw [allServed_concat, ← found]
        simp [served, isDue]
    · next early => simp [served, early]

end

section

variable {options : OutboundRateOptions} {start : Moment} {calls : RedisCalls}

structure InTime (start : Moment) (calls : RedisCalls) : Prop where
  ordered : (start :: calls.completions).Pairwise (· ≤ ·)
  past : ∀ time ∈ start :: calls.completions, time ≤ calls.clock

theorem redisStep_inTime (event : RedisEvent) (inTime : InTime start calls) :
    InTime start (redisStep options calls event) := by
  cases event with
  | acquires => exact ⟨inTime.ordered, inTime.past⟩
  | continues place passed =>
    have forward : calls.clock ≤ calls.clock + passed := le_add_of_nonneg_right passed.2
    have past : ∀ time ∈ start :: calls.completions, time ≤ calls.clock + passed :=
      fun time member => (inTime.past time member).trans forward
    simp only [redisStep]
    split
    · exact inTime
    · split
      · refine ⟨?_, ?_⟩
        · rw [← List.cons_append, List.pairwise_append]
          refine ⟨inTime.ordered, List.pairwise_singleton _ _, ?_⟩
          intro time member last isLast
          rw [List.mem_singleton.mp isLast]
          exact past time member
        · intro time member
          rw [← List.cons_append] at member
          rcases List.mem_append.mp member with earlier | last
          · exact past time earlier
          · exact (List.mem_singleton.mp last).le
      · rw [List.append_nil]
        exact ⟨inTime.ordered, past⟩

theorem admitted_set {callers : List RedisCaller} {place : Nat} {caller next : RedisCaller}
    (there : callers[place]? = some caller) :
    admitted options (callers.set place next) + (caller.isAdmitted options).toNat =
      admitted options callers + (next.isAdmitted options).toNat := by
  obtain ⟨inside, rfl⟩ := List.getElem?_eq_some_iff.mp there
  have counted := @List.boole_getElem_le_countP _ (·.isAdmitted options) callers _ inside
  have asNat (admits : Bool) : admits.toNat = if admits then 1 else 0 := by
    cases admits <;> rfl
  simp only [admitted, List.countP_set inside, asNat]
  omega

/-- The calls of the running interval, those counted and still to go on among them, are within the
limit, and before it began all earlier tokens had flowed in. -/
structure Divided (options : OutboundRateOptions) (calls : RedisCalls) (opened : Moment)
    (earlier current : List Moment) : Prop where
  completions : calls.completions = earlier ++ current
  bounded : RateBounded options.maxTokens options.perMs earlier
  recovered : Recovered options.perMs earlier opened
  before : ∀ time ∈ earlier, time ≤ opened
  after : ∀ time ∈ current, opened ≤ time
  past : opened ≤ calls.clock
  fits : ((current.length + admitted options calls.callers : Nat) : ℚ) ≤ options.maxTokens
  counted : calls.counter.count ≠ 0 →
    current.length + admitted options calls.callers ≤ calls.counter.count

structure Windowed (options : OutboundRateOptions) (start : Moment) (calls : RedisCalls) :
    Prop where
  inTime : InTime start calls
  divided : ∃ opened earlier current, Divided options calls opened earlier current

section

variable {opened now : Moment} {earlier current : List Moment} {counter : RedisCounter}
  {callers : List RedisCaller}

theorem Divided.rateBounded (divided : Divided options calls opened earlier current)
    (inTime : InTime start calls) :
    RateBounded options.maxTokens options.perMs calls.completions := by
  have ordered : earlier.Pairwise (· ≤ ·) := by
    have all := (List.pairwise_cons.mp inTime.ordered).2
    rw [divided.completions] at all
    exact (List.pairwise_append.mp all).1
  have few : (current.length : ℚ) ≤ options.maxTokens := by
    have fits := divided.fits
    push_cast at fits
    linarith [(admitted options calls.callers).cast_nonneg (α := ℚ)]
  rw [divided.completions]
  exact divided.bounded.append options.perMs_nonneg ordered divided.recovered divided.before
    divided.after few

theorem Divided.stays (divided : Divided options calls opened earlier current)
    (forward : calls.clock ≤ now)
    (noMore : admitted options callers ≤ admitted options calls.callers)
    (asCounted : counter.count ≠ 0 → counter.count = calls.counter.count) :
    Divided options { calls with counter, clock := now, callers } opened earlier current where
  completions := divided.completions
  bounded := divided.bounded
  recovered := divided.recovered
  before := divided.before
  after := divided.after
  past := divided.past.trans forward
  fits := by
    refine le_trans ?_ divided.fits
    exact_mod_cast Nat.add_le_add_left noMore _
  counted := by
    intro running
    have within := divided.counted (asCounted running ▸ running)
    have same := asCounted running
    dsimp only at running same ⊢
    omega

theorem Divided.goesOn (divided : Divided options calls opened earlier current)
    (forward : calls.clock ≤ now)
    (fewer : admitted options callers + 1 = admitted options calls.callers) :
    Divided options { calls with
      clock := now
      callers
      completions := calls.completions ++ [now] } opened earlier (current ++ [now]) where
  completions := by simp [divided.completions]
  bounded := divided.bounded
  recovered := divided.recovered
  before := divided.before
  after := by
    intro time member
    rcases List.mem_append.mp member with early | last
    · exact divided.after time early
    · exact List.mem_singleton.mp last ▸ divided.past.trans forward
  past := divided.past.trans forward
  fits := by
    have same : (current ++ [now]).length + admitted options callers =
        current.length + admitted options calls.callers := by
      rw [List.length_append, List.length_singleton]
      omega
    exact same ▸ divided.fits
  counted := by
    intro running
    have within := divided.counted running
    rw [List.length_append, List.length_singleton]
    dsimp only
    omega

theorem Divided.counts (divided : Divided options calls opened earlier current)
    (forward : calls.clock ≤ now) (running : calls.counter.count ≠ 0)
    (more : admitted options callers = admitted options calls.callers +
      (RedisCaller.isAdmitted options (.counted (calls.counter.count + 1))).toNat) :
    Divided options { calls with
      counter := { calls.counter with count := calls.counter.count + 1 }
      clock := now
      callers } opened earlier current where
  completions := divided.completions
  bounded := divided.bounded
  recovered := divided.recovered
  before := divided.before
  after := divided.after
  past := divided.past.trans forward
  fits := by
    have within := divided.counted running
    dsimp only
    rw [more]
    cases room : RedisCaller.isAdmitted options (.counted (calls.counter.count + 1)) with
    | false => exact divided.fits
    | true =>
      have below : ((calls.counter.count + 1 : Nat) : ℚ) ≤ options.maxTokens :=
        of_decide_eq_true room
      refine le_trans ?_ below
      exact_mod_cast Nat.succ_le_succ within
  counted := by
    intro _
    have within := divided.counted running
    have one := Bool.toNat_le (RedisCaller.isAdmitted options (.counted (calls.counter.count + 1)))
    dsimp only
    omega

/-- What came before is behind, once all tokens have flowed in. -/
theorem Divided.begins (divided : Divided options calls opened earlier current)
    (inTime : InTime start calls) (forward : calls.clock ≤ now)
    (recovered : Recovered options.perMs calls.completions now)
    (current' : List Moment) (isNow : ∀ time ∈ current', time = now)
    (fits : ((current'.length + admitted options callers : Nat) : ℚ) ≤ options.maxTokens)
    (counted : counter.count ≠ 0 →
      current'.length + admitted options callers ≤ counter.count) :
    Divided options { counter, clock := now, callers, completions := calls.completions ++ current' }
      now calls.completions current' where
  completions := rfl
  bounded := divided.rateBounded inTime
  recovered := recovered
  before time member := (inTime.past time (List.mem_cons_of_mem _ member)).trans forward
  after time member := (isNow time member).ge
  past := le_rfl
  fits := fits
  counted := counted

theorem Divided.admits (divided : Divided options calls opened earlier current)
    (forward : calls.clock ≤ now) {place count : Nat} {caller : RedisCaller}
    (there : calls.callers[place]? = some caller)
    (isCounted : caller.isAdmitted options = decide ((count : ℚ) ≤ options.maxTokens)) :
    ∃ current, Divided options { calls with
      clock := now
      callers := calls.callers.set place (.admitted options calls.counter now count)
      completions := calls.completions ++
        if RedisCaller.admitted options calls.counter now count == .done then [now] else [] }
      opened earlier current := by
  have sum := @admitted_set options calls.callers place caller
    (.admitted options calls.counter now count) there
  rw [RedisCaller.admitted] at sum ⊢
  split
  · next beyond =>
    rw [if_pos beyond, isCounted, decide_eq_false (not_le.mpr beyond)] at sum
    refine ⟨current, ?_⟩
    simpa using divided.stays forward sum.le fun _ => rfl
  · next within =>
    rw [if_neg within, isCounted, decide_eq_true (not_lt.mp within)] at sum
    exact ⟨current ++ [now], divided.goesOn forward sum⟩

end

theorem RedisCounter.at_running {counter : RedisCounter} {now : Moment}
    (running : (counter.at now).count ≠ 0) : counter.at now = counter := by
  rw [RedisCounter.at] at running ⊢
  split
  · next expiry isSet =>
    simp only [isSet] at running
    split
    · next expired => exact absurd rfl (if_pos expired ▸ running)
    · rfl
  · rfl

theorem RedisCounter.pExpire_count {counter : RedisCounter} {now : Moment}
    (running : (counter.pExpire options now).count ≠ 0) :
    (counter.pExpire options now).count = counter.count := by
  rw [pExpire] at running ⊢
  split
  · next closed =>
    rw [if_pos closed] at running
    exact absurd closed running
  · next counts =>
    have same : (counter.at now).count = counter.count := congrArg count (at_running counts)
    exact same

theorem isAdmitted_fits {count : Nat} (one : 1 ≤ count) :
    ((RedisCaller.isAdmitted options (.counted count)).toNat : ℚ) ≤ options.maxTokens := by
  cases room : RedisCaller.isAdmitted options (.counted count) with
  | false => exact_mod_cast options.roomy
  | true =>
    have within : (count : ℚ) ≤ options.maxTokens := of_decide_eq_true room
    refine le_trans ?_ within
    exact_mod_cast one

/-- The first call of an interval is counted when all earlier calls have gone on. -/
theorem Divided.opens (divided : Divided options calls opened earlier current)
    (inTime : InTime start calls) (forward : calls.clock ≤ now)
    (closed : (calls.counter.at now).count = 0) (recovered : calls.HasRecovered options now)
    (more : admitted options callers = admitted options calls.callers +
      (RedisCaller.isAdmitted options (.counted (calls.counter.incr now).count)).toNat) :
    Divided options { calls with
      counter := calls.counter.incr now
      clock := now
      callers
      completions := calls.completions ++ [] } now calls.completions [] := by
  obtain ⟨nobody, tokens⟩ := recovered
  have one : (calls.counter.incr now).count = 1 := by
    rw [RedisCounter.incr, closed]
  have only : ([] : List Moment).length + admitted options callers =
      (RedisCaller.isAdmitted options (.counted (calls.counter.incr now).count)).toNat := by
    rw [nobody, Nat.zero_add] at more
    rw [List.length_nil, Nat.zero_add]
    exact more
  refine divided.begins inTime forward tokens [] (by simp) ?_ fun _ => ?_
  · exact only ▸ isAdmitted_fits one.ge
  · exact only.le.trans ((Bool.toNat_le _).trans one.ge)

/-- A caller who has waited goes on when all earlier calls have. -/
theorem Divided.resumes (divided : Divided options calls opened earlier current)
    (inTime : InTime start calls) (forward : calls.clock ≤ now) (one : 1 ≤ options.maxTokens)
    (recovered : calls.HasRecovered options now)
    (noMore : admitted options callers ≤ admitted options calls.callers) :
    Divided options { calls with
      clock := now
      callers
      completions := calls.completions ++ [now] } now calls.completions [now] := by
  obtain ⟨nobody, tokens⟩ := recovered
  have nobodyStill : admitted options callers = 0 := Nat.le_zero.mp (nobody ▸ noMore)
  refine divided.begins inTime forward tokens [now] (by simp) ?_ fun running => ?_
  · rw [nobodyStill]
    exact_mod_cast one
  · rw [nobodyStill]
    exact Nat.pos_of_ne_zero running

theorem redisStep_windowed (event : RedisEvent) (windowed : Windowed options start calls)
    (recovers : WindowsRecover options calls event) :
    Windowed options start (redisStep options calls event) := by
  obtain ⟨inTime, opened, earlier, current, divided⟩ := windowed
  refine ⟨redisStep_inTime event inTime, ?_⟩
  cases event with
  | acquires =>
    refine ⟨opened, earlier, current, divided.stays le_rfl ?_ fun _ => rfl⟩
    simp [admitted, RedisCaller.isAdmitted]
  | continues place passed =>
    have forward : calls.clock ≤ calls.clock + passed := le_add_of_nonneg_right passed.2
    cases there : calls.callers[place]? with
    | none =>
      simp only [redisStep, there]
      exact ⟨opened, earlier, current, divided⟩
    | some caller =>
      have may := recovers caller there
      have sum := fun next => @admitted_set options calls.callers place caller next there
      simp only [redisStep, there, RedisCaller.completes]
      cases caller with
      | starting =>
        by_cases closed : (calls.counter.at (calls.clock + passed)).count = 0
        · exact ⟨_, _, _, divided.opens inTime forward closed (may closed)
            (sum (.counted (calls.counter.incr (calls.clock + passed)).count))⟩
        · have same := RedisCounter.at_running closed
          rw [same] at closed
          simp only [RedisCaller.advance, RedisCounter.incr, same]
          refine ⟨opened, earlier, current, ?_⟩
          simpa using divided.counts forward closed (sum (.counted (calls.counter.count + 1)))
      | counted count =>
        by_cases first : count = 1
        · simp only [RedisCaller.advance, if_pos first]
          refine ⟨opened, earlier, current, ?_⟩
          have kept := sum (.timed count)
          simpa using divided.stays forward (Nat.add_right_cancel kept).le RedisCounter.pExpire_count
        · simp only [RedisCaller.advance, if_neg first]
          obtain ⟨current, admits⟩ := divided.admits forward there rfl
          exact ⟨opened, earlier, current, admits⟩
      | timed count =>
        obtain ⟨current, admits⟩ := divided.admits forward there rfl
        exact ⟨opened, earlier, current, admits⟩
      | waiting dueAt =>
        by_cases isDue : dueAt ≤ calls.clock + passed
        · obtain ⟨one, recovered⟩ := may isDue
          simp only [RedisCaller.advance, if_pos isDue]
          exact ⟨_, _, _, divided.resumes inTime forward one recovered (sum .done).le⟩
        · simp only [RedisCaller.advance, if_neg isDue]
          refine ⟨opened, earlier, current, ?_⟩
          simpa using divided.stays forward (sum (.waiting dueAt)).le fun _ => rfl
      | asked pttl =>
        refine ⟨opened, earlier, current, ?_⟩
        simpa [RedisCaller.advance] using
          divided.stays forward (sum (.waiting _)).le fun _ => rfl
      | done =>
        refine ⟨opened, earlier, current, ?_⟩
        simpa [RedisCaller.advance] using divided.stays forward (sum .done).le fun _ => rfl

end

section

variable {options : OutboundRateOptions} {start : Moment}

theorem localStep_completions {calls : LocalCalls} (event : LocalEvent) :
    calls.completions <+: (localStep options calls event).completions := by
  cases event with
  | acquires passed =>
    simp only [localStep, LocalCalls.acquireLocal]
    split
    · exact List.prefix_append _ _
    · exact List.prefix_rfl
  | wakes place passed =>
    simp only [localStep]
    split
    · exact List.prefix_append _ _
    · exact List.prefix_rfl

theorem AllServed.earlier {completions later : List Moment} (served : AllServed options start later)
    (grows : completions <+: later) : AllServed options start completions := by
  obtain ⟨added, rfl⟩ := grows
  induction added using List.reverseRecOn with
  | nil => rwa [List.append_nil] at served
  | append_singleton added time ih =>
    rw [← List.append_assoc] at served
    exact ih (allServed_concat.mp served).1

theorem local_within_iff (events : List LocalEvent) :
    WithinRate options (run (localStep options) (startLocal options start) events).completions ↔
      Guarded (localStep options) (FindsToken options) (startLocal options start) events := by
  have started : Mirrors options start (startLocal options start) := by
    refine ⟨List.pairwise_singleton _ _, by simp [startLocal], le_rfl, ?_⟩
    intro _
    simp [startLocal, spentBucket, Bucket.takeAll, Bucket.full, Bucket.refill]
  have keeps : ∀ calls event, Mirrors options start calls →
      Mirrors options start (localStep options calls event) :=
    fun _ event mirrors => localStep_mirrors event mirrors
  have final := run_invariant (Mirrors options start) keeps events started
  rw [withinRate_iff_allServed final.ordered]
  exact (guarded_iff_run (Mirrors options start)
    (fun calls => AllServed options start calls.completions) keeps
    (fun _ event mirrors served => localStep_served_iff event mirrors served)
    (fun _ event _ unserved served => unserved (served.earlier (localStep_completions event)))
    started trivial).symm

theorem redis_within (events : List RedisEvent)
    (recovers : Guarded (redisStep options) (WindowsRecover options) (startRedis start) events) :
    WithinRate options (run (redisStep options) (startRedis start) events).completions := by
  have started : Windowed options start (startRedis start) := by
    refine ⟨⟨List.pairwise_singleton _ _, by simp [startRedis]⟩, start, [], [], ?_⟩
    refine ⟨rfl, ?_, ?_, ?_, ?_, le_rfl, by simpa [startRedis, admitted] using options.roomy, ?_⟩
    · intro first last forward
      exact add_nonneg options.roomy
        (mul_nonneg options.perMs_nonneg (sub_nonneg.mpr forward))
    · intro time member
      cases member
    · intro time member
      cases member
    · intro time member
      cases member
    · exact fun running => absurd rfl running
  have final := run_guarded_invariant (Windowed options start)
    (fun _ event windowed recover => redisStep_windowed event windowed recover) started recovers
  obtain ⟨inTime, opened, earlier, current, divided⟩ := final
  exact withinRate_iff.mpr (divided.rateBounded inTime)

end

/-- The local path keeps the rate exactly in the runs in which every caller who has waited finds a
token.  The path with Redis keeps it where the tokens have flowed in again whenever an interval
begins, and whenever a caller goes on who has waited. -/
theorem outboundRate_within (options : OutboundRateOptions) (start : Moment) :
    (∀ events, WithinRate options
        (run (localStep options) (startLocal options start) events).completions ↔
      Guarded (localStep options) (FindsToken options) (startLocal options start) events) ∧
    ∀ events, Guarded (redisStep options) (WindowsRecover options) (startRedis start) events →
      WithinRate options (run (redisStep options) (startRedis start) events).completions :=
  ⟨local_within_iff, redis_within⟩

def threeASecond : OutboundRateOptions where
  maxTokens := 3
  refillRatePerSecond := 3
  roomy := by decide
  flows := by decide

/-- The fourth caller goes on when the tokens of three have flowed in, and the fifth begins an
interval after it. -/
def fiveSpread : List RedisEvent :=
  List.replicate 4 RedisEvent.acquires ++ List.replicate 4 (RedisEvent.continues 0 0) ++
    List.replicate 3 (RedisEvent.continues 1 0) ++ List.replicate 3 (RedisEvent.continues 2 0) ++
    List.replicate 3 (RedisEvent.continues 3 0) ++
    [RedisEvent.continues 3 1200, .acquires, .continues 4 400, .continues 4 0, .continues 4 0]

theorem five_calls_within_rate :
    (run (redisStep threeASecond) (startRedis 0) fiveSpread).completions =
        [0, 0, 0, 1200, 1600] ∧
      WithinRate threeASecond
        (run (redisStep threeASecond) (startRedis 0) fiveSpread).completions :=
  ⟨by decide +kernel, (outboundRate_within threeASecond 0).2 fiveSpread (by decide +kernel)⟩

def sevenLocally : List LocalEvent :=
  List.replicate 7 (LocalEvent.acquires 0) ++
    LocalEvent.wakes 0 334 :: List.replicate 3 (LocalEvent.wakes 0 0)

def sevenWithRedis : List RedisEvent :=
  List.replicate 7 RedisEvent.acquires ++
    List.replicate 3 (RedisEvent.continues 0 0) ++
    ([1, 2].flatMap fun place => List.replicate 2 (RedisEvent.continues place 0)) ++
    ([3, 4, 5, 6].flatMap fun place => List.replicate 3 (RedisEvent.continues place 0)) ++
    [RedisEvent.continues 3 334, .continues 4 0, .continues 5 0, .continues 6 0]

theorem seven_calls_beyond_rate :
    ¬WithinRate threeASecond
        (run (localStep threeASecond) (startLocal threeASecond 0) sevenLocally).completions ∧
      ¬WithinRate threeASecond
        (run (redisStep threeASecond) (startRedis 0) sevenWithRedis).completions := by
  have locally : (run (localStep threeASecond) (startLocal threeASecond 0)
      sevenLocally).completions = [0, 0, 0, 334, 334, 334, 334] := by
    decide +kernel
  have withRedis : (run (redisStep threeASecond) (startRedis 0) sevenWithRedis).completions =
      [0, 0, 0, 334, 334, 334, 334] := by
    decide +kernel
  have beyond : ¬WithinRate threeASecond [0, 0, 0, 334, 334, 334, 334] := by
    intro within
    exact absurd (within 0 334 (by decide)) (by decide +kernel)
  rw [locally, withRedis]
  exact ⟨beyond, beyond⟩

end StoryEngine.Integrations
