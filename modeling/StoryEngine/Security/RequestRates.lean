import Mathlib.Data.List.Pairwise
import Mathlib.Logic.Function.Basic
import StoryEngine.Data.Run
import StoryEngine.Schema.Rows

namespace StoryEngine.Security

open Data Schema

/-! # The limiter of the requests

In the memory of a process every address has a window, which its first request opens and which ends
after its time.  The requests of a window are counted, and those beyond the limit turned away.
-/

structure RateLimitEntry where
  count : Nat
  resetAt : Nat

structure RequestRateOptions where
  maxRequests : Nat
  windowMs : Nat
  message : Option Text := none

abbrev RateLimitStore := Text → Option RateLimitEntry

inductive RateDecision where
  | next
  | tooManyRequests (retryAfter : Nat) (message : Text)
deriving DecidableEq

def rateLimitMessage : Text := ("Too many requests. Please try again later." : String)

def inMemoryCheck (options : RequestRateOptions) (store : RateLimitStore) (ip : Text) (now : Nat) :
    RateDecision × RateLimitStore :=
  match store ip with
  | none =>
    (.next, Function.update store ip (some { count := 1, resetAt := now + options.windowMs }))
  | some entry =>
    if entry.resetAt < now then
      (.next, Function.update store ip (some { count := 1, resetAt := now + options.windowMs }))
    else
      let entry := { entry with count := entry.count + 1 }
      let store := Function.update store ip (some entry)
      if options.maxRequests < entry.count then
        (.tooManyRequests ((entry.resetAt - now + 999) / 1000)
          (options.message.getD rateLimitMessage), store)
      else (.next, store)

def unexpired (now : Nat) (entry : Option RateLimitEntry) : Option RateLimitEntry :=
  entry.filter fun entry => !decide (entry.resetAt < now)

def cleanup (store : RateLimitStore) (now : Nat) : RateLimitStore :=
  fun ip => unexpired now (store ip)

inductive RateEvent where
  | request (ip : Text) (now : Nat)
  | cleanup (now : Nat)

def RateEvent.time : RateEvent → Nat
  | .request _ now => now
  | .cleanup now => now

def RateEvent.isRequest : RateEvent → Bool
  | .request _ _ => true
  | .cleanup _ => false

/-- What a client is told, and whether its request starts a window. -/
structure RateAnswer where
  ip : Text
  time : Nat
  starts : Bool
  decision : RateDecision

section

variable (options : RequestRateOptions) (store : RateLimitStore)

def rateStep : RateEvent → RateLimitStore
  | .request ip now => (inMemoryCheck options store ip now).2
  | .cleanup now => Security.cleanup store now

def rateAnswers : RateEvent → List RateAnswer
  | .request ip now =>
    [{ ip := ip, time := now, starts := (unexpired now (store ip)).isNone,
       decision := (inMemoryCheck options store ip now).1 }]
  | .cleanup _ => []

def answered (events : List RateEvent) : List RateAnswer :=
  log (rateStep options) (rateAnswers options) store events

end

def RateAnswer.StartsFor (answer : RateAnswer) (ip : Text) : Prop :=
  answer.ip = ip ∧ answer.starts = true

def RateAnswer.passesIn (ip : Text) (first last : Nat) (answer : RateAnswer) : Bool :=
  answer.ip == ip && answer.decision == .next && decide (first ≤ answer.time) &&
    decide (answer.time ≤ last)

def passedIn (answers : List RateAnswer) (ip : Text) (first last : Nat) : Nat :=
  answers.countP (RateAnswer.passesIn ip first last)

def requestTimes (ip : Text) (events : List RateEvent) : List Nat :=
  events.filterMap fun
    | .request client now => if client = ip then some now else none
    | .cleanup _ => none

section

variable (options : RequestRateOptions) (entry : Option RateLimitEntry) (now : Nat)

def countedEntry : RateLimitEntry :=
  match unexpired now entry with
  | none => { count := 1, resetAt := now + options.windowMs }
  | some entry => { entry with count := entry.count + 1 }

def clientDecision : RateDecision :=
  match unexpired now entry with
  | none => .next
  | some entry =>
    if options.maxRequests < entry.count + 1 then
      .tooManyRequests ((entry.resetAt - now + 999) / 1000)
        (options.message.getD rateLimitMessage)
    else .next

def clientAnswers (ip : Text) : List RateAnswer :=
  [{ ip := ip, time := now, starts := (unexpired now entry).isNone,
     decision := clientDecision options entry now }]

def clientStep : Option RateLimitEntry := some (countedEntry options entry now)

end

section

variable {options : RequestRateOptions} {store : RateLimitStore} {ip client : Text}
  {now first last clock : Nat} {answers : List RateAnswer} {answer : RateAnswer}
  {entry : Option RateLimitEntry}

@[simp] theorem unexpired_none : unexpired now none = none := rfl

theorem unexpired_over {entry : RateLimitEntry} (past : entry.resetAt < now) :
    unexpired now (some entry) = none := by
  rw [unexpired, Option.filter_some_neg]
  simpa using past

theorem unexpired_open {entry : RateLimitEntry} (current : now ≤ entry.resetAt) :
    unexpired now (some entry) = some entry := by
  rw [unexpired, Option.filter_some_pos]
  simpa using current

theorem unexpired_unexpired (later : first ≤ last) (entry : Option RateLimitEntry) :
    unexpired last (unexpired first entry) = unexpired last entry := by
  cases entry with
  | none => rfl
  | some entry =>
    rcases Nat.lt_or_ge entry.resetAt first with past | current
    · rw [unexpired_over past, unexpired_over (past.trans_le later), unexpired_none]
    · rw [unexpired_open current]

theorem inMemoryCheck_eq (options : RequestRateOptions) (store : RateLimitStore) (ip : Text)
    (now : Nat) :
    inMemoryCheck options store ip now = (clientDecision options (store ip) now,
      Function.update store ip (clientStep options (store ip) now)) := by
  cases known : store ip with
  | none => simp only [inMemoryCheck, clientDecision, clientStep, countedEntry, known, unexpired_none]
  | some entry =>
    rcases Nat.lt_or_ge entry.resetAt now with past | current
    · simp only [inMemoryCheck, clientDecision, clientStep, countedEntry, known, unexpired_over past,
        if_pos past]
    · simp only [inMemoryCheck, clientDecision, clientStep, countedEntry, known,
        unexpired_open current, if_neg (Nat.not_lt.mpr current)]
      split <;> rfl

theorem clientAnswers_congr (options : RequestRateOptions) (ip : Text)
    {other : Option RateLimitEntry} (agree : unexpired now entry = unexpired now other) :
    clientAnswers options entry now ip = clientAnswers options other now ip ∧
      clientStep options entry now = clientStep options other now := by
  simp only [clientAnswers, clientDecision, clientStep, countedEntry, agree, and_self]

theorem rateStep_request :
    rateStep options store (.request ip now) =
      Function.update store ip (clientStep options (store ip) now) := by
  rw [rateStep, inMemoryCheck_eq]

theorem rateAnswers_request :
    rateAnswers options store (.request ip now) = clientAnswers options (store ip) now ip := by
  rw [rateAnswers, inMemoryCheck_eq]
  rfl

theorem requestTimes_own (ip : Text) (now : Nat) (rest : List RateEvent) :
    requestTimes ip (.request ip now :: rest) = now :: requestTimes ip rest :=
  List.filterMap_cons_some (if_pos rfl)

theorem requestTimes_other (other : client ≠ ip) (now : Nat) (rest : List RateEvent) :
    requestTimes ip (.request client now :: rest) = requestTimes ip rest :=
  List.filterMap_cons_none (if_neg other)

theorem answered_to (options : RequestRateOptions) (ip : Text) {events : List RateEvent}
    (ordered : (events.map RateEvent.time).Pairwise (· ≤ ·))
    (later : ∀ event ∈ events, clock ≤ event.time)
    (agree : unexpired clock (store ip) = unexpired clock entry) :
    (answered options store events).filter (·.ip == ip) =
      log (clientStep options) (fun entry now => clientAnswers options entry now ip) entry
        (requestTimes ip events) := by
  induction events generalizing store entry clock with
  | nil => rfl
  | cons event rest ih =>
    obtain ⟨first, orderedRest⟩ := List.pairwise_cons.mp ordered
    have upcoming : ∀ next ∈ rest, event.time ≤ next.time := by
      intro next member
      exact first _ (List.mem_map_of_mem member)
    have now := later event List.mem_cons_self
    have agreeNow : unexpired event.time (store ip) = unexpired event.time entry := by
      rw [← unexpired_unexpired now (store ip), agree, unexpired_unexpired now entry]
    cases event with
    | request client time =>
      rw [answered, log_cons, List.filter_append, rateAnswers_request, rateStep_request]
      by_cases same : client = ip
      · subst same
        have agreeAt : unexpired time (store client) = unexpired time entry := agreeNow
        obtain ⟨told, stored⟩ := clientAnswers_congr options client agreeAt
        have agreeNext : unexpired time (Function.update store client
            (clientStep options (store client) time) client) =
            unexpired time (clientStep options entry time) := by
          rw [Function.update_self, stored]
        rw [requestTimes_own, log_cons, told]
        refine congrArg₂ (· ++ ·) ?_ (ih orderedRest upcoming agreeNext)
        simp [clientAnswers]
      · have agreeNext : unexpired time (Function.update store client
            (clientStep options (store client) time) ip) = unexpired time entry := by
          rw [Function.update_of_ne (Ne.symm same)]
          exact agreeNow
        rw [requestTimes_other same]
        refine Eq.trans (congrArg₂ (· ++ ·) ?_ (ih orderedRest upcoming agreeNext))
          (List.nil_append _)
        simp [clientAnswers, same]
    | cleanup time =>
      have agreeNext : unexpired time (cleanup store time ip) = unexpired time entry :=
        (unexpired_unexpired (Nat.le_refl time) (store ip)).trans agreeNow
      exact ih orderedRest upcoming agreeNext

theorem answered_without_cleanup (options : RequestRateOptions) {other : RateLimitStore}
    {events : List RateEvent} (ordered : (events.map RateEvent.time).Pairwise (· ≤ ·))
    (later : ∀ event ∈ events, clock ≤ event.time)
    (agree : ∀ ip, unexpired clock (store ip) = unexpired clock (other ip)) :
    answered options store events = answered options other (events.filter RateEvent.isRequest) := by
  induction events generalizing store other clock with
  | nil => rfl
  | cons event rest ih =>
    obtain ⟨first, orderedRest⟩ := List.pairwise_cons.mp ordered
    have upcoming : ∀ next ∈ rest, event.time ≤ next.time := by
      intro next member
      exact first _ (List.mem_map_of_mem member)
    have now := later event List.mem_cons_self
    have agreeNow (ip : Text) : unexpired event.time (store ip) = unexpired event.time (other ip) := by
      rw [← unexpired_unexpired now (store ip), agree, unexpired_unexpired now (other ip)]
    cases event with
    | request client time =>
      have agreeAt : unexpired time (store client) = unexpired time (other client) := agreeNow client
      obtain ⟨told, stored⟩ := clientAnswers_congr options client agreeAt
      rw [List.filter_cons_of_pos rfl, answered, answered, log_cons, log_cons,
        rateAnswers_request, rateAnswers_request, told]
      refine congrArg _ (ih orderedRest upcoming ?_)
      intro ip
      rw [rateStep_request, rateStep_request]
      by_cases same : ip = client
      · rw [same, Function.update_self, Function.update_self, stored]
      · rw [Function.update_of_ne same, Function.update_of_ne same]
        exact agreeNow ip
    | cleanup time =>
      rw [List.filter_cons_of_neg (by simp [RateEvent.isRequest])]
      refine ih orderedRest upcoming ?_
      intro ip
      rw [← agreeNow ip]
      exact unexpired_unexpired (Nat.le_refl time) (store ip)

theorem RateAnswer.passesIn_iff : answer.passesIn ip first last = true ↔
    answer.ip = ip ∧ answer.decision = .next ∧ first ≤ answer.time ∧ answer.time ≤ last := by
  simp [passesIn, and_assoc]

theorem passedIn_concat_le (answers : List RateAnswer) (answer : RateAnswer) (ip : Text)
    (first last : Nat) :
    passedIn (answers ++ [answer]) ip first last ≤ passedIn answers ip first last + 1 := by
  rw [passedIn, List.countP_append]
  exact Nat.add_le_add_left List.countP_le_length _

theorem passedIn_refused (refused : answer.decision ≠ .next) :
    passedIn (answers ++ [answer]) ip first last = passedIn answers ip first last := by
  rw [passedIn, List.countP_append]
  simp [passedIn, RateAnswer.passesIn, refused]

theorem passedIn_behind (behind : last < answer.time) :
    passedIn (answers ++ [answer]) ip first last = passedIn answers ip first last := by
  rw [passedIn, List.countP_append]
  simp [passedIn, RateAnswer.passesIn, behind]

/-- Windows are apart, every request that passes is in one, and the entry counts those of the
last one. -/
structure Windowed (options : RequestRateOptions) (ip : Text) (clock : Nat)
    (answers : List RateAnswer) (entry : Option RateLimitEntry) : Prop where
  past : ∀ answer ∈ answers, answer.time ≤ clock
  within : ∀ opening ∈ answers, opening.StartsFor ip →
    passedIn answers ip opening.time (opening.time + options.windowMs) ≤ options.maxRequests
  owned : ∀ answer ∈ answers, answer.ip = ip → answer.decision = .next → ∃ opening ∈ answers,
    opening.StartsFor ip ∧ opening.time ≤ answer.time ∧
      answer.time ≤ opening.time + options.windowMs
  apart : ∀ opening ∈ answers, ∀ other ∈ answers, opening.StartsFor ip → other.StartsFor ip →
    opening.time = other.time ∨ opening.time + options.windowMs < other.time ∨
      other.time + options.windowMs < opening.time
  fresh : entry = none → answers = []
  counted : ∀ current, entry = some current → ∃ start ∈ answers, start.StartsFor ip ∧
    current.resetAt = start.time + options.windowMs ∧
      passedIn answers ip start.time current.resetAt ≤ current.count ∧
        ∀ opening ∈ answers, opening.StartsFor ip →
          opening.time = start.time ∨ opening.time + options.windowMs < start.time

theorem Windowed.initial : Windowed options ip 0 [] none := by
  refine ⟨?_, ?_, ?_, ?_, fun _ => rfl, ?_⟩
  · intro answer member
    cases member
  · intro opening member
    cases member
  · intro answer member
    cases member
  · intro opening member
    cases member
  · intro current found
    cases found

theorem Windowed.start (windowed : Windowed options ip clock answers entry) (later : clock ≤ now)
    (positive : 1 ≤ options.maxRequests) (ended : unexpired now entry = none) :
    Windowed options ip now (answers ++ clientAnswers options entry now ip)
      (clientStep options entry now) := by
  have past : ∀ opening ∈ answers, opening.StartsFor ip →
      opening.time + options.windowMs < now := by
    intro opening member starts
    cases entry with
    | none =>
      rw [windowed.fresh rfl] at member
      cases member
    | some current =>
      obtain ⟨start, _, _, reset, _, latest⟩ := windowed.counted current rfl
      have before : current.resetAt < now := by
        by_contra current'
        rw [unexpired_open (Nat.not_lt.mp current')] at ended
        cases ended
      have order := latest opening member starts
      omega
  have earlier : ∀ answer ∈ answers, answer.ip = ip → answer.decision = .next →
      answer.time < now := by
    intro answer member own passes
    obtain ⟨opening, inAnswers, starts, _, ends⟩ := windowed.owned answer member own passes
    exact ends.trans_lt (past opening inAnswers starts)
  have none : passedIn answers ip now (now + options.windowMs) = 0 := by
    refine List.countP_eq_zero.mpr fun answer member counts => ?_
    obtain ⟨own, passes, after, _⟩ := RateAnswer.passesIn_iff.mp counts
    have before := earlier answer member own passes
    omega
  have single : clientAnswers options entry now ip =
      [{ ip := ip, time := now, starts := true, decision := .next }] := by
    simp only [clientAnswers, clientDecision, ended, Option.isNone_none]
  have stored : clientStep options entry now =
      some { count := 1, resetAt := now + options.windowMs } := by
    simp only [clientStep, countedEntry, ended]
  rw [single, stored]
  have first := passedIn_concat_le answers ⟨ip, now, true, .next⟩ ip now (now + options.windowMs)
  rw [none, Nat.zero_add] at first
  refine ⟨?_, ?_, ?_, ?_, ?_, ?_⟩
  · intro answer member
    rcases List.mem_append.mp member with old | new
    · exact (windowed.past answer old).trans later
    · rw [List.mem_singleton.mp new]
  · intro opening member starts
    rcases List.mem_append.mp member with old | new
    · have before := past opening old starts
      rw [passedIn_behind before]
      exact windowed.within opening old starts
    · rw [List.mem_singleton.mp new]
      exact first.trans positive
  · intro answer member own passes
    rcases List.mem_append.mp member with old | new
    · obtain ⟨opening, inAnswers, starts, span⟩ := windowed.owned answer old own passes
      exact ⟨opening, List.mem_append_left _ inAnswers, starts, span⟩
    · refine ⟨answer, member, ?_, Nat.le_refl _, Nat.le_add_right _ _⟩
      rw [List.mem_singleton.mp new]
      exact ⟨rfl, rfl⟩
  · intro opening member other memberOther starts startsOther
    rcases List.mem_append.mp member with old | new
    · rcases List.mem_append.mp memberOther with oldOther | newOther
      · exact windowed.apart opening old other oldOther starts startsOther
      · rw [List.mem_singleton.mp newOther]
        exact .inr (.inl (past opening old starts))
    · rw [List.mem_singleton.mp new]
      rcases List.mem_append.mp memberOther with oldOther | newOther
      · exact .inr (.inr (past other oldOther startsOther))
      · rw [List.mem_singleton.mp newOther]
        exact .inl rfl
  · intro absent
    cases absent
  · intro current found
    cases found
    refine ⟨_, List.mem_append_right _ (List.mem_singleton.mpr rfl), ⟨rfl, rfl⟩, rfl, ?_, ?_⟩
    · exact first
    · intro opening member starts
      rcases List.mem_append.mp member with old | new
      · exact .inr (past opening old starts)
      · rw [List.mem_singleton.mp new]
        exact .inl rfl

theorem Windowed.count (windowed : Windowed options ip clock answers entry) (later : clock ≤ now)
    {current : RateLimitEntry} (known : unexpired now entry = some current) :
    Windowed options ip now (answers ++ clientAnswers options entry now ip)
      (clientStep options entry now) := by
  obtain ⟨rfl, upcoming⟩ : entry = some current ∧ now ≤ current.resetAt := by
    obtain ⟨stored, current'⟩ := Option.filter_eq_some_iff.mp known
    exact ⟨stored, by simpa using current'⟩
  obtain ⟨start, inAnswers, startsFor, reset, few, latest⟩ := windowed.counted current rfl
  have since := windowed.past start inAnswers
  obtain ⟨decision, single, passing⟩ : ∃ decision, clientAnswers options (some current) now ip =
      [{ ip := ip, time := now, starts := false, decision := decision }] ∧
      (decision = .next → current.count + 1 ≤ options.maxRequests) := by
    refine ⟨_, by rw [clientAnswers, known]; rfl, ?_⟩
    simp only [clientDecision, known]
    split
    · exact fun refused => RateDecision.noConfusion refused
    · next allowed => exact fun _ => Nat.not_lt.mp allowed
  have stored : clientStep options (some current) now =
      some { current with count := current.count + 1 } := by
    simp only [clientStep, countedEntry, known]
  rw [single, stored]
  have earlier : ∀ opening ∈ answers ++ [RateAnswer.mk ip now false decision],
      opening.StartsFor ip → opening ∈ answers := by
    intro opening member starts
    rcases List.mem_append.mp member with old | new
    · exact old
    · rw [List.mem_singleton.mp new] at starts
      cases starts.2
  have counts := passedIn_concat_le answers ⟨ip, now, false, decision⟩ ip start.time current.resetAt
  refine ⟨?_, ?_, ?_, ?_, ?_, ?_⟩
  · intro answer member
    rcases List.mem_append.mp member with old | new
    · exact (windowed.past answer old).trans later
    · rw [List.mem_singleton.mp new]
  · intro opening member starts
    have old := earlier opening member starts
    have before := windowed.within opening old starts
    rcases latest opening old starts with same | past
    · rw [same, ← reset] at before ⊢
      by_cases passes : decision = .next
      · have allowed := passing passes
        omega
      · rwa [passedIn_refused passes]
    · have ended : opening.time + options.windowMs < now := by omega
      rwa [passedIn_behind ended]
  · intro answer member own passes
    rcases List.mem_append.mp member with old | new
    · obtain ⟨opening, inAnswers, starts, span⟩ := windowed.owned answer old own passes
      exact ⟨opening, List.mem_append_left _ inAnswers, starts, span⟩
    · refine ⟨start, List.mem_append_left _ inAnswers, startsFor, ?_, ?_⟩
      · rw [List.mem_singleton.mp new]
        exact since.trans later
      · rw [List.mem_singleton.mp new, ← reset]
        exact upcoming
  · intro opening member other memberOther starts startsOther
    exact windowed.apart opening (earlier opening member starts) other
      (earlier other memberOther startsOther) starts startsOther
  · intro absent
    cases absent
  · intro counted found
    cases found
    refine ⟨start, List.mem_append_left _ inAnswers, startsFor, reset, ?_, ?_⟩
    · exact counts.trans (Nat.add_le_add_right few 1)
    · intro opening member starts
      exact latest opening (earlier opening member starts) starts

theorem windowed_run (options : RequestRateOptions) (positive : 1 ≤ options.maxRequests) (ip : Text)
    {times : List Nat} (ordered : times.Pairwise (· ≤ ·)) (later : ∀ time ∈ times, clock ≤ time)
    (windowed : Windowed options ip clock answers entry) :
    ∃ final, Windowed options ip final (answers ++ log (clientStep options)
      (fun entry now => clientAnswers options entry now ip) entry times)
      (run (clientStep options) entry times) := by
  induction times generalizing answers entry clock with
  | nil => exact ⟨clock, by simpa using windowed⟩
  | cons now rest ih =>
    obtain ⟨first, orderedRest⟩ := List.pairwise_cons.mp ordered
    have upcoming := later now List.mem_cons_self
    have next : Windowed options ip now (answers ++ clientAnswers options entry now ip)
        (clientStep options entry now) := by
      cases known : unexpired now entry with
      | none => exact windowed.start upcoming positive known
      | some current => exact windowed.count upcoming known
    rw [log_cons, ← List.append_assoc, run_cons]
    exact ih orderedRest first next

theorem countP_le_add {α : Type} {items : List α} {covered left right : α → Bool}
    (cover : ∀ item ∈ items, covered item = true → left item = true ∨ right item = true) :
    items.countP covered ≤ items.countP left + items.countP right := by
  induction items with
  | nil => exact Nat.zero_le _
  | cons item rest ih =>
    have inRest := ih fun other member => cover other (List.mem_cons_of_mem _ member)
    have here := cover item List.mem_cons_self
    rw [List.countP_cons, List.countP_cons, List.countP_cons]
    split
    · next counts =>
        rcases here counts with isLeft | isRight
        · rw [if_pos isLeft]
          omega
        · rw [if_pos isRight]
          omega
    · omega

theorem Windowed.passedIn_le (windowed : Windowed options ip clock answers entry) (first : Nat) :
    passedIn answers ip first (first + options.windowMs) ≤ 2 * options.maxRequests := by
  rcases Nat.eq_zero_or_pos (passedIn answers ip first (first + options.windowMs)) with none | some
  · rw [none]
    exact Nat.zero_le _
  · obtain ⟨one, inOne, counts⟩ := List.countP_pos_iff.mp some
    obtain ⟨ownOne, passesOne, afterOne, beforeOne⟩ := RateAnswer.passesIn_iff.mp counts
    obtain ⟨left, inLeft, startsLeft, spanLeft⟩ := windowed.owned one inOne ownOne passesOne
    have fitsLeft := windowed.within left inLeft startsLeft
    by_cases alone : ∀ answer ∈ answers, answer.passesIn ip first (first + options.windowMs) = true →
        answer.passesIn ip left.time (left.time + options.windowMs) = true
    · have within := List.countP_mono_left alone
      unfold passedIn at fitsLeft ⊢
      omega
    · push Not at alone
      obtain ⟨two, inTwo, countsTwo, outside⟩ := alone
      obtain ⟨ownTwo, passesTwo, afterTwo, beforeTwo⟩ := RateAnswer.passesIn_iff.mp countsTwo
      obtain ⟨right, inRight, startsRight, spanRight⟩ := windowed.owned two inTwo ownTwo passesTwo
      have fitsRight := windowed.within right inRight startsRight
      have differ : ¬(left.time ≤ two.time ∧ two.time ≤ left.time + options.windowMs) := by
        intro inside
        exact outside (RateAnswer.passesIn_iff.mpr ⟨ownTwo, passesTwo, inside⟩)
      have apart := windowed.apart left inLeft right inRight startsLeft startsRight
      have either : ∀ answer ∈ answers,
          answer.passesIn ip first (first + options.windowMs) = true →
            answer.passesIn ip left.time (left.time + options.windowMs) = true ∨
              answer.passesIn ip right.time (right.time + options.windowMs) = true := by
        intro answer member passesHere
        obtain ⟨own, passes, after, before⟩ := RateAnswer.passesIn_iff.mp passesHere
        obtain ⟨opening, inAnswers, starts, span⟩ := windowed.owned answer member own passes
        have apartLeft := windowed.apart opening inAnswers left inLeft starts startsLeft
        have apartRight := windowed.apart opening inAnswers right inRight starts startsRight
        have same : opening.time = left.time ∨ opening.time = right.time := by omega
        rcases same with same | same
        · rw [same] at span
          exact .inl (RateAnswer.passesIn_iff.mpr ⟨own, passes, span⟩)
        · rw [same] at span
          exact .inr (RateAnswer.passesIn_iff.mpr ⟨own, passes, span⟩)
      have both := countP_le_add either
      unfold passedIn at fitsLeft fitsRight ⊢
      omega

theorem passedIn_filter (answers : List RateAnswer) (ip : Text) (first last : Nat) :
    passedIn (answers.filter (·.ip == ip)) ip first last = passedIn answers ip first last := by
  rw [passedIn, List.countP_filter]
  refine List.countP_congr fun answer _ => ?_
  simp +contextual [RateAnswer.passesIn]

theorem requestTimes_sublist (ip : Text) (events : List RateEvent) :
    (requestTimes ip events).Sublist (events.map RateEvent.time) := by
  induction events with
  | nil => exact List.Sublist.refl _
  | cons event rest ih =>
    cases event with
    | request client now =>
      by_cases same : client = ip
      · subst same
        rw [requestTimes_own]
        exact ih.cons_cons now
      · rw [requestTimes_other same]
        exact ih.cons now
    | cleanup now => exact ih.cons now

/-- The limiter bounds every client in its windows and in every interval of their length, tells it
what it would tell it alone, and cleans up unnoticed. -/
theorem requests_bounded (options : RequestRateOptions) (positive : 1 ≤ options.maxRequests)
    (events : List RateEvent) (ordered : (events.map RateEvent.time).Pairwise (· ≤ ·)) :
    (∀ ip, ∀ start ∈ answered options (fun _ => none) events, start.StartsFor ip →
      passedIn (answered options (fun _ => none) events) ip start.time
        (start.time + options.windowMs) ≤ options.maxRequests) ∧
    (∀ ip first, passedIn (answered options (fun _ => none) events) ip first
      (first + options.windowMs) ≤ 2 * options.maxRequests) ∧
    (∀ ip others, (others.map RateEvent.time).Pairwise (· ≤ ·) →
      requestTimes ip others = requestTimes ip events →
        (answered options (fun _ => none) others).filter (·.ip == ip) =
          (answered options (fun _ => none) events).filter (·.ip == ip)) ∧
    answered options (fun _ => none) (events.filter RateEvent.isRequest) =
      answered options (fun _ => none) events := by
  have fromStart : ∀ event ∈ events, 0 ≤ event.time := fun event _ => Nat.zero_le _
  have alone (ip : Text) : (answered options (fun _ => none) events).filter (·.ip == ip) =
      log (clientStep options) (fun entry now => clientAnswers options entry now ip) none
        (requestTimes ip events) :=
    answered_to options ip ordered fromStart rfl
  have windows (ip : Text) : ∃ final entry, Windowed options ip final
      ((answered options (fun _ => none) events).filter (·.ip == ip)) entry := by
    have empty : Windowed options ip 0 [] none := Windowed.initial
    obtain ⟨final, windowed⟩ := windowed_run options positive ip
      (ordered.sublist (requestTimes_sublist ip events)) (fun _ _ => Nat.zero_le _) empty
    rw [alone ip]
    exact ⟨final, _, windowed⟩
  refine ⟨?_, ?_, ?_, ?_⟩
  · intro ip opening member starts
    obtain ⟨final, entry, windowed⟩ := windows ip
    rw [← passedIn_filter]
    exact windowed.within opening (List.mem_filter.mpr ⟨member, by simpa using starts.1⟩) starts
  · intro ip first
    obtain ⟨final, entry, windowed⟩ := windows ip
    rw [← passedIn_filter]
    exact windowed.passedIn_le first
  · intro ip others orderedOthers same
    rw [alone ip, ← same]
    exact answered_to options ip orderedOthers (fun event _ => Nat.zero_le _) rfl
  · exact (answered_without_cleanup options ordered fromStart fun _ => rfl).symm

end

def oneInTen : RequestRateOptions := { maxRequests := 1, windowMs := 10 }

def twoClients : List RateEvent :=
  [.request ['a'] 0, .request ['a'] 5, .request ['b'] 10, .cleanup 11, .request ['a'] 11]

theorem twoClients_bounded :
    passedIn (answered oneInTen (fun _ => none) twoClients) ['a'] 5 15 ≤ 2 ∧
      answered oneInTen (fun _ => none) (twoClients.filter RateEvent.isRequest) =
        answered oneInTen (fun _ => none) twoClients := by
  obtain ⟨_, bounded, _, unnoticed⟩ :=
    requests_bounded oneInTen (by decide) twoClients (by decide)
  exact ⟨bounded ['a'] 5, unnoticed⟩

end StoryEngine.Security
