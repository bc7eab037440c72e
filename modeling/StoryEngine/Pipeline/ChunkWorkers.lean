import StoryEngine.Pipeline.ProcessCall

namespace StoryEngine.Pipeline

open Data Processing Schema

/-! # The workers of a tagging run

Each worker takes the next index and puts what it gets under that index.  Whatever the order of
the answers, every index is in the results, in the hands of a worker, or lost with one that
failed.
-/

/-- A call of `tagChunk`. -/
structure TagCall where
  index : Nat
  text : Text

structure TagReturn where
  index : Nat
  tags : List TagResult
  cached : Bool

def TagReturn.content (returned : TagReturn) : Nat × List TagResult × Bool :=
  (returned.index, returned.tags, returned.cached)

def putContent (entry : Nat × ChunkTaggingResult) : Nat × List TagResult × Bool :=
  (entry.1, entry.2.tags, entry.2.cached)

section

variable (platform : AiPlatform) (config : TaggerConfig) (chunks : List TranscriptChunk)

def tagChunkCalls (tagging : Tagging) (turn : Nat × Date) : List TagCall :=
  match tagging.workers[turn.1]?, chunks[tagging.nextIndex]? with
  | some .ready, some chunk => [{ index := tagging.nextIndex, text := chunk.text }]
  | _, _ => []

def answeredTags (content : Text) : List TagResult :=
  if content.isEmpty then [] else parseTagResponse platform content

def tagChunkReturns (tagging : Tagging) (turn : Nat × Date) : List TagReturn :=
  match tagging.workers[turn.1]? with
  | some .ready =>
    match chunks[tagging.nextIndex]? with
    | some chunk =>
      match (tagging.cache.get config turn.2 (platform.hashText chunk.text)).1 with
      | some tags => [{ index := tagging.nextIndex, tags, cached := true }]
      | none => []
    | none => []
  | some (.waiting index (some content)) =>
    if index < chunks.length then
      [{ index, tags := answeredTags platform content, cached := false }]
    else []
  | _ => []

def Answers (chunk : TranscriptChunk) (answer : Option Text) : Prop :=
  ∃ sent, answer = platform.answer (sent ++ [.chat .aiClient (taggingMessages chunk.text)])

def Worker.hand : Worker → Option Nat
  | .asking index => some index
  | .waiting index _ => some index
  | .ready | .done | .failed => none

def Worker.running : Worker → Bool
  | .done | .failed => false
  | .ready | .asking _ | .waiting _ _ => true

/-- What a worker can do in its turn, with the calls and the returns of it. -/
inductive Turned (tagging : Tagging) (place : Nat) :
    List TagCall → List TagReturn → Tagging → Prop where
  | idle (rests : ∀ worker, tagging.workers[place]? = some worker → worker.running = true →
        ∃ index, worker.hand = some index ∧ chunks.length ≤ index) :
      Turned tagging place [] [] tagging
  | leaves (ready : tagging.workers[place]? = some .ready)
      (beyond : chunks.length ≤ tagging.nextIndex) :
      Turned tagging place [] [] (tagging.setWorker place .done)
  | hits (chunk : TranscriptChunk) (tags : List TagResult) (cache : TagCache)
      (ready : tagging.workers[place]? = some .ready)
      (isNext : chunks[tagging.nextIndex]? = some chunk) :
      Turned tagging place [{ index := tagging.nextIndex, text := chunk.text }]
        [{ index := tagging.nextIndex, tags, cached := true }]
        ({ tagging with nextIndex := tagging.nextIndex + 1, cache }.finish place
          tagging.nextIndex { chunkId := chunk.id, tags, cached := true })
  | misses (chunk : TranscriptChunk) (cache : TagCache)
      (ready : tagging.workers[place]? = some .ready)
      (isNext : chunks[tagging.nextIndex]? = some chunk) :
      Turned tagging place [{ index := tagging.nextIndex, text := chunk.text }] []
        ({ tagging with nextIndex := tagging.nextIndex + 1, cache }.setWorker place
          (.asking tagging.nextIndex))
  | asks (index : Nat) (chunk : TranscriptChunk) (sent : List Sent) (answer : Option Text)
      (asking : tagging.workers[place]? = some (.asking index))
      (isChunk : chunks[index]? = some chunk) (answers : Answers platform chunk answer) :
      Turned tagging place [] []
        ({ tagging with sent }.setWorker place (.waiting index answer))
  | fails (index : Nat) (answer : Option Text)
      (waiting : tagging.workers[place]? = some (.waiting index answer)) :
      Turned tagging place [] [] (tagging.setWorker place .failed)
  | receives (index : Nat) (chunk : TranscriptChunk) (content : Text) (cache : TagCache)
      (waiting : tagging.workers[place]? = some (.waiting index (some content)))
      (isChunk : chunks[index]? = some chunk) :
      Turned tagging place []
        [{ index, tags := answeredTags platform content, cached := false }]
        ({ tagging with cache }.finish place index {
          chunkId := chunk.id, tags := answeredTags platform content, cached := false })

end

section

variable {platform : AiPlatform} {config : TaggerConfig} {chunks : List TranscriptChunk}
  {tagging : Tagging}

theorem workerTurn_turned (turn : Nat × Date) :
    Turned platform chunks tagging turn.1 (tagChunkCalls chunks tagging turn)
      (tagChunkReturns platform config chunks tagging turn)
      (workerTurn platform config chunks tagging turn) := by
  obtain ⟨place, now⟩ := turn
  cases worker : tagging.workers[place]? with
  | none =>
    simp only [workerTurn, tagChunkCalls, tagChunkReturns, worker]
    exact .idle (by simp [worker])
  | some worker' =>
    cases worker' with
    | ready =>
      cases isNext : chunks[tagging.nextIndex]? with
      | none =>
        simp only [workerTurn, takeChunk, tagChunkCalls, tagChunkReturns, worker, isNext]
        exact .leaves worker (List.getElem?_eq_none_iff.mp isNext)
      | some chunk =>
        cases found : (tagging.cache.get config now (platform.hashText chunk.text)).1 with
        | none =>
          simp only [workerTurn, takeChunk, tagChunkCalls, tagChunkReturns, worker, isNext,
            found]
          exact .misses chunk _ worker isNext
        | some tags =>
          simp only [workerTurn, takeChunk, tagChunkCalls, tagChunkReturns, worker, isNext,
            found]
          exact .hits chunk tags _ worker isNext
    | asking index =>
      cases isChunk : chunks[index]? with
      | none =>
        simp only [workerTurn, tagChunkCalls, tagChunkReturns, worker, isChunk]
        refine .idle fun other isOther _ => ?_
        obtain rfl : .asking index = other := Option.some.inj (worker.symm.trans isOther)
        exact ⟨index, rfl, List.getElem?_eq_none_iff.mp isChunk⟩
      | some chunk =>
        simp only [workerTurn, askTags, tagChunkCalls, tagChunkReturns, worker, isChunk]
        exact .asks index chunk _ _ worker isChunk ⟨tagging.sent, rfl⟩
    | waiting index answer =>
      cases answer with
      | none =>
        have fails : Turned platform chunks tagging place [] []
            (tagging.setWorker place .failed) := .fails index none worker
        cases isChunk : chunks[index]? <;>
          simp only [workerTurn, tagChunkCalls, tagChunkReturns, worker, isChunk] <;>
          exact fails
      | some content =>
        cases isChunk : chunks[index]? with
        | none =>
          have beyond : ¬ index < chunks.length :=
            not_lt.mpr (List.getElem?_eq_none_iff.mp isChunk)
          simp only [workerTurn, tagChunkCalls, tagChunkReturns, worker, isChunk, beyond,
            if_false]
          exact .fails index (some content) worker
        | some chunk =>
          obtain ⟨inside, _⟩ := List.getElem?_eq_some_iff.mp isChunk
          simp only [workerTurn, receiveTags, tagChunkCalls, tagChunkReturns, worker,
            isChunk, inside, if_true]
          by_cases blank : content.isEmpty
          · have receives : Turned platform chunks tagging place [] _ _ :=
              .receives index chunk content tagging.cache worker isChunk
            simp only [answeredTags, blank, if_true] at receives ⊢
            exact receives
          · have receives : Turned platform chunks tagging place [] _ _ :=
              .receives index chunk content (tagging.cache.set config now (platform.hashText chunk.text)
                (parseTagResponse platform content)) worker isChunk
            simp only [answeredTags, blank] at receives ⊢
            exact receives
    | done | failed =>
      simp only [workerTurn, tagChunkCalls, tagChunkReturns, worker]
      refine .idle fun other isOther running => ?_
      rw [← Option.some.inj (worker.symm.trans isOther)] at running
      cases running

end

/-- The indexes that were taken are in the results, in a hand, or lost with a failed worker. -/
def Divides (tagging : Tagging) : Prop :=
  ∃ lost : List Nat, lost.length = tagging.workers.count .failed ∧
    (tagging.results.map Prod.fst ++ (tagging.workers.filterMap Worker.hand ++ lost)).Perm
      (List.range tagging.nextIndex)

section

variable {tagging : Tagging} {place : Nat} {before after : Worker}

theorem count_failed_set (atPlace : tagging.workers[place]? = some before)
    (running : before ≠ .failed) :
    (tagging.workers.set place after).count .failed =
      tagging.workers.count .failed + (if after = .failed then 1 else 0) := by
  obtain ⟨inside, isBefore⟩ := List.getElem?_eq_some_iff.mp atPlace
  have unfailed : (tagging.workers[place] == .failed) = false := by simpa [isBefore] using running
  rw [List.count_set inside, unfailed]
  by_cases failed : after = .failed <;> simp [failed]

theorem Divides.turn (divides : Divides tagging)
    (atPlace : tagging.workers[place]? = some before) (running : before ≠ .failed)
    (taken put dropped : List Nat) {next : Tagging}
    (workers : next.workers = tagging.workers.set place after)
    (results : next.results.map Prod.fst = tagging.results.map Prod.fst ++ put)
    (range : List.range next.nextIndex = List.range tagging.nextIndex ++ taken)
    (drops : dropped.length = if after = .failed then 1 else 0)
    (moved : (put ++ (after.hand.toList ++ dropped)).Perm (taken ++ before.hand.toList)) :
    Divides next := by
  obtain ⟨lost, failures, perm⟩ := divides
  refine ⟨lost ++ dropped, ?_, ?_⟩
  · rw [List.length_append, failures, drops, workers, count_failed_set atPlace running]
  · have hands : ((tagging.workers.set place after).filterMap Worker.hand ++
        before.hand.toList).Perm (tagging.workers.filterMap Worker.hand ++ after.hand.toList) :=
      filterMap_set_perm atPlace
    rw [List.perm_iff_count] at perm hands moved ⊢
    intro index
    have total := perm index
    have inHand := hands index
    have elsewhere := moved index
    simp only [List.count_append, results, range, workers] at total inHand elsewhere ⊢
    omega

end

/-- What holds of a tagging run with the calls and the returns so far. -/
structure TakesOnce (platform : AiPlatform) (config : TaggerConfig)
    (chunks : List TranscriptChunk) (calls : List TagCall) (returns : List TagReturn)
    (tagging : Tagging) : Prop where
  taken : tagging.nextIndex ≤ chunks.length
  inOrder : calls.map (·.index) = List.range tagging.nextIndex
  texts : ∀ call ∈ calls, chunks[call.index]?.map (·.text) = some call.text
  divides : Divides tagging
  crew : tagging.workers.length = min config.concurrency chunks.length
  finished : .done ∈ tagging.workers → tagging.nextIndex = chunks.length
  answers : ∀ index answer, .waiting index answer ∈ tagging.workers →
    ∃ chunk, chunks[index]? = some chunk ∧ Answers platform chunk answer
  kept : returns.map TagReturn.content = tagging.results.map putContent
  ids : ∀ entry ∈ tagging.results, chunks[entry.1]?.map (·.id) = some entry.2.chunkId
  tagged : ∀ tagged ∈ returns, tagged.cached = false → ∃ chunk content,
    chunks[tagged.index]? = some chunk ∧ Answers platform chunk (some content) ∧
      tagged.tags = answeredTags platform content

section

variable {platform : AiPlatform} {config : TaggerConfig} {chunks : List TranscriptChunk}
  {calls called : List TagCall} {returns returned : List TagReturn} {tagging next : Tagging}
  {place : Nat}

theorem TakesOnce.setWorker (once : TakesOnce platform config chunks calls returns tagging)
    {before after : Worker} (atPlace : tagging.workers[place]? = some before)
    (running : before ≠ .failed) (dropped : List Nat)
    (drops : dropped.length = if after = .failed then 1 else 0)
    (moved : (after.hand.toList ++ dropped).Perm before.hand.toList)
    (ends : after = .done → tagging.nextIndex = chunks.length)
    (waits : ∀ index answer, after = .waiting index answer →
      ∃ chunk, chunks[index]? = some chunk ∧ Answers platform chunk answer)
    (sent : List Sent) :
    TakesOnce platform config chunks calls returns
      ({ tagging with sent }.setWorker place after) where
  taken := once.taken
  inOrder := once.inOrder
  texts := once.texts
  divides := once.divides.turn atPlace running [] [] dropped rfl (List.append_nil _).symm
    (List.append_nil _).symm drops moved
  crew := by
    simp only [Tagging.setWorker, List.length_set]
    exact once.crew
  finished := by
    intro isDone
    rcases List.mem_or_eq_of_mem_set isDone with earlier | isAfter
    · exact once.finished earlier
    · exact ends isAfter.symm
  answers := by
    intro index answer isWaiting
    rcases List.mem_or_eq_of_mem_set isWaiting with earlier | isAfter
    · exact once.answers index answer earlier
    · exact waits index answer isAfter.symm
  kept := once.kept
  ids := once.ids
  tagged := once.tagged

theorem TakesOnce.takes (once : TakesOnce platform config chunks calls returns tagging)
    {chunk : TranscriptChunk} (isNext : chunks[tagging.nextIndex]? = some chunk) :
    tagging.nextIndex + 1 ≤ chunks.length ∧
      (calls ++ [TagCall.mk tagging.nextIndex chunk.text]).map (·.index) =
        List.range (tagging.nextIndex + 1) ∧
      ∀ call ∈ calls ++ [TagCall.mk tagging.nextIndex chunk.text],
        chunks[call.index]?.map (·.text) = some call.text := by
  obtain ⟨inside, _⟩ := List.getElem?_eq_some_iff.mp isNext
  refine ⟨inside, ?_, ?_⟩
  · rw [List.map_append, once.inOrder, List.range_succ]
    rfl
  · intro call isCall
    rcases List.mem_append.mp isCall with earlier | isNew
    · exact once.texts call earlier
    · rw [List.mem_singleton.mp isNew, isNext]
      rfl

theorem TakesOnce.unfinished (once : TakesOnce platform config chunks calls returns tagging)
    {chunk : TranscriptChunk} (isNext : chunks[tagging.nextIndex]? = some chunk) :
    .done ∉ tagging.workers := by
  intro isDone
  obtain ⟨inside, _⟩ := List.getElem?_eq_some_iff.mp isNext
  have reached := once.finished isDone
  omega

theorem TakesOnce.waiting_set (once : TakesOnce platform config chunks calls returns tagging)
    {after : Worker} (quiet : ∀ index answer, after ≠ .waiting index answer) :
    ∀ index answer, .waiting index answer ∈ tagging.workers.set place after →
      ∃ chunk, chunks[index]? = some chunk ∧ Answers platform chunk answer := by
  intro index answer isWaiting
  rcases List.mem_or_eq_of_mem_set isWaiting with earlier | isAfter
  · exact once.answers index answer earlier
  · exact absurd isAfter.symm (quiet index answer)

theorem TakesOnce.put (once : TakesOnce platform config chunks calls returns tagging)
    {index : Nat} {chunk : TranscriptChunk} (isChunk : chunks[index]? = some chunk)
    (tags : List TagResult) (cached : Bool) :
    let results := tagging.results ++ [(index, { chunkId := chunk.id, tags, cached })]
    (returns ++ [TagReturn.mk index tags cached]).map TagReturn.content = results.map putContent ∧
      ∀ entry ∈ results, chunks[entry.1]?.map (·.id) = some entry.2.chunkId := by
  intro results
  refine ⟨?_, ?_⟩
  · rw [List.map_append, List.map_append, once.kept]
    rfl
  · intro entry isEntry
    rcases List.mem_append.mp isEntry with earlier | isNew
    · exact once.ids entry earlier
    · rw [List.mem_singleton.mp isNew, isChunk]
      rfl

theorem TakesOnce.turn (once : TakesOnce platform config chunks calls returns tagging)
    (turned : Turned platform chunks tagging place called returned next) :
    TakesOnce platform config chunks (calls ++ called) (returns ++ returned) next := by
  have sameCalls : calls ++ [] = calls := List.append_nil calls
  have sameReturns : returns ++ [] = returns := List.append_nil returns
  cases turned with
  | idle rests =>
    rw [sameCalls, sameReturns]
    exact once
  | leaves ready beyond =>
    rw [sameCalls, sameReturns]
    exact once.setWorker ready (by simp) [] rfl (List.Perm.refl _)
      (fun _ => le_antisymm once.taken beyond) (by simp) tagging.sent
  | asks index chunk sent answer asking isChunk answers =>
    rw [sameCalls, sameReturns]
    refine once.setWorker asking (by simp) [] rfl (List.Perm.refl _) (by simp) ?_ sent
    intro other reply same
    obtain ⟨rfl, rfl⟩ := Worker.waiting.inj same
    exact ⟨chunk, isChunk, answers⟩
  | fails index answer waiting =>
    rw [sameCalls, sameReturns]
    exact once.setWorker waiting (by simp) [index] rfl (List.Perm.refl _) (by simp)
      (by simp) tagging.sent
  | misses chunk cache ready isNext =>
    rw [sameReturns]
    obtain ⟨inside, inOrder, texts⟩ := once.takes isNext
    refine ⟨inside, inOrder, texts, ?_, ?_, ?_, ?_, once.kept, once.ids, once.tagged⟩
    · exact once.divides.turn ready (by simp) [tagging.nextIndex] [] [] rfl
        (List.append_nil _).symm List.range_succ rfl (List.Perm.refl _)
    · simp only [Tagging.setWorker, List.length_set]
      exact once.crew
    · intro isDone
      rcases List.mem_or_eq_of_mem_set isDone with earlier | isAfter
      · exact absurd earlier (once.unfinished isNext)
      · cases isAfter
    · exact once.waiting_set (by simp)
  | hits chunk tags cache ready isNext =>
    obtain ⟨inside, inOrder, texts⟩ := once.takes isNext
    obtain ⟨kept, ids⟩ := once.put isNext tags true
    refine ⟨inside, inOrder, texts, ?_, ?_, ?_, ?_, kept, ids, ?_⟩
    · refine once.divides.turn ready (by simp) [tagging.nextIndex] [tagging.nextIndex] [] rfl ?_
        List.range_succ rfl (List.Perm.refl _)
      simp [Tagging.finish, Tagging.setWorker]
    · simp only [Tagging.finish, Tagging.setWorker, List.length_set]
      exact once.crew
    · intro isDone
      rcases List.mem_or_eq_of_mem_set isDone with earlier | isAfter
      · exact absurd earlier (once.unfinished isNext)
      · cases isAfter
    · exact once.waiting_set (by simp)
    · intro tagged isTagged uncached
      rcases List.mem_append.mp isTagged with earlier | isNew
      · exact once.tagged tagged earlier uncached
      · rw [List.mem_singleton.mp isNew] at uncached
        cases uncached
  | receives index chunk content cache waiting isChunk =>
    rw [sameCalls]
    obtain ⟨kept, ids⟩ := once.put isChunk (answeredTags platform content) false
    refine ⟨once.taken, once.inOrder, once.texts, ?_, ?_, ?_, ?_, kept, ids, ?_⟩
    · refine once.divides.turn waiting (by simp) [] [index] [] rfl ?_ (List.append_nil _).symm rfl
        (List.Perm.refl _)
      simp [Tagging.finish, Tagging.setWorker]
    · simp only [Tagging.finish, Tagging.setWorker, List.length_set]
      exact once.crew
    · intro isDone
      rcases List.mem_or_eq_of_mem_set isDone with earlier | isAfter
      · exact once.finished earlier
      · cases isAfter
    · exact once.waiting_set (by simp)
    · intro tagged isTagged uncached
      rcases List.mem_append.mp isTagged with earlier | isNew
      · exact once.tagged tagged earlier uncached
      · rw [List.mem_singleton.mp isNew]
        obtain ⟨other, isOther, answers⟩ := once.answers index (some content)
          (List.mem_of_getElem? waiting)
        exact ⟨other, content, isOther, answers, rfl⟩

theorem TakesOnce.run (once : TakesOnce platform config chunks calls returns tagging)
    (turns : List (Nat × Date)) :
    TakesOnce platform config chunks
      (calls ++ log (workerTurn platform config chunks) (tagChunkCalls chunks) tagging turns)
      (returns ++ log (workerTurn platform config chunks)
        (tagChunkReturns platform config chunks) tagging turns)
      (Data.run (workerTurn platform config chunks) tagging turns) := by
  induction turns generalizing calls returns tagging with
  | nil => simpa using once
  | cons turn rest ih =>
    have turned : Turned platform chunks tagging turn.1 (tagChunkCalls chunks tagging turn)
        (tagChunkReturns platform config chunks tagging turn)
        (workerTurn platform config chunks tagging turn) := workerTurn_turned turn
    have later := ih (once.turn turned)
    simpa only [log_cons, run_cons, List.append_assoc] using later

theorem TakesOnce.inHand (once : TakesOnce platform config chunks calls returns tagging)
    {worker : Worker} {index : Nat} (isWorker : worker ∈ tagging.workers)
    (hand : worker.hand = some index) : index < chunks.length := by
  obtain ⟨lost, _, perm⟩ := once.divides
  have held : index ∈ tagging.workers.filterMap Worker.hand :=
    List.mem_filterMap.mpr ⟨worker, isWorker, hand⟩
  have among : index ∈ List.range tagging.nextIndex := by
    rw [← perm.mem_iff]
    simp [held]
  exact Nat.lt_of_lt_of_le (List.mem_range.mp among) once.taken

end

def Worker.weight : Worker → Nat
  | .ready => 1
  | .asking _ => 4
  | .waiting _ _ => 3
  | .done | .failed => 0

def busyTurns (tagging : Tagging) (turn : Nat × Date) : List (Nat × Date) :=
  if tagging.workers[turn.1]?.any Worker.running then [turn] else []

def Tagging.remaining (tagging : Tagging) (chunks : List TranscriptChunk) : Nat :=
  4 * (chunks.length - tagging.nextIndex) + (tagging.workers.map Worker.weight).sum

section

variable {platform : AiPlatform} {config : TaggerConfig} {chunks : List TranscriptChunk}
  {calls called : List TagCall} {returns returned : List TagReturn} {tagging next : Tagging}
  {place : Nat}

theorem TakesOnce.remaining_turn (once : TakesOnce platform config chunks calls returns tagging)
    (turn : Nat × Date) :
    (busyTurns tagging turn).length +
      (workerTurn platform config chunks tagging turn).remaining chunks ≤
        tagging.remaining chunks := by
  have weigh : ∀ before after, tagging.workers[turn.1]? = some before →
      ((tagging.workers.set turn.1 after).map Worker.weight).sum + before.weight =
        (tagging.workers.map Worker.weight).sum + after.weight :=
    fun before after atPlace => sum_map_set atPlace
  have atMost : (busyTurns tagging turn).length ≤ 1 := by
    simp only [busyTurns]
    split <;> simp
  have turned : Turned platform chunks tagging turn.1 (tagChunkCalls chunks tagging turn)
      (tagChunkReturns platform config chunks tagging turn)
      (workerTurn platform config chunks tagging turn) := workerTurn_turned turn
  generalize tagChunkCalls chunks tagging turn = called at turned
  generalize tagChunkReturns platform config chunks tagging turn = returned at turned
  generalize workerTurn platform config chunks tagging turn = next at turned ⊢
  cases turned with
  | idle rests =>
    have nobody : busyTurns tagging turn = [] := by
      cases worker : tagging.workers[turn.1]? with
      | none => simp [busyTurns, worker]
      | some worker' =>
        by_cases running : worker'.running
        · obtain ⟨index, hand, beyond⟩ := rests worker' worker running
          have inside := once.inHand (List.mem_of_getElem? worker) hand
          omega
        · simp [busyTurns, worker, running]
    simp [nobody]
  | leaves ready beyond =>
    have weighed := weigh .ready .done ready
    simp only [Tagging.remaining, Tagging.setWorker, Worker.weight] at weighed ⊢
    omega
  | misses chunk cache ready isNext =>
    have weighed := weigh .ready (.asking tagging.nextIndex) ready
    have inside := (once.takes isNext).1
    simp only [Tagging.remaining, Tagging.setWorker, Worker.weight] at weighed ⊢
    omega
  | hits chunk tags cache ready isNext =>
    have weighed := weigh .ready .ready ready
    have inside := (once.takes isNext).1
    simp only [Tagging.remaining, Tagging.finish, Tagging.setWorker, Worker.weight] at weighed ⊢
    omega
  | asks index chunk sent answer asking isChunk answers =>
    have weighed := weigh (.asking index) (.waiting index answer) asking
    simp only [Tagging.remaining, Tagging.setWorker, Worker.weight] at weighed ⊢
    omega
  | fails index answer waiting =>
    have weighed := weigh (.waiting index answer) .failed waiting
    simp only [Tagging.remaining, Tagging.setWorker, Worker.weight] at weighed ⊢
    omega
  | receives index chunk content cache waiting isChunk =>
    have weighed := weigh (.waiting index (some content)) .ready waiting
    simp only [Tagging.remaining, Tagging.finish, Tagging.setWorker, Worker.weight] at weighed ⊢
    omega

theorem TakesOnce.remaining_run (once : TakesOnce platform config chunks calls returns tagging)
    (turns : List (Nat × Date)) :
    (log (workerTurn platform config chunks) busyTurns tagging turns).length +
      (Data.run (workerTurn platform config chunks) tagging turns).remaining chunks ≤
        tagging.remaining chunks := by
  induction turns generalizing calls returns tagging with
  | nil => simp
  | cons turn rest ih =>
    have first := once.remaining_turn turn
    have turned : Turned platform chunks tagging turn.1 (tagChunkCalls chunks tagging turn)
        (tagChunkReturns platform config chunks tagging turn)
        (workerTurn platform config chunks tagging turn) := workerTurn_turned turn
    have later := ih (once.turn turned)
    simp only [log_cons, run_cons, List.length_append]
    omega

end

theorem sorted_indexes {entries : List (Nat × ChunkTaggingResult)} {count : Nat}
    (indexes : (entries.map Prod.fst).Perm (List.range count)) :
    (entries.insertionSort fun first second => first.1 ≤ second.1).map Prod.fst =
      List.range count := by
  rw [List.map_insertionSort (s := (· ≤ ·)) _ _ _ fun _ _ _ _ => Iff.rfl]
  refine ((List.perm_insertionSort _ _).trans indexes).eq_of_sortedLE
    (List.sortedLE_insertionSort) ?_
  exact List.pairwise_le_range.sortedLE

section

variable {platform : AiPlatform} {config : TaggerConfig} {chunks : List TranscriptChunk}
  {calls : List TagCall} {returns : List TagReturn} {tagging : Tagging}

theorem TakesOnce.start (cache : TagCache) (sent : List Sent) :
    TakesOnce platform config chunks [] [] {
      cache, sent, workers := List.replicate (min config.concurrency chunks.length) .ready } where
  taken := Nat.zero_le _
  inOrder := rfl
  texts := by simp
  divides := ⟨[], by simp [List.count_replicate], by simp [List.filterMap_replicate, Worker.hand]⟩
  crew := List.length_replicate
  finished := by simp [List.mem_replicate]
  answers := by simp [List.mem_replicate]
  kept := rfl
  ids := by simp
  tagged := by simp

theorem TakesOnce.indexes (once : TakesOnce platform config chunks calls returns tagging)
    (concurrency : 1 ≤ config.concurrency)
    (finished : ∀ worker ∈ tagging.workers, worker = .done) :
    tagging.nextIndex = chunks.length ∧
      (tagging.results.map Prod.fst).Perm (List.range chunks.length) := by
  have reached : tagging.nextIndex = chunks.length := by
    have crew := once.crew
    cases workers : tagging.workers with
    | nil =>
      have taken := once.taken
      rw [workers, List.length_nil] at crew
      omega
    | cons worker rest =>
      have isWorker : worker ∈ tagging.workers := by
        rw [workers]
        exact List.mem_cons_self
      rw [finished worker isWorker] at isWorker
      exact once.finished isWorker
  obtain ⟨lost, failures, perm⟩ := once.divides
  have none : lost = [] := by
    rw [List.count_eq_zero.mpr] at failures
    · exact List.length_eq_zero_iff.mp failures
    · intro failed
      cases finished _ failed
  have empty : tagging.workers.filterMap Worker.hand = [] := by
    rw [List.filterMap_eq_nil_iff]
    intro worker isWorker
    rw [finished worker isWorker]
    rfl
  rw [none, empty, reached, List.append_nil, List.append_nil] at perm
  exact ⟨reached, perm⟩

theorem TakesOnce.returned_indexes (once : TakesOnce platform config chunks calls returns tagging) :
    returns.map (·.index) = tagging.results.map Prod.fst := by
  have firsts := congrArg (List.map Prod.fst) once.kept
  rw [List.map_map, List.map_map] at firsts
  exact firsts

theorem TakesOnce.entry (once : TakesOnce platform config chunks calls returns tagging)
    (indexes : (tagging.results.map Prod.fst).Perm (List.range chunks.length))
    {place : Nat} {chunk : TranscriptChunk} (isChunk : chunks[place]? = some chunk) :
    ∃ tags cached, TagReturn.mk place tags cached ∈ returns ∧
      ((tagging.results.insertionSort fun first second => first.1 ≤ second.1).map
        Prod.snd)[place]? = some { chunkId := chunk.id, tags, cached } := by
  obtain ⟨inside, _⟩ := List.getElem?_eq_some_iff.mp isChunk
  have sorted := congrArg (·[place]?) (sorted_indexes indexes)
  simp only [List.getElem?_map, List.getElem?_range inside, Option.map_eq_some_iff] at sorted
  obtain ⟨⟨index, result⟩, atPlace, isPlace⟩ := sorted
  replace isPlace : index = place := isPlace
  subst isPlace
  have isEntry : (index, result) ∈ tagging.results :=
    (List.mem_insertionSort _).mp (List.mem_of_getElem? atPlace)
  have sameId : chunk.id = result.chunkId := by simpa [isChunk] using once.ids _ isEntry
  have returned : putContent (index, result) ∈ returns.map TagReturn.content := by
    rw [once.kept]
    exact List.mem_map_of_mem isEntry
  obtain ⟨⟨other, tags, cached⟩, isReturn, same⟩ := List.mem_map.mp returned
  obtain ⟨rfl, rfl, rfl⟩ : other = index ∧ tags = result.tags ∧ cached = result.cached := by
    simpa [TagReturn.content, putContent] using same
  refine ⟨result.tags, result.cached, isReturn, ?_⟩
  rw [List.getElem?_map, atPlace, Option.map_some, sameId]

end

/-- In whatever order the answers come, the workers take the chunks one by one and finish; once
they are done each chunk was asked for once, and its entry has the tags of that call. -/
theorem processChunks_tags_each_once (platform : AiPlatform) (config : TaggerConfig)
    (chunks : List TranscriptChunk) (concurrency : 1 ≤ config.concurrency) (cache : TagCache)
    (sent : List Sent) (turns : List (Nat × Date)) :
    let start : Tagging := {
      cache, sent, workers := List.replicate (min config.concurrency chunks.length) .ready }
    let turn := workerTurn platform config chunks
    let tagging := processChunksWithConcurrency platform config chunks cache sent turns
    let calls := log turn (tagChunkCalls chunks) start turns
    let returns := log turn (tagChunkReturns platform config chunks) start turns
    calls.map (·.index) = List.range tagging.nextIndex ∧
    (∀ call ∈ calls, chunks[call.index]?.map (·.text) = some call.text) ∧
    (log turn busyTurns start turns).length ≤
      4 * chunks.length + min config.concurrency chunks.length ∧
    (tagging.outcome.isSome ∨ .failed ∈ tagging.workers ∨
      ∃ worker ∈ tagging.workers, worker.running = true) ∧
    ∀ results, tagging.outcome = some results →
      calls.map (·.index) = List.range chunks.length ∧
      (returns.map (·.index)).Perm (List.range chunks.length) ∧
      results.length = chunks.length ∧
      ∀ (place : Nat) (chunk : TranscriptChunk), chunks[place]? = some chunk →
        ∃ tags cached, TagReturn.mk place tags cached ∈ returns ∧
          results[place]? = some { chunkId := chunk.id, tags, cached } ∧
          (cached = false → ∃ content, Answers platform chunk (some content) ∧
            tags = answeredTags platform content) := by
  intro start turn tagging calls returns
  have begun : TakesOnce platform config chunks [] [] start := .start cache sent
  have once : TakesOnce platform config chunks calls returns tagging := begun.run turns
  refine ⟨once.inOrder, once.texts, ?_, ?_, ?_⟩
  · have bounded : (log turn busyTurns start turns).length + tagging.remaining chunks ≤
      start.remaining chunks := begun.remaining_run turns
    have initially : start.remaining chunks =
        4 * chunks.length + min config.concurrency chunks.length := by
      simp [start, Tagging.remaining, Worker.weight]
    omega
  · by_cases failed : .failed ∈ tagging.workers
    · exact .inr (.inl failed)
    by_cases running : ∃ worker ∈ tagging.workers, worker.running = true
    · exact .inr (.inr running)
    refine .inl ?_
    have done : tagging.workers.all (· == .done) = true := by
      rw [List.all_eq_true]
      intro worker isWorker
      cases worker with
      | done => rfl
      | failed => exact absurd isWorker failed
      | ready | asking index | waiting index answer => exact absurd ⟨_, isWorker, rfl⟩ running
    rw [Tagging.outcome, if_pos done]
    rfl
  · intro results outcome
    simp only [Tagging.outcome] at outcome
    split at outcome
    · next allDone =>
        have finished : ∀ worker ∈ tagging.workers, worker = .done := by
          simpa using allDone
        obtain ⟨reached, indexes⟩ := once.indexes concurrency finished
        have sorted := Option.some.inj outcome
        refine ⟨reached ▸ once.inOrder, once.returned_indexes ▸ indexes, ?_, ?_⟩
        · rw [← sorted, List.length_map, List.length_insertionSort, ← List.length_map Prod.fst,
            indexes.length_eq, List.length_range]
        · intro place chunk isChunk
          obtain ⟨tags, cached, isReturn, entry⟩ := once.entry indexes isChunk
          refine ⟨tags, cached, isReturn, sorted ▸ entry, ?_⟩
          intro uncached
          obtain ⟨other, content, isOther, answers, isTags⟩ := once.tagged _ isReturn uncached
          obtain rfl : chunk = other := Option.some.inj (isChunk.symm.trans isOther)
          exact ⟨content, answers, isTags⟩
    · cases outcome

def twoChunks : List TranscriptChunk := [
  { id := 1, callId := 7, chunkIndex := 0, text := "We had an outage." },
  { id := 2, callId := 7, chunkIndex := 1, text := "Now we sleep." }]

def secondFirst : List (Nat × Date) :=
  [(0, 0), (1, 0), (0, 0), (1, 0), (1, 5), (1, 5), (0, 9), (0, 9)]

def silentPlatform : AiPlatform where
  answer _ := some []
  parseJson _ := none
  hashText text := text

theorem secondFirst_tagged :
    (log (workerTurn silentPlatform {} twoChunks) (tagChunkCalls twoChunks)
      { cache := [], sent := [], workers := List.replicate 2 .ready } secondFirst).map
        (·.index) = [0, 1] := by
  have finished : (processChunksWithConcurrency silentPlatform {} twoChunks [] []
      secondFirst).outcome = some [
        { chunkId := 1, tags := [], cached := false },
        { chunkId := 2, tags := [], cached := false }] := by decide +kernel
  have tagged := processChunks_tags_each_once silentPlatform {} twoChunks (by decide) [] []
    secondFirst
  exact (tagged.2.2.2.2 _ finished).1

end StoryEngine.Pipeline
