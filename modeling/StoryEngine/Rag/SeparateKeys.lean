import StoryEngine.Rag.CacheKeys

namespace StoryEngine.Rag.CacheKeys

open Processing Schema Text

/-! # Requests with the same key

Two requests whose parts are not shifted by separators have the same key only when they are the same
after normalization.
-/

section

variable {sha256 : Text → Text} {cases : CaseMapping} {topK otherTopK : Nat}

theorem question_parts {input other : RagQuestion} (injective : Function.Injective sha256)
    (apart : QuestionsApart cases input other topK otherTopK)
    (same : buildRagQueryCacheKey sha256 cases input topK =
      buildRagQueryCacheKey sha256 cases other otherTopK) :
    normalQuestion cases input topK = normalQuestion cases other otherTopK := by
  rw [buildRagQueryCacheKey_eq, buildRagQueryCacheKey_eq] at same
  have joined := List.append_cancel_left (injective same)
  have comparable : Comparable (questionParts cases input topK) (questionParts cases other otherTopK) :=
    .inl rfl
  have parts := eq_of_join rfl comparable apart.parts joined
  have stages := apart.stages parts
  simp only [questionParts, List.cons.injEq, and_true] at parts
  obtain ⟨organization, account, count, query, array⟩ := parts
  simp only [normalQuestion, organization, account, toDigits_injective count, query,
    normalizeArray_eq stages array]

theorem account_eq_of_getD {account other : Option Text} (named : account = none ↔ other = none)
    (same : account.getD ("all" : String).toList = other.getD ("all" : String).toList) :
    account = other := by
  cases account with
  | none => exact (named.mp rfl).symm
  | some text =>
    cases other with
    | none => cases named.mpr rfl
    | some text => exact congrArg some same

theorem conversation_parts {input other : RagConversation} (injective : Function.Injective sha256)
    (apart : ConversationsApart cases input other topK otherTopK)
    (same : buildRagChatCacheKey sha256 cases input topK =
      buildRagChatCacheKey sha256 cases other otherTopK) :
    normalConversation cases input topK = normalConversation cases other otherTopK := by
  rw [buildRagChatCacheKey_eq, buildRagChatCacheKey_eq] at same
  have joined := List.append_cancel_left (injective same)
  have comparable : Comparable (conversationParts cases input topK)
      (conversationParts cases other otherTopK) := .inl rfl
  have parts := eq_of_join rfl comparable apart.parts joined
  have stages := apart.stages parts
  have messages := apart.messages parts
  have accounts := apart.accounts parts
  simp only [conversationParts, List.cons.injEq, and_true] at parts
  obtain ⟨organization, account, count, query, array, history⟩ := parts
  simp only [normalConversation, organization, account_eq_of_getD accounts account,
    toDigits_injective count, query, normalizeArray_eq stages array,
    normalizeHistory_eq messages history]

/-- Requests whose parts are not shifted by separators are told apart by their keys. -/
theorem cache_keys_separate (injective : Function.Injective sha256) :
    (∀ (input other : RagQuestion) (topK otherTopK : Nat),
      QuestionsApart cases input other topK otherTopK →
      buildRagQueryCacheKey sha256 cases input topK =
        buildRagQueryCacheKey sha256 cases other otherTopK →
      normalQuestion cases input topK = normalQuestion cases other otherTopK) ∧
    ∀ (input other : RagConversation) (topK otherTopK : Nat),
      ConversationsApart cases input other topK otherTopK →
      buildRagChatCacheKey sha256 cases input topK =
        buildRagChatCacheKey sha256 cases other otherTopK →
      normalConversation cases input topK = normalConversation cases other otherTopK :=
  ⟨fun _ _ _ _ apart same => question_parts injective apart same,
    fun _ _ _ _ apart same => conversation_parts injective apart same⟩

variable {input : RagConversation}

/-- A chat about all accounts has the key of one about an account of that name. -/
theorem all_accounts_share_key (all : input.accountId = none) :
    buildRagChatCacheKey sha256 cases { input with accountId := some "all" } topK =
        buildRagChatCacheKey sha256 cases input topK ∧
      normalConversation cases { input with accountId := some "all" } topK ≠
        normalConversation cases input topK := by
  constructor
  · simp only [buildRagChatCacheKey, all, Option.getD_some, Option.getD_none]
  · intro same
    have account := congrArg NormalConversation.accountId same
    simp only [normalConversation, all] at account
    cases account

/-- Two stages or more have the key of one stage that is named like all of them. -/
theorem stages_share_key (several : 1 < (normalizeArray input.funnelStages).length)
    (settled : trim (normalizeArrayKey input.funnelStages) = normalizeArrayKey input.funnelStages) :
    let joined := { input with funnelStages := [normalizeArrayKey input.funnelStages] }
    buildRagChatCacheKey sha256 cases joined topK =
        buildRagChatCacheKey sha256 cases input topK ∧
      normalConversation cases joined topK ≠ normalConversation cases input topK := by
  have solid : normalizeArrayKey input.funnelStages ≠ [] := by
    intro empty
    cases stages : normalizeArray input.funnelStages with
    | nil =>
      rw [stages] at several
      exact absurd several (by decide)
    | cons stage rest =>
      rw [normalizeArrayKey_eq, stages, join_cons_rest] at empty
      have member : stage ∈ normalizeArray input.funnelStages := stages ▸ List.mem_cons_self
      exact (mem_normalizeArray member).1 (List.append_eq_nil_iff.mp empty).1
  have one : normalizeArray [normalizeArrayKey input.funnelStages] =
      [normalizeArrayKey input.funnelStages] := by
    simp [normalizeArray, settled, solid]
  constructor
  · have sameKey : normalizeArrayKey [normalizeArrayKey input.funnelStages] =
        normalizeArrayKey input.funnelStages := by
      rw [normalizeArrayKey_eq, one]
      rfl
    simp only [buildRagChatCacheKey, sameKey]
  · intro same
    have stages := congrArg NormalConversation.funnelStages same
    simp only [normalConversation, one] at stages
    rw [← stages] at several
    exact Nat.lt_irrefl 1 several

def mergedMessage (cases : CaseMapping) (first second : ChatMessage) : ChatMessage where
  role := first.role
  content := normalizeQueryKey cases first.content ++ ':' :: ':' ::
    messageText { second with content := normalizeQueryKey cases second.content }

/-- Two messages have the key of one message that quotes the second. -/
theorem messages_share_key {first second : ChatMessage} {rest : List ChatMessage}
    (several : input.history = first :: second :: rest)
    (settled : normalizeQueryKey cases (mergedMessage cases first second).content =
      (mergedMessage cases first second).content) :
    let merged := { input with history := mergedMessage cases first second :: rest }
    buildRagChatCacheKey sha256 cases merged topK =
        buildRagChatCacheKey sha256 cases input topK ∧
      normalConversation cases merged topK ≠ normalConversation cases input topK := by
  constructor
  · have sameKey : normalizeHistoryKey cases (mergedMessage cases first second :: rest) =
        normalizeHistoryKey cases input.history := by
      rw [normalizeHistoryKey_eq, normalizeHistoryKey_eq, several]
      simp only [normalizeHistory, List.map_cons, settled]
      rw [join_cons_rest, join_cons_rest _ _ (_ :: _), joinRest.eq_2, join_cons_rest]
      simp [messageText, mergedMessage]
    simp only [buildRagChatCacheKey, sameKey]
  · intro same
    have messages := congrArg (fun normal => normal.history.length) same
    simp [normalConversation, normalizeHistory, several] at messages

end

def twoTurns : RagConversation where
  query := "why?"
  accountId := some "c1"
  organizationId := "o1"
  history := [
    { role := .user, content := "a" },
    { role := .assistant, content := "b" }]

theorem two_turns_collide :
    buildRagChatCacheKey id .ascii
        { twoTurns with history := [{ role := .user, content := "a::assistant:b" }] } 8 =
        buildRagChatCacheKey id .ascii twoTurns 8 ∧
      normalConversation .ascii
        { twoTurns with history := [{ role := .user, content := "a::assistant:b" }] } 8 ≠
        normalConversation .ascii twoTurns 8 := by
  decide

theorem other_answer_other_key :
    buildRagChatCacheKey id .ascii
        { twoTurns with history := [{ role := .user, content := "a" }] } 8 ≠
      buildRagChatCacheKey id .ascii twoTurns 8 := by
  have apart : ConversationsApart .ascii
      { twoTurns with history := [{ role := .user, content := "a" }] } twoTurns 8 8 :=
    ⟨by decide +kernel, fun _ => by decide +kernel, fun _ => by decide +kernel, fun _ => by decide⟩
  intro same
  have equal := (cache_keys_separate Function.injective_id).2 _ _ 8 8 apart same
  exact absurd equal (by decide)

end StoryEngine.Rag.CacheKeys
