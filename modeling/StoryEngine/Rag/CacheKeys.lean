import StoryEngine.Rag.Chat
import StoryEngine.Text.Separators

namespace StoryEngine.Rag.CacheKeys

open Processing Schema Text

/-! # Cache keys as texts

A key is the hash of the parts of a request, joined by bars that the parts are not escaped for.
Requests are told apart as long as separators in their parts do not shift them.
-/

/-- A question, whose identifiers are strings of the request. -/
structure RagQuestion where
  query : Text
  accountId : Text
  organizationId : Text
  funnelStages : List Text := []

structure RagConversation where
  query : Text
  accountId : Option Text
  organizationId : Text
  history : List ChatMessage := []
  funnelStages : List Text := []

section

variable (sha256 : Text → Text) (cases : CaseMapping)

def hashCacheKey (parts : List Text) : Text := sha256 (join ['|', '|'] parts)

def buildRagQueryCacheKey (input : RagQuestion) (topK : Nat) : Text :=
  hashCacheKey sha256 [
    "query",
    input.organizationId,
    input.accountId,
    Nat.toDigits 10 topK,
    normalizeQueryKey cases input.query,
    normalizeArrayKey input.funnelStages]

def buildRagChatCacheKey (input : RagConversation) (topK : Nat) : Text :=
  hashCacheKey sha256 [
    "chat",
    input.organizationId,
    input.accountId.getD "all",
    Nat.toDigits 10 topK,
    normalizeQueryKey cases input.query,
    normalizeArrayKey input.funnelStages,
    normalizeHistoryKey cases input.history]

/-! ## Keys of rows

The engine's questions name accounts and organizations by their rows.  Its keys keep their parts
apart; the text is made of these parts.
-/

def ofQuery (input : RagQuery) : RagQuestion where
  query := input.query
  accountId := RowId.text input.accountId
  organizationId := RowId.text input.organizationId
  funnelStages := input.funnelStages

def ofChatQuery (input : RagChatQuery) : RagConversation where
  query := input.query
  accountId := input.accountId.map RowId.text
  organizationId := RowId.text input.organizationId
  history := input.history
  funnelStages := input.funnelStages

theorem buildRagQueryCacheKey_ofQuery (input : RagQuery) (topK : Nat) :
    let key := Processing.buildRagQueryCacheKey cases input topK
    buildRagQueryCacheKey sha256 cases (ofQuery input) topK =
      hashCacheKey sha256 ["query", RowId.text key.organizationId, RowId.text key.accountId,
        Nat.toDigits 10 key.topK, key.query, key.funnelStages] := rfl

theorem buildRagChatCacheKey_ofChatQuery (input : RagChatQuery) (topK : Nat) :
    let key := Rag.buildRagChatCacheKey cases input topK
    buildRagChatCacheKey sha256 cases (ofChatQuery input) topK =
      hashCacheKey sha256 ["chat", RowId.text key.organizationId,
        (key.accountId.map RowId.text).getD "all", Nat.toDigits 10 key.topK, key.query,
        key.funnelStages, key.history] := rfl

/-- The stages that `normalizeArrayKey` joins. -/
def normalizeArray (values : List Text) : List Text :=
  ((values.map trim).filter (!·.isEmpty)).insertionSort fun first second =>
    @LE.le (List Nat) List.instLE (codeUnits first) (codeUnits second)

/-- The messages that `normalizeHistoryKey` joins. -/
def normalizeHistory (history : List ChatMessage) : List ChatMessage :=
  history.map fun item => { item with content := normalizeQueryKey cases item.content }

structure NormalQuestion where
  organizationId : Text
  accountId : Text
  topK : Nat
  query : Text
  funnelStages : List Text

structure NormalConversation where
  organizationId : Text
  accountId : Option Text
  topK : Nat
  query : Text
  funnelStages : List Text
  history : List ChatMessage
deriving DecidableEq

def normalQuestion (input : RagQuestion) (topK : Nat) : NormalQuestion where
  organizationId := input.organizationId
  accountId := input.accountId
  topK
  query := normalizeQueryKey cases input.query
  funnelStages := normalizeArray input.funnelStages

def normalConversation (input : RagConversation) (topK : Nat) : NormalConversation where
  organizationId := input.organizationId
  accountId := input.accountId
  topK
  query := normalizeQueryKey cases input.query
  funnelStages := normalizeArray input.funnelStages
  history := normalizeHistory cases input.history

/-- The parts of the key of a question, behind its first word. -/
def questionParts (input : RagQuestion) (topK : Nat) : List Text := [
  input.organizationId,
  input.accountId,
  Nat.toDigits 10 topK,
  normalizeQueryKey cases input.query,
  normalizeArrayKey input.funnelStages]

def conversationParts (input : RagConversation) (topK : Nat) : List Text := [
  input.organizationId,
  input.accountId.getD "all",
  Nat.toDigits 10 topK,
  normalizeQueryKey cases input.query,
  normalizeArrayKey input.funnelStages,
  normalizeHistoryKey cases input.history]

def messageText (message : ChatMessage) : Text := message.role.name ++ ':' :: message.content

def messageTexts (input : RagConversation) : List Text :=
  (normalizeHistory cases input.history).map messageText

/-- No separator in a part shifts the parts of one question to those of the other, and where all parts
are the same no bar in a stage shifts their stages. -/
structure QuestionsApart (input other : RagQuestion) (topK otherTopK : Nat) : Prop where
  parts : ¬Shifts '|' (questionParts cases input topK) (questionParts cases other otherTopK)
  stages : questionParts cases input topK = questionParts cases other otherTopK →
    ¬Shifts '|' (normalizeArray input.funnelStages) (normalizeArray other.funnelStages)

/-- The same of two chats; where all parts are the same, moreover no colons in a message shift their
messages, and not only one of them names an account. -/
structure ConversationsApart (input other : RagConversation) (topK otherTopK : Nat) : Prop where
  parts : ¬Shifts '|' (conversationParts cases input topK) (conversationParts cases other otherTopK)
  stages : conversationParts cases input topK = conversationParts cases other otherTopK →
    ¬Shifts '|' (normalizeArray input.funnelStages) (normalizeArray other.funnelStages)
  messages : conversationParts cases input topK = conversationParts cases other otherTopK →
    ¬Shifts ':' (messageTexts cases input) (messageTexts cases other)
  accounts : conversationParts cases input topK = conversationParts cases other otherTopK →
    (input.accountId = none ↔ other.accountId = none)

end

theorem buildRagQueryCacheKey_eq (sha256 : Text → Text) (cases : CaseMapping) (input : RagQuestion)
    (topK : Nat) : buildRagQueryCacheKey sha256 cases input topK =
      sha256 (join ['|', '|'] ("query" :: questionParts cases input topK)) := rfl

theorem buildRagChatCacheKey_eq (sha256 : Text → Text) (cases : CaseMapping)
    (input : RagConversation) (topK : Nat) : buildRagChatCacheKey sha256 cases input topK =
      sha256 (join ['|', '|'] ("chat" :: conversationParts cases input topK)) := rfl

theorem toDigits_injective {number other : Nat}
    (same : Nat.toDigits 10 number = Nat.toDigits 10 other) : number = other := by
  have numbers := congrArg (fun digits => Nat.ofDigitChars 10 digits 0) same
  simpa only [Nat.ofDigitChars_ten_toDigits] using numbers

section

variable {values others : List Text}

theorem mem_normalizeArray {stage : Text} (member : stage ∈ normalizeArray values) :
    stage ≠ [] ∧ ∃ value ∈ values, stage = trim value := by
  obtain ⟨mapped, solid⟩ := List.mem_filter.mp ((List.mem_insertionSort _).mp member)
  obtain ⟨value, isValue, rfl⟩ := List.mem_map.mp mapped
  exact ⟨by simpa using solid, value, isValue, rfl⟩

theorem normalizeArrayKey_eq (values : List Text) :
    normalizeArrayKey values = join ['|'] (normalizeArray values) := rfl

theorem normalizeArray_eq (apart : ¬Shifts '|' (normalizeArray values) (normalizeArray others))
    (same : normalizeArrayKey values = normalizeArrayKey others) :
    normalizeArray values = normalizeArray others :=
  eq_of_join rfl (.inr ⟨fun _ member => (mem_normalizeArray member).1,
    fun _ member => (mem_normalizeArray member).1⟩) apart same

end

theorem normalizeHistoryKey_eq (cases : CaseMapping) (history : List ChatMessage) :
    normalizeHistoryKey cases history =
      join [':', ':'] ((normalizeHistory cases history).map messageText) := by
  rw [normalizeHistoryKey, normalizeHistory, List.map_map]
  rfl

theorem user_name : ChatRole.user.name = ['u', 's', 'e', 'r'] := by decide

theorem assistant_name : ChatRole.assistant.name = ['a', 's', 's', 'i', 's', 't', 'a', 'n', 't'] := by
  decide

theorem messageText_ne_nil (message : ChatMessage) : messageText message ≠ [] := by
  cases role : message.role <;> simp [messageText]

theorem messageText_injective : Function.Injective messageText := by
  rintro ⟨role, content⟩ ⟨other, contentOther⟩ same
  cases role with
  | user =>
    cases other with
    | user => exact congrArg (ChatMessage.mk _) (List.cons.inj (List.append_cancel_left same)).2
    | assistant =>
      rw [messageText, messageText, user_name, assistant_name] at same
      exact absurd (List.cons.inj same).1 (by decide)
  | assistant =>
    cases other with
    | user =>
      rw [messageText, messageText, user_name, assistant_name] at same
      exact absurd (List.cons.inj same).1 (by decide)
    | assistant => exact congrArg (ChatMessage.mk _) (List.cons.inj (List.append_cancel_left same)).2

theorem normalizeHistory_eq {cases : CaseMapping} {input other : RagConversation}
    (apart : ¬Shifts ':' (messageTexts cases input) (messageTexts cases other))
    (same : normalizeHistoryKey cases input.history = normalizeHistoryKey cases other.history) :
    normalizeHistory cases input.history = normalizeHistory cases other.history := by
  have solid (input : RagConversation) : ∀ text ∈ messageTexts cases input, text ≠ [] := by
    intro text member
    obtain ⟨message, _, rfl⟩ := List.mem_map.mp member
    exact messageText_ne_nil message
  rw [normalizeHistoryKey_eq, normalizeHistoryKey_eq] at same
  exact List.map_injective_iff.mpr messageText_injective
    (eq_of_join rfl (.inr ⟨solid input, solid other⟩) apart same)

end StoryEngine.Rag.CacheKeys
