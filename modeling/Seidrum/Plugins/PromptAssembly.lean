import Mathlib.Data.String.Basic
import Seidrum.Foundation.Ends
import Seidrum.Plugins.ContextLoader

/-!
# The prompt assembled from a loaded context

The router renders the system prompt from a template, gives each section of the context a share of the
tokens left for it, and puts the similar content, the conversation so far and the message of the user
one after the other.  What exceeds the budget is dropped from the front.
-/

namespace Seidrum.Plugins

open EventBus (Value)
open Foundation Kernel

/-- What the router reads of an inbound message. -/
structure ChannelInbound extends InboundMessage where
  metadata : AList fun _ : String ↦ String

structure SimpleMessage where
  role : String
  content : String
  deriving DecidableEq, Repr

/-- What the template of the system prompt may mention. -/
structure PromptVariables where
  userName : String
  currentTime : String
  scopeName : String
  activeSkills : String
  currentFacts : String
  activeTasks : String
  conversationHistory : String
  availableTools : String

structure ContextConfig where
  maxContextTokens : ℕ
  maxResponseTokens : ℕ
  promptTemplate : String

structure AssembledContext where
  systemPrompt : String
  messages : List SimpleMessage
  estimatedTokens : ℕ
  deriving DecidableEq, Repr

/-- What the assembly relies on: the tokens of a text, a percentage of a budget, the rendering of a
template (none when it fails) and of numbers, the parsing of a message and the clock. -/
structure PromptServices where
  countTokens : String → ℕ
  percent : ℕ → ℕ → ℕ
  render : String → PromptVariables → Option String
  confidenceText : Option Value → String
  relevanceText : Value → Option String
  inboundFromValue : Value → Option ChannelInbound
  currentTime : String

def textField (value : Value) (field : String) : Option String := (value.get field).bind Value.asStr

def formatFact (confidenceText : Option Value → String) (fact : Value) : String :=
  let subject := (((fact.get "subject_name") <|> (fact.get "subject")).bind Value.asStr).getD "?"
  let predicate := (textField fact "predicate").getD "?"
  let object := ((fact.get "object_name") <|> (fact.get "object")).bind Value.asStr
  let target := (object <|> textField fact "value").getD "?"
  "- " ++ subject ++ " " ++ predicate ++ " " ++ target ++
    " (confidence: " ++ confidenceText (fact.get "confidence") ++ "%)"

def formatFacts (confidenceText : Option Value → String) (facts : List Value) : String :=
  if facts.isEmpty then "No relevant facts available."
  else "\n".intercalate (facts.map (formatFact confidenceText))

def formatTask (task : Value) : String :=
  "- [" ++ (textField task "status").getD "open" ++ "] " ++
    (textField task "title").getD "Untitled" ++
    " (priority: " ++ (textField task "priority").getD "normal" ++
    ", due: " ++ (textField task "due_date").getD "no due date" ++ ")"

def formatTasks (tasks : List Value) : String :=
  if tasks.isEmpty then "No active tasks." else "\n".intercalate (tasks.map formatTask)

/-- The text of a stored message. -/
def rowText (row : Value) : String :=
  (textField row "content" <|> textField row "text" <|> textField row "raw_text").getD ""

def formatHistory (history : List Value) : String :=
  if history.isEmpty then "No recent conversation."
  else "\n".intercalate (history.filterMap fun row ↦
    if rowText row = "" then none
    else some ((textField row "role" <|> textField row "source").getD "unknown" ++ ": " ++ rowText row))

def formatSkills (skills : List Value) : String :=
  "\n\n".intercalate (skills.filterMap fun skill ↦
    let snippet := (textField skill "snippet").getD ""
    if snippet = "" then none
    else some ("[Active Skill: " ++ (textField skill "id").getD "unknown" ++ "]\n" ++ snippet))

def formatSimilarContent (relevanceText : Value → Option String) (content : List Value) : String :=
  "\n---\n".intercalate (content.filterMap fun item ↦
    let text := (textField item "raw_text" <|> textField item "text").getD ""
    if text = "" then none
    else some <| match (item.get "score").bind relevanceText with
      | some relevance => "[relevance: " ++ relevance ++ "] " ++ text
      | none => text)

/-- The lines of a text, without what ends them. -/
def lines (text : String) : List String :=
  let pieces := text.toList.splitOn '\n'
  let ended := pieces.dropLast.map fun line ↦
    if line.getLast? = some '\r' then line.dropLast else line
  let rest := (pieces.getLast?.filter (· ≠ [])).toList
  (ended ++ rest).map String.ofList

/-- The first lines that fit in a budget, each counted with its line break. -/
def takeLines (countTokens : String → ℕ) (budget : ℕ) : ℕ → List String → List String
  | _, [] => []
  | running, line :: rest =>
      let lineTokens := countTokens line + 1
      if budget < running + lineTokens then []
      else line :: takeLines countTokens budget (running + lineTokens) rest

/-- Truncate a text to a budget, from its beginning. -/
def truncateToBudget (countTokens : String → ℕ) (text : String) (budget : ℕ) : String :=
  if countTokens text ≤ budget then text
  else "\n".intercalate (takeLines countTokens budget 0 (lines text).reverse).reverse

/-- The roles of the stored messages in terms of the two roles of the prompt. -/
def normalizedRole : String → String
  | "user" | "human" => "user"
  | "assistant" | "bot" | "agent" | "model" => "assistant"
  | _ => "user"

/-- A stored message as a message of the prompt, if it has a text. -/
def historyMessage (row : Value) : Option SimpleMessage :=
  if rowText row = "" then none
  else some ⟨normalizedRole ((textField row "role").getD "user"), rowText row⟩

/-- The exchange that gives the model the similar content. -/
def ragMessages (ragText : String) : List SimpleMessage :=
  if ragText = "" then []
  else
    [⟨"user", "[System context - relevant knowledge]\n" ++ ragText ++ "\n[End system context]"⟩,
      ⟨"assistant", "I've noted the relevant context. How can I help you?"⟩]

def messageTokens (countTokens : String → ℕ) (messages : List SimpleMessage) : ℕ :=
  (messages.map fun message ↦ countTokens message.content + 4).sum

/-- Remove messages from the front while more than two are left and they exceed the budget. -/
def removeOldest (countTokens : String → ℕ) (budget : ℕ) : List SimpleMessage → List SimpleMessage
  | first :: second :: third :: rest =>
      if messageTokens countTokens (first :: second :: third :: rest) ≤ budget then
        first :: second :: third :: rest
      else removeOldest countTokens budget (second :: third :: rest)
  | messages => messages

/-- The messages within the budget. -/
def truncateMessages (countTokens : String → ℕ) (budget : ℕ) (messages : List SimpleMessage) :
    List SimpleMessage :=
  if budget < messageTokens countTokens messages then removeOldest countTokens budget messages
  else messages

namespace PromptServices

variable (services : PromptServices)

/-- The name of the user: given with the message, the sender's identity, or a person in the context. -/
def extractUserName (context : AgentContextLoaded) : String :=
  let named := (services.inboundFromValue context.originalEvent.payload).bind fun inbound ↦
    inbound.metadata.lookup "user_name" <|> inbound.requestUser
  let person := context.entities.findSome? fun entity ↦
    if textField entity "entity_type" = some "person" then textField entity "name" else none
  (named <|> person).getD "User"

def promptVariables (context : AgentContextLoaded) (facts tasks history skills : String) :
    PromptVariables where
  userName := services.extractUserName context
  currentTime := services.currentTime
  scopeName := context.originalEvent.scope.getD "default"
  activeSkills := skills
  currentFacts := facts
  activeTasks := tasks
  conversationHistory := history
  availableTools := "brain-query, web-search"

def renderPrompt (template : String) (context : AgentContextLoaded) : Option String :=
  services.render template (services.promptVariables context
    (formatFacts services.confidenceText context.facts) (formatTasks context.activeTasks)
    (formatHistory context.conversationHistory) (formatSkills context.skillSnippets))

def extractUserText (context : AgentContextLoaded) : Option String :=
  (services.inboundFromValue context.originalEvent.payload).map (·.text)

/-- The tokens left for the context: those of the window without the response, the system prompt and
the message of the user. -/
def remainingTokens (config : ContextConfig) (context : AgentContextLoaded) : Option ℕ := do
  let systemPrompt ← services.renderPrompt config.promptTemplate context
  let userText ← services.extractUserText context
  return config.maxContextTokens - config.maxResponseTokens - services.countTokens systemPrompt -
    services.countTokens userText

def factsBudget (remaining : ℕ) : ℕ := services.percent 20 remaining

def tasksBudget (remaining : ℕ) : ℕ := services.percent 5 remaining

def ragBudget (remaining : ℕ) : ℕ := services.percent 15 remaining

def skillsBudget (remaining : ℕ) : ℕ := services.percent 10 remaining

def historyBudget (remaining : ℕ) : ℕ := services.percent 35 remaining

/-- The budget of all messages before the user's. -/
def messagesBudget (remaining : ℕ) : ℕ := services.historyBudget remaining + services.ragBudget remaining

/-- The messages before the user's. -/
def earlierMessages (remaining : ℕ) (context : AgentContextLoaded) : List SimpleMessage :=
  let ragText := truncateToBudget services.countTokens
    (formatSimilarContent services.relevanceText context.similarContent)
    (services.ragBudget remaining)
  truncateMessages services.countTokens (services.messagesBudget remaining)
    (ragMessages ragText ++ context.conversationHistory.filterMap historyMessage)

/-- Render the system prompt again, with the sections cut to their budgets. -/
def renderBudgetedSystemPrompt (template : String) (remaining : ℕ) (context : AgentContextLoaded) :
    Option String :=
  let truncated := truncateToBudget services.countTokens
  services.render template (services.promptVariables context
    (truncated (formatFacts services.confidenceText context.facts) (services.factsBudget remaining))
    (truncated (formatTasks context.activeTasks) (services.tasksBudget remaining))
    (truncated (formatHistory context.conversationHistory) (services.historyBudget remaining))
    (truncated (formatSkills context.skillSnippets) (services.skillsBudget remaining)))

def assembleContext (config : ContextConfig) (context : AgentContextLoaded) :
    Option AssembledContext := do
  let remaining ← services.remainingTokens config context
  let userText ← services.extractUserText context
  let messages := services.earlierMessages remaining context ++ [⟨"user", userText⟩]
  let systemPrompt ← services.renderBudgetedSystemPrompt config.promptTemplate remaining context
  return {
    systemPrompt := systemPrompt
    messages := messages
    estimatedTokens :=
      services.countTokens systemPrompt + messageTokens services.countTokens messages }

end PromptServices

/-- At most two messages, or messages within the budget. -/
def Fits (countTokens : String → ℕ) (budget : ℕ) (messages : List SimpleMessage) : Prop :=
  messages.length ≤ 2 ∨ messageTokens countTokens messages ≤ budget

instance (countTokens : String → ℕ) (budget : ℕ) : DecidablePred (Fits countTokens budget) :=
  fun messages ↦ inferInstanceAs (Decidable (messages.length ≤ 2 ∨ _))

section Kept

variable {countTokens : String → ℕ} {budget : ℕ}

theorem fits_nil : Fits countTokens budget [] := .inl (Nat.zero_le 2)

theorem fits_of_suffix (messages whole : List SimpleMessage) (h : messages <:+ whole)
    (hfits : Fits countTokens budget whole) : Fits countTokens budget messages := by
  refine hfits.imp h.length_le.trans fun hbudget ↦ ?_
  obtain ⟨front, rfl⟩ := h
  rw [messageTokens, List.map_append, List.sum_append] at hbudget
  exact (Nat.le_add_left _ _).trans hbudget

theorem removeOldest_eq (messages : List SimpleMessage) :
    removeOldest countTokens budget messages = lastFitting (Fits countTokens budget) messages := by
  fun_induction removeOldest countTokens budget messages with
  | case1 first second third rest hbudget => exact (lastFitting_of_fits (.inr hbudget)).symm
  | case2 first second third rest hbudget ih =>
    have hlong : ¬Fits countTokens budget (first :: second :: third :: rest) := by
      rintro (hshort | hfits)
      · simp at hshort
      · exact hbudget hfits
    rw [ih]
    exact (if_neg hlong).symm
  | case3 messages hshort =>
    refine (lastFitting_of_fits (.inl ?_)).symm
    match messages, hshort with
    | [], _ | [_], _ | [_, _], _ => simp
    | first :: second :: third :: rest, hshort => exact (hshort first second third rest rfl).elim

theorem truncateMessages_eq (messages : List SimpleMessage) :
    truncateMessages countTokens budget messages =
      lastFitting (Fits countTokens budget) messages := by
  unfold truncateMessages
  split_ifs with hbudget
  · exact removeOldest_eq messages
  · exact (lastFitting_of_fits (.inr (Nat.le_of_not_lt hbudget))).symm

end Kept

/-- The last messages before the user's, as many as there may be of the history. -/
def AssembledContext.history (assembled : AssembledContext) (count : ℕ) : List SimpleMessage :=
  assembled.messages.dropLast.rtake count

/-- The history in the prompt is the longest end of the loaded history that fits. -/
theorem history_assembled {services : PromptServices} {config : ContextConfig}
    {context : AgentContextLoaded} {assembled : AssembledContext} {remaining : ℕ}
    (hassembled : services.assembleContext config context = some assembled)
    (hremaining : services.remainingTokens config context = some remaining) :
    assembled.history (context.conversationHistory.filterMap historyMessage).length =
      lastFitting (Fits services.countTokens (services.messagesBudget remaining))
        (context.conversationHistory.filterMap historyMessage) := by
  simp only [PromptServices.assembleContext, hremaining, Option.bind_eq_bind, Option.bind_some,
    Option.bind_eq_some_iff, Option.pure_def, Option.some.injEq] at hassembled
  obtain ⟨userText, -, systemPrompt, -, rfl⟩ := hassembled
  rw [AssembledContext.history, List.dropLast_concat, PromptServices.earlierMessages,
    truncateMessages_eq, rtake_lastFitting_append fits_nil fits_of_suffix]

section Conversation

variable {κ : Type} [LinearOrder κ] (services : BrainServices κ) (db : Brain)

/-- A stored message belongs to the chat, and to the user if the request has one. -/
def InboundMessage.InChat (inbound : InboundMessage) (doc : Document) : Prop :=
  (doc.field "channel_id").asStr = some inbound.chatId ∧
    ∀ user ∈ inbound.requestUser, (doc.field "user_id").asStr = some user

instance (inbound : InboundMessage) : DecidablePred inbound.InChat :=
  fun _ ↦ inferInstanceAs (Decidable (_ ∧ ∀ user ∈ inbound.requestUser, _))

/-- The stored messages of a chat, oldest first, of which the database finds the latest. -/
structure StoredConversation (inbound : InboundMessage) (limit : ℕ) (conversation : List Document) :
    Prop where
  stored : conversation.Perm ((db.collection "content").filter inbound.InChat)
  chronological : conversation.Pairwise fun earlier later ↦
    services.rank (earlier.field "timestamp") ≤ services.rank (later.field "timestamp")
  answered : services.execute (historyAql inbound.requestUser)
    (historyVars inbound.chatId limit inbound.requestUser) db =
      some ((conversation.reverse.take limit).map Document.value)

/-- The messages of the prompt that a list of stored messages gives. -/
def promptMessages (docs : List Document) : List SimpleMessage :=
  docs.filterMap fun doc ↦ historyMessage doc.value

variable {services db}

theorem conversationHistory_loaded {config : LoaderConfig} {embedding : Option (List Value)}
    {ask : BrainCall → Option BrainQueryResponse} {skillSnippets : List Value}
    {envelope : EventEnvelope} {inbound : InboundMessage} {conversation : List Document}
    (hconversation : StoredConversation services db inbound config.historyLength conversation)
    (hask : ask (brainQuery (conversationHistoryRequest inbound.chatId config.historyLength
        inbound.requestUser)) =
      some ((brainQuery (conversationHistoryRequest inbound.chatId config.historyLength
        inbound.requestUser)).answer services db)) :
    (loadContext config embedding ask skillSnippets envelope inbound).conversationHistory =
      (conversation.reverse.take (min firstBatch config.historyLength)).map Document.value := by
  have hhandled : services.handleAqlQuery db (conversationHistoryRequest inbound.chatId
      config.historyLength inbound.requestUser) none =
        .ok (.array ((conversation.reverse.take (min firstBatch config.historyLength)).map Document.value)) := by
    simp only [BrainServices.handleAqlQuery, conversationHistoryRequest, Option.getD_some,
      hconversation.answered, batch, ← List.map_take, List.take_take]
  have hanswer : ((brainQuery (conversationHistoryRequest inbound.chatId config.historyLength
      inbound.requestUser)).answer services db).results =
        .array ((conversation.reverse.take (min firstBatch config.historyLength)).map Document.value) := by
    have htype : QueryType.ofString (conversationHistoryRequest inbound.chatId config.historyLength
        inbound.requestUser).queryType = .aql := rfl
    simp only [BrainCall.answer, BrainServices.handleQueryRequest, brainQuery, Option.map_none,
      BrainServices.handleQuery, htype, hhandled, BrainQueryResponse.ofResult]
  simp only [loadContext, assembleLoaded, hask, Option.map_some, Option.getD_some, hanswer, arrayItems]

/-- The history in the prompt is an end of the conversation exactly if the fetched messages, read from
the latest on, are the same as read from the oldest on, as far as the oldest fit in the budget. -/
theorem history_recent_iff {prompt : PromptServices} {context : ContextConfig}
    {config : LoaderConfig} {embedding : Option (List Value)}
    {ask : BrainCall → Option BrainQueryResponse} {skillSnippets : List Value}
    {envelope : EventEnvelope} {inbound : InboundMessage} {conversation : List Document}
    {assembled : AssembledContext} {remaining : ℕ}
    (hconversation : StoredConversation services db inbound config.historyLength conversation)
    (hask : ask (brainQuery (conversationHistoryRequest inbound.chatId config.historyLength
        inbound.requestUser)) =
      some ((brainQuery (conversationHistoryRequest inbound.chatId config.historyLength
        inbound.requestUser)).answer services db))
    (hassembled : prompt.assembleContext context
      (loadContext config embedding ask skillSnippets envelope inbound) = some assembled)
    (hremaining : prompt.remainingTokens context
      (loadContext config embedding ask skillSnippets envelope inbound) = some remaining) :
    let fetched := promptMessages (conversation.reverse.take (min firstBatch config.historyLength))
    assembled.history fetched.length <:+ promptMessages conversation ↔
      Mirrored (Fits prompt.countTokens (prompt.messagesBudget remaining)) fetched := by
  intro fetched
  have hfetched : (loadContext config embedding ask skillSnippets envelope
      inbound).conversationHistory.filterMap historyMessage = fetched := by
    rw [conversationHistory_loaded hconversation hask, List.filterMap_map]
    rfl
  have hkept := history_assembled hassembled hremaining
  rw [hfetched] at hkept
  have hrecent : fetched.reverse <:+ promptMessages conversation := by
    have hreverse : fetched.reverse =
        promptMessages (conversation.reverse.take (min firstBatch config.historyLength)).reverse :=
      List.filterMap_reverse.symm
    rw [hreverse]
    refine List.IsSuffix.filterMap _ ?_
    rw [← List.reverse_prefix, List.reverse_reverse]
    exact List.take_prefix _ _
  rw [hkept, ← lastFitting_suffix_reverse_iff fits_nil fits_of_suffix]
  constructor
  · intro hsuffix
    refine List.suffix_of_suffix_length_le hsuffix hrecent ?_
    rw [List.length_reverse]
    exact (lastFitting_suffix fetched).length_le
  · intro hsuffix
    exact hsuffix.trans hrecent

end Conversation

def storedMessage (key text timestamp : String) : Document where
  collection := "content"
  key := key
  fields := [("channel_id", .string "42"), ("raw_text", .string text),
    ("timestamp", .string timestamp), ("user_id", .string "alex")]

def firstMessage : Document := storedMessage "content_1" "hi" "2025-01-01T10:00:00Z"

def secondMessage : Document := storedMessage "content_2" "any news?" "2025-01-01T10:01:00Z"

/-- Services whose database finds the latest of the messages, all of them stored in order. -/
def orderedServices : BrainServices String where
  rank value := value.asStr.getD ""
  cosineSimilarity _ _ := .number "1"
  execute _ _ db := some
    (((db.collection "content").reverse.take sampleLoader.historyLength).map Document.value)
  accepts _ _ := true
  embed _ := none
  reading := untilQuery
  fetchFails _ := false

def inboundEnvelope : EventEnvelope :=
  { EventEnvelope.sample with
    payload := .object [("attachments", .array []), ("chat_id", .string "42"),
      ("metadata", .object []), ("platform", .string "telegram"), ("reply_to", .null),
      ("text", .string "hello"), ("user_id", .string "alex")] }

/-- A token for every character, and a template that mentions nothing. -/
def plainPrompt : PromptServices where
  countTokens := String.length
  percent share budget := share * budget / 100
  render template _ := some template
  confidenceText _ := "100"
  relevanceText _ := none
  inboundFromValue value := do
    let userId ← textField value "user_id"
    let chatId ← textField value "chat_id"
    let text ← textField value "text"
    return ⟨⟨userId, chatId, text⟩, ∅⟩
  currentTime := "2025-01-01T10:02:00Z"

def samplePrompt : ContextConfig := ⟨1000, 100, "Be brief."⟩

def sampleLoaded (db : Brain) : AgentContextLoaded :=
  loadContext sampleLoader none (fun call ↦ some (call.answer orderedServices db)) []
    inboundEnvelope sampleInbound

theorem storedConversation_sample {docs : List Document}
    (hall : ∀ doc ∈ docs, doc.collection = "content" ∧ sampleInbound.InChat doc)
    (hsorted : docs.Pairwise fun earlier later ↦ orderedServices.rank (earlier.field "timestamp") ≤
      orderedServices.rank (later.field "timestamp")) :
    StoredConversation orderedServices ⟨[], docs, []⟩ sampleInbound sampleLoader.historyLength
      docs where
  stored := by
    have hcontent : (⟨[], docs, []⟩ : Brain).collection "content" = docs :=
      List.filter_eq_self.mpr fun doc hdoc ↦ decide_eq_true (hall doc hdoc).1
    rw [hcontent, List.filter_eq_self.mpr fun doc hdoc ↦ decide_eq_true (hall doc hdoc).2]
  chronological := hsorted
  answered := by
    have hcontent : (⟨[], docs, []⟩ : Brain).collection "content" = docs :=
      List.filter_eq_self.mpr fun doc hdoc ↦ decide_eq_true (hall doc hdoc).1
    simp only [orderedServices, hcontent]

def lastMessage : Document := storedMessage "content_3" "hi" "2025-01-01T10:02:00Z"

/-- Three messages that read the same from both sides. -/
theorem history_recent_mirrored :
    ∃ assembled ∈ plainPrompt.assembleContext samplePrompt
        (sampleLoaded ⟨[], [firstMessage, secondMessage, lastMessage], []⟩),
      assembled.history 3 <:+ promptMessages [firstMessage, secondMessage, lastMessage] := by
  obtain ⟨assembled, hassembled⟩ : ∃ assembled, plainPrompt.assembleContext samplePrompt
      (sampleLoaded ⟨[], [firstMessage, secondMessage, lastMessage], []⟩) = some assembled :=
    Option.isSome_iff_exists.mp (by decide +kernel)
  refine ⟨assembled, hassembled, ?_⟩
  exact (history_recent_iff (storedConversation_sample (by decide +kernel) (by decide +kernel)) rfl
    hassembled rfl).mpr (by decide +kernel)

/-- Two messages that the prompt has in the reverse order. -/
theorem history_reversed :
    StoredConversation orderedServices ⟨[], [firstMessage, secondMessage], []⟩ sampleInbound
        sampleLoader.historyLength [firstMessage, secondMessage] ∧
      ∃ assembled ∈ plainPrompt.assembleContext samplePrompt
          (sampleLoaded ⟨[], [firstMessage, secondMessage], []⟩),
        assembled.history 2 = promptMessages [secondMessage, firstMessage] ∧
          ¬assembled.history 2 <:+ promptMessages [firstMessage, secondMessage] :=
  ⟨storedConversation_sample (by decide +kernel) (by decide +kernel), by decide +kernel⟩

end Seidrum.Plugins
