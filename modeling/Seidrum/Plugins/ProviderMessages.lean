import Seidrum.Plugins.Conversations
import Seidrum.Plugins.ToolLoop

/-!
# The messages of OpenAI, Ollama and Anthropic

OpenAI and Ollama have every result in a message of its own, after a message for the one that held it.
Anthropic has texts, calls and results as blocks of its messages.  The tool loop appends the reply of
the model and the results of its calls.
-/

namespace Seidrum.Plugins

open EventBus (Value)
open Foundation Kernel

namespace ChatForm

variable {Message Call Result ι : Type} [DecidableEq ι] {form : ChatForm Message Call Result ι}

/-- What a turn appends: its items, in shared roles, as calls and then their results. -/
structure TurnFaithful (form : ChatForm Message Call Result ι) (items : List (Item Call Result))
    (appended : List Message) : Prop where
  items : appended.flatMap form.items = items
  roles : ∀ message ∈ appended, form.role message ∈ sharedRoles
  answered : ∃ ids, appended.flatMap form.parts = exchange ids ids

omit [DecidableEq ι] in
variable (form) in
/-- A reply with calls, and a message for the result of each of them. -/
theorem turnFaithful_of_reply {reply : Message} {results : List (UnifiedToolCall × ToolCallResponse)}
    {message : UnifiedToolCall × ToolCallResponse → Message}
    {view : UnifiedToolCall × ToolCallResponse → Result} (id : UnifiedToolCall → ι)
    (hrole : form.role reply ∈ sharedRoles)
    (hparts : form.parts reply = exchange ((results.map Prod.fst).map id) [])
    (hmessage : ∀ entry, form.role (message entry) = "tool" ∧
      form.items (message entry) = [.result (view entry)] ∧
      form.parts (message entry) = [.result (some (id entry.1))]) :
    TurnFaithful form (form.items reply ++ results.map fun entry ↦ .result (view entry))
      (reply :: results.map message) := by
  refine ⟨?_, ?_, (results.map Prod.fst).map id, ?_⟩
  · rw [List.flatMap_cons, List.flatMap_map, List.map_eq_flatMap]
    exact congrArg _ (List.flatMap_congr fun entry _ ↦ (hmessage entry).2.1)
  · intro sent hsent
    rcases List.mem_cons.mp hsent with rfl | hresult
    · exact hrole
    · obtain ⟨entry, -, rfl⟩ := List.mem_map.mp hresult
      rw [(hmessage entry).1]
      decide
  · have hresults : (results.map message).flatMap form.parts =
        resultParts ((results.map Prod.fst).map id) := by
      rw [List.flatMap_map, resultParts, List.map_map, List.map_map, List.map_eq_flatMap]
      exact List.flatMap_congr fun entry _ ↦ (hmessage entry).2.2
    rw [List.flatMap_cons, hparts, hresults, exchange, exchange, resultParts_nil, List.append_nil]

variable {messages : List UnifiedMessage} {front : List Message}

omit [DecidableEq ι] in
theorem parts_front (hfront : ∀ message ∈ front, form.parts message = [.other]) :
    ∀ part ∈ front.flatMap form.parts, part = .other := by
  intro part hmem
  obtain ⟨message, hmessage, hpart⟩ := List.mem_flatMap.mp hmem
  rw [hfront message hmessage] at hpart
  exact List.mem_singleton.mp hpart

variable {Reply : Type} {dialect : Dialect Message Reply}
  {turnItems : ModelTurn Reply → List (Item Call Result)} {maxToolRounds : ℕ}
  {turns : List (ModelTurn Reply)}

omit [DecidableEq ι] in
/-- Behind the front messages, only the shared roles are sent. -/
theorem role_sent (hroles : ∀ message ∈ messages, message.role ∈ sharedRoles)
    (hturns : ∀ turn ∈ turns, TurnFaithful form (turnItems turn) (dialect.appended turn))
    {round : Round Message Reply}
    (hround : round ∈ dialect.rounds maxToolRounds (front ++ form.translate messages) turns) :
    ∃ later, round.sent = front ++ later ∧ ∀ message ∈ later, form.role message ∈ sharedRoles := by
  obtain ⟨hsent, hearlier⟩ := Dialect.sent_rounds hround
  refine ⟨_, hsent.trans (List.append_assoc _ _ _), fun message hmem ↦ ?_⟩
  rcases List.mem_append.mp hmem with htranslated | happended
  · exact role_translate hroles message htranslated
  · obtain ⟨turn, hmemTurn, hmessage⟩ := List.mem_flatMap.mp happended
    exact (hturns turn (hearlier turn hmemTurn).1).roles message hmessage

theorem answered_appended {done : List (ModelTurn Reply)}
    (hturns : ∀ turn ∈ done, TurnFaithful form (turnItems turn) (dialect.appended turn)) :
    Opens ((done.flatMap dialect.appended).flatMap form.parts) ∧
      Answered [] ((done.flatMap dialect.appended).flatMap form.parts) := by
  choose! ids hids using fun turn hmem ↦ (hturns turn hmem).answered
  rw [List.flatMap_assoc]
  exact answered_flatMap_exchange (fun _ _ _ hnone ↦ absurd hnone List.not_mem_nil) hids

/-- All requests of the loop are faithful exactly if the prompts are and the conversation has neither
messages of the role "tool" nor calls. -/
theorem faithful_rounds_iff (front : List Message) (prompts : List Message → List String)
    {prompt : Option String} {PromptSent : Prop} (hform : WellFormed messages)
    (hfront : ∀ message ∈ front,
      form.items message = [] ∧ form.role message ∈ form.roles ∧ form.parts message = [.other])
    (hturns : ∀ turn ∈ turns, TurnFaithful form (turnItems turn) (dialect.appended turn))
    (hprompt : ∀ round ∈ dialect.rounds maxToolRounds (front ++ form.translate messages) turns,
      (∀ text ∈ prompt, text ∈ prompts round.sent) ↔ PromptSent) :
    (∀ round ∈ dialect.rounds maxToolRounds (front ++ form.translate messages) turns,
      form.Faithful prompt (prompts round.sent)
        (form.expected messages ++ round.earlier.flatMap turnItems) round.sent) ↔
      PromptSent ∧ ∀ message ∈ messages, message.role ≠ "tool" ∧ message.calls = [] := by
  have hfrontItems : front.flatMap form.items = [] :=
    List.flatMap_eq_nil_iff.mpr fun message hmem ↦ (hfront message hmem).1
  have hfrontParts := parts_front fun message hmem ↦ (hfront message hmem).2.2
  rw [← faithful_translate_iff form hform]
  constructor
  · intro hall
    obtain ⟨executed, hfirst⟩ := dialect.first_round maxToolRounds (front ++ form.translate messages)
      turns
    obtain ⟨hsystem, hitems, -, hanswered⟩ := hall _ hfirst
    rw [List.flatMap_append, hfrontItems, List.flatMap_nil, List.append_nil, List.nil_append] at hitems
    rw [List.flatMap_append, answered_others_iff hfrontParts] at hanswered
    exact ⟨(hprompt _ hfirst).mp hsystem, hitems, hanswered⟩
  · rintro ⟨hsent, hitems, hanswered⟩ round hround
    obtain ⟨hmessages, hearlier⟩ := Dialect.sent_rounds hround
    have hdone := fun turn hturn ↦ hturns turn (hearlier turn hturn).1
    have hturnItems : (round.earlier.flatMap dialect.appended).flatMap form.items =
        round.earlier.flatMap turnItems := by
      rw [List.flatMap_assoc]
      exact List.flatMap_congr fun turn hmem ↦ (hdone turn hmem).items
    obtain ⟨hopens, hlater⟩ := answered_appended hdone
    rw [← List.append_nil ((form.translate messages).flatMap form.parts),
      answered_translate_iff (not_tool_of_items hform.roles hitems) opens_nil] at hanswered
    refine ⟨(hprompt round hround).mpr hsent, ?_, ?_, ?_⟩
    · calc round.sent.flatMap form.items
        _ = (form.translate messages).flatMap form.items ++
              (round.earlier.flatMap dialect.appended).flatMap form.items := by
          rw [hmessages, List.flatMap_append, List.flatMap_append, hfrontItems, List.nil_append]
        _ = form.expected messages ++ round.earlier.flatMap turnItems := by rw [hitems, hturnItems]
    · obtain ⟨later, hsplit, hroles⟩ := role_sent hform.roles hturns hround
      intro message hmem
      rw [hsplit] at hmem
      rcases List.mem_append.mp hmem with hmem | hmem
      · exact (hfront message hmem).2.1
      · exact form.shared_roles (hroles message hmem)
    · rw [hmessages, List.append_assoc, List.flatMap_append, List.flatMap_append,
        answered_others_iff hfrontParts, answered_translate_iff (not_tool_of_items hform.roles hitems) hopens]
      exact ⟨hanswered.1, hlater⟩

end ChatForm

/-! ## OpenAI -/

structure OpenAiFunctionCall where
  name : String
  arguments : String
  deriving DecidableEq, Repr

structure OpenAiToolCall where
  id : String
  callType : String
  function : OpenAiFunctionCall
  deriving DecidableEq, Repr

structure OpenAiMessage where
  role : String
  content : Option String
  toolCallId : Option String
  toolCalls : Option (List OpenAiToolCall)
  deriving DecidableEq, Repr

structure OpenAiFunctionSchema where
  name : String
  description : String
  parameters : Value

structure OpenAiTool where
  toolType : String
  function : OpenAiFunctionSchema

structure OpenAiRequest where
  messages : List OpenAiMessage
  tools : Option (List OpenAiTool)
  toolChoice : Option String

section OpenAi

variable (toJson : Value → String) (fromJson : String → Option Value)

def OpenAiMessage.toolResult (toolCallId content : String) : OpenAiMessage :=
  ⟨"tool", some content, some toolCallId, none⟩

def openAiToolCall (call : UnifiedToolCall) : OpenAiToolCall :=
  ⟨call.id, "function", call.name, toJson call.arguments⟩

def openAiMessage (message : UnifiedMessage) : OpenAiMessage where
  role := message.role
  content := message.content
  toolCallId := none
  toolCalls := message.toolCalls.map (·.map (openAiToolCall toJson))

def unifiedToOpenAiMessages (messages : List UnifiedMessage) : List OpenAiMessage :=
  messages.flatMap fun message ↦ openAiMessage toJson message ::
    message.results.map fun result ↦ .toolResult result.toolCallId result.content

def unifiedToOpenAiTools (tools : List ToolSchema) : List OpenAiTool :=
  tools.map fun tool ↦ ⟨"function", tool.name, tool.description, tool.parameters⟩

def openAiToolCallsToUnified (toolCalls : List OpenAiToolCall) : List UnifiedToolCall :=
  toolCalls.map fun call ↦
    ⟨call.id, call.function.name, (fromJson call.function.arguments).getD (.object [])⟩

def openAiDialect : Dialect OpenAiMessage OpenAiMessage where
  toolCalls reply := (reply.toolCalls.map (openAiToolCallsToUnified fromJson)).getD []
  append reply results := reply ::
    results.map fun (call, response) ↦ .toolResult call.id (toJson response.result)

/-- The requests sent to the API for a request; the system prompt is not among what is sent. -/
def openAiRounds (request : UnifiedLlmRequest) (maxToolRounds : ℕ)
    (turns : List (ModelTurn OpenAiMessage)) : List (Round OpenAiMessage OpenAiMessage) :=
  (openAiDialect toJson fromJson).rounds maxToolRounds
    (unifiedToOpenAiMessages toJson request.messages) turns

def openAiRequest (request : UnifiedLlmRequest) (round : Round OpenAiMessage OpenAiMessage) :
    OpenAiRequest where
  messages := round.sent
  tools := if request.tools.isEmpty then none else some (unifiedToOpenAiTools request.tools)
  toolChoice := if request.tools.isEmpty then none else some "auto"

/-- The system prompts among the messages. -/
def OpenAiRequest.systemPrompts (request : OpenAiRequest) : List String :=
  (request.messages.filter (·.role ∈ ["developer", "system"])).filterMap (·.content)

/-- What a message of the API says: a result of the call it names, or its text and its calls. -/
def OpenAiMessage.items (message : OpenAiMessage) :
    List (Item OpenAiToolCall (Option String × String)) :=
  if message.role = "tool" then [.result (message.toolCallId, message.content.getD "")]
  else if message.role ∈ ["developer", "system"] then []
  else (message.content.filter (· ≠ "")).toList.map .text ++
    (message.toolCalls.getD []).map .call

def OpenAiMessage.parts (message : OpenAiMessage) : List (Passage String) :=
  if message.role = "tool" then [.result message.toolCallId]
  else exchange ((message.toolCalls.getD []).map (·.id)) []

variable {role : String}

theorem ne_tool_of_chat (h : role ∈ ["user", "assistant"]) : role ≠ "tool" := by
  rintro rfl
  exact absurd h (by decide)

theorem shared_of_chat (h : role ∈ ["user", "assistant"]) : role ∈ sharedRoles :=
  List.mem_append_left ["tool"] h

theorem not_system_of_shared (h : role ∈ sharedRoles) : role ∉ ["developer", "system"] := by
  simp only [sharedRoles, List.mem_cons, List.not_mem_nil, or_false] at h
  rcases h with rfl | rfl | rfl <;> decide

theorem toolCalls_openAiMessage (message : UnifiedMessage) :
    (openAiMessage toJson message).toolCalls.getD [] = message.calls.map (openAiToolCall toJson) := by
  cases h : message.toolCalls <;> simp [openAiMessage, UnifiedMessage.calls, h]

def openAiForm : ChatForm OpenAiMessage OpenAiToolCall (Option String × String) String where
  roles := ["developer", "system", "user", "assistant", "tool"]
  role := OpenAiMessage.role
  items := OpenAiMessage.items
  parts := OpenAiMessage.parts
  base := openAiMessage toJson
  resultMessage result := .toolResult result.toolCallId result.content
  viewCall := openAiToolCall toJson
  viewResult result := (some result.toolCallId, result.content)
  callId := UnifiedToolCall.id
  resultId := UnifiedToolResult.toolCallId
  shared_roles := by decide
  role_base _ := rfl
  role_result _ := rfl
  items_base message h := by
    have htool : (openAiMessage toJson message).role ≠ "tool" := ne_tool_of_chat h
    have hsystem : (openAiMessage toJson message).role ∉ ["developer", "system"] :=
      not_system_of_shared (shared_of_chat h)
    rw [OpenAiMessage.items, if_neg htool, if_neg hsystem, toolCalls_openAiMessage, List.map_map]
    rfl
  items_tool message h := ⟨_, if_pos h⟩
  items_result _ := rfl
  parts_base message h := by
    have htool : (openAiMessage toJson message).role ≠ "tool" := ne_tool_of_chat h
    rw [OpenAiMessage.parts, if_neg htool, toolCalls_openAiMessage, List.map_map]
    rfl
  parts_result _ := rfl

/-- What a turn adds to the conversation. -/
def openAiTurnItems (turn : ModelTurn OpenAiMessage) :
    List (Item OpenAiToolCall (Option String × String)) :=
  (turn.reply.content.filter (· ≠ "")).toList.map .text ++
    (turn.reply.toolCalls.getD []).map .call ++
    (turn.results ((openAiDialect toJson fromJson).toolCalls turn.reply)).map fun (call, response) ↦
      .result (some call.id, toJson response.result)

/-- The requests to OpenAI are faithful to a request and to what the model replied. -/
def OpenAiFaithful (request : UnifiedLlmRequest) (maxToolRounds : ℕ)
    (turns : List (ModelTurn OpenAiMessage)) : Prop :=
  ∀ round ∈ openAiRounds toJson fromJson request maxToolRounds turns,
    (openAiForm toJson).Faithful request.systemPrompt (openAiRequest request round).systemPrompts
      ((openAiForm toJson).expected request.messages ++
        round.earlier.flatMap (openAiTurnItems toJson fromJson))
      (openAiRequest request round).messages

variable {toJson fromJson}

theorem toolCalls_ids (reply : OpenAiMessage) :
    ((openAiDialect toJson fromJson).toolCalls reply).map (·.id) =
      (reply.toolCalls.getD []).map (·.id) := by
  cases h : reply.toolCalls with
  | none => simp [openAiDialect, h]
  | some calls => simp [openAiDialect, openAiToolCallsToUnified, h]

theorem turnFaithful_openAi {turn : ModelTurn OpenAiMessage} (h : turn.reply.role = "assistant") :
    ChatForm.TurnFaithful (openAiForm toJson) (openAiTurnItems toJson fromJson turn)
      ((openAiDialect toJson fromJson).appended turn) := by
  have hchat : turn.reply.role ∈ ["user", "assistant"] := by simp [h]
  have hitems : turn.reply.items = (turn.reply.content.filter (· ≠ "")).toList.map .text ++
      (turn.reply.toolCalls.getD []).map .call := by
    rw [OpenAiMessage.items, if_neg (ne_tool_of_chat hchat), if_neg (not_system_of_shared (shared_of_chat hchat))]
  have hparts : turn.reply.parts = exchange ((turn.reply.toolCalls.getD []).map (·.id)) [] := by
    rw [OpenAiMessage.parts, if_neg (ne_tool_of_chat hchat)]
  rw [openAiTurnItems, ← hitems]
  refine ChatForm.turnFaithful_of_reply (openAiForm toJson) UnifiedToolCall.id ?_ ?_
    fun entry ↦ ⟨rfl, rfl, rfl⟩
  · change turn.reply.role ∈ sharedRoles
    rw [h]
    decide
  · rw [ModelTurn.map_fst_results, toolCalls_ids]
    exact hparts

/-- The requests to OpenAI are faithful exactly if there is no system prompt and the conversation has
neither messages of the role "tool" nor calls. -/
theorem openAiFaithful_iff {request : UnifiedLlmRequest} (hform : WellFormed request.messages)
    {maxToolRounds : ℕ} {turns : List (ModelTurn OpenAiMessage)}
    (hturns : ∀ turn ∈ turns, turn.reply.role = "assistant") :
    OpenAiFaithful toJson fromJson request maxToolRounds turns ↔ request.systemPrompt = none ∧
      ∀ message ∈ request.messages, message.role ≠ "tool" ∧ message.calls = [] := by
  have hfaithful : ∀ turn ∈ turns, ChatForm.TurnFaithful (openAiForm toJson)
      (openAiTurnItems toJson fromJson turn) ((openAiDialect toJson fromJson).appended turn) :=
    fun turn hturn ↦ turnFaithful_openAi (hturns turn hturn)
  refine ChatForm.faithful_rounds_iff []
    (fun messages ↦ OpenAiRequest.systemPrompts ⟨messages, none, none⟩) hform (by simp) hfaithful
    fun round hround ↦ ?_
  obtain ⟨later, hsent, hroles⟩ := ChatForm.role_sent hform.roles hfaithful hround
  have hnone : OpenAiRequest.systemPrompts ⟨round.sent, none, none⟩ = [] := by
    rw [OpenAiRequest.systemPrompts, List.filter_eq_nil_iff.mpr]
    · rfl
    · intro message hmem hsystem
      exact not_system_of_shared (hroles message (by simpa [hsent] using hmem))
        (of_decide_eq_true hsystem)
  rw [hnone]
  cases request.systemPrompt <;> simp

end OpenAi

/-! ## Ollama -/

structure OllamaFunctionCall where
  index : Option ℕ
  name : String
  arguments : Value
  description : Option String

structure OllamaToolCall where
  id : Option String
  callType : Option String
  function : OllamaFunctionCall

structure OllamaMessage where
  role : String
  content : Option String
  thinking : Option String
  toolCalls : Option (List OllamaToolCall)
  toolName : Option String

structure OllamaTool where
  toolType : String
  function : OpenAiFunctionSchema

structure OllamaRequest where
  messages : List OllamaMessage
  tools : Option (List OllamaTool)

section Ollama

variable (toJson : Value → String) (fromJson : String → Option Value)

namespace OllamaMessage

def plain (role content : String) : OllamaMessage := ⟨role, some content, none, none, none⟩

def toolResult (toolName content : String) : OllamaMessage :=
  ⟨"tool", some content, none, none, some toolName⟩

end OllamaMessage

def ollamaToolCall (call : UnifiedToolCall) : OllamaToolCall :=
  ⟨some call.id, some "function", ⟨none, call.name, call.arguments, none⟩⟩

def ollamaMessage (message : UnifiedMessage) : OllamaMessage where
  role := message.role
  content := message.content
  thinking := none
  toolCalls := message.toolCalls.map (·.map ollamaToolCall)
  toolName := none

def unifiedToOllamaMessages (messages : List UnifiedMessage) : List OllamaMessage :=
  messages.flatMap fun message ↦ ollamaMessage message ::
    message.results.map fun result ↦ .plain "tool" result.content

def unifiedToOllamaTools (tools : List ToolSchema) : List OllamaTool :=
  tools.map fun tool ↦ ⟨"function", tool.name, tool.description, tool.parameters⟩

/-- The arguments of a call, which some models give as a text. -/
def ollamaArguments : Value → Value
  | .string raw => (fromJson raw).getD (.string raw)
  | value => value

def ollamaToolCallsToUnified (toolCalls : List OllamaToolCall) : List UnifiedToolCall :=
  toolCalls.zipIdx.map fun (call, i) ↦
    { id := (call.id <|> call.function.index.map fun index ↦ "call_" ++ toString index).getD
        ("call_" ++ toString i)
      name := call.function.name
      arguments := ollamaArguments fromJson call.function.arguments }

/-- The messages of a request, after its system prompt if that is not blank. -/
def systemMessages (request : UnifiedLlmRequest) : List OllamaMessage :=
  (((request.systemPrompt.map EventBus.trim).filter (· ≠ "")).map (.plain "system")).toList

def buildOllamaMessages (request : UnifiedLlmRequest) : List OllamaMessage :=
  systemMessages request ++ unifiedToOllamaMessages request.messages

def ollamaDialect : Dialect OllamaMessage OllamaMessage where
  toolCalls reply := (reply.toolCalls.map (ollamaToolCallsToUnified fromJson)).getD []
  append reply results := reply ::
    results.map fun (call, response) ↦ .toolResult call.name (toJson response.result)

def ollamaRounds (request : UnifiedLlmRequest) (maxToolRounds : ℕ)
    (turns : List (ModelTurn OllamaMessage)) : List (Round OllamaMessage OllamaMessage) :=
  (ollamaDialect toJson fromJson).rounds maxToolRounds (buildOllamaMessages request) turns

def ollamaRequest (request : UnifiedLlmRequest) (round : Round OllamaMessage OllamaMessage) :
    OllamaRequest where
  messages := round.sent
  tools := if request.tools.isEmpty then none else some (unifiedToOllamaTools request.tools)

def OllamaRequest.systemPrompts (request : OllamaRequest) : List String :=
  (request.messages.filter (·.role = "system")).filterMap (·.content)

/-- What a message of the API says; results name no call. -/
def OllamaMessage.items (message : OllamaMessage) : List (Item OllamaToolCall String) :=
  if message.role = "tool" then [.result (message.content.getD "")]
  else if message.role = "system" then []
  else (message.content.filter (· ≠ "")).toList.map .text ++
    (message.toolCalls.getD []).map .call

def OllamaMessage.parts (message : OllamaMessage) : List (Passage Unit) :=
  if message.role = "tool" then [.result (some ())]
  else exchange ((message.toolCalls.getD []).map fun _ ↦ ()) []

theorem toolCalls_ollamaMessage (message : UnifiedMessage) :
    (ollamaMessage message).toolCalls.getD [] = message.calls.map ollamaToolCall := by
  cases h : message.toolCalls <;> simp [ollamaMessage, UnifiedMessage.calls, h]

def ollamaForm : ChatForm OllamaMessage OllamaToolCall String Unit where
  roles := ["system", "user", "assistant", "tool"]
  role := OllamaMessage.role
  items := OllamaMessage.items
  parts := OllamaMessage.parts
  base := ollamaMessage
  resultMessage result := .plain "tool" result.content
  viewCall := ollamaToolCall
  viewResult := UnifiedToolResult.content
  callId _ := ()
  resultId _ := ()
  shared_roles := by decide
  role_base _ := rfl
  role_result _ := rfl
  items_base message h := by
    have htool : (ollamaMessage message).role ≠ "tool" := ne_tool_of_chat h
    have hsystem : (ollamaMessage message).role ≠ "system" := by
      rintro hrole
      exact not_system_of_shared (shared_of_chat h) (by simp [show message.role = "system" from hrole])
    rw [OllamaMessage.items, if_neg htool, if_neg hsystem, toolCalls_ollamaMessage, List.map_map]
    rfl
  items_tool message h := ⟨_, if_pos h⟩
  items_result _ := rfl
  parts_base message h := by
    have htool : (ollamaMessage message).role ≠ "tool" := ne_tool_of_chat h
    rw [OllamaMessage.parts, if_neg htool, toolCalls_ollamaMessage, List.map_map]
  parts_result _ := rfl

/-- What a turn adds to the conversation. -/
def ollamaTurnItems (turn : ModelTurn OllamaMessage) : List (Item OllamaToolCall String) :=
  (turn.reply.content.filter (· ≠ "")).toList.map .text ++
    (turn.reply.toolCalls.getD []).map .call ++
    (turn.results ((ollamaDialect toJson fromJson).toolCalls turn.reply)).map fun (_, response) ↦
      .result (toJson response.result)

/-- The requests to Ollama are faithful to a request and to what the model replied. -/
def OllamaFaithful (request : UnifiedLlmRequest) (maxToolRounds : ℕ)
    (turns : List (ModelTurn OllamaMessage)) : Prop :=
  ∀ round ∈ ollamaRounds toJson fromJson request maxToolRounds turns,
    ollamaForm.Faithful request.systemPrompt (ollamaRequest request round).systemPrompts
      (ollamaForm.expected request.messages ++
        round.earlier.flatMap (ollamaTurnItems toJson fromJson))
      (ollamaRequest request round).messages

/-- The system prompt is not blank and has no whitespace around it. -/
def Trimmed (prompt : String) : Prop := EventBus.trim prompt = prompt ∧ prompt ≠ ""

instance : DecidablePred Trimmed := fun prompt ↦
  inferInstanceAs (Decidable (EventBus.trim prompt = prompt ∧ prompt ≠ ""))

variable {toJson fromJson}

theorem length_toolCalls_ollama (reply : OllamaMessage) :
    ((ollamaDialect toJson fromJson).toolCalls reply).map (fun _ ↦ ()) =
      (reply.toolCalls.getD []).map fun _ ↦ () := by
  rw [List.map_const', List.map_const']
  cases h : reply.toolCalls with
  | none => simp [ollamaDialect, h]
  | some calls => simp [ollamaDialect, ollamaToolCallsToUnified, h]

theorem turnFaithful_ollama {turn : ModelTurn OllamaMessage} (h : turn.reply.role = "assistant") :
    ChatForm.TurnFaithful ollamaForm (ollamaTurnItems toJson fromJson turn)
      ((ollamaDialect toJson fromJson).appended turn) := by
  have htool : turn.reply.role ≠ "tool" := by simp [h]
  have hsystem : turn.reply.role ≠ "system" := by simp [h]
  have hitems : turn.reply.items = (turn.reply.content.filter (· ≠ "")).toList.map .text ++
      (turn.reply.toolCalls.getD []).map .call := by
    rw [OllamaMessage.items, if_neg htool, if_neg hsystem]
  have hparts : turn.reply.parts = exchange ((turn.reply.toolCalls.getD []).map fun _ ↦ ()) [] := by
    rw [OllamaMessage.parts, if_neg htool]
  rw [ollamaTurnItems, ← hitems]
  refine ChatForm.turnFaithful_of_reply ollamaForm (fun _ ↦ ()) ?_ ?_ fun entry ↦ ⟨rfl, rfl, rfl⟩
  · change turn.reply.role ∈ sharedRoles
    rw [h]
    decide
  · rw [ModelTurn.map_fst_results, length_toolCalls_ollama]
    exact hparts

/-- The requests to Ollama are faithful exactly if the system prompt is trimmed and the conversation
has neither messages of the role "tool" nor calls. -/
theorem ollamaFaithful_iff {request : UnifiedLlmRequest} (hform : WellFormed request.messages)
    {maxToolRounds : ℕ} {turns : List (ModelTurn OllamaMessage)}
    (hturns : ∀ turn ∈ turns, turn.reply.role = "assistant") :
    OllamaFaithful toJson fromJson request maxToolRounds turns ↔
      (∀ prompt ∈ request.systemPrompt, Trimmed prompt) ∧
      ∀ message ∈ request.messages, message.role ≠ "tool" ∧ message.calls = [] := by
  have hfaithful : ∀ turn ∈ turns, ChatForm.TurnFaithful ollamaForm
      (ollamaTurnItems toJson fromJson turn) ((ollamaDialect toJson fromJson).appended turn) :=
    fun turn hturn ↦ turnFaithful_ollama (hturns turn hturn)
  refine ChatForm.faithful_rounds_iff (systemMessages request)
    (fun messages ↦ OllamaRequest.systemPrompts ⟨messages, none⟩) hform ?_ hfaithful
    fun round hround ↦ ?_
  · intro message hmem
    obtain ⟨text, -, rfl⟩ := Option.map_eq_some_iff.mp (Option.mem_toList.mp hmem)
    exact ⟨rfl, List.mem_cons_self, rfl⟩
  · obtain ⟨later, hsent, hroles⟩ := ChatForm.role_sent hform.roles hfaithful hround
    have hlater : later.filter (·.role = "system") = [] := by
      refine List.filter_eq_nil_iff.mpr fun message hmem hsystem ↦ ?_
      exact not_system_of_shared (hroles message hmem)
        (List.mem_cons_of_mem _ (List.mem_singleton.mpr (of_decide_eq_true hsystem)))
    have hprompts : OllamaRequest.systemPrompts ⟨round.sent, none⟩ =
        ((request.systemPrompt.map EventBus.trim).filter (· ≠ "")).toList := by
      rw [OllamaRequest.systemPrompts, hsent, List.filter_append, hlater, List.append_nil,
        systemMessages]
      cases (request.systemPrompt.map EventBus.trim).filter (· ≠ "") <;> rfl
    rw [hprompts]
    cases request.systemPrompt with
    | none => simp
    | some prompt =>
      simp only [Option.mem_def, Option.some.injEq, forall_eq', Option.map_some, Trimmed,
        Option.mem_toList, Option.filter_eq_some_iff, decide_eq_true_eq]

end Ollama

/-! ## Anthropic -/

inductive AnthropicContent
  | text (words : String)
  | toolUse (id name : String) (input : Value)
  | toolResult (toolUseId content : String) (isError : Option Bool)

structure AnthropicMessage where
  role : String
  content : List AnthropicContent

structure AnthropicTool where
  name : String
  description : String
  inputSchema : Value

structure AnthropicRequest where
  messages : List AnthropicMessage
  system : Option String
  tools : Option (List AnthropicTool)

namespace AnthropicContent

def textOf : AnthropicContent → Option String
  | .text words => some words
  | _ => none

def toolCall : AnthropicContent → Option UnifiedToolCall
  | .toolUse id name input => some ⟨id, name, input⟩
  | _ => none

def resultId : AnthropicContent → Option String
  | .toolResult toolUseId _ _ => some toolUseId
  | _ => none

def item : AnthropicContent → Item UnifiedToolCall UnifiedToolResult
  | .text words => .text words
  | .toolUse id name input => .call ⟨id, name, input⟩
  | .toolResult toolUseId content isError => .result ⟨toolUseId, content, isError.getD false⟩

def ofCall (call : UnifiedToolCall) : AnthropicContent := .toolUse call.id call.name call.arguments

def ofResult (toolUseId content : String) (isError : Bool) : AnthropicContent :=
  .toolResult toolUseId content (if isError then some true else none)

end AnthropicContent

section Anthropic

variable (toJson : Value → String)

def anthropicContent (message : UnifiedMessage) : List AnthropicContent :=
  message.text.toList.map .text ++ message.calls.map .ofCall ++
    message.results.map fun result ↦ .ofResult result.toolCallId result.content result.isError

/-- A message without any block is left out. -/
def unifiedToAnthropicMessages (messages : List UnifiedMessage) : List AnthropicMessage :=
  messages.filterMap fun message ↦
    if (anthropicContent message).isEmpty then none else some ⟨message.role, anthropicContent message⟩

def unifiedToAnthropicTools (tools : List ToolSchema) : List AnthropicTool :=
  tools.map fun tool ↦ ⟨tool.name, tool.description, tool.parameters⟩

def anthropicToolUsesToUnified (content : List AnthropicContent) : List UnifiedToolCall :=
  content.filterMap (·.toolCall)

def anthropicResults (results : List (UnifiedToolCall × ToolCallResponse)) : List AnthropicContent :=
  results.map fun (call, response) ↦ .ofResult call.id (toJson response.result) response.isError

def anthropicDialect : Dialect AnthropicMessage (List AnthropicContent) where
  toolCalls := anthropicToolUsesToUnified
  append reply results := ⟨"assistant", reply⟩ ::
    if (anthropicResults toJson results).isEmpty then []
    else [⟨"user", anthropicResults toJson results⟩]

def anthropicRounds (request : UnifiedLlmRequest) (maxToolRounds : ℕ)
    (turns : List (ModelTurn (List AnthropicContent))) :
    List (Round AnthropicMessage (List AnthropicContent)) :=
  (anthropicDialect toJson).rounds maxToolRounds (unifiedToAnthropicMessages request.messages) turns

def anthropicRequest (request : UnifiedLlmRequest)
    (round : Round AnthropicMessage (List AnthropicContent)) : AnthropicRequest where
  messages := round.sent
  system := request.systemPrompt
  tools := if request.tools.isEmpty then none else some (unifiedToAnthropicTools request.tools)

/-- The texts of a message, then its calls and then its results. -/
def AnthropicMessage.parts (message : AnthropicMessage) : List (Passage String) :=
  ((message.content.filterMap (·.textOf)).map fun _ ↦ .other) ++
    callsPart ((anthropicToolUsesToUnified message.content).map (·.id)) ++
    resultParts (message.content.filterMap (·.resultId))

def anthropicForm : ApiForm AnthropicMessage UnifiedToolCall UnifiedToolResult String where
  roles := ["user", "assistant"]
  role := AnthropicMessage.role
  items message := message.content.map (·.item)
  parts := AnthropicMessage.parts

/-- What a turn adds to the conversation. -/
def anthropicTurnItems (turn : ModelTurn (List AnthropicContent)) :
    List (Item UnifiedToolCall UnifiedToolResult) :=
  turn.reply.map (·.item) ++
    (turn.results (anthropicToolUsesToUnified turn.reply)).map fun (call, response) ↦
      .result ⟨call.id, toJson response.result, response.isError⟩

/-- The requests to Anthropic are faithful to a request and to what the model replied. -/
def AnthropicFaithful (request : UnifiedLlmRequest) (maxToolRounds : ℕ)
    (turns : List (ModelTurn (List AnthropicContent))) : Prop :=
  ∀ round ∈ anthropicRounds toJson request maxToolRounds turns,
    anthropicForm.Faithful request.systemPrompt (anthropicRequest request round).system.toList
      (request.messages.flatMap (·.items) ++ round.earlier.flatMap (anthropicTurnItems toJson))
      (anthropicRequest request round).messages

variable {toJson}

@[simp]
theorem item_ofResult (toolUseId content : String) (isError : Bool) :
    (AnthropicContent.ofResult toolUseId content isError).item =
      .result ⟨toolUseId, content, isError⟩ := by
  cases isError <;> rfl

theorem map_item_anthropicContent (message : UnifiedMessage) :
    (anthropicContent message).map (·.item) = message.items := by
  rw [anthropicContent, UnifiedMessage.items, List.map_append, List.map_append, List.map_map,
    List.map_map, List.map_map]
  congr 1
  exact List.map_congr_left fun result _ ↦ item_ofResult _ _ _

variable {message : UnifiedMessage} {pending : List String} {rest : List (Passage String)}

theorem anthropicContent_eq_nil_iff : anthropicContent message = [] ↔ message.items = [] := by
  rw [← map_item_anthropicContent, List.map_eq_nil_iff]

theorem items_anthropic (messages : List UnifiedMessage) :
    (unifiedToAnthropicMessages messages).flatMap anthropicForm.items =
      messages.flatMap (·.items) := by
  induction messages with
  | nil => rfl
  | cons message rest ih =>
    rw [unifiedToAnthropicMessages, List.filterMap_cons, ← unifiedToAnthropicMessages,
      List.flatMap_cons]
    by_cases hnone : anthropicContent message = []
    · simp only [hnone, List.isEmpty_nil, if_true]
      rw [ih, anthropicContent_eq_nil_iff.mp hnone, List.nil_append]
    · simp only [List.isEmpty_iff, hnone, if_false]
      rw [List.flatMap_cons, ih]
      exact congrArg (· ++ _) (map_item_anthropicContent message)

/-- The parts of a message as its translation has them. -/
def anthropicParts (message : UnifiedMessage) : List (Passage String) :=
  (message.text.toList.map fun _ ↦ .other) ++ callsPart message.callIds ++
    resultParts message.resultIds

theorem parts_anthropicContent (message : UnifiedMessage) (role : String) :
    AnthropicMessage.parts ⟨role, anthropicContent message⟩ = anthropicParts message := by
  have htexts : (anthropicContent message).filterMap (·.textOf) = message.text.toList := by
    simp [anthropicContent, List.filterMap_append, List.filterMap_map, Function.comp_def,
      AnthropicContent.textOf, AnthropicContent.ofCall, AnthropicContent.ofResult]
  have hcalls : anthropicToolUsesToUnified (anthropicContent message) = message.calls := by
    simp [anthropicToolUsesToUnified, anthropicContent, List.filterMap_append, List.filterMap_map,
      Function.comp_def, AnthropicContent.toolCall, AnthropicContent.ofCall,
      AnthropicContent.ofResult]
  have hresults : (anthropicContent message).filterMap (·.resultId) = message.resultIds := by
    simp [anthropicContent, List.filterMap_append, List.filterMap_map, Function.comp_def,
      AnthropicContent.resultId, AnthropicContent.ofCall, AnthropicContent.ofResult,
      UnifiedMessage.resultIds]
  rw [AnthropicMessage.parts, htexts, hcalls, hresults]
  rfl

theorem parts_anthropic (messages : List UnifiedMessage) :
    (unifiedToAnthropicMessages messages).flatMap anthropicForm.parts =
      messages.flatMap anthropicParts := by
  induction messages with
  | nil => rfl
  | cons message rest ih =>
    rw [unifiedToAnthropicMessages, List.filterMap_cons, ← unifiedToAnthropicMessages,
      List.flatMap_cons, ← parts_anthropicContent message message.role]
    by_cases hnone : anthropicContent message = []
    · simp only [hnone, List.isEmpty_nil, if_true]
      rw [ih]
      rfl
    · simp only [List.isEmpty_iff, hnone, if_false]
      rw [List.flatMap_cons, ih]
      rfl

variable {messages : List UnifiedMessage}

theorem mem_anthropic {sent : AnthropicMessage} :
    sent ∈ unifiedToAnthropicMessages messages ↔
      ∃ message ∈ messages, message.items ≠ [] ∧ sent = ⟨message.role, anthropicContent message⟩ := by
  rw [unifiedToAnthropicMessages, List.mem_filterMap]
  refine exists_congr fun message ↦ and_congr_right fun _ ↦ ?_
  rw [Ne, ← anthropicContent_eq_nil_iff]
  by_cases hnone : anthropicContent message = []
  · simp [hnone]
  · simp only [List.isEmpty_iff, hnone, if_false, Option.some.injEq, not_false_eq_true, true_and]
    exact eq_comm

theorem role_anthropic_iff (hroles : ∀ message ∈ messages, message.role ∈ sharedRoles) :
    (∀ sent ∈ unifiedToAnthropicMessages messages, sent.role ∈ ["user", "assistant"]) ↔
      ∀ message ∈ messages, message.items ≠ [] → message.role ≠ "tool" := by
  constructor
  · intro hsent message hmem hitems
    exact ne_tool_of_chat (hsent _ (mem_anthropic.mpr ⟨message, hmem, hitems, rfl⟩))
  · intro hplain sent hsent
    obtain ⟨message, hmem, hitems, rfl⟩ := mem_anthropic.mp hsent
    exact (mem_chat_iff (hroles message hmem)).mpr (hplain message hmem hitems)

theorem texts_other (texts : List String) :
    ∀ part ∈ texts.map fun _ ↦ Passage.other (ι := String), part = .other := by
  intro part hmem
  obtain ⟨-, -, rfl⟩ := List.mem_map.mp hmem
  rfl

/-- A message with results can answer the pending calls only if it has nothing else. -/
theorem answered_with_results (hpending : pending ≠ [])
    (h : Answered pending (anthropicParts message ++ rest)) : message.text = none ∧ message.calls = [] := by
  have htext : message.text = none := by
    by_contra hsome
    obtain ⟨text, htext⟩ := Option.ne_none_iff_exists'.mp hsome
    rw [anthropicParts, htext] at h
    exact hpending h.1
  refine ⟨htext, ?_⟩
  by_contra hsome
  have hids : message.callIds ≠ [] := List.map_eq_nil_iff.not.mpr hsome
  rw [anthropicParts, htext, callsPart, if_neg hids] at h
  exact hpending h.1

/-- The messages are answered exactly if those with results have neither texts nor calls. -/
theorem answered_anthropic_iff (hform : Answered pending (messages.flatMap (·.exchangeParts)))
    (hrest : Answered [] rest) :
    Answered pending (messages.flatMap anthropicParts ++ rest) ↔
      ∀ message ∈ messages, message.results ≠ [] → message.text = none ∧ message.calls = [] := by
  induction messages generalizing pending with
  | nil =>
    obtain rfl : pending = [] := hform
    exact iff_of_true hrest fun message hmem ↦ absurd hmem List.not_mem_nil
  | cons message others ih =>
    rw [List.flatMap_cons, UnifiedMessage.exchangeParts, List.append_assoc] at hform
    rw [List.flatMap_cons, List.append_assoc, List.forall_mem_cons]
    by_cases hresults : message.results = []
    · rw [if_pos hresults, List.singleton_append, Answered, answered_callsPart_iff] at hform
      obtain ⟨rfl, hform⟩ := hform
      have hnone : resultParts message.resultIds = [] := by
        rw [resultIds_eq_nil_iff.mpr hresults, resultParts_nil]
      rw [anthropicParts, hnone, List.append_nil, List.append_assoc,
        answered_others_iff (texts_other _), answered_callsPart_iff, ih hform]
      exact (and_iff_right fun hsome ↦ absurd hresults hsome).symm
    · rw [if_neg hresults, answered_resultParts_iff] at hform
      obtain ⟨hsub, hform⟩ := hform
      have hpending : pending ≠ [] := by
        rintro rfl
        exact hresults (resultIds_eq_nil_iff.mp (List.subperm_nil.mp hsub))
      have halone : message.text = none ∧ message.calls = [] →
          (Answered pending (anthropicParts message ++ (others.flatMap anthropicParts ++ rest)) ↔
            ∀ other ∈ others, other.results ≠ [] → other.text = none ∧ other.calls = []) := by
        rintro ⟨htext, hcalls⟩
        have hparts : anthropicParts message = resultParts message.resultIds := by
          rw [anthropicParts, UnifiedMessage.callIds, htext, hcalls]
          rfl
        rw [UnifiedMessage.callIds, hcalls, List.map_nil, callsPart_nil, List.nil_append] at hform
        rw [hparts, answered_resultParts_iff, and_iff_right hsub, ih hform]
      constructor
      · intro h
        have honly := answered_with_results hpending h
        exact ⟨fun _ ↦ honly, (halone honly).mp h⟩
      · rintro ⟨honly, hothers⟩
        exact (halone (honly hresults)).mpr hothers

variable {turn : ModelTurn (List AnthropicContent)}

theorem appended_anthropic (hcalls : anthropicToolUsesToUnified turn.reply ≠ []) :
    (anthropicDialect toJson).appended turn = [⟨"assistant", turn.reply⟩,
      ⟨"user", anthropicResults toJson (turn.results (anthropicToolUsesToUnified turn.reply))⟩] := by
  have hresults : anthropicResults toJson (turn.results (anthropicToolUsesToUnified turn.reply)) ≠ [] := by
    simpa [anthropicResults, ModelTurn.results] using hcalls
  exact congrArg (_ :: ·) (if_neg (List.isEmpty_iff.not.mpr hresults))

theorem items_appended_anthropic (hcalls : anthropicToolUsesToUnified turn.reply ≠ []) :
    ((anthropicDialect toJson).appended turn).flatMap anthropicForm.items =
      anthropicTurnItems toJson turn := by
  have hresults : (anthropicResults toJson
      (turn.results (anthropicToolUsesToUnified turn.reply))).map (·.item) =
      (turn.results (anthropicToolUsesToUnified turn.reply)).map fun (call, response) ↦
        .result ⟨call.id, toJson response.result, response.isError⟩ := by
    rw [anthropicResults, List.map_map]
    exact List.map_congr_left fun result _ ↦ item_ofResult _ _ _
  calc ((anthropicDialect toJson).appended turn).flatMap anthropicForm.items
    _ = turn.reply.map (·.item) ++ (anthropicResults toJson
          (turn.results (anthropicToolUsesToUnified turn.reply))).map (·.item) := by
      rw [appended_anthropic hcalls, List.flatMap_cons, List.flatMap_singleton]
      rfl
    _ = anthropicTurnItems toJson turn := by rw [hresults, anthropicTurnItems]

theorem parts_anthropicResults (role : String) (results : List (UnifiedToolCall × ToolCallResponse)) :
    AnthropicMessage.parts ⟨role, anthropicResults toJson results⟩ =
      resultParts ((results.map Prod.fst).map (·.id)) := by
  simp [AnthropicMessage.parts, anthropicResults, anthropicToolUsesToUnified, List.filterMap_map,
    Function.comp_def, AnthropicContent.textOf, AnthropicContent.toolCall, AnthropicContent.resultId,
    AnthropicContent.ofResult]

/-- A reply without results has texts and calls, and the message after it the results of the calls. -/
theorem parts_appended_anthropic (hcalls : anthropicToolUsesToUnified turn.reply ≠ [])
    (hreply : turn.reply.filterMap (·.resultId) = []) :
    ((anthropicDialect toJson).appended turn).flatMap anthropicForm.parts =
      ((turn.reply.filterMap (·.textOf)).map fun _ ↦ .other) ++
        exchange ((anthropicToolUsesToUnified turn.reply).map (·.id))
          ((anthropicToolUsesToUnified turn.reply).map (·.id)) := by
  have hids : (anthropicToolUsesToUnified turn.reply).map (·.id) ≠ [] :=
    List.map_eq_nil_iff.not.mpr hcalls
  calc ((anthropicDialect toJson).appended turn).flatMap anthropicForm.parts
    _ = AnthropicMessage.parts ⟨"assistant", turn.reply⟩ ++ AnthropicMessage.parts ⟨"user",
          anthropicResults toJson (turn.results (anthropicToolUsesToUnified turn.reply))⟩ := by
      rw [appended_anthropic hcalls, List.flatMap_cons, List.flatMap_singleton]
      rfl
    _ = ((turn.reply.filterMap (·.textOf)).map fun _ ↦ .other) ++
          callsPart ((anthropicToolUsesToUnified turn.reply).map (·.id)) ++
          resultParts ((anthropicToolUsesToUnified turn.reply).map (·.id)) := by
      rw [parts_anthropicResults, ModelTurn.map_fst_results, AnthropicMessage.parts, hreply,
        resultParts_nil, List.append_nil]
    _ = _ := by rw [exchange, if_neg hids, List.append_assoc]

/-- The requests to Anthropic are faithful exactly if no message that says something has the role
"tool" and no message with results has texts or calls. -/
theorem anthropicFaithful_iff {request : UnifiedLlmRequest} (hform : WellFormed request.messages)
    {maxToolRounds : ℕ} {turns : List (ModelTurn (List AnthropicContent))}
    (hturns : ∀ turn ∈ turns, turn.reply.filterMap (·.resultId) = []) :
    AnthropicFaithful toJson request maxToolRounds turns ↔ ∀ message ∈ request.messages,
      (message.items ≠ [] → message.role ≠ "tool") ∧
        (message.results ≠ [] → message.text = none ∧ message.calls = []) := by
  have hnone : Answered [] ([] : List (Passage String)) := rfl
  rw [forall₂_and, ← role_anthropic_iff hform.roles,
    ← answered_anthropic_iff hform.answered hnone, List.append_nil]
  constructor
  · intro hall
    obtain ⟨executed, hfirst⟩ := (anthropicDialect toJson).first_round maxToolRounds
      (unifiedToAnthropicMessages request.messages) turns
    obtain ⟨-, -, hroles, hanswered⟩ := hall _ hfirst
    rw [← parts_anthropic]
    exact ⟨hroles, hanswered⟩
  · rintro ⟨hroles, hanswered⟩ round hround
    obtain ⟨hmessages, hearlier⟩ := Dialect.sent_rounds hround
    have hcalls := fun turn hturn ↦ (hearlier turn hturn).2
    have hreplies := fun turn hturn ↦ hturns turn (hearlier turn hturn).1
    refine ⟨fun text htext ↦ Option.mem_toList.mpr htext, ?_, ?_, ?_⟩
    · have hturnItems : (round.earlier.flatMap (anthropicDialect toJson).appended).flatMap
          anthropicForm.items = round.earlier.flatMap (anthropicTurnItems toJson) := by
        rw [List.flatMap_assoc]
        exact List.flatMap_congr fun turn hmem ↦ items_appended_anthropic (hcalls turn hmem)
      calc round.sent.flatMap anthropicForm.items
        _ = (unifiedToAnthropicMessages request.messages).flatMap anthropicForm.items ++
              (round.earlier.flatMap (anthropicDialect toJson).appended).flatMap
                anthropicForm.items := by rw [hmessages, List.flatMap_append]
        _ = _ := by rw [items_anthropic, hturnItems]
    · intro message hmem
      replace hmem : message ∈ round.sent := hmem
      rw [hmessages] at hmem
      rcases List.mem_append.mp hmem with hsent | happended
      · exact hroles message hsent
      · obtain ⟨turn, hturn, hmessage⟩ := List.mem_flatMap.mp happended
        rw [appended_anthropic (hcalls turn hturn)] at hmessage
        change message.role ∈ ["user", "assistant"]
        simp only [List.mem_cons, List.not_mem_nil, or_false] at hmessage
        rcases hmessage with rfl | rfl
        · exact List.mem_cons_of_mem _ List.mem_cons_self
        · exact List.mem_cons_self
    · change Answered [] (round.sent.flatMap _)
      have hlater : Answered [] (round.earlier.flatMap fun turn ↦
          ((anthropicDialect toJson).appended turn).flatMap anthropicForm.parts) :=
        (answered_flatMap_exchange (fun turn _ ↦ texts_other _) fun turn hmem ↦
          parts_appended_anthropic (hcalls turn hmem) (hreplies turn hmem)).2
      rw [hmessages, List.flatMap_append, parts_anthropic, List.flatMap_assoc]
      rw [← List.append_nil (request.messages.flatMap _), answered_anthropic_iff hform.answered hnone]
        at hanswered
      exact (answered_anthropic_iff hform.answered hlater).mpr hanswered

end Anthropic

/-- When the requests of each provider are faithful, for one request and whatever the models reply. -/
theorem providersFaithful_iff (toJson : Value → String) (fromJson : String → Option Value)
    (request : UnifiedLlmRequest) (maxToolRounds : ℕ)
    (openAiTurns : List (ModelTurn OpenAiMessage)) (ollamaTurns : List (ModelTurn OllamaMessage))
    (anthropicTurns : List (ModelTurn (List AnthropicContent)))
    (hform : WellFormed request.messages)
    (hopenAi : ∀ turn ∈ openAiTurns, turn.reply.role = "assistant")
    (hollama : ∀ turn ∈ ollamaTurns, turn.reply.role = "assistant")
    (hanthropic : ∀ turn ∈ anthropicTurns, turn.reply.filterMap (·.resultId) = []) :
    (OpenAiFaithful toJson fromJson request maxToolRounds openAiTurns ↔
      request.systemPrompt = none ∧
        ∀ message ∈ request.messages, message.role ≠ "tool" ∧ message.calls = []) ∧
    (OllamaFaithful toJson fromJson request maxToolRounds ollamaTurns ↔
      (∀ prompt ∈ request.systemPrompt, Trimmed prompt) ∧
        ∀ message ∈ request.messages, message.role ≠ "tool" ∧ message.calls = []) ∧
    (AnthropicFaithful toJson request maxToolRounds anthropicTurns ↔
      ∀ message ∈ request.messages, (message.items ≠ [] → message.role ≠ "tool") ∧
        (message.results ≠ [] → message.text = none ∧ message.calls = [])) :=
  ⟨openAiFaithful_iff hform hopenAi, ollamaFaithful_iff hform hollama,
    anthropicFaithful_iff hform hanthropic⟩

/-- A request with a system prompt. -/
def promptedRequest (messages : List UnifiedMessage) : UnifiedLlmRequest where
  agentId := "assistant"
  messages := messages
  systemPrompt := some "Be brief."
  tools := [⟨"search", "a tool", .object []⟩]
  routingStrategy := "best-first"
  modelPreferences := []
  correlationId := none
  scope := none

/-- A question, a call and its result. -/
def searchHistory : List UnifiedMessage :=
  [⟨"user", some "hello", none, none⟩,
    ⟨"assistant", none, some [⟨"call_1", "search", .object []⟩], none⟩,
    ⟨"tool", none, none, some [⟨"call_1", "done", false⟩]⟩]

def searchingTurn : ModelTurn OllamaMessage where
  reply := ⟨"assistant", none, none,
    some [⟨some "call_1", none, ⟨none, "search", .object [], none⟩⟩], none⟩
  outcome _ := .received ⟨"search", .string "done", false⟩

/-- A question is sent with its system prompt, except to OpenAI. -/
theorem providersFaithful_question :
    ¬OpenAiFaithful (fun _ ↦ "") (fun _ ↦ none) (promptedRequest [⟨"user", some "hello", none, none⟩])
        10 [] ∧
      OllamaFaithful (fun _ ↦ "") (fun _ ↦ none) (promptedRequest [⟨"user", some "hello", none, none⟩])
        10 [searchingTurn] ∧
      AnthropicFaithful (fun _ ↦ "") (promptedRequest [⟨"user", some "hello", none, none⟩]) 10
        [⟨[.toolUse "call_1" "search" (.object [])], fun _ ↦ .timedOut⟩] := by
  obtain ⟨hopenAi, hollama, hanthropic⟩ := providersFaithful_iff (fun _ ↦ "") (fun _ ↦ none)
    (promptedRequest [⟨"user", some "hello", none, none⟩]) 10 [] [searchingTurn]
    [⟨[.toolUse "call_1" "search" (.object [])], fun _ ↦ .timedOut⟩]
    ⟨by simp [promptedRequest, sharedRoles], by decide⟩ (by simp) (by simp [searchingTurn])
    (by simp [AnthropicContent.resultId])
  refine ⟨fun h ↦ absurd (hopenAi.mp h).1 (by simp [promptedRequest]), hollama.mpr ⟨?_, ?_⟩,
    hanthropic.mpr ?_⟩
  · simp only [promptedRequest, Option.mem_def, Option.some.injEq, forall_eq']
    decide +kernel
  · simp [promptedRequest, UnifiedMessage.calls]
  · simp [promptedRequest, UnifiedMessage.results]

/-- With a call and its result in the history, no provider sends a faithful request. -/
theorem no_provider_faithful :
    WellFormed (promptedRequest searchHistory).messages ∧
      ¬OpenAiFaithful (fun _ ↦ "") (fun _ ↦ none) (promptedRequest searchHistory) 10 [] ∧
      ¬OllamaFaithful (fun _ ↦ "") (fun _ ↦ none) (promptedRequest searchHistory) 10 [] ∧
      ¬AnthropicFaithful (fun _ ↦ "") (promptedRequest searchHistory) 10 [] := by
  refine ⟨⟨by simp [promptedRequest, searchHistory, sharedRoles], by decide⟩, fun h ↦ ?_, fun h ↦ ?_,
    fun h ↦ ?_⟩
  · have hsystem := (h _ List.mem_cons_self).system "Be brief." rfl
    exact absurd hsystem (by decide)
  · have hanswered := (h _ List.mem_cons_self).answered
    exact absurd hanswered (by decide)
  · have hroles := (h _ List.mem_cons_self).roles ⟨"tool", [.toolResult "call_1" "done" none]⟩
      (List.mem_cons_of_mem _ (List.mem_cons_of_mem _ List.mem_cons_self))
    exact absurd hroles (by decide)

end Seidrum.Plugins
