import Seidrum.EventBus.Transport.Gateway
import Seidrum.Kernel.Capabilities
import Seidrum.Plugins.BuiltinCallers
import Seidrum.Plugins.ToolDispatcher

/-!
# Calls of the kernel's capabilities

The dispatcher forwards a call as it is to the call subject of the tool, and reads the answer as the
response of a tool.  Every service publishes its answers to the subject that a request names for them, and
the bus publishes nothing on such a subject; so no call is answered.  What the registry answers on the
subjects of its own tools would not be a response either.
-/

namespace Seidrum.Plugins

open EventBus (Value isWhitespace)
open Kernel

namespace ToolCallRequest

def toValue (request : ToolCallRequest) : Value :=
  .object [
    ("tool_id", .string request.toolId),
    ("plugin_id", .string request.pluginId),
    ("arguments", request.arguments),
    ("correlation_id", request.correlationId.elim .null .string)]

def fromValue (value : Value) : Option ToolCallRequest := do
  let field ← argumentFields 4 ["tool_id", "plugin_id", "arguments", "correlation_id"] value
  let toolId ← (← field "tool_id").asStr
  let pluginId ← (← field "plugin_id").asStr
  let arguments ← field "arguments"
  let correlationId ← nullable Value.asStr (field "correlation_id")
  return { toolId, pluginId, arguments, correlationId }

@[simp]
theorem fromValue_toValue (request : ToolCallRequest) : fromValue request.toValue = some request := by
  obtain ⟨toolId, pluginId, arguments, correlationId⟩ := request
  cases correlationId <;> rfl

end ToolCallRequest

def responseValue (response : ToolCallResponse) : Value :=
  .object [
    ("tool_id", .string response.toolId),
    ("result", response.result),
    ("is_error", .bool response.isError)]

def responseFromValue (value : Value) : Option ToolCallResponse := do
  let field ← argumentFields 3 ["tool_id", "result", "is_error"] value
  let toolId ← (← field "tool_id").asStr
  let result ← field "result"
  let isError ← (← field "is_error").asBool
  return { toolId, result, isError }

@[simp]
theorem responseFromValue_responseValue (response : ToolCallResponse) :
    responseFromValue (responseValue response) = some response := rfl

structure ToolSearchRequest where
  queryText : String
  limit : Option ℕ
  kindFilter : Option String

def ToolSearchRequest.fromValue (value : Value) : Option ToolSearchRequest := do
  let field ← argumentFields 2 ["query_text", "limit", "kind_filter"] value
  let queryText ← (← field "query_text").asStr
  let limit ← nullable u32 (field "limit")
  let kindFilter ← nullable Value.asStr (field "kind_filter")
  return { queryText, limit, kindFilter }

/-- The tools that match a search. -/
def searchResponse (tools : List Kernel.ToolEntry) : Value :=
  .object [("tools", .array (tools.map fun tool ↦ .object [
    ("tool_id", .string tool.toolId),
    ("name", .string tool.name),
    ("summary_md", .string tool.summaryMd),
    ("parameters", tool.parameters),
    ("kind", .string tool.kind)]))]

def describeRequestFromValue (value : Value) : Option String := do
  let field ← argumentFields 1 ["tool_id"] value
  (← field "tool_id").asStr

def describeResponse : Option Kernel.ToolEntry → Value
  | some entry => entry.toValue
  | none => .null

def number : Value → Option Value
  | .number literal => some (.number literal)
  | _ => none

def numbers : Value → Option (List Value)
  | .array items => items.mapM number
  | _ => none

def bindVars : Value → Option BindVars
  | .object fields => some (fields.map fun field ↦ ⟨field.1, field.2⟩).toAList
  | _ => none

def readBrainFields (field : String → Option Value) : Option BrainQueryRequest := do
  let queryType ← (field "query_type").bind Value.asStr
  let aql ← nullable Value.asStr (field "aql")
  let bindVars ← nullable bindVars (field "bind_vars")
  let embedding ← nullable numbers (field "embedding")
  let collection ← nullable Value.asStr (field "collection")
  let limit ← nullable u32 (field "limit")
  let startVertex ← nullable Value.asStr (field "start_vertex")
  let direction ← nullable Value.asStr (field "direction")
  let depth ← nullable u32 (field "depth")
  let queryText ← nullable Value.asStr (field "query_text")
  let maxFacts ← nullable u32 (field "max_facts")
  let _ ← nullable u32 (field "graph_depth")
  let minConfidence ← nullable number (field "min_confidence")
  let _ ← nullable Value.asStr (field "user_id")
  return ⟨queryType, aql, bindVars, embedding, collection, limit, startVertex, direction, depth,
    queryText, maxFacts, minConfidence⟩

def readBrainQuery (value : Value) : Option BrainQueryRequest := do
  let field ← argumentFields 15 ["query_type", "aql", "bind_vars", "embedding", "collection", "limit",
    "start_vertex", "direction", "depth", "query_text", "max_facts", "graph_depth", "min_confidence",
    "user_id"] value
  readBrainFields field

/-- A call of a built-in capability, with its arguments read. -/
inductive BuiltinRequest
  | brainQuery (query : BrainQueryRequest)
  | act (call : BuiltinCall)
  | sendNotification (channel chatId text : String)
  | getConversation (conversationId : String) (maxMessages : ℕ)
  | searchSkills (query : String) (limit : Option ℕ)
  | loadSkill (skillId : String)
  | saveSkill (description snippet : String) (tags : List String)

def BuiltinRequest.read (request : ToolCallRequest) : Option BuiltinRequest :=
  match request.toolId with
  | "brain-query" => (readBrainQuery request.arguments).map .brainQuery
  | "send-notification" => do
      let field ← argumentFields 0 ["channel", "chat_id", "text"] request.arguments
      let channel ← stringOr (field "channel")
      let chatId ← stringOr (field "chat_id")
      let text ← stringOr (field "text")
      return .sendNotification channel chatId text
  | "get-conversation" => do
      let field ← argumentFields 2 ["conversation_id", "max_messages"] request.arguments
      let conversationId ← stringOr (field "conversation_id")
      let maxMessages ← nullable u32 (field "max_messages")
      return .getConversation conversationId (maxMessages.getD 0)
  | "search-skills" => do
      let field ← argumentFields 2 ["query", "limit"] request.arguments
      let query ← stringOr (field "query")
      let limit ← nullable u32 (field "limit")
      return .searchSkills query limit
  | "load-skill" => do
      let field ← argumentFields 0 ["skill_id"] request.arguments
      let skillId ← stringOr (field "skill_id")
      return .loadSkill skillId
  | "save-skill" => do
      let field ← argumentFields 3 ["description", "snippet", "tags"] request.arguments
      let description ← stringOr (field "description")
      let snippet ← stringOr (field "snippet")
      let tags ← nullable (fun value ↦ stringsOr (some value)) (field "tags")
      return .saveSkill description snippet (tags.getD [])
  | _ => (BuiltinCall.read request).map .act

/-- What the services find when a call arrives: the clock, the table of the registry, the runtime
subscriptions of the agents, and what the database, the brain and the handlers answer in time. -/
structure CapabilityServices where
  /-- The time so many seconds from now, unless it is out of range. -/
  secondsFromNow : ℤ → Option String
  tools : ToolTable
  runtimeSubs : String → ℕ
  arango : ToolSearchRequest → List Kernel.ToolEntry
  brain : BrainQueryRequest → Value
  /-- The error of a query the brain does not answer. -/
  unanswered : String
  /-- The error of a request nobody answers. -/
  timedOut : String
  /-- The error of arguments that cannot be read. -/
  invalid : ToolCallRequest → String
  perform : String → BuiltinRequest → ToolCallResponse
  /-- The dispatcher's response for an owner that answers nothing, or no response. -/
  failed : String → Option Value → ToolCallResponse

namespace CapabilityServices

variable (services : CapabilityServices)

/-- `handle_search`: what the database finds, or else capabilities from the cache. -/
def handleSearch (request : ToolSearchRequest) : List Kernel.ToolEntry :=
  let found := services.arango request
  if found = [] then
    ((services.tools.entries.entries.map Sigma.snd).filter fun tool ↦
      tool.toolId ∉ ["brain-query", "search-tools", "get-tool-manual"] ∧
        ∀ kind ∈ request.kindFilter, tool.kind = kind ∨ tool.kind = "both").take
      (request.limit.getD 5)
  else found

/-- The expiry after a number of seconds, read as a signed one. -/
def expiresAt (durationSeconds : ℕ) : Option String :=
  services.secondsFromNow (BitVec.ofNat 64 durationSeconds).toInt

/-- What `handle_subscribe_events` answers; it panics if the expiry is out of range. -/
def subscribeEvents (agentId : String) (args : SubscribeEventsRequest) : Option ToolCallResponse :=
  match args.subjects.find? isDenied with
  | some subject =>
      some (.error subscribeEventsTool ("Cannot subscribe to internal subject: " ++ subject))
  | none =>
      if maxRuntimeSubscriptions < services.runtimeSubs agentId + args.subjects.length then
        some (.error subscribeEventsTool "Maximum 20 runtime subscriptions per agent")
      else do
        let expiresAt ← match args.durationSeconds with
          | some durationSeconds => (services.expiresAt durationSeconds).map Value.string
          | none => some .null
        return {
          toolId := subscribeEventsTool
          result := .object [("count", .ofNat args.subjects.length), ("expires_at", expiresAt),
            ("subscribed", .array (args.subjects.map .string))]
          isError := false }

/-- A text that is empty when trimmed. -/
def isBlank (text : String) : Bool := text.toList.all isWhitespace

/-- What the consciousness service answers to a call it has read. -/
def answer (agentId : String) : BuiltinRequest → Option ToolCallResponse
  | .brainQuery query => some ⟨"brain-query", services.brain query, false⟩
  | .act (.subscribeEvents args) => services.subscribeEvents agentId args
  | .act (.scheduleWake args) =>
      if args.delaySeconds = 0 ∨ 604800 < args.delaySeconds then
        some (.error "schedule-wake" "delay_seconds must be between 1 and 604800 (7 days)")
      else some (services.perform agentId (.act (.scheduleWake args)))
  | .loadSkill skillId =>
      if isBlank skillId then some (.error "load-skill" "skill_id is required")
      else some (services.perform agentId (.loadSkill skillId))
  | .saveSkill description snippet tags =>
      if isBlank description ∨ isBlank snippet then
        some (.error "save-skill" "description and snippet are required")
      else some (services.perform agentId (.saveSkill description snippet tags))
  | request => some (services.perform agentId request)

/-- What it answers to a call it cannot read, or that nobody behind it can. -/
def refusal (request : ToolCallRequest) : ToolCallResponse :=
  .error request.toolId (match BuiltinCapability.ofToolId request.toolId with
    | some .brainQuery => services.unanswered
    | some _ => "Invalid arguments: " ++ services.invalid request
    | none => "Unknown built-in capability: " ++ request.toolId)

def handleBuiltinCall (request : ToolCallRequest) : Option ToolCallResponse :=
  match BuiltinRequest.read request with
  | some asked => services.answer request.pluginId asked
  | none => some (services.refusal request)

/-- The answer to a request on a subject; nobody answers on a subject without a subscriber. -/
def serve (subject : String) (payload : Value) : Option Value :=
  match subject with
  | "capability.search" =>
      some (searchResponse (match ToolSearchRequest.fromValue payload with
        | some request => services.handleSearch request
        | none => []))
  | "capability.describe" =>
      some (describeResponse ((describeRequestFromValue payload).bind services.tools.describe))
  | "capability.call.consciousness" => do
      let request ← ToolCallRequest.fromValue payload
      (services.handleBuiltinCall request).map responseValue
  | _ => none

/-- What a request gets: the answer is published to its reply subject, unless that is reserved. -/
def requestBytes (replySubject subject : String) (payload : Value) : Option Value := do
  let answer ← services.serve subject payload
  let _ ← (EventBus.Exchange.checkReserved replySubject).toOption
  return answer

/-- What the kernel tells the dispatcher of a tool. -/
def describeTool (replySubject toolId : String) : Except String ToolEntry :=
  match services.requestBytes replySubject "capability.describe" (.object [("tool_id", .string toolId)]) with
  | some _ =>
      match services.tools.describe toolId with
      | some entry => .ok (describedEntry entry)
      | none => .error "invalid type: null, expected struct ToolDescribeResponse"
  | none => .error services.timedOut

/-- The response the dispatcher makes of a call; its two requests have reply subjects of their own. -/
def dispatch (cache : ToolCache) (describeReply callReply : String) (call : CapabilityCall) :
    ToolCallResponse :=
  match (handleToolCall cache (services.describeTool describeReply) call).2 with
  | .reply response => response
  | .forward callSubject request =>
      let answer := services.requestBytes callReply callSubject request.toValue
      (answer.bind responseFromValue).getD (services.failed request.toolId answer)

/-- What the caller of a capability gets, if anything before its request times out; every request has a
ULID of its own. -/
def capabilityCall (cache : ToolCache) (ulids : Fin 3 → String) (call : CapabilityCall) :
    Option ToolCallResponse := do
  let _ ← (EventBus.Exchange.checkReserved (EventBus.replySubjectOf (ulids 0))).toOption
  return services.dispatch cache (EventBus.replySubjectOf (ulids 1)) (EventBus.replySubjectOf (ulids 2)) call

/-- The response is the result of the capability for the arguments of the request. -/
def IsResult (request : ToolCallRequest) (response : ToolCallResponse) : Prop :=
  match request.toolId with
  | "search-tools" => ∃ search : ToolSearchRequest,
      request.arguments.get "query_text" = some (.string search.queryText) ∧
        response.result = searchResponse (services.handleSearch search)
  | "get-tool-manual" => ∃ toolId, request.arguments.get "tool_id" = some (.string toolId) ∧
      response.result = describeResponse (services.tools.describe toolId)
  | _ => ∃ asked, BuiltinRequest.read request = some asked ∧
      services.answer request.pluginId asked = some response

/-- The caller gets a response, which is the result of the capability. -/
def Callable (cache : ToolCache) (ulids : Fin 3 → String) (call : CapabilityCall) : Prop :=
  ∃ response, services.capabilityCall cache ulids call = some response ∧
    services.IsResult call.request response

variable {services} {request : ToolCallRequest}

theorem capabilityCall_eq_none (cache : ToolCache) (ulids : Fin 3 → String) (call : CapabilityCall) :
    services.capabilityCall cache ulids call = none := by
  have hreserved : EventBus.Exchange.checkReserved (EventBus.replySubjectOf (ulids 0)) =
      .error (.invalidSubject
        "subjects starting with '_reply.' are reserved for internal request/reply routing") :=
    if_pos (EventBus.isReplySubject_replySubjectOf (ulids 0))
  rw [capabilityCall, hreserved]
  rfl

/-- What the registry answers on the call subjects of its own tools is no response. -/
theorem not_response_of_registry (capability : MetaCapability) {reply : Value}
    (h : services.serve capability.payload.callSubject request.toValue = some reply) :
    responseFromValue reply = none := by
  cases capability with
  | brainQuery => cases h
  | searchTools =>
    cases h
    rfl
  | getToolManual =>
    cases h
    cases (describeRequestFromValue request.toValue).bind services.tools.describe <;> rfl

/-- No call of a capability is answered, whatever is registered and cached; and the registry's own tools
would answer with what the dispatcher cannot read. -/
theorem never_callable (services : CapabilityServices) (cache : ToolCache) (ulids : Fin 3 → String)
    (call : CapabilityCall) :
    ¬ services.Callable cache ulids call ∧ ∀ capability : MetaCapability, ∀ answer,
      services.serve capability.payload.callSubject call.request.toValue = some answer →
        responseFromValue answer = none := by
  refine ⟨?_, fun capability _ h ↦ not_response_of_registry capability h⟩
  rintro ⟨response, hresponse, -⟩
  rw [capabilityCall_eq_none] at hresponse
  cases hresponse

/-- The registry's capabilities before those of the consciousness service. -/
def started : List KernelCapability :=
  [.registry .brainQuery, .registry .searchTools, .registry .getToolManual] ++
    ([.brainQuery, .subscribeEvents, .unsubscribeEvents, .delegateTask, .scheduleWake, .sendNotification,
      .getConversation, .listConversations, .searchSkills, .loadSkill, .saveSkill] :
        List BuiltinCapability).map .consciousness

/-- A database without documents, and a clock that ends with the year 262142. -/
def emptyServices : CapabilityServices where
  secondsFromNow := fun seconds ↦
    if -8336311214400 ≤ seconds ∧ seconds ≤ 8208556891199 then some "a time" else none
  tools := KernelCapability.registerAll started
  runtimeSubs := fun _ ↦ 0
  arango := fun _ ↦ []
  brain := fun _ ↦ .array []
  unanswered := "request failed: timeout"
  timedOut := "request timed out"
  invalid := fun _ ↦ "invalid type"
  perform := fun _ asked ↦ match asked with
    | .getConversation _ _ => ⟨"get-conversation", .null, false⟩
    | _ => .error "tool" "timeout"
  failed := fun toolId _ ↦ .error toolId "Tool call timed out"

def callOf (toolId : String) (arguments : List (String × Value)) : CapabilityCall where
  source := "llm-google"
  correlationId := none
  scope := none
  request := ⟨toolId, "", .object arguments, none⟩

/-- A search for tools, which its declared parameters allow, gets no answer. -/
theorem exists_uncallable : ∃ (capability : KernelCapability) (call : CapabilityCall),
    capability ∈ started ∧ call.request.toolId = capability.toolId ∧
      capability.parameters.Allows call.request.arguments ∧
      ¬ emptyServices.Callable ∅ (fun i ↦ s!"01HZX{i}") call := by
  refine ⟨.registry .searchTools, callOf "search-tools" [("query_text", .string "weather")],
    by decide +kernel, rfl, by decide +kernel, ?_⟩
  rintro ⟨response, hresponse, -⟩
  rw [capabilityCall_eq_none] at hresponse
  cases hresponse

end CapabilityServices

end Seidrum.Plugins
