import Seidrum.Foundation.Program
import Seidrum.Plugins.CapabilityCalls

/-!
# The replies of the tool dispatcher

The handler of a capability call asks the cache, the kernel and the owner of the tool, and answers the
caller with the response of the owner or with an error of its own.  It reads the message first, and gives
up on one it cannot read without a word to the caller.  So exactly the calls whose message can be read are
answered, each of them once.
-/

namespace Seidrum.Plugins

open EventBus (Payload SerdeJson Value)
open Client (WsMessage)
open Foundation Kernel

/-- What a handler asks of the cache and of the bus. -/
inductive DispatchOp
  | cached (toolId : String)
  | cache (toolId : String) (entry : ToolEntry)
  | request (subject : String) (payload : Payload)
  | requestWithin (timeoutSecs : ℕ) (subject : String) (payload : Payload)
  | replyTo (reply : String) (payload : Payload)

/-- The outcome of a request with a timeout. -/
inductive Forwarded
  | answered (payload : Payload)
  | failed (error : String)
  | timedOut

abbrev DispatchAnswer : DispatchOp → Type
  | .cached _ => Option ToolEntry
  | .cache _ _ => Unit
  | .request _ _ => Except String Payload
  | .requestWithin _ _ _ => Forwarded
  | .replyTo _ _ => Except String Unit

abbrev DispatchM (α : Type) := Program DispatchAnswer α

namespace DispatchM

def cached (toolId : String) : DispatchM (Option ToolEntry) := Program.ask (DispatchOp.cached toolId)

def cache (toolId : String) (entry : ToolEntry) : DispatchM Unit :=
  Program.ask (DispatchOp.cache toolId entry)

def request (subject : String) (payload : Payload) : DispatchM (Except String Payload) :=
  Program.ask (DispatchOp.request subject payload)

def requestWithin (timeoutSecs : ℕ) (subject : String) (payload : Payload) : DispatchM Forwarded :=
  Program.ask (DispatchOp.requestWithin timeoutSecs subject payload)

def replyTo (reply : String) (payload : Payload) : DispatchM (Except String Unit) :=
  Program.ask (DispatchOp.replyTo reply payload)

end DispatchM

/-- How messages are read, with the text of the error, and written. -/
structure DispatchCodec where
  readEnvelope : Payload → Except String EventEnvelope
  readRequest : Value → Except String ToolCallRequest
  readDescription : Payload → Option Kernel.ToolEntry
  readResponse : Payload → Except String ToolCallResponse
  toVec : Value → Payload

def describeRequest (toolId : String) : Value := .object [("tool_id", .string toolId)]

/-- A response of the dispatcher itself, for a call that failed. -/
def failedCall (toolId : String) (fields : List (String × Value)) : ToolCallResponse where
  toolId := toolId
  result := .object fields
  isError := true

def unknownTool (toolId details : String) : ToolCallResponse :=
  failedCall toolId [("details", .string details), ("error", .string ("Unknown tool: " ++ toolId))]

namespace DispatchCodec

variable (codec : DispatchCodec)

/-- What `describe_tool` makes of the answer of the kernel. -/
def description (answer : Except String Payload) : Except String Kernel.ToolEntry :=
  answer.bind fun payload ↦
    match codec.readDescription payload with
    | some described => .ok described
    | none => .error "failed to deserialize response"

def describeTool (toolId : String) : DispatchM (Except String Kernel.ToolEntry) :=
  codec.description <$> DispatchM.request "capability.describe" (codec.toVec (describeRequest toolId))

/-- The owner of a tool, from the cache or else from the kernel. -/
def owner (toolId : String) : DispatchM (Except String ToolEntry) := do
  match ← DispatchM.cached toolId with
  | some entry => return .ok entry
  | none =>
      match ← codec.describeTool toolId with
      | .ok described =>
          DispatchM.cache toolId (describedEntry described)
          return .ok (describedEntry described)
      | .error details => return .error details

/-- The response for the outcome of the call of the owner. -/
def response (timeoutSecs : ℕ) (toolId : String) : Forwarded → ToolCallResponse
  | .answered payload =>
      match codec.readResponse payload with
      | .ok response => response
      | .error details => failedCall toolId
          [("details", .string details), ("error", .string "Failed to parse tool response")]
  | .failed details => failedCall toolId
      [("details", .string details), ("error", .string "NATS request failed")]
  | .timedOut => failedCall toolId
      [("error", .string "Tool call timed out"), ("timeout_secs", .ofNat timeoutSecs)]

/-- The request of a message; an envelope or a request that cannot be read is an error. -/
def read (payload : Payload) : Except String ToolCallRequest :=
  (codec.readEnvelope payload).bind fun envelope ↦ codec.readRequest envelope.payload

def sendReply (reply : String) (response : ToolCallResponse) : DispatchM (Except String Unit) :=
  DispatchM.replyTo reply (codec.toVec (responseValue response))

def handleToolCall (timeoutSecs : ℕ) (message : WsMessage) : DispatchM (Except String Unit) :=
  match message.reply with
  | none => return .ok ()
  | some reply =>
      -- both errors leave the handler by `?`
      match codec.read message.payload with
      | .error error => return .error error
      | .ok request => do
          match ← codec.owner request.toolId with
          | .error details => codec.sendReply reply (unknownTool request.toolId details)
          | .ok entry => do
              let forwarded ←
                DispatchM.requestWithin timeoutSecs entry.callSubject (codec.toVec request.toValue)
              codec.sendReply reply (codec.response timeoutSecs request.toolId forwarded)

/-! ## What a handler has performed -/

/-- A kernel that did not describe the tool. -/
def Undescribed : Sigma DispatchAnswer → Prop
  | ⟨.request _ _, answer⟩ => ∃ details, codec.description answer = .error details
  | _ => False

/-- A reply, with its subject. -/
def replied : Sigma DispatchAnswer → Option (String × Payload)
  | ⟨.replyTo reply payload, _⟩ => some (reply, payload)
  | _ => none

/-- One response was sent to the caller and nothing else to anyone; it is an error if the message cannot
be read or the tool was not found. -/
def RepliedOnce (payload : Payload) (reply : String) (history : List (Sigma DispatchAnswer)) : Prop :=
  ∃ response, history.filterMap replied = [(reply, codec.toVec (responseValue response))] ∧
    (((∃ error, codec.read payload = .error error) ∨ ∃ event ∈ history, codec.Undescribed event) →
      response.isError)

/-- Whatever the cache, the kernel, the owner and the bus answer, the handler ends and has replied once. -/
def Answers (timeoutSecs : ℕ) (subject : String) (payload : Payload) (reply : String) : Prop :=
  (codec.handleToolCall timeoutSecs ⟨subject, payload, some reply⟩).Follows
    (Protocol.ofHistory fun _ _ ↦ True) (fun history _ ↦ codec.RepliedOnce payload reply history) []

variable {codec} {payload : Payload} {reply : String} {request : ToolCallRequest}

theorem follows_sendReply (hread : codec.read payload = .ok request) {history : List (Sigma DispatchAnswer)}
    (hsilent : history.filterMap replied = []) {response : ToolCallResponse}
    (hfound : (∃ event ∈ history, codec.Undescribed event) → response.isError) :
    (codec.sendReply reply response).Follows (Protocol.ofHistory fun _ _ ↦ True)
      (fun history _ ↦ codec.RepliedOnce payload reply history) history := by
  refine ⟨trivial, fun answer ↦ ⟨response, ?_, ?_⟩⟩
  · simp [Protocol.ofHistory, hsilent, replied]
  · rintro (⟨error, herror⟩ | ⟨event, hevent, hundescribed⟩)
    · rw [hread] at herror
      cases herror
    · obtain hbefore | rfl := mem_of_concat hevent
      · exact hfound ⟨event, hbefore, hundescribed⟩
      · exact hundescribed.elim

/-- Where the search for the owner ends: nothing was sent, and a tool that was found was described if the
kernel was asked. -/
def Searched (history : List (Sigma DispatchAnswer)) (found : Except String ToolEntry) : Prop :=
  history.filterMap replied = [] ∧
    ∀ entry, found = .ok entry → ∀ event ∈ history, ¬codec.Undescribed event

theorem follows_owner (toolId : String) : (codec.owner toolId).Follows
    (Protocol.ofHistory fun _ _ ↦ True) codec.Searched [] := by
  refine ⟨trivial, fun cached ↦ ?_⟩
  cases cached with
  | some entry => exact ⟨rfl, by simp [Protocol.ofHistory, Undescribed]⟩
  | none =>
    apply Program.Follows.bind
    refine Program.Follows.map (Program.Follows.ask trivial fun answer ↦ ?_)
    cases hdescribed : codec.description answer with
    | error details =>
      simp only [Program.done_bind, Function.comp_apply, hdescribed]
      exact ⟨rfl, by simp⟩
    | ok described =>
      simp only [Program.done_bind, Function.comp_apply, hdescribed]
      refine ⟨trivial, fun _ ↦ ⟨rfl, ?_⟩⟩
      simp [Protocol.ofHistory, Undescribed, hdescribed]

/-- A call whose message can be read is answered. -/
theorem answers_of_read (hread : codec.read payload = .ok request) (timeoutSecs : ℕ)
    (subject reply : String) :
    codec.Answers timeoutSecs subject payload reply := by
  unfold Answers handleToolCall
  simp only [hread]
  apply Program.Follows.bind
  apply Program.Follows.mono _ (follows_owner request.toolId)
  rintro history (details | entry) ⟨hsilent, hfound⟩
  · exact follows_sendReply hread hsilent fun _ ↦ rfl
  · refine ⟨trivial, fun forwarded ↦ ?_⟩
    apply follows_sendReply hread
    · simp [Protocol.ofHistory, hsilent, replied]
    · rintro ⟨event, hevent, hundescribed⟩
      obtain hbefore | rfl := mem_of_concat hevent
      · exact absurd hundescribed (hfound entry rfl event hbefore)
      · exact hundescribed.elim

theorem not_answers_of_error {error : String} (hread : codec.read payload = .error error) (timeoutSecs : ℕ)
    (subject reply : String) : ¬codec.Answers timeoutSecs subject payload reply := by
  unfold Answers handleToolCall
  simp only [hread]
  rintro ⟨response, hreplies, -⟩
  cases hreplies

variable (codec)

/-- A capability call is answered once, whatever comes back to the dispatcher, exactly if its bytes are an
event and the payload of the event is a call. -/
theorem call_answered_iff (timeoutSecs : ℕ) (subject : String) (payload : Payload) (reply : String) :
    codec.Answers timeoutSecs subject payload reply ↔ ∃ request, codec.read payload = .ok request := by
  constructor
  · intro hanswers
    cases hread : codec.read payload with
    | ok request => exact ⟨request, rfl⟩
    | error error => exact absurd hanswers (not_answers_of_error hread timeoutSecs subject reply)
  · rintro ⟨request, hread⟩
    exact answers_of_read hread timeoutSecs subject reply

/-- The description of a tool, as the kernel sends it. -/
def readDescriptionFields (value : Value) : Option Kernel.ToolEntry := do
  let field ← argumentFields 8 ["tool_id", "name", "summary_md", "manual_md", "parameters",
    "plugin_id", "call_subject", "kind"] value
  let toolId ← (← field "tool_id").asStr
  let name ← (← field "name").asStr
  let summaryMd ← (← field "summary_md").asStr
  let manualMd ← (← field "manual_md").asStr
  let parameters ← field "parameters"
  let pluginId ← (← field "plugin_id").asStr
  let callSubject ← (← field "call_subject").asStr
  let kind ← (← field "kind").asStr
  return { toolId, pluginId, name, summaryMd, manualMd, parameters, callSubject, kind }

/-- Messages as JSON texts; `error` is what a text that cannot be read is reported as. -/
def ofJson (json : SerdeJson) (isTimestamp : String → Bool) (error : String)
    (toVec : Value → Payload) : DispatchCodec where
  readEnvelope payload :=
    ((json.fromSlice payload).bind (EventEnvelope.fromValue isTimestamp)).elim (.error error) .ok
  readRequest value := (ToolCallRequest.fromValue value).elim (.error error) .ok
  readDescription payload := (json.fromSlice payload).bind readDescriptionFields
  readResponse payload := ((json.fromSlice payload).bind responseFromValue).elim (.error error) .ok
  toVec := toVec

/-- Reading of the empty text alone. -/
def emptyText : DispatchCodec :=
  .ofJson ⟨fun _ ↦ none, fun _ ↦ ""⟩ (fun _ ↦ true) "EOF while parsing a value at line 1 column 0"
    fun _ ↦ []

/-- The caller of an empty message waits in vain. -/
theorem call_answered_false :
    ¬∀ (timeoutSecs : ℕ) (subject : String) (payload : Payload) (reply : String),
      emptyText.Answers timeoutSecs subject payload reply := by
  intro hanswers
  exact not_answers_of_error rfl 30 "capability.call" "_reply.1"
    (hanswers 30 "capability.call" [] "_reply.1")

variable {codec}

/-- However the handlers of the calls are interleaved and whatever they do to the cache they share, one that
has ended has replied once to a call it could read. -/
theorem repliedOnce_of_reach {σ Env : Type} {timeoutSecs : ℕ}
    {perform : σ → (op : DispatchOp) → Env → Option (DispatchAnswer op × σ)}
    {guard : Tasks σ WsMessage DispatchAnswer (Except String Unit) → Move WsMessage Env → Prop} {shared : σ}
    {state : Tasks σ WsMessage DispatchAnswer (Except String Unit)}
    (hreach : Steps.Reach (Tasks.step (codec.handleToolCall timeoutSecs) perform) guard
      (Tasks.init shared) state) {i : ℕ} {subject : String} {ended : Except String Unit}
    (hat : state.tasks[i]? = some ⟨⟨subject, payload, some reply⟩, .done ended⟩)
    (hread : codec.read payload = .ok request) :
    codec.RepliedOnce payload reply ((state.events i).map fun event ↦ ⟨event.op, event.answer⟩) := by
  have hfollowing : Tasks.Following (fun _ ↦ Protocol.ofHistory fun _ _ ↦ True) (fun _ ↦ [])
      (fun message history _ ↦ ∀ reply ∈ message.reply, ∀ request,
        codec.read message.payload = .ok request → codec.RepliedOnce message.payload reply history)
      state := by
    refine Tasks.following_of_reach (fun message ↦ ?_) hreach
    obtain ⟨subject, payload, _ | reply⟩ := message
    · exact Program.follows_of_forall (fun _ _ ↦ trivial) (fun _ _ _ hreply ↦ by cases hreply) _
    · cases hread : codec.read payload with
      | error error =>
        exact Program.follows_of_forall (fun _ _ ↦ trivial) (fun _ _ _ _ request hok ↦ by cases hok) _
      | ok request =>
        refine Program.Follows.mono ?_ (answers_of_read hread timeoutSecs subject reply)
        rintro history ended honce reply' hreply - -
        obtain rfl := Option.mem_some.mp hreply
        exact honce
  have hfinal := hfollowing.follows i _ hat
  rw [Protocol.replay_ofHistory] at hfinal
  exact hfinal reply rfl request hread

/-- The text of a call of a tool that the kernel does not know. -/
def callPayload : Payload :=
  ("\x7b\"id\":\"1\",\"event_type\":\"capability.call\",\"timestamp\":\"2025-01-01T00:00:00Z\"," ++
    "\"source\":\"llm\",\"payload\":\x7b\"tool_id\":\"run-code\",\"plugin_id\":\"\"," ++
    "\"arguments\":\x7b\x7d\x7d\x7d").toList.map fun char ↦ UInt8.ofNat char.toNat

def callEnvelope : EventEnvelope where
  id := "1"
  eventType := "capability.call"
  timestamp := "2025-01-01T00:00:00Z"
  source := "llm"
  correlationId := none
  scope := none
  payload := .object [("arguments", .object []), ("plugin_id", .string ""), ("tool_id", .string "run-code")]
  origin := none

/-- The call can be read, and nothing else. -/
def unknownCalls : DispatchCodec where
  readEnvelope payload := if payload = callPayload then .ok callEnvelope else .error "expected value"
  readRequest _ := .ok ⟨"run-code", "", .object [], none⟩
  readDescription _ := none
  readResponse _ := .error ""
  toVec _ := []

def unknowing : (op : DispatchOp) → DispatchAnswer op
  | .cached _ => none
  | .cache _ _ => ()
  | .request _ _ => .ok []
  | .requestWithin _ _ _ => .timedOut
  | .replyTo _ _ => .ok ()

set_option maxRecDepth 20000 in
/-- Another call is handled in between. -/
theorem repliedOnce_of_reach_between : unknownCalls.RepliedOnce callPayload "_reply.1"
    [⟨.cached "run-code", none⟩, ⟨.request "capability.describe" [], .ok []⟩,
      ⟨.replyTo "_reply.1" [], .ok ()⟩] := by
  have hreach := Steps.reach_of_execute (Steps.guarded_of_forall (fun _ _ ↦ trivial) _ _)
    (rfl : Steps.execute (Tasks.step (unknownCalls.handleToolCall 30) fun (_ : Unit) op (_ : Unit) ↦
        some (unknowing op, ())) (Tasks.init ())
      [.spawn ⟨"capability.call", callPayload, some "_reply.1"⟩, .run 0 (),
        .spawn ⟨"capability.call", callPayload, some "_reply.2"⟩, .run 1 (), .run 0 (), .run 1 (), .run 0 ()] =
      some _)
  have hread : unknownCalls.read callPayload = .ok ⟨"run-code", "", .object [], none⟩ := rfl
  exact repliedOnce_of_reach (i := 0) hreach rfl hread

/-- Where a call goes, given what the cache holds and the kernel describes. -/
theorem handleToolCall_eq_owner {cache : ToolCache} {describe : String → Except String ToolEntry}
    {answer : (op : DispatchOp) → DispatchAnswer op}
    (hcache : ∀ toolId, answer (.cached toolId) = cache.lookup toolId)
    (hdescribe : ∀ toolId, (codec.description (answer (.request "capability.describe"
      (codec.toVec (describeRequest toolId))))).map describedEntry = describe toolId)
    (call : CapabilityCall) :
    (Plugins.handleToolCall cache describe call).2 =
      match (codec.owner call.request.toolId).value answer with
      | .ok entry => .forward entry.callSubject call.request
      | .error details => .reply (unknownTool call.request.toolId details) := by
  have hcached : (DispatchM.cached call.request.toolId).value answer =
      cache.lookup call.request.toolId := hcache _
  have hdescribed : (codec.describeTool call.request.toolId).value answer =
      codec.description (answer (.request "capability.describe"
        (codec.toVec (describeRequest call.request.toolId)))) := Program.value_map ..
  rw [owner, Program.value_bind, hcached]
  unfold Plugins.handleToolCall
  dsimp only
  cases cache.lookup call.request.toolId with
  | some entry => rfl
  | none =>
    simp only [Program.value_bind, hdescribed]
    rw [← hdescribe]
    cases codec.description (answer (.request "capability.describe"
      (codec.toVec (describeRequest call.request.toolId)))) with
    | ok described | error details => rfl

end DispatchCodec

end Seidrum.Plugins
