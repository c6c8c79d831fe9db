import Seidrum.Kernel.Delegation
import Seidrum.Kernel.RuntimeSubscriptions
import Seidrum.Plugins.ScopePropagation

/-!
# Whom a built-in capability acts for

A model that is asked on behalf of an agent calls a tool; the provider makes a request of the call, the
dispatcher forwards the request to the owner of the tool, and the kernel executes it for the agent that is
named where the request names a plugin.  The providers leave that name empty and the dispatcher forwards the
request as it is, so every call is executed for the agent with the empty name, whoever made it.
-/

namespace Seidrum.Plugins

open EventBus (Value SerdeJson)
open Client (WsMessage)
open Foundation Kernel

structure ScheduleWakeRequest where
  delaySeconds : ℕ
  reason : String
  context : Option Value

structure ConversationListRequest where
  agentId : String
  platform : Option String
  limit : ℕ
  userId : Option String
  deriving DecidableEq, Repr

/-- A call of one of the built-in tools that act for an agent. -/
inductive BuiltinCall
  | subscribeEvents (args : SubscribeEventsRequest)
  | unsubscribeEvents (subjects : List String)
  | delegateTask (args : DelegateTaskRequest)
  | scheduleWake (args : ScheduleWakeRequest)
  | listConversations (platform : Option String) (limit : Option ℕ)

/-- A field that is a list of texts, empty if there is none. -/
def stringsOr : Option Value → Option (List String)
  | none => some []
  | some (.array items) => items.mapM Value.asStr
  | some _ => none

def stringOr : Option Value → Option String
  | none => some ""
  | some value => value.asStr

/-- A field that may be missing or null. -/
def nullable {α : Type} (read : Value → Option α) : Option Value → Option (Option α)
  | none | some .null => some none
  | some value => (read value).map some

def u32 (value : Value) : Option ℕ := value.asU64.filter (· < 2 ^ 32)

/-- The fields of an argument object, or of an array that lists at least the required ones. -/
def argumentFields (required : ℕ) (names : List String) : Value → Option (String → Option Value)
  | .object fields => some fun name ↦ (Value.object fields).get name
  | .array items =>
      if required ≤ items.length ∧ items.length ≤ names.length then
        some fun name ↦ (names.zip items).lookup name
      else none
  | _ => none

/-- The tool a request names, and its arguments. -/
def BuiltinCall.read (request : ToolCallRequest) : Option BuiltinCall :=
  match request.toolId with
  | "subscribe-events" => do
      let field ← argumentFields 2 ["subjects", "duration_seconds"] request.arguments
      let subjects ← stringsOr (field "subjects")
      let durationSeconds ← nullable Value.asU64 (field "duration_seconds")
      return .subscribeEvents ⟨subjects, durationSeconds⟩
  | "unsubscribe-events" => do
      let field ← argumentFields 0 ["subjects"] request.arguments
      let subjects ← stringsOr (field "subjects")
      return .unsubscribeEvents subjects
  | "delegate-task" => do
      let args ← DelegateTaskRequest.fromValue request.arguments
      return .delegateTask args
  | "schedule-wake" => do
      let field ← argumentFields 3 ["delay_seconds", "reason", "context"] request.arguments
      let delaySeconds ← match field "delay_seconds" with
        | none => some 0
        | some value => value.asU64
      let reason ← stringOr (field "reason")
      let context ← nullable some (field "context")
      return .scheduleWake ⟨delaySeconds, reason, context⟩
  | "list-conversations" => do
      let field ← argumentFields 2 ["platform", "limit"] request.arguments
      let platform ← nullable Value.asStr (field "platform")
      let limit ← nullable u32 (field "limit")
      return .listConversations platform limit
  | _ => none

/-- The agent a call acts for, taken from the plugin of the request. -/
def builtinAgent (request : ToolCallRequest) : String := request.pluginId

/-! ## The kernel -/

/-- A subscription, with the agent whose call made it. -/
structure OwnedSubscription where
  owner : String
  sub : RuntimeSubscription

/-- A timer, with the agent whose call set it. -/
structure Wake where
  owner : String
  agentId : String
  dueAt : ℕ
  args : ScheduleWakeRequest

/-- A call on its way, with the agent of the request to the model that caused it. -/
structure SentCall (Call : Type) where
  caller : String
  call : Call

/-- An executed call: the agent it acted for, and the owners of the subscriptions it counted or removed. -/
structure ExecutedCall where
  caller : String
  agentId : String
  toolId : String
  touched : List String
  deriving DecidableEq, Repr

/-- An event on a consciousness subject, with the agent whose call brought it about. -/
structure CausedEvent where
  owner : String
  subject : String
  event : ConsciousnessEvent

/-- The dispatcher's cache, the calls before and behind it, and the kernel's subscriptions and timers.  What
was executed, asked, delegated and published is history. -/
structure BuiltinState where
  cache : ToolCache
  requested : List (SentCall CapabilityCall)
  forwarded : List (SentCall ToolCallRequest)
  subs : List OwnedSubscription
  wakes : List Wake
  executed : List ExecutedCall
  asked : List ConversationListRequest
  delegated : List Sent
  events : List CausedEvent

/-- How times are written and messages read. -/
structure BuiltinEnv where
  rfc3339 : ℕ → String
  json : SerdeJson

inductive BuiltinLabel
  /-- A provider sends a tool call of a model that was asked for an agent. -/
  | request (source : String) (request : UnifiedLlmRequest) (toolCall : UnifiedToolCall)
  /-- The dispatcher handles a call; what the kernel tells it of the tool. -/
  | dispatch (index : ℕ) (described : Except String ToolEntry)
  /-- The kernel executes the next call. -/
  | execute (answer : CreateAnswer) (now : ℕ)
  /-- The task of a subscription takes a message. -/
  | forward (index : ℕ) (message : WsMessage)
  /-- A timer fires. -/
  | wake (index : ℕ) (now : ℕ)

namespace BuiltinState

def init (cache : ToolCache) : BuiltinState := ⟨cache, [], [], [], [], [], [], [], []⟩

def ownersOf (state : BuiltinState) (agentId : String) : List String :=
  (state.subs.filter fun owned ↦ owned.sub.listed ∧ owned.sub.agentId = agentId).map
    OwnedSubscription.owner

def perform (env : BuiltinEnv) (state : BuiltinState) (caller agentId : String) (answer : CreateAnswer)
    (now : ℕ) : BuiltinCall → BuiltinState
  | .subscribeEvents args =>
      let added := (handleSubscribeEvents env.rfc3339 agentId args now
        (state.subs.map OwnedSubscription.sub)).2
      { state with
        subs := state.subs ++ added.map (OwnedSubscription.mk caller)
        executed := state.executed ++ [⟨caller, agentId, "subscribe-events", state.ownersOf agentId⟩] }
  | .unsubscribeEvents subjects =>
      let removed := state.subs.filter fun owned ↦
        owned.sub.listed ∧ owned.sub.agentId = agentId ∧ owned.sub.pattern ∈ subjects
      { state with
        subs := state.subs.map fun owned ↦
          { owned with sub := Kernel.unsubscribeEvents agentId subjects owned.sub }
        executed := state.executed ++
          [⟨caller, agentId, "unsubscribe-events", removed.map OwnedSubscription.owner⟩] }
  | .delegateTask args =>
      { state with
        delegated := state.delegated ++ (handleDelegateTask agentId args answer now).2
        executed := state.executed ++ [⟨caller, agentId, "delegate-task", []⟩] }
  | .scheduleWake args =>
      let set := if args.delaySeconds = 0 ∨ 604800 < args.delaySeconds then []
        else [⟨caller, agentId, now + args.delaySeconds, args⟩]
      { state with
        wakes := state.wakes ++ set
        executed := state.executed ++ [⟨caller, agentId, "schedule-wake", []⟩] }
  | .listConversations platform limit =>
      { state with
        asked := state.asked ++ [⟨agentId, platform, limit.getD 20, none⟩]
        executed := state.executed ++ [⟨caller, agentId, "list-conversations", []⟩] }

/-- The event of a timer. -/
def wakeEvent (env : BuiltinEnv) (wake : Wake) (now : ℕ) : ConsciousnessEvent where
  agentId := wake.agentId
  eventType := "self_wake"
  sourceSubject := none
  conversationId := none
  payload := .object [("context", wake.args.context.getD .null),
    ("fired_at", .string (env.rfc3339 now)), ("reason", .string wake.args.reason),
    ("scheduled_at", .string (env.rfc3339 (wake.dueAt - wake.args.delaySeconds)))]
  origin := none

def step (env : BuiltinEnv) : Steps BuiltinState BuiltinLabel
  | state, .request source request toolCall =>
      some { state with
        requested := state.requested ++
          [⟨request.agentId, capabilityCall source request.correlationId toolCall⟩] }
  | state, .dispatch index described =>
      state.requested[index]?.map fun sent ↦
        let (cache, dispatched) := handleToolCall state.cache (fun _ ↦ described) sent.call
        { state with
          cache := cache
          requested := state.requested.eraseIdx index
          forwarded := match dispatched with
            | .forward callSubject request =>
                if callSubject = consciousnessCalls then state.forwarded ++ [⟨sent.caller, request⟩]
                else state.forwarded
            | .reply _ => state.forwarded }
  | state, .execute answer now =>
      match state.forwarded with
      | [] => none
      | sent :: rest =>
          match BuiltinCall.read sent.call with
          | none => some { state with forwarded := rest }
          | some call =>
              some { state.perform env sent.caller (builtinAgent sent.call) answer now call with
                forwarded := rest }
  | state, .forward index message =>
      state.subs[index]?.bind fun owned ↦
        if owned.sub.listed then
          some { state with
            events := state.events ++ [⟨owned.owner, consciousnessSubject owned.sub.agentId,
              subscribedEvent env.json owned.sub.agentId message⟩] }
        else none
  | state, .wake index now =>
      state.wakes[index]?.bind fun wake ↦
        if wake.dueAt ≤ now then
          some { state with
            wakes := state.wakes.eraseIdx index
            events := state.events ++ [⟨wake.owner, consciousnessSubject wake.agentId,
              wakeEvent env wake now⟩] }
        else none

/-- Calls are executed for the agents that made them, and touch no subscriptions of others; what they bring
about arrives on the stream of the agent that made the call. -/
structure ActsForCaller (state : BuiltinState) : Prop where
  executed : ∀ call ∈ state.executed, call.agentId = call.caller
  touched : ∀ call ∈ state.executed, ∀ owner ∈ call.touched, owner = call.caller
  events : ∀ event ∈ state.events, event.subject = consciousnessSubject event.owner

/-- Everything is done for the agent without a name, on behalf of agents whose calls were executed. -/
structure Nameless (state : BuiltinState) : Prop where
  requested : ∀ sent ∈ state.requested, sent.call.request.pluginId = ""
  forwarded : ∀ sent ∈ state.forwarded, sent.call.pluginId = ""
  subs : ∀ owned ∈ state.subs, owned.sub.agentId = "" ∧
    owned.owner ∈ state.executed.map ExecutedCall.caller
  wakes : ∀ wake ∈ state.wakes, wake.agentId = "" ∧ wake.owner ∈ state.executed.map ExecutedCall.caller
  executed : ∀ call ∈ state.executed, call.agentId = "" ∧
    ∀ owner ∈ call.touched, owner ∈ state.executed.map ExecutedCall.caller
  events : ∀ event ∈ state.events, event.subject = consciousnessSubject "" ∧
    event.owner ∈ state.executed.map ExecutedCall.caller

theorem nameless_init (cache : ToolCache) : Nameless (init cache) := by
  constructor <;> exact fun _ hmem ↦ absurd hmem List.not_mem_nil

variable {env : BuiltinEnv} {state next : BuiltinState}

theorem agentId_handleSubscribeEvents {rfc3339 : ℕ → String} {agentId : String}
    {args : SubscribeEventsRequest} {now : ℕ} {subs : List RuntimeSubscription} :
    ∀ sub ∈ (handleSubscribeEvents rfc3339 agentId args now subs).2, sub.agentId = agentId := by
  intro sub hsub
  unfold handleSubscribeEvents at hsub
  split at hsub
  · exact absurd hsub List.not_mem_nil
  · dsimp only at hsub
    split_ifs at hsub
    · exact absurd hsub List.not_mem_nil
    · obtain ⟨pattern, -, rfl⟩ := List.mem_map.mp hsub
      rfl

theorem agentId_unsubscribeEvents (agentId : String) (subjects : List String)
    (sub : RuntimeSubscription) : (Kernel.unsubscribeEvents agentId subjects sub).agentId = sub.agentId := by
  unfold Kernel.unsubscribeEvents
  split_ifs <;> rfl

/-- The dispatcher forwards the request as it is. -/
theorem forwarded_handleToolCall {cache : ToolCache} {describe : String → Except String ToolEntry}
    {call : CapabilityCall} {callSubject : String} {request : ToolCallRequest}
    (h : (handleToolCall cache describe call).2 = .forward callSubject request) :
    request = call.request := by
  unfold handleToolCall at h
  dsimp only at h
  split at h
  · exact (Dispatched.forward.inj h).2.symm
  · split at h
    · exact (Dispatched.forward.inj h).2.symm
    · cases h

/-! ## One step -/

/-- A call is executed: what was there stays, and what is new is the caller's and nameless. -/
theorem Nameless.executes (h : state.Nameless) {caller toolId : String} {touched : List String}
    (htouched : ∀ owner ∈ touched, owner ∈ state.executed.map ExecutedCall.caller)
    {subs : List OwnedSubscription} {wakes : List Wake}
    (hsubs : ∀ owned ∈ subs, owned.sub.agentId = "" ∧
      (owned.owner = caller ∨ owned.owner ∈ state.executed.map ExecutedCall.caller))
    (hwakes : ∀ wake ∈ wakes, wake.agentId = "" ∧
      (wake.owner = caller ∨ wake.owner ∈ state.executed.map ExecutedCall.caller))
    (asked : List ConversationListRequest) (delegated : List Sent) :
    Nameless { state with
      subs := subs
      wakes := wakes
      executed := state.executed ++ [⟨caller, "", toolId, touched⟩]
      asked := asked
      delegated := delegated } := by
  let added : ExecutedCall := ⟨caller, "", toolId, touched⟩
  have hcallers : (state.executed ++ [added]).map ExecutedCall.caller =
      state.executed.map ExecutedCall.caller ++ [caller] := List.map_append
  have hkeep {owner : String} (howner : owner ∈ state.executed.map ExecutedCall.caller) :
      owner ∈ (state.executed ++ [added]).map ExecutedCall.caller := by
    rw [hcallers]
    exact List.mem_append_left _ howner
  have hgrow {owner : String}
      (howner : owner = caller ∨ owner ∈ state.executed.map ExecutedCall.caller) :
      owner ∈ (state.executed ++ [added]).map ExecutedCall.caller := by
    rcases howner with rfl | hold
    · rw [hcallers]
      exact List.mem_append_right _ (List.mem_singleton.mpr rfl)
    · exact hkeep hold
  refine ⟨h.requested, h.forwarded, ?_, ?_, ?_, ?_⟩
  · exact fun owned howned ↦ ⟨(hsubs owned howned).1, hgrow (hsubs owned howned).2⟩
  · exact fun wake hwake ↦ ⟨(hwakes wake hwake).1, hgrow (hwakes wake hwake).2⟩
  · intro call hcall
    obtain hold | rfl := mem_of_concat hcall
    · exact ⟨(h.executed call hold).1, fun owner howner ↦ hkeep ((h.executed call hold).2 owner howner)⟩
    · exact ⟨rfl, fun owner howner ↦ hkeep (htouched owner howner)⟩
  · exact fun event hevent ↦ ⟨(h.events event hevent).1, hkeep (h.events event hevent).2⟩

theorem Nameless.perform (env : BuiltinEnv) (h : state.Nameless) (caller : String)
    (answer : CreateAnswer) (now : ℕ) (call : BuiltinCall) : (state.perform env caller "" answer now call).Nameless := by
  have howner (owned : OwnedSubscription) (howned : owned ∈ state.subs) :
      owned.owner ∈ state.executed.map ExecutedCall.caller := (h.subs owned howned).2
  have hsubs (owned : OwnedSubscription) (howned : owned ∈ state.subs) : owned.sub.agentId = "" ∧
      (owned.owner = caller ∨ owned.owner ∈ state.executed.map ExecutedCall.caller) :=
    ⟨(h.subs owned howned).1, .inr (howner owned howned)⟩
  have hwakes (wake : Wake) (hwake : wake ∈ state.wakes) : wake.agentId = "" ∧
      (wake.owner = caller ∨ wake.owner ∈ state.executed.map ExecutedCall.caller) :=
    ⟨(h.wakes wake hwake).1, .inr (h.wakes wake hwake).2⟩
  have hnone (owner : String) (hmem : owner ∈ []) : owner ∈ state.executed.map ExecutedCall.caller :=
    absurd hmem List.not_mem_nil
  have hfilter {p : OwnedSubscription → Bool} (owner : String)
      (hmem : owner ∈ (state.subs.filter p).map OwnedSubscription.owner) :
      owner ∈ state.executed.map ExecutedCall.caller := by
    obtain ⟨owned, howned, rfl⟩ := List.mem_map.mp hmem
    exact howner owned (List.mem_filter.mp howned).1
  cases call with
  | subscribeEvents args =>
    refine h.executes hfilter (fun owned howned ↦ ?_) hwakes _ _
    rcases List.mem_append.mp howned with hold | hnew
    · exact hsubs owned hold
    · obtain ⟨sub, hsub, rfl⟩ := List.mem_map.mp hnew
      exact ⟨agentId_handleSubscribeEvents sub hsub, .inl rfl⟩
  | unsubscribeEvents subjects =>
    refine h.executes hfilter (fun owned howned ↦ ?_) hwakes _ _
    obtain ⟨before, hbefore, rfl⟩ := List.mem_map.mp howned
    exact ⟨(agentId_unsubscribeEvents "" subjects before.sub).trans (hsubs before hbefore).1,
      (hsubs before hbefore).2⟩
  | delegateTask args | listConversations platform limit => exact h.executes hnone hsubs hwakes _ _
  | scheduleWake args =>
    refine h.executes hnone hsubs (fun wake hwake ↦ ?_) _ _
    rcases List.mem_append.mp hwake with hold | hnew
    · exact hwakes wake hold
    · split_ifs at hnew
      · exact absurd hnew List.not_mem_nil
      · obtain rfl := List.mem_singleton.mp hnew
        exact ⟨rfl, .inl rfl⟩

/-- An event of something an executed call has set up. -/
theorem Nameless.publishes (h : state.Nameless) {event : CausedEvent}
    (hsubject : event.subject = consciousnessSubject "")
    (howner : event.owner ∈ state.executed.map ExecutedCall.caller) {wakes : List Wake}
    (hwakes : ∀ wake ∈ wakes, wake ∈ state.wakes) :
    Nameless { state with wakes := wakes, events := state.events ++ [event] } := by
  refine ⟨h.requested, h.forwarded, h.subs, fun wake hwake ↦ h.wakes wake (hwakes wake hwake),
    h.executed, fun other hother ↦ ?_⟩
  obtain hold | rfl := mem_of_concat hother
  · exact h.events other hold
  · exact ⟨hsubject, howner⟩

theorem Nameless.step {label : BuiltinLabel} (h : state.Nameless)
    (hstep : BuiltinState.step env state label = some next) : next.Nameless := by
  cases label with
  | request source request toolCall =>
    cases hstep
    refine ⟨fun sent hsent ↦ ?_, h.forwarded, h.subs, h.wakes, h.executed, h.events⟩
    obtain hold | rfl := mem_of_concat hsent
    · exact h.requested sent hold
    · rfl
  | dispatch index described =>
    obtain ⟨sent, hsent, rfl⟩ := Option.map_eq_some_iff.mp hstep
    have hmem : sent ∈ state.requested := List.mem_of_getElem? hsent
    refine ⟨fun other hother ↦ h.requested other (List.mem_of_mem_eraseIdx hother), ?_, h.subs, h.wakes,
      h.executed, h.events⟩
    intro other hother
    dsimp only at hother
    split at hother
    · rename_i callSubject request hforward
      split_ifs at hother
      · obtain hold | rfl := mem_of_concat hother
        · exact h.forwarded other hold
        · obtain rfl := forwarded_handleToolCall hforward
          exact h.requested sent hmem
      · exact h.forwarded other hother
    · exact h.forwarded other hother
  | execute answer now =>
    simp only [BuiltinState.step] at hstep
    split at hstep
    · cases hstep
    · rename_i sent rest hqueue
      have hrest (other : SentCall ToolCallRequest) (hother : other ∈ rest) : other.call.pluginId = "" :=
        h.forwarded other (hqueue ▸ List.mem_cons_of_mem _ hother)
      have hagent : builtinAgent sent.call = "" := h.forwarded sent (hqueue ▸ List.mem_cons_self)
      split at hstep
      · cases hstep
        exact ⟨h.requested, hrest, h.subs, h.wakes, h.executed, h.events⟩
      · rename_i call _
        cases hstep
        rw [hagent]
        have hperformed := h.perform env sent.caller answer now call
        exact ⟨hperformed.requested, hrest, hperformed.subs, hperformed.wakes, hperformed.executed,
          hperformed.events⟩
  | forward index message =>
    obtain ⟨owned, howned, hstep⟩ := Option.bind_eq_some_iff.mp hstep
    obtain ⟨-, hstep⟩ := Option.ite_none_right_eq_some.mp hstep
    cases hstep
    obtain ⟨hagent, howner⟩ := h.subs owned (List.mem_of_getElem? howned)
    exact h.publishes (congrArg consciousnessSubject hagent) howner fun _ hwake ↦ hwake
  | wake index now =>
    obtain ⟨wake, hwake, hstep⟩ := Option.bind_eq_some_iff.mp hstep
    obtain ⟨-, hstep⟩ := Option.ite_none_right_eq_some.mp hstep
    cases hstep
    obtain ⟨hagent, howner⟩ := h.wakes wake (List.mem_of_getElem? hwake)
    exact h.publishes (congrArg consciousnessSubject hagent) howner fun _ hother ↦
      List.mem_of_mem_eraseIdx hother

/-- In every state of every run, calls act for their callers exactly if all calls that were executed were
made for an agent whose id is the empty text. -/
theorem actsForCaller_iff {cache : ToolCache}
    (hreach : Steps.Reach (step env) (fun _ _ ↦ True) (init cache) state) :
    ActsForCaller state ↔ ∀ call ∈ state.executed, call.caller = "" := by
  have hnameless : state.Nameless :=
    hreach.invariant (nameless_init cache) fun _ _ _ hbefore _ hstep ↦ hbefore.step hstep
  constructor
  · intro hacts call hcall
    exact (hacts.executed call hcall).symm.trans (hnameless.executed call hcall).1
  · intro hempty
    have hcallers {owner : String} (howner : owner ∈ state.executed.map ExecutedCall.caller) :
        owner = "" := by
      obtain ⟨call, hcall, rfl⟩ := List.mem_map.mp howner
      exact hempty call hcall
    refine ⟨fun call hcall ↦ ?_, fun call hcall owner howner ↦ ?_, fun event hevent ↦ ?_⟩
    · exact (hnameless.executed call hcall).1.trans (hempty call hcall).symm
    · exact (hcallers ((hnameless.executed call hcall).2 owner howner)).trans (hempty call hcall).symm
    · rw [(hnameless.events event hevent).1, hcallers (hnameless.events event hevent).2]

/-- A request to a model for an agent. -/
def sampleRequest (agentId : String) : UnifiedLlmRequest where
  agentId := agentId
  messages := []
  systemPrompt := none
  tools := []
  routingStrategy := "balanced"
  modelPreferences := []
  correlationId := none
  scope := none

def sampleEnv : BuiltinEnv := ⟨fun _ ↦ "", ⟨fun _ ↦ none, fun _ ↦ ""⟩⟩

/-- The model calls a tool for an agent, and the call reaches the kernel. -/
def calls (agentId toolId : String) (arguments : Value) : List BuiltinLabel :=
  [.request "llm-anthropic" (sampleRequest agentId) ⟨"1", toolId, arguments⟩,
    .dispatch 0 (.ok ⟨"consciousness", consciousnessCalls⟩), .execute .timeout 0]

/-- The agent without a name is served. -/
theorem actsForCaller_nameless :
    ∃ state ∈ Steps.execute (step sampleEnv) (init ∅)
        (calls "" "schedule-wake" (.object [("delay_seconds", .number "5")]) ++ [.wake 0 5]),
      state.events.map CausedEvent.subject = ["agent..consciousness"] ∧ ActsForCaller state := by
  have hrun : ∃ state ∈ Steps.execute (step sampleEnv) (init ∅)
        (calls "" "schedule-wake" (.object [("delay_seconds", .number "5")]) ++ [.wake 0 5]),
      state.events.map CausedEvent.subject = ["agent..consciousness"] ∧
        ∀ call ∈ state.executed, call.caller = "" := by
    decide +kernel
  obtain ⟨state, hstate, hevents, hempty⟩ := hrun
  have hreach := Steps.reach_of_execute (Steps.guarded_of_forall (fun _ _ ↦ trivial) _ _) hstate
  exact ⟨state, hstate, hevents, (actsForCaller_iff hreach).mpr hempty⟩

/-- One agent's wake arrives on no agent's stream, and another agent removes its subscription. -/
theorem exists_foreign_call :
    ∃ state, Steps.Reach (step sampleEnv) (fun _ _ ↦ True) (init ∅) state ∧ ¬ActsForCaller state ∧
      (⟨"butler", "", "unsubscribe-events", ["scout"]⟩ : ExecutedCall) ∈ state.executed ∧
      ∃ event ∈ state.events, event.owner = "scout" ∧ event.subject = "agent..consciousness" := by
  have hrun : ∃ state ∈ Steps.execute (step sampleEnv) (init ∅)
        (calls "scout" "subscribe-events" (.object [("subjects", .array [.string "news.today"])]) ++
          calls "scout" "schedule-wake" (.object [("delay_seconds", .number "5")]) ++
          calls "butler" "unsubscribe-events" (.object [("subjects", .array [.string "news.today"])]) ++
          [.wake 0 5]),
      (⟨"butler", "", "unsubscribe-events", ["scout"]⟩ : ExecutedCall) ∈ state.executed ∧
        ∃ event ∈ state.events, event.owner = "scout" ∧ event.subject = "agent..consciousness" := by
    decide +kernel
  obtain ⟨state, hstate, hremoved, hevent⟩ := hrun
  have hreach := Steps.reach_of_execute (Steps.guarded_of_forall (fun _ _ ↦ trivial) _ _) hstate
  exact ⟨state, hreach, fun hacts ↦ absurd (hacts.executed _ hremoved) (by decide), hremoved, hevent⟩

end BuiltinState

end Seidrum.Plugins
