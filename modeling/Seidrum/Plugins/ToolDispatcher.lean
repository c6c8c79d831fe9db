import Seidrum.Foundation.Positions
import Seidrum.Kernel.ToolRegistry
import Seidrum.Plugins.ScopePropagation

/-!
# The tool dispatcher and the registry

The dispatcher forwards a capability call to the call subject it has cached for the tool, and asks the
kernel only for a tool it has not cached.  It listens for registrations, but reads them as event
envelopes while the kernel publishes bare entries, and it does not listen for deregistrations.  So the
first entry it is told of a tool stays, and calls follow the registry as long as no tool the
dispatcher has been told of is removed or gets another call subject.
-/

namespace Seidrum.Kernel

open EventBus (Value)

/-- A field that may be absent or null. -/
def optionalStr (value : Value) (field : String) : Option (Option String) :=
  match value.get field with
  | none | some .null => some none
  | some (.string text) => some (some text)
  | some _ => none

def EventOrigin.fromValue (value : Value) : Option EventOrigin := do
  let platform ← (← value.get "platform").asStr
  let chatId ← (← value.get "chat_id").asStr
  let threadId ← optionalStr value "thread_id"
  let messageId ← optionalStr value "message_id"
  return { platform, chatId, threadId, messageId }

/-- Read an event; `isTimestamp` tells the texts of a time. -/
def EventEnvelope.fromValue (isTimestamp : String → Bool) (value : Value) : Option EventEnvelope := do
  let id ← (← value.get "id").asStr
  let eventType ← (← value.get "event_type").asStr
  let timestamp ← (← value.get "timestamp").asStr
  guard (isTimestamp timestamp)
  let source ← (← value.get "source").asStr
  let correlationId ← optionalStr value "correlation_id"
  let scope ← optionalStr value "scope"
  let payload ← value.get "payload"
  let origin ← match value.get "origin" with
    | none | some .null => some none
    | some origin => (EventOrigin.fromValue origin).map some
  return { id, eventType, timestamp, source, correlationId, scope, payload, origin }

structure ToolRegistered where
  toolId : String
  pluginId : String
  name : String

def ToolRegistered.fromValue (value : Value) : Option ToolRegistered := do
  let toolId ← (← value.get "tool_id").asStr
  let pluginId ← (← value.get "plugin_id").asStr
  let name ← (← value.get "name").asStr
  return { toolId, pluginId, name }

end Seidrum.Kernel

namespace Seidrum.Plugins

open EventBus (Value)
open Foundation Kernel

/-! ## The two processes -/

/-- What the dispatcher keeps of a description. -/
def describedEntry (described : Kernel.ToolEntry) : ToolEntry where
  pluginId := described.pluginId
  callSubject := described.callSubject

/-- The task that listens for registrations. -/
inductive Listener
  | idle
  | asked (toolId : String)
  | told (toolId : String) (entry : ToolEntry)
  deriving DecidableEq

inductive CallStage
  | received
  | asked
  | told (entry : ToolEntry)
  | forwarded (callSubject : String)
  | unknown (details : String)
  deriving DecidableEq

/-- A capability call at the dispatcher.  `seen` are the call subjects that have been registered for
its tool since it started, `handled` whether no event was left for the dispatcher then. -/
structure DispatchedCall where
  request : ToolCallRequest
  stage : CallStage
  handled : Bool
  seen : List (Option String)

/-- The kernel's registry, the dispatcher's subscription to `capability.registered`, and the
dispatcher. -/
structure Dispatching where
  tools : ToolTable
  registered : List Value
  listener : Listener
  cache : ToolCache
  calls : List DispatchedCall

inductive DispatchStep
  | register (payload : ToolRegisterPayload) (stored : Bool)
  | deregister (pluginId : String)
  | hear
  | tellListener (lost : Bool)
  | refresh
  | call (request : ToolCallRequest)
  | lookUp (call : ℕ)
  | tellCall (call : ℕ) (lost : Bool) (details : String)
  | fill (call : ℕ)

namespace Dispatching

def init (tools : ToolTable) : Dispatching where
  tools := tools
  registered := []
  listener := .idle
  cache := ∅
  calls := []

/-- The call subject registered for a tool. -/
def current (tools : ToolTable) (toolId : String) : Option String :=
  (tools.describe toolId).map Kernel.ToolEntry.callSubject

/-- The registry has changed, and the messages it published reach the dispatcher's subscription. -/
def changed (state : Dispatching) (tools : ToolTable) (notices : List Notice) : Dispatching :=
  { state with
    tools := tools
    registered := state.registered ++
      (notices.filter fun notice ↦ notice.subject = "capability.registered").map Notice.payload
    calls := state.calls.map fun call ↦
      { call with seen := call.seen ++ [current tools call.request.toolId] } }

/-- The tool a `capability.registered` event is about, as the listener reads it. -/
def heard (isTimestamp : String → Bool) (event : Value) : Option String := do
  let envelope ← EventEnvelope.fromValue isTimestamp event
  let registered ← ToolRegistered.fromValue envelope.payload
  return registered.toolId

/-- What `capability.describe` answers; a lost request is an error, as is the answer for a tool that
is not registered. -/
def described (tools : ToolTable) (toolId : String) (lost : Bool) : Option ToolEntry :=
  if lost then none else (tools.describe toolId).map describedEntry

def setStage (state : Dispatching) (i : ℕ) (call : DispatchedCall) (stage : CallStage) : Dispatching :=
  { state with calls := state.calls.set i { call with stage := stage } }

def step (isTimestamp : String → Bool) : Steps Dispatching DispatchStep
  | state, .register payload stored =>
      let (tools, notices) := registerCapability state.tools payload stored
      some (state.changed tools notices)
  | state, .deregister pluginId =>
      let (tools, notices) := deregisterByPlugin state.tools pluginId
      some (state.changed tools notices)
  | state, .hear =>
      match state.listener, state.registered with
      | .idle, event :: rest =>
          let listener := match heard isTimestamp event with
            | some toolId => .asked toolId
            | none => .idle
          some { state with registered := rest, listener := listener }
      | _, _ => none
  | state, .tellListener lost =>
      match state.listener with
      | .asked toolId =>
          let listener := match described state.tools toolId lost with
            | some entry => .told toolId entry
            | none => .idle
          some { state with listener := listener }
      | _ => none
  | state, .refresh =>
      match state.listener with
      | .told toolId entry =>
          some { state with listener := .idle, cache := state.cache.insert toolId entry }
      | _ => none
  | state, .call request =>
      some { state with
        calls := state.calls ++ [{
          request := request
          stage := .received
          handled := state.registered.isEmpty && decide (state.listener = .idle)
          seen := [current state.tools request.toolId] }] }
  | state, .lookUp i =>
      match state.calls[i]? with
      | some ⟨request, .received, handled, seen⟩ =>
          let stage := match state.cache.lookup request.toolId with
            | some entry => .forwarded entry.callSubject
            | none => .asked
          some (state.setStage i ⟨request, .received, handled, seen⟩ stage)
      | _ => none
  | state, .tellCall i lost details =>
      match state.calls[i]? with
      | some ⟨request, .asked, handled, seen⟩ =>
          let stage := match described state.tools request.toolId lost with
            | some entry => .told entry
            | none => .unknown details
          some (state.setStage i ⟨request, .asked, handled, seen⟩ stage)
      | _ => none
  | state, .fill i =>
      match state.calls[i]? with
      | some ⟨request, .told entry, handled, seen⟩ =>
          some { state.setStage i ⟨request, .told entry, handled, seen⟩
              (.forwarded entry.callSubject) with
            cache := state.cache.insert request.toolId entry }
      | _ => none

end Dispatching

/-- What becomes of a call, as `handleToolCall` tells it. -/
def CallStage.result (request : ToolCallRequest) : CallStage → Option Dispatched
  | .forwarded callSubject => some (.forward callSubject request)
  | .unknown details =>
      some (.reply {
        toolId := request.toolId
        result := .object [("details", .string details),
          ("error", .string ("Unknown tool: " ++ request.toolId))]
        isError := true })
  | _ => none

/-- How a call without anything in between asks the kernel. -/
def describeTool (tools : ToolTable) (details toolId : String) : Except String ToolEntry :=
  match Dispatching.described tools toolId false with
  | some entry => .ok entry
  | none => .error details

namespace Dispatching

variable {isTimestamp : String → Bool} {state : Dispatching} {i : ℕ} {request : ToolCallRequest}
variable {handled : Bool} {seen : List (Option String)} {entry : ToolEntry}

theorem step_lookUp_hit (hat : state.calls[i]? = some ⟨request, .received, handled, seen⟩)
    (hcached : state.cache.lookup request.toolId = some entry) :
    step isTimestamp state (.lookUp i) =
      some (state.setStage i ⟨request, .received, handled, seen⟩ (.forwarded entry.callSubject)) := by
  simp only [step, hat, hcached]

theorem step_lookUp_miss (hat : state.calls[i]? = some ⟨request, .received, handled, seen⟩)
    (hcached : state.cache.lookup request.toolId = none) :
    step isTimestamp state (.lookUp i) =
      some (state.setStage i ⟨request, .received, handled, seen⟩ .asked) := by
  simp only [step, hat, hcached]

theorem step_tellCall_known (hat : state.calls[i]? = some ⟨request, .asked, handled, seen⟩)
    (details : String) (hdescribed : described state.tools request.toolId false = some entry) :
    step isTimestamp state (.tellCall i false details) =
      some (state.setStage i ⟨request, .asked, handled, seen⟩ (.told entry)) := by
  simp only [step, hat, hdescribed]

theorem step_tellCall_unknown (hat : state.calls[i]? = some ⟨request, .asked, handled, seen⟩)
    (details : String) (hdescribed : described state.tools request.toolId false = none) :
    step isTimestamp state (.tellCall i false details) =
      some (state.setStage i ⟨request, .asked, handled, seen⟩ (.unknown details)) := by
  simp only [step, hat, hdescribed]

theorem step_fill (hat : state.calls[i]? = some ⟨request, .told entry, handled, seen⟩) :
    step isTimestamp state (.fill i) =
      some { state.setStage i ⟨request, .told entry, handled, seen⟩ (.forwarded entry.callSubject) with
        cache := state.cache.insert request.toolId entry } := by
  simp only [step, hat]

/-- A call whose steps nothing comes between is answered as `handleToolCall` answers it. -/
theorem reach_handleToolCall {call : CapabilityCall}
    (hat : state.calls[i]? = some ⟨call.request, .received, handled, seen⟩) (details : String) :
    ∃ next stage, Steps.Reach (step isTimestamp) (fun _ _ ↦ True) state next ∧
      next.calls[i]? = some ⟨call.request, stage, handled, seen⟩ ∧
      (next.cache, stage.result call.request) =
        Prod.map id some (handleToolCall state.cache (describeTool state.tools details) call) := by
  cases hcached : state.cache.lookup call.request.toolId with
  | some entry =>
    refine ⟨_, .forwarded entry.callSubject, .next .init trivial (step_lookUp_hit hat hcached),
      at_set_self hat _, ?_⟩
    simp only [handleToolCall, hcached]
    rfl
  | none =>
    have hasked := at_set_self hat ⟨call.request, .asked, handled, seen⟩
    have hmissed : Steps.Reach (step isTimestamp) (fun _ _ ↦ True) state
        (state.setStage i ⟨call.request, .received, handled, seen⟩ .asked) :=
      .next .init trivial (step_lookUp_miss hat hcached)
    cases hdescribed : described state.tools call.request.toolId false with
    | none =>
      refine ⟨_, .unknown details,
        hmissed.next trivial (step_tellCall_unknown hasked details hdescribed),
        at_set_self hasked _, ?_⟩
      simp only [handleToolCall, hcached, describeTool, hdescribed]
      rfl
    | some entry =>
      have htold := at_set_self hasked ⟨call.request, .told entry, handled, seen⟩
      refine ⟨_, .forwarded entry.callSubject,
        (hmissed.next trivial (step_tellCall_known hasked details hdescribed)).next trivial
          (step_fill htold), at_set_self htold _, ?_⟩
      simp only [handleToolCall, hcached, describeTool, hdescribed]
      rfl

end Dispatching

/-- The call went where it should have at some moment since it started: to the call subject registered
for its tool, or back as unknown while the tool was not registered. -/
def DispatchedCall.Follows (call : DispatchedCall) : Prop :=
  match call.stage with
  | .forwarded callSubject => some callSubject ∈ call.seen
  | .unknown _ => none ∈ call.seen
  | _ => True

instance (call : DispatchedCall) : Decidable call.Follows := by
  unfold DispatchedCall.Follows
  split <;> infer_instance

theorem DispatchedCall.Follows.see {call : DispatchedCall} (h : call.Follows)
    (subject : Option String) : DispatchedCall.Follows { call with seen := call.seen ++ [subject] } := by
  obtain ⟨request, stage, handled, seen⟩ := call
  cases stage with
  | received | asked | told entry => trivial
  | forwarded callSubject | unknown details => exact List.mem_append_left _ h

/-- Every call that found all events handled when it started follows the registry. -/
def FollowsRegistry (state : Dispatching) : Prop :=
  ∀ call ∈ state.calls, call.handled = true → call.Follows

instance (state : Dispatching) : Decidable (FollowsRegistry state) :=
  inferInstanceAs (Decidable (∀ call ∈ state.calls, call.handled = true → call.Follows))

/-- The entry the listener has been told of a tool and will cache. -/
def Listener.toldOf (toolId : String) : Listener → List ToolEntry
  | .told other entry => if other = toolId then [entry] else []
  | _ => []

/-- The entry a call has been told of a tool and will cache. -/
def DispatchedCall.toldOf (toolId : String) (call : DispatchedCall) : Option ToolEntry :=
  match call.stage with
  | .told entry => if call.request.toolId = toolId then some entry else none
  | _ => none

namespace Dispatching

/-- The entries of a tool that the dispatcher has been told and uses, or will. -/
def toldOf (state : Dispatching) (toolId : String) : List ToolEntry :=
  (state.cache.lookup toolId).toList ++ state.listener.toldOf toolId ++
    state.calls.filterMap (DispatchedCall.toldOf toolId)

/-- The step changes or removes the call subject of no tool the dispatcher has been told of, and loses
no description. -/
def Harmless (state : Dispatching) : DispatchStep → Prop
  | .register payload stored =>
      stored = true → ∀ entry ∈ state.toldOf payload.toolId, entry.callSubject = payload.callSubject
  | .deregister pluginId => ∀ toolId ∈ state.tools.ownedBy pluginId, state.toldOf toolId = []
  | .tellCall _ lost _ => lost = false
  | _ => True

instance (state : Dispatching) (label : DispatchStep) : Decidable (state.Harmless label) := by
  cases label <;> unfold Harmless <;> infer_instance

/-! ## What the dispatcher knows -/

variable {toolId : String} {entry : ToolEntry} {tools : ToolTable} {i : ℕ}

theorem mem_toldOf {state : Dispatching} :
    entry ∈ state.toldOf toolId ↔ state.cache.lookup toolId = some entry ∨
      state.listener = .told toolId entry ∨
      ∃ call ∈ state.calls, call.request.toolId = toolId ∧ call.stage = .told entry := by
  have hlistener : entry ∈ state.listener.toldOf toolId ↔ state.listener = .told toolId entry := by
    cases state.listener with
    | idle | asked other => simp [Listener.toldOf]
    | told other held =>
      by_cases hother : other = toolId
      · simp [Listener.toldOf, hother, eq_comm]
      · simp [Listener.toldOf, hother]
  have hcall : ∀ call : DispatchedCall, call.toldOf toolId = some entry ↔
      call.request.toolId = toolId ∧ call.stage = .told entry := by
    intro call
    unfold DispatchedCall.toldOf
    cases call.stage <;> simp
  unfold toldOf
  rw [List.mem_append, List.mem_append, Option.mem_toList, hlistener, List.mem_filterMap]
  simp only [hcall, or_assoc]

/-- What the dispatcher has been told is what is registered, every call has seen what is registered,
and every finished call follows the registry. -/
structure Current (state : Dispatching) : Prop where
  told : ∀ toolId, ∀ entry ∈ state.toldOf toolId, current state.tools toolId = some entry.callSubject
  seen : ∀ call ∈ state.calls, current state.tools call.request.toolId ∈ call.seen
  follows : ∀ call ∈ state.calls, call.Follows

theorem current_init (tools : ToolTable) : Current (init tools) := by
  constructor
  · intro toolId entry hentry
    rcases mem_toldOf.mp hentry with hcached | hlistener | ⟨call, hmem, -⟩
    · cases hcached
    · cases hlistener
    · exact absurd hmem List.not_mem_nil
  all_goals exact fun call hmem ↦ absurd hmem List.not_mem_nil

variable {isTimestamp : String → Bool} {state : Dispatching}

theorem toldOf_changed (tools : ToolTable) (notices : List Notice) (toolId : String) :
    (state.changed tools notices).toldOf toolId = state.toldOf toolId := by
  have hcalls : (state.calls.map fun call ↦
      { call with seen := call.seen ++ [current tools call.request.toolId] }).filterMap
        (DispatchedCall.toldOf toolId) = state.calls.filterMap (DispatchedCall.toldOf toolId) := by
    rw [List.filterMap_map]
    rfl
  unfold toldOf
  rw [changed, hcalls]

/-- A change of the registry that leaves alone what the dispatcher has been told. -/
theorem Current.changed (h : Current state) {notices : List Notice}
    (htools : ∀ toolId, ∀ entry ∈ state.toldOf toolId, current tools toolId = some entry.callSubject) :
    Current (state.changed tools notices) := by
  constructor
  · intro toolId entry hentry
    rw [toldOf_changed] at hentry
    exact htools toolId entry hentry
  · intro call hmem
    obtain ⟨before, hbefore, rfl⟩ := List.mem_map.mp hmem
    exact List.mem_append_right _ (List.mem_singleton.mpr rfl)
  · intro call hmem
    obtain ⟨before, hbefore, rfl⟩ := List.mem_map.mp hmem
    exact (h.follows before hbefore).see _

theorem Current.register (h : Current state) {payload : ToolRegisterPayload} {stored : Bool}
    (hharmless : state.Harmless (.register payload stored)) :
    Current (state.changed (registerCapability state.tools payload stored).1
      (registerCapability state.tools payload stored).2) := by
  apply h.changed
  intro toolId entry hentry
  unfold current
  rw [describe_registerCapability]
  split_ifs with hreplaced
  · obtain ⟨hstored, rfl⟩ := hreplaced
    exact congrArg some (hharmless hstored entry hentry).symm
  · exact h.told toolId entry hentry

theorem Current.deregister (h : Current state) {pluginId : String}
    (hharmless : state.Harmless (.deregister pluginId)) :
    Current (state.changed (deregisterByPlugin state.tools pluginId).1
      (deregisterByPlugin state.tools pluginId).2) := by
  apply h.changed
  intro toolId entry hentry
  obtain ⟨described, hdescribed, hsubject⟩ := Option.map_eq_some_iff.mp (h.told toolId entry hentry)
  have hother : described.pluginId ≠ pluginId := by
    intro howner
    have hnone := hharmless toolId (ToolTable.mem_ownedBy.mpr ⟨described, hdescribed, howner⟩)
    rw [hnone] at hentry
    exact absurd hentry List.not_mem_nil
  unfold current
  rw [describe_deregisterByPlugin, hdescribed]
  simp [Option.filter, hother, hsubject]

theorem current_of_described {lost : Bool} (h : described tools toolId lost = some entry) :
    current tools toolId = some entry.callSubject := by
  unfold described at h
  split_ifs at h with hlost
  obtain ⟨registered, hregistered, rfl⟩ := Option.map_eq_some_iff.mp h
  rw [current, hregistered]
  rfl

theorem current_of_not_described (h : described tools toolId false = none) : current tools toolId = none := by
  have hnone : tools.describe toolId = none := Option.map_eq_none_iff.mp h
  rw [current, hnone]
  rfl

/-- One call moves on; it is told only what is registered, and ends only as it should. -/
theorem Current.setStage (h : Current state) {call : DispatchedCall} (hat : state.calls[i]? = some call)
    {stage : CallStage}
    (htold : ∀ entry, stage = .told entry → current state.tools call.request.toolId = some entry.callSubject)
    (hfollows : DispatchedCall.Follows { call with stage := stage }) :
    Current (state.setStage i call stage) := by
  constructor
  · intro toolId entry hentry
    rcases mem_toldOf.mp hentry with hcached | hlistener | ⟨other, hmem, rfl, hstage⟩
    · exact h.told toolId entry (mem_toldOf.mpr (.inl hcached))
    · exact h.told toolId entry (mem_toldOf.mpr (.inr (.inl hlistener)))
    · rcases List.mem_or_eq_of_mem_set hmem with hold | rfl
      · exact h.told _ entry (mem_toldOf.mpr (.inr (.inr ⟨other, hold, rfl, hstage⟩)))
      · exact htold entry hstage
  · intro other hmem
    rcases List.mem_or_eq_of_mem_set hmem with hold | rfl
    · exact h.seen other hold
    · exact h.seen call (List.mem_of_getElem? hat)
  · intro other hmem
    rcases List.mem_or_eq_of_mem_set hmem with hold | rfl
    · exact h.follows other hold
    · exact hfollows

/-- What is registered may be cached. -/
theorem Current.insert (h : Current state) (hentry : current state.tools toolId = some entry.callSubject) :
    Current { state with cache := state.cache.insert toolId entry } := by
  refine ⟨fun other cached hcached ↦ ?_, h.seen, h.follows⟩
  rcases mem_toldOf.mp hcached with hinserted | hlistener | hcall
  · by_cases hother : other = toolId
    · subst hother
      have hsame : cached = entry := Option.some.inj (hinserted.symm.trans (AList.lookup_insert _))
      exact hsame ▸ hentry
    · have hold : state.cache.lookup other = some cached :=
        (AList.lookup_insert_ne hother).symm.trans hinserted
      exact h.told other cached (mem_toldOf.mpr (.inl hold))
  · exact h.told other cached (mem_toldOf.mpr (.inr (.inl hlistener)))
  · exact h.told other cached (mem_toldOf.mpr (.inr (.inr hcall)))

theorem Current.listen (h : Current state) (events : List Value) (listener : Listener)
    (hlistener : ∀ toolId entry, listener = .told toolId entry →
      current state.tools toolId = some entry.callSubject) :
    Current { state with registered := events, listener := listener } := by
  refine ⟨fun toolId entry hentry ↦ ?_, h.seen, h.follows⟩
  rcases mem_toldOf.mp hentry with hcached | htold | hcall
  · exact h.told toolId entry (mem_toldOf.mpr (.inl hcached))
  · exact hlistener toolId entry htold
  · exact h.told toolId entry (mem_toldOf.mpr (.inr (.inr hcall)))

theorem Current.call (h : Current state) (request : ToolCallRequest) (handled : Bool) :
    Current { state with
      calls := state.calls ++
        [⟨request, .received, handled, [current state.tools request.toolId]⟩] } := by
  constructor
  · intro toolId entry hentry
    rcases mem_toldOf.mp hentry with hcached | hlistener | ⟨call, hmem, rfl, hstage⟩
    · exact h.told toolId entry (mem_toldOf.mpr (.inl hcached))
    · exact h.told toolId entry (mem_toldOf.mpr (.inr (.inl hlistener)))
    · obtain hold | rfl := mem_of_concat hmem
      · exact h.told _ entry (mem_toldOf.mpr (.inr (.inr ⟨call, hold, rfl, hstage⟩)))
      · cases hstage
  · intro call hmem
    obtain hold | rfl := mem_of_concat hmem
    · exact h.seen call hold
    · exact List.mem_singleton.mpr rfl
  · intro call hmem
    obtain hold | rfl := mem_of_concat hmem
    · exact h.follows call hold
    · trivial

theorem Current.lookUp (h : Current state) {call : DispatchedCall} (hat : state.calls[i]? = some call) :
    Current (state.setStage i call (match state.cache.lookup call.request.toolId with
      | some entry => .forwarded entry.callSubject
      | none => .asked)) := by
  have hmem : call ∈ state.calls := List.mem_of_getElem? hat
  cases hcached : state.cache.lookup call.request.toolId with
  | none => exact h.setStage hat (fun _ hstage ↦ by cases hstage) trivial
  | some entry =>
    apply h.setStage hat (fun _ hstage ↦ by cases hstage)
    have hcurrent := h.told _ entry (mem_toldOf.mpr (.inl hcached))
    change some entry.callSubject ∈ call.seen
    rw [← hcurrent]
    exact h.seen call hmem

theorem Current.tellCall (h : Current state) {call : DispatchedCall} (hat : state.calls[i]? = some call)
    (details : String) :
    Current (state.setStage i call (match described state.tools call.request.toolId false with
      | some entry => .told entry
      | none => .unknown details)) := by
  have hmem : call ∈ state.calls := List.mem_of_getElem? hat
  cases hdescribed : described state.tools call.request.toolId false with
  | none =>
    apply h.setStage hat (fun _ hstage ↦ by cases hstage)
    change none ∈ call.seen
    rw [← current_of_not_described hdescribed]
    exact h.seen call hmem
  | some entry =>
    refine h.setStage hat (fun other hstage ↦ ?_) trivial
    obtain rfl := CallStage.told.inj hstage
    exact current_of_described hdescribed

theorem Current.fill (h : Current state) {call : DispatchedCall} (hat : state.calls[i]? = some call)
    (hstage : call.stage = .told entry) :
    Current { state.setStage i call (.forwarded entry.callSubject) with
      cache := state.cache.insert call.request.toolId entry } := by
  have hmem : call ∈ state.calls := List.mem_of_getElem? hat
  have hcurrent := h.told call.request.toolId entry (mem_toldOf.mpr (.inr (.inr ⟨call, hmem, rfl, hstage⟩)))
  have hforwarded : Current (state.setStage i call (.forwarded entry.callSubject)) := by
    apply h.setStage hat (fun _ hother ↦ by cases hother)
    change some entry.callSubject ∈ call.seen
    rw [← hcurrent]
    exact h.seen call hmem
  exact hforwarded.insert hcurrent

theorem current_step {label : DispatchStep} {next : Dispatching}
    (h : Current state) (hharmless : state.Harmless label)
    (hstep : step isTimestamp state label = some next) : Current next := by
  cases label with
  | register payload stored =>
    cases hstep
    exact h.register hharmless
  | deregister pluginId =>
    cases hstep
    exact h.deregister hharmless
  | hear =>
    simp only [step] at hstep
    split at hstep
    · cases hstep
      refine h.listen _ _ fun toolId entry htold ↦ ?_
      split at htold <;> cases htold
    · cases hstep
  | tellListener lost =>
    simp only [step] at hstep
    split at hstep
    · cases hstep
      refine h.listen _ _ fun toolId entry htold ↦ ?_
      split at htold
      · rename_i hdescribed
        obtain ⟨rfl, rfl⟩ := Listener.told.inj htold
        exact current_of_described hdescribed
      · cases htold
    · cases hstep
  | refresh =>
    simp only [step] at hstep
    split at hstep
    · rename_i toolId entry hlistener
      cases hstep
      have hcurrent := h.told toolId entry (mem_toldOf.mpr (.inr (.inl hlistener)))
      have hidle := h.listen state.registered .idle fun _ _ htold ↦ by cases htold
      exact hidle.insert hcurrent
    · cases hstep
  | call request =>
    cases hstep
    exact h.call request _
  | lookUp i =>
    simp only [step] at hstep
    split at hstep
    · rename_i hat
      cases hstep
      exact h.lookUp hat
    · cases hstep
  | tellCall i lost details =>
    obtain rfl : lost = false := hharmless
    simp only [step] at hstep
    split at hstep
    · rename_i hat
      cases hstep
      exact h.tellCall hat details
    · cases hstep
  | fill i =>
    simp only [step] at hstep
    split at hstep
    · rename_i hat
      cases hstep
      exact h.fill hat rfl
    · cases hstep

theorem current_of_reach (hreach : Steps.Reach (step isTimestamp) Harmless (init tools) state) :
    Current state :=
  hreach.invariant (current_init tools) fun _ _ _ hbefore hharmless hstep ↦
    current_step hbefore hharmless hstep

/-- As long as no tool the dispatcher has been told of is removed or gets another call subject, calls
follow the registry. -/
theorem calls_follow_registry {tools : ToolTable}
    (hreach : Steps.Reach (step isTimestamp) Harmless (init tools) state) : FollowsRegistry state :=
  fun call hmem _ ↦ (current_of_reach hreach).follows call hmem

end Dispatching

def registration (pluginId callSubject : String) : ToolRegisterPayload where
  toolId := "run-code"
  pluginId := pluginId
  name := "Run code"
  summaryMd := ""
  manualMd := ""
  parameters := .object []
  callSubject := callSubject
  kind := defaultKind

/-- A call of the same tool. -/
def registeredCall : ToolCallRequest := ⟨"run-code", "", .object [], none⟩

/-- The tool is registered and called. -/
def firstCall : List DispatchStep :=
  [.register (registration "code-executor" "capability.call.code-executor") true, .hear,
    .call registeredCall, .lookUp 0, .tellCall 0 false "", .fill 0]

/-- The tool is taken over by another plugin and called again. -/
def secondCall : List DispatchStep :=
  [.register (registration "claude-code" "capability.call.claude-code") true, .hear,
    .call registeredCall, .lookUp 1]

namespace Dispatching

theorem calls_follow_registry_firstCall :
    ∃ state, (step fun _ ↦ true).execute (init .empty) firstCall = some state ∧
      state.calls.map DispatchedCall.stage = [.forwarded "capability.call.code-executor"] ∧
      FollowsRegistry state := by
  have hrun : ∃ state ∈ (step fun _ ↦ true).execute (init .empty) firstCall,
      state.calls.map DispatchedCall.stage = [.forwarded "capability.call.code-executor"] := by
    decide +kernel
  obtain ⟨state, hstate, hstage⟩ := hrun
  exact ⟨state, hstate, hstage,
    calls_follow_registry (Steps.reach_of_execute (by decide +kernel) hstate)⟩

/-- A tool that changes hands after a first call is still called where it was. -/
theorem exists_stale_call :
    ∃ state, Steps.Reach (step fun _ ↦ true) (fun _ _ ↦ True) (init .empty) state ∧
      ¬FollowsRegistry state := by
  have hrun : ∃ state ∈ (step fun _ ↦ true).execute (init .empty) (firstCall ++ secondCall),
      ¬FollowsRegistry state := by
    decide +kernel
  obtain ⟨state, hstate, hstale⟩ := hrun
  exact ⟨state, Steps.reach_of_execute (Steps.guarded_of_forall (fun _ _ ↦ trivial) _ _) hstate,
    hstale⟩

end Dispatching

end Seidrum.Plugins
