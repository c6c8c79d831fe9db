import Seidrum.Plugins.ContextLoader

/-!
# The scope of a request on its way to the brain

The brain enforces the scope that stands in the envelope of a query.  Queries are made for an inbound
message by the context loader, and for a request to a model by the tool calls of the model, which pass
from the provider through the dispatcher to the plugin that owns the tool.  None of them writes a scope
into the envelope it makes, so the scope of the request is followed only where there is none or where
nothing is asked.
-/

namespace Seidrum.Plugins

open EventBus (Value)
open Foundation Kernel

/-! ## Tool calls -/

structure ToolCallRequest where
  toolId : String
  pluginId : String
  arguments : Value
  correlationId : Option String

/-- The owner of a tool, as the dispatcher caches it. -/
structure ToolEntry where
  pluginId : String
  callSubject : String
  deriving DecidableEq, Repr

abbrev ToolCache := AList fun _ : String ↦ ToolEntry

def toolCallToDispatchRequest (toolCall : UnifiedToolCall) (correlationId : Option String) :
    ToolCallRequest where
  toolId := toolCall.name
  pluginId := ""
  arguments := toolCall.arguments
  correlationId := correlationId

/-- A capability call as it stands in its envelope. -/
structure CapabilityCall where
  source : String
  correlationId : Option String
  scope : Option String
  request : ToolCallRequest

/-- The call a provider sends for a tool call of its model. -/
def capabilityCall (source : String) (correlationId : Option String) (toolCall : UnifiedToolCall) :
    CapabilityCall where
  source := source
  correlationId := correlationId
  scope := none
  request := toolCallToDispatchRequest toolCall correlationId

inductive Dispatched
  | forward (callSubject : String) (request : ToolCallRequest)
  | reply (response : ToolCallResponse)

/-- Look up the owner of the tool, in the cache or at the kernel, and forward it the request alone. -/
def handleToolCall (cache : ToolCache) (describe : String → Except String ToolEntry)
    (call : CapabilityCall) : ToolCache × Dispatched :=
  let toolId := call.request.toolId
  match cache.lookup toolId with
  | some entry => (cache, .forward entry.callSubject call.request)
  | none =>
      match describe toolId with
      | .ok entry => (cache.insert toolId entry, .forward entry.callSubject call.request)
      | .error error =>
          (cache, .reply {
            toolId := toolId
            result := .object [("details", .string error),
              ("error", .string ("Unknown tool: " ++ toolId))]
            isError := true })

/-- The owner of a tool, from the cache or as the kernel describes it. -/
def findTool (cache : ToolCache) (describe : String → Except String ToolEntry) (toolId : String) :
    Option ToolEntry :=
  (cache.lookup toolId).or (describe toolId).toOption

variable {cache : ToolCache} {describe : String → Except String ToolEntry}

theorem handleToolCall_of_found (call : CapabilityCall) {entry : ToolEntry}
    (h : findTool cache describe call.request.toolId = some entry) :
    (handleToolCall cache describe call).2 = .forward entry.callSubject call.request := by
  unfold findTool at h
  unfold handleToolCall
  cases hcached : cache.lookup call.request.toolId with
  | some cached =>
    rw [hcached, Option.some_or] at h
    cases h
    simp only [hcached]
  | none =>
    rw [hcached, Option.none_or] at h
    cases hdescribed : describe call.request.toolId with
    | ok described =>
      rw [hdescribed] at h
      cases h
      simp only [hcached, hdescribed]
    | error error =>
      rw [hdescribed] at h
      cases h

theorem handleToolCall_of_missing (call : CapabilityCall)
    (h : findTool cache describe call.request.toolId = none) :
    ∃ response, (handleToolCall cache describe call).2 = .reply response := by
  obtain ⟨hcached, hmissing⟩ := Option.or_eq_none_iff.mp h
  unfold handleToolCall
  cases hdescribed : describe call.request.toolId with
  | ok described =>
    rw [hdescribed] at hmissing
    cases hmissing
  | error error =>
    simp only [hcached, hdescribed]
    exact ⟨_, rfl⟩

def consciousnessCalls : String := "capability.call.consciousness"

/-- The query the kernel's built-in tool makes. -/
def handleBuiltinCall (requestFromValue : Value → Option BrainQueryRequest)
    (request : ToolCallRequest) : Option BrainCall :=
  if request.toolId = "brain-query" then
    (requestFromValue request.arguments).map fun query ↦
      ⟨"consciousness", request.correlationId, none, query⟩
  else none

/-- The query a dispatched call makes, if it reaches the built-in tools. -/
def Dispatched.brainCall (requestFromValue : Value → Option BrainQueryRequest) :
    Dispatched → Option BrainCall
  | forward callSubject request =>
      if callSubject = consciousnessCalls then handleBuiltinCall requestFromValue request else none
  | reply _ => none

/-- A tool call of a model, and what the dispatcher knows when it handles it. -/
structure HandledCall where
  toolCall : UnifiedToolCall
  cache : ToolCache
  describe : String → Except String ToolEntry

namespace HandledCall

variable (requestFromValue : Value → Option BrainQueryRequest) (source : String)
  (correlationId : Option String) (call : HandledCall)

def brainCall : Option BrainCall :=
  (handleToolCall call.cache call.describe
    (capabilityCall source correlationId call.toolCall)).2.brainCall requestFromValue

/-- The call names the built-in tool for queries, the dispatcher finds that tool and the arguments are
a query. -/
def AsksBrain : Prop :=
  call.toolCall.name = "brain-query" ∧ (requestFromValue call.toolCall.arguments).isSome ∧
    ∃ entry ∈ findTool call.cache call.describe call.toolCall.name,
      entry.callSubject = consciousnessCalls

instance : Decidable (call.AsksBrain requestFromValue) :=
  inferInstanceAs (Decidable (_ ∧ _ ∧ ∃ entry ∈ findTool _ _ _, _))

theorem isSome_brainCall :
    (call.brainCall requestFromValue source correlationId).isSome ↔
      call.AsksBrain requestFromValue := by
  unfold brainCall AsksBrain
  cases hfound : findTool call.cache call.describe call.toolCall.name with
  | none =>
    obtain ⟨response, hreply⟩ := handleToolCall_of_missing
      (capabilityCall source correlationId call.toolCall) hfound
    simp [hreply, Dispatched.brainCall]
  | some entry =>
    rw [handleToolCall_of_found (capabilityCall source correlationId call.toolCall) hfound]
    simp only [Dispatched.brainCall, handleBuiltinCall, capabilityCall, toolCallToDispatchRequest]
    split_ifs with hsubject hname <;> simp [*]

/-- The query of a tool call has no scope. -/
theorem scope_brainCall {query : BrainCall}
    (h : call.brainCall requestFromValue source correlationId = some query) :
    query.scope = none := by
  unfold brainCall Dispatched.brainCall at h
  split at h
  · unfold handleBuiltinCall at h
    split_ifs at h
    obtain ⟨request, -, rfl⟩ := Option.map_eq_some_iff.mp h
    rfl
  · cases h

end HandledCall

/-- The queries made for a request by the tool calls of its model. -/
def toolBrainCalls (requestFromValue : Value → Option BrainQueryRequest) (source : String)
    (request : UnifiedLlmRequest) (calls : List HandledCall) : List BrainCall :=
  calls.filterMap (·.brainCall requestFromValue source request.correlationId)

section Scope

variable {κ : Type} [LinearOrder κ] (services : BrainServices κ) (db : Brain)

/-- Every query carries the scope, and no answer has an item that is a document hidden from it. -/
structure FollowsScope (scope : Option String) (queries : List BrainCall) : Prop where
  carried : ∀ query ∈ queries, query.scope = scope
  confined : ∀ primary ∈ scope, ∀ query ∈ queries, ∀ id,
    db.Hidden (services.allowedScopes db primary) id →
      ∀ item ∈ arrayItems (query.answer services db).results, item.get "_id" ≠ some (.string id)

/-- Queries without a scope follow one exactly if there is none to follow, or no query. -/
theorem followsScope_iff {scope : Option String} {queries : List BrainCall}
    (h : ∀ query ∈ queries, query.scope = none) :
    FollowsScope services db scope queries ↔ scope = none ∨ queries = [] := by
  constructor
  · intro hfollows
    cases queries with
    | nil => exact .inr rfl
    | cons query rest =>
      have hcarried := hfollows.carried query List.mem_cons_self
      rw [h query List.mem_cons_self] at hcarried
      exact .inl hcarried.symm
  · rintro (rfl | rfl)
    · exact ⟨h, fun _ hprimary ↦ absurd hprimary (Option.not_mem_none _)⟩
    · exact ⟨fun _ hmem ↦ absurd hmem List.not_mem_nil, fun _ _ _ hmem ↦ absurd hmem List.not_mem_nil⟩

/-- The loader's queries follow the scope of their event exactly if it has none, and those of a
request's tool calls follow its scope exactly if it has none or no call asks the brain. -/
theorem scope_followed_iff (config : LoaderConfig) (embedding : Option (List Value))
    (envelope : EventEnvelope) (inbound : InboundMessage)
    (requestFromValue : Value → Option BrainQueryRequest) (source : String)
    (request : UnifiedLlmRequest) (calls : List HandledCall) :
    (FollowsScope services db envelope.scope (inbound.brainCalls config embedding) ∧
      FollowsScope services db request.scope
        (toolBrainCalls requestFromValue source request calls)) ↔
      envelope.scope = none ∧
        (request.scope = none ∨ ∀ call ∈ calls, ¬call.AsksBrain requestFromValue) := by
  have hloader : ∀ query ∈ inbound.brainCalls config embedding, query.scope = none := by
    intro query hmem
    rcases List.mem_append.mp hmem with hvector | hrest
    · obtain ⟨found, -, rfl⟩ := Option.map_eq_some_iff.mp (Option.mem_toList.mp hvector)
      rfl
    · simp only [List.mem_cons, List.not_mem_nil, or_false] at hrest
      rcases hrest with rfl | rfl | rfl <;> rfl
  have htools : ∀ query ∈ toolBrainCalls requestFromValue source request calls,
      query.scope = none := by
    intro query hmem
    obtain ⟨call, -, hquery⟩ := List.mem_filterMap.mp hmem
    exact call.scope_brainCall requestFromValue source request.correlationId hquery
  have hnonempty : inbound.brainCalls config embedding ≠ [] :=
    List.append_ne_nil_of_right_ne_nil _ (List.cons_ne_nil _ _)
  have hasked : toolBrainCalls requestFromValue source request calls = [] ↔
      ∀ call ∈ calls, ¬call.AsksBrain requestFromValue := by
    rw [toolBrainCalls, List.filterMap_eq_nil_iff]
    refine forall₂_congr fun call _ ↦ ?_
    rw [← call.isSome_brainCall requestFromValue source request.correlationId,
      Option.not_isSome_iff_eq_none]
  rw [followsScope_iff services db hloader, followsScope_iff services db htools, hasked,
    or_iff_left hnonempty]

end Scope

/-- A message of another scope, and the edge that scopes it. -/
def payrollBrain : Brain :=
  ⟨[], [⟨"content", "msg_1", [("text", .string "salaries")]⟩],
    [scopingEdge "content/msg_1" "scopes/scope_payroll"]⟩

def supportEvent : EventEnvelope := { EventEnvelope.sample with scope := some "scope_support" }

/-- The loader of a message of one scope gets a document of another one. -/
theorem hidden_document_loaded :
    payrollBrain.Hidden (listingServices.allowedScopes payrollBrain "scope_support") "content/msg_1" ∧
      ¬FollowsScope listingServices payrollBrain supportEvent.scope
        (sampleInbound.brainCalls sampleLoader (some [])) := by
  have hhidden : payrollBrain.Hidden (listingServices.allowedScopes payrollBrain "scope_support")
      "content/msg_1" := by
    rw [BrainServices.allowedScopes, allowed_of_fetchScope (by decide +kernel)]
    decide +kernel
  refine ⟨hhidden, fun hfollows ↦ ?_⟩
  have hconfined := hfollows.confined "scope_support" rfl (brainQuery (vectorSearchRequest [] 10))
    List.mem_cons_self "content/msg_1" hhidden
  exact hconfined _ List.mem_cons_self rfl

end Seidrum.Plugins
