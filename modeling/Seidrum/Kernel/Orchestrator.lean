import Mathlib.Data.List.AList
import Seidrum.Kernel.Events

/-!
# Trigger events of workflows

A workflow names the subject of its trigger event and the agents that take part.  For every subject
that some workflow names, one task receives the events, and forwards each of them once for every
workflow of the subject.  An event that comes without a scope gets one on the way; all the copies of
an event are made from one envelope that the task changes as it goes.
-/

namespace Seidrum.Kernel

open EventBus (Value)

structure EventEnvelope where
  id : String
  eventType : String
  timestamp : String
  source : String
  correlationId : Option String
  scope : Option String
  payload : Value
  origin : Option EventOrigin

/-- What is read of an inbound message of a channel. -/
structure ChannelInbound where
  platform : String
  chatId : String
  metadata : AList fun _ : String ↦ String

/-- How trigger events and their payloads are read. -/
structure TriggerCodec (Bytes : Type) where
  fromSlice : Bytes → Option EventEnvelope
  inboundFromValue : Value → Option ChannelInbound

/-- Events kept as they are, none of them an inbound message. -/
def TriggerCodec.structural : TriggerCodec EventEnvelope where
  fromSlice := some
  inboundFromValue _ := none

variable {Bytes : Type}

/-- The origin is read from the payload of an inbound message if the event has none. -/
def EventEnvelope.injectOrigin (codec : TriggerCodec Bytes) (envelope : EventEnvelope) : EventEnvelope :=
  match envelope.origin, codec.inboundFromValue envelope.payload with
  | none, some inbound =>
      { envelope with
        origin := some {
          platform := inbound.platform
          chatId := inbound.chatId
          threadId := inbound.metadata.lookup "thread_id"
          messageId := inbound.metadata.lookup "message_id" } }
  | _, _ => envelope

@[simp]
theorem EventEnvelope.scope_injectOrigin (codec : TriggerCodec Bytes) (envelope : EventEnvelope) :
    (envelope.injectOrigin codec).scope = envelope.scope := by
  unfold injectOrigin
  split <;> rfl

/-- What is kept of an event's origin for the routing of responses. -/
def EventEnvelope.originEntry (envelope : EventEnvelope) : Option (String × EventOrigin) :=
  envelope.origin.map fun origin ↦ (envelope.correlationId.getD envelope.id, origin)

structure AgentDefinition where
  id : String
  scope : String
  deriving DecidableEq, Repr

/-- An agent of a workflow, by reference or in line. -/
structure WorkflowAgentRef where
  refId : Option String
  scope : Option String

structure WorkflowConfig where
  id : String
  agents : List (String × WorkflowAgentRef)
  on : String

abbrev AgentDefinitions := AList fun _ : String ↦ AgentDefinition

def WorkflowAgentRef.resolve (agents : AgentDefinitions) (name : String) (agentRef : WorkflowAgentRef) :
    Option AgentDefinition :=
  match agentRef.refId with
  | some refId => agents.lookup refId
  | none => some { id := name, scope := agentRef.scope.getD "scope_root" }

def WorkflowConfig.resolve (agents : AgentDefinitions) (config : WorkflowConfig) :
    List (String × AgentDefinition) :=
  config.agents.filterMap fun entry ↦ (entry.2.resolve agents entry.1).map (Prod.mk entry.1)

/-- A workflow with its resolved agents, in the order in which the map of them is iterated. -/
structure LoadedWorkflow (agents : AgentDefinitions) where
  config : WorkflowConfig
  resolvedAgents : List (String × AgentDefinition)
  resolved : resolvedAgents.Perm (config.resolve agents)

structure TriggerContext where
  workflowId : String
  scope : String
  deriving DecidableEq, Repr

variable {agents : AgentDefinitions}

/-- The scope of the first resolved agent, if there is one. -/
def LoadedWorkflow.declaredScope (workflow : LoadedWorkflow agents) : Option String :=
  workflow.resolvedAgents.head?.map fun entry ↦ entry.2.scope

def LoadedWorkflow.scope (workflow : LoadedWorkflow agents) : String :=
  workflow.declaredScope.getD "scope_root"

def LoadedWorkflow.context (workflow : LoadedWorkflow agents) : TriggerContext where
  workflowId := workflow.config.id
  scope := workflow.scope

/-- The contexts of the workflows of each trigger subject. -/
abbrev TriggerInfos := AList fun _ : String ↦ List TriggerContext

def TriggerInfos.push (infos : TriggerInfos) (subject : String) (ctx : TriggerContext) : TriggerInfos :=
  infos.insert subject ((infos.lookup subject).getD [] ++ [ctx])

def triggerInfos (workflows : List (LoadedWorkflow agents)) : TriggerInfos :=
  workflows.foldl (fun infos workflow ↦ infos.push workflow.config.on workflow.context) ∅

/-- The workflows whose trigger is a subject, in the order of loading. -/
def triggeredBy (workflows : List (LoadedWorkflow agents)) (subject : String) :
    List (LoadedWorkflow agents) :=
  workflows.filter fun workflow ↦ workflow.config.on = subject

theorem lookup_foldl_push (workflows : List (LoadedWorkflow agents)) (infos : TriggerInfos)
    (subject : String) :
    ((workflows.foldl (fun infos workflow ↦ infos.push workflow.config.on workflow.context)
        infos).lookup subject).getD [] =
      (infos.lookup subject).getD [] ++ (triggeredBy workflows subject).map (·.context) := by
  induction workflows generalizing infos with
  | nil => simp [triggeredBy]
  | cons workflow rest ih =>
    rw [List.foldl_cons, ih, triggeredBy, triggeredBy]
    by_cases h : workflow.config.on = subject
    · rw [List.filter_cons_of_pos (by simpa using h), h, TriggerInfos.push, AList.lookup_insert,
        Option.getD_some, List.append_assoc, List.singleton_append, List.map_cons]
    · rw [List.filter_cons_of_neg (by simpa using h), TriggerInfos.push,
        AList.lookup_insert_ne (Ne.symm h)]

theorem lookup_triggerInfos (workflows : List (LoadedWorkflow agents)) (subject : String) :
    ((triggerInfos workflows).lookup subject).getD [] =
      (triggeredBy workflows subject).map (·.context) := by
  rw [triggerInfos, lookup_foldl_push]
  simp

/-- A copy of an event published for a workflow. -/
structure Forwarded where
  workflowId : String
  subject : String
  envelope : EventEnvelope

def TriggerContext.forwarded (ctx : TriggerContext) (envelope : EventEnvelope) : Forwarded where
  workflowId := ctx.workflowId
  subject := "agent." ++ ctx.workflowId ++ ".pipeline." ++ envelope.eventType
  envelope := envelope

def TriggerContext.injectScope (ctx : TriggerContext) (envelope : EventEnvelope) : EventEnvelope :=
  match envelope.scope with
  | none => { envelope with scope := some ctx.scope }
  | some _ => envelope

/-- The loop over the contexts; the envelope keeps what earlier rounds have set in it. -/
def forwardAll : EventEnvelope → List TriggerContext → List Forwarded
  | _, [] => []
  | envelope, ctx :: rest =>
      let envelope := ctx.injectScope envelope
      ctx.forwarded envelope :: forwardAll envelope rest

/-- The origin to keep and the copies published for one message of a trigger subject. -/
def handleTrigger (codec : TriggerCodec Bytes) (contexts : List TriggerContext) (payload : Bytes) :
    Option (String × EventOrigin) × List Forwarded :=
  match codec.fromSlice payload with
  | none => (none, [])
  | some envelope =>
      let envelope := envelope.injectOrigin codec
      (envelope.originEntry, forwardAll envelope contexts)

/-- What the subscription to a trigger subject does with a message. -/
def triggered (codec : TriggerCodec Bytes) (workflows : List (LoadedWorkflow agents))
    (subject : String) (payload : Bytes) : Option (String × EventOrigin) × List Forwarded :=
  handleTrigger codec (((triggerInfos workflows).lookup subject).getD []) payload

/-- The copy a workflow would get of an event if it alone were triggered. -/
def LoadedWorkflow.ownCopy (codec : TriggerCodec Bytes) (workflow : LoadedWorkflow agents)
    (envelope : EventEnvelope) : Forwarded :=
  workflow.context.forwarded { envelope.injectOrigin codec with scope := some workflow.scope }

variable {envelope : EventEnvelope}

theorem forwardAll_of_scope {scope : String} (h : envelope.scope = some scope)
    (contexts : List TriggerContext) :
    forwardAll envelope contexts = contexts.map fun ctx ↦ ctx.forwarded envelope := by
  induction contexts with
  | nil => rfl
  | cons ctx rest ih =>
    have hkept : ctx.injectScope envelope = envelope := by simp [TriggerContext.injectScope, h]
    rw [forwardAll, hkept, ih, List.map_cons]

theorem forwardAll_cons (h : envelope.scope = none) (ctx : TriggerContext) (rest : List TriggerContext) :
    forwardAll envelope (ctx :: rest) =
      (ctx :: rest).map fun ctx' ↦ ctx'.forwarded { envelope with scope := some ctx.scope } := by
  have hset : ctx.injectScope envelope = { envelope with scope := some ctx.scope } := by
    simp [TriggerContext.injectScope, h]
  rw [forwardAll, hset, List.map_cons]
  congr 1
  exact forwardAll_of_scope rfl rest

theorem triggered_eq {codec : TriggerCodec Bytes} {workflows : List (LoadedWorkflow agents)}
    {subject : String} {payload : Bytes} {first : LoadedWorkflow agents} {rest : List (LoadedWorkflow agents)}
    (hparse : codec.fromSlice payload = some envelope) (hscope : envelope.scope = none)
    (htriggered : triggeredBy workflows subject = first :: rest) :
    (triggered codec workflows subject payload).2 = (first :: rest).map fun workflow ↦
      workflow.context.forwarded { envelope.injectOrigin codec with scope := some first.scope } := by
  have hcopies := forwardAll_cons ((envelope.scope_injectOrigin codec).trans hscope) first.context
    (rest.map (·.context))
  rw [triggered, handleTrigger, hparse, lookup_triggerInfos, htriggered]
  simp only
  rw [List.map_cons, hcopies, ← List.map_cons, List.map_map]
  rfl

/-- One copy for each workflow of the subject, in order; that of a workflow whose scope is that of the
first one is its own, whatever the others are. -/
theorem triggered_own {codec : TriggerCodec Bytes} {workflows : List (LoadedWorkflow agents)}
    {subject : String} {payload : Bytes} {envelope : EventEnvelope}
    (hparse : codec.fromSlice payload = some envelope) (hscope : envelope.scope = none) :
    List.Forall₂ (fun workflow copy ↦
        (∀ first ∈ (triggeredBy workflows subject).head?, first.scope = workflow.scope) →
          copy = workflow.ownCopy codec envelope)
      (triggeredBy workflows subject) (triggered codec workflows subject payload).2 := by
  cases htriggered : triggeredBy workflows subject with
  | nil =>
    rw [triggered, handleTrigger, hparse, lookup_triggerInfos, htriggered]
    exact .nil
  | cons first rest =>
    rw [triggered_eq hparse hscope htriggered, List.forall₂_map_right_iff, List.forall₂_same]
    intro workflow _ hfirst
    have hsame : first.scope = workflow.scope := hfirst first rfl
    rw [LoadedWorkflow.ownCopy, hsame]

/-- A workflow of one inline agent, or of none. -/
def LoadedWorkflow.sample (id : String) (scope : Option String) : LoadedWorkflow ∅ where
  config := ⟨id, scope.toList.map fun scope ↦ ("helper", ⟨none, some scope⟩), "channel.inbound"⟩
  resolvedAgents := scope.toList.map fun scope ↦ ("helper", ⟨"helper", scope⟩)
  resolved := by cases scope <;> exact .refl _

def EventEnvelope.sample : EventEnvelope :=
  ⟨"1", "channel.inbound", "2025-01-01T00:00:00Z", "telegram", none, none, .null, none⟩

theorem triggered_own_pair :
    List.Forall₂ (fun workflow copy ↦
        (∀ first ∈ (triggeredBy [.sample "notes" (some "home"), .sample "diary" (some "home")]
            "channel.inbound").head?, first.scope = workflow.scope) →
          copy = workflow.ownCopy .structural .sample)
      (triggeredBy [.sample "notes" (some "home"), .sample "diary" (some "home")]
        "channel.inbound")
      (triggered .structural [.sample "notes" (some "home"), .sample "diary" (some "home")]
        "channel.inbound" .sample).2 :=
  triggered_own rfl rfl

/-- A workflow without agents declares no scope, and its copy carries one. -/
theorem bare_workflow_scoped :
    ¬List.Forall₂ (fun workflow copy ↦ copy.envelope.scope = workflow.declaredScope)
      (triggeredBy [.sample "bare" none] "channel.inbound")
      (triggered .structural [.sample "bare" none] "channel.inbound" .sample).2 := by
  intro hscopes
  have hcopy : [(LoadedWorkflow.sample "bare" none).ownCopy .structural .sample] =
      (triggered .structural [.sample "bare" none] "channel.inbound" .sample).2 := rfl
  rw [← hcopy] at hscopes
  obtain ⟨hscope, -⟩ := List.forall₂_cons.mp hscopes
  exact absurd hscope (by decide)

end Seidrum.Kernel
