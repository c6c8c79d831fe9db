import Mathlib.Data.List.Chain
import Seidrum.Foundation.Positions
import Seidrum.Foundation.Transition
import Seidrum.Kernel.Events

/-!
# Delegated tasks

An agent delegates a task by a tool call made while it processes an event of its consciousness
stream; the task becomes an event of another agent's stream.  The event carries the depth of the
delegation next to the context the caller passed, and the next call is refused by the depth found in
the context it passes itself.
-/

namespace Seidrum.Kernel

open EventBus (Value)
open Foundation

/-! ## The tool -/

structure DelegateTaskRequest where
  toAgentId : String
  message : String
  context : Option Value

structure ConversationCreateRequest where
  platform : String
  participants : List String
  agentId : String
  scope : String
  metadata : List (String × String)
  userId : Option String
  deriving DecidableEq, Repr

/-- The fields of a conversation message a delegation fills in. -/
structure ConversationMessage where
  role : String
  content : Option String
  timestamp : ℕ
  deriving DecidableEq, Repr

structure ConversationAppendRequest where
  conversationId : String
  message : ConversationMessage
  deriving DecidableEq, Repr

/-- What a capability handler sends over the bus. -/
inductive Sent
  | create (request : ConversationCreateRequest)
  | append (request : ConversationAppendRequest)
  | publish (subject : String) (event : ConsciousnessEvent)

/-- The answer to a create request. -/
inductive CreateAnswer
  | created (conversationId : String)
  | failed (error : String)
  | timeout

/-- The greatest depth of a delegation. -/
def maxDelegationDepth : ℕ := 5

/-- The depth of the event being processed, as the caller's arguments give it. -/
def DelegateTaskRequest.depth (args : DelegateTaskRequest) : ℕ :=
  ((args.context.bind fun context ↦ context.get "delegation_depth").bind Value.asU64).getD 0

def delegateConversation (fromAgentId : String) (args : DelegateTaskRequest) :
    ConversationCreateRequest where
  platform := "agent"
  participants := ["agent:" ++ fromAgentId, "agent:" ++ args.toAgentId]
  agentId := args.toAgentId
  scope := "scope_root"
  metadata := [("from_agent", fromAgentId), ("to_agent", args.toAgentId)]
  userId := none

def delegateEvent (fromAgentId : String) (args : DelegateTaskRequest) (conversationId : String) :
    ConsciousnessEvent where
  agentId := args.toAgentId
  eventType := "agent_message"
  sourceSubject := none
  conversationId := some conversationId
  payload := .object
    [("context", args.context.getD .null), ("delegation_depth", .ofNat (args.depth + 1)),
      ("from_agent", .string fromAgentId), ("message", .string args.message)]
  origin := none

/-- Create an agent-to-agent conversation.  The answer to the message's append and to the event's
publish are not looked at. -/
def handleDelegateTask (fromAgentId : String) (args : DelegateTaskRequest) (answer : CreateAnswer)
    (now : ℕ) : ToolCallResponse × List Sent :=
  if maxDelegationDepth ≤ args.depth then
    (.error "delegate-task" "Maximum delegation depth (5) reached", [])
  else
    let create := .create (delegateConversation fromAgentId args)
    match answer with
    | .failed error =>
        (.error "delegate-task" ("Failed to create conversation: " ++ error), [create])
    | .timeout => (.error "delegate-task" "Timeout creating conversation", [create])
    | .created conversationId =>
        ({ toolId := "delegate-task",
           result := .object
             [("conversation_id", .string conversationId), ("delegated_to", .string args.toAgentId)],
           isError := false },
          [create,
            .append { conversationId := conversationId,
                      message := { role := "user", content := some args.message, timestamp := now } },
            .publish (consciousnessSubject args.toAgentId)
              (delegateEvent fromAgentId args conversationId)])

/-- The arguments of a call, as they are read from JSON; a missing text is empty and a null context
is none. -/
def DelegateTaskRequest.fromValue : Value → Option DelegateTaskRequest
  | .object fields => do
      let toAgentId ← text ((Value.object fields).get "to_agent_id")
      let message ← text ((Value.object fields).get "message")
      some ⟨toAgentId, message, context ((Value.object fields).get "context")⟩
  | .array [.string toAgentId, .string message, passed] =>
      some ⟨toAgentId, message, context (some passed)⟩
  | _ => none
where
  text : Option Value → Option String
    | none => some ""
    | some value => value.asStr
  context : Option Value → Option Value
    | some .null => none
    | passed => passed

/-- The `delegate-task` arm of the built-in calls; a call that cannot be read names the reader's
error. -/
def builtinDelegateTask (invalid : Value → String) (agentId : String) (arguments : Value)
    (answer : CreateAnswer) (now : ℕ) : ToolCallResponse × List Sent :=
  match DelegateTaskRequest.fromValue arguments with
  | none => (.error "delegate-task" ("Invalid arguments: " ++ invalid arguments), [])
  | some args => handleDelegateTask agentId args answer now

/-- The event of a delegation that was not refused. -/
def Sent.delegated : Sent → Option ConsciousnessEvent
  | .publish _ event => some event
  | _ => none

/-- A call publishes an event exactly when its response is not an error, and the event is one deeper
than what the arguments say, which is below the limit. -/
theorem builtinDelegateTask_cases (invalid : Value → String) (agentId : String) (arguments : Value)
    (answer : CreateAnswer) (now : ℕ) :
    ((builtinDelegateTask invalid agentId arguments answer now).1.isError = true ∧
      (builtinDelegateTask invalid agentId arguments answer now).2.findSome? Sent.delegated = none) ∨
    ∃ args conversationId, DelegateTaskRequest.fromValue arguments = some args ∧
      args.depth < maxDelegationDepth ∧
      (builtinDelegateTask invalid agentId arguments answer now).1.isError = false ∧
      (builtinDelegateTask invalid agentId arguments answer now).2.findSome? Sent.delegated =
        some (delegateEvent agentId args conversationId) := by
  cases hread : DelegateTaskRequest.fromValue arguments with
  | none =>
    left
    simp [builtinDelegateTask, hread, ToolCallResponse.error]
  | some args =>
    simp only [builtinDelegateTask, hread, handleDelegateTask]
    by_cases hdepth : maxDelegationDepth ≤ args.depth
    · left
      simp [hdepth, ToolCallResponse.error]
    · cases answer with
      | failed error | timeout =>
        left
        rw [if_neg hdepth]
        exact ⟨rfl, rfl⟩
      | created conversationId =>
        right
        rw [if_neg hdepth]
        exact ⟨args, conversationId, rfl, Nat.not_le.mp hdepth, rfl, rfl⟩

/-- An event of a consciousness stream.  A delegated one names the event whose processing delegated
it; an event whose publish failed reaches no agent. -/
structure StreamEvent where
  event : ConsciousnessEvent
  cause : Option ℕ
  delivered : Bool

/-- The depth an event carries. -/
def ConsciousnessEvent.depth (event : ConsciousnessEvent) : ℕ :=
  ((event.payload.get "delegation_depth").bind Value.asU64).getD 0

theorem depth_delegateEvent {args : DelegateTaskRequest} (h : args.depth < maxDelegationDepth)
    (fromAgentId conversationId : String) :
    (delegateEvent fromAgentId args conversationId).depth = args.depth + 1 := by
  have hsmall : args.depth + 1 < 2 ^ 64 := by
    rw [maxDelegationDepth] at h
    omega
  have hfield : (delegateEvent fromAgentId args conversationId).payload.get "delegation_depth" =
      some (.ofNat (args.depth + 1)) := by
    simp [delegateEvent, Value.get]
  rw [ConsciousnessEvent.depth, hfield, Option.bind_some, Value.asU64_ofNat hsmall,
    Option.getD_some]

/-- Any other event arrives, or a call is made while an event is processed. -/
inductive DelegationLabel
  | arrive (event : ConsciousnessEvent)
  | call (processed : ℕ) (agentId : String) (arguments : Value) (answer : CreateAnswer) (now : ℕ)
      (delivered : Bool)

variable (invalid : Value → String)

def delegationStep : Steps (List StreamEvent) DelegationLabel
  | streams, .arrive event => some (streams ++ [⟨event, none, true⟩])
  | streams, .call processed agentId arguments answer now delivered =>
      if streams[processed]?.any StreamEvent.delivered then
        match (builtinDelegateTask invalid agentId arguments answer now).2.findSome?
            Sent.delegated with
        | some event => some (streams ++ [⟨event, some processed, delivered⟩])
        | none => some streams
      else none

/-- Accepted delegations, each made while the event of the one before was processed. -/
def IsDelegationChain (streams : List StreamEvent) (chain : List ℕ) : Prop :=
  (∀ call ∈ chain, ∃ entry ∈ streams[call]?, entry.cause.isSome) ∧
    chain.IsChain fun earlier later ↦ ∃ entry ∈ streams[later]?, entry.cause = some earlier

/-- The caller passes on the depth of the delegated event it processes. -/
def PassesDepth (streams : List StreamEvent) : DelegationLabel → Prop
  | .arrive _ => True
  | .call processed _ arguments _ _ _ => ∀ entry ∈ streams[processed]?, entry.cause.isSome →
      ∀ args ∈ DelegateTaskRequest.fromValue arguments, entry.event.depth ≤ args.depth

instance : DecidableRel PassesDepth := fun streams label ↦ by
  cases label <;> unfold PassesDepth <;> infer_instance

instance (streams : List StreamEvent) (chain : List ℕ) :
    Decidable (IsDelegationChain streams chain) :=
  inferInstanceAs (Decidable (_ ∧ _))

variable {streams : List StreamEvent} {entry : StreamEvent}

/-- Everything a step does to the streams. -/
theorem delegationStep_cases {next : List StreamEvent} {label : DelegationLabel}
    (hstep : delegationStep invalid streams label = some next) :
    next = streams ∨
    (∃ event, label = .arrive event ∧ next = streams ++ [⟨event, none, true⟩]) ∨
    ∃ processed agentId arguments answer now delivered args conversationId parent,
      label = .call processed agentId arguments answer now delivered ∧
      DelegateTaskRequest.fromValue arguments = some args ∧ args.depth < maxDelegationDepth ∧
      streams[processed]? = some parent ∧
      next = streams ++ [⟨delegateEvent agentId args conversationId, some processed, delivered⟩] := by
  cases label with
  | arrive event => exact .inr (.inl ⟨event, rfl, (Option.some.inj hstep).symm⟩)
  | call processed agentId arguments answer now delivered =>
    rw [delegationStep] at hstep
    split at hstep
    · rename_i hprocessed
      obtain ⟨parent, hparent, -⟩ := (Option.any_eq_true _ _).mp hprocessed
      rcases builtinDelegateTask_cases invalid agentId arguments answer now with
        ⟨-, hnone⟩ | ⟨args, conversationId, hread, hdepth, -, hsome⟩
      · rw [hnone] at hstep
        exact .inl (Option.some.inj hstep).symm
      · rw [hsome] at hstep
        exact .inr (.inr ⟨processed, agentId, arguments, answer, now, delivered, args,
          conversationId, parent, rfl, hread, hdepth, hparent, (Option.some.inj hstep).symm⟩)
    · cases hstep

/-- A delegated event lies at most at the limit, and deeper than the delegated event it comes
from. -/
structure Deepens (streams : List StreamEvent) (entry : StreamEvent) : Prop where
  within : entry.cause.isSome → entry.event.depth ≤ maxDelegationDepth
  below : ∀ processed ∈ entry.cause, ∃ parent, streams[processed]? = some parent ∧
    (parent.cause.isSome → parent.event.depth < entry.event.depth)
  positive : entry.cause.isSome → 0 < entry.event.depth

theorem Deepens.concat (h : Deepens streams entry) (added : StreamEvent) :
    Deepens (streams ++ [added]) entry where
  within := h.within
  positive := h.positive
  below processed hcause := by
    obtain ⟨parent, hparent, hbelow⟩ := h.below processed hcause
    exact ⟨parent, at_concat hparent added, hbelow⟩

/-- Where every caller passes the depth on, every event deepens the one it comes from. -/
theorem deepens_of_reach (hreach : Steps.Reach (delegationStep invalid) PassesDepth [] streams) :
    ∀ entry ∈ streams, Deepens streams entry := by
  induction hreach with
  | init => exact fun entry hentry ↦ absurd hentry List.not_mem_nil
  | @next streams next label _ hguard hstep ih =>
    rcases delegationStep_cases invalid hstep with
      rfl | ⟨event, rfl, rfl⟩ |
      ⟨processed, agentId, arguments, answer, now, delivered, args, conversationId, parent, rfl,
        hread, hdepth, hparent, rfl⟩
    · exact ih
    · intro entry hentry
      obtain hold | rfl := mem_of_concat hentry
      · exact (ih entry hold).concat _
      · exact { within := by simp, below := by simp, positive := by simp }
    · intro entry hentry
      obtain hold | rfl := mem_of_concat hentry
      · exact (ih entry hold).concat _
      · have hdeep := depth_delegateEvent hdepth agentId conversationId
        refine { within := fun _ ↦ ?_, below := ?_, positive := fun _ ↦ ?_ }
        · rw [hdeep]
          exact hdepth
        · intro index hindex
          cases hindex
          refine ⟨parent, at_concat hparent _, fun hdelegated ↦ ?_⟩
          have hpassed := hguard parent hparent hdelegated args hread
          rw [hdeep]
          exact Nat.lt_succ_of_le hpassed
        · rw [hdeep]
          exact Nat.succ_pos args.depth

/-- A chain is no longer than the depths left above its first call. -/
theorem length_le_of_deepens (hdeep : ∀ entry ∈ streams, Deepens streams entry) {first : ℕ} {rest : List ℕ}
    (hchain : IsDelegationChain streams (first :: rest)) (hentry : streams[first]? = some entry) :
    entry.event.depth + rest.length ≤ maxDelegationDepth := by
  induction rest generalizing first entry with
  | nil =>
    obtain ⟨found, hfound, hcause⟩ := hchain.1 first List.mem_cons_self
    obtain rfl := Option.some.inj (hentry.symm.trans hfound)
    exact (hdeep entry (List.mem_of_getElem? hentry)).within hcause
  | cons second rest ih =>
    obtain ⟨hlink, hrest⟩ := List.isChain_cons_cons.mp hchain.2
    obtain ⟨later, hlater, hcause⟩ := hlink
    obtain ⟨found, hfound, hdelegated⟩ := hchain.1 first List.mem_cons_self
    obtain rfl := Option.some.inj (hentry.symm.trans hfound)
    have hbound := ih ⟨fun call hcall ↦ hchain.1 call (List.mem_cons_of_mem _ hcall), hrest⟩ hlater
    obtain ⟨parent, hparent, hbelow⟩ :=
      (hdeep later (List.mem_of_getElem? hlater)).below first hcause
    obtain rfl := Option.some.inj (hentry.symm.trans hparent)
    have hless := hbelow hdelegated
    rw [List.length_cons]
    omega

/-- Where every caller passes on the depth of the event it processes, at most five delegations
follow one another. -/
theorem delegation_chain_le {streams : List StreamEvent}
    (hreach : Steps.Reach (delegationStep invalid) PassesDepth [] streams) {chain : List ℕ}
    (hchain : IsDelegationChain streams chain) : chain.length ≤ maxDelegationDepth := by
  have hdeep := deepens_of_reach invalid hreach
  cases chain with
  | nil => exact Nat.zero_le _
  | cons first rest =>
    obtain ⟨entry, hentry, hcause⟩ := hchain.1 first List.mem_cons_self
    have hbound := length_le_of_deepens hdeep hchain hentry
    have hpositive := (hdeep entry (List.mem_of_getElem? hentry)).positive hcause
    rw [List.length_cons]
    omega

/-- The arguments of a call that delegates to `toAgentId`. -/
def delegateArguments (toAgentId : String) (context : Value) : Value :=
  .object [("context", context), ("message", .string "look into it"),
    ("to_agent_id", .string toAgentId)]

/-- A user's event, and one call for each context, each made while the event of the call before it
is processed. -/
def delegations (contexts : List Value) : List DelegationLabel :=
  .arrive ⟨"ada", "user_message", none, none, .object [("text", .string "hello")], none⟩ ::
    contexts.mapIdx fun processed context ↦
      .call processed "ada" (delegateArguments "ada" context) (.created "conversation") 0 true

/-- Two calls that pass the depth on. -/
theorem delegation_chain_le_two :
    ∃ streams ∈ Steps.execute (delegationStep fun _ ↦ "") []
      (delegations [.null, .object [("delegation_depth", .ofNat 1)]]),
      IsDelegationChain streams [1, 2] ∧ [1, 2].length ≤ maxDelegationDepth := by
  have hrun : ∃ streams ∈ Steps.execute (delegationStep fun _ ↦ "") []
      (delegations [.null, .object [("delegation_depth", .ofNat 1)]]),
      IsDelegationChain streams [1, 2] := by
    decide +kernel
  obtain ⟨streams, hstreams, hchain⟩ := hrun
  have hguard : Steps.Guarded (delegationStep fun _ ↦ "") PassesDepth []
      (delegations [.null, .object [("delegation_depth", .ofNat 1)]]) := by
    decide +kernel
  have hreach := Steps.reach_of_execute hguard hstreams
  exact ⟨streams, hstreams, hchain, delegation_chain_le _ hreach hchain⟩

/-- An agent that passes no context delegates past the limit. -/
theorem delegation_chain_of_six :
    ∃ streams, Steps.Reach (delegationStep fun _ ↦ "") (fun _ _ ↦ True) [] streams ∧
      IsDelegationChain streams [1, 2, 3, 4, 5, 6] ∧
      ¬[1, 2, 3, 4, 5, 6].length ≤ maxDelegationDepth := by
  have hrun : ∃ streams ∈ Steps.execute (delegationStep fun _ ↦ "") []
      (delegations (List.replicate 6 .null)),
      IsDelegationChain streams [1, 2, 3, 4, 5, 6] := by
    decide +kernel
  obtain ⟨streams, hstreams, hchain⟩ := hrun
  have hreach := Steps.reach_of_execute
    (Steps.guarded_of_forall (fun _ _ ↦ trivial) _ _) hstreams
  exact ⟨streams, hreach, hchain, by decide⟩

end Seidrum.Kernel
