import Seidrum.Plugins.PromptAssembly
import Seidrum.Plugins.Routing

/-!
# Answers to an inbound message

The router answers every inbound message of a channel with the message alone for a prompt, and every
loaded context with the prompt assembled from it.  The context loader, which takes the same inbound
messages, publishes a context for each.
-/

namespace Seidrum.Plugins

open EventBus (Value)
open Foundation Kernel

def parameterSchema (properties : List (String × Value)) (required : List String) : Value :=
  .object [("properties", .object properties), ("required", .array (required.map .string)),
    ("type", .string "object")]

def parameter (type description : String) : Value :=
  .object [("description", .string description), ("type", .string type)]

/-- The tools that every request offers. -/
def metaTools : List ToolSchema :=
  [{ name := "brain-query"
     description := "Query your knowledge graph. Use AQL syntax to search entities, facts, content, " ++
       "and relationships stored in the brain."
     parameters := parameterSchema
       [("aql", parameter "string" "AQL query to execute against the brain"),
         ("description", parameter "string" "What you want to find")]
       ["description", "aql"] },
    { name := "task-create"
      description := "Create a new task to track an actionable item. The task will be stored in " ++
        "the brain and can be assigned to an agent."
      parameters := parameterSchema
        [("description", parameter "string" "Detailed description of what needs to be done"),
          ("due_date", parameter "string" "Due date in ISO 8601 format (optional)"),
          ("priority", .object [("description", .string "Task priority level"),
            ("enum", .array [.string "low", .string "normal", .string "high", .string "critical"]),
            ("type", .string "string")]),
          ("title", parameter "string" "Short title for the task")]
        ["title"] },
    { name := "web-search"
      description := "Search the web for current information. Use this when you need up-to-date " ++
        "data that may not be in the knowledge graph."
      parameters := parameterSchema
        [("max_results", parameter "integer" "Maximum number of results to return (default: 5)"),
          ("query", parameter "string" "The search query")]
        ["query"] }]

/-- The tools of the registry are added unless their names are taken. -/
def collectTools (registryTools : List ToolSchema) : List ToolSchema :=
  metaTools ++ registryTools.filter fun tool ↦ tool.name ∉ metaTools.map (·.name)

structure MessageHandlerConfig where
  maxTokens : ℕ
  maxContextTokens : ℕ
  maxDynamicTools : ℕ
  promptTemplate : String
  routingConfig : RoutingStrategy

structure RouterServices (Bytes : Type) extends PromptServices where
  contextFromValue : Value → Option AgentContextLoaded
  responseFromSlice : Bytes → Except String LlmResponse
  responseValue : LlmResponse → Value

/-- What a call of the handler gets from outside: the tools of the registry (none when the query
fails), the replies of the providers, and the identifier and time of the response. -/
structure HandlerAnswers (Bytes : Type) where
  queryToolRegistry : String → ℕ → List ToolSchema
  providerReply : Provider → UnifiedLlmRequest → ProviderReply Bytes
  id : String
  timestamp : String

/-- What a prompt is made of. -/
structure PreparedPrompt where
  systemPrompt : Option String
  messages : List UnifiedMessage
  agentId : String
  userText : String

def contextSubject : String := "agent.context.loaded"

def textMessage (role content : String) : UnifiedMessage := ⟨role, some content, none, none⟩

namespace RouterServices

variable {Bytes : Type} (services : RouterServices Bytes) (config : MessageHandlerConfig)

/-- The prompt for an event: the one assembled from a context, or an inbound message with a text. -/
def preparePrompt (subject : String) (envelope : EventEnvelope) : Option PreparedPrompt :=
  if subject = contextSubject then do
    let context ← services.contextFromValue envelope.payload
    let assembled ← services.assembleContext
      ⟨config.maxContextTokens, config.maxTokens, config.promptTemplate⟩ context
    return {
      systemPrompt := some assembled.systemPrompt
      messages := assembled.messages.map fun message ↦ textMessage message.role message.content
      agentId := context.originalEvent.scope.getD "default"
      userText := (textField context.originalEvent.payload "text").getD "" }
  else do
    let inbound ← services.inboundFromValue envelope.payload
    if inbound.text = "" then none
    else return {
      systemPrompt := none
      messages := [textMessage "user" inbound.text]
      agentId := envelope.scope.getD "default"
      userText := inbound.text }

def estimatedTokens (prompt : PreparedPrompt) : ℕ :=
  ((prompt.systemPrompt.map services.countTokens).getD 0) +
    (prompt.messages.map fun message ↦ services.countTokens (message.content.getD "") + 4).sum

def requestProfile (prompt : PreparedPrompt) (tools : List ToolSchema) (scope : Option String) :
    RequestProfile where
  toolCount := tools.length
  messageCount := prompt.messages.length
  estimatedTokens := services.estimatedTokens prompt
  scope := scope
  routingStrategy := "best-first"
  modelPreferences := []

def unifiedRequest (prompt : PreparedPrompt) (tools : List ToolSchema)
    (correlationId scope : Option String) : UnifiedLlmRequest where
  agentId := prompt.agentId
  messages := prompt.messages
  systemPrompt := prompt.systemPrompt
  tools := tools
  routingStrategy := "best-first"
  modelPreferences := []
  correlationId := correlationId
  scope := scope

/-- The response that is published for an event, if the event leads to a prompt. -/
def handleMessage (answers : HandlerAnswers Bytes) (subject : String) (envelope : EventEnvelope) :
    Option EventEnvelope :=
  (services.preparePrompt config subject envelope).map fun prompt ↦
    let correlationId := envelope.correlationId <|> some envelope.id
    let tools := collectTools (answers.queryToolRegistry prompt.userText config.maxDynamicTools)
    let request := unifiedRequest prompt tools correlationId envelope.scope
    let providers := getProvidersToTry (services.requestProfile prompt tools envelope.scope)
      config.routingConfig
    let attempts := tryProviders services.responseFromSlice
      (providers.map fun provider ↦ (provider, answers.providerReply provider request)) none
    { id := answers.id
      eventType := "llm.response"
      timestamp := answers.timestamp
      source := "llm-router"
      correlationId := correlationId
      scope := envelope.scope
      payload := services.responseValue (attempts.published prompt.agentId)
      origin := envelope.origin }

/-- An inbound message is answered directly: it can be read and has a text. -/
def AnsweredDirectly (envelope : EventEnvelope) : Prop :=
  ∃ inbound ∈ services.inboundFromValue envelope.payload, inbound.text ≠ ""

variable {services config}

theorem isSome_handleMessage {answers : HandlerAnswers Bytes} {subject : String}
    {envelope : EventEnvelope} (hsubject : subject ≠ contextSubject) :
    (services.handleMessage config answers subject envelope).isSome ↔
      services.AnsweredDirectly envelope := by
  rw [handleMessage, Option.isSome_map, preparePrompt, if_neg hsubject, AnsweredDirectly]
  cases services.inboundFromValue envelope.payload with
  | none => simp
  | some inbound => by_cases htext : inbound.text = "" <;> simp [htext]

end RouterServices

structure LoaderServices where
  inboundFromValue : Value → Option InboundMessage
  contextValue : AgentContextLoaded → Value

/-- What the loader gets from outside for a message. -/
structure LoaderAnswers where
  embedding : Option (List Value)
  ask : BrainCall → Option BrainQueryResponse
  skillSnippets : List Value
  id : String
  timestamp : String

/-- The context that is published for an inbound message, if it can be read. -/
def LoaderServices.handleInbound (services : LoaderServices) (config : LoaderConfig)
    (answers : LoaderAnswers) (envelope : EventEnvelope) : Option EventEnvelope :=
  (services.inboundFromValue envelope.payload).map fun inbound ↦
    { id := answers.id
      eventType := contextSubject
      timestamp := answers.timestamp
      source := "graph-context-loader"
      correlationId := envelope.correlationId
      scope := envelope.scope
      payload := services.contextValue
        (loadContext config answers.embedding answers.ask answers.skillSnippets envelope inbound)
      origin := none }

/-- A message published once, on the inbound subject of a platform. -/
structure InboundEvent where
  platform : String
  envelope : EventEnvelope

def InboundEvent.subject (event : InboundEvent) : String := "channel." ++ event.platform ++ ".inbound"

theorem InboundEvent.subject_ne (event : InboundEvent) : event.subject ≠ contextSubject := by
  intro h
  have hfirst := congrArg (fun subject : String ↦ subject.toList.head?) h
  simp [InboundEvent.subject, contextSubject] at hfirst

structure PipelineEnv (Bytes : Type) where
  loader : LoaderServices
  loaderConfig : LoaderConfig
  router : RouterServices Bytes
  routerConfig : MessageHandlerConfig

/-- The events published so far, the numbers of those the loader and the router have still to take,
the contexts the router has still to take, the events whose context was loaded, and the responses
published for an event itself and for its context. -/
structure Pipeline where
  published : ℕ
  toLoad : List ℕ
  toAnswer : List ℕ
  contexts : List (ℕ × EventEnvelope)
  loaded : List ℕ
  direct : List (ℕ × EventEnvelope)
  fromContext : List (ℕ × EventEnvelope)

inductive PipelineLabel (Bytes : Type)
  | publish
  /-- The loader handles a message; its publication may fail. -/
  | load (answers : LoaderAnswers) (delivered : Bool)
  | answerInbound (answers : HandlerAnswers Bytes) (delivered : Bool)
  | answerContext (answers : HandlerAnswers Bytes) (delivered : Bool)

namespace Pipeline

variable {Bytes : Type}

def start : Pipeline := ⟨0, [], [], [], [], [], []⟩

/-- What a handler publishes for a numbered event, unless its publication fails. -/
def outcome (delivered : Bool) (n : ℕ) (published : Option EventEnvelope) : List (ℕ × EventEnvelope) :=
  if delivered then (published.map (n, ·)).toList else []

def step (env : PipelineEnv Bytes) (events : List InboundEvent) : Steps Pipeline (PipelineLabel Bytes)
  | state, .publish =>
      if state.published < events.length then
        some { state with
          published := state.published + 1
          toLoad := state.toLoad ++ [state.published]
          toAnswer := state.toAnswer ++ [state.published] }
      else none
  | state, .load answers delivered =>
      match state.toLoad with
      | [] => none
      | n :: rest =>
          let contexts := outcome delivered n (events[n]?.bind fun event ↦
            env.loader.handleInbound env.loaderConfig answers event.envelope)
          some { state with
            toLoad := rest
            contexts := state.contexts ++ contexts
            loaded := state.loaded ++ contexts.map (·.1) }
  | state, .answerInbound answers delivered =>
      match state.toAnswer with
      | [] => none
      | n :: rest =>
          some { state with
            toAnswer := rest
            direct := state.direct ++ outcome delivered n (events[n]?.bind fun event ↦
              env.router.handleMessage env.routerConfig answers event.subject event.envelope) }
  | state, .answerContext answers delivered =>
      match state.contexts with
      | [] => none
      | (n, envelope) :: rest =>
          some { state with
            contexts := rest
            fromContext := state.fromContext ++ outcome delivered n
              (env.router.handleMessage env.routerConfig answers contextSubject envelope) }

/-- The responses published for an event. -/
def responsesTo (state : Pipeline) (n : ℕ) : List EventEnvelope :=
  ((state.direct ++ state.fromContext).filter (·.1 = n)).map (·.2)

/-- No event has two responses, and one whose context was loaded has none but that of its context. -/
structure AnsweredOnce (state : Pipeline) : Prop where
  single : ∀ n, (state.responsesTo n).length ≤ 1
  fromContext : ∀ n ∈ state.loaded, n ∉ state.direct.map (·.1)

/-- Both the loader and the router take an event: each can read it, and it has a text. -/
def TakenTwice (env : PipelineEnv Bytes) (event : InboundEvent) : Prop :=
  (env.loader.inboundFromValue event.envelope.payload).isSome ∧
    env.router.AnsweredDirectly event.envelope

/-! ## What is handled once -/

/-- An event in the hands of the loader or answered from its context. -/
def contextCount (state : Pipeline) (n : ℕ) : ℕ :=
  state.toLoad.count n + (state.contexts.map (·.1)).count n + (state.fromContext.map (·.1)).count n

def directCount (state : Pipeline) (n : ℕ) : ℕ :=
  state.toAnswer.count n + (state.direct.map (·.1)).count n

/-- Every published event is handled at most once on each of the two ways, the direct responses are
to events the router answers directly, and the others to events whose context was loaded. -/
structure Ledger (env : PipelineEnv Bytes) (events : List InboundEvent) (state : Pipeline) : Prop where
  contextOnce : ∀ n, state.contextCount n ≤ if n < state.published then 1 else 0
  directOnce : ∀ n, state.directCount n ≤ if n < state.published then 1 else 0
  direct : ∀ n ∈ state.direct.map (·.1), ∃ event ∈ events[n]?,
    env.router.AnsweredDirectly event.envelope
  loaded : ∀ n ∈ state.loaded, ∃ event ∈ events[n]?,
    (env.loader.inboundFromValue event.envelope.payload).isSome
  contexts : ∀ n ∈ state.contexts.map (·.1), n ∈ state.loaded
  fromContext : ∀ n ∈ state.fromContext.map (·.1), n ∈ state.loaded

theorem count_outcome_le (delivered : Bool) (n m : ℕ) (published : Option EventEnvelope) :
    ((outcome delivered n published).map (·.1)).count m ≤ [n].count m := by
  unfold outcome
  split_ifs
  · cases published <;> simp
  · simp

variable {n : ℕ} {rest : List ℕ} {count : ℕ}

theorem mem_outcome {delivered : Bool} {m : ℕ} {published : Option EventEnvelope}
    (h : m ∈ (outcome delivered n published).map (·.1)) : m = n ∧ published.isSome := by
  unfold outcome at h
  split_ifs at h
  · cases published with
    | none => cases h
    | some envelope => exact ⟨by simpa using h, rfl⟩
  · cases h

variable {env : PipelineEnv Bytes} {events : List InboundEvent} {state next : Pipeline}

theorem ledger_start : Ledger env events start where
  contextOnce _ := Nat.zero_le _
  directOnce _ := Nat.zero_le _
  direct _ h := absurd h List.not_mem_nil
  loaded _ h := absurd h List.not_mem_nil
  contexts _ h := absurd h List.not_mem_nil
  fromContext _ h := absurd h List.not_mem_nil

theorem Ledger.publish (h : Ledger env events state) : Ledger env events { state with
    published := state.published + 1
    toLoad := state.toLoad ++ [state.published]
    toAnswer := state.toAnswer ++ [state.published] } where
  contextOnce n := by
    have hbefore := h.contextOnce n
    simp only [contextCount, List.count_append, List.count_singleton, beq_iff_eq] at hbefore ⊢
    split_ifs at hbefore ⊢ <;> omega
  directOnce n := by
    have hbefore := h.directOnce n
    simp only [directCount, List.count_append, List.count_singleton, beq_iff_eq] at hbefore ⊢
    split_ifs at hbefore ⊢ <;> omega
  direct := h.direct
  loaded := h.loaded
  contexts := h.contexts
  fromContext := h.fromContext

theorem Ledger.load (h : Ledger env events state) (hqueue : state.toLoad = n :: rest)
    (answers : LoaderAnswers) (delivered : Bool) :
    let contexts := outcome delivered n (events[n]?.bind fun event ↦
      env.loader.handleInbound env.loaderConfig answers event.envelope)
    Ledger env events { state with
      toLoad := rest
      contexts := state.contexts ++ contexts
      loaded := state.loaded ++ contexts.map (·.1) } := by
  intro contexts
  refine { h with contextOnce := ?_, loaded := ?_, contexts := ?_, fromContext := ?_ }
  · intro m
    have hbefore := h.contextOnce m
    have houtcome : (contexts.map (·.1)).count m ≤ [n].count m := count_outcome_le _ _ _ _
    simp only [contextCount, hqueue, List.map_append, List.count_append, List.count_cons,
      List.count_nil] at hbefore houtcome ⊢
    omega
  · intro m hm
    rcases List.mem_append.mp hm with hold | hnew
    · exact h.loaded m hold
    · obtain ⟨rfl, hpublished⟩ := mem_outcome hnew
      obtain ⟨context, hcontext⟩ := Option.isSome_iff_exists.mp hpublished
      obtain ⟨event, hevent, hhandled⟩ := Option.bind_eq_some_iff.mp hcontext
      refine ⟨event, hevent, ?_⟩
      rw [← Option.isSome_map, ← LoaderServices.handleInbound, hhandled]
      rfl
  · intro m hm
    rw [List.map_append] at hm
    rcases List.mem_append.mp hm with hold | hnew
    · exact List.mem_append_left _ (h.contexts m hold)
    · exact List.mem_append_right _ hnew
  · exact fun m hm ↦ List.mem_append_left _ (h.fromContext m hm)

theorem Ledger.answerInbound (h : Ledger env events state) (hqueue : state.toAnswer = n :: rest)
    (answers : HandlerAnswers Bytes) (delivered : Bool) :
    Ledger env events { state with
      toAnswer := rest
      direct := state.direct ++ outcome delivered n (events[n]?.bind fun event ↦
        env.router.handleMessage env.routerConfig answers event.subject event.envelope) } := by
  refine { h with directOnce := ?_, direct := ?_ }
  · intro m
    have hbefore := h.directOnce m
    have houtcome := count_outcome_le delivered n m (events[n]?.bind fun event ↦
      env.router.handleMessage env.routerConfig answers event.subject event.envelope)
    simp only [directCount, hqueue, List.map_append, List.count_append, List.count_cons,
      List.count_nil] at hbefore houtcome ⊢
    omega
  · intro m hm
    rw [List.map_append] at hm
    rcases List.mem_append.mp hm with hold | hnew
    · exact h.direct m hold
    · obtain ⟨rfl, hpublished⟩ := mem_outcome hnew
      obtain ⟨response, hresponse⟩ := Option.isSome_iff_exists.mp hpublished
      obtain ⟨event, hevent, hhandled⟩ := Option.bind_eq_some_iff.mp hresponse
      have hanswered : (env.router.handleMessage env.routerConfig answers event.subject
          event.envelope).isSome := Option.isSome_of_eq_some hhandled
      exact ⟨event, hevent, (RouterServices.isSome_handleMessage event.subject_ne).mp hanswered⟩

theorem Ledger.answerContext (h : Ledger env events state) {envelope : EventEnvelope}
    {rest : List (ℕ × EventEnvelope)} (hqueue : state.contexts = (n, envelope) :: rest)
    (answers : HandlerAnswers Bytes) (delivered : Bool) :
    Ledger env events { state with
      contexts := rest
      fromContext := state.fromContext ++ outcome delivered n
        (env.router.handleMessage env.routerConfig answers contextSubject envelope) } := by
  refine { h with contextOnce := ?_, contexts := ?_, fromContext := ?_ }
  · intro m
    have hbefore := h.contextOnce m
    have houtcome := count_outcome_le delivered n m
      (env.router.handleMessage env.routerConfig answers contextSubject envelope)
    simp only [contextCount, hqueue, List.map_append, List.map_cons, List.count_append,
      List.count_cons, List.count_nil] at hbefore houtcome ⊢
    omega
  · intro m hm
    refine h.contexts m ?_
    rw [hqueue, List.map_cons]
    exact List.mem_cons_of_mem _ hm
  · intro m hm
    rw [List.map_append] at hm
    rcases List.mem_append.mp hm with hold | hnew
    · exact h.fromContext m hold
    · obtain ⟨rfl, -⟩ := mem_outcome hnew
      refine h.contexts m ?_
      rw [hqueue, List.map_cons]
      exact List.mem_cons_self

theorem Ledger.step {label : PipelineLabel Bytes} (h : Ledger env events state)
    (hstep : step env events state label = some next) : Ledger env events next := by
  cases label with
  | publish =>
    simp only [Pipeline.step] at hstep
    split_ifs at hstep
    cases hstep
    exact h.publish
  | load answers delivered =>
    simp only [Pipeline.step] at hstep
    split at hstep
    · cases hstep
    · next n rest hqueue =>
      cases hstep
      exact h.load hqueue answers delivered
  | answerInbound answers delivered =>
    simp only [Pipeline.step] at hstep
    split at hstep
    · cases hstep
    · next n rest hqueue =>
      cases hstep
      exact h.answerInbound hqueue answers delivered
  | answerContext answers delivered =>
    simp only [Pipeline.step] at hstep
    split at hstep
    · cases hstep
    · next n envelope rest hqueue =>
      cases hstep
      exact h.answerContext hqueue answers delivered

theorem ledger_of_reach
    (hreach : Steps.Reach (Pipeline.step env events) (fun _ _ ↦ True) start state) :
    Ledger env events state :=
  hreach.invariant ledger_start fun _ _ _ h _ hstep ↦ h.step hstep

theorem length_responsesTo (n : ℕ) : (state.responsesTo n).length =
    (state.direct.map (·.1)).count n + (state.fromContext.map (·.1)).count n := by
  rw [responsesTo, List.length_map, List.filter_append, List.length_append, List.count_eq_countP,
    List.count_eq_countP, List.countP_map, List.countP_map, List.countP_eq_length_filter,
    List.countP_eq_length_filter]
  rfl

theorem Ledger.answeredOnce (h : Ledger env events state)
    (hevents : ∀ event ∈ events, ¬TakenTwice env event) : AnsweredOnce state := by
  have hloaded : ∀ n ∈ state.loaded, n ∉ state.direct.map (·.1) := by
    intro n hn hdirect
    obtain ⟨event, hevent, hread⟩ := h.loaded n hn
    obtain ⟨event', hevent', hanswered⟩ := h.direct n hdirect
    obtain rfl := Option.some.inj (hevent.symm.trans hevent')
    exact hevents event (List.mem_of_getElem? hevent) ⟨hread, hanswered⟩
  refine ⟨fun n ↦ ?_, hloaded⟩
  have hcontext := h.contextOnce n
  have hdirect := h.directOnce n
  rw [contextCount] at hcontext
  rw [directCount] at hdirect
  rw [length_responsesTo]
  by_cases hmem : n ∈ state.fromContext.map (·.1)
  · have hnone := List.count_eq_zero.mpr (hloaded n (h.fromContext n hmem))
    split_ifs at hcontext <;> omega
  · have hnone := List.count_eq_zero.mpr hmem
    split_ifs at hdirect <;> omega

/-- Nothing is answered from outside. -/
def silentLoader : LoaderAnswers := ⟨none, fun _ ↦ none, [], "context", "2025-01-01T00:00:01Z"⟩

def silentProviders : HandlerAnswers Bytes :=
  ⟨fun _ _ ↦ [], fun _ _ ↦ .timedOut, "response", "2025-01-01T00:00:02Z"⟩

/-- The first events were published and both the loader and the router have taken them. -/
structure Taken (env : PipelineEnv Bytes) (events : List InboundEvent) (count : ℕ)
    (state : Pipeline) : Prop where
  published : state.published = count
  toLoad : state.toLoad = []
  toAnswer : state.toAnswer = []
  loaded : ∀ n < count, ∀ event ∈ events[n]?,
    (env.loader.inboundFromValue event.envelope.payload).isSome → n ∈ state.loaded
  direct : ∀ n < count, ∀ event ∈ events[n]?,
    env.router.AnsweredDirectly event.envelope → n ∈ state.direct.map (·.1)

theorem Taken.succ (h : Taken env events count state) (hcount : count < events.length) :
    ∃ next, Steps.Reach (Pipeline.step env events) (fun _ _ ↦ True) state next ∧
      Taken env events (count + 1) next := by
  have hpublish : Pipeline.step env events state .publish = some { state with
      published := count + 1
      toLoad := [count]
      toAnswer := [count] } := by
    rw [Pipeline.step, h.published, if_pos hcount, h.toLoad, h.toAnswer]
    rfl
  have hpublished : Steps.Reach (Pipeline.step env events) (fun _ _ ↦ True) state _ :=
    .next .init trivial hpublish
  have hloaded := hpublished.next trivial
    (show Pipeline.step env events _ (.load silentLoader true) = some _ from rfl)
  have hanswered := hloaded.next trivial
    (show Pipeline.step env events _ (.answerInbound silentProviders true) = some _ from rfl)
  refine ⟨_, hanswered, rfl, rfl, rfl, ?_, ?_⟩
  · intro n hn event hevent hread
    rcases Nat.lt_succ_iff_lt_or_eq.mp hn with hold | rfl
    · exact List.mem_append_left _ (h.loaded n hold event hevent hread)
    · refine List.mem_append_right _ ?_
      obtain ⟨inbound, hinbound⟩ := Option.isSome_iff_exists.mp hread
      rw [Option.mem_def.mp hevent, Option.bind_some, LoaderServices.handleInbound, hinbound]
      exact List.mem_singleton_self n
  · intro n hn event hevent hdirect
    rw [List.map_append]
    rcases Nat.lt_succ_iff_lt_or_eq.mp hn with hold | rfl
    · exact List.mem_append_left _ (h.direct n hold event hevent hdirect)
    · refine List.mem_append_right _ ?_
      have hsome : (env.router.handleMessage env.routerConfig silentProviders event.subject
          event.envelope).isSome :=
        (RouterServices.isSome_handleMessage event.subject_ne).mpr hdirect
      obtain ⟨response, hresponse⟩ := Option.isSome_iff_exists.mp hsome
      rw [Option.mem_def.mp hevent, Option.bind_some, hresponse]
      exact List.mem_singleton_self n

theorem exists_taken (hcount : count ≤ events.length) :
    ∃ state, Steps.Reach (Pipeline.step env events) (fun _ _ ↦ True) start state ∧
      Taken env events count state := by
  induction count with
  | zero =>
    exact ⟨start, .init, rfl, rfl, rfl, fun n hn ↦ absurd hn (Nat.not_lt_zero n),
      fun n hn ↦ absurd hn (Nat.not_lt_zero n)⟩
  | succ count ih =>
    obtain ⟨state, hreach, htaken⟩ := ih (by omega)
    obtain ⟨next, hnext, hafter⟩ := htaken.succ (by omega)
    exact ⟨next, hreach.trans hnext, hafter⟩

/-- Every message is answered once in every run exactly if the loader and the router never take the
same one. -/
theorem answeredOnce_iff (env : PipelineEnv Bytes) (events : List InboundEvent) :
    (∀ state, Steps.Reach (Pipeline.step env events) (fun _ _ ↦ True) start state →
      AnsweredOnce state) ↔ ∀ event ∈ events, ¬TakenTwice env event := by
  constructor
  · intro hruns event hevent htwice
    obtain ⟨state, hreach, htaken⟩ := exists_taken le_rfl
    obtain ⟨n, hn⟩ := List.mem_iff_getElem?.mp hevent
    have hlt : n < events.length := (List.getElem?_eq_some_iff.mp hn).1
    exact (hruns state hreach).fromContext n (htaken.loaded n hlt event hn htwice.1)
      (htaken.direct n hlt event hn htwice.2)
  · intro hevents state hreach
    exact (ledger_of_reach hreach).answeredOnce hevents

def optionValue (text : Option String) : Value := (text.map Value.string).getD .null

def envelopeValue (envelope : EventEnvelope) : Value :=
  .object [("correlation_id", optionValue envelope.correlationId),
    ("event_type", .string envelope.eventType), ("id", .string envelope.id),
    ("payload", envelope.payload), ("scope", optionValue envelope.scope),
    ("source", .string envelope.source), ("timestamp", .string envelope.timestamp)]

def envelopeFromValue (value : Value) : Option EventEnvelope := do
  let id ← textField value "id"
  let eventType ← textField value "event_type"
  let timestamp ← textField value "timestamp"
  let source ← textField value "source"
  let payload ← value.get "payload"
  return ⟨id, eventType, timestamp, source, textField value "correlation_id", textField value "scope",
    payload, none⟩

def contextValue (context : AgentContextLoaded) : Value :=
  .object [("active_tasks", .array context.activeTasks),
    ("conversation_history", .array context.conversationHistory),
    ("entities", .array context.entities), ("facts", .array context.facts),
    ("original_event", envelopeValue context.originalEvent),
    ("similar_content", .array context.similarContent),
    ("skill_snippets", .array context.skillSnippets)]

def contextFromValue (value : Value) : Option AgentContextLoaded := do
  let originalEvent ← (value.get "original_event").bind envelopeFromValue
  return {
    originalEvent := originalEvent
    entities := arrayField value "entities"
    facts := arrayField value "facts"
    similarContent := arrayField value "similar_content"
    activeTasks := arrayField value "active_tasks"
    conversationHistory := arrayField value "conversation_history"
    skillSnippets := arrayField value "skill_snippets" }

def sampleEnv : PipelineEnv LlmResponse where
  loader :=
    { inboundFromValue := fun value ↦ (plainPrompt.inboundFromValue value).map (·.toInboundMessage)
      contextValue := contextValue }
  loaderConfig := sampleLoader
  router :=
    { plainPrompt with
      contextFromValue := contextFromValue
      responseFromSlice := .ok
      responseValue := fun response ↦ .object [("content", optionValue response.content)] }
  routerConfig := ⟨100, 1000, 5, "Be brief.", .fixed .google⟩

/-- A message with the text "hello" has a response of its own and one for its context. -/
theorem answered_twice :
    ∃ state, Steps.Reach (Pipeline.step sampleEnv [⟨"telegram", inboundEnvelope⟩]) (fun _ _ ↦ True)
        start state ∧
      (state.responsesTo 0).length = 2 ∧ ¬AnsweredOnce state := by
  have hrun : ∃ state ∈ Steps.execute (Pipeline.step sampleEnv [⟨"telegram", inboundEnvelope⟩]) start
      [.publish, .answerInbound silentProviders true, .load silentLoader true,
        .answerContext silentProviders true], (state.responsesTo 0).length = 2 := by
    decide +kernel
  obtain ⟨state, hstate, htwo⟩ := hrun
  refine ⟨state, Steps.reach_of_execute (Steps.guarded_of_forall (fun _ _ ↦ trivial) _ _) hstate,
    htwo, fun honce ↦ ?_⟩
  have hsingle := honce.single 0
  omega

end Pipeline

end Seidrum.Plugins
