import Seidrum.Client.Matching
import Seidrum.Kernel.Events

/-!
# Runtime subscriptions of agents

An agent subscribes to subject patterns while it runs.  Patterns that begin with the name of an
internal subject are refused; the events of the others are forwarded to the agent's consciousness
stream.  The check compares strings, and delivery reads the wildcards.
-/

namespace Seidrum.Kernel

open EventBus Client Foundation

/-! ## The denied subjects -/

def deniedPrefixes : List String :=
  ["brain.", "capability.", "registry.", "storage.", "plugin.", "llm.", "system.", "agent."]

/-- A subject or pattern that begins with a denied prefix. -/
def isDenied (subject : String) : Bool :=
  deniedPrefixes.any fun denied ↦ decide (denied.toList <+: subject.toList)

/-- The first tokens of the denied subjects. -/
def deniedWords : List String :=
  ["brain", "capability", "registry", "storage", "plugin", "llm", "system", "agent"]

variable {subject pattern : String}

theorem tokens_of_dotted {word rest : List Char} (hword : '.' ∉ word)
    (h : subject.toList = word ++ '.' :: rest) :
    tokens subject = String.ofList word :: (splitDot rest).map String.ofList := by
  rw [tokens, h, splitDot_append, splitDot_of_no_dot hword, List.singleton_append, List.map_cons]

/-- A string begins with a word and a dot exactly when the word is its first token, but not its
last. -/
theorem dotted_prefix_iff {word : String} (hword : '.' ∉ word.toList) (subject : String) :
    (word.toList ++ ['.']) <+: subject.toList ↔
      ∃ next rest, tokens subject = word :: next :: rest := by
  constructor
  · rintro ⟨rest, hrest⟩
    rw [List.append_assoc, List.singleton_append] at hrest
    obtain ⟨part, parts, hparts⟩ := List.exists_cons_of_ne_nil (splitDot_ne_nil rest)
    refine ⟨String.ofList part, parts.map String.ofList, ?_⟩
    rw [tokens_of_dotted hword hrest.symm, hparts, List.map_cons, String.ofList_toList]
  · rintro ⟨next, rest, htokens⟩
    obtain ⟨part, tail, hsplit, hpart, htail⟩ := List.map_eq_cons_iff.mp htokens
    obtain ⟨second, more, rfl, -, -⟩ := List.map_eq_cons_iff.mp htail
    have hjoin := joinDot_splitDot subject.toList
    rw [hsplit, joinDot] at hjoin
    · refine ⟨joinDot (second :: more), ?_⟩
      rw [← hjoin, ← hpart, String.toList_ofList, List.append_assoc, List.singleton_append]
    · simp

theorem isDenied_iff :
    isDenied subject = true ↔
      ∃ word ∈ deniedWords, ∃ next rest, tokens subject = word :: next :: rest := by
  have hsplit : deniedPrefixes.map String.toList = deniedWords.map fun word ↦ word.toList ++ ['.'] :=
    by decide
  have hplain : ∀ word ∈ deniedWords, '.' ∉ word.toList := by decide
  calc isDenied subject = true
      ↔ ∃ chars ∈ deniedPrefixes.map String.toList, chars <+: subject.toList := by
        simp [isDenied]
    _ ↔ ∃ word ∈ deniedWords, (word.toList ++ ['.']) <+: subject.toList := by
        rw [hsplit]
        simp
    _ ↔ ∃ word ∈ deniedWords, ∃ next rest, tokens subject = word :: next :: rest := by
        refine exists_congr fun word ↦ and_congr_right fun hword ↦ ?_
        exact dotted_prefix_iff (hplain word hword) subject

/-- A pattern that reaches under the denied first tokens by a wildcard. -/
def CoversDenied (pattern : String) : Prop :=
  pattern = ">" ∨ "*.".toList <+: pattern.toList

instance : DecidablePred CoversDenied := fun pattern ↦
  inferInstanceAs (Decidable (pattern = ">" ∨ "*.".toList <+: pattern.toList))

theorem coversDenied_iff :
    CoversDenied pattern ↔
      tokens pattern = [">"] ∨ ∃ next rest, tokens pattern = "*" :: next :: rest := by
  have hstar : "*.".toList = "*".toList ++ ['.'] := by decide
  unfold CoversDenied
  rw [hstar, dotted_prefix_iff (by decide)]
  refine or_congr_left ⟨?_, fun htokens ↦ ?_⟩
  · rintro rfl
    decide
  · have hsame : tokens pattern = tokens ">" := by
      rw [htokens]
      decide
    exact tokens_injective hsame

theorem patternMatches_self {pattern : List String} (h : FinalRest pattern) :
    patternMatches pattern pattern = true := by
  induction pattern with
  | nil => rfl
  | cons token rest ih =>
    by_cases htoken : token = ">"
    · subst htoken
      rw [h.eq_nil]
      decide
    · simp [patternMatches, ih h.tail]

/-- A pattern that passes the check matches a denied subject exactly when its wildcard does. -/
theorem coversDenied_iff_matches (hallowed : isDenied pattern = false) (hvalid : FinalRest (tokens pattern)) :
    CoversDenied pattern ↔ ∃ subject, isDenied subject = true ∧
      patternMatches (tokens pattern) (tokens subject) = true := by
  constructor
  · rintro (rfl | ⟨rest, hrest⟩)
    · exact ⟨"brain.fact", by decide, by decide⟩
    · have hstar : '.' ∉ ['*'] := by decide
      have hpattern : tokens pattern = "*" :: (splitDot rest).map String.ofList :=
        tokens_of_dotted hstar hrest.symm
      have hsubject : tokens (String.ofList ("brain".toList ++ '.' :: rest)) =
          "brain" :: (splitDot rest).map String.ofList :=
        tokens_of_dotted (by decide) String.toList_ofList
      obtain ⟨part, parts, hparts⟩ := List.exists_cons_of_ne_nil (splitDot_ne_nil rest)
      refine ⟨String.ofList ("brain".toList ++ '.' :: rest), ?_, ?_⟩
      · refine isDenied_iff.mpr ⟨"brain", by decide, String.ofList part, parts.map String.ofList, ?_⟩
        rw [hsubject, hparts, List.map_cons]
      · rw [hpattern] at hvalid ⊢
        rw [hsubject]
        simpa [patternMatches] using patternMatches_self hvalid.tail
  · rw [coversDenied_iff]
    rintro ⟨subject, hdenied, hmatches⟩
    obtain ⟨word, hword, next, rest, hsubject⟩ := isDenied_iff.mp hdenied
    rw [hsubject] at hmatches
    cases hpattern : tokens pattern with
    | nil => exact absurd hpattern (tokens_ne_nil pattern)
    | cons token tail =>
      rw [hpattern] at hmatches hvalid
      by_cases hrest : token = ">"
      · subst hrest
        exact .inl (by rw [hvalid.eq_nil])
      · have hboth : (token = "*" ∨ token = word) ∧ patternMatches tail (next :: rest) = true := by
          simpa [patternMatches, hrest] using hmatches
        cases tail with
        | nil => simp [patternMatches] at hboth
        | cons second more =>
          obtain rfl | rfl := hboth.1
          · exact .inr ⟨second, more, rfl⟩
          · have hdeniedPattern := isDenied_iff.mpr ⟨token, hword, second, more, hpattern⟩
            simp [hallowed] at hdeniedPattern

structure SubscribeEventsRequest where
  subjects : List String
  durationSeconds : Option ℕ

/-- Where the task of a runtime subscription stands.  A task that ends, or is aborted, drops the
subscription it has. -/
inductive RuntimeStage
  | starting
  | listening (k : ℕ)
  | forwarding (k : ℕ) (message : WsMessage)
  | ending (k : Option ℕ)

/-- A runtime subscription of an agent and its task; times are in seconds. -/
structure RuntimeSubscription where
  agentId : String
  pattern : String
  expiry : Option ℕ
  stage : RuntimeStage
  /-- It is in the agent's table. -/
  listed : Bool

/-- The position of the subscription a task listens to. -/
def RuntimeStage.subscription : RuntimeStage → Option ℕ
  | .starting => none
  | .listening k => some k
  | .forwarding k _ => some k
  | .ending k => k

def maxRuntimeSubscriptions : ℕ := 20

def subscribeEventsTool : String := "subscribe-events"

/-- The answer to a call, and the tasks spawned for it. -/
def handleSubscribeEvents (rfc3339 : ℕ → String) (agentId : String) (args : SubscribeEventsRequest)
    (now : ℕ) (runtimeSubs : List RuntimeSubscription) :
    ToolCallResponse × List RuntimeSubscription :=
  match args.subjects.find? isDenied with
  | some subject =>
      (.error subscribeEventsTool ("Cannot subscribe to internal subject: " ++ subject), [])
  | none =>
      let currentCount := runtimeSubs.countP fun sub ↦ sub.listed ∧ sub.agentId = agentId
      if maxRuntimeSubscriptions < currentCount + args.subjects.length then
        (.error subscribeEventsTool "Maximum 20 runtime subscriptions per agent", [])
      else
        let expiry := args.durationSeconds.map (now + ·)
        ({ toolId := subscribeEventsTool,
           result := .object
             [("count", .ofNat args.subjects.length),
               ("expires_at", (expiry.map fun time ↦ Value.string (rfc3339 time)).getD .null),
               ("subscribed", .array (args.subjects.map .string))],
           isError := false },
          args.subjects.map fun pattern ↦
            { agentId, pattern, expiry, stage := .starting, listed := true })

/-- Abort the tasks of an agent's listed patterns and take them out of its table. -/
def unsubscribeEvents (agentId : String) (subjects : List String) (sub : RuntimeSubscription) :
    RuntimeSubscription :=
  if sub.listed ∧ sub.agentId = agentId ∧ sub.pattern ∈ subjects then
    { sub with listed := false, stage := .ending sub.stage.subscription }
  else sub

/-- The event a message becomes; a payload that is not JSON becomes null. -/
def subscribedEvent (json : SerdeJson) (agentId : String) (message : WsMessage) :
    ConsciousnessEvent where
  agentId := agentId
  eventType := "subscribed_event"
  sourceSubject := some message.subject
  conversationId := none
  payload := (json.fromSlice message.payload).getD .null
  origin := none

/-! ## The running subscriptions -/

/-- The bus, the runtime subscriptions of all agents, and what was forwarded to whom. -/
structure Runtime where
  bus : InProcess
  subs : List RuntimeSubscription
  forwarded : List ConsciousnessEvent

inductive RuntimeLabel
  | subscribeEvents (agentId : String) (args : SubscribeEventsRequest) (now : ℕ)
  | unsubscribeEvents (agentId : String) (subjects : List String)
  /-- a task subscribes to its pattern, under a fresh id -/
  | start (t : ℕ) (id : String)
  /-- a task takes a message that arrived before its expiry -/
  | take (t : ℕ) (now : ℕ)
  /-- a task finds that it has expired, or that its subscription is closed -/
  | stop (t : ℕ) (now : ℕ)
  | forward (t : ℕ) (storeError : Option StorageError)
  /-- the subscription of a task that ended is dropped -/
  | release (t : ℕ)
  | bus (label : InProcessLabel)

/-- The position of the subscription that a step of the clients is about. -/
def clientMove : InProcessLabel → Option ℕ
  | .next k | .drop k => some k
  | _ => none

namespace Runtime

def setSub (t : ℕ) (sub : RuntimeSubscription) (state : Runtime) : Runtime :=
  { state with subs := state.subs.set t sub }

/-- The environment of the handlers: the bus's configuration, and how times and events are
written. -/
structure Env where
  config : Config
  rfc3339 : ℕ → String
  toVec : ConsciousnessEvent → Payload

def step (env : Env) : Steps Runtime RuntimeLabel
  | state, .subscribeEvents agentId args now =>
      some { state with
        subs := state.subs ++ (handleSubscribeEvents env.rfc3339 agentId args now state.subs).2 }
  | state, .unsubscribeEvents agentId subjects =>
      some { state with subs := state.subs.map (Kernel.unsubscribeEvents agentId subjects) }
  | state, .start t id =>
      state.subs[t]?.bind fun sub ↦
        match sub.stage with
        | .starting =>
            (InProcess.step env.config state.bus (.subscribe id sub.pattern)).map fun bus ↦
              -- a refused subscription ends the task
              let stage := if bus.subscriptions.length = state.bus.subscriptions.length
                then .ending none else .listening state.bus.subscriptions.length
              { state.setSub t { sub with stage } with bus }
        | _ => none
  | state, .take t now =>
      state.subs[t]?.bind fun sub ↦
        match sub.stage with
        | .listening k =>
            if sub.expiry.any (· < now) then none
            else (state.bus.subscriptions[k]?.bind (·.queue.head?)).bind fun message ↦
              (InProcess.step env.config state.bus (.next k)).map fun bus ↦
                { state.setSub t { sub with stage := .forwarding k message } with bus }
        | _ => none
  | state, .stop t now =>
      state.subs[t]?.bind fun sub ↦
        match sub.stage with
        | .listening k =>
            if sub.expiry.any (· < now) ∨ (∃ bridged ∈ state.bus.subscriptions[k]?,
                bridged.bridge = .finished ∧ bridged.queue = []) then
              some (state.setSub t { sub with stage := .ending (some k) })
            else none
        | _ => none
  | state, .forward t storeError =>
      state.subs[t]?.bind fun sub ↦
        match sub.stage with
        | .forwarding k message =>
            let event := subscribedEvent env.config.json sub.agentId message
            (InProcess.step env.config state.bus (.core (.publish none
                (consciousnessSubject sub.agentId) (env.toVec event) none storeError))).map fun bus ↦
              { bus
                subs := state.subs.set t { sub with stage := .listening k }
                forwarded := state.forwarded ++ [event] }
        | _ => none
  | state, .release t =>
      state.subs[t]?.bind fun sub ↦
        match sub.stage with
        | .ending (some k) =>
            (InProcess.step env.config state.bus (.drop k)).map fun bus ↦
              { state.setSub t { sub with stage := .ending none } with bus }
        | _ => none
  | state, .bus label =>
      if ∃ sub ∈ state.subs, ∃ k ∈ sub.stage.subscription, clientMove label = some k then none
      else (InProcess.step env.config state.bus label).map fun bus ↦ { state with bus }

def start (clock : ℕ) : Runtime := ⟨.start .empty clock, [], []⟩

/-- The call names no denied pattern and stays within the cap. -/
def Accepts (agentId : String) (subjects : List String) (state : Runtime) : Prop :=
  (∀ subject ∈ subjects, isDenied subject = false) ∧
    (state.subs.countP fun sub ↦ sub.listed ∧ sub.agentId = agentId) + subjects.length ≤
      maxRuntimeSubscriptions

instance (agentId : String) (subjects : List String) (state : Runtime) :
    Decidable (Accepts agentId subjects state) := inferInstanceAs (Decidable (_ ∧ _))

/-- No accepted pattern that the bus can subscribe to reaches the denied subjects by a wildcard, and
compaction spares the events in use. -/
def NamesNoDenied (state : Runtime) : RuntimeLabel → Prop
  | .subscribeEvents agentId args _ => Accepts agentId args.subjects state →
      ∀ pattern ∈ args.subjects, InProcess.Subscribable pattern → ¬ CoversDenied pattern
  | .bus label => InProcess.Spares state.bus label
  | _ => True

instance : DecidableRel NamesNoDenied := fun state label ↦ by
  cases label <;> unfold NamesNoDenied <;> infer_instance

variable {env : Env} {state next : Runtime} {label : RuntimeLabel}

/-- A task was spawned for an allowed pattern, and handles messages that its pattern matches. -/
structure Allowed (bus : InProcess) (sub : RuntimeSubscription) : Prop where
  named : isDenied sub.pattern = false
  uncovered : InProcess.Subscribable sub.pattern → ¬ CoversDenied sub.pattern
  bridged : ∀ k ∈ sub.stage.subscription, InProcess.Subscribable sub.pattern ∧
    ∃ other, bus.subscriptions[k]? = some other ∧ other.pattern = sub.pattern
  message : ∀ k message, sub.stage = .forwarding k message →
    patternMatches (tokens sub.pattern) (tokens message.subject) = true

variable {bus : InProcess} {sub : RuntimeSubscription} {now t : ℕ}

theorem Allowed.step {after : InProcess} (h : Allowed bus sub) {busLabel : InProcessLabel}
    (hstep : InProcess.step env.config bus busLabel = some after) :
    Allowed after sub where
  named := h.named
  uncovered := h.uncovered
  message := h.message
  bridged k hk := by
    obtain ⟨hvalid, other, hat, hpattern⟩ := h.bridged k hk
    obtain ⟨later, hlater, hsame⟩ := InProcess.pattern_of_step hat hstep
    exact ⟨hvalid, later, hlater, hsame.trans hpattern⟩

/-- Another stage of the task, on a subscription of its pattern. -/
theorem Allowed.move (h : Allowed bus sub) {stage : RuntimeStage} {listed : Bool}
    (hbridged : ∀ k ∈ stage.subscription, k ∈ sub.stage.subscription)
    (hmessage : ∀ k message, stage = .forwarding k message →
      patternMatches (tokens sub.pattern) (tokens message.subject) = true) :
    Allowed bus { sub with stage, listed } where
  named := h.named
  uncovered := h.uncovered
  bridged k hk := h.bridged k (hbridged k hk)
  message := hmessage

theorem Allowed.not_denied (h : Allowed bus sub) {k : ℕ} (hk : k ∈ sub.stage.subscription) {subject : String}
    (hmatches : patternMatches (tokens sub.pattern) (tokens subject) = true) : isDenied subject = false := by
  have hvalid := (h.bridged k hk).1
  have hiff := coversDenied_iff_matches h.named (finalRest_of_validate hvalid.2)
  rw [Bool.eq_false_iff]
  exact fun hdenied ↦ h.uncovered hvalid (hiff.mpr ⟨subject, hdenied, hmatches⟩)

/-- What holds while no pattern reaches the denied subjects. -/
structure Isolated (env : Env) (state : Runtime) : Prop where
  matching : state.bus.Matching env.config
  allowed : ∀ sub ∈ state.subs, Allowed state.bus sub
  forwarded : ∀ event ∈ state.forwarded, ∀ subject ∈ event.sourceSubject, isDenied subject = false

theorem isolated_start (env : Env) (clock : ℕ) : Isolated env (start clock) where
  matching := InProcess.matching_start env.config clock
  allowed := by simp [start]
  forwarded := by simp [start]

theorem allowed_of_call {agentId : String} {args : SubscribeEventsRequest}
    (hguard : NamesNoDenied state (.subscribeEvents agentId args now)) :
    ∀ sub ∈ (handleSubscribeEvents env.rfc3339 agentId args now state.subs).2,
      Allowed state.bus sub := by
  intro sub hsub
  unfold handleSubscribeEvents at hsub
  split at hsub
  · simp at hsub
  · rename_i hnone
    simp only at hsub
    split_ifs at hsub with hcap
    · simp at hsub
    · obtain ⟨pattern, hpattern, rfl⟩ := List.mem_map.mp hsub
      have hdenied : ∀ subject ∈ args.subjects, isDenied subject = false := by
        simpa using hnone
      exact { named := hdenied pattern hpattern
              uncovered := hguard ⟨hdenied, Nat.not_lt.mp hcap⟩ pattern hpattern
              bridged := nofun
              message := nofun }

theorem allowed_set {subs : List RuntimeSubscription} {sub' : RuntimeSubscription}
    (hallowed : ∀ sub ∈ subs, Allowed bus sub) (hsub : Allowed bus sub') :
    ∀ sub ∈ subs.set t sub', Allowed bus sub := by
  intro sub hmem
  obtain hold | rfl := List.mem_or_eq_of_mem_set hmem
  · exact hallowed sub hold
  · exact hsub

section

variable (h : Isolated env state)
include h

/-- A subscription that starts is bridged under its own pattern, if the bus takes that. -/
theorem Isolated.start {id : String} (hstep : Runtime.step env state (.start t id) = some next) :
    Isolated env next := by
  obtain ⟨sub, hat, hsub⟩ := Option.bind_eq_some_iff.mp hstep
  split at hsub
  · obtain ⟨bus, hbus, rfl⟩ := Option.map_eq_some_iff.mp hsub
    have hsub := h.allowed sub (List.mem_of_getElem? hat)
    have hspares : InProcess.Spares state.bus (.subscribe id sub.pattern) := trivial
    refine ⟨h.matching.step hspares hbus,
      allowed_set (fun other hother ↦ (h.allowed other hother).step hbus) ?_, h.forwarded⟩
    obtain hrefused | ⟨hvalid, added, hadded, hpattern⟩ := InProcess.subscribe_cases hbus
    · rw [if_pos hrefused]
      exact ⟨hsub.named, hsub.uncovered, nofun, nofun⟩
    · rw [if_neg (by simp [hadded])]
      refine ⟨hsub.named, hsub.uncovered, fun k hk ↦ ?_, nofun⟩
      cases hk
      exact ⟨hvalid, added, by simp [hadded], hpattern⟩
  · cases hsub

/-- What a task takes from its subscription was published on a subject of its pattern. -/
theorem Isolated.take (hstep : Runtime.step env state (.take t now) = some next) : Isolated env next := by
  obtain ⟨sub, hat, hsub⟩ := Option.bind_eq_some_iff.mp hstep
  split at hsub
  · rename_i k hstage
    split_ifs at hsub
    obtain ⟨message, hmessage, hsub⟩ := Option.bind_eq_some_iff.mp hsub
    obtain ⟨bridged, hbridged, hhead⟩ := Option.bind_eq_some_iff.mp hmessage
    obtain ⟨bus, hbus, rfl⟩ := Option.map_eq_some_iff.mp hsub
    have hsub := h.allowed sub (List.mem_of_getElem? hat)
    have hspares : InProcess.Spares state.bus (.next k) := trivial
    have hk : k ∈ sub.stage.subscription := by
      rw [hstage]
      exact rfl
    refine ⟨h.matching.step hspares hbus,
      allowed_set (fun other hother ↦ (h.allowed other hother).step hbus) ?_, h.forwarded⟩
    refine (hsub.step hbus).move (fun j hj ↦ Option.some.inj hj ▸ hk) fun j other hforwarding ↦ ?_
    obtain ⟨rfl, rfl⟩ := RuntimeStage.forwarding.inj hforwarding
    obtain ⟨_, other, hother, hpattern⟩ := hsub.bridged _ hk
    obtain rfl := Option.some.inj (hother.symm.trans hbridged)
    rw [← hpattern]
    exact (h.matching.matched _ (List.mem_of_getElem? hbridged)).queued _
      (List.mem_of_mem_head? hhead)
  · cases hsub

theorem Isolated.stop (hstep : Runtime.step env state (.stop t now) = some next) : Isolated env next := by
  obtain ⟨sub, hat, hsub⟩ := Option.bind_eq_some_iff.mp hstep
  split at hsub
  · rename_i k hstage
    split_ifs at hsub
    cases hsub
    refine ⟨h.matching, allowed_set h.allowed ?_, h.forwarded⟩
    refine (h.allowed sub (List.mem_of_getElem? hat)).move (fun j hj ↦ ?_) nofun
    rw [hstage]
    exact hj
  · cases hsub

/-- What is forwarded is not on a denied subject. -/
theorem Isolated.forward {storeError : Option StorageError}
    (hstep : Runtime.step env state (.forward t storeError) = some next) : Isolated env next := by
  obtain ⟨sub, hat, hsub⟩ := Option.bind_eq_some_iff.mp hstep
  split at hsub
  · rename_i k message hstage
    obtain ⟨bus, hbus, rfl⟩ := Option.map_eq_some_iff.mp hsub
    have hsub := h.allowed sub (List.mem_of_getElem? hat)
    have hk : k ∈ sub.stage.subscription := by
      rw [hstage]
      exact rfl
    have hspares : InProcess.Spares state.bus (.core (.publish none
        (consciousnessSubject sub.agentId)
        (env.toVec (subscribedEvent env.config.json sub.agentId message)) none storeError)) :=
      trivial
    refine ⟨h.matching.step hspares hbus,
      allowed_set (fun other hother ↦ (h.allowed other hother).step hbus) ?_, ?_⟩
    · exact (hsub.step hbus).move (fun j hj ↦ Option.some.inj hj ▸ hk) nofun
    · intro event hevent subject hsubject
      obtain hold | rfl := mem_of_concat hevent
      · exact h.forwarded event hold subject hsubject
      · cases hsubject
        exact hsub.not_denied hk (hsub.message k message hstage)
  · cases hsub

theorem Isolated.release (hstep : Runtime.step env state (.release t) = some next) : Isolated env next := by
  obtain ⟨sub, hat, hsub⟩ := Option.bind_eq_some_iff.mp hstep
  split at hsub
  · rename_i k hstage
    obtain ⟨bus, hbus, rfl⟩ := Option.map_eq_some_iff.mp hsub
    have hspares : InProcess.Spares state.bus (.drop k) := trivial
    refine ⟨h.matching.step hspares hbus,
      allowed_set (fun other hother ↦ (h.allowed other hother).step hbus) ?_, h.forwarded⟩
    exact ((h.allowed sub (List.mem_of_getElem? hat)).step hbus).move nofun nofun
  · cases hsub

theorem Isolated.step (hguard : NamesNoDenied state label) (hstep : Runtime.step env state label = some next) :
    Isolated env next := by
  cases label with
  | subscribeEvents agentId args now =>
    cases hstep
    refine ⟨h.matching, fun sub hsub ↦ ?_, h.forwarded⟩
    obtain hold | hnew := List.mem_append.mp hsub
    · exact h.allowed sub hold
    · exact allowed_of_call hguard sub hnew
  | unsubscribeEvents agentId subjects =>
    cases hstep
    refine ⟨h.matching, fun sub hsub ↦ ?_, h.forwarded⟩
    obtain ⟨before, hbefore, rfl⟩ := List.mem_map.mp hsub
    unfold Kernel.unsubscribeEvents
    split_ifs
    · exact (h.allowed before hbefore).move (fun k hk ↦ hk) nofun
    · exact h.allowed before hbefore
  | start t id => exact h.start hstep
  | take t now => exact h.take hstep
  | stop t now => exact h.stop hstep
  | forward t storeError => exact h.forward hstep
  | release t => exact h.release hstep
  | bus label =>
    simp only [Runtime.step] at hstep
    split_ifs at hstep
    obtain ⟨bus, hbus, rfl⟩ := Option.map_eq_some_iff.mp hstep
    exact ⟨h.matching.step hguard hbus, fun sub hsub ↦ (h.allowed sub hsub).step hbus, h.forwarded⟩

end

/-- Where no accepted pattern reaches the denied subjects by a wildcard, no event on a denied subject
is forwarded to an agent. -/
theorem denied_never_forwarded {clock : ℕ}
    (hreach : Steps.Reach (step env) NamesNoDenied (start clock) state) :
    ∀ event ∈ state.forwarded, ∀ subject ∈ event.sourceSubject, isDenied subject = false := by
  have hisolated := hreach.invariant (isolated_start env clock) fun _ _ _ h hguard hstep ↦
    h.step hguard hstep
  exact hisolated.forwarded

/-- Events without a content. -/
def plainEnv : Env := ⟨.plain 3, fun _ ↦ "", fun _ ↦ []⟩

/-- The only subscription takes the event of a dispatch and forwards it. -/
def forwardedOnce (i : ℕ) : List RuntimeLabel :=
  (InProcess.dispatchTurns i).map .bus ++
    [.bus (.bridgeReceive 0), .bus (.bridgeSend 0), .take 0 0, .forward 0 none]

/-- An agent subscribes to a pattern, and an event on a subject is forwarded to it. -/
def subscribedRun (pattern subject : String) : List RuntimeLabel :=
  [.subscribeEvents "ada" ⟨[pattern], none⟩ 0, .start 0 "s", .bus (.core (.publishByte subject 1))] ++
    forwardedOnce 0

/-- An event on a subject that is not internal is forwarded. -/
theorem denied_never_forwarded_inbound :
    ∃ state ∈ Steps.execute (step plainEnv) (start 0)
      (subscribedRun "channel.*.inbound" "channel.web.inbound"),
      state.forwarded.length = 1 ∧
      ∀ event ∈ state.forwarded, ∀ subject ∈ event.sourceSubject, isDenied subject = false := by
  have hrun : ∃ state ∈ Steps.execute (step plainEnv) (start 0)
      (subscribedRun "channel.*.inbound" "channel.web.inbound"), state.forwarded.length = 1 := by
    decide +kernel
  obtain ⟨state, hstate, hforwarded⟩ := hrun
  have hguard : Steps.Guarded (step plainEnv) NamesNoDenied (start 0)
      (subscribedRun "channel.*.inbound" "channel.web.inbound") := by
    decide +kernel
  exact ⟨state, hstate, hforwarded,
    denied_never_forwarded (Steps.reach_of_execute hguard hstate)⟩

/-- The pattern `>` is accepted, and feeds the agent's own consciousness subject back to it, event
after event. -/
theorem consciousness_fed_back :
    ∃ state, Steps.Reach (step plainEnv) (fun _ _ ↦ True) (start 0) state ∧
      state.forwarded.map ConsciousnessEvent.sourceSubject =
        [some (consciousnessSubject "ada"), some (consciousnessSubject "ada")] ∧
      isDenied (consciousnessSubject "ada") = true := by
  have hrun : ∃ state ∈ Steps.execute (step plainEnv) (start 0)
      (subscribedRun ">" (consciousnessSubject "ada") ++ forwardedOnce 1),
      state.forwarded.map ConsciousnessEvent.sourceSubject =
        [some (consciousnessSubject "ada"), some (consciousnessSubject "ada")] := by
    decide +kernel
  obtain ⟨state, hstate, hforwarded⟩ := hrun
  exact ⟨state, Steps.reach_of_execute (Steps.guarded_of_forall (fun _ _ ↦ trivial) _ _) hstate,
    hforwarded, by decide⟩

end Runtime

end Seidrum.Kernel
