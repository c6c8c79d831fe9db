import Seidrum.Kernel.Facts
import Seidrum.Plugins.CapabilityCalls

/-!
# Feedback on its way to the brain

The feedback extractor publishes what it learns from a message as an event envelope.  The consciousness
service reads the messages on the same subject as bare feedback, which an envelope is not, so no
preference is ever stored.  Feedback it could read it would ask the brain to store; the brain does so and
answers nobody, and the service asks again until it gives up.
-/

namespace Seidrum.Kernel

open EventBus (Value)
open Foundation

/-! ## Messages -/

def EventOrigin.toValue (origin : EventOrigin) : Value :=
  .object ([("platform", .string origin.platform), ("chat_id", .string origin.chatId)] ++
    origin.threadId.toList.map (fun threadId ↦ ("thread_id", .string threadId)) ++
    origin.messageId.toList.map fun messageId ↦ ("message_id", .string messageId))

def EventEnvelope.toValue (envelope : EventEnvelope) : Value :=
  .object ([
    ("id", .string envelope.id),
    ("event_type", .string envelope.eventType),
    ("timestamp", .string envelope.timestamp),
    ("source", .string envelope.source),
    ("correlation_id", envelope.correlationId.elim .null .string),
    ("scope", envelope.scope.elim .null .string),
    ("payload", envelope.payload)] ++
      envelope.origin.toList.map fun origin ↦ ("origin", origin.toValue))

inductive FeedbackType
  | correction
  | confirmation
  | preference
  | rating
  deriving DecidableEq, Repr

def FeedbackType.toValue : FeedbackType → Value
  | correction => .string "correction"
  | confirmation => .string "confirmation"
  | preference => .string "preference"
  | rating => .string "rating"

def FeedbackType.fromValue : Value → Option FeedbackType
  | .string "correction" => some correction
  | .string "confirmation" => some confirmation
  | .string "preference" => some preference
  | .string "rating" => some rating
  | _ => none

@[simp]
theorem FeedbackType.fromValue_toValue (feedbackType : FeedbackType) :
    fromValue feedbackType.toValue = some feedbackType := by
  cases feedbackType <;> rfl

/-- Feedback extracted from user interaction. -/
structure AgentFeedback where
  agentId : String
  conversationId : Option String
  messageId : Option String
  feedbackType : FeedbackType
  content : String
  priorContext : Option String
  preferenceKey : Option String
  preferenceValue : Option String
  confidence : Value
  timestamp : String

namespace AgentFeedback

open Plugins (argumentFields nullable number)

def toValue (feedback : AgentFeedback) : Value :=
  .object [
    ("agent_id", .string feedback.agentId),
    ("conversation_id", feedback.conversationId.elim .null .string),
    ("message_id", feedback.messageId.elim .null .string),
    ("feedback_type", feedback.feedbackType.toValue),
    ("content", .string feedback.content),
    ("prior_context", feedback.priorContext.elim .null .string),
    ("preference_key", feedback.preferenceKey.elim .null .string),
    ("preference_value", feedback.preferenceValue.elim .null .string),
    ("confidence", feedback.confidence),
    ("timestamp", .string feedback.timestamp)]

/-- Read feedback; `isTimestamp` tells the texts of a time. -/
def fromValue (isTimestamp : String → Bool) (value : Value) : Option AgentFeedback := do
  let field ← argumentFields 10 ["agent_id", "conversation_id", "message_id", "feedback_type", "content",
    "prior_context", "preference_key", "preference_value", "confidence", "timestamp"] value
  let agentId ← (← field "agent_id").asStr
  let conversationId ← nullable Value.asStr (field "conversation_id")
  let messageId ← nullable Value.asStr (field "message_id")
  let feedbackType ← FeedbackType.fromValue (← field "feedback_type")
  let content ← (← field "content").asStr
  let priorContext ← nullable Value.asStr (field "prior_context")
  let preferenceKey ← nullable Value.asStr (field "preference_key")
  let preferenceValue ← nullable Value.asStr (field "preference_value")
  let confidence ← number (← field "confidence")
  let timestamp ← (← field "timestamp").asStr
  guard (isTimestamp timestamp)
  return ⟨agentId, conversationId, messageId, feedbackType, content, priorContext, preferenceKey,
    preferenceValue, confidence, timestamp⟩

theorem bind_of_eq {α β : Type} {read : Option α} {next : α → Option β} {value : α} {result : Option β}
    (hread : read = some value) (hnext : next value = result) : read.bind next = result := by
  rw [hread]
  exact hnext

/-- An envelope is no feedback. -/
@[simp]
theorem fromValue_envelope (isTimestamp : String → Bool) (envelope : EventEnvelope) :
    fromValue isTimestamp envelope.toValue = none := by
  have hfield : envelope.toValue.get "agent_id" = none := by
    unfold EventEnvelope.toValue
    cases envelope.origin <;> rfl
  unfold fromValue
  refine bind_of_eq rfl ?_
  change (envelope.toValue.get "agent_id").bind _ = none
  rw [hfield]
  rfl

def Carries (feedback : AgentFeedback) : Prop :=
  feedback.preferenceKey.isSome ∧ feedback.preferenceValue.isSome

instance (feedback : AgentFeedback) : Decidable feedback.Carries :=
  inferInstanceAs (Decidable (_ ∧ _))

end AgentFeedback

end Seidrum.Kernel

namespace Seidrum.Plugins

open EventBus (Value)
open EventBus.EventFilter (containsSubstring)
open Foundation Kernel

def correctionPatterns : List String :=
  ["no, i", "no that's", "not that", "i meant", "i think you", "wrong", "incorrect"]

def confirmationPatterns : List String :=
  ["yes, exactly", "yes exactly", "that's right", "perfect", "spot on", "precisely", "correct"]

def preferencePatterns : List String :=
  ["i prefer", "i'd prefer", "i like", "i dislike", "shorter", "longer", "more detailed",
    "less detailed", "always do", "never do", "don't", "avoid"]

/-- What the plugins and the services are started with: the lower case of texts, which scores reach the
threshold of the extractor, which texts are times, the size of the buffer of responses, the order of
confidences in the database, and the error of a request nobody answers. -/
structure FeedbackEnv (κ : Type) where
  lowercase : String → String
  reachesThreshold : Value → Bool
  isTimestamp : String → Bool
  responseBufferSize : ℕ
  rank : Value → κ
  timedOut : String

variable {κ : Type} (env : FeedbackEnv κ)

/-- The score of a text and the kind of feedback it is. -/
def analyzeHeuristics (text : String) : Value × Option FeedbackType :=
  let lower := env.lowercase text
  if correctionPatterns.any (containsSubstring lower) then (.number "0.85", some .correction)
  else if confirmationPatterns.any (containsSubstring lower) then (.number "0.88", some .confirmation)
  else if preferencePatterns.any (containsSubstring lower) then (.number "0.75", some .preference)
  else (.number "0.0", none)

/-- The preference a text states, as a key and a value. -/
def extractPreference (text : String) : Option (String × String) :=
  let lower := env.lowercase text
  if containsSubstring lower "short" ∧ containsSubstring lower "response" then
    some ("response_length", "short")
  else if containsSubstring lower "long" ∧ containsSubstring lower "response" then
    some ("response_length", "long")
  else if containsSubstring lower "concise" then some ("style", "concise")
  else if containsSubstring lower "detailed" then some ("style", "detailed")
  else if containsSubstring lower "formal" then some ("tone", "formal")
  else if containsSubstring lower "casual" ∨ containsSubstring lower "friendly" then
    some ("tone", "casual")
  else none

/-- What the extractor reads of an inbound message and its envelope. -/
structure HeardMessage where
  correlationId : Option String
  scope : Option String
  chatId : String
  text : String

/-- The last responses by their correlation ids, the latest first. -/
abbrev ResponseBuffer := List (String × String)

def ResponseBuffer.put (buffer : ResponseBuffer) (correlationId content : String) : ResponseBuffer :=
  ((correlationId, content) :: buffer.filter fun entry ↦ entry.1 ≠ correlationId).take
    env.responseBufferSize

/-- The feedback in a message, if its score is high enough. -/
def extractFeedback (buffer : ResponseBuffer) (message : HeardMessage) (timestamp : String) :
    Option AgentFeedback :=
  let (heuristicScore, feedbackType) := analyzeHeuristics env message.text
  if env.reachesThreshold heuristicScore then
    let preference := extractPreference env message.text
    some {
      agentId := message.scope.getD ""
      conversationId := none
      messageId := some message.chatId
      feedbackType := feedbackType.getD .preference
      content := message.text
      priorContext := message.correlationId.bind fun correlationId ↦ List.lookup correlationId buffer
      preferenceKey := preference.map Prod.fst
      preferenceValue := preference.map Prod.snd
      confidence := heuristicScore
      timestamp := timestamp }
  else none

/-- The event the extractor publishes. -/
def feedbackEnvelope (message : HeardMessage) (id timestamp : String) (feedback : AgentFeedback) :
    EventEnvelope where
  id := id
  eventType := "agent.feedback"
  timestamp := timestamp
  source := "feedback-extractor"
  correlationId := message.correlationId
  scope := message.scope
  payload := feedback.toValue
  origin := none

/-- The brain handles an upsert and all its calls succeed; what it publishes, and the database after it. -/
def upsertFact (db : BrainDb) (req : FactUpsertRequest) (run : List FactEnv) :
    Option (FactUpserted × BrainDb) :=
  if ∀ env ∈ run, env.outcome = .applied then
    match (handleFactUpsert req).run BrainDb.perform run db with
    | some (.ok upserted, db) => some (upserted, db)
    | _ => none
  else none

/-- A request for an upsert.  The handler publishes what it did, and replies to nobody. -/
def requestFactUpsert (db : BrainDb) (req : FactUpsertRequest) (run : List FactEnv) :
    Option (Option Value × FactUpserted × BrainDb) :=
  (upsertFact db req run).map fun (upserted, db) ↦ (none, upserted, db)

def userPrefers : String := "user_prefers_"

/-- The key of a preference, from the predicate of its fact. -/
def preferenceKey (predicate : String) : Option String :=
  if userPrefers.toList <+: predicate.toList then
    some (String.ofList (predicate.toList.drop userPrefers.length))
  else none

structure UserPreference where
  key : String
  value : String
  confidence : Value
  sourceFeedbackCount : ℕ
  lastUpdated : String

/-- The facts `agent.preferences.query` finds: at most fifty, the most confident ones first. -/
def preferenceFacts [LinearOrder κ] (db : BrainDb) (agentId : String) : List Fact :=
  topByKey (fun fact ↦ env.rank fact.confidence) 50
    ((db.facts.entries.map Sigma.snd).filter fun fact ↦
      fact.pair.subject = agentId ∧ (preferenceKey fact.pair.predicate).isSome ∧
        fact.validTo = none ∧ fact.supersededBy = none ∧
        env.rank (.number "0.3") ≤ env.rank fact.confidence)

def handlePreferencesQuery [LinearOrder κ] (db : BrainDb) (agentId : String) (category : Option String) :
    List UserPreference :=
  (preferenceFacts env db agentId).filterMap fun fact ↦ do
    let key ← preferenceKey fact.pair.predicate
    guard (category.all fun start ↦ decide (start.toList <+: key.toList))
    return {
      key := key
      value := fact.value.getD ""
      confidence := fact.confidence
      sourceFeedbackCount := fact.reinforcementCount % 2 ^ 32
      lastUpdated := fact.lastReinforced }

/-- The request of `store_preference_fact`. -/
def preferenceRequest (agentId key value : String) (confidence : Value) (now : String) :
    FactUpsertRequest where
  correlationId := none
  scope := none
  pair := ⟨agentId, userPrefers ++ key⟩
  object := none
  value := some value
  confidence := confidence
  sourceContent := "User preference: " ++ key ++ " = " ++ value
  validFrom := some now

/-- The database after a preference was to be stored, the upserts that were applied, and what was
reported. -/
structure Stored where
  db : BrainDb
  applied : List FactUpserted
  reported : Except String Unit

def maxRetries : ℕ := 2

/-- The loop of `store_preference_fact`, with the brain's run for each attempt that is left. -/
def storeAttempts (req : FactUpsertRequest) :
    List (List FactEnv) → String → BrainDb → List FactUpserted → Option Stored
  | [], lastError, db, applied =>
      some ⟨db, applied, .error ("Preference fact upsert failed after 2 retries: " ++ lastError)⟩
  | run :: rest, _, db, applied => do
      let (reply, upserted, db) ← requestFactUpsert db req run
      match reply with
      | some _ => return ⟨db, applied ++ [upserted], .ok ()⟩
      | none => storeAttempts req rest env.timedOut db (applied ++ [upserted])

def storePreferenceFact (db : BrainDb) (req : FactUpsertRequest) (runs : List (List FactEnv)) :
    Option Stored :=
  if runs.length = maxRetries + 1 then storeAttempts env req runs "" db [] else none

/-- What became of a message on `agent.feedback`; nothing is reported if nothing was to be stored. -/
structure Outcome where
  db : BrainDb
  applied : List FactUpserted
  reported : Option (Except String Unit)

/-- The feedback handler: it reads the message as bare feedback. -/
def handleFeedback (db : BrainDb) (message : Value) (now : String) (runs : List (List FactEnv)) :
    Option Outcome :=
  match AgentFeedback.fromValue env.isTimestamp message with
  | none => some ⟨db, [], none⟩
  | some feedback =>
      match feedback.preferenceKey, feedback.preferenceValue with
      | some key, some value =>
          (storePreferenceFact env db (preferenceRequest feedback.agentId key value feedback.confidence now)
            runs).map fun stored ↦ ⟨stored.db, stored.applied, some stored.reported⟩
      | _, _ => some ⟨db, [], none⟩

/-- A feedback event the consciousness service has handled. -/
structure HandledFeedback where
  feedback : AgentFeedback
  applied : List FactUpserted
  reported : Option (Except String Unit)

/-- The extractor's buffer, its events that wait for the consciousness service, the brain, and the events
that were handled.  The feedback of an event that waits is history. -/
structure Learning where
  buffer : ResponseBuffer
  published : List (AgentFeedback × Value)
  db : BrainDb
  handled : List HandledFeedback

inductive LearningLabel
  /-- The extractor takes an inbound message. -/
  | inbound (message : HeardMessage) (id timestamp : String)
  /-- The extractor takes a response of a model. -/
  | response (correlationId content : String)
  /-- The consciousness service handles the next event; the brain's run for each attempt. -/
  | handle (now : String) (runs : List (List FactEnv))
  /-- The brain handles an upsert of somebody else. -/
  | upsert (req : FactUpsertRequest) (run : List FactEnv)

namespace Learning

def init (db : BrainDb) : Learning := ⟨[], [], db, []⟩

def step : Steps Learning LearningLabel
  | state, .inbound message id timestamp =>
      some { state with
        published := state.published ++
          (extractFeedback env state.buffer message timestamp).toList.map fun feedback ↦
            (feedback, (feedbackEnvelope message id timestamp feedback).toValue) }
  | state, .response correlationId content =>
      some { state with buffer := state.buffer.put env correlationId content }
  | state, .handle now runs =>
      match state.published with
      | [] => none
      | (feedback, message) :: rest =>
          (handleFeedback env state.db message now runs).map fun outcome ↦
            { state with
              published := rest
              db := outcome.db
              handled := state.handled ++ [⟨feedback, outcome.applied, outcome.reported⟩] }
  | state, .upsert req run =>
      (upsertFact state.db req run).map fun (_, db) ↦ { state with db := db }

/-- A query for the agent's preferences includes the one stored, unless it was superseded or its
confidence is below the threshold. -/
def Included [LinearOrder κ] (db : BrainDb) (feedback : AgentFeedback) (upserted : FactUpserted) : Prop :=
  ∀ fact ∈ db.facts.lookup upserted.factKey, fact.supersededBy.isSome ∨
    env.rank fact.confidence < env.rank (.number "0.3") ∨
      ∃ preference ∈ handlePreferencesQuery env db feedback.agentId none,
        some preference.key = feedback.preferenceKey ∧ some preference.value = feedback.preferenceValue

/-- Every preference that was handled was stored once, reported as stored, and can be found. -/
def LearnedOnce [LinearOrder κ] (state : Learning) : Prop :=
  ∀ handled ∈ state.handled, handled.feedback.Carries →
    handled.applied.length = 1 ∧ handled.reported = some (.ok ()) ∧
      ∀ upserted ∈ handled.applied, Included env state.db handled.feedback upserted

/-- What waits is in an envelope, and nothing was stored for what was handled. -/
structure Unlearned (state : Learning) : Prop where
  published : ∀ message ∈ state.published, ∃ envelope : EventEnvelope, message.2 = envelope.toValue
  handled : ∀ handled ∈ state.handled, handled.applied = [] ∧ handled.reported = none

variable {env} {db : BrainDb} {state next : Learning}

theorem unlearned_init (db : BrainDb) : Unlearned (init db) :=
  ⟨fun _ hmem ↦ absurd hmem List.not_mem_nil, fun _ hmem ↦ absurd hmem List.not_mem_nil⟩

theorem handleFeedback_envelope (db : BrainDb) (envelope : EventEnvelope) (now : String)
    (runs : List (List FactEnv)) :
    handleFeedback env db envelope.toValue now runs = some ⟨db, [], none⟩ := by
  unfold handleFeedback
  rw [AgentFeedback.fromValue_envelope]

theorem Unlearned.step {label : LearningLabel} (h : state.Unlearned)
    (hstep : Learning.step env state label = some next) : next.Unlearned := by
  cases label with
  | inbound message id timestamp =>
    cases hstep
    refine ⟨fun sent hmem ↦ ?_, h.handled⟩
    rcases List.mem_append.mp hmem with hold | hnew
    · exact h.published sent hold
    · obtain ⟨feedback, -, rfl⟩ := List.mem_map.mp hnew
      exact ⟨_, rfl⟩
  | response correlationId content =>
    cases hstep
    exact ⟨h.published, h.handled⟩
  | handle now runs =>
    obtain ⟨buffer, published, db, handled⟩ := state
    cases published with
    | nil => cases hstep
    | cons sent rest =>
      obtain ⟨envelope, hmessage⟩ := h.published sent List.mem_cons_self
      obtain ⟨outcome, houtcome, rfl⟩ := Option.map_eq_some_iff.mp hstep
      rw [hmessage, handleFeedback_envelope] at houtcome
      cases houtcome
      refine ⟨fun other hmem ↦ h.published other (List.mem_cons_of_mem _ hmem), fun other hmem ↦ ?_⟩
      obtain hold | rfl := mem_of_concat hmem
      · exact h.handled other hold
      · exact ⟨rfl, rfl⟩
  | upsert req run =>
    obtain ⟨⟨upserted, db⟩, -, rfl⟩ := Option.map_eq_some_iff.mp hstep
    exact ⟨h.published, h.handled⟩

theorem unlearned_of_reach (h : Steps.Reach (Learning.step env) (fun _ _ ↦ True) (init db) state) :
    state.Unlearned :=
  h.invariant (unlearned_init db) fun _ _ _ hbefore _ hstep ↦ hbefore.step hstep

/-- Feedback is learned once exactly as long as none that carries a preference was handled. -/
theorem learnedOnce_iff [LinearOrder κ]
    (h : Steps.Reach (Learning.step env) (fun _ _ ↦ True) (init db) state) :
    LearnedOnce env state ↔ ∀ handled ∈ state.handled, ¬ handled.feedback.Carries := by
  constructor
  · intro hlearned handled hmem hcarries
    have hone := (hlearned handled hmem hcarries).1
    rw [((unlearned_of_reach h).handled handled hmem).1] at hone
    cases hone
  · intro hnone handled hmem hcarries
    exact absurd hcarries (hnone handled hmem)

end Learning

namespace Learning

def plainEnv : FeedbackEnv ℕ where
  lowercase := fun text ↦ String.ofList (text.toList.map Char.toLower)
  reachesThreshold := fun score ↦ match score with
    | .number literal => decide (literal ≠ "0.0")
    | _ => false
  isTimestamp := fun _ ↦ true
  responseBufferSize := 100
  rank := fun _ ↦ 0
  timedOut := "Timed out (5s)"

/-- Somebody asks for shorter responses, and the event is handled. -/
def shorterLabels : List LearningLabel :=
  [.inbound ⟨none, some "agent_alice", "chat-1", "I prefer short responses"⟩ "01J" "2024-03-09T12:00:00Z",
    .handle "2024-03-09T12:00:01Z" []]

theorem exists_shorter : ∃ state, Steps.Reach (Learning.step plainEnv) (fun _ _ ↦ True)
    (init ⟨∅, [], []⟩) state ∧ ∃ handled ∈ state.handled, handled.feedback.Carries ∧
      handled.applied = [] := by
  have hexecute : ∃ state ∈ Steps.execute (Learning.step plainEnv) (init ⟨∅, [], []⟩) shorterLabels,
      ∃ handled ∈ state.handled, handled.feedback.Carries ∧ handled.applied = [] := by
    decide +kernel
  obtain ⟨state, hstate, hhandled⟩ := hexecute
  exact ⟨state, Steps.reach_of_execute (Steps.guarded_of_forall (fun _ _ ↦ trivial) _ _) hstate, hhandled⟩

theorem not_learnedOnce_shorter : ∃ state, Steps.Reach (Learning.step plainEnv) (fun _ _ ↦ True)
    (init ⟨∅, [], []⟩) state ∧ ¬ LearnedOnce plainEnv state := by
  obtain ⟨state, hreach, handled, hmem, hcarries, -⟩ := exists_shorter
  exact ⟨state, hreach, fun hlearned ↦ (learnedOnce_iff hreach).mp hlearned handled hmem hcarries⟩

/-- The event of a preference is handled, and no fact is upserted. -/
theorem exists_preference_lost : ¬ ∀ (env : FeedbackEnv ℕ) (db : BrainDb) (state : Learning),
    Steps.Reach (Learning.step env) (fun _ _ ↦ True) (init db) state → LearnedOnce env state := by
  intro hlearned
  obtain ⟨state, hreach, handled, hmem, hcarries, hnone⟩ := exists_shorter
  have hone := (hlearned plainEnv ⟨∅, [], []⟩ state hreach handled hmem hcarries).1
  rw [hnone] at hone
  cases hone

end Learning

end Seidrum.Plugins
