import Seidrum.Foundation.Positions
import Seidrum.EventBus.Moves

/-!
# Request and reply

A request makes a fresh reply subject, registers a one-shot subscription on it, publishes its event
with the reply subject, waits, and cleans up.  A handler gets each request together with a replier,
which publishes on the reply subject once.  Requests, handlers and repliers run beside everything
else on the bus; the whole is a system of labelled steps over the running bus.

Identifiers and reply subjects come from a generator that never repeats itself, not even an
identifier that a store from an earlier run mentions.
-/

namespace Seidrum.EventBus

open Seidrum.Foundation

/-- The alphabet of generated identifiers. -/
def crockfordBase32 : List Char := "0123456789ABCDEFGHJKMNPQRSTVWXYZ".toList

def isUlid (text : String) : Bool :=
  text.toList.length = 26 && text.toList.all (· ∈ crockfordBase32)

/-- Generated identifiers for runs on fixed inputs. -/
def ulidOf (c : Char) : String := String.ofList (List.replicate 26 c)

/-- The reply subject made from an identifier. -/
def replySubjectOf (ulid : String) : String := "_reply." ++ ulid

/-- A call of `request`; the caller may be an interceptor working on a subject. -/
structure RequestCall where
  intercepting : Option String
  subject : String
  payload : Payload
  deriving DecidableEq, Repr

/-- Where a request stands. -/
inductive RequestStage
  /-- about to publish its event -/
  | registered
  /-- waiting for its dispatch to return -/
  | publishing (i : ℕ)
  /-- waiting for a reply -/
  | waiting
  /-- about to drop the receiver -/
  | received (result : Except EventBusError Payload)
  /-- about to unsubscribe -/
  | cleaning (result : Except EventBusError Payload)
  | returned (result : Except EventBusError Payload)
  /-- its future was dropped by the caller -/
  | dropped

structure Request where
  call : RequestCall
  replySubject : String
  /-- The id of the one-shot subscription. -/
  id : String
  stage : RequestStage

/-- The states in which the future of a request is suspended. -/
def RequestStage.isSuspended : RequestStage → Bool
  | .registered | .publishing _ | .waiting | .cleaning _ => true
  | _ => false

/-- The request is over, whichever way it ended. -/
def RequestStage.isOver : RequestStage → Bool
  | .returned _ | .dropped => true
  | _ => false

/-- What a handler is told of a request. -/
structure RequestMessage where
  payload : Payload
  subject : String
  seq : ℕ
  deriving DecidableEq, Repr

/-- The handle a request is answered with. -/
structure Replier where
  replySubject : String
  replied : Bool
  /-- The message it came with. -/
  message : RequestMessage
  /-- A handler has received it. -/
  accepted : Bool
  deriving DecidableEq, Repr

/-- The task that pairs the requests of a handler with repliers. -/
inductive Bridge
  | receiving
  /-- about to hand a replier to the handler -/
  | sending (replier : ℕ)
  | exited
  deriving DecidableEq, Repr

/-- Requests that may wait for a handler. -/
def serveChannelCapacity : ℕ := 128

/-- A request subscription. -/
structure Server where
  id : String
  bridge : Bridge
  /-- The repliers waiting for the handler. -/
  queue : List ℕ
  isOpen : Bool
  /-- The clean-up task spawned on drop has not run yet. -/
  cleanup : Bool
  deriving DecidableEq, Repr

/-! ## The system -/

/-- Whose call started a dispatch. -/
inductive Publisher
  | caller
  | request (r : ℕ)
  | replier (k : ℕ)
  | replay
  deriving DecidableEq, Repr

/-- A bus with its requests and handlers. -/
structure Exchange where
  core : System
  /-- For each dispatch, who started it. -/
  publishers : List Publisher
  requests : List Request
  servers : List Server
  repliers : List Replier
  /-- Identifiers and reply subjects found in the store at start-up. -/
  taken : List String

/-- What a request does next. -/
inductive RequestMove
  | publish (storeError : Option StorageError)
  /-- its dispatch returned -/
  | published
  | receive
  | timeout
  /-- no sender is left -/
  | closed
  | dropReceiver
  | cleanUp
  /-- the caller drops its future -/
  | drop
  deriving DecidableEq, Repr

/-- What a handler, or the task behind it, does next. -/
inductive ServerMove
  /-- the bridge takes the next event -/
  | bridge
  /-- the bridge hands its replier to the handler -/
  | forward
  /-- the handler takes the next request -/
  | accept
  | drop
  | cleanUp
  deriving DecidableEq, Repr

/-- Who moves next. -/
inductive ExchangeLabel
  /-- a step of the bus itself, or one of its registration calls -/
  | core (label : Label)
  | publish (intercepting : Option String) (subject : String) (payload : Payload)
      (storeError : Option StorageError)
  | replay (seq : ℕ) (storeError : Option StorageError)
  | request (call : RequestCall) (ulid id : String)
  | ofRequest (r : ℕ) (move : RequestMove)
  | serve (id pattern : String) (priority timeout : ℕ) (filter : Option EventFilter)
  | ofServer (j : ℕ) (move : ServerMove)
  | reply (k : ℕ) (intercepting : Option String) (payload : Payload)

namespace Channel

/-- The channel of a one-shot subscription. -/
def oneShot : Channel := ⟨[], true, 1⟩

end Channel

namespace Bus

def oneShotEntry (id replySubject : String) : SubscriptionEntry :=
  { id, subjectPattern := replySubject, priority := 0, mode := .async, channel := .inProcess,
    timeout := 30000, filter := none }

/-- The receiver of a subscription is dropped. -/
def closeChannel (id : String) (bus : Bus) : Bus := bus.setChannel id (bus.channels id).close

/-- Register the sender, then the subscription; the sender stays when the index refuses. -/
def registerOneShot (id replySubject : String) (bus : Bus) : Except EventBusError Unit × Bus :=
  let inserted := { bus.setChannel id .oneShot with
    senders := id :: bus.senders
    usedIds := id :: bus.usedIds }
  match inserted.index.subscribe (oneShotEntry id replySubject) with
  | .ok index => (.ok (), { inserted with index })
  | .error error => (.error error, inserted.closeChannel id)

def takeNext (id : String) (bus : Bus) : Option (DispatchedEvent × Bus) :=
  match (bus.channels id).queue with
  | [] => none
  | event :: rest =>
      some (event, bus.setChannel id { bus.channels id with queue := rest })

end Bus

/-- The dispatch still holds a sender of this subscription. -/
def Stage.holdsSender (id : String) : Stage → Bool
  | .chain todo _ => todo.any fun entry ↦ entry.id = id && entry.sender
  | .fanOut todo => (id, true) ∈ todo
  | .record report next => report.subscriberId = id || next.holdsSender id
  | _ => false

namespace Exchange

/-- What is started on a store. -/
def build (store : InMemoryEventStore) (clock : ℕ) : Exchange where
  core := .build store clock
  publishers := []
  requests := []
  servers := []
  repliers := []
  taken := store.events.flatMap fun event ↦
    event.replySubject.toList ++ event.deliveries.map (·.subscriberId)

/-- The subscriptions whose receiver belongs to a request or to a handler. -/
def ownedIds (state : Exchange) : List String :=
  state.requests.map (·.id) ++ state.servers.map (·.id)

def setStage (r : ℕ) (stage : RequestStage) (state : Exchange) : Exchange :=
  { state with requests := state.requests.modify r ({ · with stage }) }

def setServer (j : ℕ) (server : Server) (state : Exchange) : Exchange :=
  { state with servers := state.servers.set j server }

def withBus (bus : Bus) (state : Exchange) : Exchange :=
  { state with core := { state.core with bus } }

/-- Start the dispatch of an accepted publish. -/
def start (publisher : Publisher) (bus : Bus) (d : Dispatch) (state : Exchange) : Exchange :=
  { state with
    core := { state.core with bus, dispatches := state.core.dispatches ++ [d] }
    publishers := state.publishers ++ [publisher] }

/-- A publish on the engine; a refused one changes nothing. -/
def publishEvent (publisher : Publisher) (intercepting : Option String) (subject : String)
    (payload : Payload) (replySubject : Option String) (storeError : Option StorageError)
    (state : Exchange) : Except EventBusError Unit × Exchange :=
  match state.core.bus.publishEvent intercepting subject payload replySubject storeError with
  | .error error => (.error error, state)
  | .ok (bus, d) => (.ok (), state.start publisher bus d)

/-- The steps of the bus that are not taken through another label: publishes are, and so are the
receivers that belong to requests and handlers. -/
def isCoreLabel (state : Exchange) : Label → Bool
  | .publish .. => false
  | .receive id | .closeChannel id => id ∉ state.ownedIds
  | _ => true

/-- The identifiers of a new request were never seen before. -/
def freshRequest (ulid id : String) (state : Exchange) : Bool :=
  isUlid ulid && isUlid id && id ∉ state.core.bus.usedIds && id ∉ state.taken &&
    replySubjectOf ulid ∉ state.taken &&
    replySubjectOf ulid ∉ state.requests.map (·.replySubject)

/-- A sender of the subscription is left. -/
def hasSender (id : String) (state : Exchange) : Bool :=
  id ∈ state.core.bus.senders || state.core.dispatches.any (·.stage.holdsSender id)

/-- Drop the dispatch a suspended request is waiting for. -/
def dropDispatch (stage : RequestStage) (state : Exchange) : Exchange :=
  match stage with
  | .publishing i => { state with core := { state.core with
      dispatches := state.core.dispatches.modify i ({ · with stage := .returned }) } }
  | _ => state

def requestStep (r : ℕ) (request : Request) (state : Exchange) :
    RequestMove → RequestStage → Option Exchange
  | .publish storeError, .registered =>
      match state.publishEvent (.request r) request.call.intercepting request.call.subject
          request.call.payload (some request.replySubject) storeError with
      | (.error error, _) => some (state.setStage r (.cleaning (.error error)))
      | (.ok _, next) => some (next.setStage r (.publishing state.core.dispatches.length))
  | .published, .publishing i =>
      if (state.core.dispatches[i]?).any (·.stage.isReturned) then
        some (state.setStage r .waiting)
      else none
  | .receive, .waiting =>
      (state.core.bus.takeNext request.id).map fun taken ↦
        (state.withBus taken.2).setStage r (.received (.ok taken.1.payload))
  | .timeout, .waiting => some (state.setStage r (.received (.error .requestTimeout)))
  | .closed, .waiting =>
      if (state.core.bus.channels request.id).queue.isEmpty && !state.hasSender request.id then
        some (state.setStage r (.received (.error .replyChannelClosed)))
      else none
  | .dropReceiver, .received result =>
      some ((state.withBus (state.core.bus.closeChannel request.id)).setStage r (.cleaning result))
  -- a request whose publish failed still holds its receiver here
  | .cleanUp, .cleaning result =>
      some ((state.withBus ((state.core.bus.unsubscribe request.id).closeChannel
        request.id)).setStage r (.returned result))
  | .drop, stage =>
      if stage.isSuspended then
        some (((state.dropDispatch stage).withBus
          (state.core.bus.closeChannel request.id)).setStage r .dropped)
      else none
  | _, _ => none

/-- A handler's subscription. -/
def serveEntry (id subjectPattern : String) (priority timeout : ℕ) (filter : Option EventFilter) :
    SubscriptionEntry :=
  { id, subjectPattern, priority, mode := .async, channel := .inProcess, timeout, filter }

/-- Pair an event with a replier; an event without a reply subject is skipped. -/
def bridgeEvent (j : ℕ) (server : Server) (event : DispatchedEvent) (state : Exchange) : Exchange :=
  match event.replySubject with
  | none => state
  | some replySubject =>
      if replySubject = "" then state
      else
        { state.setServer j { server with bridge := .sending state.repliers.length } with
          repliers := state.repliers ++ [
            { replySubject, replied := false,
              message := ⟨event.payload, event.subject, event.seq⟩, accepted := false }] }

/-- One step of a handler, of its bridge or of its clean-up. -/
def serverStep (j : ℕ) (server : Server) (state : Exchange) :
    ServerMove → Bridge → Option Exchange
  | .bridge, .receiving =>
      (state.core.bus.takeNext server.id).map fun taken ↦
        (state.withBus taken.2).bridgeEvent j server taken.1
  | .forward, .sending k =>
      if server.isOpen then
        if server.queue.length < serveChannelCapacity then
          some (state.setServer j
            { server with bridge := .receiving, queue := server.queue ++ [k] })
        else none
      else
        some ((state.withBus (state.core.bus.closeChannel server.id)).setServer j
          { server with bridge := .exited })
  | .accept, _ =>
      match server.queue with
      | [] => none
      | k :: rest =>
          some { state.setServer j { server with queue := rest } with
            repliers := state.repliers.modify k ({ · with accepted := true }) }
  | .drop, _ =>
      if server.isOpen then
        some (state.setServer j { server with queue := [], isOpen := false, cleanup := true })
      else none
  | .cleanUp, _ =>
      if server.cleanup then
        some ((state.withBus (state.core.bus.unsubscribe server.id)).setServer j
          { server with cleanup := false })
      else none
  | _, _ => none

/-- Requeue a dead-lettered event and start its dispatch again. -/
def replay (seq : ℕ) (storeError : Option StorageError) (state : Exchange) : Exchange :=
  match storeError, state.core.bus.store.requeueDeadLettered seq with
  | none, (.ok event, store) =>
      state.start .replay { state.core.bus with store }
        { seq, subject := event.subject, payload := event.payload,
          replySubject := event.replySubject, isReply := false, current := event.payload,
          anyFailed := false, stage := .resolve }
  | _, _ => state

/-- Send a reply, unless one was sent. -/
def reply (k : ℕ) (replier : Replier) (intercepting : Option String) (payload : Payload)
    (state : Exchange) : Exchange :=
  if replier.replied then state
  else ({ state with
    repliers := state.repliers.modify k ({ · with replied := true }) }.publishEvent
      (.replier k) intercepting replier.replySubject payload none none).2

def step (config : Config) : Steps Exchange ExchangeLabel
  | state, .core label =>
      if state.isCoreLabel label then
        (System.step config state.core label).map ({ state with core := · })
      else none
  | state, .publish intercepting subject payload storeError =>
      -- the only check of the reserved subjects
      if isReplySubject subject then some state
      else some (state.publishEvent .caller intercepting subject payload none storeError).2
  | state, .replay seq storeError => some (state.replay seq storeError)
  | state, .request call ulid id =>
      if state.freshRequest ulid id then
        let registered := state.core.bus.registerOneShot id (replySubjectOf ulid)
        let stage : RequestStage := match registered.1 with
          | .ok _ => .registered
          | .error error => .returned (.error error)
        some { state.withBus registered.2 with
          requests := state.requests ++ [⟨call, replySubjectOf ulid, id, stage⟩] }
      else none
  | state, .ofRequest r move =>
      (state.requests[r]?).bind fun request ↦ state.requestStep r request move request.stage
  | state, .serve id pattern priority timeout filter =>
      (state.core.register id (·.subscribe (serveEntry id pattern priority timeout filter))).map
        fun result ↦
          { state with
            core := result.2
            servers :=
              if result.1 then state.servers ++ [⟨id, .receiving, [], true, false⟩]
              else state.servers }
  | state, .ofServer j move =>
      (state.servers[j]?).bind fun server ↦ state.serverStep j server move server.bridge
  | state, .reply k intercepting payload =>
      (state.repliers[k]?).bind fun replier ↦
        if replier.accepted then some (state.reply k replier intercepting payload) else none

end Exchange

variable {ulid : String}

theorem no_dot_of_isUlid (h : isUlid ulid = true) : '.' ∉ ulid.toList := by
  intro hdot
  simp only [isUlid, Bool.and_eq_true, List.all_eq_true] at h
  exact absurd (h.2 '.' hdot) (by decide)

theorem tokens_replySubjectOf (h : isUlid ulid = true) :
    tokens (replySubjectOf ulid) = ["_reply", ulid] := by
  have hprefix : "_reply.".toList = ['_', 'r', 'e', 'p', 'l', 'y', '.'] := by decide
  simp [tokens, replySubjectOf, hprefix, splitDot, splitDot_of_no_dot (no_dot_of_isUlid h)]

theorem isReplySubject_replySubjectOf (ulid : String) :
    isReplySubject (replySubjectOf ulid) = true := by
  simp [isReplySubject, replySubjectOf]

theorem ne_wildcard_of_isUlid (h : isUlid ulid = true) : ulid ≠ "" ∧ ulid ≠ "*" ∧ ulid ≠ ">" := by
  refine ⟨?_, ?_, ?_⟩ <;> rintro rfl <;> exact absurd h (by decide)

/-- As a pattern, a reply subject matches itself only. -/
theorem eq_of_matches_replySubject {subject : String} (h : isUlid ulid = true)
    (hmatches : patternMatches (tokens (replySubjectOf ulid)) (tokens subject) = true) :
    subject = replySubjectOf ulid := by
  obtain ⟨_, hany, hrest⟩ := ne_wildcard_of_isUlid h
  apply tokens_injective
  refine (eq_of_matches_literal ?_ ?_ hmatches).symm
  · rw [tokens_replySubjectOf h]
    simp [hany.symm]
  · rw [tokens_replySubjectOf h]
    simp [hrest.symm]

namespace Bus

/-- A one-shot subscription on a generated reply subject is never refused. -/
theorem registerOneShot_ok {ulid : String} (h : isUlid ulid = true) (id : String) (bus : Bus) :
    ∃ index, bus.index.subscribe (oneShotEntry id (replySubjectOf ulid)) = .ok index ∧
      bus.registerOneShot id (replySubjectOf ulid) =
        (.ok (), { bus.setChannel id .oneShot with
          index
          senders := id :: bus.senders
          usedIds := id :: bus.usedIds }) := by
  have hvalid : validatePattern (tokens (replySubjectOf ulid)) = .ok () := by
    obtain ⟨hempty, _, _⟩ := ne_wildcard_of_isUlid h
    simp [tokens_replySubjectOf h, validatePattern, maxSubjectDepth, hempty]
  cases hindex : bus.index.subscribe (oneShotEntry id (replySubjectOf ulid)) with
  | error error => simp [SubjectIndex.subscribe, oneShotEntry, hvalid] at hindex
  | ok index =>
    refine ⟨index, rfl, ?_⟩
    simp only [registerOneShot, setChannel]
    rw [hindex]

end Bus

/-! ## What a step can do -/

namespace Exchange

/-- Everything a request can do: the stage it goes to, and what else changes. -/
inductive RequestChange (state : Exchange) (r : ℕ) (request : Request) :
    RequestMove → RequestStage → Exchange → Prop
  | publish {bus : Bus} {d : Dispatch} {storeError : Option StorageError}
      (stage : request.stage = .registered)
      (accepted : state.core.bus.publishEvent request.call.intercepting request.call.subject
        request.call.payload (some request.replySubject) storeError = .ok (bus, d)) :
      RequestChange state r request (.publish storeError)
        (.publishing state.core.dispatches.length) (state.start (.request r) bus d)
  | refused {storeError : Option StorageError} {error : EventBusError}
      (stage : request.stage = .registered) :
      RequestChange state r request (.publish storeError) (.cleaning (.error error)) state
  | published {i : ℕ} (stage : request.stage = .publishing i) :
      RequestChange state r request .published .waiting state
  | receive {event : DispatchedEvent} {rest : List DispatchedEvent}
      (stage : request.stage = .waiting)
      (queue : (state.core.bus.channels request.id).queue = event :: rest) :
      RequestChange state r request .receive (.received (.ok event.payload))
        (state.withBus (state.core.bus.setChannel request.id
          { state.core.bus.channels request.id with queue := rest }))
  | giveUp {move : RequestMove} {error : EventBusError} (stage : request.stage = .waiting) :
      RequestChange state r request move (.received (.error error)) state
  | dropReceiver {result : Except EventBusError Payload}
      (stage : request.stage = .received result) :
      RequestChange state r request .dropReceiver (.cleaning result)
        (state.withBus (state.core.bus.closeChannel request.id))
  | cleanUp {result : Except EventBusError Payload} (stage : request.stage = .cleaning result) :
      RequestChange state r request .cleanUp (.returned result)
        (state.withBus ((state.core.bus.unsubscribe request.id).closeChannel request.id))
  | drop (suspended : request.stage.isSuspended = true) :
      RequestChange state r request .drop .dropped
        ((state.dropDispatch request.stage).withBus (state.core.bus.closeChannel request.id))

theorem takeNext_eq {bus : Bus} {id : String} {taken : DispatchedEvent × Bus}
    (h : bus.takeNext id = some taken) : ∃ rest, (bus.channels id).queue = taken.1 :: rest ∧
      taken.2 = bus.setChannel id { bus.channels id with queue := rest } := by
  unfold Bus.takeNext at h
  cases hqueue : (bus.channels id).queue with
  | nil => simp [hqueue] at h
  | cons event rest =>
    simp only [hqueue, Option.some.injEq] at h
    rw [← h]
    exact ⟨rest, rfl, rfl⟩

theorem publishEvent_cases (publisher : Publisher) (intercepting : Option String) (subject : String)
    (payload : Payload) (replySubject : Option String) (storeError : Option StorageError)
    (state : Exchange) :
    (∃ error, state.publishEvent publisher intercepting subject payload replySubject storeError =
        (.error error, state)) ∨
      ∃ bus d, state.core.bus.publishEvent intercepting subject payload replySubject storeError =
          .ok (bus, d) ∧
        state.publishEvent publisher intercepting subject payload replySubject storeError =
          (.ok (), state.start publisher bus d) := by
  unfold publishEvent
  cases state.core.bus.publishEvent intercepting subject payload replySubject storeError with
  | error error => exact .inl ⟨error, rfl⟩
  | ok result => exact .inr ⟨result.1, result.2, rfl, rfl⟩

variable {state next : Exchange} {r : ℕ} {request : Request} {move : RequestMove} {j : ℕ}
  {server : Server} {config : Config} {label : ExchangeLabel}

theorem requestChange_of_step (h : state.requestStep r request move request.stage = some next) :
    ∃ stage after, RequestChange state r request move stage after ∧
      next = after.setStage r stage := by
  cases move with
  | publish storeError =>
    cases hstage : request.stage with
    | registered =>
      rw [hstage] at h
      simp only [requestStep] at h
      obtain ⟨error, hpublish⟩ | ⟨bus, d, haccepted, hpublish⟩ := publishEvent_cases (.request r)
        request.call.intercepting request.call.subject request.call.payload
        (some request.replySubject) storeError state
      · rw [hpublish] at h
        exact ⟨_, _, .refused hstage, (Option.some.inj h).symm⟩
      · rw [hpublish] at h
        exact ⟨_, _, .publish hstage haccepted, (Option.some.inj h).symm⟩
    | _ => simp [hstage, requestStep] at h
  | published =>
    cases hstage : request.stage with
    | publishing i =>
      simp only [hstage, requestStep] at h
      split_ifs at h
      exact ⟨_, _, .published hstage, (Option.some.inj h).symm⟩
    | _ => simp [hstage, requestStep] at h
  | receive =>
    cases hstage : request.stage with
    | waiting =>
      simp only [hstage, requestStep] at h
      obtain ⟨taken, htaken, rfl⟩ := Option.map_eq_some_iff.mp h
      obtain ⟨rest, hqueue, hbus⟩ := takeNext_eq htaken
      rw [hbus]
      exact ⟨_, _, .receive hstage hqueue, rfl⟩
    | _ => simp [hstage, requestStep] at h
  | timeout =>
    cases hstage : request.stage with
    | waiting =>
      simp only [hstage, requestStep] at h
      exact ⟨_, _, .giveUp hstage, (Option.some.inj h).symm⟩
    | _ => simp [hstage, requestStep] at h
  | closed =>
    cases hstage : request.stage with
    | waiting =>
      simp only [hstage, requestStep] at h
      split_ifs at h
      exact ⟨_, _, .giveUp hstage, (Option.some.inj h).symm⟩
    | _ => simp [hstage, requestStep] at h
  | dropReceiver =>
    cases hstage : request.stage with
    | received result =>
      simp only [hstage, requestStep] at h
      exact ⟨_, _, .dropReceiver hstage, (Option.some.inj h).symm⟩
    | _ => simp [hstage, requestStep] at h
  | cleanUp =>
    cases hstage : request.stage with
    | cleaning result =>
      simp only [hstage, requestStep] at h
      exact ⟨_, _, .cleanUp hstage, (Option.some.inj h).symm⟩
    | _ => simp [hstage, requestStep] at h
  | drop =>
    simp only [requestStep] at h
    split_ifs at h with hsuspended
    exact ⟨_, _, .drop hsuspended, (Option.some.inj h).symm⟩

/-- Everything a handler, its bridge and its clean-up can do. -/
inductive ServerChange (state : Exchange) (j : ℕ) (server : Server) : Exchange → Prop
  | bridge {event : DispatchedEvent} {rest : List DispatchedEvent}
      (stage : server.bridge = .receiving)
      (queue : (state.core.bus.channels server.id).queue = event :: rest) :
      ServerChange state j server ((state.withBus (state.core.bus.setChannel server.id
        { state.core.bus.channels server.id with queue := rest })).bridgeEvent j server event)
  /-- only the server itself changes -/
  | keeps {after : Server} (id : after.id = server.id)
      (queue : ∀ k ∈ after.queue, k ∈ server.queue ∨ server.bridge = .sending k)
      (sending : ∀ k, after.bridge = .sending k → server.bridge = .sending k) :
      ServerChange state j server (state.setServer j after)
  | exit : ServerChange state j server ((state.withBus
      (state.core.bus.closeChannel server.id)).setServer j { server with bridge := .exited })
  | accept {k : ℕ} {rest : List ℕ} (queue : server.queue = k :: rest) :
      ServerChange state j server { state.setServer j { server with queue := rest } with
        repliers := state.repliers.modify k ({ · with accepted := true }) }
  | cleanUp : ServerChange state j server ((state.withBus
      (state.core.bus.unsubscribe server.id)).setServer j { server with cleanup := false })

theorem serverChange_of_step {move : ServerMove}
    (h : state.serverStep j server move server.bridge = some next) :
    ServerChange state j server next := by
  cases move with
  | bridge =>
    cases hbridge : server.bridge with
    | receiving =>
      simp only [hbridge, serverStep] at h
      obtain ⟨taken, htaken, rfl⟩ := Option.map_eq_some_iff.mp h
      obtain ⟨rest, hqueue, hbus⟩ := takeNext_eq htaken
      rw [hbus]
      exact .bridge hbridge hqueue
    | _ => simp [hbridge, serverStep] at h
  | forward =>
    cases hbridge : server.bridge with
    | sending k =>
      simp only [hbridge, serverStep] at h
      split_ifs at h
      · cases h
        refine .keeps rfl (fun other hother ↦ ?_) (by simp)
        obtain hold | hnew := List.mem_append.mp hother
        · exact .inl hold
        · exact .inr (by rw [hbridge, List.mem_singleton.mp hnew])
      · cases h
        exact .exit
    | _ => simp [hbridge, serverStep] at h
  | accept =>
    simp only [serverStep] at h
    cases hqueue : server.queue with
    | nil => simp [hqueue] at h
    | cons k rest =>
      simp only [hqueue] at h
      cases h
      exact .accept hqueue
  | drop =>
    simp only [serverStep] at h
    split_ifs at h
    cases h
    exact .keeps rfl (by simp) fun k hk ↦ hk
  | cleanUp =>
    simp only [serverStep] at h
    split_ifs at h
    cases h
    exact .cleanUp

/-- Everything a step can do. -/
inductive Change (config : Config) (state : Exchange) : ExchangeLabel → Exchange → Prop
  | refused {label : ExchangeLabel} : Change config state label state
  | core {label : Label} {after : System} (allowed : state.isCoreLabel label = true)
      (stepped : System.step config state.core label = some after) :
      Change config state (.core label) { state with core := after }
  | publish {intercepting : Option String} {subject : String} {payload : Payload}
      {storeError : Option StorageError} {bus : Bus} {d : Dispatch}
      (free : isReplySubject subject = false)
      (accepted : state.core.bus.publishEvent intercepting subject payload none storeError =
        .ok (bus, d)) :
      Change config state (.publish intercepting subject payload storeError)
        (state.start .caller bus d)
  | replay {seq : ℕ} {event : StoredEvent} {store : InMemoryEventStore}
      (requeued : state.core.bus.store.requeueDeadLettered seq = (.ok event, store)) :
      Change config state (.replay seq none) (state.start .replay { state.core.bus with store }
        { seq, subject := event.subject, payload := event.payload,
          replySubject := event.replySubject, isReply := false, current := event.payload,
          anyFailed := false, stage := .resolve })
  | request {call : RequestCall} {ulid id : String} {index : SubjectIndex}
      (fresh : state.freshRequest ulid id = true)
      (registered : state.core.bus.index.subscribe (Bus.oneShotEntry id (replySubjectOf ulid)) =
        .ok index) :
      Change config state (.request call ulid id)
        { state.withBus { state.core.bus.setChannel id .oneShot with
            index
            senders := id :: state.core.bus.senders
            usedIds := id :: state.core.bus.usedIds } with
          requests := state.requests ++ [⟨call, replySubjectOf ulid, id, .registered⟩] }
  | ofRequest {r : ℕ} {request : Request} {move : RequestMove} {stage : RequestStage}
      {after : Exchange} (at_r : state.requests[r]? = some request)
      (change : RequestChange state r request move stage after) :
      Change config state (.ofRequest r move) (after.setStage r stage)
  | serve {id pattern : String} {priority timeout : ℕ} {filter : Option EventFilter}
      {index : SubjectIndex} (fresh : id ∉ state.core.bus.usedIds)
      (subscribed : state.core.bus.index.subscribe
        (serveEntry id pattern priority timeout filter) = .ok index) :
      Change config state (.serve id pattern priority timeout filter)
        { state.withBus { state.core.bus.setChannel id .new with
            index
            senders := id :: state.core.bus.senders
            usedIds := id :: state.core.bus.usedIds } with
          servers := state.servers ++ [⟨id, .receiving, [], true, false⟩] }
  | ofServer {j : ℕ} {server : Server} {move : ServerMove} {after : Exchange}
      (at_j : state.servers[j]? = some server) (change : ServerChange state j server after) :
      Change config state (.ofServer j move) after
  /-- a reply that the engine refuses is spent all the same -/
  | replyRefused {k : ℕ} {intercepting : Option String} {payload : Payload} {replier : Replier}
      (at_k : state.repliers[k]? = some replier) (accepted : replier.accepted = true)
      (unsent : replier.replied = false) :
      Change config state (.reply k intercepting payload)
        { state with repliers := state.repliers.modify k ({ · with replied := true }) }
  | reply {k : ℕ} {intercepting : Option String} {payload : Payload} {replier : Replier}
      {bus : Bus} {d : Dispatch} (at_k : state.repliers[k]? = some replier)
      (accepted : replier.accepted = true) (unsent : replier.replied = false)
      (published : state.core.bus.publishEvent intercepting replier.replySubject payload none none =
        .ok (bus, d)) :
      Change config state (.reply k intercepting payload)
        ({ state with repliers := state.repliers.modify k ({ · with replied := true }) }.start
          (.replier k) bus d)

theorem change_of_step (h : step config state label = some next) :
    Change config state label next := by
  cases label with
  | core label =>
    simp only [step] at h
    split_ifs at h with hallowed
    obtain ⟨after, hafter, rfl⟩ := Option.map_eq_some_iff.mp h
    exact .core hallowed hafter
  | publish intercepting subject payload storeError =>
    simp only [step] at h
    split_ifs at h with hreply
    · cases h
      exact .refused
    · cases h
      obtain ⟨error, hpublish⟩ | ⟨bus, d, haccepted, hpublish⟩ := publishEvent_cases .caller
        intercepting subject payload none storeError state
      · rw [hpublish]
        exact .refused
      · rw [hpublish]
        exact .publish (by simpa using hreply) haccepted
  | replay seq storeError =>
    simp only [step, replay] at h
    cases h
    split
    · exact .replay ‹_›
    · exact .refused
  | request call ulid id =>
    simp only [step] at h
    split_ifs at h with hfresh
    have hulid : isUlid ulid = true := by
      simp only [freshRequest, Bool.and_eq_true] at hfresh
      exact hfresh.1.1.1.1.1
    obtain ⟨index, hindex, hregistered⟩ := Bus.registerOneShot_ok hulid id state.core.bus
    rw [hregistered] at h
    cases h
    exact .request hfresh hindex
  | ofRequest r move =>
    obtain ⟨request, hrequest, hstep⟩ := Option.bind_eq_some_iff.mp h
    obtain ⟨stage, after, hchange, rfl⟩ := requestChange_of_step hstep
    exact .ofRequest hrequest hchange
  | serve id pattern priority timeout filter =>
    obtain ⟨result, hresult, rfl⟩ := Option.map_eq_some_iff.mp h
    obtain ⟨hfresh, rfl | ⟨bus, hbus, rfl⟩⟩ := System.register_eq hresult
    · exact .refused
    · obtain ⟨index, hindex, rfl⟩ := Bus.subscribe_ok hbus
      exact .serve hfresh hindex
  | ofServer j move =>
    obtain ⟨server, hserver, hstep⟩ := Option.bind_eq_some_iff.mp h
    exact .ofServer hserver (serverChange_of_step hstep)
  | reply k intercepting payload =>
    obtain ⟨replier, hreplier, hstep⟩ := Option.bind_eq_some_iff.mp h
    split_ifs at hstep with haccepted
    unfold reply at hstep
    split_ifs at hstep with hreplied
    · cases hstep
      exact .refused
    · cases hstep
      have hunsent : replier.replied = false := by simpa using hreplied
      obtain ⟨error, hpublish⟩ | ⟨bus, d, hpublished, hpublish⟩ := publishEvent_cases (.replier k)
        intercepting replier.replySubject payload none none { state with
          repliers := state.repliers.modify k ({ · with replied := true }) }
      · rw [hpublish]
        exact .replyRefused hreplier haccepted hunsent
      · rw [hpublish]
        exact .reply hreplier haccepted hunsent hpublished

theorem RequestChange.requests {after : Exchange} {stage : RequestStage}
    (h : RequestChange state r request move stage after) : after.requests = state.requests := by
  cases h with
  | drop =>
    unfold dropDispatch
    split <;> rfl
  | _ => rfl

/-- Where a request of the state after a step comes from. -/
inductive RequestAfter (state : Exchange) (label : ExchangeLabel) (next : Exchange) (q : ℕ) :
    Request → Prop
  | kept {request : Request} (before : state.requests[q]? = some request)
      (spared : next = state ∨ ∀ move, label ≠ .ofRequest q move) :
      RequestAfter state label next q request
  | moved {request : Request} {move : RequestMove} {stage : RequestStage} {after : Exchange}
      (label_eq : label = .ofRequest q move) (before : state.requests[q]? = some request)
      (change : RequestChange state q request move stage after)
      (next_eq : next = after.setStage q stage) :
      RequestAfter state label next q { request with stage }
  | new {call : RequestCall} {ulid id : String} {index : SubjectIndex}
      (label_eq : label = .request call ulid id) (fresh : state.freshRequest ulid id = true)
      (registered : state.core.bus.index.subscribe (Bus.oneShotEntry id (replySubjectOf ulid)) =
        .ok index)
      (core_eq : next.core = { state.core with bus := { state.core.bus.setChannel id .oneShot with
        index
        senders := id :: state.core.bus.senders
        usedIds := id :: state.core.bus.usedIds } }) :
      RequestAfter state label next q ⟨call, replySubjectOf ulid, id, .registered⟩

theorem bridgeEvent_requests (j : ℕ) (server : Server) (event : DispatchedEvent)
    (state : Exchange) : (state.bridgeEvent j server event).requests = state.requests := by
  unfold bridgeEvent
  split
  · rfl
  · split_ifs <;> rfl

theorem ServerChange.requests (h : ServerChange state j server next) :
    next.requests = state.requests := by
  cases h with
  | bridge => exact bridgeEvent_requests _ _ _ _
  | _ => rfl

theorem Change.requestAfter (h : Change config state label next) {q : ℕ}
    (hq : next.requests[q]? = some request) : RequestAfter state label next q request := by
  cases h with
  | refused => exact .kept hq (.inl rfl)
  | @request call ulid id index fresh registered =>
    obtain hold | ⟨hlast, rfl⟩ := at_of_concat hq
    · exact .kept hold (.inr nofun)
    · exact .new rfl fresh registered rfl
  | @ofRequest r before move stage after at_r change =>
    change (after.requests.modify r _)[q]? = some request at hq
    rw [change.requests] at hq
    obtain ⟨rfl, other, hother, rfl⟩ | ⟨hne, hold⟩ := at_of_modify hq
    · obtain rfl := Option.some.inj (hother.symm.trans at_r)
      exact .moved rfl at_r change rfl
    · refine .kept hold (.inr fun move heq ↦ hne ?_)
      exact (ExchangeLabel.ofRequest.inj heq).1
  | ofServer at_j change => exact .kept (change.requests ▸ hq) (.inr nofun)
  | _ => exact .kept hq (.inr nofun)

end Exchange

end Seidrum.EventBus
