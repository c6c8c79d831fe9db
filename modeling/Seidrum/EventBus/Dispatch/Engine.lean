import Seidrum.EventBus.Delivery.Backoff
import Seidrum.EventBus.Dispatch.SubjectIndex
import Seidrum.EventBus.Storage.MemoryStore

/-!
# The dispatch engine

A publish appends its event and starts a dispatch.  A dispatch is a task that runs beside other
dispatches, the retry task and the callers that subscribe and unsubscribe, so it is modelled as a
small machine: one step of it is one access to the shared state (a read under the lock, a store
operation, one attempt on a subscriber), and the data it carries between two accesses is its stage.

What the engine does not decide is an input of the step: what an interceptor's task came back with,
the draw of the backoff jitter, and whether a store operation succeeded.
-/

namespace Seidrum.EventBus

/-- An event as dispatched to subscribers. -/
structure DispatchedEvent where
  payload : Payload
  replySubject : Option String
  subject : String
  seq : ℕ
  deriving DecidableEq, Repr

/-- The bounded channel between the bus and one subscriber. -/
structure Channel where
  queue : List DispatchedEvent
  isOpen : Bool
  capacity : ℕ
  deriving DecidableEq, Repr

inductive TrySendError
  | full
  | closed
  deriving DecidableEq, Repr

def TrySendError.message : TrySendError → String
  | full => "no available capacity"
  | closed => "channel closed"

/-- Channel buffer size. -/
def defaultChannelCapacity : ℕ := 8192

namespace Channel

def new : Channel := ⟨[], true, defaultChannelCapacity⟩

def trySend (event : DispatchedEvent) (channel : Channel) : Except TrySendError Channel :=
  if channel.isOpen = false then .error .closed
  else if channel.capacity ≤ channel.queue.length then .error .full
  else .ok { channel with queue := channel.queue ++ [event] }

/-- The receiver is dropped. -/
def close (channel : Channel) : Channel := { channel with queue := [], isOpen := false }

end Channel

/-- What an interceptor answers. -/
inductive InterceptResult
  | modified
  | pass
  | drop
  deriving DecidableEq, Repr

/-- How the task of an interceptor ended; on completion with the buffer it was given, as it left
it. -/
inductive InterceptOutcome
  | completed (result : InterceptResult) (buffer : Payload)
  | panicked
  | cancelled
  | timedOut
  deriving DecidableEq, Repr

/-- Who makes an attempt. -/
inductive AttemptSource
  | dispatch
  | retry
  deriving DecidableEq, Repr

/-- How an attempt ended: a transient failure may be retried, a permanent one may not. -/
inductive AttemptOutcome
  | delivered
  | transient
  | permanent
  deriving DecidableEq, Repr

/-- The outcome a dispatch records with a status. -/
def AttemptOutcome.ofStatus : DeliveryStatus → AttemptOutcome
  | .delivered => delivered
  | .pending | .failed => transient
  | .deadLettered => permanent

/-- One attempt to hand an event to a subscriber: an interceptor run, a send, or a delivery call. -/
structure Attempt where
  seq : ℕ
  subscriberId : String
  payload : Payload
  source : AttemptSource
  outcome : AttemptOutcome
  time : ℕ
  /-- What a completed interceptor left in its buffer. -/
  buffer : Option Payload
  deriving DecidableEq, Repr

/-- The history of a bus.  No part of the bus reads it. -/
inductive LogEntry
  | appended (seq : ℕ) (payload : Payload)
  | attempted (attempt : Attempt)
  | webhookReturned (seq : ℕ) (subscriberId : String) (ok : Bool)
  deriving DecidableEq, Repr

/-- The state dispatches, the retry task and subscribers share. -/
structure Bus where
  store : InMemoryEventStore
  index : SubjectIndex
  /-- Subscriptions with a registered sender. -/
  senders : List String
  /-- Subscriptions with a registered interceptor. -/
  interceptors : List String
  /-- The channel made for a subscription; it outlives the registration. -/
  channels : String → Channel
  /-- Ids that have been given out; ids are never given out twice. -/
  usedIds : List String
  clock : ℕ
  /-- Newest entry first. -/
  log : List LogEntry

/-- Configuration of a bus. -/
structure Config where
  retry : RetryConfig
  queryLimit : ℕ
  json : SerdeJson
  /-- The registered custom channel types. -/
  channelTypes : List String

/-- What the environment contributes to one step of a dispatch. -/
structure DispatchInput where
  outcome : InterceptOutcome
  draw : ℕ
  storeOk : Bool
  deriving DecidableEq, Repr

/-- A delivery outcome on its way to the store. -/
structure Report where
  subscriberId : String
  status : DeliveryStatus
  error : Option String
  nextRetry : Option ℕ
  deriving DecidableEq, Repr

namespace Bus

/-- A bus on a store, with nothing registered. -/
def onStore (store : InMemoryEventStore) (clock : ℕ) : Bus where
  store
  index := .new
  senders := []
  interceptors := []
  channels _ := .new
  usedIds := []
  clock
  log := []

def note (entry : LogEntry) (bus : Bus) : Bus := { bus with log := entry :: bus.log }

def setChannel (id : String) (channel : Channel) (bus : Bus) : Bus :=
  { bus with channels := fun other ↦ if other = id then channel else bus.channels other }

/-- A store write that may fail; a failure is logged and otherwise ignored. -/
def updateStatus (ok : Bool) (seq : ℕ) (status : EventStatus) (bus : Bus) : Bus :=
  if ok then { bus with store := (bus.store.updateStatus seq status).2 } else bus

def recordDelivery (ok : Bool) (seq : ℕ) (report : Report) (bus : Bus) : Bus :=
  if ok then
    { bus with store := (bus.store.recordDelivery bus.clock seq report.subscriberId report.status
        report.error report.nextRetry).2 }
  else bus

/-- Maximum allowed subject length in bytes. -/
def maxSubjectLength : ℕ := 512

/-- Maximum allowed payload size in bytes. -/
def maxPayloadSize : ℕ := 512 * 1024 * 1024

/-- Maximum number of interceptors for one pattern. -/
def maxInterceptorsPerSubject : ℕ := 100

def defaultInterceptorTimeout : ℕ := 5000

def validateSubject (subject : String) : Except EventBusError Unit :=
  if subject = "" then .error (.invalidSubject "subject must not be empty")
  else if maxSubjectLength < subject.utf8ByteSize then
    .error (.invalidSubject ("subject exceeds maximum length of " ++ toString maxSubjectLength ++
      " bytes"))
  else if '\x00' ∈ subject.toList then
    .error (.invalidSubject "subject must not contain null bytes")
  else .ok ()

def validatePayload (payload : Payload) : Except EventBusError Unit :=
  if maxPayloadSize < payload.length then
    .error (.payloadTooLarge ("payload exceeds maximum size of " ++ toString maxPayloadSize ++
      " bytes"))
  else .ok ()

/-- Subscribe with a channel for receiving events. -/
def subscribe (entry : SubscriptionEntry) (bus : Bus) : Except EventBusError Bus := do
  validateSubject entry.subjectPattern
  let index ← bus.index.subscribe entry
  .ok { bus.setChannel entry.id .new with
    index
    senders := entry.id :: bus.senders
    usedIds := entry.id :: bus.usedIds }

/-- Register a sync interceptor. -/
def intercept (id subjectPattern : String) (priority : ℕ) (timeout : Option ℕ) (bus : Bus) :
    Except EventBusError Bus := do
  validateSubject subjectPattern
  let existing := (bus.index.list (some subjectPattern)).countP (·.id ∈ bus.interceptors)
  if maxInterceptorsPerSubject ≤ existing then
    .error (.internal ("too many interceptors registered for pattern '" ++ subjectPattern ++
      "' (max: " ++ toString maxInterceptorsPerSubject ++ ")"))
  else
    let index ← bus.index.subscribe
      { id, subjectPattern, priority, mode := .sync, channel := .inProcess,
        timeout := timeout.getD defaultInterceptorTimeout, filter := none }
    .ok { bus with
      index
      interceptors := id :: bus.interceptors
      usedIds := id :: bus.usedIds }

def unsubscribe (id : String) (bus : Bus) : Bus :=
  { bus with
    index := bus.index.unsubscribe id
    senders := bus.senders.filter (· ≠ id)
    interceptors := bus.interceptors.filter (· ≠ id) }

end Bus

/-! ## Dispatches -/

/-- A sync subscription with what was registered for it when the chain started. -/
structure SyncEntry where
  id : String
  timeout : ℕ
  interceptor : Bool
  sender : Bool
  deriving DecidableEq, Repr

/-- Where a dispatch stands. -/
inductive Stage
  /-- about to look up the matching subscriptions -/
  | resolve
  /-- about to mark the event as dispatching, then filter -/
  | mark (entries : List SubscriptionEntry)
  /-- about to read the registrations of the sync subscriptions -/
  | snapshot (sync async : List SubscriptionEntry)
  /-- in the sync chain; at its end about to read the async senders -/
  | chain (todo : List SyncEntry) (async : List SubscriptionEntry)
  /-- in the async fan-out, with what was registered; at its end about to write the final status -/
  | fanOut (todo : List (String × Bool))
  /-- about to record an outcome -/
  | record (report : Report) (next : Stage)
  /-- about to write a status and return -/
  | close (status : EventStatus)
  | returned

/-- A dispatch of one event. -/
structure Dispatch where
  seq : ℕ
  subject : String
  payload : Payload
  replySubject : Option String
  isReply : Bool
  /-- The payload as the interceptors so far left it. -/
  current : Payload
  anyFailed : Bool
  stage : Stage

/-- What one attempt of a dispatch led to. -/
structure AttemptResult where
  bus : Bus
  status : DeliveryStatus
  error : Option String
  buffer : Option Payload
  dropped : Bool

namespace Bus

/-- The outcome of a task that ran an interceptor; its failures are terminal. -/
def interceptorResult (timeout : ℕ) (outcome : InterceptOutcome) (bus : Bus) : AttemptResult :=
  match outcome with
  | .completed result buffer =>
      { bus, status := .delivered, error := none, buffer := some buffer,
        dropped := result = .drop }
  | .panicked =>
      { bus, status := .deadLettered, error := some "dead-lettered: interceptor panicked",
        buffer := none, dropped := false }
  | .cancelled =>
      { bus, status := .deadLettered, error := some "dead-lettered: interceptor cancelled",
        buffer := none, dropped := false }
  | .timedOut =>
      { bus, status := .deadLettered,
        error := some ("dead-lettered: interceptor timed out after " ++ toString timeout ++ "ms"),
        buffer := none, dropped := false }

/-- The outcome of a send to a subscriber's channel, when a sender was registered. -/
def sendResult (sender : Bool) (id : String) (event : DispatchedEvent)
    (sendError : TrySendError → String) (noSender : String) (bus : Bus) : AttemptResult :=
  if sender then
    match (bus.channels id).trySend event with
    | .ok channel =>
        { bus := bus.setChannel id channel, status := .delivered, error := none, buffer := none,
          dropped := false }
    | .error error =>
        { bus, status := .failed, error := some (sendError error), buffer := none,
          dropped := false }
  else { bus, status := .failed, error := some noSender, buffer := none, dropped := false }

/-- One turn of the sync chain. -/
def syncAttempt (outcome : InterceptOutcome) (entry : SyncEntry) (event : DispatchedEvent)
    (bus : Bus) : AttemptResult :=
  if entry.interceptor then bus.interceptorResult entry.timeout outcome
  else bus.sendResult entry.sender entry.id event
    (fun error ↦ "sync channel delivery failed: " ++ error.message)
    "subscription removed during dispatch"

/-- One turn of the async fan-out. -/
def asyncAttempt (id : String) (sender : Bool) (event : DispatchedEvent) (bus : Bus) :
    AttemptResult :=
  bus.sendResult sender id event
    (fun error ↦ match error with
      | .full => "subscriber channel full"
      | .closed => "subscriber channel closed")
    "no sender registered for subscriber"

/-- Read what is registered for a sync subscription. -/
def syncEntry (bus : Bus) (entry : SubscriptionEntry) : SyncEntry where
  id := entry.id
  timeout := entry.timeout
  interceptor := entry.id ∈ bus.interceptors
  sender := entry.id ∈ bus.senders

end Bus

namespace Dispatch

/-- The event as the next subscriber would receive it. -/
def event (d : Dispatch) : DispatchedEvent := ⟨d.current, d.replySubject, d.subject, d.seq⟩

def attemptOf (id : String) (result : AttemptResult) (d : Dispatch) : Attempt where
  seq := d.seq
  subscriberId := id
  payload := d.current
  source := .dispatch
  outcome := .ofStatus result.status
  time := result.bus.clock
  buffer := result.buffer

/-- What is recorded of an attempt. -/
def reportOf (config : Config) (input : DispatchInput) (id : String) (result : AttemptResult) :
    Report where
  subscriberId := id
  status := result.status
  error := result.error
  nextRetry :=
    if result.status = .failed then
      some (nextRetryAfter result.bus.clock 1 config.retry input.draw)
    else none

@[simp]
theorem reportOf_subscriberId (config : Config) (input : DispatchInput) (id : String)
    (result : AttemptResult) : (reportOf config input id result).subscriberId = id := rfl

@[simp]
theorem reportOf_status (config : Config) (input : DispatchInput) (id : String)
    (result : AttemptResult) : (reportOf config input id result).status = result.status := rfl

/-- Log an attempt and carry its outcome to the next store write. -/
def finishAttempt (config : Config) (input : DispatchInput) (id : String) (result : AttemptResult)
    (next : Stage) (d : Dispatch) : Bus × Dispatch :=
  (result.bus.note (.attempted (d.attemptOf id result)),
    { d with
      current := result.buffer.getD d.current
      anyFailed := d.anyFailed || result.status ≠ .delivered
      stage := .record (reportOf config input id result)
        (if result.dropped then .close .delivered else next) })

/-- The status written at the end of the fan-out. -/
def finalStatus (d : Dispatch) : EventStatus :=
  if d.anyFailed then .partiallyDelivered else .delivered

/-- One step of a dispatch.  An event that is not persisted is never written about. -/
def step (config : Config) (input : DispatchInput) (bus : Bus) (d : Dispatch) : Bus × Dispatch :=
  let ok := input.storeOk && !d.isReply
  match d.stage with
  | .resolve =>
      let entries := bus.index.lookup d.subject
      (bus, { d with stage := if entries.isEmpty then .close .delivered else .mark entries })
  | .mark entries =>
      let kept := entries.filter fun entry ↦ entry.filter.all (·.matches config.json d.current)
      (bus.updateStatus ok d.seq .dispatching,
        { d with stage :=
            if kept.isEmpty then .close .delivered
            else .snapshot (kept.filter (·.mode = .sync)) (kept.filter (·.mode = .async)) })
  | .snapshot sync async => (bus, { d with stage := .chain (sync.map bus.syncEntry) async })
  | .chain (entry :: todo) async =>
      d.finishAttempt config input entry.id (bus.syncAttempt input.outcome entry d.event)
        (.chain todo async)
  | .chain [] async =>
      (bus, { d with stage := .fanOut (async.map fun entry ↦ (entry.id, entry.id ∈ bus.senders)) })
  | .fanOut ((id, sender) :: todo) =>
      d.finishAttempt config input id (bus.asyncAttempt id sender d.event) (.fanOut todo)
  | .fanOut [] => (bus.updateStatus ok d.seq d.finalStatus, { d with stage := .returned })
  | .record report next => (bus.recordDelivery ok d.seq report, { d with stage := next })
  | .close status => (bus.updateStatus ok d.seq status, { d with stage := .returned })
  | .returned => (bus, d)

end Dispatch

/-- Subjects of request/reply responses, which are not persisted. -/
def isReplySubject (subject : String) : Bool := "_reply.".toList <+: subject.toList

namespace Bus

/-- Check and persist an event, and start its dispatch.  The caller may be an interceptor working
on a subject. -/
def publishEvent (intercepting : Option String) (subject : String) (payload : Payload)
    (replySubject : Option String) (storeError : Option StorageError) (bus : Bus) :
    Except EventBusError (Bus × Dispatch) := do
  validateSubject subject
  validatePayload payload
  if intercepting = some subject then
    .error (.internal ("re-entrant publish from sync interceptor on subject '" ++ subject ++
      "' would loop; sync interceptors must not publish to subjects they intercept"))
  else
    let dispatch (seq : ℕ) (isReply : Bool) : Dispatch :=
      { seq, subject, payload, replySubject, isReply, current := payload, anyFailed := false,
        stage := .resolve }
    if isReplySubject subject then .ok (bus, dispatch 0 true)
    else match storeError with
      | some error => .error (.storage error)
      | none =>
          let event : StoredEvent :=
            { seq := 0, subject, payload, storedAt := 0, status := .pending, deliveries := [],
              replySubject }
          let appended := bus.store.append bus.clock event
          .ok ({ bus with store := appended.2 }.note (.appended appended.1 payload),
            dispatch appended.1 false)

end Bus

end Seidrum.EventBus
