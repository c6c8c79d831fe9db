import Seidrum.EventBus.Dispatch.Engine

/-!
# The retry task

One background task polls the store for failed deliveries that are due, attempts each of them
again through the live subscription, records the outcome, and finalizes the event once none of its
deliveries is left to retry.  Like a dispatch it is a machine whose steps are its accesses to the
shared state; between two accesses it is in a phase.

The answers of delivery channels other than the in-process ones are inputs.
-/

namespace Seidrum.EventBus

inductive DeliveryError
  | failed (message : String)
  | permanent (message : String)
  | notReady
  deriving DecidableEq, Repr

def DeliveryError.message : DeliveryError → String
  | failed message => "delivery failed: " ++ message
  | permanent message => "delivery permanently failed: " ++ message
  | notReady => "channel not ready"

/-- The result of one retry attempt. -/
inductive RetryOutcome
  | delivered
  | transient (message : String)
  | permanent (message : String)
  deriving DecidableEq, Repr

/-- The outcome without its message. -/
def RetryOutcome.attempt : RetryOutcome → AttemptOutcome
  | delivered => .delivered
  | transient _ => .transient
  | permanent _ => .permanent

/-- What the environment contributes to one step of the retry task; `delivery` is the answer of
the delivery channel called in the step. -/
structure RetryInput where
  delivery : Except DeliveryError Unit
  draw : ℕ
  storeOk : Bool
  deriving Repr

/-- The live subscription a retry found: its channel, and whether a sender was registered. -/
structure RetryTarget where
  channel : ChannelConfig
  sender : Bool
  deriving DecidableEq, Repr

/-- Where the retry task stands; every phase but `idle` carries the deliveries still to do. -/
inductive RetryPhase
  | idle
  /-- about to look up the subscription of the next delivery -/
  | working (todo : List RetryableDelivery)
  /-- about to hand a delivery to the subscription found -/
  | calling (delivery : RetryableDelivery) (target : RetryTarget) (todo : List RetryableDelivery)
  /-- about to record an outcome -/
  | recording (delivery : RetryableDelivery) (report : Report) (todo : List RetryableDelivery)
  /-- about to load the event for finalization -/
  | loading (seq : ℕ) (todo : List RetryableDelivery)
  /-- about to write the event's final status -/
  | finalizing (seq : ℕ) (status : EventStatus) (todo : List RetryableDelivery)

def channelOutcome : Except DeliveryError Unit → RetryOutcome
  | .ok () => .delivered
  | .error (.permanent message) => .permanent message
  | .error error => .transient error.message

namespace Bus

/-- Hand a delivery to the subscription that was found. -/
def retryToSubscriber (config : Config) (answer : Except DeliveryError Unit)
    (delivery : RetryableDelivery) (target : RetryTarget) (bus : Bus) : RetryOutcome × Bus :=
  match target.channel with
  | .webhook _ => (channelOutcome answer, bus.note (.webhookReturned delivery.seq
      delivery.subscriberId (channelOutcome answer = .delivered)))
  | .custom channelType =>
      if channelType ∈ config.channelTypes then (channelOutcome answer, bus)
      else (.permanent ("no channel registered for type '" ++ channelType ++ "'"), bus)
  | .inProcess =>
      if target.sender then
        match (bus.channels delivery.subscriberId).trySend
            ⟨delivery.payload, delivery.replySubject, delivery.subject, delivery.seq⟩ with
        | .ok channel => (.delivered, bus.setChannel delivery.subscriberId channel)
        | .error error => (.transient error.message, bus)
      else (.permanent "in-process sender no longer registered", bus)
  | .webSocket => (.permanent "WebSocket subscriptions are not retryable", bus)

end Bus

namespace RetryPhase

/-- The report that gives a delivery up. -/
def deadLetter (delivery : RetryableDelivery) (reason : String) : Report where
  subscriberId := delivery.subscriberId
  status := .deadLettered
  error := some ("dead-lettered: " ++ reason)
  nextRetry := none

/-- What a retry outcome is recorded as. -/
def reportOf (config : Config) (now draw : ℕ) (delivery : RetryableDelivery) :
    RetryOutcome → Report
  | .delivered =>
      { subscriberId := delivery.subscriberId, status := .delivered, error := none,
        nextRetry := none }
  | .transient message =>
      let newAttempts := delivery.attempts + 1
      if config.retry.maxAttempts ≤ newAttempts then
        deadLetter delivery ("max attempts (" ++ toString config.retry.maxAttempts ++
          ") exhausted: " ++ message)
      else
        { subscriberId := delivery.subscriberId, status := .failed, error := some message,
          nextRetry := some (nextRetryAfter now newAttempts config.retry draw) }
  | .permanent message => deadLetter delivery message

def attemptOf (delivery : RetryableDelivery) (answer : RetryOutcome × Bus) : Attempt where
  seq := delivery.seq
  subscriberId := delivery.subscriberId
  payload := delivery.payload
  source := .retry
  outcome := answer.1.attempt
  time := answer.2.clock
  buffer := none

/-- Log an attempt and carry its outcome to the store write. -/
def finishAttempt (config : Config) (input : RetryInput) (delivery : RetryableDelivery)
    (todo : List RetryableDelivery) (answer : RetryOutcome × Bus) : Bus × RetryPhase :=
  (answer.2.note (.attempted (attemptOf delivery answer)),
    .recording delivery (reportOf config answer.2.clock input.draw delivery answer.1) todo)

/-- The status of an event all of whose deliveries are over, if they are. -/
def verdict (event : StoredEvent) : Option EventStatus :=
  if event.deliveries.all fun record ↦ record.status = .delivered ∨ record.status = .deadLettered
  then some (if event.deliveries.any (·.status = .deadLettered) then .deadLettered else .delivered)
  else none

/-- Whether the task is about to load this event, to see whether its deliveries are over. -/
def loads (seq : ℕ) : RetryPhase → Bool
  | loading other _ => other = seq
  | _ => false

/-- The final status the task is about to write of this event. -/
def decided (seq : ℕ) : RetryPhase → Option EventStatus
  | finalizing other status _ => if other = seq then some status else none
  | _ => none

/-- Whether the task is about to write a final status of this event. -/
def finalizes (seq : ℕ) : RetryPhase → Bool
  | finalizing other _ _ => other = seq
  | _ => false

/-- One step of the retry task. -/
def step (config : Config) (input : RetryInput) (bus : Bus) : RetryPhase → Bus × RetryPhase
  | idle => (bus, idle)
  | working [] => (bus, idle)
  | working (delivery :: todo) =>
      if config.retry.maxAttempts ≤ delivery.attempts then
        (bus, recording delivery (deadLetter delivery "max attempts exceeded") todo)
      else match bus.index.findById delivery.subscriberId with
        | none => finishAttempt config input delivery todo
            (.permanent ("subscriber " ++ delivery.subscriberId ++ " no longer exists"), bus)
        | some entry =>
            (bus, calling delivery ⟨entry.channel, delivery.subscriberId ∈ bus.senders⟩ todo)
  | calling delivery target todo =>
      finishAttempt config input delivery todo
        (bus.retryToSubscriber config input.delivery delivery target)
  | recording delivery report todo =>
      (bus.recordDelivery input.storeOk delivery.seq report,
        if report.status = .failed then working todo else loading delivery.seq todo)
  | loading seq todo =>
      let verdict := if input.storeOk then (bus.store.get seq).bind verdict else none
      (bus, match verdict with
        | some status => finalizing seq status todo
        | none => working todo)
  | finalizing seq status todo => (bus.updateStatus input.storeOk seq status, working todo)

/-- Ask the store for the deliveries that are due. -/
def poll (config : Config) (bus : Bus) : RetryPhase :=
  working (bus.store.queryRetryable bus.clock config.retry.maxAttempts config.queryLimit)

end RetryPhase

end Seidrum.EventBus
