import Seidrum.EventBus.Delivery.Retry
import Seidrum.EventBus.Transport.WebhookUrl
import Seidrum.Foundation.Program

/-!
# The webhook channel and its circuit breaker

A delivery to a webhook asks the circuit of its URL for admission, validates the URL, sends one
request, and tells the circuit how it ended.  Each of these is one operation under the lock of the
circuits, or a call outside of it, so that other deliveries to the same URL may run in between.

Forwarders, one for each subscription, deliver events as they come; the retry task delivers again
what failed.  Durations are in milliseconds.
-/

namespace Seidrum.EventBus

open Seidrum.Foundation

/-- Webhook circuit breaker settings. -/
structure WebhookCircuitBreakerConfig where
  /-- Consecutive delivery failures before opening the circuit. -/
  failureThreshold : ℕ
  /-- Initial open-circuit cooldown before allowing a half-open probe. -/
  initialCooldown : ℕ
  /-- Maximum cooldown after repeated failed half-open probes. -/
  maxCooldown : ℕ
  deriving DecidableEq, Repr

def WebhookCircuitBreakerConfig.default : WebhookCircuitBreakerConfig := ⟨3, 30000, 300000⟩

inductive CircuitMode
  | closed
  | opened
  | halfOpen
  deriving DecidableEq, Repr

structure CircuitState where
  mode : CircuitMode
  consecutiveFailures : ℕ
  /-- The cooldown of the next opening. -/
  cooldown : ℕ
  openedUntil : Option ℕ
  deriving DecidableEq, Repr

/-- The largest 32-bit unsigned number, at which the failure count stops. -/
def u32Max : ℕ := 2 ^ 32 - 1

namespace CircuitState

def new (config : WebhookCircuitBreakerConfig) : CircuitState where
  mode := .closed
  consecutiveFailures := 0
  cooldown := config.initialCooldown
  openedUntil := none

/-- The circuit is open and its cooldown is not over. -/
def Refuses (now : ℕ) (circuit : CircuitState) : Prop :=
  circuit.mode = .opened ∧ ¬∃ until_ ∈ circuit.openedUntil, until_ ≤ now

/-- A delivery that is let through now is a probe. -/
def Probes (now : ℕ) (circuit : CircuitState) : Prop :=
  circuit.mode ≠ .closed ∧ ¬circuit.Refuses now

instance (now : ℕ) (circuit : CircuitState) : Decidable (circuit.Refuses now) :=
  inferInstanceAs (Decidable (_ ∧ ¬∃ until_ ∈ circuit.openedUntil, until_ ≤ now))

instance (now : ℕ) (circuit : CircuitState) : Decidable (circuit.Probes now) :=
  inferInstanceAs (Decidable (_ ∧ ¬_))

/-- Whether a delivery may go on; the mode it goes on in is not looked at. -/
def ensureCircuitAllowsDelivery (now : ℕ) (circuit : CircuitState) :
    Except DeliveryError CircuitMode × CircuitState :=
  match circuit.mode with
  | .closed => (.ok .closed, circuit)
  | .halfOpen => (.ok .halfOpen, circuit)
  | .opened =>
      if ∃ until_ ∈ circuit.openedUntil, until_ ≤ now then
        (.ok .halfOpen, { circuit with mode := .halfOpen })
      else
        (.error (.failed "webhook circuit open; delivery skipped until cooldown expires"), circuit)

/-- Count a failure, and open the circuit at the threshold or when it was half-open.  The answer is
the cooldown that is logged when the circuit opens. -/
def recordFailure (config : WebhookCircuitBreakerConfig) (now : ℕ) (circuit : CircuitState) :
    Option ℕ × CircuitState :=
  let consecutiveFailures := min (circuit.consecutiveFailures + 1) u32Max
  if circuit.mode = .halfOpen ∨ config.failureThreshold ≤ consecutiveFailures then
    (some circuit.cooldown,
      { mode := .opened
        consecutiveFailures
        cooldown := min (circuit.cooldown * 2) config.maxCooldown
        openedUntil := some (now + circuit.cooldown) })
  else (none, { circuit with consecutiveFailures })

end CircuitState

/-- A `POST` of an event. -/
structure WebhookRequest where
  url : String
  subject : String
  payload : Payload
  deriving DecidableEq, Repr

structure HttpResponse where
  status : ℕ
  reason : Option String
  deriving DecidableEq, Repr

namespace HttpResponse

def isSuccess (response : HttpResponse) : Bool := 200 ≤ response.status ∧ response.status < 300

def isClientError (response : HttpResponse) : Bool := 400 ≤ response.status ∧ response.status < 500

/-- A client error does not get better with retries, save for three that say so. -/
def error (response : HttpResponse) : DeliveryError :=
  let message := "HTTP " ++ toString response.status ++ ": " ++ response.reason.getD "unknown"
  if response.isClientError ∧ response.status ≠ 408 ∧ response.status ≠ 425 ∧
      response.status ≠ 429 then .permanent message
  else .failed message

end HttpResponse

/-- Why a URL was not validated. -/
inductive ValidationFailure
  | rejected (error : WebhookUrlError)
  | panicked (reason : String)
  deriving DecidableEq, Repr

def ValidationFailure.error : ValidationFailure → DeliveryError
  | rejected error => .permanent ("URL no longer passes SSRF policy: " ++ error.message)
  | panicked reason => .failed ("validation task panicked: " ++ reason)

/-- One step of a forwarder or of the retry task. -/
inductive WebhookOp
  | ensureCircuitAllowsDelivery (url : String)
  | validateWebhookUrlResolved (url : String)
  | buildPinnedClient (validated : ValidatedWebhookUrl)
  | send (request : WebhookRequest)
  | recordSuccess (url : String)
  | recordFailure (url : String)
  /-- the subscription of a delivery, and whether it has a sender -/
  | retryTarget (subscriberId : String)
  /-- a delivery to a subscription that is no webhook -/
  | retryToSubscriber (delivery : RetryableDelivery) (target : RetryTarget)
  | recordDelivery (delivery : RetryableDelivery) (outcome : RetryOutcome)
  | get (seq : ℕ)
  | updateStatus (seq : ℕ) (status : EventStatus)
  deriving DecidableEq

abbrev WebhookAnswer : WebhookOp → Type
  | .ensureCircuitAllowsDelivery _ => Except DeliveryError CircuitMode
  | .validateWebhookUrlResolved _ => Except ValidationFailure ValidatedWebhookUrl
  | .buildPinnedClient _ => Except String Unit
  | .send _ => Except String HttpResponse
  | .recordSuccess _ => Unit
  | .recordFailure _ => Option ℕ
  | .retryTarget _ => Option RetryTarget
  | .retryToSubscriber _ _ => RetryOutcome
  | .recordDelivery _ _ => Report
  | .get _ => Option StoredEvent
  | .updateStatus _ _ => Unit

namespace WebhookChannel

/-- End a delivery that failed. -/
def fail (url : String) (error : DeliveryError) :
    Program WebhookAnswer (Except DeliveryError Unit) := do
  let _ ← Program.ask (WebhookOp.recordFailure url)
  return .error error

/-- One delivery attempt. -/
def deliver (payload : Payload) (subject : String) :
    ChannelConfig → Program WebhookAnswer (Except DeliveryError Unit)
  | .webhook url => do
      match ← Program.ask (WebhookOp.ensureCircuitAllowsDelivery url) with
      | .error error => return .error error
      | .ok _ =>
      match ← Program.ask (WebhookOp.validateWebhookUrlResolved url) with
      | .error failure => fail url failure.error
      | .ok validated =>
      match ← Program.ask (WebhookOp.buildPinnedClient validated) with
      | .error reason => fail url (.failed ("failed to build pinned client: " ++ reason))
      | .ok _ =>
      match ← Program.ask (WebhookOp.send ⟨url, subject, payload⟩) with
      | .error reason => fail url (.failed ("HTTP request failed: " ++ reason))
      | .ok response =>
          if response.isSuccess then
            let _ ← Program.ask (WebhookOp.recordSuccess url)
            return .ok ()
          else fail url response.error
  | _ => return .error (.failed "Invalid config for WebhookChannel")

end WebhookChannel

namespace RetryTask

/-- Set the final status of an event once none of its deliveries is left to retry. -/
def maybeFinalizeEvent (seq : ℕ) : Program WebhookAnswer Unit := do
  match ← Program.ask (WebhookOp.get seq) with
  | none => return ()
  | some event =>
      match RetryPhase.verdict event with
      | none => return ()
      | some status => Program.ask (WebhookOp.updateStatus seq status)

/-- Record how an attempt ended; only a failure that is retried leaves the event as it is. -/
def finish (delivery : RetryableDelivery) (outcome : RetryOutcome) : Program WebhookAnswer Unit := do
  let report ← Program.ask (WebhookOp.recordDelivery delivery outcome)
  if report.status = .failed then return ()
  else maybeFinalizeEvent delivery.seq

def retryToSubscriber (delivery : RetryableDelivery) : Program WebhookAnswer RetryOutcome := do
  match ← Program.ask (WebhookOp.retryTarget delivery.subscriberId) with
  | none => return .permanent ("subscriber " ++ delivery.subscriberId ++ " no longer exists")
  | some target =>
      match target.channel with
      | .webhook url => channelOutcome <$>
          WebhookChannel.deliver delivery.payload delivery.subject (.webhook url)
      | _ => Program.ask (WebhookOp.retryToSubscriber delivery target)

def retryDelivery (maxAttempts : ℕ) (delivery : RetryableDelivery) : Program WebhookAnswer Unit :=
  if maxAttempts ≤ delivery.attempts then finish delivery (.permanent "max attempts exceeded")
  else do finish delivery (← retryToSubscriber delivery)

end RetryTask

/-- A delivery by a forwarder, or one by the retry task. -/
inductive WebhookCall
  | forward (channel : ChannelConfig) (event : DispatchedEvent)
  | retry (delivery : RetryableDelivery)
  deriving DecidableEq, Repr

def WebhookCall.isRetry : WebhookCall → Bool
  | forward .. => false
  | retry _ => true

/-- What a call does.  A forwarder only logs an error. -/
def WebhookCall.body (config : Config) : WebhookCall → Program WebhookAnswer Unit
  | forward channel event => do
      let _ ← WebhookChannel.deliver event.payload event.subject channel
      return ()
  | retry delivery => RetryTask.retryDelivery config.retry.maxAttempts delivery

structure WebhookConfig where
  bus : Config
  policy : WebhookUrlPolicy
  circuit : WebhookCircuitBreakerConfig

structure WebhookState where
  bus : Bus
  /-- A URL that was never asked for has a new circuit. -/
  circuits : String → CircuitState

/-- What the environment contributes to one operation. -/
structure WebhookEnv where
  /-- What the rest of the server does to the bus, and to its clock, before the operation. -/
  meanwhile : Bus → Bus
  url : UrlEnv
  panicked : Option String
  clientError : Option String
  response : Except String HttpResponse
  /-- The answer of a custom channel. -/
  delivery : Except DeliveryError Unit
  draw : ℕ
  storeOk : Bool

namespace WebhookState

/-- A channel that was just made. -/
def start (config : WebhookConfig) (bus : Bus) : WebhookState := ⟨bus, fun _ ↦ .new config.circuit⟩

def setCircuit (url : String) (circuit : CircuitState) (state : WebhookState) : WebhookState :=
  { state with circuits := fun other ↦ if other = url then circuit else state.circuits other }

/-- The effect of one operation, at a time of the environment's choice. -/
def performNow (config : WebhookConfig) (state : WebhookState) :
    (op : WebhookOp) → WebhookEnv → WebhookAnswer op × WebhookState
  | .ensureCircuitAllowsDelivery url, _ =>
      let (answer, circuit) := (state.circuits url).ensureCircuitAllowsDelivery state.bus.clock
      (answer, state.setCircuit url circuit)
  | .validateWebhookUrlResolved url, env =>
      match env.panicked with
      | some reason => (.error (.panicked reason), state)
      | none => ((EventBus.validateWebhookUrlResolved env.url url config.policy).mapError .rejected,
          state)
  | .buildPinnedClient _, env =>
      match env.clientError with
      | some reason => (.error reason, state)
      | none => (.ok (), state)
  | .send _, env => (env.response, state)
  | .recordSuccess url, _ => ((), state.setCircuit url (.new config.circuit))
  | .recordFailure url, _ =>
      let (opened, circuit) := (state.circuits url).recordFailure config.circuit state.bus.clock
      (opened, state.setCircuit url circuit)
  | .retryTarget subscriberId, _ =>
      ((state.bus.index.findById subscriberId).map fun entry ↦
        ⟨entry.channel, subscriberId ∈ state.bus.senders⟩, state)
  | .retryToSubscriber delivery target, env =>
      let (outcome, bus) := state.bus.retryToSubscriber config.bus env.delivery delivery target
      (outcome, { state with bus })
  | .recordDelivery delivery outcome, env =>
      let report := RetryPhase.reportOf config.bus state.bus.clock env.draw delivery outcome
      (report, { state with bus := state.bus.recordDelivery env.storeOk delivery.seq report })
  | .get seq, env => (if env.storeOk then state.bus.store.get seq else none, state)
  | .updateStatus seq status, env =>
      ((), { state with bus := state.bus.updateStatus env.storeOk seq status })

/-- The rest of the server moves. -/
def meanwhile (env : WebhookEnv) (state : WebhookState) : WebhookState :=
  { state with bus := env.meanwhile state.bus }

def perform (config : WebhookConfig) (state : WebhookState) (op : WebhookOp) (env : WebhookEnv) :
    Option (WebhookAnswer op × WebhookState) :=
  some ((state.meanwhile env).performNow config op env)

theorem perform_eq {config : WebhookConfig} {state after : WebhookState} {op : WebhookOp}
    {env : WebhookEnv} {answer : WebhookAnswer op}
    (h : state.perform config op env = some (answer, after)) :
    answer = ((state.meanwhile env).performNow config op env).1 ∧
      after = ((state.meanwhile env).performNow config op env).2 := by
  rw [Option.some.inj h]
  exact ⟨rfl, rfl⟩

end WebhookState

/-- Deliveries of one channel, interleaved at every operation. -/
abbrev WebhookCalls := Tasks WebhookState WebhookCall WebhookAnswer Unit

def webhookCalls (config : WebhookConfig) : Steps WebhookCalls (Move WebhookCall WebhookEnv) :=
  Tasks.step (WebhookCall.body config.bus) (WebhookState.perform config)

end Seidrum.EventBus
