import Seidrum.EventBus.RequestReply.Exchange
import Seidrum.EventBus.Transport.Registration
import Seidrum.EventBus.Transport.WebSocket

/-!
# The ways into the bus

The program around the bus calls it directly.  WebSocket clients send operations and HTTP clients
call endpoints; each comes, after the checks of its transport, to one call on the bus at most.  The
connection and the server that a client talks to may be in any state.
-/

namespace Seidrum.EventBus

open Seidrum.Foundation

namespace Exchange

/-- The check of the reserved subjects in `publish`. -/
def checkReserved (subject : String) : Except EventBusError Unit :=
  if isReplySubject subject then
    .error (.invalidSubject
      "subjects starting with '_reply.' are reserved for internal request/reply routing")
  else .ok ()

/-- Publish on the bus; the engine gets what is not reserved. -/
def publish (intercepting : Option String) (subject : String) (payload : Payload)
    (storeError : Option StorageError) (state : Exchange) : Except EventBusError Unit × Exchange :=
  match checkReserved subject with
  | .error error => (.error error, state)
  | .ok _ => state.publishEvent .caller intercepting subject payload none storeError

variable {subject : String} {state : Exchange}

theorem publish_reserved (h : isReplySubject subject = true) (intercepting : Option String)
    (payload : Payload) (storeError : Option StorageError) (state : Exchange) :
    ∃ error, state.publish intercepting subject payload storeError = (.error error, state) := by
  simp [publish, checkReserved, h]

theorem step_publish (config : Config) (state : Exchange) (intercepting : Option String)
    (subject : String) (payload : Payload) (storeError : Option StorageError) :
    step config state (.publish intercepting subject payload storeError) =
      some (state.publish intercepting subject payload storeError).2 := by
  simp only [step, publish, checkReserved]
  split_ifs <;> rfl

/-- A publish that is accepted is the caller's. -/
theorem publishers_publish {intercepting : Option String} {payload : Payload}
    {storeError : Option StorageError} {result : Unit}
    (h : (state.publish intercepting subject payload storeError).1 = .ok result) :
    (state.publish intercepting subject payload storeError).2.publishers =
      state.publishers ++ [.caller] := by
  unfold publish at h ⊢
  split at h
  · simp at h
  · obtain ⟨error, hpublish⟩ | ⟨bus, d, _, hpublish⟩ := publishEvent_cases .caller intercepting
      subject payload none storeError state
    · rw [hpublish] at h
      simp at h
    · rw [hpublish]
      rfl

/-- A request is made under fresh identifiers. -/
theorem requests_of_step {config : Config} {next : Exchange} {call : RequestCall} {ulid id : String}
    (h : step config state (.request call ulid id) = some next) :
    state.freshRequest ulid id = true ∧
      next.requests = state.requests ++ [⟨call, replySubjectOf ulid, id, .registered⟩] := by
  simp only [step] at h
  split_ifs at h with hfresh
  have hulid : isUlid ulid = true := by
    simp only [freshRequest, Bool.and_eq_true] at hfresh
    exact hfresh.1.1.1.1.1
  obtain ⟨index, _, hregistered⟩ := Bus.registerOneShot_ok hulid id state.core.bus
  rw [hregistered] at h
  cases h
  exact ⟨hfresh, rfl⟩

end Exchange

/-- What a call is given from elsewhere: new identifiers, the time, and a failure of the store. -/
structure CallInput where
  ulid : String
  id : String
  nowMs : ℕ
  storeError : Option StorageError

/-- The subscription a WebSocket client makes. -/
def webSocketEntry (id pattern : String) (priority : ℕ) : SubscriptionEntry :=
  { id, subjectPattern := pattern, priority, mode := .async, channel := .webSocket,
    timeout := 5000, filter := none }

/-- The step a call starts with.  A channel type is not part of the exchange. -/
def BusCall.label (input : CallInput) : BusCall → Option ExchangeLabel
  | publish subject payload => some (.publish none subject payload input.storeError)
  | subscribe pattern priority =>
      some (.core (.subscribe (webSocketEntry input.id pattern priority)))
  | unsubscribe id => some (.core (.unsubscribe id))
  | request subject payload _ => some (.request ⟨none, subject, payload⟩ input.ulid input.id)
  | registerChannelType _ => none
  | intercept pattern priority timeoutMs =>
      some (.core (.intercept input.id pattern priority timeoutMs))

/-- The endpoints that change something on the bus. -/
inductive HttpOperation
  | publish (subject payload : String)
  | request (subject payload : String) (timeoutMs : ℕ)
  | createSubscription (req : AppState.SubscribeRequest)
  | removeSubscription (id : String)
  | createInterceptor (req : AppState.RegisterInterceptorRequest)
  | removeInterceptor (id : String)
  | replayDeadLettered (seq : ℕ)

section

variable (base64 : Base64) (env : UrlEnv)

/-- The step an endpoint starts.  A registration that cannot be persisted is unsubscribed again,
which is a call of its own. -/
def AppState.label (input : CallInput) (server : AppState) : HttpOperation → Option ExchangeLabel
  | .publish subject payload =>
      match validateAndDecodePayload base64 payload with
      | .error _ => none
      | .ok decoded => (BusCall.publish subject decoded).label input
  | .request subject payload timeoutMs =>
      match validateAndDecodePayload base64 payload with
      | .error _ => none
      | .ok decoded => (BusCall.request subject decoded timeoutMs).label input
  | .createSubscription req =>
      match server.admission env "POST /subscribe" "INVALID_SUBSCRIBE_PATTERN" req.pattern req.url
          (input.nowMs / 1000) with
      | (.error _, _) => none
      | (.ok _, counted) =>
          if maxHttpSubscriptions ≤ counted.subscriptionCount then none
          else some (.core (.createSubscription input.id req.pattern req.url req.priority))
  | .removeSubscription id =>
      if id ∈ server.subscriptionIds then some (.core (.unsubscribe id)) else none
  | .createInterceptor req =>
      match server.admission env "POST /interceptors" "INVALID_INTERCEPTOR_PATTERN" req.pattern req.url
          (input.nowMs / 1000) with
      | (.error _, _) => none
      | (.ok _, counted) =>
          if maxHttpInterceptors ≤ counted.interceptorCount then none
          else (BusCall.intercept req.pattern (clampRemoteInterceptorPriority req.priority)
            (clampRemoteInterceptorTimeout req.timeoutMs)).label input
  | .removeInterceptor id =>
      if id ∈ server.interceptorIds then some (.core (.unsubscribe id)) else none
  | .replayDeadLettered seq =>
      match server.refuseIfUnauthStateChanging "POST /dead-letter/:seq/replay" with
      | .error _ => none
      | .ok _ => some (.replay seq input.storeError)

/-- A call on the bus, a step of what runs on it, or an operation of a client. -/
inductive Entry
  | call (label : ExchangeLabel)
  | webSocket (connection : Connection) (operation : ClientOperation) (input : CallInput)
  | http (server : AppState) (operation : HttpOperation) (input : CallInput)

def Entry.label : Entry → Option ExchangeLabel
  | call label => some label
  | webSocket connection operation input =>
      (connection.handleOperation base64 operation).call.bind (·.label input)
  | http server operation input => server.label base64 env input operation

/-- A bus with clients on all its transports. -/
def enter (config : Config) : Steps Exchange Entry := fun state entry ↦
  match entry.label base64 env with
  | some label => Exchange.step config state label
  | none => some state

end

variable {base64 : Base64} {env : UrlEnv} {entry : Entry} {pattern id : String} {result : Unit}
  {priority : ℕ} {timeout : Option ℕ}

theorem enter_eq {config : Config} {state next : Exchange}
    (h : enter base64 env config state entry = some next) :
    next = state ∨ ∃ label, entry.label base64 env = some label ∧
      Exchange.step config state label = some next := by
  unfold enter at h
  cases hlabel : entry.label base64 env with
  | none =>
    rw [hlabel] at h
    exact .inl (Option.some.inj h).symm
  | some label =>
    rw [hlabel] at h
    exact .inr ⟨label, rfl, h⟩

theorem not_patternMatches_of_accepted {subject : String}
    (haccepted : validateRemotePattern pattern = .ok ()) (hreply : isReplySubject subject = true) :
    patternMatches (tokens pattern) (tokens subject) = false := by
  obtain ⟨first, rest, hfirst, hany, hrest, hreserved⟩ := first_of_validateRemotePattern haccepted
  obtain ⟨others, hothers⟩ := tokens_of_isReplySubject hreply
  rw [hfirst, hothers, not_patternMatches_of_first_ne ⟨hany, hrest⟩ hreserved]

theorem Connection.accepted_of_checkInterceptor {connection : Connection}
    (h : connection.checkInterceptor pattern = .ok result) :
    validateRemotePattern pattern = .ok () := by
  simp only [checkInterceptor, bind, Except.bind] at h
  split at h
  · simp at h
  · split at h
    · simp at h
    · assumption

theorem AppState.accepted_of_admit {opName patternCode url : String} {nowSecs : ℕ}
    {server counted : AppState}
    (h : server.admission env opName patternCode pattern url nowSecs = (.ok result, counted)) :
    validateRemotePattern pattern = .ok () := by
  unfold admission at h
  split at h
  · simp at h
  · split at h
    · simp at h
    · split at h
      · simp at h
      · assumption

theorem BusCall.label_intercept {input : CallInput} {call : BusCall}
    (h : call.label input = some (.core (.intercept id pattern priority timeout))) :
    call = .intercept pattern priority timeout := by
  cases call with
  | intercept => simp_all [label]
  | _ => simp [label] at h

/-- A client registers interceptors on accepted patterns only. -/
theorem Entry.label_intercept
    (h : entry.label base64 env = some (.core (.intercept id pattern priority timeout))) :
    entry = .call (.core (.intercept id pattern priority timeout)) ∨
      validateRemotePattern pattern = .ok () := by
  cases entry with
  | call label => exact .inl (congrArg Entry.call (Option.some.inj h))
  | webSocket connection operation input =>
    right
    obtain ⟨call, hcall, hlabel⟩ := Option.bind_eq_some_iff.mp h
    obtain rfl := BusCall.label_intercept hlabel
    cases operation with
    | registerInterceptor =>
      simp only [Connection.handleOperation] at hcall
      split at hcall
      · simp [Handling.call] at hcall
      · rename_i hchecked
        obtain ⟨rfl, _⟩ := BusCall.intercept.inj (Option.some.inj hcall)
        exact Connection.accepted_of_checkInterceptor hchecked
    | unsubscribe =>
      simp only [Connection.handleOperation] at hcall
      split_ifs at hcall <;> simp [Handling.call] at hcall
    | _ =>
      simp only [Connection.handleOperation] at hcall
      first | (split at hcall <;> simp [Handling.call] at hcall) | simp [Handling.call] at hcall
  | http server operation input =>
    right
    cases operation with
    | createInterceptor req =>
      simp only [Entry.label, AppState.label] at h
      split at h
      · simp at h
      · rename_i counted hadmitted
        split_ifs at h
        obtain ⟨rfl, _⟩ := BusCall.intercept.inj (BusCall.label_intercept h)
        exact AppState.accepted_of_admit hadmitted
    | publish | request =>
      simp only [Entry.label, AppState.label] at h
      split at h <;> simp [BusCall.label] at h
    | createSubscription =>
      simp only [Entry.label, AppState.label] at h
      split at h
      · simp at h
      · split_ifs at h
        simp at h
    | replayDeadLettered =>
      simp only [Entry.label, AppState.label] at h
      split at h <;> simp at h
    | _ =>
      simp only [Entry.label, AppState.label] at h
      split_ifs at h
      simp at h

end Seidrum.EventBus
