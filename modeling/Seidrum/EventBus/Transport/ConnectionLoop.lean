import Seidrum.EventBus.Transport.Answering
import Seidrum.EventBus.Transport.Gateway

/-!
# The loop of a WebSocket connection

One task serves a connection.  In turn it reads a frame of the client and handles the operation in
it to the end, or sends the next message of a queue which the forwarders of subscriptions and the
proxies of remote interceptors and channels fill.  In the middle of an operation that waits for the
bus it does neither.

The loop runs beside the bus.  A dispatch that comes to an interceptor of the connection runs its
proxy, which puts a frame on the queue and waits for the reply; that call is a party of its own.
-/

namespace Seidrum.EventBus

open Seidrum.Foundation

/-- The operation in a frame, or the error it is answered with. -/
def Frame.accept (frame : Frame) : Except String ClientOperation :=
  if maxFrameSize < frame.length then
    .error ("Message too large (max " ++ toString maxFrameSize ++ " bytes)")
  else match frame.operation with
    | .error error => .error ("Invalid operation: " ++ error)
    | .ok operation => .ok operation

/-- Maximum number of calls of one proxy that wait for a reply. -/
def maxPendingIntercepts : ℕ := 1024

/-- What a reply makes of an event. -/
def WsInterceptAction.outcome (payload : Payload) : WsInterceptAction → InterceptOutcome
  | .pass => .completed .pass payload
  | .modify new => .completed .modified new
  | .drop => .completed .drop payload

/-- A call of a proxy by a dispatch. -/
structure InterceptCall where
  requestId : String
  /-- The id the interceptor is registered under. -/
  proxy : String
  dispatch : ℕ
  /-- When the call was made, the connection was waiting for this dispatch. -/
  own : Bool
  subject : String
  payload : Payload
  /-- There was room among the pending calls. -/
  admitted : Bool
  /-- Its frame is on the queue, or was. -/
  pushed : Bool
  /-- What was sent to it. -/
  reply : Option WsInterceptAction
  /-- How it ended. -/
  outcome : Option InterceptOutcome
  deriving DecidableEq, Repr

namespace InterceptCall

/-- A reply would be sent to it. -/
def isPending (call : InterceptCall) : Bool :=
  call.admitted && call.reply.isNone && call.outcome.isNone

/-- Send a reply to a pending call. -/
def signal (action : WsInterceptAction) (call : InterceptCall) : InterceptCall :=
  if call.isPending then { call with reply := some action } else call

end InterceptCall

/-- What a call of a proxy does next. -/
inductive InterceptMove
  /-- its frame goes on the queue -/
  | push
  /-- it returns what it was sent -/
  | finish
  /-- its own timer fires -/
  | timeout
  /-- too many calls are pending -/
  | full
  /-- the connection is gone -/
  | closed
  /-- the timer of the engine fires -/
  | abort
  deriving DecidableEq, Repr

/-! ## The loop -/

/-- What an operation waits for, and how it goes on. -/
inductive AwaitedCall
  | publish (i : ℕ) (resume : Except EventBusError ℕ → Reaction)
  | request (r : ℕ) (resume : Except EventBusError Payload → Reaction)

/-- An operation in the middle of a call, with the number of frames read and of messages sent before
the call. -/
structure Awaited where
  call : AwaitedCall
  read : ℕ
  sent : ℕ

/-- Messages that fit on the queue. -/
def forwardCapacity : ℕ := 256

/-- A bus, and one of its WebSocket connections. -/
structure ConnectionLoop where
  exchange : Exchange
  connection : Connection
  isOpen : Bool
  awaited : Option Awaited
  /-- The frames that arrived and are not read yet. -/
  inbox : List Frame
  /-- The frames read so far. -/
  read : List Frame
  /-- The queue. -/
  forward : List ServerMessage
  /-- The messages sent so far. -/
  sent : List ServerMessage
  /-- The events that forwarders are about to put on the queue. -/
  held : List (String × DispatchedEvent)
  /-- The subscriptions the connection ever made. -/
  forwarders : List String
  /-- The proxies ever made for it; a dispatch may hold on to one that is unregistered. -/
  proxies : List String
  /-- The requests it ever made. -/
  requests : List ℕ
  /-- The calls of its proxies. -/
  calls : List InterceptCall

/-- Who moves next. -/
inductive LoopLabel
  /-- a frame of the client arrives -/
  | arrive (frame : Frame)
  /-- the loop reads a frame and handles its operation, as far as it gets -/
  | handle (input : CallInput)
  /-- the call an operation waits for has returned -/
  | resume
  /-- the loop sends the next message of the queue -/
  | send
  /-- a forwarder takes the next event of its subscription -/
  | take (subscriptionId : String)
  /-- a forwarder puts its event on the queue -/
  | forward (subscriptionId : String)
  /-- the proxy of a remote channel puts a frame on the queue -/
  | deliver (requestId channelType subject payload : String)
  /-- a dispatch calls a proxy -/
  | intercept (i : ℕ) (requestId : String)
  | ofCall (c : ℕ) (move : InterceptMove)
  /-- the client disconnects -/
  | close
  /-- after that, a registration is taken off the bus -/
  | leave (id : String)
  /-- the rest of the bus -/
  | bus (label : ExchangeLabel)

namespace ConnectionLoop

/-- A bus on a store, with a connection that nothing was received on. -/
def build (store : InMemoryEventStore) (clock : ℕ) (authOpen devMode : Bool) : ConnectionLoop where
  exchange := .build store clock
  connection := .new authOpen devMode
  isOpen := true
  awaited := none
  inbox := []
  read := []
  forward := []
  sent := []
  held := []
  forwarders := []
  proxies := []
  requests := []
  calls := []

/-- Put a message on the queue. -/
def enqueue (message : ServerMessage) (loop : ConnectionLoop) : Option ConnectionLoop :=
  if loop.isOpen && loop.forward.length < forwardCapacity then
    some { loop with forward := loop.forward ++ [message] }
  else none

/-- Hand a reply to the call that waits for it, if its interceptor is still registered. -/
def route (signal : Option Signal) (connection : Connection) (calls : List InterceptCall) :
    List InterceptCall :=
  match signal with
  | some (.intercepted requestId action) => calls.map fun call ↦
      if call.requestId = requestId && call.proxy ∈ connection.remoteInterceptors.map Prod.fst then
        call.signal action
      else call
  | _ => calls

/-- End an operation. -/
def react (reaction : Reaction) (loop : ConnectionLoop) : ConnectionLoop :=
  { loop with
    awaited := none
    connection := reaction.connection
    sent := loop.sent ++ reaction.messages
    calls := route reaction.signal loop.connection loop.calls }

/-- Wait for a call. -/
def await (call : AwaitedCall) (loop : ConnectionLoop) : ConnectionLoop :=
  { loop with awaited := some ⟨call, loop.read.length, loop.sent.length⟩ }

/-- Take a registration off the bus: a subscription together with its forwarder; an interceptor
after its pending calls were told to pass. -/
def detach (config : Config) (id : String) (loop : ConnectionLoop) : Option ConnectionLoop :=
  if id ∈ loop.connection.subscriptions.map Prod.fst then
    (Exchange.step config loop.exchange (.core (.closeChannel id))).bind fun exchange ↦
      (Exchange.step config exchange (.core (.unsubscribe id))).map fun exchange ↦
        { loop with exchange, held := loop.held.filter (·.1 ≠ id) }
  else
    (Exchange.step config loop.exchange (.core (.unsubscribe id))).map fun exchange ↦
      { loop with
        exchange
        calls := loop.calls.map fun call ↦ if call.proxy = id then call.signal .pass else call }

/-- Make a call on the bus.  A publish that is accepted waits for its dispatch, and a request for its
reply; the other calls return at once. -/
def perform (config : Config) (input : CallInput) (loop : ConnectionLoop) :
    (call : BusCall) → (Except EventBusError call.Answer → Reaction) → Option ConnectionLoop
  | .publish subject payload, resume =>
      let published := loop.exchange.publish none subject payload input.storeError
      match published.1 with
      | .error error => some ({ loop with exchange := published.2 }.react (resume (.error error)))
      | .ok _ => some ({ loop with exchange := published.2 }.await
          (.publish loop.exchange.core.dispatches.length resume))
  | .request subject payload _, resume =>
      (Exchange.step config loop.exchange
        (.request ⟨none, subject, payload⟩ input.ulid input.id)).map fun exchange ↦
          let r := loop.exchange.requests.length
          { loop with exchange, requests := r :: loop.requests }.await (.request r resume)
  | .subscribe pattern priority, resume =>
      let entry := webSocketEntry input.id pattern priority
      (Exchange.step config loop.exchange (.core (.subscribe entry))).map fun exchange ↦
        match loop.exchange.core.bus.subscribe entry with
        | .error error => { loop with exchange }.react (resume (.error error))
        | .ok _ => { loop with exchange, forwarders := input.id :: loop.forwarders }.react
            (resume (.ok input.id))
  | .intercept pattern priority timeoutMs, resume =>
      (Exchange.step config loop.exchange
        (.core (.intercept input.id pattern priority timeoutMs))).map fun exchange ↦
          match loop.exchange.core.bus.intercept input.id pattern priority timeoutMs with
          | .error error => { loop with exchange }.react (resume (.error error))
          | .ok _ => { loop with exchange, proxies := input.id :: loop.proxies }.react
              (resume (.ok input.id))
  | .unsubscribe id, resume => (loop.detach config id).map (·.react (resume (.ok ())))
  | .registerChannelType _, resume => some (loop.react (resume (.ok ())))

section

variable (config : Config) (base64 : Base64)

/-- Handle an operation as far as it gets. -/
def operate (input : CallInput) (operation : ClientOperation) (loop : ConnectionLoop) :
    Option ConnectionLoop :=
  match loop.connection.handleOperation base64 operation with
  | .finished reaction => some (loop.react reaction)
  | .awaiting call resume => loop.perform config input call resume

/-- Read the next frame. -/
def handle (input : CallInput) (loop : ConnectionLoop) : Option ConnectionLoop :=
  match loop.inbox with
  | [] => none
  | frame :: rest =>
      let received := { loop with inbox := rest, read := loop.read ++ [frame] }
      match frame.accept with
      | .error error => some { received with sent := received.sent ++ [.error error none] }
      | .ok operation => received.operate config base64 input operation

/-- Go on with the answer of a call that returned. -/
def resume (loop : ConnectionLoop) : AwaitedCall → Option ConnectionLoop
  | .publish i resume => (loop.exchange.core.dispatches[i]?).bind fun d ↦
      if d.stage.isReturned then some (loop.react (resume (.ok d.seq))) else none
  | .request r resume => (loop.exchange.requests[r]?).bind fun request ↦
      match request.stage with
      | .returned result => some (loop.react (resume result))
      | _ => none

/-- The connection waits for a dispatch, as its publish or as the publish of its request. -/
def awaitsDispatch (i : ℕ) (loop : ConnectionLoop) : Bool :=
  loop.awaited.any fun awaited ↦
    match awaited.call with
    | .publish j _ => i = j
    | .request r _ => (loop.exchange.requests[r]?).any fun request ↦
        match request.stage with
        | .publishing j => i = j
        | _ => false

def proxyTurn (i : ℕ) (loop : ConnectionLoop) : Option (SyncEntry × Dispatch) :=
  (loop.exchange.core.dispatches[i]?).bind fun d ↦
    match d.stage with
    | .chain (entry :: _) _ =>
        if entry.interceptor && entry.id ∈ loop.proxies then some (entry, d) else none
    | _ => none

/-- A dispatch calls the proxy it is at, under a new request id. -/
def intercept (i : ℕ) (requestId : String) (loop : ConnectionLoop) : Option ConnectionLoop :=
  (loop.proxyTurn i).bind fun turn ↦
    if loop.calls.any fun call ↦ call.requestId = requestId ||
        (call.dispatch = i && call.outcome.isNone) then none
    else some { loop with
      calls := loop.calls ++ [
        { requestId
          proxy := turn.1.id
          dispatch := i
          own := loop.awaitsDispatch i
          subject := turn.2.subject
          payload := turn.2.current
          admitted := loop.calls.countP (fun call ↦ call.proxy = turn.1.id && call.isPending) <
            maxPendingIntercepts
          pushed := false
          reply := none
          outcome := none }] }

/-- End a call; a dispatch that still waits for it goes on with the outcome. -/
def endCall (c : ℕ) (call : InterceptCall) (outcome : InterceptOutcome) (loop : ConnectionLoop) :
    Option ConnectionLoop :=
  let ended := { loop with calls := loop.calls.modify c ({ · with outcome := some outcome }) }
  if (loop.proxyTurn call.dispatch).isSome then
    (Exchange.step config loop.exchange (.core (.dispatch call.dispatch ⟨outcome, 0, true⟩))).map
      ({ ended with exchange := · })
  else some ended

/-- One step of a call that has not ended. -/
def callStep (c : ℕ) (call : InterceptCall) (loop : ConnectionLoop) :
    InterceptMove → Option ConnectionLoop
  | .push =>
      if call.admitted && !call.pushed then
        (loop.enqueue (.intercept call.requestId call.subject (base64.encode call.payload))).map
          fun loop ↦ { loop with calls := loop.calls.modify c ({ · with pushed := true }) }
      else none
  | .finish => call.reply.bind fun action ↦
      if call.pushed then loop.endCall config c call (action.outcome call.payload) else none
  | .timeout =>
      if call.pushed && call.reply.isNone then
        loop.endCall config c call (.completed .pass call.payload)
      else none
  | .full =>
      if call.admitted then none else loop.endCall config c call (.completed .pass call.payload)
  | .closed =>
      if call.pushed || loop.isOpen then none
      else loop.endCall config c call (.completed .pass call.payload)
  | .abort => loop.endCall config c call .timedOut

/-- The steps of the bus that are not steps of the connection: it takes the turns of its proxies and
the events of its subscriptions, and does not drop a request it waits for. -/
def isBusLabel (loop : ConnectionLoop) : ExchangeLabel → Bool
  | .core (.dispatch i _) => (loop.proxyTurn i).isNone
  | .core (.receive id) | .core (.closeChannel id) => id ∉ loop.forwarders
  | .ofRequest r .drop => r ∉ loop.requests
  | _ => true

def step : Steps ConnectionLoop LoopLabel
  | loop, .arrive frame =>
      if loop.isOpen then some { loop with inbox := loop.inbox ++ [frame] } else none
  | loop, .handle input =>
      if loop.isOpen && loop.awaited.isNone then loop.handle config base64 input else none
  | loop, .resume => loop.awaited.bind fun awaited ↦ loop.resume awaited.call
  | loop, .send =>
      match loop.forward with
      | [] => none
      | message :: rest =>
          if loop.isOpen && loop.awaited.isNone then
            some { loop with forward := rest, sent := loop.sent ++ [message] }
          else none
  | loop, .take id =>
      if id ∈ loop.connection.subscriptions.map Prod.fst && id ∉ loop.held.map Prod.fst then
        ((loop.exchange.core.bus.channels id).queue.head?).bind fun event ↦
          (Exchange.step config loop.exchange (.core (.receive id))).map fun exchange ↦
            { loop with exchange, held := (id, event) :: loop.held }
      else none
  | loop, .forward id => (loop.held.find? fun entry ↦ entry.1 = id).bind fun entry ↦
      ({ loop with held := loop.held.filter (·.1 ≠ id) }.enqueue
        (.event entry.2.subject (base64.encode entry.2.payload) entry.2.replySubject id))
  | loop, .deliver requestId channelType subject payload =>
      if channelType ∈ loop.connection.remoteChannels then
        loop.enqueue (.deliver requestId channelType subject payload)
      else none
  | loop, .intercept i requestId => loop.intercept i requestId
  | loop, .ofCall c move => (loop.calls[c]?).bind fun call ↦
      if call.outcome.isSome then none else loop.callStep config base64 c call move
  | loop, .close =>
      if loop.isOpen && loop.awaited.isNone then some { loop with isOpen := false } else none
  | loop, .leave id =>
      if !loop.isOpen && loop.awaited.isNone then
        loop.operate config base64 ⟨"", "", 0, none⟩ (.unsubscribe id none)
      else none
  | loop, .bus label =>
      if loop.isBusLabel label then
        (Exchange.step config loop.exchange label).map ({ loop with exchange := · })
      else none

end

end ConnectionLoop

/-! ## What a step can do -/

/-- A message that no operation is answered with. -/
def ServerMessage.isPushed : ServerMessage → Bool
  | .event .. | .deliver .. | .intercept .. => true
  | _ => false

/-- The operation sends answers only. -/
def Reaction.Answers (reaction : Reaction) : Prop :=
  ∀ message ∈ reaction.messages, message.isPushed = false

def AwaitedCall.Answers : AwaitedCall → Prop
  | .publish _ resume => ∀ answer, (resume answer).Answers
  | .request _ resume => ∀ answer, (resume answer).Answers

theorem answers_of_run (base64 : Base64) (bus : BusAnswers) (connection : Connection)
    (operation : ClientOperation) :
    ((connection.handleOperation base64 operation).run bus).Answers := by
  intro message hmem
  cases Connection.outcome base64 bus connection operation with
  | answered _ answer messages_eq =>
    rw [messages_eq, List.mem_singleton] at hmem
    subst hmem
    cases answer <;> rfl
  | refused _ silent =>
    obtain ⟨text, rfl⟩ := silent message hmem
    rfl

variable {base64 : Base64} {connection : Connection} {operation : ClientOperation}

theorem answers_of_finished {reaction : Reaction}
    (h : connection.handleOperation base64 operation = .finished reaction) : reaction.Answers := by
  have hrun := answers_of_run base64 (fun _ ↦ .error (.internal "")) connection operation
  rw [h] at hrun
  exact hrun

theorem answers_of_awaiting {call : BusCall} {resume : Except EventBusError call.Answer → Reaction}
    (h : connection.handleOperation base64 operation = .awaiting call resume)
    (answer : Except EventBusError call.Answer) : (resume answer).Answers := by
  have hrun := answers_of_run base64 (Function.update (fun _ ↦ .error (.internal "")) call answer)
    connection operation
  rw [h, Handling.run, Function.update_self] at hrun
  exact hrun

namespace ConnectionLoop

variable {config : Config} {base64 : Base64}

/-- What an operation leaves the connection waiting for. -/
inductive Waits (loop next : ConnectionLoop) : Prop
  | idle (awaited : next.awaited = none) (requests : next.requests = loop.requests)
  | publish {resume : Except EventBusError ℕ → Reaction}
      (awaited : next.awaited = some ⟨.publish loop.exchange.core.dispatches.length resume,
        next.read.length, next.sent.length⟩)
      (publishers : next.exchange.publishers = loop.exchange.publishers ++ [.caller])
      (requests : next.requests = loop.requests) (answers : ∀ answer, (resume answer).Answers)
  | request {call : RequestCall} {ulid id : String}
      {resume : Except EventBusError Payload → Reaction}
      (awaited : next.awaited = some ⟨.request loop.exchange.requests.length resume,
        next.read.length, next.sent.length⟩)
      (requests : next.requests = loop.exchange.requests.length :: loop.requests)
      (fresh : loop.exchange.freshRequest ulid id = true)
      (made : next.exchange.requests =
        loop.exchange.requests ++ [⟨call, replySubjectOf ulid, id, .registered⟩])
      (answers : ∀ answer, (resume answer).Answers)

/-- Some pending calls are sent replies; nothing else changes. -/
def Signals (f : InterceptCall → InterceptCall) : Prop :=
  ∀ call, f call = call ∨ call.outcome = none ∧ ∃ action, f call = { call with reply := some action }

/-- What handling an operation does. -/
structure Operates (config : Config) (loop next : ConnectionLoop) : Prop where
  exchange : Steps.Reach (Exchange.step config) (fun _ _ ↦ True) loop.exchange next.exchange
  forward : next.forward = loop.forward
  held : next.held ⊆ loop.held
  sent : ∃ messages, next.sent = loop.sent ++ messages ∧
    ∀ message ∈ messages, message.isPushed = false
  calls : ∃ f, next.calls = loop.calls.map f ∧ Signals f
  waits : Waits loop next

/-- The call an operation waits for has returned. -/
inductive Returned (exchange : Exchange) : AwaitedCall → Reaction → Prop
  | publish {i : ℕ} {resume : Except EventBusError ℕ → Reaction} {d : Dispatch}
      (at_i : exchange.core.dispatches[i]? = some d) (returned : d.stage.isReturned = true) :
      Returned exchange (.publish i resume) (resume (.ok d.seq))
  | request {r : ℕ} {resume : Except EventBusError Payload → Reaction} {request : Request}
      {result : Except EventBusError Payload} (at_r : exchange.requests[r]? = some request)
      (stage : request.stage = .returned result) :
      Returned exchange (.request r resume) (resume result)

/-- How a call may end: without the client, or with what it was sent. -/
def Ends (call : InterceptCall) (outcome : InterceptOutcome) : Prop :=
  outcome = .completed .pass call.payload ∨ outcome = .timedOut ∨
    ∃ action, call.reply = some action ∧ outcome = action.outcome call.payload

/-- Everything a step can do. -/
inductive Change (config : Config) (base64 : Base64) (loop : ConnectionLoop) :
    ConnectionLoop → Prop
  | arrive {frame : Frame} : Change config base64 loop { loop with inbox := loop.inbox ++ [frame] }
  | operate {next : ConnectionLoop} (idle : loop.awaited = none)
      (operates : Operates config loop next) : Change config base64 loop next
  | resume {awaited : Awaited} {reaction : Reaction} (waits : loop.awaited = some awaited)
      (returned : Returned loop.exchange awaited.call reaction) :
      Change config base64 loop (loop.react reaction)
  | send {message : ServerMessage} {rest : List ServerMessage} (idle : loop.awaited = none)
      (queue : loop.forward = message :: rest) :
      Change config base64 loop { loop with forward := rest, sent := loop.sent ++ [message] }
  | take {id : String} {event : DispatchedEvent} {exchange : Exchange}
      (queue : event ∈ (loop.exchange.core.bus.channels id).queue)
      (stepped : Exchange.step config loop.exchange (.core (.receive id)) = some exchange) :
      Change config base64 loop { loop with exchange, held := (id, event) :: loop.held }
  | forward {id : String} {event : DispatchedEvent} (holds : (id, event) ∈ loop.held) :
      Change config base64 loop { loop with
        held := loop.held.filter (·.1 ≠ id)
        forward := loop.forward ++
          [.event event.subject (base64.encode event.payload) event.replySubject id] }
  | deliver {requestId channelType subject payload : String} :
      Change config base64 loop { loop with
        forward := loop.forward ++ [.deliver requestId channelType subject payload] }
  | intercept {call : InterceptCall} (at_proxy : (loop.proxyTurn call.dispatch).isSome)
      (fresh : ∀ other ∈ loop.calls, other.requestId ≠ call.requestId ∧
        (other.outcome = none → other.dispatch ≠ call.dispatch))
      (own : call.own = loop.awaitsDispatch call.dispatch) (reply : call.reply = none)
      (outcome : call.outcome = none) :
      Change config base64 loop { loop with calls := loop.calls ++ [call] }
  | push {c : ℕ} {call : InterceptCall} (at_c : loop.calls[c]? = some call) :
      Change config base64 loop { loop with
        forward := loop.forward ++
          [.intercept call.requestId call.subject (base64.encode call.payload)]
        calls := loop.calls.modify c ({ · with pushed := true }) }
  | ended {c : ℕ} {call : InterceptCall} {outcome : InterceptOutcome} {exchange : Exchange}
      (at_c : loop.calls[c]? = some call) (open_call : call.outcome = none)
      (ends : Ends call outcome)
      (stepped : exchange = loop.exchange ∨ Exchange.step config loop.exchange
        (.core (.dispatch call.dispatch ⟨outcome, 0, true⟩)) = some exchange) :
      Change config base64 loop { loop with
        exchange
        calls := loop.calls.modify c ({ · with outcome := some outcome }) }
  | close (idle : loop.awaited = none) : Change config base64 loop { loop with isOpen := false }
  | bus {label : ExchangeLabel} {exchange : Exchange} (allowed : loop.isBusLabel label = true)
      (stepped : Exchange.step config loop.exchange label = some exchange) :
      Change config base64 loop { loop with exchange }

theorem signals_id : Signals id := fun _ ↦ .inl rfl

theorem Signals.comp {f g : InterceptCall → InterceptCall} (hf : Signals f) (hg : Signals g) :
    Signals (f ∘ g) := by
  intro call
  obtain hkept | ⟨hopen, action, hsignal⟩ := hg call
  · rw [Function.comp_apply, hkept]
    exact hf call
  · refine .inr ⟨hopen, ?_⟩
    obtain hkept | ⟨_, other, hother⟩ := hf (g call)
    · exact ⟨action, by rw [Function.comp_apply, hkept, hsignal]⟩
    · exact ⟨other, by rw [Function.comp_apply, hother, hsignal]⟩

theorem signals_signal (action : WsInterceptAction) (p : InterceptCall → Prop)
    [DecidablePred p] : Signals fun call ↦ if p call then call.signal action else call := by
  intro call
  dsimp only
  unfold InterceptCall.signal
  split_ifs with hp hpending
  · simp only [InterceptCall.isPending, Bool.and_eq_true, Option.isNone_iff_eq_none] at hpending
    exact .inr ⟨hpending.2, action, rfl⟩
  all_goals exact .inl rfl

theorem route_eq (signal : Option Signal) (connection : Connection) (calls : List InterceptCall) :
    ∃ f, route signal connection calls = calls.map f ∧ Signals f := by
  unfold route
  split
  · rename_i requestId action
    refine ⟨_, rfl, ?_⟩
    exact signals_signal action fun call ↦ (decide (call.requestId = requestId) &&
      decide (call.proxy ∈ connection.remoteInterceptors.map Prod.fst)) = true
  · exact ⟨id, by rw [List.map_id], signals_id⟩

theorem reach_of_step {state next : Exchange} {label : ExchangeLabel}
    (hstep : Exchange.step config state label = some next) :
    Steps.Reach (Exchange.step config) (fun _ _ ↦ True) state next :=
  .next .init trivial hstep

variable {loop middle : ConnectionLoop} {reaction : Reaction} {input : CallInput}
  {call : InterceptCall} {c : ℕ}

/-- An operation ends after the bus has moved and calls were sent replies. -/
theorem operates_react
    (hexchange : Steps.Reach (Exchange.step config) (fun _ _ ↦ True) loop.exchange middle.exchange)
    (hforward : middle.forward = loop.forward) (hheld : middle.held ⊆ loop.held)
    (hsent : middle.sent = loop.sent) (hrequests : middle.requests = loop.requests)
    (hcalls : ∃ f, middle.calls = loop.calls.map f ∧ Signals f) (hanswers : reaction.Answers) :
    Operates config loop (middle.react reaction) where
  exchange := hexchange
  forward := hforward
  held := hheld
  sent := ⟨reaction.messages, by rw [← hsent]; rfl, hanswers⟩
  calls := by
    obtain ⟨f, hf, hsignals⟩ := hcalls
    obtain ⟨g, hg, hroutes⟩ := route_eq reaction.signal middle.connection middle.calls
    exact ⟨g ∘ f, by rw [← List.map_map, ← hf]; exact hg, hroutes.comp hsignals⟩
  waits := .idle rfl hrequests

theorem operates_of_detach {id : String} (h : loop.detach config id = some middle)
    (hanswers : reaction.Answers) : Operates config loop (middle.react reaction) := by
  unfold detach at h
  split_ifs at h
  · obtain ⟨closed, hclosed, hrest⟩ := Option.bind_eq_some_iff.mp h
    obtain ⟨exchange, hexchange, rfl⟩ := Option.map_eq_some_iff.mp hrest
    exact operates_react ((reach_of_step hclosed).trans (reach_of_step hexchange)) rfl
      (List.filter_subset_self _)
      rfl rfl ⟨_, (List.map_id _).symm, signals_id⟩ hanswers
  · obtain ⟨exchange, hexchange, rfl⟩ := Option.map_eq_some_iff.mp h
    exact operates_react (reach_of_step hexchange) rfl (List.Subset.refl _) rfl rfl
      ⟨_, rfl, signals_signal .pass fun call ↦ call.proxy = id⟩ hanswers

variable {loop next : ConnectionLoop}

theorem operates_of_perform {call : BusCall} {resume : Except EventBusError call.Answer → Reaction}
    (h : loop.perform config input call resume = some next)
    (hanswers : ∀ answer, (resume answer).Answers) : Operates config loop next := by
  have hcalls : ∃ f, loop.calls = loop.calls.map f ∧ Signals f :=
    ⟨id, (List.map_id _).symm, signals_id⟩
  have hsent : ∃ messages, loop.sent = loop.sent ++ messages ∧
      ∀ message ∈ messages, message.isPushed = false :=
    ⟨[], (List.append_nil _).symm, fun _ hmem ↦ absurd hmem List.not_mem_nil⟩
  cases call with
  | publish subject payload =>
    have hexchange := reach_of_step
      (Exchange.step_publish config loop.exchange none subject payload input.storeError)
    simp only [perform] at h
    split at h
    · cases h
      exact operates_react hexchange rfl (List.Subset.refl _) rfl rfl hcalls (hanswers _)
    · rename_i hpublished
      cases h
      refine ⟨hexchange, rfl, List.Subset.refl _, hsent, hcalls, .publish rfl ?_ rfl hanswers⟩
      exact Exchange.publishers_publish hpublished
  | request subject payload timeoutMs =>
    simp only [perform] at h
    obtain ⟨exchange, hexchange, rfl⟩ := Option.map_eq_some_iff.mp h
    obtain ⟨hfresh, hmade⟩ := Exchange.requests_of_step hexchange
    refine ⟨reach_of_step hexchange, rfl, List.Subset.refl _, hsent, hcalls, ?_⟩
    exact .request rfl rfl hfresh hmade hanswers
  | subscribe pattern priority | intercept pattern priority timeoutMs =>
    simp only [perform] at h
    obtain ⟨exchange, hexchange, rfl⟩ := Option.map_eq_some_iff.mp h
    have hreach := reach_of_step hexchange
    split
    all_goals exact operates_react hreach rfl (List.Subset.refl _) rfl rfl hcalls (hanswers _)
  | unsubscribe id =>
    simp only [perform] at h
    obtain ⟨middle, hmiddle, rfl⟩ := Option.map_eq_some_iff.mp h
    exact operates_of_detach hmiddle (hanswers _)
  | registerChannelType channelType =>
    cases h
    exact operates_react .init rfl (List.Subset.refl _) rfl rfl hcalls (hanswers _)

theorem operates_of_operate {operation : ClientOperation}
    (h : loop.operate config base64 input operation = some next) : Operates config loop next := by
  unfold operate at h
  split at h
  · rename_i hfinished
    cases h
    exact operates_react .init rfl (List.Subset.refl _) rfl rfl
      ⟨id, (List.map_id _).symm, signals_id⟩ (answers_of_finished hfinished)
  · rename_i hawaiting
    exact operates_of_perform h (answers_of_awaiting hawaiting)

theorem operates_of_handle (h : loop.handle config base64 input = some next)
    (hidle : loop.awaited = none) : Operates config loop next := by
  unfold handle at h
  split at h
  · simp at h
  · rename_i frame rest _
    split at h
    · rename_i error _
      cases h
      refine ⟨.init, rfl, List.Subset.refl _, ⟨[.error error none], rfl, by simp [ServerMessage.isPushed]⟩,
        ⟨id, (List.map_id _).symm, signals_id⟩, .idle hidle rfl⟩
    · have hoperates := operates_of_operate h
      exact ⟨hoperates.exchange, hoperates.forward, hoperates.held, hoperates.sent, hoperates.calls,
        by cases hoperates.waits with
          | idle awaited requests => exact .idle awaited requests
          | publish awaited publishers requests answers =>
            exact .publish awaited publishers requests answers
          | request awaited requests fresh made answers =>
            exact .request awaited requests fresh made answers⟩

theorem change_of_endCall {outcome : InterceptOutcome}
    (h : loop.endCall config c call outcome = some next) (hat : loop.calls[c]? = some call)
    (hopen : call.outcome = none) (hends : Ends call outcome) : Change config base64 loop next := by
  unfold endCall at h
  dsimp only at h
  split_ifs at h
  · obtain ⟨exchange, hexchange, rfl⟩ := Option.map_eq_some_iff.mp h
    exact .ended hat hopen hends (.inr hexchange)
  · cases h
    exact .ended hat hopen hends (.inl (rfl : loop.exchange = loop.exchange))

theorem change_of_callStep {move : InterceptMove}
    (h : loop.callStep config base64 c call move = some next) (hat : loop.calls[c]? = some call)
    (hopen : call.outcome = none) : Change config base64 loop next := by
  cases move with
  | push =>
    simp only [callStep, enqueue] at h
    split_ifs at h
    · cases h
      exact .push hat
    · simp at h
  | finish =>
    obtain ⟨action, haction, hrest⟩ := Option.bind_eq_some_iff.mp h
    split_ifs at hrest
    exact change_of_endCall hrest hat hopen (.inr (.inr ⟨action, haction, rfl⟩))
  | timeout | full | closed =>
    simp only [callStep] at h
    split_ifs at h
    exact change_of_endCall h hat hopen (.inl rfl)
  | abort => exact change_of_endCall h hat hopen (.inr (.inl rfl))

theorem change_of_intercept {i : ℕ} {requestId : String}
    (h : loop.intercept i requestId = some next) : Change config base64 loop next := by
  obtain ⟨turn, hturn, hrest⟩ := Option.bind_eq_some_iff.mp h
  split_ifs at hrest with hknown
  cases hrest
  refine .intercept (by rw [hturn]; rfl) (fun other hmem ↦ ?_) rfl rfl rfl
  simp only [List.any_eq_true, Bool.or_eq_true, Bool.and_eq_true, decide_eq_true_eq,
    Option.isNone_iff_eq_none, not_exists, not_and, not_or] at hknown
  obtain ⟨hid, hdispatch⟩ := hknown other hmem
  exact ⟨hid, fun hopen heq ↦ hdispatch heq hopen⟩

theorem change_of_step {label : LoopLabel} (h : step config base64 loop label = some next) :
    Change config base64 loop next := by
  cases label with
  | arrive frame =>
    simp only [step] at h
    split_ifs at h
    cases h
    exact .arrive
  | handle input =>
    simp only [step] at h
    split_ifs at h with hidle
    simp only [Bool.and_eq_true, Option.isNone_iff_eq_none] at hidle
    exact .operate hidle.2 (operates_of_handle h hidle.2)
  | resume =>
    obtain ⟨⟨call, read, sent⟩, hawaited, hresume⟩ := Option.bind_eq_some_iff.mp h
    cases call with
    | publish i resume =>
      obtain ⟨d, hat, hreturned⟩ := Option.bind_eq_some_iff.mp hresume
      split_ifs at hreturned with hd
      cases hreturned
      exact .resume hawaited (.publish hat hd)
    | request r resume =>
      obtain ⟨request, hat, hreturned⟩ := Option.bind_eq_some_iff.mp hresume
      split at hreturned
      · rename_i hstage
        cases hreturned
        exact .resume hawaited (.request hat hstage)
      · simp at hreturned
  | send =>
    simp only [step] at h
    split at h
    · simp at h
    · rename_i hqueue
      split_ifs at h with hidle
      simp only [Bool.and_eq_true, Option.isNone_iff_eq_none] at hidle
      cases h
      exact .send hidle.2 hqueue
  | take id =>
    simp only [step] at h
    split_ifs at h
    obtain ⟨event, hevent, hrest⟩ := Option.bind_eq_some_iff.mp h
    obtain ⟨exchange, hexchange, rfl⟩ := Option.map_eq_some_iff.mp hrest
    exact .take (List.mem_of_head? hevent) hexchange
  | forward id =>
    obtain ⟨⟨other, event⟩, hheld, hrest⟩ := Option.bind_eq_some_iff.mp h
    obtain rfl : other = id := by simpa using List.find?_some hheld
    simp only [enqueue] at hrest
    split_ifs at hrest
    cases hrest
    exact .forward (List.mem_of_find?_eq_some hheld)
  | deliver requestId channelType subject payload =>
    simp only [step, enqueue] at h
    split_ifs at h
    cases h
    exact .deliver
  | intercept i requestId => exact change_of_intercept h
  | ofCall c move =>
    obtain ⟨call, hat, hrest⟩ := Option.bind_eq_some_iff.mp h
    split_ifs at hrest with hopen
    exact change_of_callStep hrest hat (by simpa using hopen)
  | close =>
    simp only [step] at h
    split_ifs at h with hidle
    simp only [Bool.and_eq_true, Option.isNone_iff_eq_none] at hidle
    cases h
    exact .close hidle.2
  | leave id =>
    simp only [step] at h
    split_ifs at h with hidle
    simp only [Bool.and_eq_true, Option.isNone_iff_eq_none] at hidle
    exact .operate hidle.2 (operates_of_operate h)
  | bus label =>
    simp only [step] at h
    split_ifs at h with hallowed
    obtain ⟨exchange, hexchange, rfl⟩ := Option.map_eq_some_iff.mp h
    exact .bus hallowed hexchange

end ConnectionLoop

end Seidrum.EventBus
