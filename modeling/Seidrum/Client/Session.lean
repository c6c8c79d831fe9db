import Seidrum.Client.Registry
import Seidrum.EventBus.RequestReply.Exchange
import Seidrum.EventBus.Transport.WebSocket

/-!
# A WebSocket client and its server

A client hands each operation to its connection manager together with a sender for the reply, and
waits.  The manager connects, resubscribes what is active, and then moves frames in both directions
until the connection is gone; it forgets the pending senders and the server's ids and connects
again.  The callers, the manager and the server take their steps in any order, and each access to
the shared state of the client is a step of its own.

What the server's bus answers is an input of the step in which the server handles a frame.
-/

namespace Seidrum.Client

open Seidrum.Foundation Seidrum.EventBus

def resubscribeCidPrefix : String := "__seidrum_resubscribe__:"

/-- The correlation id a subscription is subscribed again with. -/
def resubscribeCid (stableId ulid : String) : String :=
  resubscribeCidPrefix ++ stableId ++ ":" ++ ulid

/-- What stands before the first occurrence of a character. -/
def splitOnce (c : Char) : List Char → Option (List Char)
  | [] => none
  | d :: rest => if d = c then some [] else (splitOnce c rest).map (d :: ·)

/-- The stable id in the correlation id of a resubscription. -/
def resubscribeTarget (cid : String) : Option String :=
  (resubscribeCidPrefix.toList.isPrefixOf? cid.toList).bind fun rest ↦
    (splitOnce ':' rest).map String.ofList

/-! ## The client -/

/-- What a pending operation is told. -/
inductive PendingReply
  | published
  | subscribed (id : String)
  | replyResult (payload : Payload)
  | error (message : String)
  deriving DecidableEq, Repr

/-- A message for the receiver of a subscription. -/
structure WsMessage where
  subject : String
  payload : Payload
  reply : Option String
  deriving DecidableEq, Repr

/-- The operations of a client that wait for an answer. -/
inductive ClientCall
  | publishBytes (subject : String) (payload : Payload)
  | subscribe (pattern : String)
  | requestBytes (subject : String) (payload : Payload)
  deriving DecidableEq, Repr

/-- What a call returns: nothing, or the bytes of a reply. -/
abbrev CallResult := Except String (Option Payload)

/-- Where a call stands. -/
inductive CallStage
  /-- it found the client connected -/
  | checked
  /-- its sender is with the pending ones; about to hand its frame to the manager -/
  | inserted
  /-- waiting for the reply -/
  | waiting
  /-- it was told the server's id; about to put its subscription into the registry -/
  | subscribed (id : String)
  | returned (result : CallResult)
  deriving DecidableEq

structure Call where
  call : ClientCall
  cid : String
  /-- The stable id of the subscription, for one that subscribes. -/
  stableId : String
  stage : CallStage
  deriving DecidableEq

def CallStage.isReturned : CallStage → Bool
  | .returned _ => true
  | _ => false

/-- Where the connection manager stands. -/
inductive Manager
  | connecting
  /-- waiting before the next attempt -/
  | backingOff
  /-- connected; about to read the active patterns -/
  | opened
  /-- about to resubscribe these; in its loop when none is left -/
  | running (todo : List (String × String))
  /-- the connection is gone; about to say so -/
  | dropped
  /-- about to fail what is pending -/
  | failing
  /-- about to clear the server's ids -/
  | clearing
  /-- gave up; about to drop the command channel -/
  | givingUp
  | exited
  deriving DecidableEq, Repr

/-- There is a connection. -/
def Manager.isUp : Manager → Bool
  | .opened | .running _ => true
  | _ => false

/-- Commands that may wait for the manager. -/
def commandCapacity : ℕ := 256

/-- What client and server are built on and configured with. -/
structure SessionEnv where
  base64 : Base64
  /-- The length of the JSON text of an operation. -/
  frameLength : ClientOperation → ℕ
  requestTimeoutMs : ℕ
  authOpen : Bool
  devMode : Bool

/-- A client with its server. -/
structure Session where
  connected : Bool
  manager : Manager
  /-- The correlation ids with a sender. -/
  pending : List String
  /-- What the senders were used for. -/
  replies : List (String × PendingReply)
  calls : List Call
  subscribers : SubscriberRegistry String
  /-- The server's ids in unsubscribe commands that are not with the manager yet. -/
  leaving : List String
  queue : List ClientOperation
  toServer : List ClientOperation
  toClient : List ServerMessage
  connection : Connection
  /-- Identifiers the client has made. -/
  usedIds : List String
  /-- Subscription ids the server has given out, with the correlation id each was asked for. -/
  given : List (String × Option String)
  /-- Those of the current connection. -/
  issued : List (String × Option String)
  /-- Subscriptions that were taken out of the registry. -/
  unsubscribed : List String
  /-- What receivers were handed. -/
  handed : List (String × WsMessage)

/-- Who moves next. -/
inductive SessionLabel
  | call (call : ClientCall) (cid stableId : String)
  | insertPending (c : ℕ)
  | enqueue (c : ℕ)
  /-- a call finds a reply, or its sender gone -/
  | wake (c : ℕ)
  | register (c : ℕ)
  | unsubscribe (stableId : String)
  | sendUnsubscribe (i : ℕ)
  | connect
  | connectFails (last : Bool)
  | backoffOver
  /-- a command ends the wait before the next attempt, and is dropped -/
  | discard
  | exit
  | snapshot (order : List (String × String))
  | resubscribe (ulid : String)
  /-- the manager sends the next command -/
  | send
  /-- the manager reads the next message -/
  | read
  | disconnect
  | markDown
  | failPending
  | clearIds
  /-- the server handles the next frame -/
  | serve (bus : BusAnswers)
  /-- the server forwards an event -/
  | event (subscriptionId subject payload : String) (replySubject : Option String)

/-- The operation a call sends. -/
def ClientCall.operation (env : SessionEnv) (cid : String) : ClientCall → ClientOperation
  | publishBytes subject payload => .publish subject (env.base64.encode payload) (some cid)
  | subscribe pattern => .subscribe pattern 0 (some cid)
  | requestBytes subject payload =>
      .request subject (env.base64.encode payload) env.requestTimeoutMs (some cid)

/-- Where a reply brings a call. -/
def ClientCall.onReply : ClientCall → PendingReply → CallStage
  | _, .error message => .returned (.error ("bus error: " ++ message))
  | publishBytes _ _, _ => .returned (.ok none)
  | subscribe _, .subscribed id => .subscribed id
  | subscribe _, _ => .returned (.error "unexpected reply to subscribe")
  | requestBytes _ _, .replyResult payload => .returned (.ok (some payload))
  | requestBytes _ _, _ => .returned (.error "unexpected reply to request")

/-- The subscription ids a server gave out in some messages. -/
def issuedIn (messages : List ServerMessage) : List (String × Option String) :=
  messages.filterMap fun
    | .subscribed id cid => some (id, cid)
    | _ => none

namespace Session

/-- A client that is about to connect for the first time. -/
def start (env : SessionEnv) : Session where
  connected := false
  manager := .connecting
  pending := []
  replies := []
  calls := []
  subscribers := .empty
  leaving := []
  queue := []
  toServer := []
  toClient := []
  connection := .new env.authOpen env.devMode
  usedIds := []
  given := []
  issued := []
  unsubscribed := []
  handed := []

def setStage (c : ℕ) (stage : CallStage) (state : Session) : Session :=
  { state with calls := state.calls.modify c ({ · with stage }) }

def sendPending (cid : String) (reply : PendingReply) (state : Session) : Session :=
  if cid ∈ state.pending then
    { state with pending := state.pending.filter (· ≠ cid), replies := (cid, reply) :: state.replies }
  else state

def failAllPending (state : Session) : Session := { state with pending := [] }

/-- The bytes of an encoded payload; what is not base64 counts as empty. -/
def decoded (env : SessionEnv) (payload : String) : Payload :=
  match env.base64.decode payload with
  | .ok bytes => bytes
  | .error _ => []

def handleServerMsg (env : SessionEnv) (state : Session) : ServerMessage → Session
  | .published _ (some cid) => state.sendPending cid .published
  | .subscribed id (some cid) =>
      match resubscribeTarget cid with
      | some stableId =>
          { state with subscribers := (state.subscribers.bindServerId stableId id).2 }
      | none => state.sendPending cid (.subscribed id)
  | .replyResult payload (some cid) => state.sendPending cid (.replyResult (decoded env payload))
  | .error message (some cid) => state.sendPending cid (.error message)
  | .event subject payload replySubject subscriptionId =>
      match state.subscribers.getSenderByServerId subscriptionId with
      | some stableId =>
          { state with handed := state.handed ++
            [(stableId, ⟨subject, decoded env payload, replySubject⟩)] }
      | none => state
  -- an error without a correlation id is logged
  | _ => state

/-- New identifiers were never made before. -/
def freshIds (ids : List String) (state : Session) : Bool :=
  ids.all (fun id ↦ isUlid id && id ∉ state.usedIds) && decide ids.Nodup

/-- What the server sends for an operation, and how its connection is afterwards. -/
def served (env : SessionEnv) (bus : BusAnswers) (operation : ClientOperation) (state : Session) :
    List ServerMessage × Connection :=
  state.connection.serveFrame env.base64 bus ⟨env.frameLength operation, .ok operation⟩

/-- The server handles the next frame.  Frames that are too long do not get through the transport. -/
def serveNext (env : SessionEnv) (bus : BusAnswers) (operation : ClientOperation)
    (rest : List ClientOperation) (state : Session) : Option Session :=
  if maxFrameSize < env.frameLength operation then none
  -- an id the bus gives out was never given out before
  else if ∀ entry ∈ issuedIn (state.served env bus operation).1,
      entry.1 ∉ state.given.map Prod.fst then
    some { state with
      toServer := rest
      toClient := state.toClient ++ (state.served env bus operation).1
      connection := (state.served env bus operation).2
      given := issuedIn (state.served env bus operation).1 ++ state.given
      issued := state.issued ++ issuedIn (state.served env bus operation).1 }
  else none

def callStep (env : SessionEnv) (c : ℕ) (call : Call) (state : Session) :
    SessionLabel → CallStage → Option Session
  | .insertPending _, .checked =>
      some ({ state with pending := call.cid :: state.pending }.setStage c .inserted)
  | .enqueue _, .inserted =>
      if state.manager = .exited then
        some ({ state with pending := state.pending.filter (· ≠ call.cid) }.setStage c
          (.returned (.error "WsClient connection manager closed: channel closed")))
      else if state.queue.length < commandCapacity then
        some ({ state with queue := state.queue ++ [call.call.operation env call.cid] }.setStage c
          .waiting)
      else none
  | .wake _, .waiting =>
      match state.replies.lookup call.cid with
      | some reply => some (state.setStage c (call.call.onReply reply))
      | none =>
          if call.cid ∈ state.pending then none
          else some (state.setStage c
            (.returned (.error "WsClient pending reply dropped (connection lost)")))
  | .register _, .subscribed id =>
      match call.call with
      | .subscribe pattern =>
          some ({ state with subscribers :=
            ((state.subscribers.insert call.stableId pattern call.stableId).bindServerId call.stableId id).2
            }.setStage c (.returned (.ok none)))
      | _ => none
  | _, _ => none

/-- Start a call; a client without a connection refuses it. -/
def startCall (call : ClientCall) (cid stableId : String) (state : Session) : Session :=
  { state with
    calls := state.calls ++ [⟨call, cid, stableId,
      if state.connected then .checked
      else .returned (.error "WsClient is reconnecting")⟩]
    usedIds := cid :: stableId :: state.usedIds }

/-- Take a subscription out of the registry. -/
def unsubscribe (stableId : String) (state : Session) : Session :=
  match state.subscribers.remove stableId with
  | (none, _) => state
  | (some removed, subscribers) =>
      { state with
        subscribers
        leaving := state.leaving ++ removed.serverId.toList
        unsubscribed := stableId :: state.unsubscribed }

def step (env : SessionEnv) : Steps Session SessionLabel
  | state, .call call cid stableId =>
      if state.freshIds [cid, stableId] then some (state.startCall call cid stableId) else none
  | state, .insertPending c => state.calls[c]?.bind fun call ↦
      state.callStep env c call (.insertPending c) call.stage
  | state, .enqueue c => state.calls[c]?.bind fun call ↦
      state.callStep env c call (.enqueue c) call.stage
  | state, .wake c => state.calls[c]?.bind fun call ↦
      state.callStep env c call (.wake c) call.stage
  | state, .register c => state.calls[c]?.bind fun call ↦
      state.callStep env c call (.register c) call.stage
  | state, .unsubscribe stableId => some (state.unsubscribe stableId)
  | state, .sendUnsubscribe i => state.leaving[i]?.bind fun serverId ↦
      -- the manager may be gone by now
      if state.manager = .exited then some { state with leaving := state.leaving.eraseIdx i }
      else if state.queue.length < commandCapacity then
        some { state with
          leaving := state.leaving.eraseIdx i
          queue := state.queue ++ [.unsubscribe serverId none] }
      else none
  | state, .connect =>
      if state.manager = .connecting then
        some { state with
          connected := true
          manager := .opened
          connection := .new env.authOpen env.devMode }
      else none
  | state, .connectFails last =>
      if state.manager = .connecting then
        if last then some { state.failAllPending with connected := false, manager := .givingUp }
        else some { state with connected := false, manager := .backingOff }
      else none
  | state, .backoffOver =>
      if state.manager = .backingOff then some { state with manager := .connecting } else none
  | state, .discard =>
      match state.manager, state.queue with
      | .backingOff, _ :: rest => some { state with manager := .connecting, queue := rest }
      | _, _ => none
  | state, .exit =>
      if state.manager = .givingUp then some { state with manager := .exited, queue := [] }
      else none
  | state, .snapshot order =>
      if state.manager = .opened ∧ order.isPerm state.subscribers.activePatterns then
        some { state with manager := .running order }
      else none
  | state, .resubscribe ulid =>
      match state.manager with
      | .running ((stableId, pattern) :: todo) =>
          if state.freshIds [ulid] then
            some { state with
              manager := .running todo
              toServer := state.toServer ++
                [.subscribe pattern 0 (some (resubscribeCid stableId ulid))]
              usedIds := ulid :: state.usedIds }
          else none
      | _ => none
  | state, .send =>
      match state.manager, state.queue with
      | .running [], operation :: rest =>
          some { state with queue := rest, toServer := state.toServer ++ [operation] }
      | _, _ => none
  | state, .read =>
      match state.manager, state.toClient with
      | .running [], message :: rest =>
          some ({ state with toClient := rest }.handleServerMsg env message)
      | _, _ => none
  | state, .disconnect =>
      if state.manager.isUp then
        some { state with
          manager := .dropped
          toServer := []
          toClient := []
          connection := .new env.authOpen env.devMode
          issued := [] }
      else none
  | state, .markDown =>
      if state.manager = .dropped then some { state with connected := false, manager := .failing }
      else none
  | state, .failPending =>
      if state.manager = .failing then some { state.failAllPending with manager := .clearing }
      else none
  | state, .clearIds =>
      if state.manager = .clearing then
        some { state with
          manager := .connecting
          subscribers := state.subscribers.clearServerIds }
      else none
  | state, .serve bus =>
      match state.manager.isUp, state.toServer with
      | true, operation :: rest => state.serveNext env bus operation rest
      | _, _ => none
  | state, .event subscriptionId subject payload replySubject =>
      -- events may still come from the forwarder of a subscription that is gone
      if state.manager.isUp ∧ subscriptionId ∈ state.issued.map Prod.fst then
        some { state with
          toClient := state.toClient ++ [.event subject payload replySubject subscriptionId] }
      else none

section Stages

variable {state : Session} {c i : ℕ} {call : Call} {stage : CallStage}

theorem getElem?_setStage_self (h : state.calls[c]? = some call) :
    (state.setStage c stage).calls[c]? = some { call with stage } := by
  simp [setStage, h]

theorem getElem?_setStage_ne (h : c ≠ i) : (state.setStage c stage).calls[i]? = state.calls[i]? := by
  simp [setStage, h]

theorem mem_setStage (h : call ∈ (state.setStage c stage).calls) :
    call ∈ state.calls ∨ ∃ before, state.calls[c]? = some before ∧ call = { before with stage } := by
  obtain ⟨i, hi⟩ := List.mem_iff_getElem?.mp h
  rcases at_of_modify hi with ⟨rfl, before, hbefore, rfl⟩ | ⟨_, hkept⟩
  · exact .inr ⟨before, hbefore, rfl⟩
  · exact .inl (List.mem_of_getElem? hkept)

end Stages

/-! ## Everything a step can do -/

/-- The answer in a message: its correlation id and what the sender of that is used for. -/
inductive Answers (env : SessionEnv) : ServerMessage → String → PendingReply → Prop
  | published {seq : ℕ} {cid : String} : Answers env (.published seq (some cid)) cid .published
  | subscribed {id cid : String} (foreign : resubscribeTarget cid = none) :
      Answers env (.subscribed id (some cid)) cid (.subscribed id)
  | replyResult {payload cid : String} :
      Answers env (.replyResult payload (some cid)) cid (.replyResult (decoded env payload))
  | error {message cid : String} :
      Answers env (.error message (some cid)) cid (.error message)

/-- Everything reading a message can do. -/
inductive Received (env : SessionEnv) (state : Session) (message : ServerMessage) : Session → Prop
  | answered {cid : String} {reply : PendingReply} (answers : Answers env message cid reply)
      (waits : cid ∈ state.pending) :
      Received env state message { state with
        pending := state.pending.filter (· ≠ cid)
        replies := (cid, reply) :: state.replies }
  | unexpected {cid : String} {reply : PendingReply} (answers : Answers env message cid reply)
      (gone : cid ∉ state.pending) : Received env state message state
  | bound {id cid stableId : String} (message_eq : message = .subscribed id (some cid))
      (target : resubscribeTarget cid = some stableId) :
      Received env state message { state with
        subscribers := (state.subscribers.bindServerId stableId id).2 }
  | handed {subject payload subscriptionId stableId : String} {replySubject : Option String}
      (message_eq : message = .event subject payload replySubject subscriptionId)
      (sender : state.subscribers.getSenderByServerId subscriptionId = some stableId) :
      Received env state message { state with
        handed := state.handed ++ [(stableId, ⟨subject, decoded env payload, replySubject⟩)] }
  | lost {subject payload subscriptionId : String} {replySubject : Option String}
      (message_eq : message = .event subject payload replySubject subscriptionId)
      (sender : state.subscribers.getSenderByServerId subscriptionId = none) :
      Received env state message state
  /-- not an answer, or to nobody -/
  | ignored (quiet : ∀ cid reply, ¬Answers env message cid reply)
      (unaddressed : ∀ id cid, message ≠ .subscribed id (some cid))
      (other : ∀ subject payload replySubject subscriptionId,
        message ≠ .event subject payload replySubject subscriptionId) :
      Received env state message state

theorem received_of_sendPending {env : SessionEnv} {message : ServerMessage} {cid : String}
    {reply : PendingReply} (h : Answers env message cid reply) (state : Session) :
    Received env state message (state.sendPending cid reply) := by
  unfold sendPending
  split_ifs with hpending
  · exact .answered h hpending
  · exact .unexpected h hpending

theorem received (env : SessionEnv) (state : Session) (message : ServerMessage) :
    Received env state message (state.handleServerMsg env message) := by
  cases message with
  | published seq cid =>
    cases cid with
    | none => exact .ignored nofun nofun nofun
    | some cid => exact received_of_sendPending .published state
  | subscribed id cid =>
    cases cid with
    | none => exact .ignored nofun nofun nofun
    | some cid =>
      simp only [handleServerMsg]
      split
      · exact .bound rfl ‹_›
      · exact received_of_sendPending (.subscribed ‹_›) state
  | replyResult payload cid =>
    cases cid with
    | none => exact .ignored nofun nofun nofun
    | some cid => exact received_of_sendPending .replyResult state
  | error message cid =>
    cases cid with
    | none => exact .ignored nofun nofun nofun
    | some cid => exact received_of_sendPending .error state
  | event subject payload replySubject subscriptionId =>
    simp only [handleServerMsg]
    split
    · exact .handed rfl ‹_›
    · exact .lost rfl ‹_›
  | _ => exact .ignored nofun nofun nofun

/-- Everything a step can do. -/
inductive Change (env : SessionEnv) (state : Session) : SessionLabel → Session → Prop
  | call {call : ClientCall} {cid stableId : String}
      (fresh : state.freshIds [cid, stableId] = true) :
      Change env state (.call call cid stableId) (state.startCall call cid stableId)
  | insertPending {c : ℕ} {call : Call} (at_c : state.calls[c]? = some call)
      (stage : call.stage = .checked) :
      Change env state (.insertPending c)
        ({ state with pending := call.cid :: state.pending }.setStage c .inserted)
  | enqueueRefused {c : ℕ} {call : Call} {result : CallResult}
      (at_c : state.calls[c]? = some call) (stage : call.stage = .inserted)
      (exited : state.manager = .exited) (failed : result.isOk = false) :
      Change env state (.enqueue c)
        ({ state with pending := state.pending.filter (· ≠ call.cid) }.setStage c (.returned result))
  | enqueue {c : ℕ} {call : Call} (at_c : state.calls[c]? = some call)
      (stage : call.stage = .inserted) (running : state.manager ≠ .exited) :
      Change env state (.enqueue c)
        ({ state with queue := state.queue ++ [call.call.operation env call.cid] }.setStage c
          .waiting)
  | wake {c : ℕ} {call : Call} {reply : PendingReply} (at_c : state.calls[c]? = some call)
      (stage : call.stage = .waiting) (told : state.replies.lookup call.cid = some reply) :
      Change env state (.wake c) (state.setStage c (call.call.onReply reply))
  | wakeLost {c : ℕ} {call : Call} {result : CallResult} (at_c : state.calls[c]? = some call)
      (stage : call.stage = .waiting) (untold : state.replies.lookup call.cid = none)
      (gone : call.cid ∉ state.pending) (failed : result.isOk = false) :
      Change env state (.wake c) (state.setStage c (.returned result))
  | register {c : ℕ} {call : Call} {id pattern : String} (at_c : state.calls[c]? = some call)
      (stage : call.stage = .subscribed id) (subscribes : call.call = .subscribe pattern) :
      Change env state (.register c)
        ({ state with subscribers :=
          ((state.subscribers.insert call.stableId pattern call.stableId).bindServerId call.stableId id).2
          }.setStage c (.returned (.ok none)))
  | unsubscribe {stableId : String} {removed : SubscriptionState String}
      {subscribers : SubscriberRegistry String}
      (held : state.subscribers.remove stableId = (some removed, subscribers)) :
      Change env state (.unsubscribe stableId) { state with
        subscribers
        leaving := state.leaving ++ removed.serverId.toList
        unsubscribed := stableId :: state.unsubscribed }
  | unsubscribeUnknown {stableId : String} : Change env state (.unsubscribe stableId) state
  | sendUnsubscribe {i : ℕ} {serverId : String} (at_i : state.leaving[i]? = some serverId)
      (running : state.manager ≠ .exited) :
      Change env state (.sendUnsubscribe i) { state with
        leaving := state.leaving.eraseIdx i
        queue := state.queue ++ [.unsubscribe serverId none] }
  | dropUnsubscribe {i : ℕ} (exited : state.manager = .exited) :
      Change env state (.sendUnsubscribe i) { state with leaving := state.leaving.eraseIdx i }
  | connect (manager : state.manager = .connecting) :
      Change env state .connect { state with
        connected := true
        manager := .opened
        connection := .new env.authOpen env.devMode }
  | giveUp (manager : state.manager = .connecting) :
      Change env state (.connectFails true)
        { state.failAllPending with connected := false, manager := .givingUp }
  | connectFails (manager : state.manager = .connecting) :
      Change env state (.connectFails false) { state with connected := false, manager := .backingOff }
  | backoffOver (manager : state.manager = .backingOff) :
      Change env state .backoffOver { state with manager := .connecting }
  | discard {operation : ClientOperation} {rest : List ClientOperation}
      (manager : state.manager = .backingOff) (queue : state.queue = operation :: rest) :
      Change env state .discard { state with manager := .connecting, queue := rest }
  | exit (manager : state.manager = .givingUp) :
      Change env state .exit { state with manager := .exited, queue := [] }
  | snapshot {order : List (String × String)} (manager : state.manager = .opened)
      (perm : order.Perm state.subscribers.activePatterns) :
      Change env state (.snapshot order) { state with manager := .running order }
  | resubscribe {ulid stableId pattern : String} {todo : List (String × String)}
      (manager : state.manager = .running ((stableId, pattern) :: todo))
      (fresh : state.freshIds [ulid] = true) :
      Change env state (.resubscribe ulid) { state with
        manager := .running todo
        toServer := state.toServer ++ [.subscribe pattern 0 (some (resubscribeCid stableId ulid))]
        usedIds := ulid :: state.usedIds }
  | send {operation : ClientOperation} {rest : List ClientOperation}
      (manager : state.manager = .running []) (queue : state.queue = operation :: rest) :
      Change env state .send { state with
        queue := rest
        toServer := state.toServer ++ [operation] }
  | read {message : ServerMessage} {rest : List ServerMessage} {next : Session}
      (manager : state.manager = .running []) (toClient : state.toClient = message :: rest)
      (received : Received env { state with toClient := rest } message next) :
      Change env state .read next
  | disconnect (up : state.manager.isUp = true) :
      Change env state .disconnect { state with
        manager := .dropped
        toServer := []
        toClient := []
        connection := .new env.authOpen env.devMode
        issued := [] }
  | markDown (manager : state.manager = .dropped) :
      Change env state .markDown { state with connected := false, manager := .failing }
  | failPending (manager : state.manager = .failing) :
      Change env state .failPending { state.failAllPending with manager := .clearing }
  | clearIds (manager : state.manager = .clearing) :
      Change env state .clearIds { state with
        manager := .connecting
        subscribers := state.subscribers.clearServerIds }
  | serve {bus : BusAnswers} {operation : ClientOperation} {rest : List ClientOperation}
      (up : state.manager.isUp = true) (toServer : state.toServer = operation :: rest)
      (short : env.frameLength operation ≤ maxFrameSize)
      (fresh : ∀ entry ∈ issuedIn (state.served env bus operation).1,
        entry.1 ∉ state.given.map Prod.fst) :
      Change env state (.serve bus) { state with
        toServer := rest
        toClient := state.toClient ++ (state.served env bus operation).1
        connection := (state.served env bus operation).2
        given := issuedIn (state.served env bus operation).1 ++ state.given
        issued := state.issued ++ issuedIn (state.served env bus operation).1 }
  | event {subscriptionId subject payload : String} {replySubject : Option String}
      (up : state.manager.isUp = true) (issued : subscriptionId ∈ state.issued.map Prod.fst) :
      Change env state (.event subscriptionId subject payload replySubject) { state with
        toClient := state.toClient ++ [.event subject payload replySubject subscriptionId] }

theorem change_of_step {env : SessionEnv} {state next : Session} {label : SessionLabel}
    (h : step env state label = some next) : Change env state label next := by
  cases label with
  | call call cid stableId =>
    simp only [step] at h
    split_ifs at h with hfresh
    cases h
    exact .call hfresh
  | insertPending c =>
    obtain ⟨call, hcall, hstep⟩ := Option.bind_eq_some_iff.mp h
    cases hstage : call.stage with
    | checked =>
      rw [hstage] at hstep
      cases hstep
      exact .insertPending hcall hstage
    | _ => simp [hstage, callStep] at hstep
  | enqueue c =>
    obtain ⟨call, hcall, hstep⟩ := Option.bind_eq_some_iff.mp h
    cases hstage : call.stage with
    | inserted =>
      simp only [hstage, callStep] at hstep
      split_ifs at hstep with hexited
      · cases hstep
        exact .enqueueRefused hcall hstage hexited rfl
      · cases hstep
        exact .enqueue hcall hstage hexited
    | _ => simp [hstage, callStep] at hstep
  | wake c =>
    obtain ⟨call, hcall, hstep⟩ := Option.bind_eq_some_iff.mp h
    cases hstage : call.stage with
    | waiting =>
      simp only [hstage, callStep] at hstep
      cases htold : state.replies.lookup call.cid with
      | some reply =>
        rw [htold] at hstep
        cases hstep
        exact .wake hcall hstage htold
      | none =>
        simp only [htold] at hstep
        split_ifs at hstep with hpending
        cases hstep
        exact .wakeLost hcall hstage htold hpending rfl
    | _ => simp [hstage, callStep] at hstep
  | register c =>
    obtain ⟨call, hcall, hstep⟩ := Option.bind_eq_some_iff.mp h
    cases hstage : call.stage with
    | subscribed id =>
      simp only [hstage, callStep] at hstep
      cases hsubscribes : call.call with
      | subscribe pattern =>
        rw [hsubscribes] at hstep
        cases hstep
        exact .register hcall hstage hsubscribes
      | _ => simp [hsubscribes] at hstep
    | _ => simp [hstage, callStep] at hstep
  | unsubscribe stableId =>
    cases h
    unfold unsubscribe
    split
    · exact .unsubscribeUnknown
    · exact .unsubscribe ‹_›
  | sendUnsubscribe i =>
    obtain ⟨serverId, hat, hstep⟩ := Option.bind_eq_some_iff.mp h
    split_ifs at hstep with hexited
    · cases hstep
      exact .dropUnsubscribe hexited
    · cases hstep
      exact .sendUnsubscribe hat hexited
  | connect =>
    simp only [step] at h
    split_ifs at h with hmanager
    cases h
    exact .connect hmanager
  | connectFails last =>
    simp only [step] at h
    split_ifs at h with hmanager hlast
    · cases h
      subst hlast
      exact .giveUp hmanager
    · cases h
      rw [Bool.not_eq_true] at hlast
      subst hlast
      exact .connectFails hmanager
  | backoffOver =>
    simp only [step] at h
    split_ifs at h with hmanager
    cases h
    exact .backoffOver hmanager
  | discard =>
    simp only [step] at h
    split at h
    · rename_i operation rest hmanager hqueue
      cases h
      exact .discard hmanager hqueue
    · simp at h
  | exit =>
    simp only [step] at h
    split_ifs at h with hmanager
    cases h
    exact .exit hmanager
  | snapshot order =>
    simp only [step] at h
    split_ifs at h with hopened
    cases h
    exact .snapshot hopened.1 (List.isPerm_iff.mp hopened.2)
  | resubscribe ulid =>
    simp only [step] at h
    split at h
    · rename_i stableId pattern todo hmanager
      split_ifs at h with hfresh
      cases h
      exact .resubscribe hmanager hfresh
    · simp at h
  | send =>
    simp only [step] at h
    split at h
    · rename_i operation rest hmanager hqueue
      cases h
      exact .send hmanager hqueue
    · simp at h
  | read =>
    simp only [step] at h
    split at h
    · rename_i message rest hmanager htoClient
      cases h
      exact .read hmanager htoClient (received env _ message)
    · simp at h
  | disconnect =>
    simp only [step] at h
    split_ifs at h with hup
    cases h
    exact .disconnect hup
  | markDown =>
    simp only [step] at h
    split_ifs at h with hmanager
    cases h
    exact .markDown hmanager
  | failPending =>
    simp only [step] at h
    split_ifs at h with hmanager
    cases h
    exact .failPending hmanager
  | clearIds =>
    simp only [step] at h
    split_ifs at h with hmanager
    cases h
    exact .clearIds hmanager
  | serve bus =>
    simp only [step] at h
    split at h
    · rename_i operation rest hup htoServer
      unfold serveNext at h
      split_ifs at h with hlong hfresh
      cases h
      exact .serve hup htoServer (not_lt.mp hlong) hfresh
    · simp at h
  | event subscriptionId subject payload replySubject =>
    simp only [step] at h
    split_ifs at h with hissued
    cases h
    exact .event hissued.1 hissued.2

end Session

end Seidrum.Client
