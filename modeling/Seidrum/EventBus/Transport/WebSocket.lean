import Seidrum.EventBus.Transport.RemotePattern

/-!
# The WebSocket server

Clients send operations as JSON frames, and the server answers with messages.  Handling one
operation checks it, makes at most one call on the bus, and turns the answer of the bus into
messages; it is modelled as that call together with what follows it, so that what a connection
waits for in the middle of an operation can be seen.

Base64 and the parsing of JSON are not part of the server.  A frame is its length and what it
parses to.
-/

namespace Seidrum.EventBus

/-- Standard base64; decoding fails with a message. -/
structure Base64 where
  encode : Payload → String
  decode : String → Except String Payload

/-- Base64, as far as the payload `[9]` goes. -/
def nineBase64 : Base64 where
  encode _ := "CQ=="
  decode text := if text = "CQ==" then .ok [9] else .error "Invalid padding"

/-- What a remote interceptor answers. -/
inductive WireInterceptAction
  | pass
  | drop
  /-- with the new payload, encoded -/
  | modify (payload : String)
  deriving DecidableEq, Repr

inductive ClientOperation
  | publish (subject payload : String) (correlationId : Option String)
  | subscribe (pattern : String) (priority : ℕ) (correlationId : Option String)
  | unsubscribe (id : String) (correlationId : Option String)
  | request (subject payload : String) (timeoutMs : ℕ) (correlationId : Option String)
  | registerChannelType (channelType : String) (correlationId : Option String)
  | deliverResult (requestId : String) (success : Bool) (error : Option String)
  | registerInterceptor (pattern : String) (priority : ℕ) (timeoutMs : Option ℕ)
      (correlationId : Option String)
  | interceptResult (requestId : String) (action : WireInterceptAction)
  deriving DecidableEq, Repr

inductive ServerMessage
  | event (subject payload : String) (replySubject : Option String) (subscriptionId : String)
  | published (seq : ℕ) (correlationId : Option String)
  | replyResult (payload : String) (correlationId : Option String)
  | subscribed (id : String) (correlationId : Option String)
  | error (message : String) (correlationId : Option String)
  | channelRegistered (channelType : String) (correlationId : Option String)
  | deliver (requestId channelType subject payload : String)
  | interceptorRegistered (id : String) (correlationId : Option String)
  | intercept (requestId subject payload : String)
  deriving DecidableEq, Repr

def ClientOperation.correlationId : ClientOperation → Option String
  | .publish _ _ cid | .subscribe _ _ cid | .unsubscribe _ cid | .request _ _ _ cid
  | .registerChannelType _ cid | .registerInterceptor _ _ _ cid => cid
  | .deliverResult .. | .interceptResult .. => none

def ServerMessage.correlationId : ServerMessage → Option String
  | .published _ cid | .replyResult _ cid | .subscribed _ cid | .error _ cid
  | .channelRegistered _ cid | .interceptorRegistered _ cid => cid
  | .event .. | .deliver .. | .intercept .. => none

/-- The operations that are answered. -/
def ClientOperation.isCall : ClientOperation → Bool
  | .publish .. | .subscribe .. | .request .. | .registerChannelType .. | .registerInterceptor .. =>
      true
  | .unsubscribe .. | .deliverResult .. | .interceptResult .. => false

inductive BusCall
  | publish (subject : String) (payload : Payload)
  | subscribe (pattern : String) (priority : ℕ)
  | unsubscribe (id : String)
  | request (subject : String) (payload : Payload) (timeoutMs : ℕ)
  | registerChannelType (channelType : String)
  | intercept (pattern : String) (priority : ℕ) (timeoutMs : Option ℕ)
  deriving DecidableEq, Repr

abbrev BusCall.Answer : BusCall → Type
  | publish .. => ℕ
  | subscribe .. | intercept .. => String
  | unsubscribe _ | registerChannelType _ => Unit
  | request .. => Payload

abbrev BusAnswers := (call : BusCall) → Except EventBusError call.Answer

def maxSubscriptionsPerConnection : ℕ := 64

def maxInterceptorsPerConnection : ℕ := 16

def maxChannelTypesPerConnection : ℕ := 16

def maxChannelTypeNameLength : ℕ := 128

def reservedChannelTypeNames : List String := ["webhook", "websocket", "in_process", ""]

/-- Maximum size of an incoming text frame in bytes. -/
def maxFrameSize : ℕ := 2097152

/-- Maximum size of an encoded payload in bytes. -/
def maxEncodedPayloadSize : ℕ := 1048576

/-- What a connection has registered. -/
structure Connection where
  /-- Subscription id and pattern. -/
  subscriptions : List (String × String)
  remoteChannels : List String
  /-- Bus id and pattern. -/
  remoteInterceptors : List (String × String)
  /-- The authenticator verifies nothing. -/
  authOpen : Bool
  devMode : Bool
  deriving DecidableEq, Repr

/-- A decoded answer of a remote interceptor. -/
inductive WsInterceptAction
  | pass
  | modify (payload : Payload)
  | drop
  deriving DecidableEq, Repr

/-- A reply handed to whoever waits for it. -/
inductive Signal
  | delivered (requestId : String) (success : Bool) (error : Option String)
  | intercepted (requestId : String) (action : WsInterceptAction)
  deriving DecidableEq, Repr

/-- What handling an operation comes to. -/
structure Reaction where
  result : Except EventBusError Unit
  sent : List ServerMessage
  connection : Connection
  signal : Option Signal

/-- An operation being handled: it is over, or waits for the bus. -/
inductive Handling
  | finished (reaction : Reaction)
  | awaiting (call : BusCall) (resume : Except EventBusError call.Answer → Reaction)

namespace Handling

def run (bus : BusAnswers) : Handling → Reaction
  | finished reaction => reaction
  | awaiting call resume => resume (bus call)

/-- The call that is made on the bus. -/
def call : Handling → Option BusCall
  | finished _ => none
  | awaiting call _ => some call

end Handling

/-- Decode a payload of bounded size. -/
def validateAndDecodePayload (base64 : Base64) (payload : String) : Except EventBusError Payload :=
  if maxEncodedPayloadSize < payload.utf8ByteSize then
    .error (.payloadTooLarge ("Encoded payload " ++ toString payload.utf8ByteSize ++
      " bytes exceeds limit of " ++ toString maxEncodedPayloadSize ++ " bytes"))
  else match base64.decode payload with
    | .ok decoded => .ok decoded
    | .error error => .error (.internal ("Base64 decode failed: " ++ error))

/-- The characters of the Unicode category Cc. -/
def isControl (c : Char) : Bool :=
  c.toNat ≤ 0x1f || (0x7f ≤ c.toNat && c.toNat ≤ 0x9f)

/-- The checks of the name of a channel type. -/
def validateChannelType (channelType : String) : Except EventBusError Unit :=
  if channelType = "" then .error (.invalidSubject "channel_type must not be empty")
  else if maxChannelTypeNameLength < channelType.utf8ByteSize then
    .error (.invalidSubject ("channel_type length " ++ toString channelType.utf8ByteSize ++
      " exceeds maximum " ++ toString maxChannelTypeNameLength))
  else if channelType.toList.any fun c ↦ c = '\x00' || isControl c || isWhitespace c then
    .error (.invalidSubject "channel_type contains control characters or whitespace")
  else if channelType ∈ reservedChannelTypeNames then
    .error (.invalidSubject ("channel_type '" ++ channelType ++ "' is reserved"))
  else .ok ()

namespace Connection

def new (authOpen devMode : Bool) : Connection := ⟨[], [], [], authOpen, devMode⟩

/-- Refuse a sensitive operation under open authentication. -/
def refuseIfOpen (opName : String) (connection : Connection) : Except EventBusError Unit :=
  if connection.authOpen && !connection.devMode then
    .error (.internal (opName ++ " requires a real Authenticator (or " ++
      "WebSocketServer::unsafe_allow_ws_dev_mode() for tests) — AUTH_REQUIRED"))
  else .ok ()

/-- The checks before a subscription is made. -/
def checkSubscribe (pattern : String) (connection : Connection) : Except EventBusError Unit :=
  match validateRemotePattern pattern with
  | .error error => .error (.invalidSubject error.message)
  | .ok _ =>
      if maxSubscriptionsPerConnection ≤ connection.subscriptions.length then
        .error (.internal ("Subscription limit reached (" ++
          toString maxSubscriptionsPerConnection ++ " max per connection)"))
      else .ok ()

def checkChannelType (channelType : String) (connection : Connection) :
    Except EventBusError Unit := do
  connection.refuseIfOpen "register_channel_type"
  validateChannelType channelType
  if maxChannelTypesPerConnection ≤ connection.remoteChannels.length then
    .error (.internal ("channel type limit reached (" ++ toString maxChannelTypesPerConnection ++
      " max per WS connection)"))
  else if channelType ∈ connection.remoteChannels then
    .error (.invalidSubject ("channel type '" ++ channelType ++
      "' is already registered on this connection"))
  else .ok ()

/-- The checks before an interceptor is registered. -/
def checkInterceptor (pattern : String) (connection : Connection) : Except EventBusError Unit := do
  connection.refuseIfOpen "register_interceptor"
  match validateRemotePattern pattern with
  | .error error => .error (.invalidSubject error.message)
  | .ok _ =>
      if maxInterceptorsPerConnection ≤ connection.remoteInterceptors.length then
        .error (.internal ("interceptor limit reached (" ++
          toString maxInterceptorsPerConnection ++ " max per WS connection)"))
      else .ok ()

/-- The operation fails. -/
def fail (error : EventBusError) (connection : Connection) : Reaction :=
  ⟨.error error, [], connection, none⟩

/-- The operation is answered. -/
def answer (message : ServerMessage) (connection : Connection) : Reaction :=
  ⟨.ok (), [message], connection, none⟩

/-- The operation is over without an answer. -/
def quiet (connection : Connection) : Reaction := ⟨.ok (), [], connection, none⟩

def handleOperation (base64 : Base64) (connection : Connection) : ClientOperation → Handling
  | .publish subject payload cid =>
      match validateAndDecodePayload base64 payload with
      | .error error => .finished (connection.fail error)
      | .ok decoded => .awaiting (.publish subject decoded) fun
          | .error error => connection.fail error
          | .ok seq => connection.answer (.published seq cid)
  | .subscribe pattern priority cid =>
      match connection.checkSubscribe pattern with
      | .error error => .finished (connection.fail error)
      | .ok _ => .awaiting (.subscribe pattern priority) fun
          | .error error => connection.fail error
          | .ok id =>
              { connection with subscriptions := (id, pattern) :: connection.subscriptions }.answer
                (.subscribed id cid)
  | .unsubscribe id _ =>
      -- the entry is gone from the connection even when the bus refuses
      let finish (connection : Connection) : Except EventBusError Unit → Reaction
        | .error error => connection.fail error
        | .ok _ => connection.quiet
      if id ∈ connection.subscriptions.map Prod.fst then
        .awaiting (.unsubscribe id) (finish { connection with
          subscriptions := connection.subscriptions.filter (·.1 ≠ id) })
      else if id ∈ connection.remoteInterceptors.map Prod.fst then
        .awaiting (.unsubscribe id) (finish { connection with
          remoteInterceptors := connection.remoteInterceptors.filter (·.1 ≠ id) })
      else .finished connection.quiet
  | .request subject payload timeoutMs cid =>
      match validateAndDecodePayload base64 payload with
      | .error error => .finished (connection.fail error)
      | .ok decoded => .awaiting (.request subject decoded timeoutMs) fun
          | .error error => connection.answer (.error error.message cid)
          | .ok reply => connection.answer (.replyResult (base64.encode reply) cid)
  | .registerChannelType channelType cid =>
      match connection.checkChannelType channelType with
      | .error error => .finished (connection.fail error)
      | .ok _ => .awaiting (.registerChannelType channelType) fun
          | .error error => connection.fail error
          | .ok _ =>
              { connection with remoteChannels := channelType :: connection.remoteChannels }.answer
                (.channelRegistered channelType cid)
  | .deliverResult requestId success error =>
      .finished ⟨.ok (), [], connection, some (.delivered requestId success error)⟩
  | .registerInterceptor pattern priority timeoutMs cid =>
      match connection.checkInterceptor pattern with
      | .error error => .finished (connection.fail error)
      | .ok _ => .awaiting (.intercept pattern (clampRemoteInterceptorPriority priority)
          (clampRemoteInterceptorTimeout timeoutMs)) fun
          | .error error => connection.fail error
          | .ok id =>
              { connection with
                remoteInterceptors := (id, pattern) :: connection.remoteInterceptors }.answer
                (.interceptorRegistered id cid)
  | .interceptResult requestId action =>
      let signal : Option Signal := match action with
        | .pass => some (.intercepted requestId .pass)
        | .drop => some (.intercepted requestId .drop)
        | .modify payload => match base64.decode payload with
            | .ok decoded => some (.intercepted requestId (.modify decoded))
            -- a payload that is not base64 is ignored
            | .error _ => none
      .finished ⟨.ok (), [], connection, signal⟩

end Connection

/-- An incoming text frame: its length in bytes, and what it parses to. -/
structure Frame where
  length : ℕ
  operation : Except String ClientOperation

/-- The messages sent for an operation; an error that handling it ends with is sent without the
correlation id. -/
def Reaction.messages (reaction : Reaction) : List ServerMessage :=
  match reaction.result with
  | .ok _ => reaction.sent
  | .error error => reaction.sent ++ [.error error.message none]

/-- One turn of the connection loop on an incoming frame. -/
def Connection.serveFrame (base64 : Base64) (bus : BusAnswers) (frame : Frame)
    (connection : Connection) : List ServerMessage × Connection :=
  if maxFrameSize < frame.length then
    ([.error ("Message too large (max " ++ toString maxFrameSize ++ " bytes)") none], connection)
  else match frame.operation with
    | .error error => ([.error ("Invalid operation: " ++ error) none], connection)
    | .ok operation =>
        let reaction := (connection.handleOperation base64 operation).run bus
        (reaction.messages, reaction.connection)

end Seidrum.EventBus
