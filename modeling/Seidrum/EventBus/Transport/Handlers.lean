import Seidrum.EventBus.Transport.Recreation
import Seidrum.Foundation.Program

/-!
# Handlers of one HTTP server

The handlers that create and remove registrations run beside each other.  Each is a program: what it
does under one lock, or in one call of the bus or the store, is one operation, and other handlers may
run between two of them.
-/

namespace Seidrum.EventBus

open Seidrum.Foundation

/-- What is registered on the bus for a client. -/
structure Registration where
  pattern : String
  url : String
  headers : List (String × String)
  priority : ℕ
  timeoutMs : Option ℕ
  deriving DecidableEq, Repr

def AppState.SubscribeRequest.registration (req : SubscribeRequest) : Registration :=
  ⟨req.pattern, req.url, req.headers, req.priority, none⟩

/-- The priority and the timeout of an interceptor are clamped before it is registered. -/
def AppState.RegisterInterceptorRequest.registration (req : RegisterInterceptorRequest) :
    Registration :=
  ⟨req.pattern, req.url, req.headers, clampRemoteInterceptorPriority req.priority,
    clampRemoteInterceptorTimeout req.timeoutMs⟩

namespace Registration

def entry (kind : PersistedSubscriptionKind) (persistedId : String) (createdAt : ℕ)
    (registration : Registration) : PersistedSubscription where
  persistedId
  pattern := registration.pattern
  url := registration.url
  headers := registration.headers
  priority := registration.priority
  createdAt
  kind
  timeoutMs := registration.timeoutMs

def interceptor (policy : WebhookUrlPolicy) (registration : Registration) : WebhookInterceptor :=
  let interceptor := WebhookInterceptor.withPolicy registration.pattern registration.url
    registration.headers policy
  match registration.timeoutMs with
  | some timeout => interceptor.withTimeout timeout
  | none => interceptor

end Registration

def PersistedSubscription.registers (id : String) (entry : PersistedSubscription) :
    SubscriptionEntry :=
  match entry.kind with
  | .asyncWebhook => System.webhookEntry id entry.pattern entry.url entry.priority
  | .syncInterceptor => Bus.interceptorEntry id entry.pattern entry.priority entry.timeoutMs

/-- Register what an entry says on the bus. -/
def Bus.registerEntry (id : String) (entry : PersistedSubscription) (bus : Bus) :
    Except EventBusError Bus :=
  match entry.kind with
  | .asyncWebhook => bus.subscribe (System.webhookEntry id entry.pattern entry.url entry.priority)
  | .syncInterceptor => bus.intercept id entry.pattern entry.priority entry.timeoutMs

/-- One step of a handler. -/
inductive HttpOp
  | admission (opName patternCode pattern url : String)
  | reserve (kind : PersistedSubscriptionKind)
  | release (kind : PersistedSubscriptionKind)
  | register (kind : PersistedSubscriptionKind) (registration : Registration)
  /-- a new persisted id and the time -/
  | newPersistedId (kind : PersistedSubscriptionKind)
  | insertMapping (busId persistedId : String)
  | removeMapping (busId : String)
  | insertId (kind : PersistedSubscriptionKind) (busId : String)
  | removeId (kind : PersistedSubscriptionKind) (busId : String)
  | saveSubscription (entry : PersistedSubscription)
  | deleteSubscription (persistedId : String)
  | unsubscribe (busId : String)
  | spawnWebhookDeliveryTask (task : DeliveryTask)
  deriving DecidableEq

abbrev HttpAnswer : HttpOp → Type
  | .admission _ _ _ _ => Except HttpError Unit
  | .reserve _ => Bool
  | .release _ => Unit
  | .register _ _ => Except EventBusError String
  | .newPersistedId _ => String × ℕ
  | .insertMapping _ _ => Unit
  | .removeMapping _ => Option String
  | .insertId _ _ => Unit
  | .removeId _ _ => Bool
  | .saveSubscription _ => Except StorageError Unit
  | .deleteSubscription _ => Except StorageError Unit
  | .unsubscribe _ => Except EventBusError Unit
  | .spawnWebhookDeliveryTask _ => Unit

inductive HttpReply
  | created (id : String)
  | noContent
  deriving DecidableEq, Repr

abbrev Handler := Program HttpAnswer (Except HttpError HttpReply)

/-- What distinguishes the two endpoints that create registrations. -/
structure Endpoint where
  kind : PersistedSubscriptionKind
  opName : String
  patternCode : String
  limit : HttpError
  what : String

namespace Endpoint

def subscribe : Endpoint where
  kind := .asyncWebhook
  opName := "POST /subscribe"
  patternCode := "INVALID_SUBSCRIBE_PATTERN"
  limit := ⟨429, "Subscription limit reached (" ++ toString maxHttpSubscriptions ++ " max)",
    some "SUBSCRIPTION_LIMIT"⟩
  what := "subscription"

def interceptors : Endpoint where
  kind := .syncInterceptor
  opName := "POST /interceptors"
  patternCode := "INVALID_INTERCEPTOR_PATTERN"
  limit := ⟨429, "Interceptor limit reached (" ++ toString maxHttpInterceptors ++ " max)",
    some "INTERCEPTOR_LIMIT"⟩
  what := "interceptor"

/-- Only a webhook subscription has a task that forwards its events. -/
def spawn (endpoint : Endpoint) (busId : String) (registration : Registration) : Handler :=
  match endpoint.kind with
  | .asyncWebhook => do
      let _ ← Program.ask (HttpOp.spawnWebhookDeliveryTask
        ⟨busId, registration.url, registration.headers⟩)
      return .ok (.created busId)
  | .syncInterceptor => return .ok (.created busId)

/-- Create a registration.  The mapping and the id are inserted before the entry is saved, and a
failed save undoes all that was done. -/
def create (endpoint : Endpoint) (registration : Registration) : Handler := do
  match ← Program.ask (HttpOp.admission endpoint.opName endpoint.patternCode registration.pattern
      registration.url) with
  | .error error => return .error error
  | .ok _ =>
  if !(← Program.ask (HttpOp.reserve endpoint.kind)) then return .error endpoint.limit
  match ← Program.ask (HttpOp.register endpoint.kind registration) with
  | .error error =>
      let _ ← Program.ask (HttpOp.release endpoint.kind)
      return .error ⟨500, error.message, none⟩
  | .ok busId =>
  let (persistedId, now) ← Program.ask (HttpOp.newPersistedId endpoint.kind)
  let entry := registration.entry endpoint.kind persistedId now
  let _ ← Program.ask (HttpOp.insertMapping busId persistedId)
  let _ ← Program.ask (HttpOp.insertId endpoint.kind busId)
  match ← Program.ask (HttpOp.saveSubscription entry) with
  | .error error =>
      let _ ← Program.ask (HttpOp.removeMapping busId)
      let _ ← Program.ask (HttpOp.removeId endpoint.kind busId)
      -- a failure of the rollback is only logged
      let _ ← Program.ask (HttpOp.unsubscribe busId)
      let _ ← Program.ask (HttpOp.release endpoint.kind)
      return .error ⟨500, "failed to persist " ++ endpoint.what ++ ": " ++ error.message, none⟩
  | .ok _ => endpoint.spawn busId registration

end Endpoint

/-- `POST /subscribe` on a server with a store -/
def createSubscription (req : AppState.SubscribeRequest) : Handler :=
  Endpoint.subscribe.create req.registration

/-- `POST /interceptors` on a server with a store -/
def createInterceptor (req : AppState.RegisterInterceptorRequest) : Handler :=
  Endpoint.interceptors.create req.registration

/-- Drop the mapping and the persisted entry; a failure of the store is only logged. -/
def removePersisted (id : String) : Handler := do
  match ← Program.ask (HttpOp.removeMapping id) with
  | none => return .ok .noContent
  | some persistedId =>
      let _ ← Program.ask (HttpOp.deleteSubscription persistedId)
      return .ok .noContent

/-- `DELETE /subscribe/:id` -/
def removeSubscription (id : String) : Handler := do
  if !(← Program.ask (HttpOp.removeId .asyncWebhook id)) then
    return .error ⟨404, "subscription " ++ id ++ " not found", some "SUBSCRIPTION_NOT_FOUND"⟩
  match ← Program.ask (HttpOp.unsubscribe id) with
  | .error error => return .error ⟨500, error.message, none⟩
  | .ok _ => removePersisted id

/-- `DELETE /interceptors/:id` -/
def removeInterceptor (id : String) : Handler := do
  if !(← Program.ask (HttpOp.removeId .syncInterceptor id)) then
    return .error ⟨404, "interceptor " ++ id ++ " not found", some "INTERCEPTOR_NOT_FOUND"⟩
  match ← Program.ask (HttpOp.unsubscribe id) with
  | .error error =>
      -- the id is put back so that a retry can succeed
      let _ ← Program.ask (HttpOp.insertId .syncInterceptor id)
      return .error ⟨500, error.message, none⟩
  | .ok _ =>
      let _ ← Program.ask (HttpOp.release .syncInterceptor)
      removePersisted id

inductive HttpRequest
  | createSubscription (req : AppState.SubscribeRequest)
  | createInterceptor (req : AppState.RegisterInterceptorRequest)
  | removeSubscription (id : String)
  | removeInterceptor (id : String)

def HttpRequest.handler : HttpRequest → Handler
  | .createSubscription req => EventBus.createSubscription req
  | .createInterceptor req => EventBus.createInterceptor req
  | .removeSubscription id => EventBus.removeSubscription id
  | .removeInterceptor id => EventBus.removeInterceptor id

/-- The state the handlers share, and the ids they have been given. -/
structure HttpServer where
  app : AppState
  /-- The bus ids of registrations made over HTTP. -/
  registered : List String
  /-- Persisted ids that have been given out; they are never given out twice. -/
  usedPersistedIds : List String

/-- What the environment contributes to one operation: the resolver, the time, a fresh id and a
failure of the store. -/
structure HttpEnv where
  url : UrlEnv
  nowMs : ℕ
  freshId : String
  storeError : Option StorageError

namespace HttpServer

def entries (server : HttpServer) : List PersistedSubscription := server.app.store.getD []

/-- The ids of the live registrations of one kind. -/
def ids (server : HttpServer) : PersistedSubscriptionKind → List String
  | .asyncWebhook => server.app.subscriptionIds
  | .syncInterceptor => server.app.interceptorIds

def setIds (kind : PersistedSubscriptionKind) (ids : List String) (app : AppState) : AppState :=
  match kind with
  | .asyncWebhook => { app with subscriptionIds := ids }
  | .syncInterceptor => { app with interceptorIds := ids }

/-- Take a slot below the limit. -/
def reserve (kind : PersistedSubscriptionKind) (app : AppState) : Bool × AppState :=
  match kind with
  | .asyncWebhook =>
      if maxHttpSubscriptions ≤ app.subscriptionCount then (false, app)
      else (true, { app with subscriptionCount := app.subscriptionCount + 1 })
  | .syncInterceptor =>
      if maxHttpInterceptors ≤ app.interceptorCount then (false, app)
      else (true, { app with interceptorCount := app.interceptorCount + 1 })

def release (kind : PersistedSubscriptionKind) (app : AppState) : AppState :=
  match kind with
  | .asyncWebhook => { app with subscriptionCount := app.subscriptionCount - 1 }
  | .syncInterceptor => { app with interceptorCount := app.interceptorCount - 1 }

def insertMapping (busId persistedId : String) (app : AppState) : AppState :=
  { app with
    busToPersisted := (busId, persistedId) :: app.busToPersisted.filter (·.1 ≠ busId) }

def removeMapping (busId : String) (app : AppState) : AppState :=
  { app with busToPersisted := app.busToPersisted.filter (·.1 ≠ busId) }

/-- The store keeps one entry for each persisted id. -/
def saveSubscription (entry : PersistedSubscription) (app : AppState) : AppState :=
  { app with
    store := app.store.map (entry :: ·.filter (·.persistedId ≠ entry.persistedId)) }

def deleteSubscription (persistedId : String) (app : AppState) : AppState :=
  { app with store := app.store.map (·.filter (·.persistedId ≠ persistedId)) }

/-- What is kept of an interceptor that was handed to the bus. -/
def handOver (kind : PersistedSubscriptionKind) (id : String) (registration : Registration)
    (app : AppState) : AppState :=
  match kind with
  | .asyncWebhook => app
  | .syncInterceptor =>
      { app with
        interceptors := (id, registration.interceptor app.webhookUrlPolicy) :: app.interceptors }

/-- Unsubscribe on the bus.  The forwarder of a dropped subscription ends and gives its slot back. -/
def unsubscribe (id : String) (app : AppState) : AppState :=
  let forwarding := app.deliveryTasks.countP (·.subscriptionId = id)
  { app with
    bus := app.bus.unsubscribe id
    deliveryTasks := app.deliveryTasks.filter (·.subscriptionId ≠ id)
    subscriptionCount := app.subscriptionCount - forwarding }

/-- Start a forwarder; one whose subscription is gone ends at once. -/
def spawnWebhookDeliveryTask (task : DeliveryTask) (app : AppState) : AppState :=
  if task.subscriptionId ∈ app.bus.senders then
    { app with deliveryTasks := task :: app.deliveryTasks }
  else { app with subscriptionCount := app.subscriptionCount - 1 }

def persistedIdPrefix : PersistedSubscriptionKind → String
  | .asyncWebhook => "ws-"
  | .syncInterceptor => "hi-"

/-- The effect of one operation.  Ids are fresh; an operation that is given a used one waits. -/
def perform (server : HttpServer) : (op : HttpOp) → HttpEnv → Option (HttpAnswer op × HttpServer)
  | .admission opName patternCode pattern url, env =>
      let (answer, app) := server.app.admission env.url opName patternCode pattern url
        (env.nowMs / 1000)
      some (answer, { server with app })
  | .reserve kind, _ =>
      let (answer, app) := reserve kind server.app
      some (answer, { server with app })
  | .release kind, _ => some ((), { server with app := release kind server.app })
  | .register kind registration, env =>
      if env.freshId ∈ server.app.bus.usedIds then none
      else match server.app.bus.registerEntry env.freshId (registration.entry kind "" 0) with
        | .error error => some (.error error, server)
        | .ok bus => some (.ok env.freshId,
            { server with
              app := handOver kind env.freshId registration { server.app with bus }
              registered := env.freshId :: server.registered })
  | .newPersistedId kind, env =>
      let persistedId := persistedIdPrefix kind ++ env.freshId
      if persistedId ∈ server.usedPersistedIds then none
      else some ((persistedId, env.nowMs),
        { server with usedPersistedIds := persistedId :: server.usedPersistedIds })
  | .insertMapping busId persistedId, _ =>
      some ((), { server with app := insertMapping busId persistedId server.app })
  | .removeMapping busId, _ =>
      some (server.app.busToPersisted.lookup busId,
        { server with app := removeMapping busId server.app })
  | .insertId kind busId, _ =>
      some ((), { server with app := setIds kind (busId :: server.ids kind) server.app })
  | .removeId kind busId, _ =>
      some (decide (busId ∈ server.ids kind),
        { server with app := setIds kind ((server.ids kind).filter (· ≠ busId)) server.app })
  | .saveSubscription entry, env =>
      match env.storeError with
      | some error => some (.error error, server)
      | none => some (.ok (), { server with app := saveSubscription entry server.app })
  | .deleteSubscription persistedId, env =>
      match env.storeError with
      | some error => some (.error error, server)
      | none => some (.ok (), { server with app := deleteSubscription persistedId server.app })
  | .unsubscribe busId, _ => some (.ok (), { server with app := unsubscribe busId server.app })
  | .spawnWebhookDeliveryTask task, _ =>
      some ((), { server with app := spawnWebhookDeliveryTask task server.app })

end HttpServer

/-- The handlers of one server, interleaved at every operation. -/
abbrev HttpHandlers := Tasks HttpServer HttpRequest HttpAnswer (Except HttpError HttpReply)

def httpHandlers : Steps HttpHandlers (Move HttpRequest HttpEnv) :=
  Tasks.step HttpRequest.handler HttpServer.perform

end Seidrum.EventBus
