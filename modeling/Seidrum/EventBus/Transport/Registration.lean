import Seidrum.EventBus.System
import Seidrum.EventBus.Transport.RemotePattern
import Seidrum.EventBus.Transport.WebhookUrl

/-!
# Webhook registrations

HTTP clients register webhook subscriptions and webhook interceptors.  Both kinds are persisted and
recreated when the server starts.  Creating and recreating are separate code paths; here both act on
one server state, and what recreation accepts is compared with what creation accepts.
-/

namespace Seidrum.EventBus

inductive PersistedSubscriptionKind
  | asyncWebhook
  | syncInterceptor
  deriving DecidableEq, Repr

/-- The record of a webhook subscription or interceptor in the store. -/
structure PersistedSubscription where
  persistedId : String
  pattern : String
  url : String
  headers : List (String × String)
  priority : ℕ
  createdAt : ℕ
  kind : PersistedSubscriptionKind
  timeoutMs : Option ℕ
  deriving DecidableEq, Repr

/-- A sync interceptor that calls a webhook. -/
structure WebhookInterceptor where
  pattern : String
  url : String
  headers : List (String × String)
  interceptTimeout : ℕ
  policy : WebhookUrlPolicy
  deriving DecidableEq, Repr

namespace WebhookInterceptor

def withPolicy (pattern url : String) (headers : List (String × String))
    (policy : WebhookUrlPolicy) : WebhookInterceptor where
  pattern
  url
  headers
  interceptTimeout := 5000
  policy

def withTimeout (timeout : ℕ) (interceptor : WebhookInterceptor) : WebhookInterceptor :=
  { interceptor with interceptTimeout := timeout }

end WebhookInterceptor

/-- A task that forwards the events of a subscription to a webhook. -/
structure DeliveryTask where
  subscriptionId : String
  url : String
  headers : List (String × String)
  deriving DecidableEq, Repr

/-- The state the HTTP handlers share. -/
structure AppState where
  bus : Bus
  subscriptionCount : ℕ
  interceptorCount : ℕ
  /-- The persisted entries, when the server has a store. -/
  store : Option (List PersistedSubscription)
  /-- Bus subscription id to persisted id. -/
  busToPersisted : List (String × String)
  subscriptionIds : List String
  interceptorIds : List String
  /-- The interceptors handed to the bus. -/
  interceptors : List (String × WebhookInterceptor)
  deliveryTasks : List DeliveryTask
  /-- The current rate window and the registrations in it. -/
  registrationRate : ℕ × ℕ
  webhookUrlPolicy : WebhookUrlPolicy
  /-- The authenticator verifies nothing. -/
  authIsOpen : Bool
  devMode : Bool

def maxHttpSubscriptions : ℕ := 1024

def maxHttpInterceptors : ℕ := 64

def webhookRegistrationRateLimit : ℕ := 100

def webhookRegistrationRateWindowSecs : ℕ := 60

/-- The entry was registered on the bus, may never be again, or may be at the next start. -/
inductive RecreateOutcome
  | recreated
  | permanentFailure (reason : String)
  | transientFailure (reason : String)
  deriving DecidableEq, Repr

/-- How a failure of the bus is classified. -/
def RecreateOutcome.ofError : EventBusError → RecreateOutcome
  | .invalidSubject message => permanentFailure ("invalid pattern: " ++ message)
  | error => transientFailure error.message

structure HttpError where
  status : ℕ
  error : String
  code : Option String
  deriving DecidableEq, Repr

namespace AppState

/-- The state a server starts with, before persisted entries are recreated. -/
def atStart (bus : Bus) (store : Option (List PersistedSubscription))
    (webhookUrlPolicy : WebhookUrlPolicy) (authIsOpen devMode : Bool) : AppState where
  bus
  subscriptionCount := 0
  interceptorCount := 0
  store
  busToPersisted := []
  subscriptionIds := []
  interceptorIds := []
  interceptors := []
  deliveryTasks := []
  registrationRate := (0, 0)
  webhookUrlPolicy
  authIsOpen
  devMode

/-- Subscribe on the bus, and forward the subscription's events to the webhook. -/
def subscribeWebhook (id pattern url : String) (headers : List (String × String)) (priority : ℕ)
    (state : AppState) : Except EventBusError AppState := do
  let bus ← state.bus.subscribe (System.webhookEntry id pattern url priority)
  .ok { state with
    bus
    subscriptionCount := state.subscriptionCount + 1
    subscriptionIds := id :: state.subscriptionIds
    deliveryTasks := ⟨id, url, headers⟩ :: state.deliveryTasks }

/-- Register an interceptor that calls the webhook, with the clamped priority and timeout. -/
def interceptWebhook (id pattern url : String) (headers : List (String × String)) (priority : ℕ)
    (timeoutMs : Option ℕ) (policy : WebhookUrlPolicy) (state : AppState) :
    Except EventBusError AppState := do
  let effectivePriority := clampRemoteInterceptorPriority priority
  let clampedTimeoutMs := clampRemoteInterceptorTimeout timeoutMs
  let interceptor := WebhookInterceptor.withPolicy pattern url headers policy
  let interceptor := match clampedTimeoutMs with
    | some timeout => interceptor.withTimeout timeout
    | none => interceptor
  let bus ← state.bus.intercept id pattern effectivePriority clampedTimeoutMs
  .ok { state with
    bus
    interceptorCount := state.interceptorCount + 1
    interceptorIds := id :: state.interceptorIds
    interceptors := (id, interceptor) :: state.interceptors }

def recreatePersistedAsyncWebhook (busId : String) (entry : PersistedSubscription)
    (state : AppState) : RecreateOutcome × AppState :=
  if maxHttpSubscriptions ≤ state.subscriptionCount then
    (.transientFailure ("subscription limit reached (" ++ toString maxHttpSubscriptions ++
      " max)"), state)
  else match state.subscribeWebhook busId entry.pattern entry.url entry.headers entry.priority with
    | .error error => (.ofError error, state)
    | .ok next =>
        (.recreated,
          { next with busToPersisted := (busId, entry.persistedId) :: state.busToPersisted })

def recreatePersistedSyncInterceptor (policy : WebhookUrlPolicy) (busId : String)
    (entry : PersistedSubscription) (state : AppState) : RecreateOutcome × AppState :=
  match validateRemotePattern entry.pattern with
  | .error error => (.permanentFailure ("pattern no longer permitted: " ++ error.message), state)
  | .ok _ =>
      if maxHttpInterceptors ≤ state.interceptorCount then
        (.transientFailure ("interceptor cap reached (" ++ toString maxHttpInterceptors ++
          " max)"), state)
      else match state.interceptWebhook busId entry.pattern entry.url entry.headers entry.priority
          entry.timeoutMs policy with
        | .error error => (.ofError error, state)
        | .ok next =>
            (.recreated,
              { next with busToPersisted := (busId, entry.persistedId) :: state.busToPersisted })

/-- Recreate a persisted entry on the bus under a fresh bus id. -/
def recreatePersistedSubscription (env : UrlEnv) (policy : WebhookUrlPolicy) (busId : String)
    (entry : PersistedSubscription) (state : AppState) : RecreateOutcome × AppState :=
  match validateWebhookUrlWithPolicy env entry.url policy with
  | .error error => (.permanentFailure ("URL no longer valid: " ++ error.message), state)
  | .ok _ =>
      match entry.kind with
      | .asyncWebhook => state.recreatePersistedAsyncWebhook busId entry
      | .syncInterceptor => state.recreatePersistedSyncInterceptor policy busId entry

structure SubscribeRequest where
  pattern : String
  url : String
  headers : List (String × String)
  priority : ℕ

structure RegisterInterceptorRequest where
  pattern : String
  url : String
  headers : List (String × String)
  priority : ℕ
  timeoutMs : Option ℕ

/-- What the environment contributes to a registration: the fresh ids, the time and a failure of the
store. -/
structure RegistrationInput where
  busId : String
  persistedId : String
  nowMs : ℕ
  saveError : Option StorageError

def refuseIfUnauthStateChanging (opName : String) (state : AppState) : Except HttpError Unit :=
  if state.authIsOpen ∧ ¬state.devMode then
    .error ⟨401, opName ++ " requires a real authenticator (or " ++
      "HttpServer::unsafe_allow_http_dev_mode() for tests)", some "AUTH_REQUIRED"⟩
  else .ok ()

/-- Count a registration against the limit of the current window. -/
def checkRegistrationRateLimit (nowSecs : ℕ) (state : AppState) : Except HttpError AppState :=
  let window := nowSecs / webhookRegistrationRateWindowSecs
  if state.registrationRate.1 ≠ window then .ok { state with registrationRate := (window, 1) }
  else if webhookRegistrationRateLimit ≤ state.registrationRate.2 then
    .error ⟨429, "registration rate limit reached (" ++ toString webhookRegistrationRateLimit ++
      " req/" ++ toString webhookRegistrationRateWindowSecs ++ "s)",
      some "REGISTRATION_RATE_LIMIT"⟩
  else .ok { state with registrationRate := (window, state.registrationRate.2 + 1) }

def httpErrorInvalidWebhookUrl : HttpError :=
  ⟨400, "invalid webhook URL", some "INVALID_WEBHOOK_URL"⟩

/-- The checks both endpoints make before anything is reserved. -/
def admission (env : UrlEnv) (opName patternCode pattern url : String) (nowSecs : ℕ)
    (state : AppState) : Except HttpError Unit × AppState :=
  match state.refuseIfUnauthStateChanging opName with
  | .error error => (.error error, state)
  | .ok _ =>
      match state.checkRegistrationRateLimit nowSecs with
      | .error error => (.error error, state)
      | .ok counted =>
          match validateRemotePattern pattern with
          | .error error => (.error ⟨400, error.message, some patternCode⟩, counted)
          | .ok _ =>
              match validateWebhookUrlWithPolicy env url state.webhookUrlPolicy with
              | .error _ => (.error httpErrorInvalidWebhookUrl, counted)
              | .ok _ => (.ok (), counted)

/-- Persist a registration that is live; `live` carries the mapping of its id, and `undone` is the
state to fall back to when the store refuses. -/
def persist (input : RegistrationInput) (entry : PersistedSubscription) (what : String)
    (live undone : AppState) : Except HttpError String × AppState :=
  match live.store with
  | none => (.ok input.busId, live)
  | some entries =>
      match input.saveError with
      | some error =>
          (.error ⟨500, "failed to persist " ++ what ++ ": " ++ error.message, none⟩, undone)
      | none =>
          (.ok input.busId, { live with
            store := some (entry :: entries)
            busToPersisted := (input.busId, input.persistedId) :: live.busToPersisted })

def createSubscription (env : UrlEnv) (input : RegistrationInput) (req : SubscribeRequest)
    (state : AppState) : Except HttpError String × AppState :=
  match state.admission env "POST /subscribe" "INVALID_SUBSCRIBE_PATTERN" req.pattern req.url
      (input.nowMs / 1000) with
  | (.error error, counted) => (.error error, counted)
  | (.ok _, counted) =>
      if maxHttpSubscriptions ≤ counted.subscriptionCount then
        (.error ⟨429, "Subscription limit reached (" ++ toString maxHttpSubscriptions ++ " max)",
          some "SUBSCRIPTION_LIMIT"⟩, counted)
      else match counted.subscribeWebhook input.busId req.pattern req.url req.headers
          req.priority with
        | .error error => (.error ⟨500, error.message, none⟩, counted)
        | .ok live =>
            persist input
              { persistedId := input.persistedId, pattern := req.pattern, url := req.url,
                headers := req.headers, priority := req.priority, createdAt := input.nowMs,
                kind := .asyncWebhook, timeoutMs := none }
              "subscription" live { counted with bus := live.bus.unsubscribe input.busId }

def createInterceptor (env : UrlEnv) (input : RegistrationInput)
    (req : RegisterInterceptorRequest) (state : AppState) : Except HttpError String × AppState :=
  match state.admission env "POST /interceptors" "INVALID_INTERCEPTOR_PATTERN" req.pattern req.url
      (input.nowMs / 1000) with
  | (.error error, counted) => (.error error, counted)
  | (.ok _, counted) =>
      if maxHttpInterceptors ≤ counted.interceptorCount then
        (.error ⟨429, "Interceptor limit reached (" ++ toString maxHttpInterceptors ++ " max)",
          some "INTERCEPTOR_LIMIT"⟩, counted)
      else match counted.interceptWebhook input.busId req.pattern req.url req.headers req.priority
          req.timeoutMs state.webhookUrlPolicy with
        | .error error => (.error ⟨500, error.message, none⟩, counted)
        | .ok live =>
            persist input
              { persistedId := input.persistedId, pattern := req.pattern, url := req.url,
                headers := req.headers, priority := clampRemoteInterceptorPriority req.priority,
                createdAt := input.nowMs, kind := .syncInterceptor,
                timeoutMs := clampRemoteInterceptorTimeout req.timeoutMs }
              "interceptor" live { counted with bus := live.bus.unsubscribe input.busId }

/-- The endpoint for an entry's kind, called with what the entry holds. -/
def createLike (env : UrlEnv) (input : RegistrationInput) (entry : PersistedSubscription)
    (state : AppState) : Except HttpError String × AppState :=
  match entry.kind with
  | .asyncWebhook =>
      state.createSubscription env input ⟨entry.pattern, entry.url, entry.headers, entry.priority⟩
  | .syncInterceptor =>
      state.createInterceptor env input
        ⟨entry.pattern, entry.url, entry.headers, entry.priority, entry.timeoutMs⟩

end AppState

end Seidrum.EventBus
