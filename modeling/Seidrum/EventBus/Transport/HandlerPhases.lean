import Seidrum.EventBus.Transport.Handlers

/-!
# How far a handler has come

A handler that creates a registration goes through the same phases whoever runs beside it, and so
does one that removes a registration.  The phases are the local states of a protocol that every
handler follows.
-/

namespace Seidrum.EventBus

open Seidrum.Foundation

/-! ## Phases -/

/-- What a handler has done to the shared state so far. -/
inductive HandlerPhase
  | waiting
  | registered (id : String) (kind : PersistedSubscriptionKind) (registration : Registration)
  | numbered (id : String) (entry : PersistedSubscription)
  | mapped (id : String) (entry : PersistedSubscription)
  | tracked (id : String) (entry : PersistedSubscription)
  | saved (id : String) (entry : PersistedSubscription)
  /-- the save failed, and is undone step by step -/
  | unsaved (id : String) (entry : PersistedSubscription)
  | unmapped (id : String) (entry : PersistedSubscription)
  | untracked (id : String) (entry : PersistedSubscription)
  | undone (id : String) (entry : PersistedSubscription)
  /-- a removal found the id -/
  | taken (id : String)
  | gone (id : String)
  | dropped (id : String) (persistedId : Option String)
  | deleted (id : String) (persistedId : String)
  /-- after an answer that the bus or, in the removal, the store did not serve -/
  | failed

namespace HandlerPhase

/-- The operations of each phase. -/
def Allows : HandlerPhase → HttpOp → Prop
  | waiting, .admission .. => True
  | waiting, .reserve _ => True
  | waiting, .release _ => True
  | waiting, .register .. => True
  | waiting, .removeId .. => True
  | registered _ kind _, .newPersistedId other => other = kind
  | numbered id entry, .insertMapping busId persistedId =>
      busId = id ∧ persistedId = entry.persistedId
  | mapped id entry, .insertId kind busId => kind = entry.kind ∧ busId = id
  | tracked _ entry, .saveSubscription other => other = entry
  | saved .., .spawnWebhookDeliveryTask _ => True
  | unsaved id _, .removeMapping busId => busId = id
  | unmapped id entry, .removeId kind busId => kind = entry.kind ∧ busId = id
  | untracked id _, .unsubscribe busId => busId = id
  | undone .., .release _ => True
  | taken id, .unsubscribe busId => busId = id
  | gone _, .release _ => True
  | gone id, .removeMapping busId => busId = id
  | dropped _ (some persistedId), .deleteSubscription other => other = persistedId
  | failed, _ => True
  | _, _ => False

/-- The phase after an operation. -/
def next : HandlerPhase → (op : HttpOp) → HttpAnswer op → HandlerPhase
  | waiting, .register kind registration, .ok id => registered id kind registration
  | waiting, .removeId _ id, true => taken id
  | registered id kind registration, .newPersistedId _, (persistedId, now) =>
      numbered id (registration.entry kind persistedId now)
  | numbered id entry, .insertMapping .., _ => mapped id entry
  | mapped id entry, .insertId .., _ => tracked id entry
  | tracked id entry, .saveSubscription _, .ok _ => saved id entry
  | tracked id entry, .saveSubscription _, .error _ => unsaved id entry
  | unsaved id entry, .removeMapping _, _ => unmapped id entry
  | unmapped id entry, .removeId .., _ => untracked id entry
  | untracked id entry, .unsubscribe _, .ok _ => undone id entry
  | untracked .., .unsubscribe _, .error _ => failed
  | taken id, .unsubscribe _, .ok _ => gone id
  | taken _, .unsubscribe _, .error _ => failed
  | gone id, .removeMapping _, persistedId => dropped id persistedId
  | dropped id (some persistedId), .deleteSubscription _, .ok _ => deleted id persistedId
  | dropped .., .deleteSubscription _, .error _ => failed
  | phase, _, _ => phase

/-- The phases as a protocol. -/
def protocol : Protocol HttpAnswer HandlerPhase where
  allowed := Allows
  after := next

end HandlerPhase

/-- An operation that no phase depends on. -/
def HttpOp.Neutral : HttpOp → Prop
  | .admission .. => True
  | .reserve _ => True
  | .release _ => True
  | .spawnWebhookDeliveryTask _ => True
  | _ => False

namespace HandlerPhase

theorem next_of_neutral {op : HttpOp} (h : op.Neutral) (phase : HandlerPhase)
    (answer : HttpAnswer op) : phase.next op answer = phase := by
  cases phase with
  | dropped id persistedId => cases op <;> cases persistedId <;> first | rfl | cases h
  | _ => cases op <;> first | rfl | cases h

section Allowed

variable {phase : HandlerPhase} {id persistedId : String} {kind : PersistedSubscriptionKind}
  {entry : PersistedSubscription}

attribute [local simp] Allows

theorem of_allows_register {registration : Registration}
    (h : phase.Allows (.register kind registration)) (hne : phase ≠ failed) : phase = waiting := by
  cases phase <;> simp_all

theorem of_allows_newPersistedId (h : phase.Allows (.newPersistedId kind)) (hne : phase ≠ failed) :
    ∃ id registration, phase = registered id kind registration := by
  cases phase <;> simp_all

theorem of_allows_insertMapping (h : phase.Allows (.insertMapping id persistedId))
    (hne : phase ≠ failed) :
    ∃ entry, phase = numbered id entry ∧ persistedId = entry.persistedId := by
  cases phase <;> simp_all

theorem of_allows_insertId (h : phase.Allows (.insertId kind id)) (hne : phase ≠ failed) :
    ∃ entry, phase = mapped id entry ∧ kind = entry.kind := by
  cases phase <;> simp_all

theorem of_allows_saveSubscription (h : phase.Allows (.saveSubscription entry))
    (hne : phase ≠ failed) : ∃ id, phase = tracked id entry := by
  cases phase <;> simp_all

theorem of_allows_removeMapping (h : phase.Allows (.removeMapping id)) (hne : phase ≠ failed) :
    phase = gone id ∨ ∃ entry, phase = unsaved id entry := by
  cases phase <;> simp_all

theorem of_allows_removeId (h : phase.Allows (.removeId kind id)) (hne : phase ≠ failed) :
    phase = waiting ∨ ∃ entry, phase = unmapped id entry ∧ kind = entry.kind := by
  cases phase <;> simp_all

theorem of_allows_unsubscribe (h : phase.Allows (.unsubscribe id)) (hne : phase ≠ failed) :
    phase = taken id ∨ ∃ entry, phase = untracked id entry := by
  cases phase <;> simp_all

theorem of_allows_deleteSubscription (h : phase.Allows (.deleteSubscription persistedId))
    (hne : phase ≠ failed) : ∃ id, phase = dropped id (some persistedId) := by
  cases phase with
  | dropped id dropped => cases dropped <;> simp_all
  | _ => simp_all

end Allowed

end HandlerPhase

def HttpRequest.removes : HttpRequest → Option String
  | .removeSubscription id => some id
  | .removeInterceptor id => some id
  | _ => none

/-- Where a handler ends. -/
def HandlerPhase.Final (request : HttpRequest) (phase : HandlerPhase) :
    Except HttpError HttpReply → Prop
  | .ok (.created id) => phase = failed ∨ ∃ entry, phase = saved id entry
  | .ok .noContent => phase = failed ∨
      ∃ id, request.removes = some id ∧
        (phase = dropped id none ∨ ∃ persistedId, phase = deleted id persistedId)
  | .error _ => phase = failed ∨ phase = waiting ∨ ∃ id entry, phase = undone id entry

open HandlerPhase

variable {request : HttpRequest}

theorem follows_spawn {endpoint : Endpoint} {id : String} {registration : Registration}
    {entry : PersistedSubscription} :
    (endpoint.spawn id registration).Follows protocol (Final request) (saved id entry) := by
  unfold Endpoint.spawn
  cases endpoint.kind with
  | asyncWebhook => exact ⟨trivial, fun _ ↦ .inr ⟨entry, rfl⟩⟩
  | syncInterceptor => exact .inr ⟨entry, rfl⟩

theorem follows_create (endpoint : Endpoint) (registration : Registration) :
    (endpoint.create registration).Follows protocol (Final request) waiting := by
  refine ⟨trivial, fun admitted ↦ ?_⟩
  cases admitted with
  | error error => exact .inr (.inl rfl)
  | ok _ =>
  refine ⟨trivial, fun reserved ↦ ?_⟩
  cases reserved with
  | false => exact .inr (.inl rfl)
  | true =>
  refine ⟨trivial, fun answer ↦ ?_⟩
  cases answer with
  | error error => exact ⟨trivial, fun _ ↦ .inr (.inl rfl)⟩
  | ok id =>
  refine ⟨rfl, fun number ↦ ⟨⟨rfl, rfl⟩, fun _ ↦ ⟨⟨rfl, rfl⟩, fun _ ↦ ⟨rfl, fun answer ↦ ?_⟩⟩⟩⟩
  cases answer with
  | error error =>
    refine ⟨rfl, fun _ ↦ ⟨⟨rfl, rfl⟩, fun _ ↦ ⟨rfl, fun answer ↦ ?_⟩⟩⟩
    cases answer with
    | error error => exact ⟨trivial, fun _ ↦ .inl rfl⟩
    | ok _ => exact ⟨trivial, fun _ ↦ .inr (.inr ⟨_, _, rfl⟩)⟩
  | ok _ => exact follows_spawn

theorem follows_removePersisted {id : String} (hid : request.removes = some id) :
    (removePersisted id).Follows protocol (Final request) (gone id) := by
  refine ⟨rfl, fun answer ↦ ?_⟩
  cases answer with
  | none => exact .inr ⟨id, hid, .inl rfl⟩
  | some persistedId =>
    refine ⟨rfl, fun answer ↦ ?_⟩
    cases answer with
    | error error => exact .inl rfl
    | ok _ => exact .inr ⟨id, hid, .inr ⟨persistedId, rfl⟩⟩

/-- Whatever a handler is answered, it keeps to the phases. -/
theorem follows_handler (request : HttpRequest) :
    request.handler.Follows protocol (Final request) waiting := by
  cases request with
  | createSubscription req | createInterceptor req => exact follows_create _ _
  | removeSubscription id =>
    refine ⟨trivial, fun found ↦ ?_⟩
    cases found with
    | false => exact .inr (.inl rfl)
    | true =>
    refine ⟨rfl, fun answer ↦ ?_⟩
    cases answer with
    | error error => exact .inl rfl
    | ok _ => exact follows_removePersisted rfl
  | removeInterceptor id =>
    refine ⟨trivial, fun found ↦ ?_⟩
    cases found with
    | false => exact .inr (.inl rfl)
    | true =>
    refine ⟨rfl, fun answer ↦ ?_⟩
    cases answer with
    | error error => exact ⟨trivial, fun _ ↦ .inl rfl⟩
    | ok _ => exact ⟨trivial, fun _ ↦ follows_removePersisted rfl⟩

end Seidrum.EventBus
