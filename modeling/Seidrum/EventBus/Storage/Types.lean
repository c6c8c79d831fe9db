import Mathlib.Algebra.Group.Nat.Defs
import Mathlib.Algebra.GroupWithZero.Nat
import Mathlib.Data.List.Nodup
import Mathlib.Data.List.Sort
import Mathlib.Data.Nat.Notation

/-!
# Stored events and delivery records

The records shared by the event stores, the dispatch engine and the retry task, with the
operations an event store is asked to perform.  A store is a function from an operation and one
clock reading to a reply, so that two stores can be driven by the same operations and the same
clock.

Sequence numbers, attempt counts, limits and unix-millisecond timestamps are natural numbers.
-/

namespace Seidrum.EventBus

/-- Opaque payload bytes. -/
abbrev Payload := List UInt8

/-- Lifecycle status of an event in the bus. -/
inductive EventStatus
  | pending
  | dispatching
  | delivered
  | partiallyDelivered
  | deadLettered
  deriving DecidableEq, Repr

namespace EventStatus

/-- The status as stored in the status index. -/
def asU8 : EventStatus → ℕ
  | pending => 0
  | dispatching => 1
  | delivered => 2
  | partiallyDelivered => 3
  | deadLettered => 4

def fromU8 : ℕ → Option EventStatus
  | 0 => some pending
  | 1 => some dispatching
  | 2 => some delivered
  | 3 => some partiallyDelivered
  | 4 => some deadLettered
  | _ => none

@[simp]
theorem fromU8_asU8 (status : EventStatus) : fromU8 status.asU8 = some status := by
  cases status <;> rfl

theorem asU8_injective : Function.Injective asU8 := fun a b h ↦ by
  simpa using congrArg fromU8 h

@[simp]
theorem asU8_inj {a b : EventStatus} : a.asU8 = b.asU8 ↔ a = b := asU8_injective.eq_iff

/-- The states from which compaction may remove an event. -/
def isTerminal : EventStatus → Bool
  | delivered | deadLettered => true
  | pending | dispatching | partiallyDelivered => false

end EventStatus

/-- Delivery status for one subscriber receiving an event. -/
inductive DeliveryStatus
  | pending
  | delivered
  | failed
  | deadLettered
  deriving DecidableEq, Repr

/-- The transitions that represent a real, unsuccessful delivery attempt. -/
def DeliveryStatus.countsAttempt : DeliveryStatus → Bool
  | failed | deadLettered => true
  | pending | delivered => false

structure DeliveryRecord where
  subscriberId : String
  status : DeliveryStatus
  attempts : ℕ
  lastAttempt : Option ℕ
  nextRetry : Option ℕ
  error : Option String
  deriving DecidableEq, Repr

namespace DeliveryRecord

/-- Eligible for a retry attempt: failed, below the cap, and due. -/
def isRetryable (record : DeliveryRecord) (maxAttempts now : ℕ) : Bool :=
  record.status = .failed ∧ record.attempts < maxAttempts ∧ record.nextRetry.all (· ≤ now)

/-- An existing record after a further outcome.  The error of a failed attempt survives a later
success. -/
def transition (now : ℕ) (status : DeliveryStatus) (error : Option String)
    (nextRetry : Option ℕ) (record : DeliveryRecord) : DeliveryRecord :=
  { record with
    status := status
    attempts := if status.countsAttempt then record.attempts + 1 else record.attempts
    lastAttempt := some now
    error := if status.countsAttempt then error else record.error
    nextRetry := nextRetry }

/-- The record of a subscriber's first outcome. -/
def first (now : ℕ) (subscriberId : String) (status : DeliveryStatus) (error : Option String)
    (nextRetry : Option ℕ) : DeliveryRecord :=
  { subscriberId, status, attempts := if status = .failed then 1 else 0,
    lastAttempt := some now, nextRetry, error }

end DeliveryRecord

/-- An event as it is stored in the database. -/
structure StoredEvent where
  seq : ℕ
  subject : String
  payload : Payload
  storedAt : ℕ
  status : EventStatus
  deliveries : List DeliveryRecord
  replySubject : Option String
  deriving DecidableEq, Repr

/-- A delivery that is ready to be retried. -/
structure RetryableDelivery where
  seq : ℕ
  subject : String
  subscriberId : String
  attempts : ℕ
  payload : Payload
  replySubject : Option String
  nextRetry : Option ℕ
  deriving DecidableEq, Repr

inductive StorageError
  | operationFailed (message : String)
  | notFound
  | databaseError (message : String)
  deriving DecidableEq, Repr

def StorageError.message : StorageError → String
  | operationFailed message => "storage operation failed: " ++ message
  | notFound => "event not found"
  | databaseError message => "database error: " ++ message

abbrev StorageResult := Except StorageError

/-! ## Changes to one event -/

/-- Update the subscriber's record, or add one at the end. -/
def recordIn (now : ℕ) (subscriberId : String) (status : DeliveryStatus)
    (error : Option String) (nextRetry : Option ℕ) : List DeliveryRecord → List DeliveryRecord
  | [] => [.first now subscriberId status error nextRetry]
  | record :: rest =>
      if record.subscriberId = subscriberId then
        record.transition now status error nextRetry :: rest
      else record :: recordIn now subscriberId status error nextRetry rest

namespace StoredEvent

def withStatus (status : EventStatus) (event : StoredEvent) : StoredEvent :=
  { event with status }

def withDelivery (now : ℕ) (subscriberId : String) (status : DeliveryStatus)
    (error : Option String) (nextRetry : Option ℕ) (event : StoredEvent) : StoredEvent :=
  { event with deliveries := recordIn now subscriberId status error nextRetry event.deliveries }

/-- Back to the state of a freshly appended event. -/
def requeued (event : StoredEvent) : StoredEvent :=
  { event with status := .pending, deliveries := [] }

def hasFailed (event : StoredEvent) : Bool :=
  event.deliveries.any (·.status = .failed)

/-- Terminal and stored before the retention threshold. -/
def isCompactable (threshold : ℕ) (event : StoredEvent) : Bool :=
  event.status.isTerminal ∧ event.storedAt < threshold

/-- The deliveries of one event that are due, in the order of its records. -/
def retryables (maxAttempts now : ℕ) (event : StoredEvent) : List RetryableDelivery :=
  (event.deliveries.filter (·.isRetryable maxAttempts now)).map fun record ↦
    { seq := event.seq, subject := event.subject, subscriberId := record.subscriberId,
      attempts := record.attempts, payload := event.payload,
      replySubject := event.replySubject, nextRetry := record.nextRetry }

@[simp] theorem withStatus_seq (status : EventStatus) (event : StoredEvent) :
    (event.withStatus status).seq = event.seq := rfl
@[simp] theorem withDelivery_seq (now : ℕ) (subscriberId : String) (status : DeliveryStatus)
    (error : Option String) (nextRetry : Option ℕ) (event : StoredEvent) :
    (event.withDelivery now subscriberId status error nextRetry).seq = event.seq := rfl
@[simp] theorem requeued_seq (event : StoredEvent) : event.requeued.seq = event.seq := rfl

def recordOf (subscriberId : String) (event : StoredEvent) : Option DeliveryRecord :=
  event.deliveries.find? fun record ↦ record.subscriberId = subscriberId

/-- A recorded outcome changes the record of its subscriber alone. -/
theorem recordOf_withDelivery (now : ℕ) (subscriberId other : String) (status : DeliveryStatus)
    (error : Option String) (nextRetry : Option ℕ) (event : StoredEvent) :
    (event.withDelivery now subscriberId status error nextRetry).recordOf other =
      if other = subscriberId then
        some (match event.recordOf subscriberId with
          | some record => record.transition now status error nextRetry
          | none => .first now subscriberId status error nextRetry)
      else event.recordOf other := by
  unfold recordOf withDelivery
  simp only
  induction event.deliveries with
  | nil =>
    by_cases h : other = subscriberId
    · simp [recordIn, DeliveryRecord.first, h]
    · simp [recordIn, DeliveryRecord.first, h, Ne.symm h]
  | cons record rest ih =>
    by_cases hrecord : record.subscriberId = subscriberId
    · by_cases h : other = subscriberId
      · simp [recordIn, DeliveryRecord.transition, hrecord, h]
      · simp [recordIn, DeliveryRecord.transition, hrecord, h, Ne.symm h]
    · by_cases h : other = subscriberId
      · simp only [recordIn, hrecord, h, if_false, if_true, List.find?_cons, decide_false]
        simpa [h] using ih
      · by_cases hother : record.subscriberId = other
        · simp [recordIn, h, hother]
        · simpa [recordIn, hrecord, h, hother] using ih

variable {event : StoredEvent} {subscriberId : String}

/-- A first outcome is added at the end. -/
theorem deliveries_withDelivery_of_none (h : event.recordOf subscriberId = none) (now : ℕ)
    (status : DeliveryStatus) (error : Option String) (nextRetry : Option ℕ) :
    (event.withDelivery now subscriberId status error nextRetry).deliveries =
      event.deliveries ++ [.first now subscriberId status error nextRetry] := by
  unfold recordOf at h
  unfold withDelivery
  simp only
  revert h
  induction event.deliveries with
  | nil => exact fun _ ↦ rfl
  | cons record rest ih =>
    intro h
    rw [List.find?_cons] at h
    split at h
    · cases h
    · next hne =>
      have hid : record.subscriberId ≠ subscriberId := by simpa using hne
      rw [recordIn, if_neg hid, ih h, List.cons_append]

/-- A later outcome keeps the records of everybody. -/
theorem ids_withDelivery_of_some (h : event.recordOf subscriberId ≠ none) (now : ℕ)
    (status : DeliveryStatus) (error : Option String) (nextRetry : Option ℕ) :
    (event.withDelivery now subscriberId status error nextRetry).deliveries.map (·.subscriberId) =
      event.deliveries.map (·.subscriberId) := by
  unfold recordOf at h
  unfold withDelivery
  simp only
  revert h
  induction event.deliveries with
  | nil => exact fun h ↦ absurd rfl h
  | cons record rest ih =>
    intro h
    by_cases hid : record.subscriberId = subscriberId
    · rw [recordIn, if_pos hid, List.map_cons, List.map_cons]
      rfl
    · rw [List.find?_cons_of_neg (by simpa using hid)] at h
      rw [recordIn, if_neg hid, List.map_cons, List.map_cons, ih h]

theorem mem_of_recordOf {record : DeliveryRecord} (h : event.recordOf subscriberId = some record) :
    record ∈ event.deliveries ∧ record.subscriberId = subscriberId :=
  ⟨List.mem_of_find?_eq_some h, by simpa using List.find?_some h⟩

/-- Every subscriber has at most one record. -/
def DistinctRecords (event : StoredEvent) : Prop := (event.deliveries.map (·.subscriberId)).Nodup

theorem DistinctRecords.recordOf_eq (h : event.DistinctRecords) {record : DeliveryRecord}
    (hmem : record ∈ event.deliveries) : event.recordOf record.subscriberId = some record := by
  cases hfind : event.recordOf record.subscriberId with
  | none =>
    have hnot := List.find?_eq_none.mp hfind record hmem
    simp at hnot
  | some other =>
    obtain ⟨hother, hid⟩ := mem_of_recordOf hfind
    rw [List.inj_on_of_nodup_map h hother hmem hid]

theorem mem_ids_recordIn {now : ℕ} {status : DeliveryStatus} {error : Option String}
    {nextRetry : Option ℕ} {records : List DeliveryRecord} {id : String}
    (h : id ∈ (recordIn now subscriberId status error nextRetry records).map (·.subscriberId)) :
    id = subscriberId ∨ id ∈ records.map (·.subscriberId) := by
  induction records with
  | nil => simpa [recordIn, DeliveryRecord.first] using h
  | cons record rest ih =>
    unfold recordIn at h
    split_ifs at h with hrecord
    · exact .inr h
    · obtain rfl | hrest := List.mem_cons.mp h
      · exact .inr List.mem_cons_self
      · exact (ih hrest).imp_right (List.mem_cons_of_mem _)

theorem DistinctRecords.withDelivery (h : event.DistinctRecords) (now : ℕ) (subscriberId : String)
    (status : DeliveryStatus) (error : Option String) (nextRetry : Option ℕ) :
    (event.withDelivery now subscriberId status error nextRetry).DistinctRecords := by
  unfold DistinctRecords at h ⊢
  unfold StoredEvent.withDelivery
  simp only
  revert h
  induction event.deliveries with
  | nil => simp [recordIn]
  | cons record rest ih =>
    intro h
    obtain ⟨hrecord, hrest⟩ := List.nodup_cons.mp h
    unfold recordIn
    split_ifs with hsubscriber
    · exact h
    · refine List.nodup_cons.mpr ⟨fun hmem ↦ ?_, ih hrest⟩
      obtain heq | hin := mem_ids_recordIn hmem
      · exact hsubscriber heq
      · exact hrecord hin

theorem retryables_eq_nil (h : event.hasFailed = false) (maxAttempts now : ℕ) :
    event.retryables maxAttempts now = [] := by
  have hnone : ∀ record ∈ event.deliveries, record.status ≠ .failed := by
    simpa [hasFailed] using h
  have hfilter : event.deliveries.filter (·.isRetryable maxAttempts now) = [] :=
    List.filter_eq_nil_iff.mpr fun record hmem ↦ by
      simp [DeliveryRecord.isRetryable, hnone record hmem]
  simp [retryables, hfilter]

end StoredEvent

/-- The order in which due deliveries are retried: earliest first, an unset schedule in front. -/
def sortByNextRetry (deliveries : List RetryableDelivery) : List RetryableDelivery :=
  deliveries.insertionSort fun a b ↦ a.nextRetry.getD 0 ≤ b.nextRetry.getD 0

/-- One call of the event store interface. -/
inductive StoreOp
  | append (event : StoredEvent)
  | get (seq : ℕ)
  | updateStatus (seq : ℕ) (status : EventStatus)
  | recordDelivery (seq : ℕ) (subscriberId : String) (status : DeliveryStatus)
      (error : Option String) (nextRetry : Option ℕ)
  | queryByStatus (status : EventStatus) (limit : ℕ)
  | queryBySubject (subject : String) (since : Option ℕ) (limit : ℕ)
  | queryRetryable (maxAttempts limit : ℕ)
  | countRetryable (maxAttempts : ℕ)
  | compact (olderThan : ℕ)
  | requeueDeadLettered (seq : ℕ)
  | purgeDeadLettered (seq : ℕ)
  deriving DecidableEq, Repr

/-- An append of an event that has no delivery records, or any other operation. -/
def StoreOp.IsFresh : StoreOp → Prop
  | append event => event.deliveries = []
  | _ => True

/-- The value a successful call returns. -/
inductive StoreReply
  | unit
  | seq (seq : ℕ)
  | event (event : Option StoredEvent)
  | events (events : List StoredEvent)
  | retryables (deliveries : List RetryableDelivery)
  | count (count : ℕ)
  deriving DecidableEq, Repr

/-- The error both stores give for an event that cannot be requeued or purged. -/
def notDeadLettered (seq : ℕ) : StorageError :=
  .operationFailed ("event " ++ toString seq ++ " is not dead-lettered")

end Seidrum.EventBus
