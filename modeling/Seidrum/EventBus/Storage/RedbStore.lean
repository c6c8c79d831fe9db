import Mathlib.Data.String.Basic
import Seidrum.Foundation.OrderedTable
import Seidrum.Foundation.Transition
import Seidrum.EventBus.Storage.Types

/-!
# The redb event store

The durable store keeps serialized events in one table and three indexes beside it: by subject, by
status, and of the events that have a failed delivery.  Every write is one transaction: it either
commits the changes to all four tables or leaves them as they were, so a call that ends in an error
returns the store it was given.

Serialization is a parameter.  The only thing assumed of it is that a stored event is read back
unchanged.
-/

namespace Seidrum.EventBus

open Seidrum.Foundation

/-- JSON serialization of stored events. -/
structure EventCodec (Bytes : Type) where
  toVec : StoredEvent → Bytes
  fromSlice : Bytes → Option StoredEvent
  fromSlice_toVec : ∀ event, fromSlice (toVec event) = some event

attribute [simp] EventCodec.fromSlice_toVec

/-- Serialization that keeps the event itself. -/
def EventCodec.structural : EventCodec StoredEvent := ⟨id, some, fun _ ↦ rfl⟩

/-- The four tables of the database. -/
@[ext]
structure RedbEventStore (Bytes : Type) where
  events : Table ℕ Bytes
  subjectIdx : Table (String ×ₗ ℕ) Unit
  statusIdx : Table (ℕ ×ₗ ℕ) Unit
  failedDeliveriesIdx : Table ℕ Unit

namespace RedbEventStore

variable {Bytes : Type}

/-- A freshly created database: every table exists and is empty. -/
def create : RedbEventStore Bytes := ⟨Table.empty, Table.empty, Table.empty, Table.empty⟩

/-- Opening an existing file keeps its committed tables. -/
def reopen (store : RedbEventStore Bytes) : RedbEventStore Bytes := store

section Operations

variable (codec : EventCodec Bytes)

/-- Read and deserialize one event, if it is in the events table. -/
def fetch (store : RedbEventStore Bytes) (seq : ℕ) : StorageResult (Option StoredEvent) :=
  match store.events.get seq with
  | none => .ok none
  | some data =>
      match codec.fromSlice data with
      | some event => .ok (some event)
      | none => .error (.operationFailed "failed to deserialize event")

/-- Read one event inside a write transaction, where its absence is an error. -/
def fetchExisting (store : RedbEventStore Bytes) (seq : ℕ) : StorageResult StoredEvent := do
  match ← store.fetch codec seq with
  | some event => .ok event
  | none => .error .notFound

/-- The number the next appended event gets: one past the last key of the events table. -/
def nextSeq (store : RedbEventStore Bytes) : ℕ :=
  (store.events.last.map Prod.fst).getD 0 + 1

def append (now : ℕ) (event : StoredEvent) (store : RedbEventStore Bytes) :
    ℕ × RedbEventStore Bytes :=
  let stored := { event with seq := store.nextSeq, storedAt := now }
  (store.nextSeq,
    { store with
      events := store.events.insert store.nextSeq (codec.toVec stored)
      subjectIdx := store.subjectIdx.insert (toLex (stored.subject, store.nextSeq)) ()
      statusIdx := store.statusIdx.insert (toLex (stored.status.asU8, store.nextSeq)) () })

def get (seq : ℕ) (store : RedbEventStore Bytes) : StorageResult (Option StoredEvent) :=
  store.fetch codec seq

def updateStatus (seq : ℕ) (status : EventStatus) (store : RedbEventStore Bytes) :
    StorageResult Unit × RedbEventStore Bytes :=
  match store.fetchExisting codec seq with
  | .error error => (.error error, store)
  | .ok event =>
      -- the failed-deliveries index is maintained by `recordDelivery` alone
      (.ok (), { store with
        events := store.events.insert seq (codec.toVec (event.withStatus status))
        statusIdx := (store.statusIdx.remove (toLex (event.status.asU8, seq))).insert
          (toLex (status.asU8, seq)) () })

def recordDelivery (now seq : ℕ) (subscriberId : String) (status : DeliveryStatus)
    (error : Option String) (nextRetry : Option ℕ) (store : RedbEventStore Bytes) :
    StorageResult Unit × RedbEventStore Bytes :=
  match store.fetchExisting codec seq with
  | .error error => (.error error, store)
  | .ok event =>
      let updated := event.withDelivery now subscriberId status error nextRetry
      (.ok (), { store with
        events := store.events.insert seq (codec.toVec updated)
        failedDeliveriesIdx :=
          if updated.hasFailed then store.failedDeliveriesIdx.insert seq ()
          else store.failedDeliveriesIdx.remove seq })

/-- The events a compaction deletes, in table order. -/
def expired (threshold : ℕ) (store : RedbEventStore Bytes) : List (ℕ × Bytes) →
    StorageResult (List StoredEvent)
  | [] => .ok []
  | (seq, data) :: rest =>
      match codec.fromSlice data with
      | none => .error (.operationFailed "failed to deserialize")
      | some event => do
          let items ← expired threshold store rest
          .ok (if event.isCompactable threshold then { event with seq } :: items else items)

/-- Delete one event from all four tables. -/
def deleteEvent (store : RedbEventStore Bytes) (event : StoredEvent) : RedbEventStore Bytes where
  events := store.events.remove event.seq
  subjectIdx := store.subjectIdx.remove (toLex (event.subject, event.seq))
  statusIdx := store.statusIdx.remove (toLex (event.status.asU8, event.seq))
  failedDeliveriesIdx := store.failedDeliveriesIdx.remove event.seq

def compact (now olderThan : ℕ) (store : RedbEventStore Bytes) :
    StorageResult ℕ × RedbEventStore Bytes :=
  match store.expired codec (now - olderThan) store.events.entries with
  | .error error => (.error error, store)
  | .ok toDelete => (.ok toDelete.length, toDelete.foldl deleteEvent store)

def requeueDeadLettered (seq : ℕ) (store : RedbEventStore Bytes) :
    StorageResult StoredEvent × RedbEventStore Bytes :=
  match store.fetchExisting codec seq with
  | .error error => (.error error, store)
  | .ok event =>
      if event.status = .deadLettered then
        (.ok event.requeued, { store with
          events := store.events.insert seq (codec.toVec event.requeued)
          statusIdx := (store.statusIdx.remove (toLex (event.status.asU8, seq))).insert
            (toLex (EventStatus.pending.asU8, seq)) ()
          failedDeliveriesIdx := store.failedDeliveriesIdx.remove seq })
      else (.error (notDeadLettered seq), store)

def purgeDeadLettered (seq : ℕ) (store : RedbEventStore Bytes) :
    StorageResult Unit × RedbEventStore Bytes :=
  match store.fetchExisting codec seq with
  | .error error => (.error error, store)
  | .ok event =>
      if event.status = .deadLettered then (.ok (), store.deleteEvent { event with seq })
      else (.error (notDeadLettered seq), store)

/-- The loop of both index queries: it ends at the first key outside the scanned range or when the
limit is reached, skips an entry whose event is gone, and keeps the events it accepts. -/
def scanIndex {κ : Type} (store : RedbEventStore Bytes) (inRange : κ → Bool) (seqOf : κ → ℕ)
    (accept : StoredEvent → Bool) (limit : ℕ) :
    List (κ × Unit) → List StoredEvent → StorageResult (List StoredEvent)
  | [], results => .ok results
  | (key, _) :: rest, results =>
      if inRange key = false then .ok results
      else if limit ≤ results.length then .ok results
      else do
        match ← store.fetch codec (seqOf key) with
        | some event =>
            scanIndex store inRange seqOf accept limit rest
              (if accept event then results ++ [event] else results)
        | none => scanIndex store inRange seqOf accept limit rest results

/-- The scan accepts only events that still have the status, against stale index entries. -/
def queryByStatus (status : EventStatus) (limit : ℕ) (store : RedbEventStore Bytes) :
    StorageResult (List StoredEvent) :=
  store.scanIndex codec (fun key ↦ (ofLex key).1 = status.asU8) (fun key ↦ (ofLex key).2)
    (fun event ↦ event.status = status) limit
    (store.statusIdx.rangeFrom (toLex (status.asU8, 0))) []

def queryBySubject (subject : String) (since : Option ℕ) (limit : ℕ)
    (store : RedbEventStore Bytes) : StorageResult (List StoredEvent) :=
  store.scanIndex codec (fun key ↦ (ofLex key).1 = subject) (fun key ↦ (ofLex key).2)
    (fun _ ↦ true) limit
    (store.subjectIdx.rangeFrom (toLex (subject, since.getD 0))) []

/-- The events the failed-deliveries index names; a stale entry is skipped. -/
def failedEvents (store : RedbEventStore Bytes) :
    List (ℕ × Unit) → StorageResult (List StoredEvent)
  | [] => .ok []
  | (seq, _) :: rest => do
      match ← store.fetch codec seq with
      | some event => do
          let events ← failedEvents store rest
          .ok (event :: events)
      | none => failedEvents store rest

def queryRetryable (now maxAttempts limit : ℕ) (store : RedbEventStore Bytes) :
    StorageResult (List RetryableDelivery) := do
  let events ← store.failedEvents codec store.failedDeliveriesIdx.entries
  .ok ((sortByNextRetry (events.flatMap (·.retryables maxAttempts now))).take limit)

def countRetryable (now maxAttempts : ℕ) (store : RedbEventStore Bytes) : StorageResult ℕ := do
  let events ← store.failedEvents codec store.failedDeliveriesIdx.entries
  .ok (events.map fun event ↦ event.deliveries.countP (·.isRetryable maxAttempts now)).sum

/-- The store as an implementation of the store interface. -/
def exec (now : ℕ) (store : RedbEventStore Bytes) :
    StoreOp → StorageResult StoreReply × RedbEventStore Bytes
  | .append event => ((store.append codec now event).map (fun seq ↦ .ok (.seq seq)) id)
  | .get seq => ((store.get codec seq).map .event, store)
  | .updateStatus seq status =>
      (store.updateStatus codec seq status).map (·.map fun _ ↦ .unit) id
  | .recordDelivery seq subscriberId status error nextRetry =>
      (store.recordDelivery codec now seq subscriberId status error nextRetry).map
        (·.map fun _ ↦ .unit) id
  | .queryByStatus status limit => ((store.queryByStatus codec status limit).map .events, store)
  | .queryBySubject subject since limit =>
      ((store.queryBySubject codec subject since limit).map .events, store)
  | .queryRetryable maxAttempts limit =>
      ((store.queryRetryable codec now maxAttempts limit).map .retryables, store)
  | .countRetryable maxAttempts => ((store.countRetryable codec now maxAttempts).map .count, store)
  | .compact olderThan => (store.compact codec now olderThan).map (·.map .count) id
  | .requeueDeadLettered seq =>
      (store.requeueDeadLettered codec seq).map (·.map fun event ↦ .event (some event)) id
  | .purgeDeadLettered seq => (store.purgeDeadLettered codec seq).map (·.map fun _ ↦ .unit) id

/-- The store driven by clock readings and operations. -/
def machine : Machine (RedbEventStore Bytes) (ℕ × StoreOp) (StorageResult StoreReply) :=
  fun store input ↦ store.exec codec input.1 input.2

/-- The index invariants: each index holds exactly the entries its events call for. -/
structure IndexInvariant (store : RedbEventStore Bytes) : Prop where
  status (statusU8 seq : ℕ) : toLex (statusU8, seq) ∈ store.statusIdx.keys ↔
    ∃ event, store.fetch codec seq = .ok (some event) ∧ event.status.asU8 = statusU8
  subject (subject : String) (seq : ℕ) : toLex (subject, seq) ∈ store.subjectIdx.keys ↔
    ∃ event, store.fetch codec seq = .ok (some event) ∧ event.subject = subject
  failed (seq : ℕ) : seq ∈ store.failedDeliveriesIdx.keys ↔
    ∃ event, store.fetch codec seq = .ok (some event) ∧
      ∃ record ∈ event.deliveries, record.status = .failed

end Operations

end RedbEventStore

end Seidrum.EventBus
