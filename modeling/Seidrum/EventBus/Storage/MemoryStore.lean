import Mathlib.Data.List.Pairwise
import Seidrum.EventBus.Storage.Types
import Seidrum.Foundation.Transition

/-!
# The in-memory event store

A vector of events in ascending sequence order.  The order is a field of the store: an append
takes the successor of the last sequence number, and no other operation moves an event or changes
its number.
-/

namespace Seidrum.EventBus

/-- An in-memory event store backed by a list. -/
@[ext]
structure InMemoryEventStore where
  events : List StoredEvent
  ascending : events.Pairwise fun a b ↦ a.seq < b.seq

namespace InMemoryEventStore

def empty : InMemoryEventStore := ⟨[], List.Pairwise.nil⟩

/-- The number the next appended event gets. -/
def nextSeq (store : InMemoryEventStore) : ℕ :=
  (store.events.getLast?.map fun event ↦ event.seq + 1).getD 1

theorem nextSeq_pos (store : InMemoryEventStore) : 0 < store.nextSeq := by
  unfold nextSeq
  cases store.events.getLast? <;> simp

variable {store : InMemoryEventStore} {event : StoredEvent} {seq : ℕ}

theorem seq_lt_nextSeq (hmem : event ∈ store.events) : event.seq < store.nextSeq := by
  unfold nextSeq
  have hne := List.ne_nil_of_mem hmem
  rw [List.getLast?_eq_some_getLast hne]
  simp only [Option.map_some, Option.getD_some, Nat.lt_succ_iff]
  rcases List.mem_iff_getElem.mp hmem with ⟨i, hi, rfl⟩
  rw [List.getLast_eq_getElem]
  rcases Nat.lt_or_ge i (store.events.length - 1) with hlt | hge
  · exact (List.pairwise_iff_getElem.mp store.ascending i _ hi (by omega) hlt).le
  · exact le_of_eq (by congr 2; omega)

/-- The event with a sequence number; numbers are distinct, so the first match is the only one. -/
def find (store : InMemoryEventStore) (seq : ℕ) : Option StoredEvent :=
  store.events.find? fun event ↦ event.seq = seq

/-- Change the event with a sequence number in place. -/
def modify (store : InMemoryEventStore) (seq : ℕ) (f : StoredEvent → StoredEvent)
    (hf : ∀ event, (f event).seq = event.seq) : InMemoryEventStore where
  events := store.events.map fun event ↦ if event.seq = seq then f event else event
  ascending := List.pairwise_map.mpr <| store.ascending.imp fun {a b} hlt ↦ by
    have hseq (event : StoredEvent) :
        (if event.seq = seq then f event else event).seq = event.seq := by
      split
      · exact hf event
      · rfl
    rw [hseq a, hseq b]
    exact hlt

/-- Keep the events a predicate accepts. -/
def retain (store : InMemoryEventStore) (p : StoredEvent → Bool) : InMemoryEventStore :=
  ⟨store.events.filter p, store.ascending.filter _⟩

theorem eq_of_seq_eq {a b : StoredEvent} (ha : a ∈ store.events) (hb : b ∈ store.events)
    (h : a.seq = b.seq) : a = b := by
  by_contra hne
  have : Std.Symm (fun a b : StoredEvent ↦ a.seq ≠ b.seq) := ⟨fun _ _ hab ↦ hab.symm⟩
  have hdistinct : store.events.Pairwise fun a b ↦ a.seq ≠ b.seq :=
    store.ascending.imp fun hlt ↦ hlt.ne
  exact hdistinct.forall ha hb hne h

theorem find_eq_some_iff :
    store.find seq = some event ↔ event ∈ store.events ∧ event.seq = seq := by
  constructor
  · intro h
    exact ⟨List.mem_of_find?_eq_some h, by simpa using List.find?_some h⟩
  · intro h
    cases hfind : store.find seq with
    | none =>
      have hnone := List.find?_eq_none.mp hfind _ h.1
      simp [h.2] at hnone
    | some other =>
      have hseq : other.seq = seq := by simpa using List.find?_some hfind
      rw [eq_of_seq_eq (List.mem_of_find?_eq_some hfind) h.1 (hseq.trans h.2.symm)]

theorem find_eq_none_iff : store.find seq = none ↔ ∀ event ∈ store.events, event.seq ≠ seq := by
  simp [find]

theorem mem_retain {p : StoredEvent → Bool} :
    event ∈ (store.retain p).events ↔ event ∈ store.events ∧ p event := by
  simp [retain]

/-- Changing one event leaves every other event as it was. -/
theorem mem_modify {f : StoredEvent → StoredEvent} {hf : ∀ event, (f event).seq = event.seq}
    {old : StoredEvent} (hold : store.find seq = some old) :
    event ∈ (store.modify seq f hf).events ↔
      event = f old ∨ (event ∈ store.events ∧ event.seq ≠ seq) := by
  obtain ⟨hmem, hseq⟩ := find_eq_some_iff.mp hold
  simp only [modify, List.mem_map]
  constructor
  · intro h
    obtain ⟨source, hsource, rfl⟩ := h
    by_cases hs : source.seq = seq
    · rw [if_pos hs, eq_of_seq_eq hsource hmem (hs.trans hseq.symm)]
      exact .inl rfl
    · rw [if_neg hs]
      exact .inr ⟨hsource, hs⟩
  · intro h
    obtain rfl | ⟨hother, hne⟩ := h
    · exact ⟨old, hmem, if_pos hseq⟩
    · exact ⟨event, hother, if_neg hne⟩

def append (now : ℕ) (event : StoredEvent) (store : InMemoryEventStore) :
    ℕ × InMemoryEventStore :=
  (store.nextSeq,
    { events := store.events ++ [{ event with seq := store.nextSeq, storedAt := now }]
      ascending := List.pairwise_append.mpr ⟨store.ascending, List.pairwise_singleton _ _,
        fun a ha b hb ↦ by
          rw [List.mem_singleton.mp hb]
          exact seq_lt_nextSeq ha⟩ })

def get (seq : ℕ) (store : InMemoryEventStore) : Option StoredEvent := store.find seq

def updateStatus (seq : ℕ) (status : EventStatus) (store : InMemoryEventStore) :
    StorageResult Unit × InMemoryEventStore :=
  match store.find seq with
  | some _ => (.ok (), store.modify seq (·.withStatus status) fun _ ↦ rfl)
  | none => (.error .notFound, store)

def recordDelivery (now seq : ℕ) (subscriberId : String) (status : DeliveryStatus)
    (error : Option String) (nextRetry : Option ℕ) (store : InMemoryEventStore) :
    StorageResult Unit × InMemoryEventStore :=
  match store.find seq with
  | some _ =>
      (.ok (), store.modify seq (·.withDelivery now subscriberId status error nextRetry) fun _ ↦ rfl)
  | none => (.error .notFound, store)

def queryByStatus (status : EventStatus) (limit : ℕ) (store : InMemoryEventStore) :
    List StoredEvent :=
  (store.events.filter fun event ↦ event.status = status).take limit

def queryBySubject (subject : String) (since : Option ℕ) (limit : ℕ)
    (store : InMemoryEventStore) : List StoredEvent :=
  (store.events.filter fun event ↦
    event.subject = subject ∧ since.all (· ≤ event.seq)).take limit

def queryRetryable (now maxAttempts limit : ℕ) (store : InMemoryEventStore) :
    List RetryableDelivery :=
  (sortByNextRetry (store.events.flatMap (·.retryables maxAttempts now))).take limit

def countRetryable (now maxAttempts : ℕ) (store : InMemoryEventStore) : ℕ :=
  (store.events.map fun event ↦ event.deliveries.countP (·.isRetryable maxAttempts now)).sum

def compact (now olderThan : ℕ) (store : InMemoryEventStore) : ℕ × InMemoryEventStore :=
  let kept := store.retain fun event ↦ !event.isCompactable (now - olderThan)
  (store.events.length - kept.events.length, kept)

def requeueDeadLettered (seq : ℕ) (store : InMemoryEventStore) :
    StorageResult StoredEvent × InMemoryEventStore :=
  match store.find seq with
  | none => (.error .notFound, store)
  | some event =>
      if event.status = .deadLettered then
        (.ok event.requeued, store.modify seq StoredEvent.requeued fun _ ↦ rfl)
      else (.error (notDeadLettered seq), store)

def purgeDeadLettered (seq : ℕ) (store : InMemoryEventStore) :
    StorageResult Unit × InMemoryEventStore :=
  match store.find seq with
  | none => (.error .notFound, store)
  | some event =>
      if event.status = .deadLettered then (.ok (), store.retain fun event ↦ event.seq ≠ seq)
      else (.error (notDeadLettered seq), store)

theorem mem_append {now : ℕ} {new : StoredEvent} :
    event ∈ (store.append now new).2.events ↔
      event ∈ store.events ∨ event = { new with seq := store.nextSeq, storedAt := now } := by
  simp [append]

theorem find_modify (store : InMemoryEventStore) (changed seq : ℕ) (f : StoredEvent → StoredEvent)
    (hf : ∀ event, (f event).seq = event.seq) :
    (store.modify changed f hf).find seq =
      if seq = changed then (store.find seq).map f else store.find seq := by
  unfold find modify
  simp only
  induction store.events with
  | nil => simp
  | cons event rest ih =>
    by_cases hchanged : event.seq = changed
    · by_cases h : seq = changed
      · simp [hchanged, h, hf]
      · have hne : changed ≠ seq := Ne.symm h
        simpa [hchanged, h, hf, hne] using ih
    · by_cases h : seq = changed
      · subst h
        simpa [hchanged] using ih
      · by_cases hseq : event.seq = seq
        · simp [h, hseq]
        · simpa [hchanged, h, hseq] using ih

theorem find_retain (store : InMemoryEventStore) (p : StoredEvent → Bool) (seq : ℕ) :
    (store.retain p).find seq = (store.find seq).filter p := by
  cases hfind : store.find seq with
  | none =>
    have habsent := find_eq_none_iff.mp hfind
    exact find_eq_none_iff.mpr fun event hmem ↦ habsent event (mem_retain.mp hmem).1
  | some event =>
    obtain ⟨hmem, hseq⟩ := find_eq_some_iff.mp hfind
    by_cases hp : p event
    · rw [Option.filter_some, if_pos hp]
      exact find_eq_some_iff.mpr ⟨mem_retain.mpr ⟨hmem, hp⟩, hseq⟩
    · rw [Option.filter_some, if_neg hp]
      refine find_eq_none_iff.mpr fun other hother hne ↦ ?_
      obtain ⟨hin, hpother⟩ := mem_retain.mp hother
      rw [eq_of_seq_eq hin hmem (hne.trans hseq.symm)] at hpother
      exact hp hpother

theorem find_append (store : InMemoryEventStore) (now : ℕ) (event : StoredEvent) (seq : ℕ) :
    (store.append now event).2.find seq =
      if seq = store.nextSeq then some { event with seq := store.nextSeq, storedAt := now }
      else store.find seq := by
  unfold find append
  simp only [List.find?_append]
  split_ifs with h
  · have hnone : store.events.find? (fun event ↦ event.seq = store.nextSeq) = none :=
      List.find?_eq_none.mpr fun other hmem ↦ by simpa using (seq_lt_nextSeq hmem).ne
    simp [h, hnone]
  · simp [Ne.symm h]

theorem find_updateStatus (store : InMemoryEventStore) (changed seq : ℕ) (status : EventStatus) :
    (store.updateStatus changed status).2.find seq =
      if seq = changed then (store.find seq).map (·.withStatus status) else store.find seq := by
  unfold updateStatus
  cases hfind : store.find changed with
  | none =>
    split_ifs with h
    · simp [h, hfind]
    · rfl
  | some event => exact find_modify store changed seq (·.withStatus status) fun _ ↦ rfl

theorem find_recordDelivery (store : InMemoryEventStore) (now changed seq : ℕ)
    (subscriberId : String) (status : DeliveryStatus) (error : Option String)
    (nextRetry : Option ℕ) :
    (store.recordDelivery now changed subscriberId status error nextRetry).2.find seq =
      if seq = changed then
        (store.find seq).map (·.withDelivery now subscriberId status error nextRetry)
      else store.find seq := by
  unfold recordDelivery
  cases hfind : store.find changed with
  | none =>
    split_ifs with h
    · simp [h, hfind]
    · rfl
  | some event =>
    exact find_modify store changed seq (·.withDelivery now subscriberId status error nextRetry)
      fun _ ↦ rfl

theorem find_compact (store : InMemoryEventStore) (now olderThan seq : ℕ) :
    (store.compact now olderThan).2.find seq =
      (store.find seq).filter fun event ↦ !event.isCompactable (now - olderThan) :=
  find_retain store _ seq

/-- The store as an implementation of the store interface. -/
def exec (now : ℕ) (store : InMemoryEventStore) :
    StoreOp → StorageResult StoreReply × InMemoryEventStore
  | .append event => ((store.append now event).map (fun seq ↦ .ok (.seq seq)) id)
  | .get seq => (.ok (.event (store.get seq)), store)
  | .updateStatus seq status =>
      (store.updateStatus seq status).map (·.map fun _ ↦ .unit) id
  | .recordDelivery seq subscriberId status error nextRetry =>
      (store.recordDelivery now seq subscriberId status error nextRetry).map
        (·.map fun _ ↦ .unit) id
  | .queryByStatus status limit => (.ok (.events (store.queryByStatus status limit)), store)
  | .queryBySubject subject since limit =>
      (.ok (.events (store.queryBySubject subject since limit)), store)
  | .queryRetryable maxAttempts limit =>
      (.ok (.retryables (store.queryRetryable now maxAttempts limit)), store)
  | .countRetryable maxAttempts => (.ok (.count (store.countRetryable now maxAttempts)), store)
  | .compact olderThan => (store.compact now olderThan).map (fun count ↦ .ok (.count count)) id
  | .requeueDeadLettered seq =>
      (store.requeueDeadLettered seq).map (·.map fun event ↦ .event (some event)) id
  | .purgeDeadLettered seq => (store.purgeDeadLettered seq).map (·.map fun _ ↦ .unit) id

/-- The store driven by clock readings and operations. -/
def machine : Foundation.Machine InMemoryEventStore (ℕ × StoreOp) (StorageResult StoreReply) :=
  fun store input ↦ store.exec input.1 input.2

end InMemoryEventStore

end Seidrum.EventBus
