import Seidrum.EventBus.Storage.Refinement

/-!
# Dead-lettered events

A query for dead-lettered events is the same for every store: it asks for the events of that status up
to the limit and then drops those of other subjects.  So the events of one subject can be hidden by
events of other subjects that come before them.

Taking a dead-lettered event back, or out, is one write of the store, which looks at the status itself.
-/

namespace Seidrum.EventBus

/-! ## Queries -/

/-- Query dead-lettered events for inspection or replay, given how a store queries by status. -/
def EventStore.queryDeadLettered (queryByStatus : EventStatus → ℕ → StorageResult (List StoredEvent))
    (subject : Option String) (limit : ℕ) : StorageResult (List StoredEvent) := do
  let events ← queryByStatus .deadLettered limit
  return match subject with
    | some subject => (events.filter fun event ↦ event.subject = subject).take limit
    | none => events

def InMemoryEventStore.queryDeadLettered (subject : Option String) (limit : ℕ)
    (store : InMemoryEventStore) : StorageResult (List StoredEvent) :=
  EventStore.queryDeadLettered (fun status limit ↦ .ok (store.queryByStatus status limit)) subject limit

def RedbEventStore.queryDeadLettered {Bytes : Type} (codec : EventCodec Bytes) (subject : Option String)
    (limit : ℕ) (store : RedbEventStore Bytes) : StorageResult (List StoredEvent) :=
  EventStore.queryDeadLettered (fun status limit ↦ store.queryByStatus codec status limit) subject limit

/-- The dead-lettered events of a store, in the order of their numbers. -/
def InMemoryEventStore.deadLettered (store : InMemoryEventStore) : List StoredEvent :=
  store.events.filter fun event ↦ event.status = .deadLettered

theorem InMemoryEventStore.mem_deadLettered {store : InMemoryEventStore} {event : StoredEvent} :
    event ∈ store.deadLettered ↔ event ∈ store.events ∧ event.status = .deadLettered := by
  rw [deadLettered, List.mem_filter, decide_eq_true_eq]

def InMemoryEventStore.firstDeadLettered (subject : String) (limit : ℕ) (store : InMemoryEventStore) :
    List StoredEvent :=
  (store.deadLettered.filter fun event ↦ event.subject = subject).take limit

/-- An answer with the first dead-lettered events of a subject, which is empty only if there are none. -/
structure FindsDeadLettered (store : InMemoryEventStore) (subject : String) (limit : ℕ)
    (answer : StorageResult (List StoredEvent)) : Prop where
  first : answer = .ok (store.firstDeadLettered subject limit)
  complete : 0 < limit → answer = .ok [] → ∀ event ∈ store.events,
    event.status = .deadLettered → event.subject ≠ subject

/-- No event of another subject stands before one of the subject that the limit leaves out. -/
def Unhidden (store : InMemoryEventStore) (subject : String) (limit : ℕ) : Prop :=
  (∀ event ∈ store.deadLettered.take limit, event.subject = subject) ∨
    ∀ event ∈ store.deadLettered.drop limit, event.subject ≠ subject

instance (store : InMemoryEventStore) (subject : String) (limit : ℕ) :
    Decidable (Unhidden store subject limit) :=
  inferInstanceAs (Decidable (_ ∨ _))

/-- Leaving elements out of the first ones gives the first of those that stay exactly if it leaves none
out, or all that stay are among the first. -/
theorem filter_take_eq_take_filter_iff {α : Type*} {p : α → Bool} {n : ℕ} {l : List α} :
    ((l.take n).filter p).take n = (l.filter p).take n ↔
      (∀ a ∈ l.take n, p a) ∨ ∀ a ∈ l.drop n, p a = false := by
  have hsplit : (l.take n).filter p ++ (l.drop n).filter p = l.filter p := by
    rw [← List.filter_append, List.take_append_drop]
  have hshort : ((l.take n).filter p).length ≤ n :=
    (List.length_filter_le p _).trans (List.length_take_le n l)
  have hrest : (∀ a ∈ l.drop n, p a = false) ↔ (l.drop n).filter p = [] := by
    simp [List.filter_eq_nil_iff]
  rw [List.take_of_length_le hshort, ← hsplit, List.take_append, List.take_of_length_le hshort,
    List.self_eq_append_right, List.take_eq_nil_iff, hrest]
  refine or_congr_left' fun hmore ↦ ?_
  have hlong : n ≤ l.length := by
    by_contra hlt
    exact hmore (by rw [List.drop_of_length_le (by omega), List.filter_nil])
  have hfull : (l.take n).length = n := List.length_take_of_le hlong
  rw [← List.length_filter_eq_length_iff, hfull]
  omega

theorem queryDeadLettered_eq (store : InMemoryEventStore) (subject : String) (limit : ℕ) :
    store.queryDeadLettered (some subject) limit =
      .ok (((store.deadLettered.take limit).filter fun event ↦ event.subject = subject).take limit) :=
  rfl

theorem StoreRefinement.Agree.queryDeadLettered_eq {Bytes : Type} {codec : EventCodec Bytes}
    {memory : InMemoryEventStore} {db : RedbEventStore Bytes} (h : Agree codec memory db)
    (subject : Option String) (limit : ℕ) :
    db.queryDeadLettered codec subject limit = memory.queryDeadLettered subject limit := by
  simp only [RedbEventStore.queryDeadLettered, EventStore.queryDeadLettered, h.queryByStatus_eq]
  rfl

/-- The first dead-lettered events of a subject are all there are, or as many as the limit. -/
theorem findsDeadLettered_iff {store : InMemoryEventStore} {subject : String} {limit : ℕ}
    {answer : StorageResult (List StoredEvent)} :
    FindsDeadLettered store subject limit answer ↔
      answer = .ok (store.firstDeadLettered subject limit) := by
  refine ⟨FindsDeadLettered.first, fun hfirst ↦ ⟨hfirst, fun hlimit hempty event hmem hdead heq ↦ ?_⟩⟩
  rw [hfirst, Except.ok.injEq, InMemoryEventStore.firstDeadLettered, List.take_eq_nil_iff] at hempty
  have hnone := hempty.resolve_left hlimit.ne'
  have hin : event ∈ store.deadLettered.filter fun event ↦ event.subject = subject :=
    List.mem_filter.mpr ⟨InMemoryEventStore.mem_deadLettered.mpr ⟨hmem, hdead⟩, by simpa using heq⟩
  rw [hnone] at hin
  exact List.not_mem_nil hin

/-- Both stores find the first dead-lettered events of a subject exactly if none is hidden. -/
theorem queryDeadLettered_finds_iff {Bytes : Type} {codec : EventCodec Bytes}
    {memory : InMemoryEventStore} {db : RedbEventStore Bytes}
    (h : StoreRefinement.Agree codec memory db) (subject : String) (limit : ℕ) :
    (FindsDeadLettered memory subject limit (memory.queryDeadLettered (some subject) limit) ↔
        Unhidden memory subject limit) ∧
      (FindsDeadLettered memory subject limit (db.queryDeadLettered codec (some subject) limit) ↔
        Unhidden memory subject limit) := by
  have hmemory : FindsDeadLettered memory subject limit
      (memory.queryDeadLettered (some subject) limit) ↔ Unhidden memory subject limit := by
    rw [findsDeadLettered_iff, queryDeadLettered_eq, Except.ok.injEq,
      InMemoryEventStore.firstDeadLettered, filter_take_eq_take_filter_iff]
    simp [Unhidden]
  exact ⟨hmemory, by rw [h.queryDeadLettered_eq, hmemory]⟩

/-- An event of some subject. -/
def eventOf (subject : String) : StoredEvent :=
  { seq := 0, subject, payload := [], storedAt := 0, status := .pending, deliveries := [],
    replySubject := none }

/-- Two dead-lettered events, of different subjects. -/
def twoDeadLetters : List (ℕ × StoreOp) :=
  [(1, .append (eventOf "a")), (2, .append (eventOf "b")), (3, .updateStatus 1 .deadLettered),
    (4, .updateStatus 2 .deadLettered)]

theorem agree_twoDeadLetters :
    StoreRefinement.Agree EventCodec.structural
      (InMemoryEventStore.machine.run .empty twoDeadLetters)
      ((RedbEventStore.machine EventCodec.structural).run .create twoDeadLetters) := by
  have hfresh : ∀ input ∈ twoDeadLetters, input.2.IsFresh := by
    simp [twoDeadLetters, eventOf, StoreOp.IsFresh]
  exact Foundation.Machine.run_simulation
    (fun _ _ input hok hagree ↦ hagree.exec input.1 hok) StoreRefinement.agree_create hfresh

theorem queryDeadLettered_finds_iff_two :
    let memory := InMemoryEventStore.machine.run .empty twoDeadLetters
    (FindsDeadLettered memory "b" 2 (memory.queryDeadLettered (some "b") 2) ↔
        Unhidden memory "b" 2) ∧
      (FindsDeadLettered memory "b" 2
          (((RedbEventStore.machine EventCodec.structural).run .create
            twoDeadLetters).queryDeadLettered EventCodec.structural (some "b") 2) ↔
        Unhidden memory "b" 2) :=
  queryDeadLettered_finds_iff agree_twoDeadLetters "b" 2

/-- With a limit of one, the event of the second subject is not found. -/
theorem twoDeadLetters_hidden :
    let memory := InMemoryEventStore.machine.run .empty twoDeadLetters
    memory.queryDeadLettered (some "b") 1 = .ok [] ∧
      ¬FindsDeadLettered memory "b" 1 (memory.queryDeadLettered (some "b") 1) := by
  refine ⟨by decide, fun h ↦ ?_⟩
  have hfirst := h.first
  revert hfirst
  decide

namespace InMemoryEventStore

/-- The event with a number is there and is dead-lettered. -/
def IsDeadLettered (seq : ℕ) (store : InMemoryEventStore) : Prop :=
  ∃ event ∈ store.find seq, event.status = .deadLettered

instance (seq : ℕ) (store : InMemoryEventStore) : Decidable (store.IsDeadLettered seq) := by
  unfold IsDeadLettered
  infer_instance

variable {store : InMemoryEventStore} {seq other : ℕ}

theorem requeueDeadLettered_of_not (h : ¬store.IsDeadLettered seq) :
    ∃ error, store.requeueDeadLettered seq = (.error error, store) := by
  unfold requeueDeadLettered
  cases hfind : store.find seq with
  | none => exact ⟨_, rfl⟩
  | some event =>
    have hstatus : event.status ≠ .deadLettered := fun hdead ↦ h ⟨event, hfind, hdead⟩
    exact ⟨_, if_neg hstatus⟩

theorem requeueDeadLettered_of {event : StoredEvent} (hfind : store.find seq = some event)
    (hdead : event.status = .deadLettered) :
    store.requeueDeadLettered seq =
      (.ok event.requeued, store.modify seq StoredEvent.requeued StoredEvent.requeued_seq) := by
  rw [requeueDeadLettered, hfind]
  exact if_pos hdead

theorem purgeDeadLettered_of_not (h : ¬store.IsDeadLettered seq) :
    ∃ error, store.purgeDeadLettered seq = (.error error, store) := by
  unfold purgeDeadLettered
  cases hfind : store.find seq with
  | none => exact ⟨_, rfl⟩
  | some event =>
    have hstatus : event.status ≠ .deadLettered := fun hdead ↦ h ⟨event, hfind, hdead⟩
    exact ⟨_, if_neg hstatus⟩

/-- A requeue resets the event, or changes nothing. -/
theorem find_requeueDeadLettered (store : InMemoryEventStore) (seq other : ℕ) :
    (store.requeueDeadLettered seq).2.find other =
      if other = seq ∧ store.IsDeadLettered seq then (store.find other).map StoredEvent.requeued
      else store.find other := by
  by_cases hdead : store.IsDeadLettered seq
  · obtain ⟨event, hfind, hstatus⟩ := hdead
    rw [requeueDeadLettered_of hfind hstatus, find_modify]
    simp only [and_iff_left (show store.IsDeadLettered seq from ⟨event, hfind, hstatus⟩)]
  · obtain ⟨error, hrefused⟩ := requeueDeadLettered_of_not hdead
    rw [hrefused, if_neg fun h ↦ hdead h.2]

end InMemoryEventStore

namespace StoreRefinement

variable {Bytes : Type} {codec : EventCodec Bytes} {memory : InMemoryEventStore}
  {db : RedbEventStore Bytes} {seq : ℕ}

/-- The durable store refuses to requeue or purge what is not dead-lettered, and is left as it was. -/
theorem EventsAgree.refused (h : EventsAgree codec memory db.events)
    (hdead : ¬memory.IsDeadLettered seq) :
    (∃ error, db.requeueDeadLettered codec seq = (.error error, db)) ∧
      ∃ error, db.purgeDeadLettered codec seq = (.error error, db) := by
  unfold RedbEventStore.requeueDeadLettered RedbEventStore.purgeDeadLettered
  rw [h.fetchExisting_eq]
  cases hfind : memory.find seq with
  | none => exact ⟨⟨_, rfl⟩, ⟨_, rfl⟩⟩
  | some event =>
    have hstatus : event.status ≠ .deadLettered := fun hdead' ↦ hdead ⟨event, hfind, hdead'⟩
    exact ⟨⟨_, if_neg hstatus⟩, ⟨_, if_neg hstatus⟩⟩

theorem Agree.get_requeueDeadLettered (h : Agree codec memory db) {event : StoredEvent}
    (hfind : memory.find seq = some event) (hdead : event.status = .deadLettered) :
    (db.requeueDeadLettered codec seq).1 = .ok event.requeued ∧
      (db.requeueDeadLettered codec seq).2.get codec seq = .ok (some event.requeued) := by
  obtain ⟨hreply, hagree⟩ := h.requeueDeadLettered seq
  refine ⟨?_, ?_⟩
  · rw [← hreply, InMemoryEventStore.requeueDeadLettered_of hfind hdead]
  · rw [RedbEventStore.get, hagree.events.fetch_eq, InMemoryEventStore.find_requeueDeadLettered,
      if_pos ⟨rfl, event, hfind, hdead⟩, hfind, Option.map_some]

end StoreRefinement

end Seidrum.EventBus
