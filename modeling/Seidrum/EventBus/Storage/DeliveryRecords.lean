import Mathlib.Data.List.Induction
import Seidrum.EventBus.Storage.MemoryStore
import Seidrum.EventBus.Storage.RedbStore

/-!
# The delivery records of an event

Every outcome of a delivery is recorded by a call that updates the subscriber's record or creates it.  What
a record holds after any sequence of calls is a function of the calls made for its subscriber.  The update
counts a dead-lettered outcome as an attempt and the creation does not, so the count is short by one exactly
where the first outcome of a subscriber is dead-lettered.  The counter has 32 bits.
-/

namespace Seidrum.EventBus

open Seidrum.Foundation

/-- A call that records the outcome of a delivery, with the time it reads. -/
structure DeliveryCall where
  now : ℕ
  subscriberId : String
  status : DeliveryStatus
  error : Option String
  nextRetry : Option ℕ
  deriving DecidableEq, Repr

namespace DeliveryCall

/-- The calls made for a subscriber. -/
def callsFor (subscriberId : String) (calls : List DeliveryCall) : List DeliveryCall :=
  calls.filter fun call ↦ call.subscriberId = subscriberId

/-- The attempts that the calls report: those that failed and those that were given up. -/
def reported (calls : List DeliveryCall) : ℕ :=
  calls.countP (fun call ↦ call.status = .failed) + calls.countP fun call ↦ call.status = .deadLettered

def apply (event : StoredEvent) (call : DeliveryCall) : StoredEvent :=
  event.withDelivery call.now call.subscriberId call.status call.error call.nextRetry

/-- A record, or none yet, after a call for its subscriber. -/
def recorded (record : Option DeliveryRecord) (call : DeliveryCall) : Option DeliveryRecord :=
  some (match record with
    | some record => record.transition call.now call.status call.error call.nextRetry
    | none => .first call.now call.subscriberId call.status call.error call.nextRetry)

end DeliveryCall

open DeliveryCall

namespace DeliveryRecord

/-- A record as the calls made for its subscriber call for; the counter has 32 bits. -/
structure Summarizes (calls : List DeliveryCall) (record : DeliveryRecord) : Prop where
  status : calls.getLast?.map DeliveryCall.status = some record.status
  nextRetry : calls.getLast?.map DeliveryCall.nextRetry = some record.nextRetry
  error : ((calls.filter fun call ↦ call.status.countsAttempt).getLast?.or calls.head?).map
    DeliveryCall.error = some record.error
  attempts : record.attempts % 2 ^ 32 = reported calls

end DeliveryRecord

/-- The records of an event as a sequence of calls calls for: one for each subscriber, in the order of
their first calls. -/
structure Bookkept (calls : List DeliveryCall) (records : List DeliveryRecord) : Prop where
  ids : records.map DeliveryRecord.subscriberId = (calls.map DeliveryCall.subscriberId).eraseDups
  record : ∀ record ∈ records, record.Summarizes (callsFor record.subscriberId calls)

/-- No subscriber's first outcome is dead-lettered, and no counter overflows. -/
def CountedAlike (calls : List DeliveryCall) : Prop :=
  ∀ subscriberId, (∀ call ∈ (callsFor subscriberId calls).head?, call.status ≠ .deadLettered) ∧
    reported (callsFor subscriberId calls) < 2 ^ 32

section Record

variable {calls : List DeliveryCall} {call : DeliveryCall} {record : DeliveryRecord} {id : String}

theorem reported_append (calls more : List DeliveryCall) :
    reported (calls ++ more) = reported calls + reported more := by
  unfold reported
  rw [List.countP_append, List.countP_append]
  omega

theorem reported_singleton (call : DeliveryCall) :
    reported [call] = if call.status.countsAttempt then 1 else 0 := by
  unfold reported
  cases hstatus : call.status <;> simp [hstatus, DeliveryStatus.countsAttempt]

/-- What the calls after the first make of a record. -/
theorem foldl_recorded_some (record : DeliveryRecord) (calls : List DeliveryCall) :
    ∃ after, calls.foldl recorded (some record) = some after ∧
      after.subscriberId = record.subscriberId ∧
      after.status = (calls.getLast?.map DeliveryCall.status).getD record.status ∧
      after.nextRetry = (calls.getLast?.map DeliveryCall.nextRetry).getD record.nextRetry ∧
      after.error = (((calls.filter fun call ↦ call.status.countsAttempt).getLast?).map
        DeliveryCall.error).getD record.error ∧
      after.attempts = record.attempts + reported calls := by
  induction calls using List.reverseRecOn with
  | nil => exact ⟨record, rfl, rfl, rfl, rfl, rfl, rfl⟩
  | append_singleton calls call ih =>
    obtain ⟨before, hbefore, hid, -, -, herror, hattempts⟩ := ih
    refine ⟨before.transition call.now call.status call.error call.nextRetry, ?_, hid, ?_, ?_, ?_, ?_⟩
    · rw [List.foldl_append, hbefore]
      rfl
    · rw [List.getLast?_concat]
      rfl
    · rw [List.getLast?_concat]
      rfl
    · rw [List.filter_append, List.filter_singleton, DeliveryRecord.transition]
      split_ifs with hcounts
      · simp [hcounts]
      · simp [hcounts, herror]
    · rw [reported_append, reported_singleton, DeliveryRecord.transition]
      simp only [hattempts]
      split_ifs <;> omega

/-- A record after the calls for its subscriber. -/
theorem exists_recorded (first : DeliveryCall) (rest : List DeliveryCall) :
    ∃ record, (first :: rest).foldl recorded none = some record ∧
      record.subscriberId = first.subscriberId ∧
      (record.Summarizes (first :: rest) ↔
        first.status ≠ .deadLettered ∧ reported (first :: rest) < 2 ^ 32) := by
  let created : DeliveryRecord :=
    .first first.now first.subscriberId first.status first.error first.nextRetry
  obtain ⟨record, hrecord, hid, hstatus, hnextRetry, herror, hattempts⟩ :=
    foldl_recorded_some created rest
  refine ⟨record, hrecord, hid, ?_⟩
  have hcount : reported (first :: rest) = reported [first] + reported rest :=
    reported_append [first] rest
  have hcreated : created.attempts = if first.status = .failed then 1 else 0 := rfl
  rw [reported_singleton] at hcount
  constructor
  · intro h
    have hsummary := h.attempts
    rw [hattempts, hcount, hcreated] at hsummary
    rw [hcount]
    cases hfirst : first.status <;> simp [hfirst, DeliveryStatus.countsAttempt] at hsummary ⊢ <;> omega
  · rintro ⟨hfirst, hbound⟩
    refine ⟨?_, ?_, ?_, ?_⟩
    · rw [List.getLast?_cons, Option.map_some, hstatus]
      cases rest.getLast? <;> rfl
    · rw [List.getLast?_cons, Option.map_some, hnextRetry]
      cases rest.getLast? <;> rfl
    · rw [herror, List.head?_cons, List.filter_cons]
      split_ifs with hcounts
      · rw [List.getLast?_cons]
        cases (rest.filter fun call ↦ call.status.countsAttempt).getLast? <;> rfl
      · cases (rest.filter fun call ↦ call.status.countsAttempt).getLast? <;> rfl
    · rw [hattempts, hcount, hcreated]
      rw [hcount] at hbound
      cases hstatus : first.status <;> simp [hstatus, DeliveryStatus.countsAttempt] at hfirst hbound ⊢ <;> omega

/-- The record of a subscriber depends on the calls made for it alone. -/
theorem recordOf_foldl_apply (id : String) (event : StoredEvent) (calls : List DeliveryCall) :
    (calls.foldl apply event).recordOf id =
      (callsFor id calls).foldl recorded (event.recordOf id) := by
  induction calls generalizing event with
  | nil => rfl
  | cons call rest ih =>
    rw [List.foldl_cons, ih, apply, StoredEvent.recordOf_withDelivery]
    by_cases hid : call.subscriberId = id
    · subst hid
      rw [if_pos rfl, callsFor, callsFor, List.filter_cons_of_pos (by simp)]
      rfl
    · rw [if_neg (Ne.symm hid), callsFor, callsFor, List.filter_cons_of_neg (by simpa using hid)]

variable {event : StoredEvent}

theorem distinctRecords_foldl_apply (h : event.DistinctRecords) (calls : List DeliveryCall) :
    (calls.foldl apply event).DistinctRecords := by
  induction calls generalizing event with
  | nil => exact h
  | cons call rest ih =>
    exact ih (h.withDelivery call.now call.subscriberId call.status call.error call.nextRetry)

theorem eraseDups_concat (ids : List String) (id : String) :
    (ids ++ [id]).eraseDups = if id ∈ ids then ids.eraseDups else ids.eraseDups ++ [id] := by
  rw [List.eraseDups_append]
  split_ifs with hmem
  · have hnil : [id].removeAll ids = [] := by simp [List.removeAll, hmem]
    rw [hnil, List.eraseDups_nil, List.append_nil]
  · have hkept : [id].removeAll ids = [id] := by simp [List.removeAll, hmem]
    rw [hkept]
    rfl

/-- The subscribers of an event's records, in the order of their first calls. -/
theorem ids_foldl_apply (hnone : event.deliveries = []) (calls : List DeliveryCall) :
    (calls.foldl apply event).deliveries.map DeliveryRecord.subscriberId =
      (calls.map DeliveryCall.subscriberId).eraseDups := by
  induction calls using List.reverseRecOn with
  | nil =>
    rw [List.foldl_nil, hnone]
    rfl
  | append_singleton calls call ih =>
    rw [List.foldl_append, List.map_append, List.map_singleton, eraseDups_concat, ← ih]
    let before := calls.foldl apply event
    have hmem : call.subscriberId ∈ calls.map DeliveryCall.subscriberId ↔
        before.recordOf call.subscriberId ≠ none := by
      rw [← List.mem_eraseDups, ← ih, StoredEvent.recordOf, ne_eq, List.find?_eq_none]
      simp [before]
    change (before.withDelivery call.now call.subscriberId call.status call.error
      call.nextRetry).deliveries.map DeliveryRecord.subscriberId = _
    split_ifs with hcalled
    · exact StoredEvent.ids_withDelivery_of_some (hmem.mp hcalled) _ _ _ _
    · have hrecord : before.recordOf call.subscriberId = none := not_not.mp (mt hmem.mpr hcalled)
      rw [StoredEvent.deliveries_withDelivery_of_none hrecord, List.map_append]
      rfl

/-- After its calls an event's records are in order exactly if no first outcome of a subscriber is
dead-lettered and no counter overflows. -/
theorem bookkept_foldl_apply_iff (hnone : event.deliveries = []) (calls : List DeliveryCall) :
    Bookkept calls (calls.foldl apply event).deliveries ↔ CountedAlike calls := by
  let after := calls.foldl apply event
  have hids : after.deliveries.map DeliveryRecord.subscriberId =
      (calls.map DeliveryCall.subscriberId).eraseDups := ids_foldl_apply hnone calls
  have hdistinct : after.DistinctRecords :=
    distinctRecords_foldl_apply (by rw [StoredEvent.DistinctRecords, hnone]; exact List.nodup_nil) calls
  have hrecord (id : String) : after.recordOf id = (callsFor id calls).foldl recorded none := by
    rw [recordOf_foldl_apply, StoredEvent.recordOf, hnone, List.find?_nil]
  have hsummary (record : DeliveryRecord) (hmem : record ∈ after.deliveries) :
      record.Summarizes (callsFor record.subscriberId calls) ↔
        (∀ call ∈ (callsFor record.subscriberId calls).head?, call.status ≠ .deadLettered) ∧
          reported (callsFor record.subscriberId calls) < 2 ^ 32 := by
    have hfold := (hrecord record.subscriberId).symm.trans (hdistinct.recordOf_eq hmem)
    cases hcalls : callsFor record.subscriberId calls with
    | nil =>
      rw [hcalls] at hfold
      exact nomatch hfold
    | cons first rest =>
      obtain ⟨folded, hfolded, -, hiff⟩ := exists_recorded first rest
      rw [hcalls, hfolded] at hfold
      cases hfold
      rw [hiff, List.head?_cons]
      simp only [Option.mem_some, forall_eq']
  constructor
  · intro h id
    by_cases hid : id ∈ after.deliveries.map DeliveryRecord.subscriberId
    · obtain ⟨record, hmem, rfl⟩ := List.mem_map.mp hid
      exact (hsummary record hmem).mp (h.record record hmem)
    · have hnil : callsFor id calls = [] := by
        rw [hids, List.mem_eraseDups] at hid
        refine List.filter_eq_nil_iff.mpr fun call hcall hsame ↦ hid ?_
        exact List.mem_map.mpr ⟨call, hcall, of_decide_eq_true hsame⟩
      rw [hnil]
      exact ⟨(fun _ hhead ↦ nomatch hhead), by decide⟩
  · intro h
    exact ⟨hids, fun record hmem ↦ (hsummary record hmem).mpr (h record.subscriberId)⟩

end Record

namespace InMemoryEventStore

/-- The store after calls that record outcomes of one event. -/
def recordAll (seq : ℕ) (calls : List DeliveryCall) (store : InMemoryEventStore) : InMemoryEventStore :=
  calls.foldl (fun store call ↦ (store.recordDelivery call.now seq call.subscriberId call.status
    call.error call.nextRetry).2) store

theorem find_recordAll (seq : ℕ) (calls : List DeliveryCall) (store : InMemoryEventStore) :
    (store.recordAll seq calls).find seq = (store.find seq).map fun event ↦ calls.foldl apply event := by
  induction calls generalizing store with
  | nil => exact Option.map_id'.symm
  | cons call rest ih =>
    rw [recordAll, List.foldl_cons, ← recordAll, ih, find_recordDelivery, if_pos rfl, Option.map_map]
    rfl

end InMemoryEventStore

namespace RedbEventStore

variable {Bytes : Type}

@[inherit_doc InMemoryEventStore.recordAll]
def recordAll (codec : EventCodec Bytes) (seq : ℕ) (calls : List DeliveryCall)
    (store : RedbEventStore Bytes) : RedbEventStore Bytes :=
  calls.foldl (fun store call ↦ (store.recordDelivery codec call.now seq call.subscriberId call.status
    call.error call.nextRetry).2) store

theorem fetch_recordAll (codec : EventCodec Bytes) {seq : ℕ} (calls : List DeliveryCall)
    {store : RedbEventStore Bytes} {event : StoredEvent}
    (hfetch : store.fetch codec seq = .ok (some event)) :
    (store.recordAll codec seq calls).fetch codec seq = .ok (some (calls.foldl apply event)) := by
  induction calls generalizing store event with
  | nil => exact hfetch
  | cons call rest ih =>
    rw [recordAll, List.foldl_cons, ← recordAll]
    refine ih ?_
    have hexisting : store.fetchExisting codec seq = .ok event := by
      rw [fetchExisting, hfetch]
      rfl
    simp only [recordDelivery, hexisting, fetch, Table.get_insert, if_true, codec.fromSlice_toVec]
    rfl

end RedbEventStore

/-- In either store, after any calls on an event without records, the records are what the calls call for
exactly if no first outcome of a subscriber is dead-lettered and no counter overflows. -/
theorem recordDelivery_bookkept_iff {event : StoredEvent} (hnone : event.deliveries = []) (seq : ℕ)
    (calls : List DeliveryCall) :
    (∀ store : InMemoryEventStore, store.find seq = some event →
      ∃ after, (store.recordAll seq calls).find seq = some after ∧
        (Bookkept calls after.deliveries ↔ CountedAlike calls)) ∧
    ∀ (Bytes : Type) (codec : EventCodec Bytes) (store : RedbEventStore Bytes),
      store.fetch codec seq = .ok (some event) →
      ∃ after, (store.recordAll codec seq calls).fetch codec seq = .ok (some after) ∧
        (Bookkept calls after.deliveries ↔ CountedAlike calls) := by
  constructor
  · intro store hfind
    refine ⟨calls.foldl apply event, ?_, bookkept_foldl_apply_iff hnone calls⟩
    rw [InMemoryEventStore.find_recordAll, hfind, Option.map_some]
  · intro Bytes codec store hfetch
    exact ⟨calls.foldl apply event, RedbEventStore.fetch_recordAll codec calls hfetch,
      bookkept_foldl_apply_iff hnone calls⟩

/-- An event without records. -/
def unrecordedEvent : StoredEvent :=
  { seq := 0, subject := "a.b", payload := [1], storedAt := 0, status := .pending, deliveries := [],
    replySubject := none }

/-- A delivery fails and is given up; another one succeeds. -/
theorem recordDelivery_bookkept_iff_given_up :
    let calls : List DeliveryCall :=
      [⟨5, "s", .failed, some "full", some 9⟩, ⟨6, "t", .delivered, none, none⟩,
        ⟨9, "s", .deadLettered, some "gone", none⟩]
    ∃ after, ((InMemoryEventStore.empty.append 3 unrecordedEvent).2.recordAll 1 calls).find 1 = some after ∧
      after.deliveries = [⟨"s", .deadLettered, 2, some 9, none, some "gone"⟩,
        ⟨"t", .delivered, 0, some 6, none, none⟩] ∧
      (Bookkept calls after.deliveries ↔ CountedAlike calls) := by
  have hnone : ({ unrecordedEvent with seq := 1, storedAt := 3 } : StoredEvent).deliveries = [] := rfl
  obtain ⟨after, hafter, hiff⟩ := (recordDelivery_bookkept_iff hnone 1
    [⟨5, "s", .failed, some "full", some 9⟩, ⟨6, "t", .delivered, none, none⟩,
      ⟨9, "s", .deadLettered, some "gone", none⟩]).1 (InMemoryEventStore.empty.append 3 unrecordedEvent).2
    (by decide +kernel)
  refine ⟨after, hafter, ?_, hiff⟩
  rw [InMemoryEventStore.find_recordAll] at hafter
  cases hafter
  decide +kernel

/-- A first outcome that is dead-lettered is not counted. -/
theorem recordDelivery_not_bookkept :
    let calls : List DeliveryCall := [⟨5, "s", .deadLettered, some "dead-lettered: interceptor panicked", none⟩]
    ∃ after, ((InMemoryEventStore.empty.append 3 unrecordedEvent).2.recordAll 1 calls).find 1 = some after ∧
      after.deliveries =
        [⟨"s", .deadLettered, 0, some 5, none, some "dead-lettered: interceptor panicked"⟩] ∧
      ¬Bookkept calls after.deliveries := by
  refine ⟨_, rfl, by decide +kernel, fun h ↦ ?_⟩
  have hattempts := (h.record _ List.mem_cons_self).attempts
  exact absurd hattempts (by decide +kernel)

end Seidrum.EventBus
