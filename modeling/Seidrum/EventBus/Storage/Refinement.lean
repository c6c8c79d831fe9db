import Seidrum.Foundation.SecondaryIndex
import Seidrum.EventBus.Storage.MemoryStore
import Seidrum.EventBus.Storage.RedbStore

/-!
# The redb store refines the in-memory store

The events table of the durable store is the list of the in-memory store, serialized, and each of
its three indexes is an index of that list.  Every operation keeps this agreement and both stores
give the same reply, errors included, so the two stores cannot be told apart by any sequence of
operations in which events are appended without delivery records.

The agreement of the events table alone needs no such restriction: it is kept by every append.
-/

namespace Seidrum.EventBus.StoreRefinement

open Seidrum.Foundation

variable {Bytes : Type} (codec : EventCodec Bytes)

/-! ## Agreement of the events table -/

/-- The events table is the in-memory list, serialized. -/
def EventsAgree (memory : InMemoryEventStore) (table : Table ℕ Bytes) : Prop :=
  table.entries = memory.events.map fun event ↦ (event.seq, codec.toVec event)

variable {codec} {memory : InMemoryEventStore} {table : Table ℕ Bytes}

theorem EventsAgree.mem_entries (h : EventsAgree codec memory table) {entry : ℕ × Bytes} :
    entry ∈ table.entries ↔ ∃ event ∈ memory.events, (event.seq, codec.toVec event) = entry := by
  rw [h, List.mem_map]

theorem eventsAgree_of_mem (h : ∀ entry, entry ∈ table.entries ↔
    ∃ event ∈ memory.events, (event.seq, codec.toVec event) = entry) :
    EventsAgree codec memory table := by
  apply table.entries_eq_of_mem_iff
  · exact List.pairwise_map.mpr memory.ascending
  · intro entry
    rw [h, List.mem_map]

theorem eventsAgree_empty : EventsAgree codec .empty Table.empty := rfl

theorem EventsAgree.get_eq (h : EventsAgree codec memory table) (seq : ℕ) :
    table.get seq = (memory.find seq).map codec.toVec := by
  cases hfind : memory.find seq with
  | none =>
    have habsent := InMemoryEventStore.find_eq_none_iff.mp hfind
    rw [Option.map_none, Table.get_eq_none_iff]
    intro entry hentry
    obtain ⟨event, hmem, rfl⟩ := h.mem_entries.mp hentry
    exact habsent event hmem
  | some event =>
    obtain ⟨hmem, hseq⟩ := InMemoryEventStore.find_eq_some_iff.mp hfind
    rw [Option.map_some, Table.get_eq_some_iff, h.mem_entries]
    exact ⟨event, hmem, by rw [hseq]⟩

theorem EventsAgree.last_eq (h : EventsAgree codec memory table) :
    table.last = memory.events.getLast?.map fun event ↦ (event.seq, codec.toVec event) := by
  rw [Table.last, h, List.getLast?_map]

variable {seq : ℕ} {old : StoredEvent} {p : StoredEvent → Bool} {removed : List StoredEvent} {κ : Type}
  {event : StoredEvent} {events : List StoredEvent}

/-- An event is changed in place. -/
theorem EventsAgree.modify (h : EventsAgree codec memory table) (f : StoredEvent → StoredEvent)
    (hf : ∀ event, (f event).seq = event.seq) (hold : memory.find seq = some old) :
    EventsAgree codec (memory.modify seq f hf) (table.insert seq (codec.toVec (f old))) := by
  have hseq := (InMemoryEventStore.find_eq_some_iff.mp hold).2
  apply eventsAgree_of_mem
  intro entry
  rw [Table.mem_insert, h.mem_entries]
  simp only [InMemoryEventStore.mem_modify hold]
  constructor
  · intro hentry
    obtain rfl | ⟨⟨event, hmem, rfl⟩, hne⟩ := hentry
    · exact ⟨f old, .inl rfl, by rw [hf, hseq]⟩
    · exact ⟨event, .inr ⟨hmem, hne⟩, rfl⟩
  · intro hentry
    obtain ⟨event, rfl | ⟨hmem, hne⟩, rfl⟩ := hentry
    · exact .inl (by rw [hf, hseq])
    · exact .inr ⟨⟨event, hmem, rfl⟩, hne⟩

variable {db : RedbEventStore Bytes}

section

variable (h : EventsAgree codec memory db.events)
include h

theorem EventsAgree.fetch_eq (seq : ℕ) : db.fetch codec seq = .ok (memory.find seq) := by
  unfold RedbEventStore.fetch
  rw [h.get_eq]
  cases memory.find seq with
  | none => rfl
  | some event => simp

theorem EventsAgree.fetchExisting_eq (seq : ℕ) :
    db.fetchExisting codec seq = match memory.find seq with
      | some event => .ok event
      | none => .error .notFound := by
  unfold RedbEventStore.fetchExisting
  rw [h.fetch_eq]
  rfl

theorem EventsAgree.nextSeq_eq : db.nextSeq = memory.nextSeq := by
  unfold RedbEventStore.nextSeq InMemoryEventStore.nextSeq
  rw [h.last_eq]
  cases memory.events.getLast? <;> rfl

theorem EventsAgree.append (now : ℕ) (event : StoredEvent) :
    EventsAgree codec (memory.append now event).2 (db.append codec now event).2.events := by
  apply eventsAgree_of_mem
  intro entry
  simp only [RedbEventStore.append, Table.mem_insert, h.mem_entries, h.nextSeq_eq,
    InMemoryEventStore.mem_append]
  constructor
  · intro hentry
    obtain rfl | ⟨⟨event, hmem, rfl⟩, _⟩ := hentry
    · exact ⟨_, .inr rfl, rfl⟩
    · exact ⟨event, .inl hmem, rfl⟩
  · intro hentry
    obtain ⟨event, hmem | rfl, rfl⟩ := hentry
    · exact .inr ⟨⟨event, hmem, rfl⟩, (InMemoryEventStore.seq_lt_nextSeq hmem).ne⟩
    · exact .inl rfl

end

theorem deleteEvents_eq (db : RedbEventStore Bytes) (events : List StoredEvent) :
    events.foldl RedbEventStore.deleteEvent db =
      { events := db.events.removeAll (events.map (·.seq))
        subjectIdx := db.subjectIdx.removeAll (events.map fun e ↦ toLex (e.subject, e.seq))
        statusIdx := db.statusIdx.removeAll (events.map fun e ↦ toLex (e.status.asU8, e.seq))
        failedDeliveriesIdx := db.failedDeliveriesIdx.removeAll (events.map (·.seq)) } := by
  induction events generalizing db with
  | nil => rfl
  | cons event rest ih =>
    rw [List.foldl_cons, ih]
    rfl

/-- Events are deleted. -/
theorem EventsAgree.removeAll (h : EventsAgree codec memory table)
    (hremoved : ∀ event, event ∈ removed ↔ event ∈ memory.events ∧ p event = false) :
    EventsAgree codec (memory.retain p) (table.removeAll (removed.map (·.seq))) := by
  apply eventsAgree_of_mem
  intro entry
  rw [Table.mem_removeAll, h.mem_entries]
  simp only [InMemoryEventStore.mem_retain]
  have hkept {event : StoredEvent} (hmem : event ∈ memory.events) :
      event.seq ∉ removed.map (·.seq) ↔ p event := by
    constructor
    · intro hnot
      by_contra hp
      exact hnot (List.mem_map_of_mem ((hremoved event).mpr ⟨hmem, by simpa using hp⟩))
    · intro hp hin
      obtain ⟨other, hother, hseq⟩ := List.mem_map.mp hin
      obtain ⟨hothermem, hpother⟩ := (hremoved other).mp hother
      simp [InMemoryEventStore.eq_of_seq_eq hothermem hmem hseq, hp] at hpother
  constructor
  · intro hentry
    obtain ⟨⟨event, hmem, rfl⟩, hnot⟩ := hentry
    exact ⟨event, ⟨hmem, (hkept hmem).mp hnot⟩, rfl⟩
  · intro hentry
    obtain ⟨event, ⟨hmem, hp⟩, rfl⟩ := hentry
    exact ⟨⟨event, hmem, rfl⟩, (hkept hmem).mpr hp⟩

theorem expired_eq (db : RedbEventStore Bytes) (threshold : ℕ) (events : List StoredEvent) :
    db.expired codec threshold (events.map fun event ↦ (event.seq, codec.toVec event)) =
      .ok (events.filter (·.isCompactable threshold)) := by
  induction events with
  | nil => rfl
  | cons event rest ih =>
    simp only [List.map_cons, RedbEventStore.expired, EventCodec.fromSlice_toVec, ih]
    by_cases hexpired : event.isCompactable threshold <;> simp [hexpired, bind, Except.bind]

theorem EventsAgree.compact_eq (h : EventsAgree codec memory db.events) (now olderThan : ℕ) :
    db.compact codec now olderThan =
      (.ok (memory.events.filter (·.isCompactable (now - olderThan))).length,
        (memory.events.filter (·.isCompactable (now - olderThan))).foldl
          RedbEventStore.deleteEvent db) := by
  unfold RedbEventStore.compact
  rw [h, expired_eq]

def subjectKey : IndexKey StoredEvent ℕ (String ×ₗ ℕ) where
  id event := event.seq
  key event := some (toLex (event.subject, event.seq))
  idOf key := (ofLex key).2
  idOf_key h := by
    rw [← Option.some.inj h]
    rfl

def statusKey : IndexKey StoredEvent ℕ (ℕ ×ₗ ℕ) where
  id event := event.seq
  key event := some (toLex (event.status.asU8, event.seq))
  idOf key := (ofLex key).2
  idOf_key h := by
    rw [← Option.some.inj h]
    rfl

def failedKey : IndexKey StoredEvent ℕ ℕ where
  id event := event.seq
  key event := if event.hasFailed then some event.seq else none
  idOf key := key
  idOf_key h := by
    split at h
    · exact (Option.some.inj h).symm
    · exact absurd h (by simp)

variable (codec) in
/-- The events table is the in-memory list and every index is an index of it. -/
structure Agree (memory : InMemoryEventStore) (db : RedbEventStore Bytes) : Prop where
  events : EventsAgree codec memory db.events
  subject : IsIndex subjectKey db.subjectIdx memory.events
  status : IsIndex statusKey db.statusIdx memory.events
  failed : IsIndex failedKey db.failedDeliveriesIdx memory.events

theorem agree_create : Agree codec .empty .create :=
  ⟨eventsAgree_empty, isIndex_empty, isIndex_empty, isIndex_empty⟩

theorem distinctIds (K : IndexKey StoredEvent ℕ κ) (hid : ∀ event, K.id event = event.seq)
    (memory : InMemoryEventStore) : DistinctIds K memory.events := fun a ha b hb h ↦
  InMemoryEventStore.eq_of_seq_eq ha hb (by rw [← hid, ← hid, h])

/-! ## Writes keep the agreement -/

theorem Agree.append (h : Agree codec memory db) (now : ℕ) (hfresh : event.deliveries = []) :
    Agree codec (memory.append now event).2 (db.append codec now event).2 where
  events := h.events.append now event
  subject := h.subject.add (fun _ ↦ InMemoryEventStore.mem_append) fun k ↦ by
    rw [← h.events.nextSeq_eq]
    simp [RedbEventStore.append, Table.mem_keys_insert, subjectKey, eq_comm]
  status := h.status.add (fun _ ↦ InMemoryEventStore.mem_append) fun k ↦ by
    rw [← h.events.nextSeq_eq]
    simp [RedbEventStore.append, Table.mem_keys_insert, statusKey, eq_comm]
  failed := h.failed.add (fun _ ↦ InMemoryEventStore.mem_append) fun k ↦ by
    simp [RedbEventStore.append, failedKey, StoredEvent.hasFailed, hfresh]

theorem mem_modify_old {f : StoredEvent → StoredEvent} {hf : ∀ event, (f event).seq = event.seq}
    (hold : memory.find seq = some old) (event : StoredEvent) :
    event ∈ (memory.modify seq f hf).events ↔
      event = f old ∨ (event ∈ memory.events ∧ event.seq ≠ old.seq) := by
  rw [InMemoryEventStore.mem_modify hold, (InMemoryEventStore.find_eq_some_iff.mp hold).2]

section Modify

variable {seq : ℕ} (f : StoredEvent → StoredEvent) (hf : ∀ event, (f event).seq = event.seq)
  {old : StoredEvent}

theorem subject_modify (h : IsIndex subjectKey db.subjectIdx memory.events)
    (hold : memory.find seq = some old) (hsubject : (f old).subject = old.subject) :
    IsIndex subjectKey db.subjectIdx (memory.modify seq f hf).events := by
  have hmem := (InMemoryEventStore.find_eq_some_iff.mp hold).1
  apply h.keep (distinctIds _ (fun _ ↦ rfl) memory) hmem _ (mem_modify_old hold)
  simp only [subjectKey, hsubject, hf]

theorem status_modify (h : IsIndex statusKey db.statusIdx memory.events)
    (hold : memory.find seq = some old) :
    IsIndex statusKey ((db.statusIdx.remove (toLex (old.status.asU8, seq))).insert
      (toLex ((f old).status.asU8, seq)) ()) (memory.modify seq f hf).events := by
  obtain ⟨hmem, hseq⟩ := InMemoryEventStore.find_eq_some_iff.mp hold
  apply h.replace (distinctIds _ (fun _ ↦ rfl) memory) hmem (mem_modify_old hold)
  intro k
  simp only [Table.mem_keys_insert, Table.mem_keys_remove, statusKey, hf, hseq, Option.some.injEq,
    ne_eq, eq_comm]

theorem status_modify_keep (h : IsIndex statusKey db.statusIdx memory.events)
    (hold : memory.find seq = some old) (hstatus : (f old).status = old.status) :
    IsIndex statusKey db.statusIdx (memory.modify seq f hf).events := by
  have hmem := (InMemoryEventStore.find_eq_some_iff.mp hold).1
  apply h.keep (distinctIds _ (fun _ ↦ rfl) memory) hmem _ (mem_modify_old hold)
  simp only [statusKey, hstatus, hf]

/-- The key of an event goes in or out according to the changed event. -/
theorem failed_modify (h : IsIndex failedKey db.failedDeliveriesIdx memory.events)
    (hold : memory.find seq = some old) :
    IsIndex failedKey (if (f old).hasFailed then db.failedDeliveriesIdx.insert seq ()
      else db.failedDeliveriesIdx.remove seq) (memory.modify seq f hf).events := by
  obtain ⟨hmem, hseq⟩ := InMemoryEventStore.find_eq_some_iff.mp hold
  have hdistinct := distinctIds failedKey (fun _ ↦ rfl) memory
  apply h.replace hdistinct hmem (mem_modify_old hold)
  intro k
  -- an event that is not failed has no entry to lose
  have hkept (hk : k ∈ db.failedDeliveriesIdx.keys) (hid : k = seq) :
      failedKey.key old = some k :=
    h.key_eq hdistinct hmem hk (hid.trans hseq.symm)
  have hkey (hk : failedKey.key old = some k) : k = seq := (failedKey.idOf_key hk).trans hseq
  by_cases hfailed : (f old).hasFailed
  · have hnew : failedKey.key (f old) = some k ↔ k = seq := by
      simp only [failedKey, if_pos hfailed, hf, hseq, Option.some_inj]
      exact eq_comm
    rw [if_pos hfailed, Table.mem_keys_insert, hnew]
    tauto
  · have hnew : failedKey.key (f old) = none := by simp [failedKey, hfailed]
    rw [if_neg hfailed, Table.mem_keys_remove, hnew]
    simp only [reduceCtorEq, false_or]
    tauto

theorem failed_modify_keep (h : IsIndex failedKey db.failedDeliveriesIdx memory.events)
    (hold : memory.find seq = some old) (hdeliveries : (f old).deliveries = old.deliveries) :
    IsIndex failedKey db.failedDeliveriesIdx (memory.modify seq f hf).events := by
  have hmem := (InMemoryEventStore.find_eq_some_iff.mp hold).1
  have hfailed : (f old).hasFailed = old.hasFailed := by
    rw [StoredEvent.hasFailed, hdeliveries, StoredEvent.hasFailed]
  apply h.keep (distinctIds _ (fun _ ↦ rfl) memory) hmem _ (mem_modify_old hold)
  simp only [failedKey, hfailed, hf]

end Modify

section

variable (h : Agree codec memory db)
include h

theorem Agree.updateStatus (seq : ℕ) (status : EventStatus) :
    (memory.updateStatus seq status).1 = (db.updateStatus codec seq status).1 ∧
      Agree codec (memory.updateStatus seq status).2 (db.updateStatus codec seq status).2 := by
  unfold InMemoryEventStore.updateStatus RedbEventStore.updateStatus
  rw [h.events.fetchExisting_eq]
  cases hold : memory.find seq with
  | none => exact ⟨rfl, h⟩
  | some old =>
    have hf (event : StoredEvent) : (event.withStatus status).seq = event.seq := rfl
    exact ⟨rfl, h.events.modify _ hf hold, subject_modify _ hf h.subject hold rfl,
      status_modify _ hf h.status hold, failed_modify_keep _ hf h.failed hold rfl⟩

theorem Agree.recordDelivery (now seq : ℕ) (subscriberId : String) (status : DeliveryStatus)
    (error : Option String) (nextRetry : Option ℕ) :
    (memory.recordDelivery now seq subscriberId status error nextRetry).1 =
        (db.recordDelivery codec now seq subscriberId status error nextRetry).1 ∧
      Agree codec (memory.recordDelivery now seq subscriberId status error nextRetry).2
        (db.recordDelivery codec now seq subscriberId status error nextRetry).2 := by
  unfold InMemoryEventStore.recordDelivery RedbEventStore.recordDelivery
  rw [h.events.fetchExisting_eq]
  cases hold : memory.find seq with
  | none => exact ⟨rfl, h⟩
  | some old =>
    have hf (event : StoredEvent) :
      (event.withDelivery now subscriberId status error nextRetry).seq = event.seq := rfl
    exact ⟨rfl, h.events.modify _ hf hold, subject_modify _ hf h.subject hold rfl,
      status_modify_keep _ hf h.status hold rfl, failed_modify _ hf h.failed hold⟩

theorem Agree.requeueDeadLettered (seq : ℕ) :
    (memory.requeueDeadLettered seq).1 = (db.requeueDeadLettered codec seq).1 ∧
      Agree codec (memory.requeueDeadLettered seq).2 (db.requeueDeadLettered codec seq).2 := by
  unfold InMemoryEventStore.requeueDeadLettered RedbEventStore.requeueDeadLettered
  rw [h.events.fetchExisting_eq]
  cases hold : memory.find seq with
  | none => exact ⟨rfl, h⟩
  | some old =>
    by_cases hdead : old.status = .deadLettered
    · simp only [if_pos hdead]
      have hf (event : StoredEvent) : event.requeued.seq = event.seq := rfl
      exact ⟨trivial, h.events.modify _ hf hold, subject_modify _ hf h.subject hold rfl,
        status_modify _ hf h.status hold, failed_modify _ hf h.failed hold⟩
    · simp only [if_neg hdead]
      exact ⟨trivial, h⟩

/-- Deleting events drops their entries from every index. -/
theorem Agree.deleteEvents (hremoved : ∀ event, event ∈ removed ↔ event ∈ memory.events ∧ p event = false) :
    Agree codec (memory.retain p) (removed.foldl RedbEventStore.deleteEvent db) := by
  have hsub : ∀ event ∈ removed, event ∈ memory.events := fun event hmem ↦
    ((hremoved event).mp hmem).1
  have hkept (event : StoredEvent) :
      event ∈ (memory.retain p).events ↔ event ∈ memory.events ∧ event ∉ removed := by
    rw [InMemoryEventStore.mem_retain, hremoved]
    cases p event <;> simp
  rw [deleteEvents_eq]
  exact
    { events := h.events.removeAll hremoved
      subject := h.subject.removeAll (distinctIds _ (fun _ ↦ rfl) memory)
        (fun _ _ hk ↦ Option.some.inj hk) (fun _ ↦ rfl) hsub hkept
      status := h.status.removeAll (distinctIds _ (fun _ ↦ rfl) memory)
        (fun _ _ hk ↦ Option.some.inj hk) (fun _ ↦ rfl) hsub hkept
      failed := h.failed.removeAll (distinctIds _ (fun _ ↦ rfl) memory)
        (fun _ _ hk ↦ (failedKey.idOf_key hk).symm) (fun _ ↦ rfl) hsub hkept }

theorem Agree.compact (now olderThan : ℕ) :
    (db.compact codec now olderThan).1 = .ok (memory.compact now olderThan).1 ∧
      Agree codec (memory.compact now olderThan).2 (db.compact codec now olderThan).2 := by
  rw [h.events.compact_eq]
  unfold InMemoryEventStore.compact
  constructor
  · have hsplit := List.length_eq_length_filter_add (l := memory.events)
      (·.isCompactable (now - olderThan))
    simp only [InMemoryEventStore.retain]
    rw [hsplit, Nat.add_sub_cancel]
  · apply h.deleteEvents
    intro event
    simp

theorem Agree.purgeDeadLettered (seq : ℕ) :
    (memory.purgeDeadLettered seq).1 = (db.purgeDeadLettered codec seq).1 ∧
      Agree codec (memory.purgeDeadLettered seq).2 (db.purgeDeadLettered codec seq).2 := by
  unfold InMemoryEventStore.purgeDeadLettered RedbEventStore.purgeDeadLettered
  rw [h.events.fetchExisting_eq]
  cases hold : memory.find seq with
  | none => exact ⟨rfl, h⟩
  | some old =>
    obtain ⟨hmem, hseq⟩ := InMemoryEventStore.find_eq_some_iff.mp hold
    by_cases hdead : old.status = .deadLettered
    · simp only [if_pos hdead]
      have hself : { old with seq } = old := by rw [← hseq]
      have hremoved (event : StoredEvent) : event ∈ [{ old with seq }] ↔
          event ∈ memory.events ∧ decide (event.seq ≠ seq) = false := by
        rw [hself, List.mem_singleton, decide_eq_false_iff_not, not_not]
        constructor
        · intro heq
          exact heq ▸ ⟨hmem, hseq⟩
        · intro hevent
          exact InMemoryEventStore.eq_of_seq_eq hevent.1 hmem (hevent.2.trans hseq.symm)
      exact ⟨trivial, h.deleteEvents hremoved⟩
    · simp only [if_neg hdead]
      exact ⟨trivial, h⟩

end

/-! ## Queries give the same replies -/

/-- An index scan whose range names stored, accepted events returns them up to the limit. -/
theorem EventsAgree.scanIndex_eq (h : EventsAgree codec memory db.events) {inRange : κ → Bool} {seqOf : κ → ℕ}
    {accept : StoredEvent → Bool} {limit : ℕ} {entries : List (κ × Unit)} {results : List StoredEvent}
    (hrange : (entries.takeWhile fun entry ↦ inRange entry.1).map (fun entry ↦ seqOf entry.1) =
      events.map (·.seq)) (hstored : ∀ event ∈ events, event ∈ memory.events ∧ accept event) :
    db.scanIndex codec inRange seqOf accept limit entries results =
      .ok (results ++ events.take (limit - results.length)) := by
  induction entries generalizing results events with
  | nil =>
    have hnil : events = [] := List.map_eq_nil_iff.mp hrange.symm
    rw [hnil, List.take_nil, List.append_nil, RedbEventStore.scanIndex]
  | cons entry rest ih =>
    obtain ⟨key, _⟩ := entry
    rw [RedbEventStore.scanIndex]
    by_cases hkey : inRange key = true
    · rw [if_neg (by simp [hkey])]
      cases events with
      | nil => simp [hkey] at hrange
      | cons event others =>
        rw [List.takeWhile_cons_of_pos (by exact hkey), List.map_cons, List.map_cons,
          List.cons.injEq] at hrange
        obtain ⟨hmem, haccept⟩ := hstored event List.mem_cons_self
        have hfetch : db.fetch codec (seqOf key) = .ok (some event) := by
          rw [h.fetch_eq, InMemoryEventStore.find_eq_some_iff.mpr ⟨hmem, hrange.1.symm⟩]
        have hothers : ∀ other ∈ others, other ∈ memory.events ∧ accept other :=
          fun other hother ↦ hstored other (List.mem_cons_of_mem _ hother)
        by_cases hlimit : limit ≤ results.length
        · rw [if_pos hlimit, Nat.sub_eq_zero_of_le hlimit, List.take_zero, List.append_nil]
        · have htake : limit - results.length = (limit - (results ++ [event]).length) + 1 := by
            rw [List.length_append, List.length_singleton]
            omega
          rw [if_neg hlimit, hfetch, htake, List.take_succ_cons]
          simp only [bind, Except.bind, if_pos haccept]
          rw [ih hrange.2 hothers, List.append_assoc, List.singleton_append]
    · have hnil : events = [] := by
        rw [List.takeWhile_cons_of_neg (by exact hkey), List.map_nil] at hrange
        exact List.map_eq_nil_iff.mp hrange.symm
      rw [if_pos (by simpa using hkey), hnil, List.take_nil, List.append_nil]

theorem seqs_filter_ascending (memory : InMemoryEventStore) (p : StoredEvent → Bool) :
    ((memory.events.filter p).map (·.seq)).Pairwise (· < ·) :=
  List.pairwise_map.mpr (memory.ascending.filter p)

theorem Agree.queryByStatus_eq (h : Agree codec memory db) (status : EventStatus) (limit : ℕ) :
    db.queryByStatus codec status limit = .ok (memory.queryByStatus status limit) := by
  have hscan := db.statusIdx.scan_lex_eq status.asU8 0
    (seqs_filter_ascending memory fun event ↦ event.status = status) fun seq ↦ by
      rw [h.status]
      simp only [statusKey, List.mem_map, List.mem_filter, decide_eq_true_eq, Option.some.injEq,
        EmbeddingLike.apply_eq_iff_eq, Prod.mk.injEq, EventStatus.asU8_inj, Nat.zero_le, and_true,
        and_assoc]
  unfold RedbEventStore.queryByStatus
  rw [h.events.scanIndex_eq hscan (by simp), List.nil_append, List.length_nil, Nat.sub_zero]
  rfl

theorem Agree.queryBySubject_eq (h : Agree codec memory db) (subject : String)
    (since : Option ℕ) (limit : ℕ) :
    db.queryBySubject codec subject since limit =
      .ok (memory.queryBySubject subject since limit) := by
  have hsince (seq : ℕ) : since.all (· ≤ seq) = true ↔ since.getD 0 ≤ seq := by
    cases since <;> simp
  have hscan := db.subjectIdx.scan_lex_eq subject (since.getD 0)
    (seqs_filter_ascending memory fun event ↦ event.subject = subject ∧ since.all (· ≤ event.seq))
    fun seq ↦ by
      rw [h.subject]
      simp only [subjectKey, List.mem_map, List.mem_filter, decide_eq_true_eq, Option.some.injEq,
        EmbeddingLike.apply_eq_iff_eq, Prod.mk.injEq, hsince]
      constructor
      · intro hevent
        obtain ⟨event, ⟨hmem, hsubject, hge⟩, rfl⟩ := hevent
        exact ⟨⟨event, hmem, hsubject, rfl⟩, hge⟩
      · intro hevent
        obtain ⟨⟨event, hmem, hsubject, rfl⟩, hge⟩ := hevent
        exact ⟨event, ⟨hmem, hsubject, hge⟩, rfl⟩
  unfold RedbEventStore.queryBySubject
  rw [h.events.scanIndex_eq hscan (fun event hevent ↦ ⟨List.mem_of_mem_filter hevent, rfl⟩),
    List.nil_append, List.length_nil, Nat.sub_zero]
  rfl

theorem EventsAgree.failedEvents_eq (h : EventsAgree codec memory db.events) {entries : List (ℕ × Unit)}
    (hseqs : entries.map Prod.fst = events.map (·.seq)) (hstored : ∀ event ∈ events, event ∈ memory.events) :
    db.failedEvents codec entries = .ok events := by
  induction entries generalizing events with
  | nil =>
    have hnil : events = [] := List.map_eq_nil_iff.mp hseqs.symm
    rw [hnil, RedbEventStore.failedEvents]
  | cons entry rest ih =>
    obtain ⟨seq, _⟩ := entry
    cases events with
    | nil => simp at hseqs
    | cons event others =>
      rw [List.map_cons, List.map_cons, List.cons.injEq] at hseqs
      have hfetch : db.fetch codec seq = .ok (some event) := by
        rw [h.fetch_eq, InMemoryEventStore.find_eq_some_iff.mpr
          ⟨hstored event List.mem_cons_self, hseqs.1.symm⟩]
      have hrest := ih hseqs.2 fun other hother ↦ hstored other (List.mem_cons_of_mem _ hother)
      rw [RedbEventStore.failedEvents, hfetch]
      simp only [bind, Except.bind, hrest]

theorem Agree.failedEvents_eq (h : Agree codec memory db) :
    db.failedEvents codec db.failedDeliveriesIdx.entries =
      .ok (memory.events.filter (·.hasFailed)) := by
  apply h.events.failedEvents_eq
  · apply db.failedDeliveriesIdx.keys_eq_of_mem_iff (seqs_filter_ascending memory _)
    intro seq
    rw [h.failed]
    simp only [failedKey, Option.ite_none_right_eq_some, Option.some.injEq, List.mem_map,
      List.mem_filter, and_assoc]
  · intro event hevent
    exact List.mem_of_mem_filter hevent

/-- Events without a failed delivery contribute nothing to the retryable deliveries. -/
theorem flatMap_retryables_filter (events : List StoredEvent) (maxAttempts now : ℕ) :
    (events.filter (·.hasFailed)).flatMap (·.retryables maxAttempts now) =
      events.flatMap (·.retryables maxAttempts now) := by
  induction events with
  | nil => rfl
  | cons event rest ih =>
    by_cases hfailed : event.hasFailed = true
    · rw [List.filter_cons_of_pos hfailed, List.flatMap_cons, List.flatMap_cons, ih]
    · rw [List.filter_cons_of_neg hfailed, List.flatMap_cons, ih,
        StoredEvent.retryables_eq_nil (by simpa using hfailed), List.nil_append]

theorem sum_countP_eq_length (events : List StoredEvent) (maxAttempts now : ℕ) :
    (events.map fun event ↦ event.deliveries.countP (·.isRetryable maxAttempts now)).sum =
      (events.flatMap (·.retryables maxAttempts now)).length := by
  rw [List.length_flatMap]
  congr 1
  apply List.map_congr_left
  intro event _
  rw [StoredEvent.retryables, List.length_map, List.countP_eq_length_filter]

theorem Agree.queryRetryable_eq (h : Agree codec memory db) (now maxAttempts limit : ℕ) :
    db.queryRetryable codec now maxAttempts limit =
      .ok (memory.queryRetryable now maxAttempts limit) := by
  unfold RedbEventStore.queryRetryable InMemoryEventStore.queryRetryable
  rw [h.failedEvents_eq]
  simp only [bind, Except.bind, flatMap_retryables_filter]

theorem Agree.countRetryable_eq (h : Agree codec memory db) (now maxAttempts : ℕ) :
    db.countRetryable codec now maxAttempts = .ok (memory.countRetryable now maxAttempts) := by
  unfold RedbEventStore.countRetryable InMemoryEventStore.countRetryable
  rw [h.failedEvents_eq]
  simp only [bind, Except.bind, sum_countP_eq_length, flatMap_retryables_filter]

/-- One operation: the same reply, and the stores agree again. -/
theorem Agree.exec (h : Agree codec memory db) (now : ℕ) {op : StoreOp} (hfresh : op.IsFresh) :
    (memory.exec now op).1 = (db.exec codec now op).1 ∧
      Agree codec (memory.exec now op).2 (db.exec codec now op).2 := by
  cases op with
  | append event =>
    exact ⟨congrArg (fun seq ↦ Except.ok (StoreReply.seq seq)) h.events.nextSeq_eq.symm, h.append now hfresh⟩
  | get seq =>
    refine ⟨?_, h⟩
    simp only [InMemoryEventStore.exec, RedbEventStore.exec, RedbEventStore.get,
      h.events.fetch_eq]
    rfl
  | updateStatus seq status =>
    obtain ⟨hreply, hagree⟩ := h.updateStatus seq status
    exact ⟨congrArg (Except.map fun _ ↦ StoreReply.unit) hreply, hagree⟩
  | recordDelivery seq subscriberId status error nextRetry =>
    obtain ⟨hreply, hagree⟩ := h.recordDelivery now seq subscriberId status error nextRetry
    exact ⟨congrArg (Except.map fun _ ↦ StoreReply.unit) hreply, hagree⟩
  | queryByStatus status limit =>
    exact ⟨congrArg (Except.map StoreReply.events) (h.queryByStatus_eq status limit).symm, h⟩
  | queryBySubject subject since limit =>
    exact ⟨congrArg (Except.map StoreReply.events) (h.queryBySubject_eq subject since limit).symm, h⟩
  | queryRetryable maxAttempts limit =>
    exact ⟨congrArg (Except.map StoreReply.retryables) (h.queryRetryable_eq now maxAttempts limit).symm, h⟩
  | countRetryable maxAttempts =>
    exact ⟨congrArg (Except.map StoreReply.count) (h.countRetryable_eq now maxAttempts).symm, h⟩
  | compact olderThan =>
    obtain ⟨hreply, hagree⟩ := h.compact now olderThan
    exact ⟨congrArg (Except.map StoreReply.count) hreply.symm, hagree⟩
  | requeueDeadLettered seq =>
    obtain ⟨hreply, hagree⟩ := h.requeueDeadLettered seq
    exact ⟨congrArg (Except.map fun event ↦ StoreReply.event (some event)) hreply, hagree⟩
  | purgeDeadLettered seq =>
    obtain ⟨hreply, hagree⟩ := h.purgeDeadLettered seq
    exact ⟨congrArg (Except.map fun _ ↦ StoreReply.unit) hreply, hagree⟩

theorem EventsAgree.fetch_eq_some_iff (h : EventsAgree codec memory db.events) :
    db.fetch codec seq = .ok (some event) ↔ event ∈ memory.events ∧ event.seq = seq := by
  rw [h.fetch_eq, Except.ok.injEq, InMemoryEventStore.find_eq_some_iff]

/-- Stores that agree satisfy the index invariants. -/
theorem Agree.indexInvariant (h : Agree codec memory db) : db.IndexInvariant codec where
  status statusU8 seq := by
    rw [h.status]
    simp only [h.events.fetch_eq_some_iff, statusKey, Option.some.injEq,
      EmbeddingLike.apply_eq_iff_eq, Prod.mk.injEq]
    exact exists_congr fun event ↦ by tauto
  subject subject seq := by
    rw [h.subject]
    simp only [h.events.fetch_eq_some_iff, subjectKey, Option.some.injEq,
      EmbeddingLike.apply_eq_iff_eq, Prod.mk.injEq]
    exact exists_congr fun event ↦ by tauto
  failed seq := by
    have hkey (event : StoredEvent) : failedKey.key event = some seq ↔
        (∃ record ∈ event.deliveries, record.status = .failed) ∧ event.seq = seq := by
      simp [failedKey, StoredEvent.hasFailed]
    rw [h.failed]
    simp only [h.events.fetch_eq_some_iff, hkey]
    exact exists_congr fun event ↦ by tauto

/-- Both stores, created empty and driven by the same clock readings and operations, reply the same
at every step, and the index invariants hold after the last. -/
theorem stores_equivalent (codec : EventCodec Bytes) (inputs : List (ℕ × StoreOp))
    (hfresh : ∀ input ∈ inputs, input.2.IsFresh) :
    InMemoryEventStore.machine.outputs .empty inputs =
        (RedbEventStore.machine codec).outputs .create inputs ∧
      ((RedbEventStore.machine codec).run .create inputs).IndexInvariant codec := by
  have hstep (memory : InMemoryEventStore) (db : RedbEventStore Bytes) (input : ℕ × StoreOp)
      (hok : input.2.IsFresh) (hagree : Agree codec memory db) :=
    hagree.exec input.1 hok
  constructor
  · exact Machine.outputs_eq_of_simulation hstep agree_create hfresh
  · exact (Machine.run_simulation hstep agree_create hfresh).indexInvariant

/-- The equivalence at a delivery that fails, is retried and dead-lettered, and a requeue. -/
theorem stores_equivalent_requeue :
    let event : StoredEvent :=
      { seq := 0, subject := "a.b", payload := [1], storedAt := 0, status := .pending,
        deliveries := [], replySubject := none }
    let inputs : List (ℕ × StoreOp) :=
      [(5, .append event), (6, .recordDelivery 1 "s" .failed (some "full") (some 9)),
        (9, .queryRetryable 5 10), (9, .updateStatus 1 .deadLettered),
        (10, .requeueDeadLettered 1), (11, .queryBySubject "a.b" (some 1) 10)]
    InMemoryEventStore.machine.outputs .empty inputs =
        (RedbEventStore.machine EventCodec.structural).outputs .create inputs ∧
      ((RedbEventStore.machine EventCodec.structural).run .create inputs).IndexInvariant
        EventCodec.structural :=
  stores_equivalent EventCodec.structural _ (by simp [StoreOp.IsFresh])

end Seidrum.EventBus.StoreRefinement
