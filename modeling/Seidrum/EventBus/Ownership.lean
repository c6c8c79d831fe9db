import Seidrum.EventBus.Dispatch.SubjectIndexSpec
import Seidrum.EventBus.Moves

/-!
# Who writes about an event

A dispatch in flight owns the outcomes of the subscribers it has not recorded yet, and the retry
task owns the failed records it has taken from the store: nobody else changes them.  This rests on
three facts that every step keeps: two dispatches in flight never work on the same event, a dispatch
has every subscriber at most once, and the retry task holds a delivery at most once.

Compaction is the one step that could break it, by deleting an event that is still in use; the facts
hold in the runs where it spares those.
-/

namespace Seidrum.EventBus

open Seidrum.Foundation

/-- The event of a dispatch is stored as published, and the subscribers it has not yet recorded are
distinct and have no record. -/
structure Dispatch.Owns (store : InMemoryEventStore) (d : Dispatch) : Prop where
  nodup : d.stage.pendingIds.Nodup
  follows {report : Report} {next : Stage} (recording : d.stage = .record report next) :
    next.isAfterTurn = true
  stored : ∃ event, store.find d.seq = some event ∧ event.subject = d.subject ∧
    event.payload = d.payload ∧ event.replySubject = d.replySubject ∧
    (∀ id ∈ d.stage.pendingIds, event.recordOf id = none) ∧
    (d.stage = .resolve → event.deliveries = [])

namespace Dispatch

variable {store : InMemoryEventStore} {d d' : Dispatch}

/-- A dispatch that moves on keeps what it owns if it takes on no new subscriber. -/
theorem Owns.move (h : d.Owns store) (hsame : Same d d') (hnodup : d'.stage.pendingIds.Nodup)
    (hfollows : ∀ report next, d'.stage = .record report next → next.isAfterTurn = true)
    (hpending : d.stage = .resolve ∨ ∀ id ∈ d'.stage.pendingIds, id ∈ d.stage.pendingIds)
    (hresolve : d'.stage ≠ .resolve) : d'.Owns store where
  nodup := hnodup
  follows := hfollows _ _
  stored := by
    obtain ⟨event, hfind, hs, hp, hr, hunrecorded, hfresh⟩ := h.stored
    refine ⟨event, by rw [hsame.seq, hfind], by rw [hs, hsame.subject], by rw [hp, hsame.payload],
      by rw [hr, hsame.replySubject], fun id hid ↦ ?_, fun hstage ↦ absurd hstage hresolve⟩
    obtain hstage | hsub := hpending
    · simp [StoredEvent.recordOf, hfresh hstage]
    · exact hunrecorded id (hsub id hid)

theorem Owns.updateStatus (h : d.Owns store) (seq : ℕ) (status : EventStatus) :
    d.Owns (store.updateStatus seq status).2 where
  nodup := h.nodup
  follows := h.follows
  stored := by
    obtain ⟨event, hfind, hrest⟩ := h.stored
    rw [InMemoryEventStore.find_updateStatus, hfind]
    split_ifs
    · exact ⟨event.withStatus status, rfl, hrest⟩
    · exact ⟨event, rfl, hrest⟩

/-- Recording somebody else's outcome. -/
theorem Owns.recordDelivery (h : d.Owns store) (now seq : ℕ) {subscriberId : String}
    (status : DeliveryStatus) (error : Option String) (nextRetry : Option ℕ)
    (hother : seq = d.seq → d.stage ≠ .resolve ∧ subscriberId ∉ d.stage.pendingIds) :
    d.Owns (store.recordDelivery now seq subscriberId status error nextRetry).2 where
  nodup := h.nodup
  follows := h.follows
  stored := by
    obtain ⟨event, hfind, hs, hp, hr, hunrecorded, hfresh⟩ := h.stored
    rw [InMemoryEventStore.find_recordDelivery, hfind]
    split_ifs with hseq
    · obtain ⟨hresolve, hid⟩ := hother hseq.symm
      refine ⟨event.withDelivery now subscriberId status error nextRetry, rfl, hs, hp, hr,
        fun id hpending ↦ ?_, fun hstage ↦ absurd hstage hresolve⟩
      have hne : id ≠ subscriberId := fun heq ↦ hid (heq ▸ hpending)
      rw [StoredEvent.recordOf_withDelivery, if_neg hne]
      exact hunrecorded id hpending
    · exact ⟨event, rfl, hs, hp, hr, hunrecorded, hfresh⟩

/-- Recording the outcome of the subscriber whose turn it was. -/
theorem Owns.record_own (h : d.Owns store) {report : Report} {next : Stage}
    (hstage : d.stage = .record report next) (now : ℕ) :
    Owns (store.recordDelivery now d.seq report.subscriberId report.status report.error
      report.nextRetry).2 { d with stage := next } := by
  have hnodup := h.nodup
  rw [hstage] at hnodup
  obtain ⟨hnot, hnext⟩ := List.nodup_cons.mp hnodup
  have hafter := h.follows hstage
  obtain ⟨event, hfind, hs, hp, hr, hunrecorded, _⟩ := h.stored
  constructor
  · exact hnext
  · intro other rest hrecord
    simp only at hrecord
    simp [hrecord, Stage.isAfterTurn] at hafter
  · refine ⟨event.withDelivery now report.subscriberId report.status report.error report.nextRetry,
      ?_, hs, hp, hr, fun id hid ↦ ?_, fun hresolve ↦ ?_⟩
    · rw [InMemoryEventStore.find_recordDelivery, if_pos rfl, hfind]
      rfl
    · have hne : id ≠ report.subscriberId := fun heq ↦ hnot (heq ▸ hid)
      rw [StoredEvent.recordOf_withDelivery, if_neg hne]
      apply hunrecorded
      rw [hstage]
      exact List.mem_cons_of_mem _ hid
    · simp only at hresolve
      simp [hresolve, Stage.isAfterTurn] at hafter

theorem Owns.updateStatus_bus {bus : Bus} (h : d.Owns bus.store) (ok : Bool) (seq : ℕ)
    (status : EventStatus) : d.Owns (bus.updateStatus ok seq status).store := by
  unfold Bus.updateStatus
  split_ifs
  · exact h.updateStatus seq status
  · exact h

theorem Owns.seq_lt_nextSeq (h : d.Owns store) : d.seq < store.nextSeq := by
  obtain ⟨event, hfind, _⟩ := h.stored
  obtain ⟨hmem, hseq⟩ := InMemoryEventStore.find_eq_some_iff.mp hfind
  rw [← hseq]
  exact InMemoryEventStore.seq_lt_nextSeq hmem

theorem Owns.append (h : d.Owns store) (now : ℕ) (event : StoredEvent) :
    d.Owns (store.append now event).2 where
  nodup := h.nodup
  follows := h.follows
  stored := by
    rw [InMemoryEventStore.find_append, if_neg h.seq_lt_nextSeq.ne]
    exact h.stored

theorem Owns.compact (h : d.Owns store) (now olderThan : ℕ)
    (hspared : ∀ event, store.find d.seq = some event →
      event.isCompactable (now - olderThan) = false) :
    d.Owns (store.compact now olderThan).2 where
  nodup := h.nodup
  follows := h.follows
  stored := by
    obtain ⟨event, hfind, hrest⟩ := h.stored
    rw [InMemoryEventStore.find_compact, hfind]
    exact ⟨event, by simp [hspared event hfind], hrest⟩

theorem owns_of_starts {now : ℕ} {event : StoredEvent} (hfresh : event.deliveries = [])
    (h : System.Starts store.nextSeq false event d) : d.Owns (store.append now event).2 where
  nodup := by simp [h.stage, Stage.pendingIds]
  follows := by simp [h.stage]
  stored := by
    rw [InMemoryEventStore.find_append, if_pos h.seq]
    exact ⟨_, rfl, h.subject.symm, h.payload.symm, h.replySubject.symm,
      by simp [h.stage, Stage.pendingIds], fun _ ↦ hfresh⟩

end Dispatch

/-! ## Deliveries the retry task holds -/

/-- A delivery taken from the store still is what the store says. -/
def RetryableDelivery.Current (config : Config) (store : InMemoryEventStore)
    (item : RetryableDelivery) : Prop :=
  ∃ event record, store.find item.seq = some event ∧
    event.recordOf item.subscriberId = some record ∧ record.status = .failed ∧
    record.attempts = item.attempts ∧ item.attempts < config.retry.maxAttempts ∧
    event.payload = item.payload ∧ event.subject = item.subject ∧
    event.replySubject = item.replySubject

/-- The delivery an item is about. -/
def RetryableDelivery.key (item : RetryableDelivery) : ℕ × String := (item.seq, item.subscriberId)

namespace RetryableDelivery

variable {config : Config} {store : InMemoryEventStore} {item : RetryableDelivery}

section

variable (h : item.Current config store)
include h

theorem Current.updateStatus (seq : ℕ) (status : EventStatus) :
    item.Current config (store.updateStatus seq status).2 := by
  obtain ⟨event, record, hfind, hrest⟩ := h
  unfold Current
  rw [InMemoryEventStore.find_updateStatus, hfind]
  split_ifs
  · exact ⟨event.withStatus status, record, rfl, hrest⟩
  · exact ⟨event, record, rfl, hrest⟩

theorem Current.recordDelivery (now seq : ℕ) {subscriberId : String} (status : DeliveryStatus)
    (error : Option String) (nextRetry : Option ℕ) (hother : item.key ≠ (seq, subscriberId)) :
    item.Current config (store.recordDelivery now seq subscriberId status error nextRetry).2 := by
  obtain ⟨event, record, hfind, hrecord, hrest⟩ := h
  unfold Current
  rw [InMemoryEventStore.find_recordDelivery, hfind]
  split_ifs with hseq
  · have hne : item.subscriberId ≠ subscriberId := fun heq ↦ hother (Prod.ext hseq heq)
    refine ⟨event.withDelivery now subscriberId status error nextRetry, record, rfl, ?_, hrest⟩
    rw [StoredEvent.recordOf_withDelivery, if_neg hne]
    exact hrecord
  · exact ⟨event, record, rfl, hrecord, hrest⟩

theorem Current.append (now : ℕ) (event : StoredEvent) :
    item.Current config (store.append now event).2 := by
  obtain ⟨stored, record, hfind, hrest⟩ := h
  obtain ⟨hmem, hseq⟩ := InMemoryEventStore.find_eq_some_iff.mp hfind
  have hne : item.seq ≠ store.nextSeq := by
    rw [← hseq]
    exact (InMemoryEventStore.seq_lt_nextSeq hmem).ne
  refine ⟨stored, record, ?_, hrest⟩
  rw [InMemoryEventStore.find_append, if_neg hne, hfind]

theorem Current.compact (now olderThan : ℕ)
    (hspared : ∀ event, store.find item.seq = some event →
      event.isCompactable (now - olderThan) = false) :
    item.Current config (store.compact now olderThan).2 := by
  obtain ⟨event, record, hfind, hrest⟩ := h
  refine ⟨event, record, ?_, hrest⟩
  rw [InMemoryEventStore.find_compact, hfind]
  simp [hspared event hfind]

/-- A dispatch never has a turn left with a subscriber whose failed record is being retried. -/
theorem Current.not_pending {d : Dispatch} (hd : d.Owns store) (hseq : item.seq = d.seq) :
    d.stage ≠ .resolve ∧ item.subscriberId ∉ d.stage.pendingIds := by
  obtain ⟨event, record, hfind, hrecord, _⟩ := h
  obtain ⟨event', hfind', _, _, _, hunrecorded, hfresh⟩ := hd.stored
  rw [hseq, hfind'] at hfind
  cases hfind
  constructor
  · intro hstage
    simp [StoredEvent.recordOf, hfresh hstage] at hrecord
  · intro hpending
    simp [hunrecorded _ hpending] at hrecord

end

end RetryableDelivery

namespace InMemoryEventStore

/-- Every stored event has at most one record for each subscriber. -/
def DistinctRecords (store : InMemoryEventStore) : Prop :=
  ∀ seq event, store.find seq = some event → event.DistinctRecords

variable {store : InMemoryEventStore} {event : StoredEvent}

theorem find_of_mem (hmem : event ∈ store.events) :
    store.find event.seq = some event := find_eq_some_iff.mpr ⟨hmem, rfl⟩

theorem DistinctRecords.updateStatus (h : store.DistinctRecords) (seq : ℕ)
    (status : EventStatus) : (store.updateStatus seq status).2.DistinctRecords := by
  intro other event hfind
  rw [find_updateStatus] at hfind
  split_ifs at hfind
  · obtain ⟨old, hold, rfl⟩ := Option.map_eq_some_iff.mp hfind
    exact h other old hold
  · exact h other event hfind

theorem DistinctRecords.recordDelivery (h : store.DistinctRecords) (now seq : ℕ)
    (subscriberId : String) (status : DeliveryStatus) (error : Option String)
    (nextRetry : Option ℕ) :
    (store.recordDelivery now seq subscriberId status error nextRetry).2.DistinctRecords := by
  intro other event hfind
  rw [find_recordDelivery] at hfind
  split_ifs at hfind
  · obtain ⟨old, hold, rfl⟩ := Option.map_eq_some_iff.mp hfind
    exact (h other old hold).withDelivery _ _ _ _ _
  · exact h other event hfind

theorem DistinctRecords.append (h : store.DistinctRecords) (now : ℕ)
    (hfresh : event.deliveries = []) : (store.append now event).2.DistinctRecords := by
  intro other stored hfind
  rw [find_append] at hfind
  split_ifs at hfind
  · cases hfind
    simp [StoredEvent.DistinctRecords, hfresh]
  · exact h other stored hfind

theorem DistinctRecords.compact (h : store.DistinctRecords) (now olderThan : ℕ) :
    (store.compact now olderThan).2.DistinctRecords := by
  intro other event hfind
  rw [find_compact] at hfind
  exact h other event (Option.filter_eq_some_iff.mp hfind).1

/-- The deliveries a query returns are current. -/
theorem current_of_mem_queryRetryable (config : Config) (h : store.DistinctRecords) {now limit : ℕ}
    {item : RetryableDelivery}
    (hmem : item ∈ store.queryRetryable now config.retry.maxAttempts limit) :
    item.Current config store := by
  have hsorted := List.mem_of_mem_take hmem
  unfold sortByNextRetry at hsorted
  rw [List.mem_insertionSort] at hsorted
  obtain ⟨event, hevent, hitem⟩ := List.mem_flatMap.mp hsorted
  obtain ⟨record, hrecord, rfl⟩ := List.mem_map.mp hitem
  obtain ⟨hin, hretryable⟩ := List.mem_filter.mp hrecord
  have hfind := find_of_mem hevent
  obtain ⟨hfailed, hattempts, _⟩ : record.status = .failed ∧
      record.attempts < config.retry.maxAttempts ∧ record.nextRetry.all (· ≤ now) = true := by
    simpa [DeliveryRecord.isRetryable] using hretryable
  exact ⟨event, record, hfind, (h _ event hfind).recordOf_eq hin, hfailed, rfl, hattempts, rfl,
    rfl, rfl⟩

/-- A query returns a delivery at most once. -/
theorem queryRetryable_keys_nodup (h : store.DistinctRecords) (now maxAttempts limit : ℕ) :
    ((store.queryRetryable now maxAttempts limit).map (·.key)).Nodup := by
  have hkeys (event : StoredEvent) : (event.retryables maxAttempts now).map (·.key) =
      (event.deliveries.filter (·.isRetryable maxAttempts now)).map fun record ↦
        (event.seq, record.subscriberId) := by
    unfold StoredEvent.retryables
    rw [List.map_map]
    rfl
  have hall : ((store.events.flatMap (·.retryables maxAttempts now)).map (·.key)).Nodup := by
    rw [List.map_flatMap, List.nodup_flatMap]
    constructor
    · intro event hevent
      have hsplit : ((event.deliveries.filter (·.isRetryable maxAttempts now)).map fun record ↦
          (event.seq, record.subscriberId)) =
          ((event.deliveries.filter (·.isRetryable maxAttempts now)).map (·.subscriberId)).map
            fun id ↦ (event.seq, id) := by
        rw [List.map_map]
        rfl
      rw [hkeys, hsplit]
      apply List.Nodup.map
      · intro a b hab
        exact (Prod.mk.inj hab).2
      · exact (h _ event (find_of_mem hevent)).sublist (List.filter_sublist.map _)
    · apply store.ascending.imp
      intro a b hlt key (hkeya : key ∈ (StoredEvent.retryables maxAttempts now a).map (·.key))
        (hkeyb : key ∈ (StoredEvent.retryables maxAttempts now b).map (·.key))
      rw [hkeys] at hkeya hkeyb
      obtain ⟨_, _, rfl⟩ := List.mem_map.mp hkeya
      obtain ⟨_, _, heq⟩ := List.mem_map.mp hkeyb
      exact hlt.ne (Prod.mk.inj heq).1.symm
  have hsorted := (((List.perm_insertionSort (fun a b : RetryableDelivery ↦
    a.nextRetry.getD 0 ≤ b.nextRetry.getD 0)
    (store.events.flatMap (·.retryables maxAttempts now))).map (·.key)).nodup_iff).mpr hall
  exact hsorted.sublist ((List.take_sublist _ _).map _)

end InMemoryEventStore

/-- The index holds registrations with distinct ids, all of which have been given out. -/
def Bus.DistinctIndex (bus : Bus) : Prop :=
  ∃ live, bus.index.Represents live ∧ (live.map (·.id)).Nodup ∧ ∀ entry ∈ live, entry.id ∈ bus.usedIds

namespace Bus

variable {bus : Bus}

theorem distinctIndex_onStore (store : InMemoryEventStore) (clock : ℕ) :
    (onStore store clock).DistinctIndex :=
  ⟨[], SubjectIndex.represents_new, List.nodup_nil, by simp⟩

theorem DistinctIndex.lookup_nodup (h : bus.DistinctIndex) (subject : String) :
    ((bus.index.lookup subject).map (·.id)).Nodup := by
  obtain ⟨live, hlive, hdistinct, _⟩ := h
  have hperm := (hlive.answers hdistinct).lookup_perm subject
  exact (hperm.map _).nodup_iff.mpr (hdistinct.sublist (List.filter_sublist.map _))

variable {entry : SubscriptionEntry} {next : Bus}

theorem nodup_ids_concat {live : List SubscriptionEntry} (hdistinct : (live.map (·.id)).Nodup)
    (hfresh : entry.id ∉ live.map (·.id)) : ((live ++ [entry]).map (·.id)).Nodup := by
  rw [List.map_append, List.map_singleton]
  exact List.nodup_append_comm.mp (List.nodup_cons.mpr ⟨hfresh, hdistinct⟩)

/-- A registration under a fresh id. -/
theorem DistinctIndex.subscribe (h : bus.DistinctIndex) (hfresh : entry.id ∉ bus.usedIds)
    {index : SubjectIndex} (hindex : bus.index.subscribe entry = .ok index)
    (hnext : next.index = index) (hused : next.usedIds = entry.id :: bus.usedIds) :
    next.DistinctIndex := by
  obtain ⟨live, hlive, hdistinct, hids⟩ := h
  refine ⟨live ++ [entry], hnext ▸ hlive.subscribe hindex, ?_, ?_⟩
  · exact nodup_ids_concat hdistinct fun hmem ↦ hfresh (List.forall_mem_map.mpr hids _ hmem)
  · intro other hother
    rw [hused]
    obtain hold | hnew := List.mem_append.mp hother
    · exact List.mem_cons_of_mem _ (hids other hold)
    · rw [List.mem_singleton.mp hnew]
      exact List.mem_cons_self

theorem DistinctIndex.unsubscribe (h : bus.DistinctIndex) (id : String) :
    (bus.unsubscribe id).DistinctIndex := by
  obtain ⟨live, hlive, hdistinct, hids⟩ := h
  exact ⟨live.filter fun entry ↦ entry.id ≠ id, hlive.step (.unsubscribe id),
    hdistinct.sublist (List.filter_sublist.map _),
    fun entry hentry ↦ hids entry (List.mem_of_mem_filter hentry)⟩

theorem DistinctIndex.of_keeps (h : bus.DistinctIndex) (hkeeps : bus.KeepsRegistry next) :
    next.DistinctIndex := by
  obtain ⟨live, hlive, hdistinct, hids⟩ := h
  exact ⟨live, hkeeps.index ▸ hlive, hdistinct, hkeeps.usedIds ▸ hids⟩

end Bus

end Seidrum.EventBus
