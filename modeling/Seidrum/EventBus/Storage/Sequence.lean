import Seidrum.Foundation.Numbering
import Seidrum.EventBus.Storage.Refinement

/-!
# Sequence numbers

Both stores take the number of an appended event from the largest event they still hold.  Deleting
the newest event, by compaction or by a purge, makes its number available again, and reopening the
database file brings nothing back.  Numbers increase exactly in the runs where every append finds
the event appended before it still stored.
-/

namespace Seidrum.EventBus

open Seidrum.Foundation

/-- The number an append returned. -/
def appendedSeq : StoreOp → StorageResult StoreReply → Option ℕ
  | .append _, .ok (.seq seq) => some seq
  | _, _ => none

def StoreOp.IsAppend (op : StoreOp) : Prop := ∃ event, op = .append event

theorem appendedSeq_eq_some {op : StoreOp} {reply : StorageResult StoreReply} {seq : ℕ}
    (h : appendedSeq op reply = some seq) : ∃ event, op = .append event ∧ reply = .ok (.seq seq) := by
  unfold appendedSeq at h
  split at h
  · exact ⟨_, rfl, by rw [Option.some.inj h]⟩
  · cases h

namespace InMemoryEventStore

/-- An event with this number is stored. -/
def Holds (store : InMemoryEventStore) (seq : ℕ) : Prop := ∃ event ∈ store.events, event.seq = seq

variable {store : InMemoryEventStore} {seq now : ℕ} {op : StoreOp}

theorem nextSeq_le {m : ℕ} (hm : 0 < m) (habove : ∀ seq, store.Holds seq → seq < m) :
    store.nextSeq ≤ m := by
  unfold nextSeq
  cases hlast : store.events.getLast? with
  | none => exact hm
  | some event => exact habove event.seq ⟨event, List.mem_of_getLast? hlast, rfl⟩

theorem holds_modify {changed : ℕ} (f : StoredEvent → StoredEvent)
    (hf : ∀ event, (f event).seq = event.seq) (h : (store.modify changed f hf).Holds seq) :
    store.Holds seq := by
  obtain ⟨event, hmem, hseq⟩ := h
  obtain ⟨source, hsource, rfl⟩ := List.mem_map.mp hmem
  refine ⟨source, hsource, ?_⟩
  rw [← hseq]
  split
  · exact (hf source).symm
  · rfl

theorem holds_retain {p : StoredEvent → Bool} (h : (store.retain p).Holds seq) :
    store.Holds seq := by
  obtain ⟨event, hmem, hseq⟩ := h
  exact ⟨event, (mem_retain.mp hmem).1, hseq⟩

theorem appendedSeq_exec_ne_none : appendedSeq op (store.exec now op).1 ≠ none ↔ op.IsAppend := by
  cases op <;> simp [appendedSeq, StoreOp.IsAppend, exec]

theorem appendedSeq_exec (h : appendedSeq op (store.exec now op).1 = some seq) :
    seq = store.nextSeq := by
  obtain ⟨event, rfl, hreply⟩ := appendedSeq_eq_some h
  simpa [exec, append] using hreply.symm

/-- An operation stores nothing under a number it did not just issue. -/
theorem holds_exec (h : (store.exec now op).2.Holds seq) :
    store.Holds seq ∨ appendedSeq op (store.exec now op).1 = some seq := by
  cases op with
  | append event =>
    obtain ⟨stored, hmem, rfl⟩ := h
    obtain hold | rfl := mem_append.mp hmem
    · exact .inl ⟨stored, hold, rfl⟩
    · exact .inr rfl
  | updateStatus changed status =>
    simp only [exec, updateStatus] at h
    split at h
    · exact .inl (holds_modify (·.withStatus status) (fun _ ↦ rfl) h)
    · exact .inl h
  | recordDelivery changed subscriberId status error nextRetry =>
    simp only [exec, recordDelivery] at h
    split at h
    · exact .inl (holds_modify
        (·.withDelivery now subscriberId status error nextRetry) (fun _ ↦ rfl) h)
    · exact .inl h
  | requeueDeadLettered changed =>
    simp only [exec, requeueDeadLettered] at h
    split at h
    · exact .inl h
    · split at h
      · exact .inl (holds_modify StoredEvent.requeued (fun _ ↦ rfl) h)
      · exact .inl h
  | purgeDeadLettered removed =>
    simp only [exec, purgeDeadLettered] at h
    split at h
    · exact .inl h
    · split at h
      · exact .inl (holds_retain h)
      · exact .inl h
  | compact olderThan => exact .inl (holds_retain h)
  | get _ | queryByStatus _ _ | queryBySubject _ _ _ | queryRetryable _ _ | countRetryable _ =>
    exact .inl h

/-- The store numbers events above the ones it holds. -/
def log : NumberedLog machine where
  Issues input := input.2.IsAppend
  issued input reply := appendedSeq input.2 reply
  live := Holds
  issued_ne_none _ _ := appendedSeq_exec_ne_none
  issued_pos h := by
    rw [appendedSeq_exec h]
    exact nextSeq_pos _
  issued_above h seq hseq := by
    obtain ⟨event, hmem, rfl⟩ := hseq
    rw [appendedSeq_exec h]
    exact seq_lt_nextSeq hmem
  issued_least h m hm habove := by
    rw [appendedSeq_exec h]
    exact nextSeq_le hm habove
  live_step h := holds_exec h

end InMemoryEventStore

/-- What happens to a database file: a call at a clock reading, or closing it and opening it
again. -/
inductive RedbSession
  | call (now : ℕ) (op : StoreOp)
  | reopen

namespace RedbEventStore

variable {Bytes : Type} (codec : EventCodec Bytes)

/-- The store over the life of its file. -/
def sessionMachine :
    Machine (RedbEventStore Bytes) RedbSession (Option (StorageResult StoreReply))
  | store, .call now op => (store.exec codec now op).map some id
  | store, .reopen => (none, store.reopen)

variable {store : RedbEventStore Bytes} {seq : ℕ} {event : StoredEvent} {now : ℕ} {op : StoreOp}

theorem nextSeq_le {m : ℕ} (hm : 0 < m) (habove : ∀ seq ∈ store.events.keys, seq < m) :
    store.nextSeq ≤ m := by
  unfold nextSeq
  cases hlast : store.events.last with
  | none => exact hm
  | some entry => exact habove entry.1 (List.mem_map_of_mem (List.mem_of_getLast? hlast))

theorem seq_lt_nextSeq (hseq : seq ∈ store.events.keys) : seq < store.nextSeq := by
  obtain ⟨entry, hmem, rfl⟩ := List.mem_map.mp hseq
  unfold nextSeq
  cases hlast : store.events.last with
  | none =>
    have hnil : store.events.entries = [] := List.getLast?_eq_none_iff.mp hlast
    rw [hnil] at hmem
    exact absurd hmem List.not_mem_nil
  | some last => exact Nat.lt_succ_of_le (store.events.le_last hlast hmem)

variable {codec}

theorem mem_keys_of_fetchExisting (h : store.fetchExisting codec seq = .ok event) :
    seq ∈ store.events.keys := by
  cases hget : store.events.get seq with
  | none => simp [fetchExisting, fetch, hget, bind, Except.bind] at h
  | some data => exact store.events.mem_keys.mpr ⟨data, store.events.get_eq_some_iff.mp hget⟩

theorem mem_keys_of_insert {changed : ℕ} {data : Bytes}
    (hfetch : store.fetchExisting codec changed = .ok event)
    (h : seq ∈ (store.events.insert changed data).keys) : seq ∈ store.events.keys := by
  obtain rfl | hold := store.events.mem_keys_insert.mp h
  · exact mem_keys_of_fetchExisting hfetch
  · exact hold

theorem appendedSeq_exec_ne_none :
    appendedSeq op (store.exec codec now op).1 ≠ none ↔ op.IsAppend := by
  cases op <;> simp [appendedSeq, StoreOp.IsAppend, exec]

theorem appendedSeq_exec (h : appendedSeq op (store.exec codec now op).1 = some seq) :
    seq = store.nextSeq := by
  obtain ⟨event, rfl, hreply⟩ := appendedSeq_eq_some h
  simpa [exec, append] using hreply.symm

/-- An operation stores nothing under a number it did not just issue. -/
theorem mem_keys_exec (h : seq ∈ (store.exec codec now op).2.events.keys) :
    seq ∈ store.events.keys ∨ appendedSeq op (store.exec codec now op).1 = some seq := by
  cases op with
  | append event =>
    obtain rfl | hold := store.events.mem_keys_insert.mp h
    · exact .inr rfl
    · exact .inl hold
  | updateStatus changed status =>
    simp only [exec, updateStatus] at h
    split at h
    · exact .inl h
    · rename_i hfetch
      exact .inl (mem_keys_of_insert hfetch h)
  | recordDelivery changed subscriberId status error nextRetry =>
    simp only [exec, recordDelivery] at h
    split at h
    · exact .inl h
    · rename_i hfetch
      exact .inl (mem_keys_of_insert hfetch h)
  | requeueDeadLettered changed =>
    simp only [exec, requeueDeadLettered] at h
    split at h
    · exact .inl h
    · rename_i hfetch
      split at h
      · exact .inl (mem_keys_of_insert hfetch h)
      · exact .inl h
  | purgeDeadLettered removed =>
    simp only [exec, purgeDeadLettered] at h
    split at h
    · exact .inl h
    · split at h
      · exact .inl (store.events.mem_keys_remove.mp h).1
      · exact .inl h
  | compact olderThan =>
    simp only [exec, compact] at h
    split at h
    · exact .inl h
    · simp only [Prod.map_snd, id_eq, StoreRefinement.deleteEvents_eq] at h
      exact .inl (store.events.mem_keys_removeAll.mp h).1
  | get _ | queryByStatus _ _ | queryBySubject _ _ _ | queryRetryable _ _ | countRetryable _ =>
    exact .inl h

/-- The number a session's append returned. -/
def sessionSeq : RedbSession → Option (StorageResult StoreReply) → Option ℕ
  | .call _ op, some reply => appendedSeq op reply
  | _, _ => none

theorem sessionSeq_machine {session : RedbSession}
    (h : sessionSeq session (sessionMachine codec store session).1 = some seq) :
    seq = store.nextSeq := by
  cases session with
  | call now op => exact appendedSeq_exec h
  | reopen => exact absurd h (by simp [sessionSeq])

variable (codec) in
/-- The store numbers events above the ones it holds, across reopening the file. -/
def log : NumberedLog (sessionMachine codec) where
  Issues session := ∃ now op, session = .call now op ∧ op.IsAppend
  issued := sessionSeq
  live store seq := seq ∈ store.events.keys
  issued_ne_none store session := by
    cases session with
    | call now op =>
      have hop : appendedSeq op (store.exec codec now op).1 ≠ none ↔ op.IsAppend :=
        appendedSeq_exec_ne_none
      simpa [sessionSeq, sessionMachine] using hop
    | reopen => simp [sessionSeq]
  issued_pos h := by
    rw [sessionSeq_machine h]
    exact Nat.succ_pos _
  issued_above h seq hseq := by
    rw [sessionSeq_machine h]
    exact seq_lt_nextSeq hseq
  issued_least h m hm habove := by
    rw [sessionSeq_machine h]
    exact nextSeq_le hm habove
  live_step {store session seq} h := by
    cases session with
    | call now op => exact mem_keys_exec h
    | reopen => exact Or.inl h

end RedbEventStore

/-- In every run of either store, the numbers its appends return increase strictly exactly when
every append after the first finds the event appended last still stored. -/
theorem appended_seqs_increasing_iff {Bytes : Type} (codec : EventCodec Bytes) :
    (∀ inputs, (InMemoryEventStore.log.numbers .empty inputs).Pairwise (· < ·) ↔
        InMemoryEventStore.log.LastKept .empty inputs) ∧
      ∀ sessions, ((RedbEventStore.log codec).numbers .create sessions).Pairwise (· < ·) ↔
        (RedbEventStore.log codec).LastKept .create sessions := by
  constructor
  · apply InMemoryEventStore.log.numbers_increasing_iff
    intro seq hholds
    obtain ⟨event, hmem, _⟩ := hholds
    exact absurd hmem List.not_mem_nil
  · apply (RedbEventStore.log codec).numbers_increasing_iff
    intro seq hmem
    exact absurd hmem List.not_mem_nil

/-- An event is delivered, expires and is compacted before the next one is appended. -/
def compactedNewest : List (ℕ × StoreOp) :=
  let event : StoredEvent :=
    { seq := 0, subject := "test", payload := [], storedAt := 0, status := .pending,
      deliveries := [], replySubject := none }
  [(0, .append event), (0, .updateStatus 1 .delivered), (10, .compact 5), (10, .append event)]

/-- The second append gets the number of the first. -/
theorem compacted_newest_seq_reused :
    ¬ (InMemoryEventStore.log.numbers .empty compactedNewest).Pairwise (· < ·) ∧
      ¬ ((RedbEventStore.log EventCodec.structural).numbers .create
        (compactedNewest.map fun input ↦ .call input.1 input.2)).Pairwise (· < ·) := by
  decide

end Seidrum.EventBus
