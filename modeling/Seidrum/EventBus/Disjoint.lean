import Seidrum.Foundation.Positions
import Seidrum.EventBus.Ownership

/-!
# Dispatches and the retry task stay apart

Every state the running bus reaches keeps its dispatches and the retry task apart: each works on
deliveries nobody else works on.  The runs are those whose compactions spare the events in use.
-/

namespace Seidrum.EventBus

open Seidrum.Foundation

/-- A dispatch keeps what it owns by its own steps. -/
theorem Dispatch.Change.owns {config : Config} {input : DispatchInput} {bus after : Bus}
    {d d' : Dispatch} (hchange : Dispatch.Change config input bus d after d')
    (hindex : bus.DistinctIndex) (h : d.Owns bus.store) : d'.Owns after.store := by
  have hsame := hchange.same
  cases hchange with
  | resolve stage =>
    refine h.move hsame ?_ ?_ (.inl stage) ?_
    · simp only
      split_ifs
      · exact List.nodup_nil
      · exact hindex.lookup_nodup _
    all_goals
      simp only
      split_ifs <;> simp
  | @mark entries kept stage sublist =>
    have hnodup : (kept.map (·.id)).Nodup := by
      have hall := h.nodup
      rw [stage] at hall
      exact hall.sublist (sublist.map _)
    refine (h.updateStatus_bus _ _ _).move hsame ?_ ?_ (.inr ?_) ?_
    · simp only
      split_ifs
      · exact List.nodup_nil
      · exact nodup_by_mode hnodup
    · simp only
      split_ifs <;> simp
    · intro id hid
      rw [stage]
      apply (sublist.map _).subset
      revert hid
      simp only
      split_ifs
      · simp [Stage.pendingIds]
      · exact mem_of_mem_by_mode
    · simp only
      split_ifs <;> simp
  | snapshot stage =>
    have hids := pendingIds_snapshot bus stage
    exact h.move hsame (hids ▸ h.nodup) (by simp) (.inr fun id hid ↦ hids ▸ hid) (by simp)
  | @collect async stage =>
    have hids : Stage.pendingIds (.fanOut (async.map fun entry ↦ (entry.id,
        decide (entry.id ∈ bus.senders)))) = d.stage.pendingIds := by
      rw [stage]
      simp [Stage.pendingIds, Function.comp_def]
    exact h.move hsame (hids ▸ h.nodup) (by simp) (.inr fun id hid ↦ hids ▸ hid) (by simp)
  | @attempt id result next turn =>
    have hnodup := h.nodup
    rw [turn.pendingIds] at hnodup
    rw [turn.store]
    refine h.move hsame ?_ ?_ (.inr ?_) (by simp [finishAttempt])
    · simp only [finishAttempt]
      split_ifs
      · simp [Stage.pendingIds]
      · exact hnodup
    · intro report after hrecord
      simp only [finishAttempt, Stage.record.injEq] at hrecord
      rw [← hrecord.2]
      split_ifs
      · rfl
      · exact turn.isAfterTurn
    · rw [turn.pendingIds]
      simp only [finishAttempt]
      split_ifs
      · simp [Stage.pendingIds]
      · exact fun id hid ↦ hid
  | @record report next stage =>
    have hafter := h.follows stage
    unfold Bus.recordDelivery
    split_ifs
    · exact h.record_own stage _
    · refine h.move hsame ?_ ?_ (.inr fun id hid ↦ ?_) ?_
      · have hnodup := h.nodup
        rw [stage] at hnodup
        exact (List.nodup_cons.mp hnodup).2
      · intro other rest hrecord
        simp only at hrecord
        simp [hrecord, Stage.isAfterTurn] at hafter
      · rw [stage]
        exact List.mem_cons_of_mem _ hid
      · intro hresolve
        simp only at hresolve
        simp [hresolve, Stage.isAfterTurn] at hafter
  | finish stage =>
    exact (h.updateStatus_bus _ _ _).move hsame List.nodup_nil (by simp)
      (.inr (by simp [Stage.pendingIds])) (by simp)

namespace System

/-- A dispatch in flight, or the retry task, works on the event with a number. -/
def InUse (system : System) (seq : ℕ) : Prop :=
  (∃ d ∈ system.dispatches, d.active = true ∧ d.seq = seq) ∨
    ∃ item ∈ system.retry.items, item.seq = seq

instance (system : System) (seq : ℕ) : Decidable (system.InUse seq) := by
  unfold InUse
  infer_instance

/-- Compaction removes no event in use. -/
def SparesInUse (system : System) : Label → Prop
  | .compact olderThan => ∀ event ∈ system.bus.store.events, system.InUse event.seq →
      event.isCompactable (system.bus.clock - olderThan) = false
  | _ => True

instance (system : System) (label : Label) : Decidable (system.SparesInUse label) := by
  cases label <;> unfold SparesInUse <;> infer_instance

variable {system : System}

theorem SparesInUse.not_compactable {olderThan : ℕ} (h : system.SparesInUse (.compact olderThan))
    {seq : ℕ} (huse : system.InUse seq) {event : StoredEvent}
    (hfound : system.bus.store.find seq = some event) :
    event.isCompactable (system.bus.clock - olderThan) = false := by
  obtain ⟨hmem, hseq⟩ := InMemoryEventStore.find_eq_some_iff.mp hfound
  exact h event hmem (hseq ▸ huse)

/-- A step whose store writes succeed and that deletes no event in use. -/
def Orderly (system : System) (label : Label) : Prop :=
  label.writesSucceed = true ∧ system.SparesInUse label

instance (system : System) (label : Label) : Decidable (system.Orderly label) :=
  inferInstanceAs (Decidable (_ ∧ _))

/-- Dispatches and the retry task do not get in each other's way. -/
structure Disjoint (config : Config) (system : System) : Prop where
  index : system.bus.DistinctIndex
  records : system.bus.store.DistinctRecords
  numbered : system.bus.store.find 0 = none
  owns {i : ℕ} {d : Dispatch} (at_i : system.dispatches[i]? = some d) (active : d.active = true) :
    d.Owns system.bus.store
  apart {i j : ℕ} {d e : Dispatch} (at_i : system.dispatches[i]? = some d)
    (at_j : system.dispatches[j]? = some e) (active_i : d.active = true)
    (active_j : e.active = true) (same : d.seq = e.seq) : i = j
  replies {i : ℕ} {d : Dispatch} (at_i : system.dispatches[i]? = some d)
    (reply : d.isReply = true) : d.seq = 0
  current {item : RetryableDelivery} (mem : item ∈ system.retry.items) :
    item.Current config system.bus.store
  itemsApart : (system.retry.items.map (·.key)).Nodup
  reported {item : RetryableDelivery} {report : Report} {todo : List RetryableDelivery}
    (recording : system.retry = .recording item report todo) :
    report.subscriberId = item.subscriberId

theorem disjoint_build (config : Config) (clock : ℕ) : (build .empty clock).Disjoint config where
  index := Bus.distinctIndex_onStore _ _
  records := by simp [build, Bus.onStore, InMemoryEventStore.DistinctRecords,
    InMemoryEventStore.find, InMemoryEventStore.empty]
  numbered := rfl
  owns := by simp [build]
  apart := by simp [build]
  replies := by simp [build]
  current := by simp [build, RetryPhase.items]
  itemsApart := List.nodup_nil
  reported := by simp [build]

theorem Registers.distinctIndex {next : System} (hregisters : Registers system next)
    (h : system.bus.DistinctIndex) : next.bus.DistinctIndex := by
  cases hregisters with
  | keeps registry => exact h.of_keeps registry
  | subscribe forwarded fresh subscribed webhook bus =>
    exact h.subscribe fresh subscribed (by rw [bus]) (by rw [bus])
  | intercept fresh subscribed bus => exact h.subscribe fresh subscribed (by rw [bus]) (by rw [bus]; rfl)
  | unsubscribe id bus => exact bus ▸ h.unsubscribe id

namespace Disjoint

variable {config : Config} {system next : System}

theorem of_same (h : system.Disjoint config) (hindex : next.bus.DistinctIndex)
    (hstore : next.bus.store = system.bus.store) (hdispatches : next.dispatches = system.dispatches)
    (hretry : next.retry = system.retry) : next.Disjoint config where
  index := hindex
  records := hstore ▸ h.records
  numbered := hstore ▸ h.numbered
  owns hat hactive := hstore ▸ h.owns (hdispatches ▸ hat) hactive
  apart hati hatj := h.apart (hdispatches ▸ hati) (hdispatches ▸ hatj)
  replies hat := h.replies (hdispatches ▸ hat)
  current hmem := hstore ▸ h.current (hretry ▸ hmem)
  itemsApart := hretry ▸ h.itemsApart
  reported hrecording := h.reported (hretry ▸ hrecording)

variable {i : ℕ} {d : Dispatch} {event : StoredEvent} {bus : Bus}

section

variable (h : system.Disjoint config)
include h

theorem seq_ne_zero (hat : system.dispatches[i]? = some d) (hactive : d.active = true) :
    d.seq ≠ 0 := by
  intro hzero
  obtain ⟨event, hfind, _⟩ := (h.owns hat hactive).stored
  simp [hzero, h.numbered] at hfind

theorem publish (hfresh : event.deliveries = [])
    (hstarts : Starts system.bus.store.nextSeq false event d) :
    Disjoint config { system with
      bus := { system.bus with
        store := (system.bus.store.append system.bus.clock event).2
        log := .appended system.bus.store.nextSeq event.payload :: system.bus.log }
      dispatches := system.dispatches ++ [d] } where
  index := h.index.of_keeps ⟨rfl, rfl, rfl, rfl⟩
  records := h.records.append _ hfresh
  numbered := by
    have hpos := system.bus.store.nextSeq_pos
    simp only
    rw [InMemoryEventStore.find_append, if_neg hpos.ne]
    exact h.numbered
  owns hat hactive := by
    obtain hold | ⟨_, rfl⟩ := at_of_concat hat
    · exact (h.owns hold hactive).append _ _
    · exact Dispatch.owns_of_starts hfresh hstarts
  apart {i j d₁ d₂} hati hatj hactivei hactivej hsame := by
    obtain hi | ⟨hi, rfl⟩ := at_of_concat hati
    · obtain hj | ⟨_, rfl⟩ := at_of_concat hatj
      · exact h.apart hi hj hactivei hactivej hsame
      · have hlt := (h.owns hi hactivei).seq_lt_nextSeq
        rw [hsame, hstarts.seq] at hlt
        exact absurd hlt (lt_irrefl _)
    · obtain hj | ⟨hj, _⟩ := at_of_concat hatj
      · have hlt := (h.owns hj hactivej).seq_lt_nextSeq
        rw [← hsame, hstarts.seq] at hlt
        exact absurd hlt (lt_irrefl _)
      · rw [hi, hj]
  replies hat hreply := by
    obtain hold | ⟨_, rfl⟩ := at_of_concat hat
    · exact h.replies hold hreply
    · simp [hstarts.isReply] at hreply
  current hmem := (h.current hmem).append _ _
  itemsApart := h.itemsApart
  reported := h.reported

theorem publishReply (hstarts : Starts 0 true event d) :
    Disjoint config { system with dispatches := system.dispatches ++ [d] } := by
  have hold {j : ℕ} {e : Dispatch} (hat : (system.dispatches ++ [d])[j]? = some e)
      (hactive : e.active = true) : system.dispatches[j]? = some e := by
    obtain hold | ⟨_, rfl⟩ := at_of_concat hat
    · exact hold
    · simp [Dispatch.active, hstarts.isReply] at hactive
  exact {
    index := h.index
    records := h.records
    numbered := h.numbered
    owns := fun hat hactive ↦ h.owns (hold hat hactive) hactive
    apart := fun hati hatj hi hj ↦ h.apart (hold hati hi) (hold hatj hj) hi hj
    replies := fun hat hreply ↦ by
      obtain hbefore | ⟨_, rfl⟩ := at_of_concat hat
      · exact h.replies hbefore hreply
      · exact hstarts.seq
    current := h.current
    itemsApart := h.itemsApart
    reported := h.reported }

theorem dispatch {input : DispatchInput} {d' : Dispatch} (hat : system.dispatches[i]? = some d)
    (hchange : Dispatch.Change config input system.bus d bus d') :
    Disjoint config { system with bus, dispatches := system.dispatches.set i d' } where
  index := h.index.of_keeps hchange.keepsRegistry
  records := hchange.keeps h.records (fun _ _ ↦ h.records.updateStatus _ _)
    fun _ _ _ _ ↦ h.records.recordDelivery _ _ _ _ _ _
  numbered := by
    apply hchange.keeps (P := fun store ↦ store.find 0 = none) h.numbered
    · intro status _
      simp only [InMemoryEventStore.find_updateStatus, h.numbered, Option.map_none, ite_self]
    · intro report next _ _
      simp only [InMemoryEventStore.find_recordDelivery, h.numbered, Option.map_none, ite_self]
  owns {j e} hatj hactive := by
    obtain ⟨_, rfl⟩ | ⟨hne, hother⟩ := at_of_set hatj
    · exact hchange.owns h.index (h.owns hat (hchange.active_before hactive))
    · have howns := h.owns hother hactive
      apply hchange.keeps (P := fun store ↦ e.Owns store) howns
      · exact fun status _ ↦ howns.updateStatus _ _
      · intro report next hrunning _
        apply howns.recordDelivery
        exact fun hseq ↦ absurd (h.apart hat hother hrunning hactive hseq) hne
  apart {j k d₁ d₂} hatj hatk hactivej hactivek hseq := by
    obtain ⟨hij, rfl⟩ | ⟨hij, hj⟩ := at_of_set hatj
    · obtain ⟨hik, _⟩ | ⟨_, hk⟩ := at_of_set hatk
      · exact hij.symm.trans hik
      · rw [hchange.same.seq] at hseq
        rw [← hij]
        exact h.apart hat hk (hchange.active_before hactivej) hactivek hseq
    · obtain ⟨hik, rfl⟩ | ⟨_, hk⟩ := at_of_set hatk
      · rw [hchange.same.seq] at hseq
        rw [← hik]
        exact h.apart hj hat hactivej (hchange.active_before hactivek) hseq
      · exact h.apart hj hk hactivej hactivek hseq
  replies hatj hreply := by
    obtain ⟨_, rfl⟩ | ⟨_, hother⟩ := at_of_set hatj
    · rw [hchange.same.isReply] at hreply
      rw [hchange.same.seq]
      exact h.replies hat hreply
    · exact h.replies hother hreply
  current {item} hmem := by
    have hcurrent := h.current hmem
    apply hchange.keeps (P := fun store ↦ item.Current config store) hcurrent
    · exact fun status _ ↦ hcurrent.updateStatus _ _
    · intro report next hactive hstage
      apply hcurrent.recordDelivery
      intro hkey
      obtain ⟨hseq, hid⟩ := Prod.mk.inj hkey
      apply (hcurrent.not_pending (h.owns hat hactive) hseq).2
      rw [hstage, hid]
      exact List.mem_cons_self
  itemsApart := h.itemsApart
  reported := h.reported

theorem poll : Disjoint config { system with retry := .poll config system.bus } where
  index := h.index
  records := h.records
  numbered := h.numbered
  owns := h.owns
  apart := h.apart
  replies := h.replies
  current hmem := InMemoryEventStore.current_of_mem_queryRetryable config h.records hmem
  itemsApart := InMemoryEventStore.queryRetryable_keys_nodup h.records _ _ _
  reported hrecording := by simp [RetryPhase.poll] at hrecording

theorem retry {input : RetryInput} {phase : RetryPhase}
    (hchange : RetryPhase.Change config input system.bus system.retry bus phase) :
    Disjoint config { system with bus, retry := phase } where
  index := h.index.of_keeps hchange.keepsRegistry
  records := hchange.keeps h.records (fun _ _ _ _ ↦ h.records.updateStatus _ _)
    fun _ _ _ _ ↦ h.records.recordDelivery _ _ _ _ _ _
  numbered := by
    apply hchange.keeps (P := fun store ↦ store.find 0 = none) h.numbered
    · intro seq status todo _
      simp only [InMemoryEventStore.find_updateStatus, h.numbered, Option.map_none, ite_self]
    · intro delivery report todo _
      simp only [InMemoryEventStore.find_recordDelivery, h.numbered, Option.map_none, ite_self]
  owns {j e} hatj hactive := by
    have howns := h.owns hatj hactive
    apply hchange.keeps (P := fun store ↦ e.Owns store) howns
    · exact fun seq status _ _ ↦ howns.updateStatus _ _
    · intro delivery report todo hphase
      apply howns.recordDelivery
      intro hseq
      rw [h.reported hphase]
      exact (h.current (RetryPhase.mem_items_of_recording hphase)).not_pending howns hseq
  apart := h.apart
  replies := h.replies
  current {item} hmem := by
    have hcurrent := h.current (hchange.items_subset.subset hmem)
    apply hchange.keeps (P := fun store ↦ item.Current config store) hcurrent
    · exact fun seq status _ _ ↦ hcurrent.updateStatus _ _
    · intro delivery report todo hphase
      have hapart := h.itemsApart
      simp only [hphase] at hchange hapart
      rw [hchange.items_of_recording] at hmem
      apply hcurrent.recordDelivery
      rw [h.reported hphase]
      intro hkey
      have hsame : item.key = delivery.key := hkey
      have hin : delivery.key ∈ todo.map (·.key) := hsame ▸ List.mem_map_of_mem hmem
      exact (List.nodup_cons.mp hapart).1 hin
  itemsApart := h.itemsApart.sublist (hchange.items_subset.map _)
  reported := hchange.reported fun _ _ _ ↦ h.reported

theorem compact {olderThan : ℕ} (hspared : system.SparesInUse (.compact olderThan)) :
    Disjoint config { system with bus := { system.bus with
      store := (system.bus.store.compact system.bus.clock olderThan).2 } } where
  index := h.index.of_keeps ⟨rfl, rfl, rfl, rfl⟩
  records := h.records.compact _ _
  numbered := by
    simp only
    rw [InMemoryEventStore.find_compact, h.numbered]
    rfl
  owns hat hactive := (h.owns hat hactive).compact _ _ fun _ hfind ↦
    hspared.not_compactable (.inl ⟨_, List.mem_of_getElem? hat, hactive, rfl⟩) hfind
  apart := h.apart
  replies := h.replies
  current hmem := (h.current hmem).compact _ _ fun _ hfind ↦
    hspared.not_compactable (.inr ⟨_, hmem, rfl⟩) hfind
  itemsApart := h.itemsApart
  reported := h.reported

/-- No step makes dispatches or the retry task get in each other's way. -/
theorem step {label : Label} (hspared : system.SparesInUse label)
    (hstep : System.step config system label = some next) : next.Disjoint config := by
  have hindex := (registers_of_step hstep).distinctIndex h.index
  cases change_of_step hstep with
  | quiet quiet => exact h.of_same hindex quiet.store quiet.dispatches quiet.retry
  | publish fresh starts => exact h.publish fresh.1 starts
  | publishReply starts => exact h.publishReply starts
  | dispatch at_i running => exact h.dispatch at_i (Dispatch.change_of_step _ _ _ running)
  | poll idle => exact h.poll
  | retry busy => exact h.retry (RetryPhase.change_of_step _ _ _ busy)
  | compact => exact h.compact hspared

end

end Disjoint

end System

end Seidrum.EventBus
