import Seidrum.EventBus.Addressed
import Seidrum.EventBus.Disjoint
import Seidrum.EventBus.Mentions

/-!
# Which subjects concern whom

A lookup finds the subscriptions whose patterns match a subject.  Their ids travel with the event
through a dispatch, into its delivery records, and from there to the retry task.  A relation of ids
and subjects that holds of what lookups find holds of what waits on every channel.
-/

namespace Seidrum.EventBus

variable {R : String → String → Prop}

namespace InMemoryEventStore

/-- Every delivery record is about a subscriber that the subject of its event concerns. -/
def Concerns (R : String → String → Prop) (store : InMemoryEventStore) : Prop :=
  ∀ event ∈ store.events, ∀ record ∈ event.deliveries, R record.subscriberId event.subject

variable {store : InMemoryEventStore}

theorem Concerns.updateStatus (h : store.Concerns R) (seq : ℕ) (status : EventStatus) :
    (store.updateStatus seq status).2.Concerns R := by
  unfold InMemoryEventStore.updateStatus
  split
  · intro event hevent
    obtain ⟨source, hsource, rfl⟩ := List.mem_map.mp hevent
    split_ifs
    all_goals exact h source hsource
  · exact h

theorem Concerns.recordDelivery (h : store.Concerns R) (now seq : ℕ) {subscriberId : String}
    (hid : ∀ event, store.find seq = some event → R subscriberId event.subject)
    (status : DeliveryStatus) (error : Option String) (nextRetry : Option ℕ) :
    (store.recordDelivery now seq subscriberId status error nextRetry).2.Concerns R := by
  unfold InMemoryEventStore.recordDelivery
  split
  · rename_i found hfound
    intro event hevent record hrecord
    have hmodified : event ∈ (store.modify seq _ (StoredEvent.withDelivery_seq now subscriberId
        status error nextRetry)).events := hevent
    obtain rfl | ⟨hold, _⟩ := (mem_modify hfound).mp hmodified
    · obtain heq | hbefore := StoredEvent.mem_ids_recordIn (List.mem_map_of_mem hrecord)
      · exact heq ▸ hid found hfound
      · obtain ⟨other, hother, heq⟩ := List.mem_map.mp hbefore
        exact heq ▸ h found (find_eq_some_iff.mp hfound).1 other hother
    · exact h event hold record hrecord
  · exact h

theorem Concerns.append (h : store.Concerns R) (now : ℕ) {event : StoredEvent}
    (hfresh : event.deliveries = []) : (store.append now event).2.Concerns R := by
  intro other hother record hrecord
  obtain hold | rfl := mem_append.mp hother
  · exact h other hold record hrecord
  · simp [hfresh] at hrecord

theorem Concerns.retain (h : store.Concerns R) (p : StoredEvent → Bool) :
    (store.retain p).Concerns R := fun event hevent ↦ h event (mem_retain.mp hevent).1

end InMemoryEventStore

namespace System

/-- Whoever is mentioned for an event is concerned by its subject. -/
structure Concerns (R : String → String → Prop) (system : System) : Prop where
  records : system.bus.store.Concerns R
  pending : ∀ d ∈ system.dispatches, ∀ id ∈ d.stage.pendingIds, R id d.subject
  waiting : system.bus.Waiting fun id event ↦ R id event.subject

variable {config : Config} {system next : System} {label : Label}

theorem concerns_build (clock : ℕ) : (build .empty clock).Concerns R where
  records := by simp [InMemoryEventStore.Concerns, build, Bus.onStore, InMemoryEventStore.empty]
  pending := by simp [build]
  waiting := by simp [Bus.Waiting, build, Bus.onStore, Channel.new]

theorem Concerns.mono {R' : String → String → Prop} (h : system.Concerns R)
    (hR : ∀ id subject, R id subject → R' id subject) : system.Concerns R' where
  records event hevent record hrecord := hR _ _ (h.records event hevent record hrecord)
  pending d hd id hid := hR _ _ (h.pending d hd id hid)
  waiting id event hevent := hR _ _ (h.waiting id event hevent)

theorem used_of_step (hstep : step config system label = some next) :
    ∀ id ∈ system.bus.usedIds, id ∈ next.bus.usedIds := by
  intro id hid
  cases registers_of_step hstep with
  | keeps registry => exact registry.usedIds ▸ hid
  | subscribe _ _ _ _ bus | intercept _ _ bus => exact bus ▸ List.mem_cons_of_mem _ hid
  | unsubscribe _ bus => exact bus ▸ hid

theorem Concerns.item (h : system.Concerns R) (hdisjoint : system.Disjoint config)
    {item : RetryableDelivery} (hitem : item ∈ system.retry.items) :
    R item.subscriberId item.subject := by
  obtain ⟨event, record, hfind, hrecord, _, _, _, _, hsubject, _⟩ := hdisjoint.current hitem
  obtain ⟨hmem, hid⟩ := StoredEvent.mem_of_recordOf hrecord
  have hconcerned := h.records event (InMemoryEventStore.find_eq_some_iff.mp hfind).1 record hmem
  rw [hid, hsubject] at hconcerned
  exact hconcerned

theorem Concerns.records_of_step (h : system.Concerns R) (hdisjoint : system.Disjoint config)
    (hstep : step config system label = some next) : next.bus.store.Concerns R := by
  cases change_of_step hstep with
  | quiet quiet => exact quiet.store ▸ h.records
  | publish fresh starts => exact h.records.append _ fresh.1
  | publishReply => exact h.records
  | @dispatch i input d at_i running =>
    apply (Dispatch.change_of_step config input system.bus running).keeps h.records
    · exact fun status _ ↦ h.records.updateStatus _ _
    · intro report rest hactive hstage
      apply h.records.recordDelivery
      intro event hfind
      obtain ⟨stored, hstored, hsubject, _⟩ := (hdisjoint.owns at_i hactive).stored
      obtain rfl := Option.some.inj (hstored.symm.trans hfind)
      rw [hsubject]
      refine h.pending d (List.mem_of_getElem? at_i) _ ?_
      rw [hstage]
      exact List.mem_cons_self
  | poll => exact h.records
  | @retry input busy =>
    apply (RetryPhase.change_of_step config input system.bus busy).keeps h.records
    · exact fun _ _ _ _ ↦ h.records.updateStatus _ _
    · intro item report todo hphase
      have hitem := RetryPhase.mem_items_of_recording hphase
      apply h.records.recordDelivery
      intro event hfind
      obtain ⟨stored, _, hstored, _, _, _, _, _, hsubject, _⟩ := hdisjoint.current hitem
      obtain rfl := Option.some.inj (hstored.symm.trans hfind)
      rw [hdisjoint.reported hphase, hsubject]
      exact h.item hdisjoint hitem
  | compact => exact h.records.retain _

theorem Concerns.pending_of_step (h : system.Concerns R)
    (hlookup : ∀ subject, ∀ entry ∈ system.bus.index.lookup subject, R entry.id subject)
    (hstep : step config system label = some next) :
    ∀ d ∈ next.dispatches, ∀ id ∈ d.stage.pendingIds, R id d.subject := by
  have hstarted {event : StoredEvent} {seq : ℕ} {isReply : Bool} {d : Dispatch}
      (hstarts : Starts seq isReply event d) :
      ∀ other ∈ system.dispatches ++ [d], ∀ id ∈ other.stage.pendingIds, R id other.subject := by
    intro other hother id hid
    obtain hold | rfl := Foundation.mem_of_concat hother
    · exact h.pending other hold id hid
    · rw [hstarts.stage] at hid
      simp [Stage.pendingIds] at hid
  cases change_of_step hstep with
  | quiet quiet => exact quiet.dispatches ▸ h.pending
  | publish fresh starts | publishReply starts => exact hstarted starts
  | @dispatch i input d at_i running =>
    intro other hother id hid
    obtain hold | rfl := List.mem_or_eq_of_mem_set hother
    · exact h.pending other hold id hid
    · have hchange := Dispatch.change_of_step config input system.bus running
      rw [hchange.same.subject]
      obtain hbefore | ⟨entry, hentry, rfl⟩ := hchange.mem_pendingIds hid
      · exact h.pending d (List.mem_of_getElem? at_i) id hbefore
      · exact hlookup d.subject entry hentry
  | _ => exact h.pending

theorem Concerns.step (h : system.Concerns R) (hdisjoint : system.Disjoint config)
    (hlookup : ∀ subject, ∀ entry ∈ system.bus.index.lookup subject, R entry.id subject)
    (hstep : System.step config system label = some next) : next.Concerns R where
  records := h.records_of_step hdisjoint hstep
  pending := h.pending_of_step hlookup hstep
  waiting := waiting_of_step h.waiting h.pending (fun _ hitem ↦ h.item hdisjoint hitem) hstep

end System

end Seidrum.EventBus
