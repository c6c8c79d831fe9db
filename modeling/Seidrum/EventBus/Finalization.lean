import Seidrum.EventBus.RetryBudget

/-!
# The final status of an event

Once the dispatch of an event has returned and none of its deliveries is failed, the status of the
event should be the one its records call for.  A dispatch that saw a failure leaves the event
partially delivered and relies on the retry task to finalize it; the retry task finalizes an event
only after an attempt of its own.  So everything hangs on the last write of a dispatch: after it
some record must still be failed, or the retry task must be just about to finalize the event.
-/

namespace Seidrum.EventBus

open Seidrum.Foundation

/-! ## What the records call for -/

namespace StoredEvent

/-- The status of an event all of whose deliveries are over. -/
def finalStatus (event : StoredEvent) : EventStatus :=
  if event.deliveries.any (·.status = .deadLettered) then .deadLettered else .delivered

def hasDeadLettered (event : StoredEvent) : Bool :=
  event.deliveries.any (·.status = .deadLettered)

/-- Every record has an outcome. -/
def Decided (event : StoredEvent) : Prop :=
  ∀ record ∈ event.deliveries, record.status ≠ .pending

variable {event : StoredEvent}

/-- A failure that is recorded shows. -/
theorem hasFailed_withDelivery {status : DeliveryStatus} (h : status = .failed) {now : ℕ}
    {subscriberId : String} {error : Option String} {nextRetry : Option ℕ} :
    (event.withDelivery now subscriberId status error nextRetry).hasFailed = true := by
  apply List.any_eq_true.mpr
  have hrecord := recordOf_withDelivery now subscriberId subscriberId status error nextRetry event
  rw [if_pos rfl] at hrecord
  refine ⟨_, (mem_of_recordOf hrecord).1, ?_⟩
  cases event.recordOf subscriberId with
  | none => simp [DeliveryRecord.first, h]
  | some record => simp [DeliveryRecord.transition, h]

theorem finalStatus_of_not_hasDeadLettered (h : event.hasDeadLettered = false) :
    event.finalStatus = .delivered := by
  unfold hasDeadLettered at h
  simp [finalStatus, h]

/-- Every record says delivered. -/
def AllDelivered (event : StoredEvent) : Prop :=
  ∀ record ∈ event.deliveries, record.status = .delivered

theorem AllDelivered.hasDeadLettered (h : event.AllDelivered) : event.hasDeadLettered = false := by
  apply List.any_eq_false.mpr
  intro record hmem
  simp [h record hmem]

theorem AllDelivered.withDelivery (h : event.AllDelivered) (now : ℕ) (subscriberId : String)
    (error : Option String) (nextRetry : Option ℕ) :
    (event.withDelivery now subscriberId .delivered error nextRetry).AllDelivered := by
  unfold AllDelivered StoredEvent.withDelivery at *
  simp only
  revert h
  induction event.deliveries with
  | nil =>
    intro _ record hmem
    rw [List.mem_singleton.mp hmem]
    rfl
  | cons first rest ih =>
    intro h
    obtain ⟨hfirst, hrest⟩ := List.forall_mem_cons.mp h
    unfold recordIn
    split_ifs
    · exact List.forall_mem_cons.mpr ⟨rfl, hrest⟩
    · exact List.forall_mem_cons.mpr ⟨hfirst, ih hrest⟩

theorem Decided.verdict (h : event.Decided) (hfailed : event.hasFailed = false) :
    RetryPhase.verdict event = some event.finalStatus := by
  apply RetryPhase.verdict_eq_some_iff.mpr
  refine ⟨fun record hmem ↦ ?_, rfl⟩
  have hnot : record.status ≠ .failed := by
    have hall : ∀ record ∈ event.deliveries, record.status ≠ .failed := by
      simpa [hasFailed] using hfailed
    exact hall record hmem
  have hdecided := h record hmem
  cases hstatus : record.status with
  | pending => exact absurd hstatus hdecided
  | delivered => exact .inl rfl
  | failed => exact absurd hstatus hnot
  | deadLettered => exact .inr rfl

end StoredEvent

theorem RetryableDelivery.Current.not_allDelivered {config : Config} {store : InMemoryEventStore}
    {item : RetryableDelivery} (h : item.Current config store) {event : StoredEvent}
    (hfound : store.find item.seq = some event) : ¬ event.AllDelivered := by
  intro hall
  obtain ⟨stored, record, hstored, hrecord, hfailed, _⟩ := h
  obtain rfl := Option.some.inj (hfound.symm.trans hstored)
  have hdelivered := hall record (StoredEvent.mem_of_recordOf hrecord).1
  simp [hfailed] at hdelivered

namespace System

/-- Every record along an orderly run has an outcome. -/
theorem Accounted.decided {config : Config} {system : System} (h : system.Accounted config)
    {seq : ℕ} {event : StoredEvent} (hfound : system.bus.store.find seq = some event) :
    event.Decided := by
  intro record hmem
  have hrecord := (h.disjoint.records seq event hfound).recordOf_eq hmem
  by_cases hrecording : system.Recording (seq, record.subscriberId)
  · obtain ⟨d, hd, hactive, report, hreport, hkey⟩ | ⟨item, report, hreport, hkey⟩ := hrecording
    · obtain ⟨i, hat⟩ := List.mem_iff_getElem?.mp hd
      obtain ⟨stored, hstored, _, _, _, hnone, _⟩ := (h.disjoint.owns hat hactive).stored
      obtain ⟨next, hstage⟩ := Stage.report_eq_some hreport
      obtain ⟨hseq, hid⟩ := Prod.mk.inj hkey
      obtain rfl := Option.some.inj (hfound.symm.trans (hseq ▸ hstored))
      have hpending := hnone report.subscriberId (Stage.mem_pendingIds_of_record hstage)
      simp [hid, hrecord] at hpending
    · have hitem := RetryPhase.mem_items_of_report hreport
      obtain ⟨stored, other, hstored, hother, hfailed, _⟩ := h.disjoint.current hitem
      obtain ⟨hseq, hid⟩ := Prod.mk.inj hkey
      obtain rfl := Option.some.inj (hfound.symm.trans (hseq ▸ hstored))
      rw [hid, hrecord] at hother
      cases hother
      rw [hfailed]
      decide
  · have hsettled := h.settled hfound hrecording
    rw [hrecord] at hsettled
    exact hsettled.status_ne_pending

/-- The retry task will still finalize the event: it has a failed delivery to revisit, or is about
to load the event, or to write the status its records call for. -/
def Awaited (system : System) (event : StoredEvent) : Prop :=
  event.hasFailed = true ∨ system.retry.loads event.seq = true ∨
    system.retry.decided event.seq = some event.finalStatus

instance (system : System) (event : StoredEvent) : Decidable (system.Awaited event) :=
  inferInstanceAs (Decidable (_ ∨ _ ∨ _))

/-- A last write of a dispatch that saw a failure leaves the event to the retry task; a dropped
event may also be left delivered if nothing of it was dead-lettered. -/
def LeavesFinal (system : System) (d : Dispatch) : Stage → Prop
  | .fanOut [] => d.anyFailed = true →
      ∀ event ∈ system.bus.store.find d.seq, system.Awaited event
  | .close _ => d.anyFailed = true → ∀ event ∈ system.bus.store.find d.seq,
      event.hasDeadLettered = true ∨ system.retry.decided d.seq ≠ none → system.Awaited event
  | _ => True

instance (system : System) (d : Dispatch) : DecidablePred (LeavesFinal system d) := fun stage ↦ by
  induction stage using Stage.casesOn with
  | fanOut entries =>
    induction entries using List.casesOn <;> dsimp only [LeavesFinal] <;> infer_instance
  | _ => dsimp only [LeavesFinal]; infer_instance

/-- An orderly step in which a dispatch that saw a failure returns only where the retry task goes
on; a compaction also spares the event the retry task is finalizing. -/
def LeavesFinalStatus (system : System) (label : Label) : Prop :=
  system.Orderly label ∧ match label with
    | .dispatch i _ => ∀ d ∈ system.dispatches[i]?, d.active = true → LeavesFinal system d d.stage
    | .compact olderThan => ∀ event ∈ system.bus.store.events,
        system.retry.loads event.seq = true ∨ system.retry.decided event.seq ≠ none →
          event.isCompactable (system.bus.clock - olderThan) = false
    | _ => True

/-- Every event without a dispatch in flight has its final status or is about to get it, and a
dispatch in flight without a failure leaves nothing to the retry task. -/
structure Finalized (config : Config) (system : System) : Prop where
  accounted : system.Accounted config
  settled {seq : ℕ} {event : StoredEvent} (found : system.bus.store.find seq = some event)
    (returned : ∀ d ∈ system.dispatches, d.active = true → d.seq ≠ seq) :
    system.Awaited event ∨
      system.retry.decided seq = none ∧ event.status = event.finalStatus
  clean {i : ℕ} {d : Dispatch} {event : StoredEvent} (at_i : system.dispatches[i]? = some d)
    (active : d.active = true) (none_failed : d.anyFailed = false)
    (found : system.bus.store.find d.seq = some event) :
    event.AllDelivered ∧
      system.retry.loads d.seq = false ∧ system.retry.decided d.seq = none
  failing {i : ℕ} {d : Dispatch} {report : Report} {next : Stage}
    (at_i : system.dispatches[i]? = some d) (active : d.active = true)
    (stage : d.stage = .record report next) (failed : report.status ≠ .delivered) :
    d.anyFailed = true
  closing {i : ℕ} {d : Dispatch} {status : EventStatus} (at_i : system.dispatches[i]? = some d)
    (stage : d.stage.closeStatus = some status) : status = .delivered
  stored {seq : ℕ}
    (finalizing : system.retry.loads seq = true ∨ system.retry.decided seq ≠ none) :
    ∃ event, system.bus.store.find seq = some event

theorem finalized_build (config : Config) (clock : ℕ) : (build .empty clock).Finalized config where
  accounted := accounted_build config clock
  settled found := by simp [build, Bus.onStore, InMemoryEventStore.find,
    InMemoryEventStore.empty] at found
  clean := by simp [build]
  failing := by simp [build]
  closing := by simp [build]
  stored := by simp [build, RetryPhase.loads, RetryPhase.decided]

namespace Finalized

variable {config : Config} {system next : System}

/-- A step that leaves the dispatches in flight, the finalization at hand and the stored events as
they are. -/
theorem of_same (h : system.Finalized config) (haccounted : next.Accounted config)
    (hstore : next.bus.store = system.bus.store) (hdispatches : next.dispatches = system.dispatches)
    (hloads : ∀ seq, next.retry.loads seq = system.retry.loads seq)
    (hdecided : ∀ seq, next.retry.decided seq = system.retry.decided seq) :
    next.Finalized config where
  accounted := haccounted
  settled {seq event} hfound hreturned := by
    rw [hstore] at hfound
    rw [hdispatches] at hreturned
    unfold Awaited
    rw [hloads, hdecided, hdecided]
    exact h.settled hfound hreturned
  clean hat hactive hfailed hfound := by
    rw [hloads, hdecided]
    exact h.clean (hdispatches ▸ hat) hactive hfailed (hstore ▸ hfound)
  failing hat := h.failing (hdispatches ▸ hat)
  closing hat := h.closing (hdispatches ▸ hat)
  stored hfinalizing := by
    rw [hloads, hdecided] at hfinalizing
    rw [hstore]
    exact h.stored hfinalizing

variable {event : StoredEvent} {d : Dispatch} {i : ℕ} {status : EventStatus} {old : StoredEvent}
  {d' : Dispatch} {bus : Bus} {loaded : ℕ}

theorem publish (h : system.Finalized config) (hfresh : event.deliveries = [])
    (hstarts : Starts system.bus.store.nextSeq false event d)
    (hbus : next.bus.store = (system.bus.store.append system.bus.clock event).2)
    (hdispatches : next.dispatches = system.dispatches ++ [d]) (hretry : next.retry = system.retry)
    (haccounted : next.Accounted config) : next.Finalized config := by
  have hactive : d.active = true := by
    simp [Dispatch.active, hstarts.isReply, hstarts.stage, Stage.isReturned]
  have hnotNew {seq : ℕ} {stored : StoredEvent} (hfound : system.bus.store.find seq = some stored) :
      seq ≠ system.bus.store.nextSeq := by
    obtain ⟨hmem, hseq⟩ := InMemoryEventStore.find_eq_some_iff.mp hfound
    rw [← hseq]
    exact (InMemoryEventStore.seq_lt_nextSeq hmem).ne
  constructor
  · exact haccounted
  · intro seq stored hfound hreturned
    rw [hdispatches] at hreturned
    have hseq : seq ≠ system.bus.store.nextSeq := by
      rw [← hstarts.seq]
      exact (hreturned d (List.mem_append_right _ (List.mem_singleton_self d)) hactive).symm
    rw [hbus, InMemoryEventStore.find_append, if_neg hseq] at hfound
    unfold Awaited
    rw [hretry]
    exact h.settled hfound fun e hmem ↦ hreturned e (List.mem_append_left _ hmem)
  · intro i e stored hat hactivee hfailed hfound
    rw [hdispatches] at hat
    rw [hretry]
    obtain hold | ⟨_, rfl⟩ := at_of_concat hat
    · obtain ⟨before, hbefore, _⟩ := (h.accounted.disjoint.owns hold hactivee).stored
      rw [hbus, InMemoryEventStore.find_append, if_neg (hnotNew hbefore)] at hfound
      exact h.clean hold hactivee hfailed hfound
    · rw [hbus, hstarts.seq, InMemoryEventStore.find_append, if_pos rfl] at hfound
      cases hfound
      have hidle (hfinalizing : system.retry.loads e.seq = true ∨
          system.retry.decided e.seq ≠ none) : False := by
        obtain ⟨before, hbefore⟩ := h.stored hfinalizing
        exact hnotNew hbefore hstarts.seq
      refine ⟨by simp [StoredEvent.AllDelivered, hfresh], ?_, ?_⟩
      · cases hloads : system.retry.loads e.seq with
        | false => rfl
        | true => exact (hidle (.inl hloads)).elim
      · by_contra hdecided
        exact hidle (.inr hdecided)
  · intro i e report rest hat hactivee hstage
    rw [hdispatches] at hat
    obtain hold | ⟨_, rfl⟩ := at_of_concat hat
    · exact h.failing hold hactivee hstage
    · simp [hstarts.stage] at hstage
  · intro i e status hat hstage
    rw [hdispatches] at hat
    obtain hold | ⟨_, rfl⟩ := at_of_concat hat
    · exact h.closing hold hstage
    · simp [hstarts.stage, Stage.closeStatus] at hstage
  · intro seq hfinalizing
    rw [hretry] at hfinalizing
    obtain ⟨stored, hfound⟩ := h.stored hfinalizing
    exact ⟨stored, by rw [hbus, InMemoryEventStore.find_append, if_neg (hnotNew hfound), hfound]⟩

theorem publishReply (h : system.Finalized config) (hstarts : Starts 0 true event d)
    (haccounted : Accounted config { system with dispatches := system.dispatches ++ [d] }) :
    Finalized config { system with dispatches := system.dispatches ++ [d] } := by
  have hold {i : ℕ} {e : Dispatch} (hat : (system.dispatches ++ [d])[i]? = some e)
      (hactive : e.active = true) : system.dispatches[i]? = some e := by
    obtain hold | ⟨_, rfl⟩ := at_of_concat hat
    · exact hold
    · simp [Dispatch.active, hstarts.isReply] at hactive
  constructor
  · exact haccounted
  · exact fun hfound hreturned ↦ h.settled hfound fun e hmem ↦
      hreturned e (List.mem_append_left _ hmem)
  · exact fun hat hactive ↦ h.clean (hold hat hactive) hactive
  · exact fun hat hactive ↦ h.failing (hold hat hactive) hactive
  · intro i e status hat hstage
    obtain hbefore | ⟨_, rfl⟩ := at_of_concat hat
    · exact h.closing hbefore hstage
    · simp [hstarts.stage, Stage.closeStatus] at hstage
  · exact h.stored

/-- The last write of a dispatch. -/
theorem awaited_of_finish (h : system.Finalized config) (hat : system.dispatches[i]? = some d)
    (hactive : d.active = true) (hguard : LeavesFinal system d d.stage)
    (hstage : d.stage = .close status ∨ d.stage = .fanOut [] ∧ status = d.finalStatus)
    (hfound : system.bus.store.find d.seq = some old) :
    system.Awaited old ∨ system.retry.decided d.seq = none ∧ status = old.finalStatus := by
  cases hfailed : d.anyFailed with
  | false =>
    obtain ⟨hdelivered, _, hdecided⟩ := h.clean hat hactive hfailed hfound
    refine .inr ⟨hdecided, ?_⟩
    rw [StoredEvent.finalStatus_of_not_hasDeadLettered hdelivered.hasDeadLettered]
    obtain hclose | ⟨_, rfl⟩ := hstage
    · exact h.closing hat (by rw [hclose]; rfl)
    · simp [Dispatch.finalStatus, hfailed]
  | true =>
    obtain hclose | ⟨hend, _⟩ := hstage
    · rw [hclose] at hguard
      have hleft := hguard hfailed old hfound
      by_cases hcase : old.hasDeadLettered = true ∨ system.retry.decided d.seq ≠ none
      · exact .inl (hleft hcase)
      · obtain ⟨hdead, hdecided⟩ := not_or.mp hcase
        refine .inr ⟨not_not.mp hdecided, ?_⟩
        rw [StoredEvent.finalStatus_of_not_hasDeadLettered (by simpa using hdead)]
        exact h.closing hat (by rw [hclose]; rfl)
    · rw [hend] at hguard
      exact .inl (hguard hfailed old hfound)

variable {input : DispatchInput}

theorem find_of_change {before : Bus} {seq : ℕ}
    (hchange : Dispatch.Change config input before d bus d')
    (hseq : ¬ (d.active = true ∧ d.seq = seq)) : bus.store.find seq = before.store.find seq := by
  apply hchange.keeps (P := fun store ↦ store.find seq = before.store.find seq) rfl
  · intro status hactive
    rw [InMemoryEventStore.find_updateStatus, if_neg fun heq ↦ hseq ⟨hactive, heq.symm⟩]
  · intro report next hactive _
    rw [InMemoryEventStore.find_recordDelivery, if_neg fun heq ↦ hseq ⟨hactive, heq.symm⟩]

/-- A dispatch that returns leaves its event with the final status, or to the retry task. -/
theorem settled_of_return (h : system.Finalized config) (hok : input.storeOk = true)
    (hat : system.dispatches[i]? = some d) (hactive : d.active = true)
    (hguard : LeavesFinal system d d.stage)
    (hchange : Dispatch.Change config input system.bus d bus d')
    (hreturned : d'.stage.isReturned = true) (hfound : bus.store.find d.seq = some event) :
    system.Awaited event ∨
      system.retry.decided d.seq = none ∧ event.status = event.finalStatus := by
  obtain ⟨status, hstage, rfl⟩ :=
    hchange.of_returned (h.accounted.disjoint.owns hat hactive).follows hreturned
  have hwrites : d.writes input = true := by
    simp only [Dispatch.active, Bool.and_eq_true] at hactive
    simp [Dispatch.writes, hok, hactive.1]
  simp only [Bus.updateStatus, hwrites, if_true, InMemoryEventStore.find_updateStatus] at hfound
  obtain ⟨old, hold, rfl⟩ := Option.map_eq_some_iff.mp hfound
  have hlast := h.awaited_of_finish hat hactive hguard hstage hold
  exact hlast

/-- A dispatch without a failure has nothing but deliveries on record. -/
theorem allDelivered_of_change (h : system.Finalized config) (hat : system.dispatches[i]? = some d)
    (hactive : d.active = true) (hnone : d.anyFailed = false)
    (hold : system.bus.store.find d.seq = some old)
    (hchange : Dispatch.Change config input system.bus d bus d')
    (hfound : bus.store.find d.seq = some event) : event.AllDelivered := by
  have hdelivered := (h.clean hat hactive hnone hold).1
  have hall : ∀ stored, bus.store.find d.seq = some stored → stored.AllDelivered := by
    apply hchange.keeps (P := fun store ↦ ∀ stored, store.find d.seq = some stored →
      stored.AllDelivered)
    · intro stored hstored
      obtain rfl := Option.some.inj (hold.symm.trans hstored)
      exact hdelivered
    · intro status _ stored hstored
      simp only [InMemoryEventStore.find_updateStatus, if_true, hold, Option.map_some,
        Option.some.injEq] at hstored
      rw [← hstored]
      exact hdelivered
    · intro report next _ hstage stored hstored
      have hstatus : report.status = .delivered := by
        by_contra hnot
        simp [h.failing hat hactive hstage hnot] at hnone
      simp only [InMemoryEventStore.find_recordDelivery, if_true, hold, Option.map_some,
        Option.some.injEq, hstatus] at hstored
      rw [← hstored]
      exact hdelivered.withDelivery _ _ _ _
  exact hall event hfound

theorem dispatch (h : system.Finalized config)
    (hguard : system.LeavesFinalStatus (.dispatch i input)) (hat : system.dispatches[i]? = some d)
    (hchange : Dispatch.Change config input system.bus d bus d')
    (haccounted : Accounted config { system with bus, dispatches := system.dispatches.set i d' }) :
    Finalized config { system with bus, dispatches := system.dispatches.set i d' } := by
  obtain ⟨⟨hok, _⟩, hleaves⟩ := hguard
  have hdisjoint := h.accounted.disjoint
  have hmoved : d' ∈ system.dispatches.set i d' :=
    List.mem_set (List.getElem?_eq_some_iff.mp hat).1 d'
  constructor
  · exact haccounted
  · intro seq event hfound hreturned
    by_cases hmine : d.active = true ∧ d.seq = seq
    · obtain ⟨hactive, rfl⟩ := hmine
      have hreturned' : d'.stage.isReturned = true := by
        have hinactive : d'.active ≠ true := fun hmoving ↦
          hreturned d' hmoved hmoving hchange.same.seq
        have hreply : d.isReply = false := by
          simp only [Dispatch.active, Bool.and_eq_true] at hactive
          simpa using hactive.1
        simpa [Dispatch.active, hchange.same.isReply, hreply] using hinactive
      exact h.settled_of_return hok hat hactive (hleaves d hat hactive) hchange hreturned' hfound
    · rw [find_of_change hchange hmine] at hfound
      apply h.settled hfound
      intro e hmem hactive hseq
      apply hreturned e _ hactive hseq
      apply mem_set_of_ne hat hmem
      rintro rfl
      exact hmine ⟨hactive, hseq⟩
  · intro j e event hatj hactive hfailed hfound
    obtain ⟨_, rfl⟩ | ⟨hij, hj⟩ := at_of_set hatj
    · have hactived := hchange.active_before hactive
      have hnone := hchange.anyFailed_before hfailed
      obtain ⟨old, hold, _⟩ := (hdisjoint.owns hat hactived).stored
      obtain ⟨_, hloads, hdecided⟩ := h.clean hat hactived hnone hold
      rw [hchange.same.seq] at hfound ⊢
      exact ⟨h.allDelivered_of_change hat hactived hnone hold hchange hfound, hloads, hdecided⟩
    · have hnot : ¬ (d.active = true ∧ d.seq = e.seq) := fun hsame ↦
        hij (hdisjoint.apart hat hj hsame.1 hactive hsame.2)
      rw [find_of_change hchange hnot] at hfound
      exact h.clean hj hactive hfailed hfound
  · intro j e report rest hatj hactive hstage hstatus
    obtain ⟨_, rfl⟩ | ⟨_, hj⟩ := at_of_set hatj
    · exact hchange.failing (hdisjoint.owns hat (hchange.active_before hactive)).follows hstage
        hstatus
    · exact h.failing hj hactive hstage hstatus
  · intro j e status hatj hstage
    obtain ⟨_, rfl⟩ | ⟨_, hj⟩ := at_of_set hatj
    · exact hchange.closing (fun _ ↦ h.closing hat) hstage
    · exact h.closing hj hstage
  · intro seq hfinalizing
    have hstored := h.stored hfinalizing
    apply hchange.keeps (P := fun store ↦ ∃ event, store.find seq = some event) hstored
    · intro status _
      obtain ⟨event, hfound⟩ := hstored
      rw [InMemoryEventStore.find_updateStatus, hfound]
      split_ifs
      all_goals exact ⟨_, rfl⟩
    · intro report next _ _
      obtain ⟨event, hfound⟩ := hstored
      rw [InMemoryEventStore.find_recordDelivery, hfound]
      split_ifs
      all_goals exact ⟨_, rfl⟩

variable {todo : List RetryableDelivery}

section

variable (h : system.Finalized config)
include h

/-- The retry task records an outcome, and loads the event unless the delivery failed again. -/
theorem recordRetry {input : RetryInput} (hok : input.storeOk = true) {item : RetryableDelivery}
    {report : Report} (hbefore : system.retry = .recording item report todo)
    (haccounted : Accounted config { system with
      bus := system.bus.recordDelivery input.storeOk item.seq report
      retry := if report.status = .failed then .working todo else .loading item.seq todo }) :
    Finalized config { system with
      bus := system.bus.recordDelivery input.storeOk item.seq report
      retry := if report.status = .failed then .working todo else .loading item.seq todo } := by
  have hdisjoint := h.accounted.disjoint
  have hitem : item ∈ system.retry.items := by
    rw [hbefore]
    exact List.mem_cons_self
  have hcurrent := hdisjoint.current hitem
  constructor
  · exact haccounted
  · intro seq event hfound hreturned
    simp only [Bus.recordDelivery, hok, if_true, InMemoryEventStore.find_recordDelivery] at hfound
    split_ifs at hfound with hseq
    · obtain ⟨old, hold, rfl⟩ := Option.map_eq_some_iff.mp hfound
      refine .inl ?_
      have hnumber := (InMemoryEventStore.find_eq_some_iff.mp hold).2
      by_cases hfailed : report.status = .failed
      · exact .inl (StoredEvent.hasFailed_withDelivery hfailed)
      · refine .inr (.inl ?_)
        simp [hfailed, RetryPhase.loads, hnumber, hseq]
    · obtain hawaited | hfinal := h.settled hfound hreturned
      · obtain hfailed | hloads | hdecided := hawaited
        · exact .inl (.inl hfailed)
        · simp [hbefore, RetryPhase.loads] at hloads
        · simp [hbefore, RetryPhase.decided] at hdecided
      · refine .inr ⟨?_, hfinal.2⟩
        simp only
        split_ifs <;> rfl
  · intro i d event hat hactive hnone hfound
    obtain ⟨old, hold, _⟩ := (hdisjoint.owns hat hactive).stored
    obtain ⟨hdelivered, _⟩ := h.clean hat hactive hnone hold
    have hne : d.seq ≠ item.seq := fun hseq ↦
      hcurrent.not_allDelivered (hseq ▸ hold) hdelivered
    simp only [Bus.recordDelivery, hok, if_true, InMemoryEventStore.find_recordDelivery,
      if_neg hne] at hfound
    obtain rfl := Option.some.inj (hold.symm.trans hfound)
    refine ⟨hdelivered, ?_, ?_⟩
    · simp only
      split_ifs
      · rfl
      · simpa [RetryPhase.loads] using hne.symm
    · simp only
      split_ifs <;> rfl
  · exact h.failing
  · exact h.closing
  · intro seq hfinalizing
    obtain rfl : item.seq = seq := by
      simp only at hfinalizing
      split_ifs at hfinalizing
      · simp [RetryPhase.loads, RetryPhase.decided] at hfinalizing
      · simpa [RetryPhase.loads, RetryPhase.decided] using hfinalizing
    obtain ⟨event, _, hfound, _⟩ := hcurrent
    exact ⟨_, by simp only [Bus.recordDelivery, hok, if_true,
      InMemoryEventStore.find_recordDelivery, hfound, Option.map_some]; rfl⟩

/-- The retry task decides on the final status of the event it has loaded. -/
theorem loadRetry {event₀ : StoredEvent} (hbefore : system.retry = .loading loaded todo)
    (found : system.bus.store.find loaded = some event₀)
    (ended : RetryPhase.verdict event₀ = some status)
    (haccounted : Accounted config { system with retry := .finalizing loaded status todo }) :
    Finalized config { system with retry := .finalizing loaded status todo } := by
  obtain ⟨_, hstatus⟩ := RetryPhase.verdict_eq_some_iff.mp ended
  constructor
  · exact haccounted
  · intro seq event hfound hreturned
    have hnumber := (InMemoryEventStore.find_eq_some_iff.mp hfound).2
    by_cases hseq : loaded = seq
    · obtain rfl := Option.some.inj ((hseq ▸ found).symm.trans hfound)
      refine .inl (.inr (.inr ?_))
      rw [hnumber, hseq, hstatus]
      simp [RetryPhase.decided, StoredEvent.finalStatus]
    · obtain hawaited | hfinal := h.settled hfound hreturned
      · obtain hfailed | hloads | hdecided := hawaited
        · exact .inl (.inl hfailed)
        · exact absurd (by simpa [hbefore, RetryPhase.loads, hnumber] using hloads) hseq
        · simp [hbefore, RetryPhase.decided] at hdecided
      · exact .inr ⟨by simp [RetryPhase.decided, hseq], hfinal.2⟩
  · intro i d event hat hactive hnone hfound
    obtain ⟨hdelivered, hloads, _⟩ := h.clean hat hactive hnone hfound
    have hne : loaded ≠ d.seq := by simpa [hbefore, RetryPhase.loads] using hloads
    exact ⟨hdelivered, rfl, by simp [RetryPhase.decided, hne]⟩
  · exact h.failing
  · exact h.closing
  · intro seq hfinalizing
    obtain rfl : loaded = seq := by
      simpa [RetryPhase.loads, RetryPhase.decided] using hfinalizing
    exact ⟨event₀, found⟩

/-- The retry task leaves an event alone that has a failed delivery. -/
theorem skipRetry {input : RetryInput} (hok : input.storeOk = true)
    (hbefore : system.retry = .loading loaded todo)
    (unfinished : input.storeOk = true →
      (system.bus.store.find loaded).bind RetryPhase.verdict = none)
    (haccounted : Accounted config { system with retry := .working todo }) :
    Finalized config { system with retry := .working todo } := by
  constructor
  · exact haccounted
  · intro seq event hfound hreturned
    have hnumber := (InMemoryEventStore.find_eq_some_iff.mp hfound).2
    obtain hawaited | hfinal := h.settled hfound hreturned
    · obtain hfailed | hloads | hdecided := hawaited
      · exact .inl (.inl hfailed)
      · obtain rfl : loaded = seq := by
          simpa [hbefore, RetryPhase.loads, hnumber] using hloads
        cases hfailed : event.hasFailed with
        | true => exact .inl (.inl hfailed)
        | false =>
          have hverdict := (h.accounted.decided hfound).verdict hfailed
          have hnone := unfinished hok
          simp [hfound, Option.bind_some, hverdict] at hnone
      · simp [hbefore, RetryPhase.decided] at hdecided
    · exact .inr ⟨rfl, hfinal.2⟩
  · exact fun hat hactive hnone hfound ↦ ⟨(h.clean hat hactive hnone hfound).1, rfl, rfl⟩
  · exact h.failing
  · exact h.closing
  · intro seq hfinalizing
    simp [RetryPhase.loads, RetryPhase.decided] at hfinalizing

/-- The retry task writes the status it decided on. -/
theorem finalizeRetry {input : RetryInput} (hok : input.storeOk = true) {written : ℕ}
    (hbefore : system.retry = .finalizing written status todo)
    (haccounted : Accounted config { system with
      bus := system.bus.updateStatus input.storeOk written status
      retry := .working todo }) :
    Finalized config { system with
      bus := system.bus.updateStatus input.storeOk written status
      retry := .working todo } := by
  have hdisjoint := h.accounted.disjoint
  constructor
  · exact haccounted
  · intro seq event hfound hreturned
    simp only [Bus.updateStatus, hok, if_true, InMemoryEventStore.find_updateStatus] at hfound
    split_ifs at hfound with hseq
    · obtain ⟨old, hold, rfl⟩ := Option.map_eq_some_iff.mp hfound
      have hnumber := (InMemoryEventStore.find_eq_some_iff.mp hold).2
      obtain hawaited | hfinal := h.settled hold hreturned
      · obtain hfailed | hloads | hdecided := hawaited
        · exact .inl (.inl hfailed)
        · simp [hbefore, RetryPhase.loads] at hloads
        · have hright : status = old.finalStatus := by
            simpa [hbefore, RetryPhase.decided, hnumber, hseq] using hdecided
          exact .inr ⟨rfl, hright⟩
      · have hdecided := hfinal.1
        simp [hbefore, RetryPhase.decided, hseq] at hdecided
    · obtain hawaited | hfinal := h.settled hfound hreturned
      · have hnumber := (InMemoryEventStore.find_eq_some_iff.mp hfound).2
        obtain hfailed | hloads | hdecided := hawaited
        · exact .inl (.inl hfailed)
        · simp [hbefore, RetryPhase.loads] at hloads
        · simp [hbefore, RetryPhase.decided, hnumber, Ne.symm hseq] at hdecided
      · exact .inr ⟨rfl, hfinal.2⟩
  · intro i d event hat hactive hnone hfound
    have hne : d.seq ≠ written := by
      obtain ⟨old, hold, _⟩ := (hdisjoint.owns hat hactive).stored
      have hdecided := (h.clean hat hactive hnone hold).2.2
      rintro rfl
      simp [hbefore, RetryPhase.decided] at hdecided
    simp only [Bus.updateStatus, hok, if_true, InMemoryEventStore.find_updateStatus,
      if_neg hne] at hfound
    exact ⟨(h.clean hat hactive hnone hfound).1, rfl, rfl⟩
  · exact h.failing
  · exact h.closing
  · intro seq hfinalizing
    simp [RetryPhase.loads, RetryPhase.decided] at hfinalizing

theorem retry {input : RetryInput} {phase : RetryPhase} (hok : input.storeOk = true)
    (hchange : RetryPhase.Change config input system.bus system.retry bus phase)
    (haccounted : Accounted config { system with bus, retry := phase }) :
    Finalized config { system with bus, retry := phase } := by
  generalize hbefore : system.retry = before at hchange
  cases hchange with
  | rest | exhausted | lookUp =>
    apply h.of_same haccounted rfl rfl
    all_goals exact fun seq ↦ by rw [hbefore]; rfl
  | attempt turn =>
    apply h.of_same haccounted turn.answered.store rfl
    all_goals exact fun seq ↦ by rw [hbefore]; cases turn <;> rfl
  | record => exact h.recordRetry hok hbefore haccounted
  | load found ended => exact h.loadRetry hbefore found ended haccounted
  | skip unfinished => exact h.skipRetry hok hbefore unfinished haccounted
  | finalize => exact h.finalizeRetry hok hbefore haccounted

theorem compact {olderThan : ℕ} (hguard : system.LeavesFinalStatus (.compact olderThan))
    (haccounted : Accounted config { system with bus := { system.bus with
      store := (system.bus.store.compact system.bus.clock olderThan).2 } }) :
    Finalized config { system with bus := { system.bus with
      store := (system.bus.store.compact system.bus.clock olderThan).2 } } := by
  have hold {seq : ℕ} {event : StoredEvent}
      (hfound : (system.bus.store.compact system.bus.clock olderThan).2.find seq = some event) :
      system.bus.store.find seq = some event := by
    rw [InMemoryEventStore.find_compact] at hfound
    exact (Option.filter_eq_some_iff.mp hfound).1
  constructor
  · exact haccounted
  · exact fun hfound ↦ h.settled (hold hfound)
  · exact fun hat hactive hnone hfound ↦ h.clean hat hactive hnone (hold hfound)
  · exact h.failing
  · exact h.closing
  · intro seq hfinalizing
    obtain ⟨event, hfound⟩ := h.stored hfinalizing
    obtain ⟨hmem, hseq⟩ := InMemoryEventStore.find_eq_some_iff.mp hfound
    have hkept := hguard.2 event hmem (hseq ▸ hfinalizing)
    exact ⟨event, by simp only [InMemoryEventStore.find_compact, hfound, Option.filter_some, hkept]
                     rfl⟩

theorem step (hmax : 2 ≤ config.retry.maxAttempts) {label : Label}
    (hguard : system.LeavesFinalStatus label) (hstep : System.step config system label = some next) :
    next.Finalized config := by
  have haccounted := h.accounted.step hmax hguard.1.1 hguard.1.2 hstep
  cases change_of_step hstep with
  | quiet quiet =>
    exact h.of_same haccounted quiet.store quiet.dispatches (fun _ ↦ by rw [quiet.retry])
      fun _ ↦ by rw [quiet.retry]
  | publish fresh starts => exact h.publish fresh.1 starts rfl rfl rfl haccounted
  | publishReply starts => exact h.publishReply starts haccounted
  | dispatch at_i running =>
    exact h.dispatch hguard at_i (Dispatch.change_of_step _ _ _ running) haccounted
  | poll idle =>
    apply h.of_same haccounted rfl rfl
    all_goals
      intro seq
      cases hphase : system.retry with
      | idle => rfl
      | _ => simp [hphase, RetryPhase.isIdle] at idle
  | retry busy => exact h.retry hguard.1.1 (RetryPhase.change_of_step _ _ _ busy) haccounted
  | compact => exact h.compact hguard haccounted

end

end Finalized

instance (system : System) (label : Label) : Decidable (LeavesFinalStatus system label) := by
  induction label using Label.casesOn <;> dsimp only [LeavesFinalStatus] <;> infer_instance

/-- In a run whose dispatches leave to the retry task what they did not finish themselves, an event
whose dispatch has returned, none of whose deliveries is failed, and which the retry task is not
just finalizing, is dead-lettered if one of its deliveries is and delivered otherwise. -/
theorem finalization_complete (config : Config) (hmax : 2 ≤ config.retry.maxAttempts) (clock : ℕ)
    {system : System}
    (hreach : Steps.Reach (step config) LeavesFinalStatus (build .empty clock) system) :
    ∀ event ∈ system.bus.store.events,
      (∀ d ∈ system.dispatches, d.active = true → d.seq ≠ event.seq) →
      system.retry.loads event.seq = false → system.retry.decided event.seq = none →
      (∀ record ∈ event.deliveries, record.status ≠ .failed) →
      ((∀ record ∈ event.deliveries, record.status = .delivered) → event.status = .delivered) ∧
      ((∃ record ∈ event.deliveries, record.status = .deadLettered) →
        event.status = .deadLettered) ∧
      event.status ≠ .pending ∧ event.status ≠ .dispatching ∧
      event.status ≠ .partiallyDelivered := by
  have h : system.Finalized config :=
    hreach.invariant (finalized_build config clock) fun _ _ _ h hguard hstep ↦
      h.step hmax hguard hstep
  intro event hmem hreturned hloads hdecided hnone
  have hfinal : event.status = event.finalStatus := by
    obtain hawaited | hfinal := h.settled (InMemoryEventStore.find_of_mem hmem) hreturned
    · obtain hfailed | hloading | hdeciding := hawaited
      · obtain ⟨record, hrecord, hstatus⟩ := List.any_eq_true.mp hfailed
        exact absurd (by simpa using hstatus) (hnone record hrecord)
      · simp [hloads] at hloading
      · simp [hdecided] at hdeciding
    · exact hfinal.2
  refine ⟨fun hall ↦ ?_, fun hdead ↦ ?_, ?_⟩
  · rw [hfinal]
    exact StoredEvent.finalStatus_of_not_hasDeadLettered
      (StoredEvent.AllDelivered.hasDeadLettered hall)
  · obtain ⟨record, hrecord, hstatus⟩ := hdead
    have hany : event.deliveries.any (·.status = .deadLettered) = true :=
      List.any_eq_true.mpr ⟨record, hrecord, by simp [hstatus]⟩
    rw [hfinal, StoredEvent.finalStatus, if_pos hany]
  · rw [hfinal, StoredEvent.finalStatus]
    split_ifs
    · decide
    · decide

/-- A channel is dropped while its event is dispatched, and its subscriber leaves before the
retry. -/
def retriedAfterLeaving : List Label :=
  [.inProcess "s" "a" .async 10, .closeChannel "s", .publishByte "a" 1] ++
    List.replicate 7 (.turn 0 .timedOut) ++ [.unsubscribe "s", .tick 1000, .poll] ++
    List.replicate 5 .retryTurn

theorem finalization_complete_retriedAfterLeaving :
    ∃ system, Steps.execute (step (.plain 5)) (build .empty 0) retriedAfterLeaving = some system ∧
      ∀ event ∈ system.bus.store.events,
        (∀ d ∈ system.dispatches, d.active = true → d.seq ≠ event.seq) →
        system.retry.loads event.seq = false → system.retry.decided event.seq = none →
        (∀ record ∈ event.deliveries, record.status ≠ .failed) →
        (∃ record ∈ event.deliveries, record.status = .deadLettered) →
          event.status = .deadLettered := by
  obtain ⟨system, hsystem⟩ := Option.isSome_iff_exists.mp
    (show (Steps.execute (step (.plain 5)) (build .empty 0) retriedAfterLeaving).isSome = true by
      decide +kernel)
  have hreach : Steps.Reach (step (.plain 5)) LeavesFinalStatus (build .empty 0) system :=
    Steps.reach_of_execute (by decide +kernel) hsystem
  exact ⟨system, hsystem, fun event hmem hreturned hloads hdecided hnone ↦
    (finalization_complete (.plain 5) (by decide) 0 hreach event hmem hreturned hloads hdecided
      hnone).2.1⟩

/-- The only subscriber is an interceptor that panics. -/
def panickingInterceptor : List Label :=
  [.intercept "i" "a" 10 none, .publishByte "a" 1] ++ List.replicate 7 (.turn 0 .panicked) ++
    [.tick 1000, .poll, .retryTurn]

/-- The event stays partially delivered, with nothing left to retry. -/
theorem panickingInterceptor_unfinished :
    ∃ system, Steps.Reach (step (.plain 5)) Orderly (build .empty 0) system ∧
      ∃ event ∈ system.bus.store.events,
        (∀ d ∈ system.dispatches, d.stage.isReturned = true) ∧ system.retry.isIdle = true ∧
        (∀ record ∈ event.deliveries, record.status ≠ .failed) ∧
        (∃ record ∈ event.deliveries, record.status = .deadLettered) ∧
        event.status = .partiallyDelivered := by
  have hexecute : ∃ system ∈ Steps.execute (step (.plain 5)) (build .empty 0) panickingInterceptor,
      ∃ event ∈ system.bus.store.events,
        (∀ d ∈ system.dispatches, d.stage.isReturned = true) ∧ system.retry.isIdle = true ∧
        (∀ record ∈ event.deliveries, record.status ≠ .failed) ∧
        (∃ record ∈ event.deliveries, record.status = .deadLettered) ∧
        event.status = .partiallyDelivered := by
    decide +kernel
  obtain ⟨system, hsystem, hunfinished⟩ := hexecute
  exact ⟨system, Steps.reach_of_execute (by decide +kernel) hsystem, hunfinished⟩

end System

end Seidrum.EventBus
