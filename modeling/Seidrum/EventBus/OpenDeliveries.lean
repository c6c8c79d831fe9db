import Seidrum.EventBus.Disjoint

/-!
# Deliveries abandoned by the status of their event

A delivery is open while it is failed and has attempts left.  An event that is delivered or
dead-lettered should have no open delivery, since compaction looks at the status alone.  Statuses
and records are written by different parties in any order, and two of the orders break this: an
interceptor drops an event after a send of the same dispatch failed, and a dispatch records a failed
send after the retry task has decided the status of the event.  In every run that avoids the two,
and whose compactions spare the events in flight, no delivery is abandoned.
-/

namespace Seidrum.EventBus

open Seidrum.Foundation

/-- Failed, with attempts left; due or not. -/
def DeliveryRecord.isOpen (maxAttempts : ℕ) (record : DeliveryRecord) : Bool :=
  record.status = .failed ∧ record.attempts < maxAttempts

namespace StoredEvent

def hasOpen (maxAttempts : ℕ) (event : StoredEvent) : Bool :=
  event.deliveries.any (·.isOpen maxAttempts)

variable {maxAttempts : ℕ} {event : StoredEvent}

theorem hasOpen_eq_false_iff : event.hasOpen maxAttempts = false ↔
    ∀ record ∈ event.deliveries, record.status = .failed → maxAttempts ≤ record.attempts := by
  simp [hasOpen, DeliveryRecord.isOpen]

/-- An outcome other than a failure opens nothing. -/
theorem hasOpen_withDelivery (h : event.hasOpen maxAttempts = false) {status : DeliveryStatus}
    (hstatus : status ≠ .failed) (now : ℕ) (subscriberId : String) (error : Option String)
    (nextRetry : Option ℕ) :
    (event.withDelivery now subscriberId status error nextRetry).hasOpen maxAttempts = false := by
  rw [hasOpen_eq_false_iff] at h ⊢
  unfold withDelivery
  simp only
  revert h
  induction event.deliveries with
  | nil =>
    intro _ record hmem hfailed
    rw [List.mem_singleton.mp hmem] at hfailed
    exact absurd hfailed hstatus
  | cons first rest ih =>
    intro h
    obtain ⟨hfirst, hrest⟩ := List.forall_mem_cons.mp h
    unfold recordIn
    split_ifs
    · refine List.forall_mem_cons.mpr ⟨fun hfailed ↦ ?_, hrest⟩
      exact absurd hfailed hstatus
    · exact List.forall_mem_cons.mpr ⟨hfirst, ih hrest⟩

/-- The retry task finalizes no event with an open delivery. -/
theorem hasOpen_of_verdict {status : EventStatus} (h : RetryPhase.verdict event = some status) :
    event.hasOpen maxAttempts = false := by
  have hover := (RetryPhase.verdict_eq_some_iff.mp h).1
  apply hasOpen_eq_false_iff.mpr
  intro record hmem hfailed
  obtain hstatus | hstatus := hover record hmem
  all_goals
    simp [hfailed] at hstatus

theorem hasOpen_of_fresh (h : event.deliveries = []) : event.hasOpen maxAttempts = false := by
  simp [hasOpen, h]

end StoredEvent

theorem RetryableDelivery.Current.hasOpen {config : Config} {store : InMemoryEventStore}
    {item : RetryableDelivery} (h : item.Current config store) {event : StoredEvent}
    (hfound : store.find item.seq = some event) :
    event.hasOpen config.retry.maxAttempts = true := by
  obtain ⟨stored, record, hstored, hrecord, hfailed, hattempts, hleft, _⟩ := h
  obtain rfl := Option.some.inj (hfound.symm.trans hstored)
  apply List.any_eq_true.mpr
  refine ⟨record, (StoredEvent.mem_of_recordOf hrecord).1, ?_⟩
  simp [DeliveryRecord.isOpen, hfailed, hattempts, hleft]

/-! ## Runs that abandon nothing -/

namespace System

/-- A write of a dispatch abandons nothing: the dispatch ends early after a failure only if nothing
is open, and it records a failure only while the retry task has not decided the status of its
event. -/
def WriteKeepsOpen (config : Config) (system : System) (d : Dispatch) : Stage → Prop
  | .close _ => d.anyFailed = true → ∀ event ∈ system.bus.store.find d.seq,
      event.hasOpen config.retry.maxAttempts = false
  | .record report _ => report.status = .failed → system.retry.finalizes d.seq = false ∧
      ∀ event ∈ system.bus.store.find d.seq, event.status.isTerminal = false
  | _ => True

instance (config : Config) (system : System) (d : Dispatch) (stage : Stage) :
    Decidable (WriteKeepsOpen config system d stage) := by
  cases stage <;> unfold WriteKeepsOpen <;> infer_instance

/-- The step takes none of the ways in which a delivery is abandoned; a compaction spares the events
in flight. -/
def KeepsOpen (config : Config) (system : System) : Label → Prop
  | .dispatch i input => ∀ d ∈ system.dispatches[i]?, d.writes input = true →
      WriteKeepsOpen config system d d.stage
  | .compact olderThan => ∀ event ∈ system.bus.store.events,
      (∃ d ∈ system.dispatches, d.active = true ∧ d.seq = event.seq) →
        event.isCompactable (system.bus.clock - olderThan) = false
  | _ => True

instance (config : Config) (system : System) (label : Label) :
    Decidable (KeepsOpen config system label) := by
  induction label using Label.casesOn <;> dsimp only [KeepsOpen] <;> infer_instance

/-- No delivery is abandoned, and none is about to be. -/
structure NoneAbandoned (config : Config) (system : System) : Prop where
  disjoint : system.Disjoint config
  terminal {seq : ℕ} {event : StoredEvent} (found : system.bus.store.find seq = some event)
    (ended : event.status.isTerminal = true) : event.hasOpen config.retry.maxAttempts = false
  finalizing {seq : ℕ} {event : StoredEvent} (finalizes : system.retry.finalizes seq = true)
    (found : system.bus.store.find seq = some event) :
    event.hasOpen config.retry.maxAttempts = false
  clean {i : ℕ} {d : Dispatch} {event : StoredEvent} (at_i : system.dispatches[i]? = some d)
    (active : d.active = true) (none_failed : d.anyFailed = false)
    (found : system.bus.store.find d.seq = some event) :
    event.hasOpen config.retry.maxAttempts = false
  failing {i : ℕ} {d : Dispatch} {report : Report} {next : Stage}
    (at_i : system.dispatches[i]? = some d) (active : d.active = true)
    (stage : d.stage = .record report next) (failed : report.status = .failed) :
    d.anyFailed = true

theorem noneAbandoned_build (config : Config) (clock : ℕ) :
    (build .empty clock).NoneAbandoned config where
  disjoint := disjoint_build config clock
  terminal found := by simp [build, Bus.onStore, InMemoryEventStore.find,
    InMemoryEventStore.empty] at found
  finalizing := by simp [build, RetryPhase.finalizes]
  clean := by simp [build]
  failing := by simp [build]

namespace NoneAbandoned

variable {config : Config} {system next : System} {label : Label} {seq changed : ℕ}
  {event : StoredEvent} {ok : Bool} {bus : Bus}

/-- The retry task holds deliveries of unfinished events only, so compaction spares them. -/
theorem sparesInUse (h : system.NoneAbandoned config) (hguard : system.KeepsOpen config label) :
    system.SparesInUse label := by
  cases label with
  | compact olderThan =>
    rintro event hmem (hdispatch | ⟨item, hitem, hseq⟩)
    · exact hguard event hmem hdispatch
    · have hfound := InMemoryEventStore.find_of_mem hmem
      have hopen := (h.disjoint.current hitem).hasOpen (hseq ▸ hfound)
      cases hterminal : event.status.isTerminal with
      | true =>
        simp [h.terminal hfound hterminal] at hopen
      | false => simp [StoredEvent.isCompactable, hterminal]
  | _ => exact trivial

/-- An event after a step: it has nothing open, or opens nothing and is not newly finished, or it is
unfinished and everybody knows of its failure. -/
def Covered (config : Config) (system next : System) (seq : ℕ) (event : StoredEvent) : Prop :=
  event.hasOpen config.retry.maxAttempts = false ∨
  (∃ old, system.bus.store.find seq = some old ∧
    (old.hasOpen config.retry.maxAttempts = false →
      event.hasOpen config.retry.maxAttempts = false) ∧
    (event.status.isTerminal = true → old.status.isTerminal = true)) ∨
  (event.status.isTerminal = false ∧ next.retry.finalizes seq = false ∧
    ∀ (i : ℕ) (e : Dispatch), next.dispatches[i]? = some e → e.active = true → e.seq = seq →
      e.anyFailed = true)

theorem of_events (h : system.NoneAbandoned config) (hdisjoint : next.Disjoint config)
    (hevents : ∀ seq event, next.bus.store.find seq = some event →
      Covered config system next seq event)
    (hfinalizes : ∀ seq, next.retry.finalizes seq = true → system.retry.finalizes seq = true ∨
      ∀ event, next.bus.store.find seq = some event →
        event.hasOpen config.retry.maxAttempts = false)
    (hclean : ∀ (i : ℕ) (e : Dispatch), next.dispatches[i]? = some e → e.active = true →
      e.anyFailed = false →
      (∃ d : Dispatch, system.dispatches[i]? = some d ∧ d.active = true ∧ d.seq = e.seq ∧
        d.anyFailed = false) ∨
      ∀ event, next.bus.store.find e.seq = some event →
        event.hasOpen config.retry.maxAttempts = false)
    (hfailing : ∀ (i : ℕ) (e : Dispatch) report rest, next.dispatches[i]? = some e → e.active = true →
      e.stage = .record report rest → report.status = .failed → e.anyFailed = true) :
    next.NoneAbandoned config where
  disjoint := hdisjoint
  terminal {seq event} hfound hover := by
    obtain hnone | ⟨old, hold, hkept, hstatus⟩ | ⟨hopen, _⟩ := hevents seq event hfound
    · exact hnone
    · exact hkept (h.terminal hold (hstatus hover))
    · simp [hopen] at hover
  finalizing {seq event} hfinal hfound := by
    obtain hbefore | hnone := hfinalizes seq hfinal
    · obtain hnone | ⟨old, hold, hkept, _⟩ | ⟨_, hnot, _⟩ := hevents seq event hfound
      · exact hnone
      · exact hkept (h.finalizing hbefore hold)
      · simp [hnot] at hfinal
    · exact hnone event hfound
  clean {i e event} hat hactive hfailed hfound := by
    obtain ⟨d, hatd, hactived, hseq, hnotFailed⟩ | hnone := hclean i e hat hactive hfailed
    · obtain hnone | ⟨old, hold, hkept, _⟩ | ⟨_, _, hknown⟩ := hevents e.seq event hfound
      · exact hnone
      · exact hkept (h.clean hatd hactived hnotFailed (hseq ▸ hold))
      · simp [hknown i e hat hactive rfl] at hfailed
    · exact hnone event hfound
  failing hat hactive hstage hstatus := hfailing _ _ _ _ hat hactive hstage hstatus

theorem covered_of_find (hfound : system.bus.store.find seq = some event) :
    Covered config system next seq event :=
  .inr (.inl ⟨event, hfound, id, id⟩)

/-- An event whose status was written: to an unfinished one, or with nothing open. -/
theorem covered_of_updateStatus {status : EventStatus}
    (hfound : (system.bus.updateStatus ok changed status).store.find seq = some event)
    (hright : ok = true → status.isTerminal = true → ∀ old,
      system.bus.store.find changed = some old → old.hasOpen config.retry.maxAttempts = false) :
    Covered config system next seq event := by
  unfold Bus.updateStatus at hfound
  split_ifs at hfound with hok
  · simp only [InMemoryEventStore.find_updateStatus] at hfound
    split_ifs at hfound with hseq
    · obtain ⟨old, hold, rfl⟩ := Option.map_eq_some_iff.mp hfound
      cases hterminal : status.isTerminal with
      | true => exact .inl (hright hok hterminal old (hseq ▸ hold))
      | false => exact .inr (.inl ⟨old, hold, id, fun hover ↦
          absurd (hterminal.symm.trans hover) (by simp)⟩)
    · exact covered_of_find hfound
  · exact covered_of_find hfound

/-- An event to which an outcome was recorded, when a failure is covered. -/
theorem covered_of_recordDelivery {report : Report}
    (hfound : (system.bus.recordDelivery ok changed report).store.find seq = some event)
    (hfailed : ok = true → report.status = .failed → ∀ old,
      system.bus.store.find changed = some old →
        Covered config system next changed (old.withDelivery system.bus.clock report.subscriberId
          report.status report.error report.nextRetry)) : Covered config system next seq event := by
  unfold Bus.recordDelivery at hfound
  split_ifs at hfound with hok
  · simp only [InMemoryEventStore.find_recordDelivery] at hfound
    split_ifs at hfound with hseq
    · obtain ⟨old, hold, rfl⟩ := Option.map_eq_some_iff.mp hfound
      by_cases hstatus : report.status = .failed
      · rw [hseq] at hold ⊢
        exact hfailed hok hstatus old hold
      · exact .inr (.inl ⟨old, hold,
          fun hnone ↦ StoredEvent.hasOpen_withDelivery hnone hstatus _ _ _ _, id⟩)
    · exact covered_of_find hfound
  · exact covered_of_find hfound

theorem dispatch (h : system.NoneAbandoned config) {input : DispatchInput} {i : ℕ} {d d' : Dispatch}
    (hguard : system.KeepsOpen config (.dispatch i input)) (hat : system.dispatches[i]? = some d)
    (hchange : Dispatch.Change config input system.bus d bus d') :
    NoneAbandoned config { system with bus, dispatches := system.dispatches.set i d' } := by
  have hdisjoint := h.disjoint.dispatch hat hchange
  have hwrites (hw : d.writes input = true) : d.active = true := by
    simp only [Dispatch.writes, Bool.and_eq_true] at hw
    simp [Dispatch.active, hw.2, hchange.running]
  apply h.of_events hdisjoint
  · intro seq event hfound
    cases hchange with
    | resolve | snapshot | collect => exact covered_of_find hfound
    | mark => exact covered_of_updateStatus hfound fun _ hterminal ↦ absurd hterminal (by decide)
    | attempt turn =>
      have hstore : (d.finishAttempt config input _ _ _).1.store = system.bus.store := turn.store
      exact covered_of_find (hstore ▸ hfound)
    | @record report next stage =>
      apply covered_of_recordDelivery hfound
      intro hw hstatus old hold
      have hactive := hwrites hw
      have hallowed := hguard d hat hw
      rw [stage] at hallowed
      obtain ⟨hfinal, hopen⟩ := hallowed hstatus
      refine .inr (.inr ⟨hopen old hold, hfinal, fun j e hatj heactive heseq ↦ ?_⟩)
      obtain ⟨_, rfl⟩ | ⟨hij, hj⟩ := at_of_set hatj
      · have hknown := h.failing hat hactive stage hstatus
        exact hknown
      · exact absurd (h.disjoint.apart hat hj hactive heactive heseq.symm) hij
    | @finish status stage =>
      apply covered_of_updateStatus hfound
      intro hw hterminal old hold
      have hactive := hwrites hw
      cases hfailed : d.anyFailed with
      | false => exact h.clean hat hactive hfailed hold
      | true =>
        obtain hstage | ⟨_, rfl⟩ := stage
        · have hallowed := hguard d hat hw
          rw [hstage] at hallowed
          exact hallowed hfailed old hold
        · simp [Dispatch.finalStatus, hfailed, EventStatus.isTerminal] at hterminal
  · exact fun seq hfinal ↦ .inl hfinal
  · intro j e hatj hactive hfailed
    obtain ⟨hij, rfl⟩ | ⟨_, hj⟩ := at_of_set hatj
    · refine .inl ⟨d, hij ▸ hat, hchange.active_before hactive, hchange.same.seq.symm, ?_⟩
      exact hchange.anyFailed_before hfailed
    · exact .inl ⟨e, hj, hactive, rfl, hfailed⟩
  · intro j e report rest hatj hactive hstage hstatus
    obtain ⟨_, rfl⟩ | ⟨_, hj⟩ := at_of_set hatj
    · exact hchange.failing (h.disjoint.owns hat (hchange.active_before hactive)).follows hstage
        (by rw [hstatus]; decide)
    · exact h.failing hj hactive hstage hstatus

theorem retry (h : system.NoneAbandoned config) {input : RetryInput} {phase : RetryPhase}
    (hchange : RetryPhase.Change config input system.bus system.retry bus phase) :
    NoneAbandoned config { system with bus, retry := phase } := by
  have hdisjoint := h.disjoint.retry hchange
  apply h.of_events hdisjoint
  · intro seq event hfound
    generalize hbefore : system.retry = before at hchange
    cases hchange with
    | rest | exhausted | lookUp | load | skip => exact covered_of_find hfound
    | attempt turn => exact covered_of_find (turn.answered.store ▸ hfound)
    | @record item report todo =>
      apply covered_of_recordDelivery hfound
      intro _ _ old hold
      have hitem : item ∈ system.retry.items := by
        rw [hbefore]
        exact List.mem_cons_self
      -- a failed retry leaves the delivery as open as it was, on an event still unfinished
      have hopen := (h.disjoint.current hitem).hasOpen hold
      exact .inr (.inl ⟨old, hold, fun hnone ↦ absurd (hopen.symm.trans hnone) (by simp), id⟩)
    | finalize =>
      apply covered_of_updateStatus hfound
      intro _ _ old hold
      exact h.finalizing (by rw [hbefore]; simp [RetryPhase.finalizes]) hold
  · intro seq hfinal
    refine .inr fun event hfound ↦ ?_
    obtain ⟨rfl, old, status, todo, _, hold, hover⟩ := hchange.of_finalizes hfinal
    obtain rfl := Option.some.inj (hold.symm.trans hfound)
    exact StoredEvent.hasOpen_of_verdict hover
  · exact fun i e hat hactive hfailed ↦ .inl ⟨e, hat, hactive, rfl, hfailed⟩
  · exact fun i e report rest hat hactive hstage hstatus ↦ h.failing hat hactive hstage hstatus

theorem step (h : system.NoneAbandoned config) (hguard : system.KeepsOpen config label)
    (hstep : System.step config system label = some next) : next.NoneAbandoned config := by
  have hdisjoint := h.disjoint.step (h.sparesInUse hguard) hstep
  have hsame (i : ℕ) (e : Dispatch) (hat : system.dispatches[i]? = some e)
      (hactive : e.active = true) (hfailed : e.anyFailed = false) :
      ∃ d : Dispatch, system.dispatches[i]? = some d ∧ d.active = true ∧ d.seq = e.seq ∧
        d.anyFailed = false := ⟨e, hat, hactive, rfl, hfailed⟩
  cases change_of_step hstep with
  | quiet quiet =>
    apply h.of_events hdisjoint
    · exact fun seq event hfound ↦ covered_of_find (quiet.store ▸ hfound)
    · exact fun seq hfinal ↦ .inl (quiet.retry ▸ hfinal)
    · intro i e hat hactive hfailed
      rw [quiet.dispatches] at hat
      exact .inl (hsame i e hat hactive hfailed)
    · intro i e report rest hat
      rw [quiet.dispatches] at hat
      exact h.failing hat
  | @publish _ event d fresh starts =>
    have hnew : ({ event with seq := system.bus.store.nextSeq, storedAt := system.bus.clock } :
        StoredEvent).hasOpen config.retry.maxAttempts = false :=
      StoredEvent.hasOpen_of_fresh fresh.1
    apply h.of_events hdisjoint
    · intro seq stored hfound
      simp only [InMemoryEventStore.find_append] at hfound
      split_ifs at hfound
      · cases hfound
        exact .inl hnew
      · exact covered_of_find hfound
    · exact fun seq hfinal ↦ .inl hfinal
    · intro i e hat hactive hfailed
      obtain hold | ⟨_, rfl⟩ := at_of_concat hat
      · exact .inl (hsame i e hold hactive hfailed)
      · refine .inr fun stored hfound ↦ ?_
        simp only [InMemoryEventStore.find_append, starts.seq] at hfound
        cases hfound
        exact hnew
    · intro i e report rest hat hactive hstage
      obtain hold | ⟨_, rfl⟩ := at_of_concat hat
      · exact h.failing hold hactive hstage
      · simp [starts.stage] at hstage
  | @publishReply _ event d starts =>
    have hold {i : ℕ} {e : Dispatch} (hat : (system.dispatches ++ [d])[i]? = some e)
        (hactive : e.active = true) : system.dispatches[i]? = some e := by
      obtain hold | ⟨_, rfl⟩ := at_of_concat hat
      · exact hold
      · simp [Dispatch.active, starts.isReply] at hactive
    apply h.of_events hdisjoint
    · exact fun seq event hfound ↦ covered_of_find hfound
    · exact fun seq hfinal ↦ .inl hfinal
    · exact fun i e hat hactive hfailed ↦ .inl (hsame i e (hold hat hactive) hactive hfailed)
    · exact fun i e report rest hat hactive ↦ h.failing (hold hat hactive) hactive
  | dispatch at_i running =>
    exact h.dispatch hguard at_i (Dispatch.change_of_step _ _ _ running)
  | poll =>
    apply h.of_events hdisjoint
    · exact fun seq event hfound ↦ covered_of_find hfound
    · intro seq hfinal
      simp [RetryPhase.poll, RetryPhase.finalizes] at hfinal
    · exact fun i e hat hactive hfailed ↦ .inl (hsame i e hat hactive hfailed)
    · exact fun i e report rest hat ↦ h.failing hat
  | retry busy => exact h.retry (RetryPhase.change_of_step _ _ _ busy)
  | compact =>
    apply h.of_events hdisjoint
    · intro seq event hfound
      simp only [InMemoryEventStore.find_compact] at hfound
      exact covered_of_find (Option.filter_eq_some_iff.mp hfound).1
    · exact fun seq hfinal ↦ .inl hfinal
    · exact fun i e hat hactive hfailed ↦ .inl (hsame i e hat hactive hfailed)
    · exact fun i e report rest hat ↦ h.failing hat

end NoneAbandoned

/-- In a run that takes none of the ways to abandon a delivery, no finished event has an open
delivery, and compaction deletes no event that a query for retries could still return. -/
theorem finished_events_not_open (config : Config) (clock : ℕ) {system : System}
    (hreach : Steps.Reach (step config) (KeepsOpen config) (build .empty clock) system) :
    ∀ event ∈ system.bus.store.events,
      (event.status = .delivered ∨ event.status = .deadLettered →
        ∀ record ∈ event.deliveries, record.status = .failed →
          config.retry.maxAttempts ≤ record.attempts) ∧
      ∀ now olderThan, event ∉ (system.bus.store.compact now olderThan).2.events →
        ∀ later limit, ∀ item ∈ system.bus.store.queryRetryable later config.retry.maxAttempts limit,
          item.seq ≠ event.seq := by
  have h : system.NoneAbandoned config :=
    hreach.invariant (noneAbandoned_build config clock) fun _ _ _ h hguard hstep ↦
      h.step hguard hstep
  intro event hmem
  have hfound := InMemoryEventStore.find_of_mem hmem
  constructor
  · intro hstatus
    apply StoredEvent.hasOpen_eq_false_iff.mp
    apply h.terminal hfound
    obtain hstatus | hstatus := hstatus
    all_goals
      rw [hstatus]
      rfl
  · intro now olderThan hdeleted later limit item hitem hseq
    have hterminal : event.status.isTerminal = true := by
      by_contra hopen
      apply hdeleted
      apply InMemoryEventStore.mem_retain.mpr
      exact ⟨hmem, by simp [StoredEvent.isCompactable, hopen]⟩
    have hcurrent := InMemoryEventStore.current_of_mem_queryRetryable config h.disjoint.records hitem
    have hopen := hcurrent.hasOpen (hseq ▸ hfound)
    simp [h.terminal hfound hterminal] at hopen

/-- A delivery fails in the fan-out, and fails again when it is retried. -/
def failedTwice : List Label :=
  [.inProcess "s" "a" .async 10, .publishByte "a" 1, .turn 0 .timedOut, .turn 0 .timedOut,
    .turn 0 .timedOut, .turn 0 .timedOut, .closeChannel "s"] ++
    List.replicate 3 (.turn 0 .timedOut) ++ [.tick 1000, .poll] ++ List.replicate 4 .retryTurn ++
    [.compact 0]

theorem finished_events_not_open_failedTwice :
    ∃ system, Steps.execute (step (.plain 5)) (build .empty 0) failedTwice = some system ∧
      ∀ event ∈ system.bus.store.events,
        event.status = .delivered ∨ event.status = .deadLettered →
          ∀ record ∈ event.deliveries, record.status = .failed → 5 ≤ record.attempts := by
  obtain ⟨system, hsystem⟩ := Option.isSome_iff_exists.mp
    (show (Steps.execute (step (.plain 5)) (build .empty 0) failedTwice).isSome = true by
      decide +kernel)
  have hreach : Steps.Reach (step (.plain 5)) (KeepsOpen (.plain 5)) (build .empty 0) system :=
    Steps.reach_of_execute (by decide +kernel) hsystem
  exact ⟨system, hsystem, fun event hmem ↦
    (finished_events_not_open (.plain 5) 0 hreach event hmem).1⟩

/-- A sync send fails, then an interceptor drops the event. -/
def droppedAfterFailure : List Label :=
  [.inProcess "s" "a" .sync 1, .closeChannel "s", .intercept "i" "a" 2 none, .publishByte "a" 1] ++
    List.replicate 5 (.turn 0 .timedOut) ++
    List.replicate 3 (.turn 0 (.completed .drop [1])) ++ [.tick 1000]

/-- The dropped event is delivered with a delivery that is due, and compaction deletes it. -/
theorem droppedAfterFailure_abandons :
    ∃ system, Steps.Reach (step (.plain 5)) Orderly (build .empty 0) system ∧
      ∃ event ∈ system.bus.store.events, event.status = .delivered ∧
        (∃ record ∈ event.deliveries, record.status = .failed ∧ record.attempts < 5) ∧
        event ∉ (system.bus.store.compact system.bus.clock 500).2.events ∧
        ∃ item ∈ system.bus.store.queryRetryable system.bus.clock 5 256,
          item.seq = event.seq := by
  have hexecute : ∃ system ∈ Steps.execute (step (.plain 5)) (build .empty 0) droppedAfterFailure,
      ∃ event ∈ system.bus.store.events, event.status = .delivered ∧
        (∃ record ∈ event.deliveries, record.status = .failed ∧ record.attempts < 5) ∧
        event ∉ (system.bus.store.compact system.bus.clock 500).2.events ∧
        ∃ item ∈ system.bus.store.queryRetryable system.bus.clock 5 256,
          item.seq = event.seq := by
    decide +kernel
  obtain ⟨system, hsystem, habandoned⟩ := hexecute
  exact ⟨system, Steps.reach_of_execute (by decide +kernel) hsystem, habandoned⟩

end System

end Seidrum.EventBus
