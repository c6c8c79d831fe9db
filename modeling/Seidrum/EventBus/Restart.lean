import Seidrum.EventBus.Disjoint

/-!
# What a restart does with the events it finds

A bus that stops keeps its store and loses everything else: its dispatches, its registrations and
what the retry task held.  The builder starts a new engine on the store without reading it, and a
dispatch only ever starts with a publish, which takes a new number; so the events whose dispatch was
cut short are not taken up again.  The retry task may still find failed deliveries of such an event;
an event without any stays as it is.
-/

namespace Seidrum.EventBus

open Seidrum.Foundation

/-- The dispatch of the event has not come to its end. -/
def EventStatus.isUnfinished : EventStatus → Bool
  | .pending | .dispatching => true
  | .delivered | .partiallyDelivered | .deadLettered => false

theorem EventStatus.isTerminal_of_isUnfinished {status : EventStatus}
    (h : status.isUnfinished = true) : status.isTerminal = false := by
  cases status with
  | pending | dispatching => rfl
  | delivered => simp [isUnfinished] at h
  | partiallyDelivered => rfl
  | deadLettered => simp [isUnfinished] at h

namespace System

/-- The bus built again on the store of one that stopped. -/
def restart (now : ℕ) (system : System) : System := build system.bus.store now

/-- A dispatch of a stored event has been started. -/
def Redispatched (seq : ℕ) (system : System) : Prop :=
  ∃ d ∈ system.dispatches, d.isReply = false ∧ d.seq = seq

/-- Compaction does not remove the event. -/
def Spares (seq : ℕ) (system : System) : Label → Prop
  | .compact olderThan => ∀ event, system.bus.store.find seq = some event →
      event.isCompactable (system.bus.clock - olderThan) = false
  | _ => True

/-- The event is stored, and no dispatch is about it. -/
structure Left (seq : ℕ) (system : System) : Prop where
  stored : ∃ event, system.bus.store.find seq = some event
  notRedispatched : ¬ system.Redispatched seq

variable {system : System} {seq : ℕ} {event : StoredEvent} {store : InMemoryEventStore}
  {d : Dispatch} {bus : Bus}

theorem left_restart (now : ℕ) (hfound : system.bus.store.find seq = some event) :
    (system.restart now).Left seq where
  stored := ⟨event, hfound⟩
  notRedispatched := by simp [Redispatched, restart, build]

theorem exists_find_updateStatus (h : ∃ event, store.find seq = some event) (changed : ℕ)
    (status : EventStatus) :
    ∃ event, (store.updateStatus changed status).2.find seq = some event := by
  obtain ⟨event, hfound⟩ := h
  rw [InMemoryEventStore.find_updateStatus, hfound]
  split_ifs
  · exact ⟨_, rfl⟩
  · exact ⟨event, rfl⟩

theorem exists_find_recordDelivery (h : ∃ event, store.find seq = some event) (now changed : ℕ)
    (subscriberId : String) (status : DeliveryStatus) (error : Option String)
    (nextRetry : Option ℕ) :
    ∃ event, (store.recordDelivery now changed subscriberId status error nextRetry).2.find seq =
      some event := by
  obtain ⟨event, hfound⟩ := h
  rw [InMemoryEventStore.find_recordDelivery, hfound]
  split_ifs
  · exact ⟨_, rfl⟩
  · exact ⟨event, rfl⟩

theorem ne_nextSeq_of_find (h : store.find seq = some event) : seq ≠ store.nextSeq := by
  obtain ⟨hmem, hseq⟩ := InMemoryEventStore.find_eq_some_iff.mp h
  rw [← hseq]
  exact (InMemoryEventStore.seq_lt_nextSeq hmem).ne

theorem not_redispatched_concat (h : ¬ system.Redispatched seq)
    (hd : d.isReply = false → d.seq ≠ seq) :
    ¬ Redispatched seq { system with bus, dispatches := system.dispatches ++ [d] } := by
  rintro ⟨e, hmem, hpersisted, hseq⟩
  obtain hold | hnew := List.mem_append.mp hmem
  · exact h ⟨e, hold, hpersisted, hseq⟩
  · rw [List.mem_singleton.mp hnew] at hpersisted hseq
    exact hd hpersisted hseq

theorem not_redispatched_set {i : ℕ} {d' : Dispatch} (h : ¬ system.Redispatched seq)
    (hat : system.dispatches[i]? = some d) (hsame : Dispatch.Same d d') :
    ¬ Redispatched seq { system with bus, dispatches := system.dispatches.set i d' } := by
  rintro ⟨e, hmem, hpersisted, hseq⟩
  obtain hold | rfl := List.mem_or_eq_of_mem_set hmem
  · exact h ⟨e, hold, hpersisted, hseq⟩
  · exact h ⟨d, List.mem_of_getElem? hat, hsame.isReply ▸ hpersisted, hsame.seq ▸ hseq⟩

theorem Left.step {config : Config} {next : System} {label : Label} (h : system.Left seq)
    (hspares : system.Spares seq label) (hstep : System.step config system label = some next) :
    next.Left seq := by
  obtain ⟨hstored, hnot⟩ := h
  cases change_of_step hstep with
  | quiet quiet =>
    refine ⟨quiet.store ▸ hstored, ?_⟩
    unfold Redispatched
    rwa [quiet.dispatches]
  | publish fresh starts =>
    obtain ⟨event, hfound⟩ := hstored
    have hne := ne_nextSeq_of_find hfound
    refine ⟨⟨event, ?_⟩, not_redispatched_concat hnot fun _ ↦ ?_⟩
    · simp only
      rw [InMemoryEventStore.find_append, if_neg hne, hfound]
    · rw [starts.seq]
      exact hne.symm
  | publishReply starts =>
    refine ⟨hstored, not_redispatched_concat hnot fun hpersisted ↦ ?_⟩
    simp [starts.isReply] at hpersisted
  | @dispatch i input d at_i running =>
    have hchange := Dispatch.change_of_step config input system.bus running
    refine ⟨?_, not_redispatched_set hnot at_i hchange.same⟩
    apply hchange.keeps (P := fun store ↦ ∃ event, store.find seq = some event) hstored
    · exact fun status _ ↦ exists_find_updateStatus hstored _ _
    · exact fun report _ _ _ ↦ exists_find_recordDelivery hstored _ _ _ _ _ _
  | poll idle => exact ⟨hstored, hnot⟩
  | @retry input busy =>
    have hchange := RetryPhase.change_of_step config input system.bus busy
    refine ⟨?_, hnot⟩
    apply hchange.keeps (P := fun store ↦ ∃ event, store.find seq = some event) hstored
    · exact fun _ _ _ _ ↦ exists_find_updateStatus hstored _ _
    · exact fun _ _ _ _ ↦ exists_find_recordDelivery hstored _ _ _ _ _ _
  | compact =>
    obtain ⟨event, hfound⟩ := hstored
    refine ⟨⟨event, ?_⟩, hnot⟩
    simp only
    rw [InMemoryEventStore.find_compact, hfound]
    simp [hspares event hfound]

/-! ## Events without failed deliveries -/

/-- Nobody works on the event, and it stays as it is. -/
structure Stranded (event : StoredEvent) (system : System) : Prop where
  found : system.bus.store.find event.seq = some event
  notRedispatched : ¬ system.Redispatched event.seq
  notHeld {item : RetryableDelivery} (mem : item ∈ system.retry.items) : item.seq ≠ event.seq
  notLoaded : system.retry.loads event.seq = false
  notFinalized : system.retry.finalizes event.seq = false

theorem stranded_restart (now : ℕ) (hfound : system.bus.store.find event.seq = some event) :
    (system.restart now).Stranded event where
  found := hfound
  notRedispatched := by simp [Redispatched, restart, build]
  notHeld mem := by simp [restart, build, RetryPhase.items] at mem
  notLoaded := rfl
  notFinalized := rfl

/-- The retry task finds nothing to retry in an event without failed deliveries. -/
theorem ne_of_mem_queryRetryable (hfound : store.find event.seq = some event)
    (hfailed : event.hasFailed = false) {now maxAttempts limit : ℕ} {item : RetryableDelivery}
    (hmem : item ∈ store.queryRetryable now maxAttempts limit) : item.seq ≠ event.seq := by
  have hsorted := List.mem_of_mem_take hmem
  unfold sortByNextRetry at hsorted
  rw [List.mem_insertionSort] at hsorted
  obtain ⟨other, hother, hitem⟩ := List.mem_flatMap.mp hsorted
  intro hseq
  have hitemSeq : item.seq = other.seq := by
    obtain ⟨record, _, rfl⟩ := List.mem_map.mp hitem
    rfl
  have hsame : other = event := by
    have hfind := InMemoryEventStore.find_of_mem hother
    rw [← hitemSeq, hseq, hfound] at hfind
    exact (Option.some.inj hfind).symm
  rw [hsame, StoredEvent.retryables_eq_nil hfailed] at hitem
  exact absurd hitem (List.not_mem_nil)

namespace Stranded

variable {config : Config} {system next : System} {event : StoredEvent} {bus : Bus}
  {input : RetryInput} {phase : RetryPhase}

theorem dispatch (h : system.Stranded event) {input : DispatchInput} {i : ℕ} {d d' : Dispatch}
    (hat : system.dispatches[i]? = some d)
    (hchange : Dispatch.Change config input system.bus d bus d') :
    Stranded event { system with bus, dispatches := system.dispatches.set i d' } where
  found := by
    have hne (hactive : d.active = true) : event.seq ≠ d.seq := by
      simp only [Dispatch.active, Bool.and_eq_true, Bool.not_eq_true'] at hactive
      exact fun hseq ↦ h.notRedispatched ⟨d, List.mem_of_getElem? hat, hactive.1, hseq.symm⟩
    apply hchange.keeps (P := fun store ↦ store.find event.seq = some event) h.found
    · intro status hactive
      simp only [InMemoryEventStore.find_updateStatus, if_neg (hne hactive), h.found]
    · intro report _ hactive _
      simp only [InMemoryEventStore.find_recordDelivery, if_neg (hne hactive), h.found]
  notRedispatched := not_redispatched_set h.notRedispatched hat hchange.same
  notHeld := h.notHeld
  notLoaded := h.notLoaded
  notFinalized := h.notFinalized

/-- What the retry task is about to load or to finalize, it held or was about to load before. -/
theorem notLoaded_of_change {after : Bus} {phase' : RetryPhase}
    (hchange : RetryPhase.Change config input bus phase after phase') {seq : ℕ}
    (hheld : ∀ item ∈ phase.items, item.seq ≠ seq) (hloaded : phase.loads seq = false) :
    phase'.loads seq = false ∧ phase'.finalizes seq = false := by
  cases hchange with
  | record =>
    have hne := hheld _ List.mem_cons_self
    split_ifs
    · exact ⟨rfl, rfl⟩
    · exact ⟨by simpa [RetryPhase.loads] using hne, rfl⟩
  | load => exact ⟨rfl, hloaded⟩
  | _ => exact ⟨rfl, rfl⟩

theorem retry (h : system.Stranded event)
    (hchange : RetryPhase.Change config input system.bus system.retry bus phase) :
    Stranded event { system with bus, retry := phase } where
  found := by
    apply hchange.keeps (P := fun store ↦ store.find event.seq = some event) h.found
    · intro seq status todo hphase
      have hne : event.seq ≠ seq := by
        have hnot := h.notFinalized
        rw [hphase] at hnot
        simpa [RetryPhase.finalizes, eq_comm] using hnot
      simp only [InMemoryEventStore.find_updateStatus, if_neg hne, h.found]
    · intro item report todo hphase
      have hne : item.seq ≠ event.seq := h.notHeld (RetryPhase.mem_items_of_recording hphase)
      simp only [InMemoryEventStore.find_recordDelivery, if_neg hne.symm, h.found]
  notRedispatched := h.notRedispatched
  notHeld hmem := h.notHeld (hchange.items_subset.subset hmem)
  notLoaded := (notLoaded_of_change hchange (fun _ ↦ h.notHeld) h.notLoaded).1
  notFinalized := (notLoaded_of_change hchange (fun _ ↦ h.notHeld) h.notLoaded).2

theorem step (h : system.Stranded event) (hunfinished : event.status.isUnfinished = true)
    (hfailed : event.hasFailed = false) {label : Label}
    (hstep : System.step config system label = some next) : next.Stranded event := by
  have hnew := ne_nextSeq_of_find h.found
  cases change_of_step hstep with
  | quiet quiet =>
    constructor
    · exact quiet.store ▸ h.found
    · unfold Redispatched
      rw [quiet.dispatches]
      exact h.notRedispatched
    · intro item hmem
      exact h.notHeld (quiet.retry ▸ hmem)
    · exact quiet.retry ▸ h.notLoaded
    · exact quiet.retry ▸ h.notFinalized
  | publish fresh starts =>
    constructor
    · simp only
      rw [InMemoryEventStore.find_append, if_neg hnew, h.found]
    · exact not_redispatched_concat h.notRedispatched fun _ ↦ starts.seq ▸ hnew.symm
    · exact h.notHeld
    · exact h.notLoaded
    · exact h.notFinalized
  | publishReply starts =>
    refine ⟨h.found, not_redispatched_concat h.notRedispatched fun hpersisted ↦ ?_, h.notHeld,
      h.notLoaded, h.notFinalized⟩
    simp [starts.isReply] at hpersisted
  | dispatch at_i running => exact h.dispatch at_i (Dispatch.change_of_step _ _ _ running)
  | poll idle =>
    exact ⟨h.found, h.notRedispatched, fun hmem ↦ ne_of_mem_queryRetryable h.found hfailed hmem,
      rfl, rfl⟩
  | retry busy => exact h.retry (RetryPhase.change_of_step _ _ _ busy)
  | compact =>
    have hspared (threshold : ℕ) : event.isCompactable threshold = false := by
      simp [StoredEvent.isCompactable, EventStatus.isTerminal_of_isUnfinished hunfinished]
    refine ⟨?_, h.notRedispatched, h.notHeld, h.notLoaded, h.notFinalized⟩
    simp only
    rw [InMemoryEventStore.find_compact, h.found]
    simp [hspared]

end Stranded

theorem stranded_of_reach (config : Config) (now : ℕ) {stopped : System}
    (hfound : stopped.bus.store.find event.seq = some event)
    (hunfinished : event.status.isUnfinished = true) (hfailed : event.hasFailed = false)
    (hreach : Steps.Reach (step config) (fun _ _ ↦ True) (stopped.restart now) system) :
    system.Stranded event :=
  hreach.invariant (stranded_restart now hfound) fun _ _ _ h _ hstep ↦
    h.step hunfinished hfailed hstep

/-- After a restart on what a stop left, every event whose dispatch had not come to its end is taken
up again in some run exactly if there is no such event: none ever is, and if no delivery of it
failed, it stays as it is in every run. -/
theorem restart_redispatches_iff (config : Config) (now : ℕ) (stopped : System) :
    ((∀ seq event, stopped.bus.store.find seq = some event → event.status.isUnfinished = true →
      ∃ system, Steps.Reach (step config) (Spares seq) (stopped.restart now) system ∧
        system.Redispatched seq) ↔
      ∀ seq event, stopped.bus.store.find seq = some event →
        event.status.isUnfinished = false) ∧
    ∀ seq event, stopped.bus.store.find seq = some event → event.status.isUnfinished = true →
      (∀ system, Steps.Reach (step config) (Spares seq) (stopped.restart now) system →
        ¬ system.Redispatched seq) ∧
      (event.hasFailed = false → ∀ system,
        Steps.Reach (step config) (fun _ _ ↦ True) (stopped.restart now) system →
        system.bus.store.find seq = some event ∧ ¬ system.Redispatched seq) := by
  have hnever (seq : ℕ) (event : StoredEvent) (hfound : stopped.bus.store.find seq = some event)
      (system : System) (hreach : Steps.Reach (step config) (Spares seq) (stopped.restart now)
        system) : ¬ system.Redispatched seq := by
    have hleft : system.Left seq := hreach.invariant (left_restart now hfound)
      fun _ _ _ h hspares hstep ↦ h.step hspares hstep
    exact hleft.notRedispatched
  refine ⟨⟨?_, ?_⟩, ?_⟩
  · intro h seq event hfound
    by_contra hunfinished
    obtain ⟨system, hreach, hredispatched⟩ :=
      h seq event hfound (Bool.eq_true_of_not_eq_false hunfinished)
    exact hnever seq event hfound system hreach hredispatched
  · intro h seq event hfound hunfinished
    simp [h seq event hfound] at hunfinished
  · intro seq event hfound hunfinished
    refine ⟨hnever seq event hfound, fun hfailed system hreach ↦ ?_⟩
    obtain ⟨_, rfl⟩ := InMemoryEventStore.find_eq_some_iff.mp hfound
    have hstranded := stranded_of_reach config now hfound hunfinished hfailed hreach
    exact ⟨hstranded.found, hstranded.notRedispatched⟩

/-- The bus stops between the append of a publish and the first step of its dispatch: the event has
a subscriber, and stays pending for ever. -/
theorem stopped_after_append_stays_pending :
    ∃ stopped event, Steps.execute (step (.plain 5)) (build .empty 0)
        [.inProcess "s" "a" .async 10, .publishByte "a" 1] = some stopped ∧
      stopped.bus.store.find 1 = some event ∧ event.status = .pending ∧ event.deliveries = [] ∧
      ∀ system, Steps.Reach (step (.plain 5)) (fun _ _ ↦ True) (stopped.restart 0) system →
        system.bus.store.find 1 = some event ∧ ¬ system.Redispatched 1 := by
  have hexecute : ∃ stopped ∈ Steps.execute (step (.plain 5)) (build .empty 0)
        [.inProcess "s" "a" .async 10, .publishByte "a" 1],
      ∃ event ∈ stopped.bus.store.find 1, event.status = .pending ∧ event.deliveries = [] := by
    decide +kernel
  obtain ⟨stopped, hstopped, event, hfound, hpending, hnone⟩ := hexecute
  refine ⟨stopped, event, hstopped, hfound, hpending, hnone, fun system hreach ↦ ?_⟩
  obtain ⟨_, hseq⟩ := InMemoryEventStore.find_eq_some_iff.mp hfound
  rw [← hseq] at hfound ⊢
  have hstranded := stranded_of_reach (.plain 5) 0 hfound (by rw [hpending]; rfl)
    (by simp [StoredEvent.hasFailed, hnone]) hreach
  exact ⟨hstranded.found, hstranded.notRedispatched⟩

end System

end Seidrum.EventBus
