import Seidrum.Foundation.Positions
import Seidrum.EventBus.Storage.DeadLetters
import Seidrum.EventBus.System

/-!
# Replays of dead-lettered events

A replay reads its event, requeues it and dispatches it again; each of these is a step of its own, so that
other replays, purges, compaction and everything else the bus does may run in between.  The store looks at
the status again when it requeues.

The dead-letter periods of a number are counted along the run: one begins whenever a step leaves an event
dead-lettered that was not so before.
-/

namespace Seidrum.EventBus

open Seidrum.Foundation

/-- How far a replay has come; a requeue belongs to the dead-letter period that it ends. -/
inductive ReplayStage
  | check
  | requeue (event : StoredEvent)
  | dispatch (event : StoredEvent) (period : ℕ)
  /-- The dispatch was started. -/
  | dispatched (period : ℕ)
  | failed (error : EventBusError)

namespace ReplayStage

def period : ReplayStage → Option ℕ
  | dispatch _ period | dispatched period => some period
  | check | requeue _ | failed _ => none

/-- The replay has not requeued its event. -/
def isBefore : ReplayStage → Bool
  | check | requeue _ => true
  | dispatch .. | dispatched _ | failed _ => false

end ReplayStage

/-- A replay of the event with a number. -/
structure ReplayCall where
  seq : ℕ
  stage : ReplayStage

namespace ReplayCall

def notFound (seq : ℕ) : EventBusError := .internal ("event " ++ toString seq ++ " not found")

def notReplayable (seq : ℕ) : EventBusError :=
  .internal ("event " ++ toString seq ++ " is not dead-lettered")

def read (store : InMemoryEventStore) (seq : ℕ) : ReplayStage :=
  match store.get seq with
  | none => .failed (notFound seq)
  | some event => if event.status = .deadLettered then .requeue event else .failed (notReplayable seq)

/-- A requeue in a dead-letter period, after the event was read. -/
def takeBack (store : InMemoryEventStore) (seq period : ℕ) (event : StoredEvent) :
    ReplayStage × InMemoryEventStore :=
  match store.requeueDeadLettered seq with
  | (.ok _, store) => (.dispatch event period, store)
  | (.error error, store) => (.failed (.storage error), store)

/-- The dispatch of an event as it was read before it was requeued. -/
def dispatchOf (seq : ℕ) (event : StoredEvent) : Dispatch :=
  { seq, subject := event.subject, payload := event.payload, replySubject := event.replySubject,
    isReply := false, current := event.payload, anyFailed := false, stage := .resolve }

variable {store : InMemoryEventStore} {seq period : ℕ} {event : StoredEvent}

theorem period_read : (read store seq).period = none := by
  unfold read
  split
  · rfl
  · split_ifs <;> rfl

theorem read_of_not (h : ¬store.IsDeadLettered seq) : ∃ error, read store seq = .failed error := by
  unfold read
  split
  · exact ⟨_, rfl⟩
  · rename_i event hget
    have hstatus : event.status ≠ .deadLettered := fun hdead ↦ h ⟨event, hget, hdead⟩
    exact ⟨_, if_neg hstatus⟩

variable (period event) in
theorem takeBack_of_not (h : ¬store.IsDeadLettered seq) :
    ∃ error, takeBack store seq period event = (.failed error, store) := by
  obtain ⟨error, hrefused⟩ := InMemoryEventStore.requeueDeadLettered_of_not h
  exact ⟨.storage error, by rw [takeBack, hrefused]⟩

theorem takeBack_of (h : store.IsDeadLettered seq) :
    takeBack store seq period event =
      (.dispatch event period, (store.requeueDeadLettered seq).2) := by
  obtain ⟨found, hfind, hdead⟩ := h
  rw [takeBack, InMemoryEventStore.requeueDeadLettered_of hfind hdead]

end ReplayCall

inductive ReplayLabel
  | bus (label : Label)
  | replayDeadLettered (seq : ℕ)
  /-- The next step of a replay; a call of the store may fail. -/
  | replay (i : ℕ) (storeError : Option StorageError)
  | purgeDeadLettered (seq : ℕ) (storeError : Option StorageError)

structure ReplayingBus where
  system : System
  replays : List ReplayCall
  /-- The answers of the purges so far. -/
  purges : List (ℕ × Except EventBusError Unit)
  /-- The dead-letter periods of a number that have begun so far. -/
  periods : ℕ → ℕ
  /-- The number and the period of each dispatch that a replay has started. -/
  started : List (ℕ × ℕ)

namespace ReplayingBus

def store (state : ReplayingBus) : InMemoryEventStore := state.system.bus.store

def ofSystem (system : System) : ReplayingBus where
  system := system
  replays := []
  purges := []
  periods seq := if system.bus.store.IsDeadLettered seq then 1 else 0
  started := []

/-- Go on with another state of the bus. -/
def withSystem (system : System) (state : ReplayingBus) : ReplayingBus :=
  { state with
    system
    periods := fun seq ↦
      if ¬state.store.IsDeadLettered seq ∧ system.bus.store.IsDeadLettered seq then
        state.periods seq + 1
      else state.periods seq }

def withStore (store : InMemoryEventStore) (state : ReplayingBus) : ReplayingBus :=
  state.withSystem { state.system with bus := { state.system.bus with store } }

def setStage (i : ℕ) (call : ReplayCall) (stage : ReplayStage) (state : ReplayingBus) : ReplayingBus :=
  { state with replays := state.replays.set i { call with stage } }

/-- Requeue the event of a replay. -/
def takeBack (i : ℕ) (call : ReplayCall) (event : StoredEvent) (state : ReplayingBus) : ReplayingBus :=
  let result := ReplayCall.takeBack state.store call.seq (state.periods call.seq) event
  (state.withStore result.2).setStage i call result.1

/-- One step of a replay. -/
def replay (i : ℕ) (storeError : Option StorageError) (call : ReplayCall) (state : ReplayingBus) :
    Option ReplayingBus :=
  match call.stage, storeError with
  | .check, none => some (state.setStage i call (ReplayCall.read state.store call.seq))
  | .requeue event, none => some (state.takeBack i call event)
  | .check, some error | .requeue _, some error =>
      some (state.setStage i call (.failed (.storage error)))
  | .dispatch event period, _ =>
      let started := { state.system with
        dispatches := state.system.dispatches ++ [ReplayCall.dispatchOf call.seq event] }
      some { (state.withSystem started).setStage i call (.dispatched period) with
        started := (call.seq, period) :: state.started }
  | .dispatched _, _ | .failed _, _ => none

def purge (seq : ℕ) (storeError : Option StorageError) (state : ReplayingBus) : ReplayingBus :=
  match storeError with
  | some error => { state with purges := state.purges ++ [(seq, .error (.storage error))] }
  | none =>
      let result := state.store.purgeDeadLettered seq
      { state.withStore result.2 with
        purges := state.purges ++ [(seq, result.1.mapError .storage)] }

def step (config : Config) : Steps ReplayingBus ReplayLabel
  | state, .bus label => (System.step config state.system label).map state.withSystem
  | state, .replayDeadLettered seq => some { state with replays := state.replays ++ [⟨seq, .check⟩] }
  | state, .replay i storeError => state.replays[i]?.bind fun call ↦ state.replay i storeError call
  | state, .purgeDeadLettered seq storeError => some (state.purge seq storeError)

/-- Everything a step of a replay can do. -/
inductive Move (state : ReplayingBus) (i : ℕ) (call : ReplayCall) : ReplayingBus → Prop
  | read (stage : call.stage = .check) :
      Move state i call (state.setStage i call (ReplayCall.read state.store call.seq))
  | takeBack {event : StoredEvent} (stage : call.stage = .requeue event) :
      Move state i call (state.takeBack i call event)
  | storeFails {error : StorageError} (before : call.stage.isBefore) :
      Move state i call (state.setStage i call (.failed (.storage error)))
  | dispatch {event : StoredEvent} {period : ℕ} {system : System}
      (stage : call.stage = .dispatch event period) (bus : system.bus = state.system.bus) :
      Move state i call { (state.withSystem system).setStage i call (.dispatched period) with
        started := (call.seq, period) :: state.started }

variable {state next : ReplayingBus} {i : ℕ} {storeError : Option StorageError} {config : Config}
  {event : StoredEvent} {label : ReplayLabel}

theorem move_of_replay {call : ReplayCall} (h : state.replay i storeError call = some next) :
    Move state i call next := by
  unfold replay at h
  cases hstage : call.stage with
  | check =>
    cases storeError with
    | none =>
      simp only [hstage] at h
      cases h
      exact .read hstage
    | some error =>
      simp only [hstage] at h
      cases h
      exact .storeFails (by rw [hstage]; rfl)
  | requeue event =>
    cases storeError with
    | none =>
      simp only [hstage] at h
      cases h
      exact .takeBack hstage
    | some error =>
      simp only [hstage] at h
      cases h
      exact .storeFails (by rw [hstage]; rfl)
  | dispatch event period =>
    simp only [hstage] at h
    cases h
    exact .dispatch hstage rfl
  | dispatched period | failed error => simp [hstage] at h

theorem move_of_step (h : step config state (.replay i storeError) = some next) :
    ∃ call, state.replays[i]? = some call ∧ Move state i call next := by
  obtain ⟨call, hcall, hreplay⟩ := Option.bind_eq_some_iff.mp h
  exact ⟨call, hcall, move_of_replay hreplay⟩

/-! ## One dispatch for each period -/

/-- No two replays ended the same period, a period that was ended is over, and the dispatches are those of
the replays. -/
structure Exclusive (state : ReplayingBus) : Prop where
  once {i j : ℕ} {a b : ReplayCall} {period : ℕ} : state.replays[i]? = some a →
    state.replays[j]? = some b → a.seq = b.seq → a.stage.period = some period →
    b.stage.period = some period → i = j
  past {i : ℕ} {a : ReplayCall} {period : ℕ} : state.replays[i]? = some a →
    a.stage.period = some period → 0 < period ∧ period ≤ state.periods a.seq ∧
      (state.store.IsDeadLettered a.seq → period < state.periods a.seq)
  begun : ∀ seq, state.store.IsDeadLettered seq → 0 < state.periods seq
  dispatched : ∀ entry ∈ state.started, ∃ i : ℕ, state.replays[i]? =
    some (ReplayCall.mk entry.1 (.dispatched entry.2))
  nodup : state.started.Nodup

variable {state next : ReplayingBus} {i : ℕ} {call : ReplayCall} {stage : ReplayStage}

theorem exclusive_ofSystem (system : System) : (ofSystem system).Exclusive where
  once h := absurd h (by simp [ofSystem])
  past h := absurd h (by simp [ofSystem])
  begun seq hdead := by
    have hdead : system.bus.store.IsDeadLettered seq := hdead
    simp [ofSystem, hdead]
  dispatched _ hmem := absurd hmem List.not_mem_nil
  nodup := List.nodup_nil

section

variable (h : state.Exclusive)
include h

/-- Whatever the bus does, a period that is over stays over. -/
theorem Exclusive.withSystem (system : System) :
    (state.withSystem system).Exclusive where
  once := h.once
  past ha hperiod := by
    obtain ⟨hpos, hle, hlt⟩ := h.past ha hperiod
    simp only [ReplayingBus.withSystem]
    split_ifs with hbegins
    · exact ⟨hpos, Nat.le_succ_of_le hle, fun _ ↦ Nat.lt_succ_of_le hle⟩
    · refine ⟨hpos, hle, fun hdead ↦ hlt ?_⟩
      by_contra hnot
      exact hbegins ⟨hnot, hdead⟩
  begun seq hdead := by
    simp only [ReplayingBus.withSystem]
    split_ifs with hbegins
    · exact Nat.succ_pos _
    · refine h.begun seq ?_
      by_contra hnot
      exact hbegins ⟨hnot, hdead⟩
  dispatched := h.dispatched
  nodup := h.nodup

/-- A replay moves on to a stage whose period no other replay ended. -/
theorem Exclusive.setStage (hcall : state.replays[i]? = some call)
    (hrunning : ∀ period, call.stage ≠ .dispatched period)
    (hnew : ∀ period, stage.period = some period →
      (∀ j b, state.replays[j]? = some b → b.seq = call.seq → b.stage.period = some period → j = i) ∧
        0 < period ∧ period ≤ state.periods call.seq ∧
          (state.store.IsDeadLettered call.seq → period < state.periods call.seq)) :
    (state.setStage i call stage).Exclusive where
  once ha hb hseq haperiod hbperiod := by
    rcases at_of_set ha with ⟨rfl, rfl⟩ | ⟨hai, ha⟩
    · rcases at_of_set hb with ⟨rfl, -⟩ | ⟨-, hb⟩
      · rfl
      · exact ((hnew _ haperiod).1 _ _ hb hseq.symm hbperiod).symm
    · rcases at_of_set hb with ⟨rfl, rfl⟩ | ⟨-, hb⟩
      · exact (hnew _ hbperiod).1 _ _ ha hseq haperiod
      · exact h.once ha hb hseq haperiod hbperiod
  past ha hperiod := by
    rcases at_of_set ha with ⟨rfl, rfl⟩ | ⟨-, ha⟩
    · exact (hnew _ hperiod).2
    · exact h.past ha hperiod
  begun := h.begun
  dispatched entry hmem := by
    obtain ⟨j, hj⟩ := h.dispatched entry hmem
    have hne : j ≠ i := by
      rintro rfl
      obtain rfl := Option.some.inj (hcall.symm.trans hj)
      exact hrunning entry.2 rfl
    exact ⟨j, at_set_of_ne hj hne _⟩
  nodup := h.nodup

theorem Exclusive.setStage_of_none (hcall : state.replays[i]? = some call)
    (hrunning : ∀ period, call.stage ≠ .dispatched period) (hnone : stage.period = none) :
    (state.setStage i call stage).Exclusive :=
  h.setStage hcall hrunning fun period hperiod ↦ by simp [hnone] at hperiod

/-- A requeue ends the period that is under way. -/
theorem Exclusive.takeBack (hcall : state.replays[i]? = some call) (hstage : call.stage = .requeue event) :
    (state.takeBack i call event).Exclusive := by
  unfold ReplayingBus.takeBack
  set result := ReplayCall.takeBack state.store call.seq (state.periods call.seq) event
  have hafter : (state.withStore result.2).Exclusive := h.withSystem _
  have hrunning : ∀ period, call.stage ≠ .dispatched period := by simp [hstage]
  by_cases hdead : state.store.IsDeadLettered call.seq
  · have hresult : result = (.dispatch event (state.periods call.seq),
        (state.store.requeueDeadLettered call.seq).2) := ReplayCall.takeBack_of hdead
    have hgone : ¬(state.withStore result.2).store.IsDeadLettered call.seq := by
      rintro ⟨found, hfind, hstatus⟩
      change found ∈ result.2.find call.seq at hfind
      rw [hresult, InMemoryEventStore.find_requeueDeadLettered, if_pos ⟨rfl, hdead⟩] at hfind
      obtain ⟨before, -, rfl⟩ := Option.mem_map.mp hfind
      cases hstatus
    have hperiods : (state.withStore result.2).periods call.seq = state.periods call.seq :=
      if_neg fun hbegins ↦ hbegins.1 hdead
    refine hafter.setStage hcall hrunning fun period hperiod ↦ ?_
    rw [hresult] at hperiod
    cases hperiod
    refine ⟨fun j b hb hseq hended ↦ ?_, h.begun _ hdead, hperiods.ge, fun hagain ↦ absurd hagain hgone⟩
    -- the period of another replay was over when the event was found dead-lettered
    have hlt := (h.past hb hended).2.2 (hseq ▸ hdead)
    rw [hseq] at hlt
    exact absurd hlt (lt_irrefl _)
  · obtain ⟨error, hrefused⟩ :=
      ReplayCall.takeBack_of_not (state.periods call.seq) event hdead
    refine hafter.setStage_of_none hcall hrunning ?_
    rw [show result = (.failed error, state.store) from hrefused]
    rfl

/-- The dispatch of a replay is the only one of its period. -/
theorem Exclusive.dispatch (hcall : state.replays[i]? = some call) {period : ℕ}
    (hstage : call.stage = .dispatch event period) (system : System) :
    Exclusive { (state.withSystem system).setStage i call (.dispatched period) with
      started := (call.seq, period) :: state.started } := by
  have hended : call.stage.period = some period := by rw [hstage]; rfl
  have hafter := h.withSystem system
  have hset : ((state.withSystem system).setStage i call (.dispatched period)).Exclusive := by
    refine hafter.setStage hcall (by simp [hstage]) fun other hother ↦ ?_
    cases hother
    exact ⟨fun j b hb hseq hb' ↦ hafter.once hb hcall hseq hb' hended, hafter.past hcall hended⟩
  refine ⟨hset.once, hset.past, hset.begun, fun entry hmem ↦ ?_, List.nodup_cons.mpr ⟨?_, h.nodup⟩⟩
  · rcases List.mem_cons.mp hmem with rfl | hmem
    · exact ⟨i, at_set_self hcall _⟩
    · exact hset.dispatched entry hmem
  · intro hmem
    obtain ⟨j, hj⟩ := h.dispatched _ hmem
    obtain rfl := h.once hj hcall rfl rfl hended
    have hsame := Option.some.inj (hcall.symm.trans hj)
    rw [hsame] at hstage
    cases hstage

theorem Exclusive.move (hcall : state.replays[i]? = some call) (hmove : Move state i call next) :
    next.Exclusive := by
  have hbefore : call.stage.isBefore → ∀ period, call.stage ≠ .dispatched period := by
    rintro hbefore period hstage
    rw [hstage] at hbefore
    cases hbefore
  cases hmove with
  | read stage => exact h.setStage_of_none hcall (hbefore (by rw [stage]; rfl)) ReplayCall.period_read
  | takeBack stage => exact h.takeBack hcall stage
  | storeFails before => exact h.setStage_of_none hcall (hbefore before) rfl
  | dispatch stage bus => exact h.dispatch hcall stage _

theorem Exclusive.step (hstep : step config state label = some next) : next.Exclusive := by
  cases label with
  | bus label =>
    obtain ⟨system, -, rfl⟩ := Option.map_eq_some_iff.mp hstep
    exact h.withSystem system
  | replayDeadLettered seq =>
    cases hstep
    constructor
    · intro i j a b period ha hb hseq haperiod hbperiod
      rcases at_of_concat ha with ha | ⟨-, rfl⟩
      · rcases at_of_concat hb with hb | ⟨-, rfl⟩
        · exact h.once ha hb hseq haperiod hbperiod
        · cases hbperiod
      · cases haperiod
    · intro i a period ha hperiod
      rcases at_of_concat ha with ha | ⟨-, rfl⟩
      · exact h.past ha hperiod
      · cases hperiod
    · exact h.begun
    · intro entry hmem
      obtain ⟨j, hj⟩ := h.dispatched entry hmem
      exact ⟨j, at_concat hj _⟩
    · exact h.nodup
  | replay i storeError =>
    obtain ⟨call, hcall, hmove⟩ := move_of_step hstep
    exact h.move hcall hmove
  | purgeDeadLettered seq storeError =>
    cases hstep
    unfold purge
    cases storeError with
    | none =>
      have hpurged := h.withSystem { state.system with bus := { state.system.bus with
        store := (state.store.purgeDeadLettered seq).2 } }
      exact ⟨hpurged.once, hpurged.past, hpurged.begun, hpurged.dispatched, hpurged.nodup⟩
    | some error => exact ⟨h.once, h.past, h.begun, h.dispatched, h.nodup⟩

end

/-- A replay that gets past its requeue has reset its event, and nothing else. -/
def Resets (state next : ReplayingBus) (i : ℕ) : Prop :=
  ∀ call ∈ state.replays[i]?, ∀ after ∈ next.replays[i]?, call.stage.period = none →
    after.stage.period ≠ none → ∃ event, state.store.find call.seq = some event ∧
      event.status = .deadLettered ∧
      next.store.find call.seq = some { event with status := .pending, deliveries := [] } ∧
      ∀ seq, seq ≠ call.seq → next.store.find seq = state.store.find seq

/-- A replay that has not requeued its event fails when the event is not dead-lettered, and leaves the
store as it was; so does a purge. -/
def Refuses (state next : ReplayingBus) : ReplayLabel → Prop
  | .replay i _ => ∀ call ∈ state.replays[i]?, call.stage.isBefore → ¬state.store.IsDeadLettered call.seq →
      next.store = state.store ∧ ∃ error, next.replays[i]? = some ⟨call.seq, .failed error⟩
  | .purgeDeadLettered seq _ => ¬state.store.IsDeadLettered seq →
      next.store = state.store ∧ ∃ error, next.purges = state.purges ++ [(seq, .error error)]
  | .bus _ | .replayDeadLettered _ => True

theorem resets_of_step (hstep : step config state (.replay i storeError) = some next) :
    state.Resets next i := by
  intro call hcall after hafter hnone hended
  obtain ⟨found, hfound, hmove⟩ := move_of_step hstep
  obtain rfl := Option.some.inj (hfound.symm.trans hcall)
  have hset (stage : ReplayStage) : (state.replays.set i { found with stage })[i]? =
      some { found with stage } := at_set_self hcall _
  cases hmove with
  | read stage =>
    obtain rfl := Option.some.inj (hafter.symm.trans (hset _))
    exact absurd ReplayCall.period_read hended
  | @takeBack event stage =>
    obtain rfl := Option.some.inj (hafter.symm.trans (hset _))
    by_cases hdead : state.store.IsDeadLettered found.seq
    · have hstore := InMemoryEventStore.find_requeueDeadLettered state.store found.seq
      obtain ⟨event', hfind, hstatus⟩ := id hdead
      refine ⟨event', hfind, hstatus, ?_, fun seq hne ↦ ?_⟩
      · change (ReplayCall.takeBack _ _ _ _).2.find _ = _
        rw [ReplayCall.takeBack_of hdead, hstore, if_pos ⟨rfl, hdead⟩, Option.mem_def.mp hfind]
        rfl
      · change (ReplayCall.takeBack _ _ _ _).2.find _ = _
        rw [ReplayCall.takeBack_of hdead, hstore, if_neg fun h ↦ hne h.1]
    · obtain ⟨error, hrefused⟩ :=
        ReplayCall.takeBack_of_not (state.periods found.seq) event hdead
      rw [hrefused] at hended
      exact absurd rfl hended
  | storeFails before =>
    obtain rfl := Option.some.inj (hafter.symm.trans (hset _))
    exact absurd rfl hended
  | dispatch stage bus =>
    rw [stage] at hnone
    cases hnone

theorem refuses_of_step (hstep : step config state label = some next) : state.Refuses next label := by
  cases label with
  | bus label | replayDeadLettered seq => trivial
  | replay i storeError =>
    intro call hcall hbefore hdead
    obtain ⟨found, hfound, hmove⟩ := move_of_step hstep
    obtain rfl := Option.some.inj (hfound.symm.trans hcall)
    cases hmove with
    | read stage =>
      obtain ⟨error, hrefused⟩ := ReplayCall.read_of_not hdead
      exact ⟨rfl, error, by rw [hrefused]; exact at_set_self hcall _⟩
    | @takeBack event stage =>
      obtain ⟨error, hrefused⟩ :=
        ReplayCall.takeBack_of_not (state.periods found.seq) event hdead
      refine ⟨congrArg Prod.snd hrefused, error, ?_⟩
      rw [ReplayingBus.takeBack, hrefused]
      exact at_set_self hcall _
    | storeFails before => exact ⟨rfl, _, at_set_self hcall _⟩
    | dispatch stage bus =>
      rw [stage] at hbefore
      cases hbefore
  | purgeDeadLettered seq storeError =>
    intro hdead
    cases hstep
    cases storeError with
    | none =>
      obtain ⟨error, hrefused⟩ := InMemoryEventStore.purgeDeadLettered_of_not hdead
      refine ⟨congrArg Prod.snd hrefused, .storage error, ?_⟩
      simp only [purge, hrefused]
      rfl
    | some error => exact ⟨rfl, _, rfl⟩

/-- In every interleaving a dead-letter period leads to at most one dispatch, a requeue resets its event
alone, and what is not dead-lettered is refused; the durable store refuses and resets alike. -/
theorem replay_exclusive {config : Config} {system : System} {state : ReplayingBus}
    (h : Steps.Reach (step config) (fun _ _ ↦ True) (ofSystem system) state) :
    (state.started.Nodup ∧ ∀ entry ∈ state.started, 0 < entry.2 ∧ entry.2 ≤ state.periods entry.1) ∧
      (∀ label next, step config state label = some next →
        state.Refuses next label ∧ ∀ i storeError, label = .replay i storeError → state.Resets next i) ∧
      ∀ {Bytes : Type} (codec : EventCodec Bytes) (db : RedbEventStore Bytes),
        StoreRefinement.Agree codec state.store db → ∀ seq,
        (¬state.store.IsDeadLettered seq →
          (∃ error, db.requeueDeadLettered codec seq = (.error error, db)) ∧
            ∃ error, db.purgeDeadLettered codec seq = (.error error, db)) ∧
        ∀ event, state.store.find seq = some event → event.status = .deadLettered →
          (db.requeueDeadLettered codec seq).2.get codec seq =
            .ok (some { event with status := .pending, deliveries := [] }) := by
  have hexclusive : state.Exclusive :=
    h.invariant (exclusive_ofSystem system) fun _ _ _ hinv _ hstep ↦ hinv.step hstep
  refine ⟨⟨hexclusive.nodup, fun entry hmem ↦ ?_⟩, fun label next hstep ↦ ⟨refuses_of_step hstep, ?_⟩,
    fun codec db hagree seq ↦ ⟨hagree.events.refused, fun event hfind hdead ↦
      (hagree.get_requeueDeadLettered hfind hdead).2⟩⟩
  · obtain ⟨i, hi⟩ := hexclusive.dispatched entry hmem
    obtain ⟨hpos, hle, -⟩ := hexclusive.past hi rfl
    exact ⟨hpos, hle⟩
  · rintro i storeError rfl
    exact resets_of_step hstep

/-- Two replays of one event that both read it before either requeues it. -/
def twoReplays : List ReplayLabel :=
  [.replayDeadLettered 1, .replayDeadLettered 1, .replay 0 none, .replay 1 none, .replay 1 none,
    .replay 0 none, .replay 1 none]

theorem replay_exclusive_two :
    ∃ state, Steps.execute (step (.plain 3))
        (ofSystem (.build (InMemoryEventStore.machine.run .empty twoDeadLetters) 5)) twoReplays =
          some state ∧
      state.started = [(1, 1)] ∧ state.started.Nodup := by
  have hexecute : ∃ state, Steps.execute (step (.plain 3))
      (ofSystem (.build (InMemoryEventStore.machine.run .empty twoDeadLetters) 5)) twoReplays =
        some state ∧ state.started = [(1, 1)] := by
    refine ⟨_, rfl, ?_⟩
    decide
  obtain ⟨state, hexecute, hstarted⟩ := hexecute
  have hguarded : Steps.Guarded (step (.plain 3)) (fun _ _ ↦ True)
      (ofSystem (.build (InMemoryEventStore.machine.run .empty twoDeadLetters) 5)) twoReplays :=
    Steps.guarded_of_forall (fun _ _ ↦ trivial) _ _
  have hreach := Steps.reach_of_execute hguarded hexecute
  exact ⟨state, hexecute, hstarted, (replay_exclusive hreach).1.1⟩

end ReplayingBus

end Seidrum.EventBus
