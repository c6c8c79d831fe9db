import Seidrum.EventBus.Disjoint
import Seidrum.EventBus.Plan

/-!
# The dispatch pipeline

What the dispatch of a persisted event does from start to end, while the registrations stay as they
are: whom it attempts, in which order and with which payload, what it records, and the status it ends
with.  Other dispatches, the retry task, compaction, subscribers that take events or go away, and
webhook calls may all come between two of its steps.

A dispatch carries out its plan: along every run, the attempts it has made followed by the plan it
has left are the plan it started with.
-/

namespace Seidrum.EventBus

open Seidrum.Foundation

def Attempt.handed (attempt : Attempt) : String × Payload := (attempt.subscriberId, attempt.payload)

/-- The attempts made by the dispatch of an event, oldest first. -/
def dispatchedIn (seq : ℕ) : List LogEntry → List Attempt
  | [] => []
  | .appended _ _ :: rest => dispatchedIn seq rest
  | .attempted attempt :: rest =>
      if attempt.seq = seq ∧ attempt.source = .dispatch then dispatchedIn seq rest ++ [attempt]
      else dispatchedIn seq rest
  | .webhookReturned _ _ _ :: rest => dispatchedIn seq rest

theorem dispatchedIn_append (seq : ℕ) (new log : List LogEntry) :
    dispatchedIn seq (new ++ log) = dispatchedIn seq log ++ dispatchedIn seq new := by
  induction new with
  | nil => simp [dispatchedIn]
  | cons entry rest ih =>
    cases entry with
    | appended other payload => exact ih
    | attempted attempt =>
      simp only [List.cons_append, dispatchedIn]
      split_ifs
      · rw [ih, List.append_assoc]
      · exact ih
    | webhookReturned other id ok => exact ih

/-- The retry task makes no attempt of a dispatch. -/
theorem RetryPhase.Change.dispatchedIn_eq_nil {config : Config} {input : RetryInput}
    {bus after : Bus} {phase phase' : RetryPhase} (h : Change config input bus phase after phase')
    (seq : ℕ) : ∃ new, after.log = new ++ bus.log ∧ dispatchedIn seq new = [] := by
  cases h with
  | @attempt _ delivery todo answer turn =>
    have hretry : (attemptOf delivery answer).source ≠ .dispatch := by simp [attemptOf]
    obtain hlog | hlog := turn.answered.log
    · refine ⟨[.attempted (attemptOf delivery answer)], ?_, ?_⟩
      · simp only [finishAttempt, Bus.note, hlog]
        rfl
      · simp [dispatchedIn, hretry]
    · refine ⟨[.attempted (attemptOf delivery answer), .webhookReturned delivery.seq
        delivery.subscriberId (answer.1 = .delivered)], ?_, ?_⟩
      · simp only [finishAttempt, Bus.note, hlog]
        rfl
      · simp [dispatchedIn, hretry]
  | record => exact ⟨[], Bus.recordDelivery_log _ _ _ _, rfl⟩
  | finalize => exact ⟨[], Bus.updateStatus_log _ _ _ _, rfl⟩
  | _ => exact ⟨[], rfl, rfl⟩

namespace InMemoryEventStore

/-- An event is stored, with a record of each of these subscribers, in this order. -/
def HasRecords (seq : ℕ) (ids : List String) (store : InMemoryEventStore) : Prop :=
  ∃ event, store.find seq = some event ∧ event.deliveries.map (·.subscriberId) = ids

variable {store : InMemoryEventStore} {seq : ℕ} {ids : List String}

theorem HasRecords.updateStatus (h : store.HasRecords seq ids) (changed : ℕ)
    (status : EventStatus) : (store.updateStatus changed status).2.HasRecords seq ids := by
  obtain ⟨event, hfound, hids⟩ := h
  unfold HasRecords
  rw [find_updateStatus, hfound]
  split_ifs
  · exact ⟨event.withStatus status, rfl, hids⟩
  · exact ⟨event, rfl, hids⟩

variable {id : String}

/-- A first outcome. -/
theorem HasRecords.record_first (h : store.HasRecords seq ids) (now : ℕ) (status : DeliveryStatus)
    (error : Option String) (nextRetry : Option ℕ)
    (hnone : ∀ event, store.find seq = some event → event.recordOf id = none) :
    (store.recordDelivery now seq id status error nextRetry).2.HasRecords seq (ids ++ [id]) := by
  obtain ⟨event, hfound, hids⟩ := h
  refine ⟨event.withDelivery now id status error nextRetry, ?_, ?_⟩
  · rw [find_recordDelivery, if_pos rfl, hfound]
    rfl
  · rw [StoredEvent.deliveries_withDelivery_of_none (hnone event hfound), List.map_append, hids]
    rfl

/-- A later outcome, or one of another event. -/
theorem HasRecords.record_again (h : store.HasRecords seq ids) (now changed : ℕ)
    (status : DeliveryStatus) (error : Option String) (nextRetry : Option ℕ)
    (hsome : changed = seq → ∀ event, store.find seq = some event → event.recordOf id ≠ none) :
    (store.recordDelivery now changed id status error nextRetry).2.HasRecords seq ids := by
  obtain ⟨event, hfound, hids⟩ := h
  unfold HasRecords
  rw [find_recordDelivery, hfound]
  split_ifs with hseq
  · refine ⟨event.withDelivery now id status error nextRetry, rfl, ?_⟩
    rw [← hids]
    exact StoredEvent.ids_withDelivery_of_some (hsome hseq.symm event hfound) _ _ _ _
  · exact ⟨event, rfl, hids⟩

theorem hasRecords_append (store : InMemoryEventStore) (now : ℕ) {event : StoredEvent}
    (hfresh : event.deliveries = []) : (store.append now event).2.HasRecords store.nextSeq [] := by
  unfold HasRecords
  rw [find_append, if_pos rfl]
  exact ⟨_, rfl, by rw [hfresh, List.map_nil]⟩

theorem HasRecords.append (h : store.HasRecords seq ids) (now : ℕ) (event : StoredEvent) :
    (store.append now event).2.HasRecords seq ids := by
  obtain ⟨stored, hfound, hids⟩ := h
  obtain ⟨hmem, hseq⟩ := find_eq_some_iff.mp hfound
  refine ⟨stored, ?_, hids⟩
  rw [find_append, if_neg (hseq ▸ (seq_lt_nextSeq hmem).ne), hfound]

theorem HasRecords.compact (h : store.HasRecords seq ids) (now olderThan : ℕ)
    (hspared : ∀ event, store.find seq = some event →
      event.isCompactable (now - olderThan) = false) :
    (store.compact now olderThan).2.HasRecords seq ids := by
  obtain ⟨event, hfound, hids⟩ := h
  refine ⟨event, ?_, hids⟩
  rw [find_compact, hfound]
  simp [hspared event hfound]

end InMemoryEventStore

/-! ## One dispatch -/

/-- The subscriber whose outcome is on its way to the store, if there is one. -/
def Stage.reported (stage : Stage) : List String := stage.report.toList.map (·.subscriberId)

namespace Dispatch

/-- A dispatch in flight has made these attempts of a plan, and has recorded them if all was
written. -/
structure Progress (behaviour : String → Payload → InterceptOutcome) (config : Config) (bus : Bus)
    (whole : Plan) (written : Prop) (made : List Attempt) (d : Dispatch) : Prop where
  persisted : d.isReply = false
  attempts : whole.attempts = made.map (·.handed) ++ (d.plan behaviour config bus).attempts
  endsEarly : (d.plan behaviour config bus).endsEarly = whole.endsEarly
  anyFailed : d.anyFailed = made.any (·.outcome ≠ .delivered)
  records (written : written) : ∃ recorded, bus.store.HasRecords d.seq recorded ∧
    recorded ++ d.stage.reported = made.map (·.subscriberId)
  closing {status : EventStatus} (closes : d.stage.closeStatus = some status) :
    status = .delivered

theorem ofStatus_eq_delivered_iff (status : DeliveryStatus) :
    AttemptOutcome.ofStatus status = .delivered ↔ status = .delivered := by
  cases status <;> simp [AttemptOutcome.ofStatus]

section Silent

variable {config : Config} {input : DispatchInput} {bus after : Bus} {d d' : Dispatch}
  (h : Effect config input bus d after d') (hturn : ∀ id result next, ¬ Turn input bus d id result next)
include h hturn

theorem Effect.log_of_silent : after.log = bus.log ∧ d'.anyFailed = d.anyFailed := by
  cases h with
  | silent _ _ _ anyFailed log _ => exact ⟨log, anyFailed⟩
  | attempt turn => exact absurd turn (hturn _ _ _)
  | record => exact ⟨Bus.recordDelivery_log _ _ _ _, rfl⟩

/-- A step without an attempt moves the outcome it carries, if any, to the store. -/
theorem Effect.records_of_silent (howns : d.Owns bus.store) (hwrites : d.writes input = true)
    {ids : List String} (hrecords : ∃ recorded, bus.store.HasRecords d.seq recorded ∧
      recorded ++ d.stage.reported = ids) :
    ∃ recorded, after.store.HasRecords d.seq recorded ∧ recorded ++ d'.stage.reported = ids := by
  obtain ⟨recorded, hrecorded, hids⟩ := hrecords
  cases h with
  | silent before silent _ _ _ store =>
    obtain ⟨ok, status, hstore⟩ := store
    refine ⟨recorded, ?_, ?_⟩
    · rw [hstore]
      unfold Bus.updateStatus
      split_ifs
      · exact hrecorded.updateStatus _ _
      · exact hrecorded
    · rw [Stage.reported, before] at hids
      rw [Stage.reported, silent, hids]
  | attempt turn => exact absurd turn (hturn _ _ _)
  | @record report next stage =>
    obtain ⟨event, hfound, _, _, _, hunrecorded, _⟩ := howns.stored
    have hnone (stored : StoredEvent) (hstored : bus.store.find d.seq = some stored) :
        stored.recordOf report.subscriberId = none := by
      obtain rfl := Option.some.inj (hfound.symm.trans hstored)
      apply hunrecorded
      rw [stage]
      exact List.mem_cons_self
    refine ⟨recorded ++ [report.subscriberId], ?_, ?_⟩
    · simp only [Bus.recordDelivery, hwrites, if_true]
      exact hrecorded.record_first _ _ _ _ hnone
    · have hnext : next.reported = [] := by
        rw [Stage.reported, Stage.report_of_isAfterTurn (howns.follows stage)]
        rfl
      rw [← hids, stage, hnext, List.append_nil]
      rfl

end Silent

namespace Progress

variable {behaviour : String → Payload → InterceptOutcome} {config : Config} {bus : Bus}
  {whole : Plan} {written : Prop} {made : List Attempt} {d : Dispatch}

/-- What others do meanwhile. -/
theorem of_keeps (h : d.Progress behaviour config bus whole written made) {next : Bus}
    (hregistry : bus.KeepsRegistry next)
    (hrecords : ∀ ids, bus.store.HasRecords d.seq ids → next.store.HasRecords d.seq ids) :
    d.Progress behaviour config next whole written made where
  persisted := h.persisted
  attempts := by rw [plan_of_keeps hregistry, h.attempts]
  endsEarly := by rw [plan_of_keeps hregistry, h.endsEarly]
  anyFailed := h.anyFailed
  records hwritten := by
    obtain ⟨recorded, hrecorded, hmade⟩ := h.records hwritten
    exact ⟨recorded, hrecords _ hrecorded, hmade⟩
  closing := h.closing

variable {input : DispatchInput}

section

variable (h : d.Progress behaviour config bus whole written made)
include h

theorem turn {id : String} {result : AttemptResult} {next : Stage}
    (hturn : Turn input bus d id result next) (hbehaves : d.Behaves behaviour input) :
    (d.finishAttempt config input id result next).2.Progress behaviour config
      (d.finishAttempt config input id result next).1 whole written
      (made ++ [d.attemptOf id result]) := by
  have hchange : Change config input bus d _ _ := .attempt hturn
  have hplan (e : Dispatch) : plan behaviour config
      (d.finishAttempt config input id result next).1 e = plan behaviour config bus e :=
    plan_of_keeps hchange.keepsRegistry e
  constructor
  · exact h.persisted
  · rw [hplan, h.attempts, plan_of_turn hturn hbehaves, List.map_append, List.append_assoc]
    rfl
  · rw [hplan, ← h.endsEarly, plan_of_turn hturn hbehaves]
    rfl
  · simp [finishAttempt, h.anyFailed, attemptOf, ofStatus_eq_delivered_iff]
  · intro hwritten
    obtain ⟨recorded, hrecorded, hmade⟩ := h.records hwritten
    refine ⟨recorded, hturn.store ▸ hrecorded, ?_⟩
    rw [Stage.reported, hturn.report_eq_none] at hmade
    rw [List.map_append, ← hmade]
    simp [finishAttempt, Stage.reported, Stage.report, attemptOf]
  · exact hchange.closing fun _ ↦ h.closing

/-- A step without an attempt, unless the dispatch returns. -/
theorem silent (howns : d.Owns bus.store)
    (hturn : ∀ id result next, ¬ Turn input bus d id result next)
    (hrunning : d.stage.isReturned = false) (hok : written → input.storeOk = true)
    (hstill : (d.step config input bus).2.stage.isReturned = false) :
    (d.step config input bus).1.log = bus.log ∧
      (d.step config input bus).2.Progress behaviour config (d.step config input bus).1 whole
        written made := by
  have hchange := change_of_step config input bus hrunning
  have hsame := hchange.same
  obtain ⟨hlog, hfailed⟩ := hchange.effect.log_of_silent hturn
  have hplan : plan behaviour config (d.step config input bus).1 (d.step config input bus).2 =
      plan behaviour config bus d := by
    rw [plan_of_keeps hchange.keepsRegistry, plan_of_silent hturn hstill]
  refine ⟨hlog, ?_⟩
  constructor
  · rw [hsame.isReply, h.persisted]
  · rw [hplan, h.attempts]
  · rw [hplan, h.endsEarly]
  · rw [hfailed, h.anyFailed]
  · intro hwritten
    have hwrites : d.writes input = true := by simp [writes, hok hwritten, h.persisted]
    rw [hsame.seq]
    exact hchange.effect.records_of_silent hturn howns hwrites (h.records hwritten)
  · exact hchange.closing fun _ ↦ h.closing

/-- A step of its own, unless it ends the dispatch. -/
theorem step (howns : d.Owns bus.store) (hrunning : d.stage.isReturned = false)
    (hbehaves : d.Behaves behaviour input) (hok : written → input.storeOk = true)
    (hstill : (d.step config input bus).2.stage.isReturned = false) :
    ∃ new : List Attempt, (d.step config input bus).1.log = new.map .attempted ++ bus.log ∧
      dispatchedIn d.seq (new.map .attempted) = new ∧
      (d.step config input bus).2.Progress behaviour config (d.step config input bus).1 whole
        written (made ++ new) := by
  by_cases hturn : ∃ id result next, Turn input bus d id result next
  · obtain ⟨id, result, next, hturn⟩ := hturn
    rw [hturn.step]
    exact ⟨[d.attemptOf id result], hturn.log, by simp [dispatchedIn, attemptOf],
      h.turn hturn hbehaves⟩
  · simp only [not_exists] at hturn
    obtain ⟨hlog, hprogress⟩ := h.silent howns hturn hrunning hok hstill
    exact ⟨[], hlog, rfl, by rwa [List.append_nil]⟩

/-- The step that ends the dispatch. -/
theorem finish (howns : d.Owns bus.store) (hrunning : d.stage.isReturned = false)
    (hok : written → input.storeOk = true)
    (hreturned : (d.step config input bus).2.stage.isReturned = true) :
    (d.step config input bus).1.log = bus.log ∧ whole.attempts = made.map (·.handed) ∧
      (written → ∃ event, (d.step config input bus).1.store.find d.seq = some event ∧
        event.deliveries.map (·.subscriberId) = made.map (·.subscriberId) ∧
        (event.status = .delivered ↔
          whole.endsEarly = true ∨ ∀ attempt ∈ made, attempt.outcome = .delivered)) := by
  have hchange := change_of_step config input bus hrunning
  obtain ⟨status, hstage, hafter⟩ := hchange.of_returned (fun hrecord ↦ howns.follows hrecord)
    hreturned
  have hattempts := h.attempts
  have hendsEarly := h.endsEarly
  rw [hafter]
  refine ⟨Bus.updateStatus_log _ _ _ _, ?_, fun hwritten ↦ ?_⟩
  · obtain hstage | ⟨hstage, _⟩ := hstage
    all_goals simpa [plan, hstage, planAt, Plan.ended] using hattempts
  have hwrites : d.writes input = true := by simp [writes, hok hwritten, h.persisted]
  obtain ⟨recorded, ⟨event, hfound, hids⟩, hmade⟩ := h.records hwritten
  rw [Bus.updateStatus, if_pos hwrites]
  refine ⟨event.withStatus status, ?_, ?_, ?_⟩
  · simp only [InMemoryEventStore.find_updateStatus, if_true, hfound]
    rfl
  · have hnone : d.stage.reported = [] := by
      obtain hstage | ⟨hstage, _⟩ := hstage
      all_goals simp [hstage, Stage.reported, Stage.report]
    rw [hnone, List.append_nil] at hmade
    exact hids.trans hmade
  · obtain hstage | ⟨hstage, rfl⟩ := hstage
    · obtain rfl := h.closing (by rw [hstage]; rfl)
      have hearly : whole.endsEarly = true := by
        simpa [plan, hstage, planAt, Plan.ended] using hendsEarly.symm
      exact iff_of_true rfl (.inl hearly)
    · have hlate : whole.endsEarly = false := by
        simpa [plan, hstage, planAt] using hendsEarly.symm
      have hfailed := h.anyFailed
      simp only [StoredEvent.withStatus, finalStatus, hlate]
      cases hany : d.anyFailed with
      | true =>
        rw [hany, eq_comm, List.any_eq_true] at hfailed
        obtain ⟨attempt, hmem, hbad⟩ := hfailed
        simpa using ⟨attempt, hmem, by simpa using hbad⟩
      | false =>
        rw [hany, eq_comm, List.any_eq_false] at hfailed
        simpa using hfailed

end

end Progress

end Dispatch

namespace Pipeline

/-- What the dispatch of an event comes to: the sync and the async subscriptions it is for and the
attempts made. -/
structure Law (behaviour : String → Payload → InterceptOutcome) (config : Config) (bus : Bus)
    (subject : String) (payload : Payload) (sync async : List SubscriptionEntry)
    (attempts : List Attempt) : Prop where
  /-- They are the registered subscriptions that match the subject and accept the published
  payload. -/
  accepted : (sync ++ async).Perm <| (bus.index.list none).filter fun entry ↦
    patternMatches (tokens entry.subjectPattern) (tokens subject) &&
      entry.filter.all (·.matches config.json payload)
  modes : (∀ entry ∈ sync, entry.mode = .sync) ∧ ∀ entry ∈ async, entry.mode = .async
  priorities : sync.Pairwise fun a b ↦ a.priority ≤ b.priority
  once : (attempts.map (·.subscriberId)).Nodup
  /-- Either a sync subscriber drops the event, or everybody is attempted. -/
  schedule : (∃ k < sync.length, dropsAt behaviour payload (sync.map bus.syncEntry) k = true ∧
      (∀ j < k, dropsAt behaviour payload (sync.map bus.syncEntry) j = false) ∧
      attempts.map (·.handed) = ((sync.map bus.syncEntry).take (k + 1)).mapIdx fun j entry ↦
        (entry.id, payloadAt behaviour payload (sync.map bus.syncEntry) j)) ∨
    ((∀ j, dropsAt behaviour payload (sync.map bus.syncEntry) j = false) ∧
      attempts.map (·.handed) = ((sync.map bus.syncEntry).mapIdx fun j entry ↦
        (entry.id, payloadAt behaviour payload (sync.map bus.syncEntry) j)) ++
        async.map fun entry ↦
          (entry.id, payloadAt behaviour payload (sync.map bus.syncEntry) sync.length))

/-- What the store holds of the event at the end. -/
structure Recorded (behaviour : String → Payload → InterceptOutcome) (bus : Bus) (payload : Payload)
    (sync : List SubscriptionEntry) (attempts : List Attempt) (event : StoredEvent) : Prop where
  records : event.deliveries.map (·.subscriberId) = attempts.map (·.subscriberId)
  status : event.status = .delivered ↔ (∀ attempt ∈ attempts, attempt.outcome = .delivered) ∨
    ∃ k, dropsAt behaviour payload (sync.map bus.syncEntry) k = true

/-- A dispatch that carried out its plan obeys the law. -/
theorem law_of_plan {behaviour : String → Payload → InterceptOutcome} {config : Config} {bus : Bus}
    (hindex : bus.DistinctIndex) {subject : String} {payload : Payload} {attempts : List Attempt}
    {whole : Plan}
    (hwhole : Dispatch.markPlan behaviour config bus payload (bus.index.lookup subject) = whole)
    (hattempts : whole.attempts = attempts.map (·.handed)) :
    ∃ sync async, Law behaviour config bus subject payload sync async attempts ∧
      ∀ event : StoredEvent,
        event.deliveries.map (·.subscriberId) = attempts.map (·.subscriberId) →
        (event.status = .delivered ↔
          whole.endsEarly = true ∨ ∀ attempt ∈ attempts, attempt.outcome = .delivered) →
        Recorded behaviour bus payload sync attempts event := by
  obtain ⟨live, hlive, hdistinct, _⟩ := hindex
  have hanswers := hlive.answers hdistinct
  let kept := Dispatch.accepting config payload (bus.index.lookup subject)
  let sync := kept.filter (·.mode = .sync)
  let async := kept.filter (·.mode = .async)
  let chain := sync.map bus.syncEntry
  have hsplit : (sync ++ async).Perm kept := Dispatch.perm_by_mode kept
  have hplan : whole.attempts = (chainPlan behaviour async payload chain).attempts ∧
      (whole.endsEarly = (chainPlan behaviour async payload chain).endsEarly ∨ attempts = []) := by
    rw [Dispatch.markPlan] at hwhole
    split_ifs at hwhole with hempty
    · subst hwhole
      have hnone : kept = [] := List.isEmpty_iff.mp hempty
      refine ⟨?_, .inr (List.map_eq_nil_iff.mp hattempts.symm)⟩
      simp only [chain, sync, async, hnone]
      rfl
    · subst hwhole
      exact ⟨rfl, .inl rfl⟩
  rw [hplan.1] at hattempts
  refine ⟨sync, async, ?_, fun event hrecords hstatus ↦ ⟨hrecords, ?_⟩⟩
  constructor
  · have hall := (hanswers.list_perm none).filter fun entry ↦
      patternMatches (tokens entry.subjectPattern) (tokens subject) &&
        entry.filter.all (·.matches config.json payload)
    refine hsplit.trans ((((hanswers.lookup_perm subject).filter _).trans ?_).trans hall.symm)
    rw [List.filter_filter, List.filter_filter]
    apply List.Perm.of_eq
    apply List.filter_congr
    intro entry _
    simp [Bool.and_comm]
  · constructor
    all_goals
      intro entry hentry
      simpa using List.of_mem_filter hentry
  · exact ((hanswers.lookup_sorted subject).filter _).filter _
  · have hids : ((sync ++ async).map (·.id)).Nodup := by
      have hlookup := ((hanswers.lookup_perm subject).map (·.id)).nodup_iff.mpr
        (hdistinct.sublist (List.filter_sublist.map _))
      exact (hsplit.map _).nodup_iff.mpr (hlookup.sublist (List.filter_sublist.map _))
    have hchain : chain.map (·.id) = sync.map (·.id) := by
      simp [chain, Bus.syncEntry, Function.comp_def]
    have hmade : attempts.map (·.subscriberId) = (attempts.map (·.handed)).map Prod.fst := by
      simp [Attempt.handed, Function.comp_def]
    rw [hmade, ← hattempts]
    rw [List.map_append, ← hchain] at hids
    exact hids.sublist (chainPlan_ids_sublist async payload chain)
  · rw [← hattempts]
    obtain ⟨k, hk, hdrops, hbefore, heq⟩ | ⟨hnone, heq⟩ := chainPlan_eq async payload chain
    · exact .inl ⟨k, by simpa [chain] using hk, hdrops, hbefore, by rw [heq]⟩
    · refine .inr ⟨hnone, ?_⟩
      rw [heq]
      simp [chain]
  · have hearly : (chainPlan behaviour async payload chain).endsEarly = true ↔
        ∃ k, dropsAt behaviour payload chain k = true := by
      obtain ⟨k, _, hdrops, _, heq⟩ | ⟨hnone, heq⟩ := chainPlan_eq async payload chain
      · exact iff_of_true (by rw [heq]) ⟨k, hdrops⟩
      · refine iff_of_false (by simp [heq]) ?_
        rintro ⟨k, hdrops⟩
        simp [hnone] at hdrops
    rw [hstatus, or_comm]
    obtain hsame | hnone := hplan.2
    · rw [hsame, hearly]
    · simp [hnone]

end Pipeline

/-! ## Runs with fixed registrations -/

namespace System

/-- The interceptors of a dispatch end as they should. -/
def Behaves (behaviour : String → Payload → InterceptOutcome) (i : ℕ) (system : System) :
    Label → Prop
  | .dispatch j input => j = i → ∀ d ∈ system.dispatches[i]?, d.Behaves behaviour input
  | _ => True

instance (behaviour : String → Payload → InterceptOutcome) (i : ℕ) (system : System) (label : Label) :
    Decidable (system.Behaves behaviour i label) := by
  induction label using Label.casesOn <;> dsimp only [Behaves] <;> infer_instance

/-- A step of a run with fixed registrations, in which the interceptors of a dispatch behave in a
given way and compaction spares the events in use. -/
def Steady (behaviour : String → Payload → InterceptOutcome) (i : ℕ) (system : System)
    (label : Label) : Prop :=
  keepsTable label = true ∧ system.SparesInUse label ∧ system.Behaves behaviour i label

instance (behaviour : String → Payload → InterceptOutcome) (i : ℕ) (system : System)
    (label : Label) : Decidable (system.Steady behaviour i label) :=
  inferInstanceAs (Decidable (_ ∧ _ ∧ _))

/-- Such a step in which, moreover, the store takes every write. -/
def Fixed (behaviour : String → Payload → InterceptOutcome) (i : ℕ) (system : System)
    (label : Label) : Prop :=
  keepsTable label = true ∧ system.Orderly label ∧ system.Behaves behaviour i label

instance (behaviour : String → Payload → InterceptOutcome) (i : ℕ) (system : System)
    (label : Label) : Decidable (system.Fixed behaviour i label) :=
  inferInstanceAs (Decidable (_ ∧ _ ∧ _))

theorem Fixed.steady {behaviour : String → Payload → InterceptOutcome} {i : ℕ} {system : System}
    {label : Label} (h : system.Fixed behaviour i label) : system.Steady behaviour i label :=
  ⟨h.1, h.2.1.2, h.2.2⟩

/-- A dispatch that was started on the bus `start` carries out its plan. -/
structure Underway (behaviour : String → Payload → InterceptOutcome) (config : Config)
    (start : Bus) (i seq : ℕ) (whole : Plan) (written : Prop) (system : System) : Prop where
  disjoint : system.Disjoint config
  registry : start.KeepsRegistry system.bus
  started : i < system.dispatches.length
  progress {d : Dispatch} (at_i : system.dispatches[i]? = some d)
    (running : d.stage.isReturned = false) :
    d.seq = seq ∧ ∃ since, system.bus.log = since ++ start.log ∧
      d.Progress behaviour config system.bus whole written (dispatchedIn seq since)

namespace Underway

variable {behaviour : String → Payload → InterceptOutcome} {config : Config}
  {start : Bus} {system next : System} {i seq : ℕ} {whole : Plan} {written : Prop}

/-- A step of somebody else. -/
theorem of_keeps (h : system.Underway behaviour config start i seq whole written)
    (hdisjoint : next.Disjoint config) (hregistry : system.bus.KeepsRegistry next.bus)
    (hstarted : i < next.dispatches.length)
    (hdispatches : ∀ d : Dispatch, next.dispatches[i]? = some d → system.dispatches[i]? = some d)
    (hothers : ∀ d : Dispatch, system.dispatches[i]? = some d → d.active = true →
      (∃ new, next.bus.log = new ++ system.bus.log ∧ dispatchedIn d.seq new = []) ∧
      ∀ ids, system.bus.store.HasRecords d.seq ids → next.bus.store.HasRecords d.seq ids) :
    next.Underway behaviour config start i seq whole written where
  disjoint := hdisjoint
  registry := h.registry.trans hregistry
  started := hstarted
  progress {d} hat hrunning := by
    obtain ⟨rfl, since, hlog, hprogress⟩ := h.progress (hdispatches d hat) hrunning
    have hactive : d.active = true := by simp [Dispatch.active, hprogress.persisted, hrunning]
    obtain ⟨⟨new, hnew, hnone⟩, hrecords⟩ := hothers d (hdispatches d hat) hactive
    refine ⟨rfl, new ++ since, by rw [hnew, hlog, List.append_assoc], ?_⟩
    rw [dispatchedIn_append, hnone, List.append_nil]
    exact hprogress.of_keeps hregistry hrecords

variable {input : DispatchInput} {bus : Bus}

section

variable (h : system.Underway behaviour config start i seq whole written)
include h

/-- A step of another dispatch. -/
theorem dispatch_other {j : ℕ} {e e' : Dispatch} (hne : j ≠ i)
    (hat : system.dispatches[j]? = some e)
    (hchange : Dispatch.Change config input system.bus e bus e') :
    Underway behaviour config start i seq whole written
      { system with bus, dispatches := system.dispatches.set j e' } := by
  apply h.of_keeps (h.disjoint.dispatch hat hchange) hchange.keepsRegistry
  · simpa using h.started
  · intro d hatd
    obtain ⟨hji, _⟩ | ⟨_, hatd⟩ := at_of_set hatd
    · exact absurd hji hne
    · exact hatd
  · intro d hatd hactive
    have hseq (hother : e.active = true) : e.seq ≠ d.seq := fun hseq ↦
      hne (h.disjoint.apart hat hatd hother hactive hseq)
    constructor
    · cases hchange.effect with
      | silent _ _ _ _ log => exact ⟨[], log, rfl⟩
      | record => exact ⟨[], Bus.recordDelivery_log _ _ _ _, rfl⟩
      | @attempt id result next turn =>
        have hlog : (e.finishAttempt config input id result next).1.log = _ := turn.log
        refine ⟨[.attempted (e.attemptOf id result)], hlog, ?_⟩
        have hdifferent : e.seq ≠ d.seq := by
          by_cases hother : e.active = true
          · exact hseq hother
          · have hreply : e.isReply = true := by
              simpa [Dispatch.active, turn.running] using hother
            rw [h.disjoint.replies hat hreply]
            exact (h.disjoint.seq_ne_zero hatd hactive).symm
        simp [dispatchedIn, Dispatch.attemptOf, hdifferent]
    · intro ids hids
      apply hchange.keeps (P := fun store ↦ store.HasRecords d.seq ids) hids
      · exact fun status _ ↦ hids.updateStatus _ _
      · exact fun report next hother _ ↦ hids.record_again _ _ _ _ _ fun heq ↦
          absurd heq (hseq hother)

/-- A step of the retry task. -/
theorem retry {input : RetryInput} {phase : RetryPhase}
    (hchange : RetryPhase.Change config input system.bus system.retry bus phase) :
    Underway behaviour config start i seq whole written { system with bus, retry := phase } := by
  apply h.of_keeps (h.disjoint.retry hchange) hchange.keepsRegistry h.started fun _ hat ↦ hat
  intro d hat hactive
  constructor
  · exact hchange.dispatchedIn_eq_nil d.seq
  · intro ids hids
    apply hchange.keeps (P := fun store ↦ store.HasRecords d.seq ids) hids
    · exact fun _ status _ _ ↦ hids.updateStatus _ _
    · intro item report todo hphase
      have hitem := RetryPhase.mem_items_of_recording hphase
      obtain ⟨stored, record, hstored, hrecord, _⟩ := h.disjoint.current hitem
      apply hids.record_again
      intro hseq event hfound
      rw [← hseq, hstored] at hfound
      cases hfound
      rw [h.disjoint.reported hphase, hrecord]
      exact Option.some_ne_none _

/-- A step of its own. -/
theorem dispatch_own {d : Dispatch} (hat : system.dispatches[i]? = some d)
    (hrunning : d.stage.isReturned = false) (hbehaves : d.Behaves behaviour input)
    (hok : written → input.storeOk = true) :
    Underway behaviour config start i seq whole written { system with
      bus := (d.step config input system.bus).1
      dispatches := system.dispatches.set i (d.step config input system.bus).2 } := by
  have hchange := Dispatch.change_of_step config input system.bus hrunning
  obtain ⟨rfl, since, hlog, hprogress⟩ := h.progress hat hrunning
  have howns : d.Owns system.bus.store :=
    h.disjoint.owns hat (by simp [Dispatch.active, hprogress.persisted, hrunning])
  constructor
  · exact h.disjoint.dispatch hat hchange
  · exact h.registry.trans hchange.keepsRegistry
  · simpa using h.started
  · intro d' hat' hstill
    obtain ⟨_, rfl⟩ | ⟨hne, _⟩ := at_of_set hat'
    · obtain ⟨new, hnew, hnewly, hnext⟩ := hprogress.step howns hrunning hbehaves hok hstill
      refine ⟨hchange.same.seq, new.map .attempted ++ since, ?_, ?_⟩
      · simp only [hnew, hlog, List.append_assoc]
      · rw [dispatchedIn_append, hnewly]
        exact hnext
    · exact absurd rfl hne

theorem step {label : Label} (hsteady : system.Steady behaviour i label)
    (hwrites : written → label.writesSucceed = true)
    (hstep : System.step config system label = some next) :
    next.Underway behaviour config start i seq whole written := by
  obtain ⟨htable, hspared, hbehaves⟩ := hsteady
  have hdisjoint := h.disjoint.step hspared hstep
  have hregistry := (keepsRegistry_of_step hstep htable).1
  have hsame (d : Dispatch) (hstore : next.bus.store = system.bus.store) (ids : List String)
      (hids : system.bus.store.HasRecords d.seq ids) : next.bus.store.HasRecords d.seq ids :=
    hstore ▸ hids
  cases change_of_step hstep with
  | quiet quiet =>
    apply h.of_keeps hdisjoint hregistry (quiet.dispatches ▸ h.started)
    · exact fun d hat ↦ quiet.dispatches ▸ hat
    · intro d hat hactive
      refine ⟨?_, hsame d quiet.store⟩
      obtain hlog | ⟨_, _, _, hlog⟩ := quiet.log
      · exact ⟨[], hlog, rfl⟩
      · exact ⟨[_], hlog, rfl⟩
  | publish fresh starts =>
    apply h.of_keeps hdisjoint hregistry
    · simpa using h.started.trans (Nat.lt_succ_self _)
    · intro d hat
      rwa [List.getElem?_append_left h.started] at hat
    · exact fun d hat hactive ↦ ⟨⟨[_], rfl, rfl⟩, fun ids hids ↦ hids.append _ _⟩
  | publishReply starts =>
    apply h.of_keeps hdisjoint hregistry
    · simpa using h.started.trans (Nat.lt_succ_self _)
    · intro d hat
      rwa [List.getElem?_append_left h.started] at hat
    · exact fun d hat hactive ↦ ⟨⟨[], rfl, rfl⟩, fun ids hids ↦ hids⟩
  | @dispatch j input e at_j running =>
    by_cases hji : j = i
    · subst hji
      exact h.dispatch_own at_j running (hbehaves rfl e at_j) hwrites
    · exact h.dispatch_other hji at_j (Dispatch.change_of_step _ _ _ running)
  | poll idle =>
    apply h.of_keeps hdisjoint hregistry h.started fun _ hat ↦ hat
    exact fun d hat hactive ↦ ⟨⟨[], rfl, rfl⟩, fun ids hids ↦ hids⟩
  | retry busy => exact h.retry (RetryPhase.change_of_step _ _ _ busy)
  | compact =>
    apply h.of_keeps hdisjoint hregistry h.started fun _ hat ↦ hat
    intro d hat hactive
    refine ⟨⟨[], rfl, rfl⟩, fun ids hids ↦ hids.compact _ _ fun event hfound ↦ ?_⟩
    exact hspared.not_compactable (.inl ⟨d, List.mem_of_getElem? hat, hactive, rfl⟩) hfound

end

end Underway

variable {system : System}

/-- An accepted publish starts a dispatch whose plan is that of the subscriptions found. -/
theorem underway_of_publish (behaviour : String → Payload → InterceptOutcome) (written : Prop)
    {config : Config}
    {published : System} (h : system.Disjoint config) {intercepting : Option String}
    {subject : String} {payload : Payload} {replySubject : Option String}
    {storeError : Option StorageError} {seq : ℕ}
    (hpublish : step config system
      (.publish intercepting subject payload replySubject storeError) = some published)
    (hpersisted : published.bus.log = .appended seq payload :: system.bus.log) :
    published.Underway behaviour config published.bus system.dispatches.length seq
      (Dispatch.markPlan behaviour config system.bus payload
        (system.bus.index.lookup subject)) written := by
  have hdisjoint := h.step (by exact trivial) hpublish
  have hregistry := (keepsRegistry_of_step hpublish rfl).1
  cases effect_of_step hpublish with
  | refused | publishReply => exact absurd hpersisted (List.cons_ne_self _ _).symm
  | @publish _ _ _ _ _ d hstarts =>
    obtain ⟨rfl, _⟩ := LogEntry.appended.inj (List.cons.inj hpersisted).1
    constructor
    · exact hdisjoint
    · exact ⟨rfl, rfl, rfl, rfl⟩
    · simp
    · intro e hat hrunning
      obtain rfl : d = e := by simpa using hat
      refine ⟨hstarts.seq, [], rfl, ?_⟩
      have hplan : d.plan behaviour config system.bus = Dispatch.markPlan behaviour config
          system.bus payload (system.bus.index.lookup subject) := by
        rw [Dispatch.plan, hstarts.stage, hstarts.subject, hstarts.current]
        rfl
      constructor
      · exact hstarts.isReply
      · rw [Dispatch.plan_of_keeps hregistry, hplan]
        rfl
      · rw [Dispatch.plan_of_keeps hregistry, hplan]
      · exact hstarts.anyFailed
      · have hreported : d.stage.reported = [] := by
          rw [hstarts.stage]
          rfl
        rw [hstarts.seq, hreported]
        exact fun _ ↦ ⟨[], InMemoryEventStore.hasRecords_append _ _ rfl, rfl⟩
      · intro status hcloses
        rw [hstarts.stage] at hcloses
        exact absurd hcloses (by simp [Stage.closeStatus])

/-- A dispatch gets to its end by steps of its own. -/
theorem exists_returned (behaviour : String → Payload → InterceptOutcome) (config : Config) {i : ℕ}
    {d : Dispatch} (hat : system.dispatches[i]? = some d) :
    ∃ after, Steps.Reach (step config) (Fixed behaviour i) system after ∧
      ∃ d' : Dispatch, after.dispatches[i]? = some d' ∧ d'.stage.isReturned = true := by
  induction hleft : d.stepsLeft behaviour config system.bus using Nat.strong_induction_on
    generalizing system d with
  | _ left ih =>
    by_cases hreturned : d.stage.isReturned = true
    · exact ⟨system, .init, d, hat, hreturned⟩
    have hrunning := Bool.eq_false_of_not_eq_true hreturned
    let input := d.inputFor behaviour
    let next : System := { system with
      bus := (d.step config input system.bus).1
      dispatches := system.dispatches.set i (d.step config input system.bus).2 }
    have hstep : step config system (.dispatch i input) = some next := by
      simp only [step, hat, hrunning]
      rfl
    have hfixed : system.Fixed behaviour i (.dispatch i input) := by
      refine ⟨rfl, ⟨rfl, trivial⟩, fun _ e he ↦ ?_⟩
      obtain rfl := Option.some.inj (hat.symm.trans he)
      exact d.behaves_inputFor
    have hnext : next.dispatches[i]? = some (d.step config input system.bus).2 :=
      List.getElem?_set_self (List.getElem?_eq_some_iff.mp hat).1
    have hcloser : (d.step config input system.bus).2.stepsLeft behaviour config next.bus <
        left := by
      have hregistry := (Dispatch.change_of_step config input system.bus hrunning).keepsRegistry
      rw [← hleft, Dispatch.stepsLeft, Dispatch.plan_of_keeps hregistry]
      exact Dispatch.stepsLeft_step hrunning d.behaves_inputFor
    obtain ⟨after, hreach, hafter⟩ := ih _ hcloser hnext rfl
    exact ⟨after, (Steps.Reach.next .init hfixed hstep).trans hreach, hafter⟩

end System

end Seidrum.EventBus
