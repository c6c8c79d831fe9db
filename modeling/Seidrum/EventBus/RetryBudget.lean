import Seidrum.EventBus.Disjoint

/-!
# The attempts a delivery gets

The history of the bus holds every attempt; the store holds only a counter and a status for each
delivery.  Along every run whose store writes succeed the two agree: the record of a delivery says
how its last attempt ended and how many attempts failed before, the failed attempts never exceed the
budget, and a record that is delivered or dead-lettered is the last word on its delivery.

A step changes either nothing of this, or the history (an attempt, whose outcome is then on its way
to the store), or the record; each of the three is one lemma below.
-/

namespace Seidrum.EventBus

open Seidrum.Foundation

/-- The attempts on a delivery since its event was appended, newest first. -/
def attemptsOf (seq : ℕ) (subscriberId : String) : List LogEntry → List Attempt
  | [] => []
  | .appended other _ :: rest => if other = seq then [] else attemptsOf seq subscriberId rest
  | .attempted attempt :: rest =>
      if (attempt.seq, attempt.subscriberId) = (seq, subscriberId) then
        attempt :: attemptsOf seq subscriberId rest
      else attemptsOf seq subscriberId rest
  | .webhookReturned _ _ _ :: rest => attemptsOf seq subscriberId rest

/-- An outcome of the delivery is known and on its way to the store. -/
def Dispatch.Recording (d : Dispatch) (key : ℕ × String) : Prop :=
  d.active = true ∧ ∃ report, d.stage.report = some report ∧ (d.seq, report.subscriberId) = key

@[inherit_doc Dispatch.Recording]
def System.Recording (system : System) (key : ℕ × String) : Prop :=
  (∃ d ∈ system.dispatches, d.Recording key) ∨
    ∃ item report, system.retry.report = some (item, report) ∧ item.key = key

/-- The time of the next retry after so many failures fits into 64 bits, whatever is drawn. -/
def Config.FitsRetry (config : Config) (now failures : ℕ) : Prop :=
  now + cappedBackoff failures config.retry.initialBackoffMs config.retry.maxBackoffMs ≤ u64Max

/-- What a record says of the attempts made on its delivery.  A retry is not before the failure it follows,
where `fits` holds of the time of that failure and the number of failures. -/
def RecordsAttempts (maxAttempts : ℕ) (fits : ℕ → ℕ → Prop) :
    List Attempt → Option DeliveryRecord → Prop
  | [], record => record = none
  | last :: earlier, record =>
      (∀ attempt ∈ earlier, attempt.outcome = .transient) ∧ earlier.length < maxAttempts ∧
      ∃ r, record = some r ∧
        match last.outcome with
        | .delivered => r.status = .delivered
        | .permanent => r.status = .deadLettered
        | .transient => r.attempts = earlier.length + 1 ∧
            if earlier.length + 1 < maxAttempts then
              r.status = .failed ∧ ∃ t, r.nextRetry = some t ∧
                (fits last.time (earlier.length + 1) → last.time ≤ t)
            else r.status = .deadLettered ∧ r.attempts = maxAttempts

/-- What is about to be recorded of an attempt that comes after `earlier` failed ones. -/
def Reports (maxAttempts : ℕ) (fits : ℕ → ℕ → Prop) (earlier : ℕ) (attempt : Attempt)
    (report : Report) : Prop :=
  match attempt.outcome with
  | .delivered => report.status = .delivered
  | .permanent => report.status = .deadLettered
  | .transient =>
      if earlier + 1 < maxAttempts then
        report.status = .failed ∧ ∃ t, report.nextRetry = some t ∧
          (fits attempt.time (earlier + 1) → attempt.time ≤ t)
      else report.status = .deadLettered

section Records

variable {maxAttempts : ℕ} {fits : ℕ → ℕ → Prop} {attempt : Attempt} {report : Report}

/-- The first outcome of a delivery. -/
theorem recordsAttempts_first (hmax : 2 ≤ maxAttempts)
    (h : Reports maxAttempts fits 0 attempt report) (now : ℕ) :
    RecordsAttempts maxAttempts fits [attempt] (some (.first now report.subscriberId report.status
      report.error report.nextRetry)) := by
  refine ⟨by simp, by rw [List.length_nil]; omega, _, rfl, ?_⟩
  unfold Reports at h
  cases hcase : attempt.outcome with
  | delivered | permanent =>
    rw [hcase] at h
    exact h
  | transient =>
    simp only [hcase] at h ⊢
    rw [if_pos (by omega)] at h
    rw [if_pos (by rw [List.length_nil]; omega)]
    exact ⟨by simp [DeliveryRecord.first, h.1], h.1, h.2⟩

variable {record : DeliveryRecord} {attempts : List Attempt}

/-- The outcome of an attempt after others that failed. -/
theorem recordsAttempts_transition {earlier : List Attempt}
    (htransient : ∀ attempt ∈ earlier, attempt.outcome = .transient)
    (hlength : earlier.length = record.attempts) (hleft : record.attempts < maxAttempts)
    (h : Reports maxAttempts fits record.attempts attempt report) (now : ℕ) :
    RecordsAttempts maxAttempts fits (attempt :: earlier)
      (some (record.transition now report.status report.error report.nextRetry)) := by
  refine ⟨htransient, hlength ▸ hleft, _, rfl, ?_⟩
  unfold Reports at h
  cases hcase : attempt.outcome with
  | delivered | permanent =>
    rw [hcase] at h
    exact h
  | transient =>
    simp only [hcase] at h ⊢
    rw [hlength]
    split_ifs at h ⊢ with hbudget
    · exact ⟨by simp [DeliveryRecord.transition, h.1, DeliveryStatus.countsAttempt], h⟩
    · have hattempts : (record.transition now report.status report.error
          report.nextRetry).attempts = record.attempts + 1 := by
        simp [DeliveryRecord.transition, h, DeliveryStatus.countsAttempt]
      exact ⟨hattempts, h, by omega⟩

/-- A record that may be retried follows attempts that all failed. -/
theorem RecordsAttempts.of_failed (h : RecordsAttempts maxAttempts fits attempts (some record))
    (hfailed : record.status = .failed) :
    (∀ attempt ∈ attempts, attempt.outcome = .transient) ∧ attempts.length = record.attempts := by
  cases attempts with
  | nil => simp [RecordsAttempts] at h
  | cons last earlier =>
    obtain ⟨htransient, _, r, hr, hlast⟩ := h
    cases hr
    cases hcase : last.outcome with
    | delivered | permanent => simp [hcase, hfailed] at hlast
    | transient =>
      simp only [hcase] at hlast
      exact ⟨List.forall_mem_cons.mpr ⟨hcase, htransient⟩, hlast.1.symm⟩

theorem RecordsAttempts.of_none (h : RecordsAttempts maxAttempts fits attempts none) : attempts = [] := by
  cases attempts with
  | nil => rfl
  | cons last earlier =>
    obtain ⟨_, _, r, hr, _⟩ := h
    cases hr

theorem RecordsAttempts.status_ne_pending (h : RecordsAttempts maxAttempts fits attempts (some record)) :
    record.status ≠ .pending := by
  cases attempts with
  | nil => simp [RecordsAttempts] at h
  | cons last earlier =>
    obtain ⟨_, _, r, hr, hlast⟩ := h
    cases hr
    intro hpending
    cases hcase : last.outcome with
    | delivered | permanent | transient => simp [hcase, hpending] at hlast

end Records

variable {config : Config} {input : DispatchInput} {bus : Bus} {d : Dispatch} {id : String}
  {result : AttemptResult}

/-- What a dispatch is about to record of an attempt. -/
theorem Dispatch.reports (hmax : 2 ≤ config.retry.maxAttempts) (hsound : result.Sound bus) :
    Reports config.retry.maxAttempts config.FitsRetry 0 (d.attemptOf id result) (reportOf config input id result) := by
  unfold Reports
  obtain hstatus | hstatus | hstatus := hsound.status
  · simp [attemptOf, reportOf, hstatus, AttemptOutcome.ofStatus]
  · simp only [attemptOf, reportOf, hstatus, AttemptOutcome.ofStatus]
    rw [if_pos (by omega)]
    exact ⟨trivial, _, rfl, fun hfits ↦ le_nextRetryAfter hfits _⟩
  · simp [attemptOf, reportOf, hstatus, AttemptOutcome.ofStatus]

/-- What the retry task is about to record of an attempt. -/
theorem RetryPhase.reports (config : Config) (input : RetryInput) (item : RetryableDelivery)
    (answer : RetryOutcome × Bus) :
    Reports config.retry.maxAttempts config.FitsRetry item.attempts (attemptOf item answer)
      (reportOf config answer.2.clock input.draw item answer.1) := by
  unfold Reports
  cases hanswer : answer.1 with
  | delivered => simp [attemptOf, hanswer, RetryOutcome.attempt, reportOf]
  | permanent message => simp [attemptOf, hanswer, RetryOutcome.attempt, reportOf, deadLetter]
  | transient message =>
    simp only [attemptOf, hanswer, RetryOutcome.attempt, reportOf]
    by_cases hbudget : item.attempts + 1 < config.retry.maxAttempts
    · rw [if_pos hbudget, if_neg (not_le.mpr hbudget)]
      exact ⟨rfl, _, rfl, fun hfits ↦ le_nextRetryAfter hfits _⟩
    · rw [if_neg hbudget, if_pos (not_lt.mp hbudget)]
      rfl

/-! ## Attempts along a run -/

section Log

variable {seq : ℕ} {id : String} {log : List LogEntry}

theorem attemptsOf_appended_ne {other : ℕ} (payload : Payload) (h : other ≠ seq) :
    attemptsOf seq id (.appended other payload :: log) = attemptsOf seq id log := by
  rw [attemptsOf, if_neg h]

variable {attempt : Attempt}

theorem attemptsOf_attempted_eq (h : (attempt.seq, attempt.subscriberId) = (seq, id)) :
    attemptsOf seq id (.attempted attempt :: log) = attempt :: attemptsOf seq id log := by
  rw [attemptsOf, if_pos h]

theorem attemptsOf_attempted_ne (h : (attempt.seq, attempt.subscriberId) ≠ (seq, id)) :
    attemptsOf seq id (.attempted attempt :: log) = attemptsOf seq id log := by
  rw [attemptsOf, if_neg h]

end Log

theorem Dispatch.active_finishAttempt {next : Stage} (h : d.active = true) :
    (d.finishAttempt config input id result next).2.active = true := by
  unfold active at *
  simp only [Bool.and_eq_true] at h
  simp [finishAttempt, Stage.isReturned, h.1]

/-- A status update leaves the records as they are. -/
theorem recordOf_of_updateStatus {ok : Bool} {changed seq : ℕ} {status : EventStatus} {event : StoredEvent}
    (h : (bus.updateStatus ok changed status).store.find seq = some event) :
    ∃ old, bus.store.find seq = some old ∧ ∀ id, event.recordOf id = old.recordOf id := by
  unfold Bus.updateStatus at h
  split_ifs at h
  · simp only [InMemoryEventStore.find_updateStatus] at h
    split_ifs at h
    · obtain ⟨old, hold, rfl⟩ := Option.map_eq_some_iff.mp h
      exact ⟨old, hold, fun _ ↦ rfl⟩
    · exact ⟨event, h, fun _ ↦ rfl⟩
  · exact ⟨event, h, fun _ ↦ rfl⟩

namespace System

/-- The records agree with the history, up to the outcomes on their way to the store. -/
structure Accounted (config : Config) (system : System) : Prop where
  disjoint : system.Disjoint config
  settled {seq : ℕ} {id : String} {event : StoredEvent}
    (found : system.bus.store.find seq = some event) (idle : ¬ system.Recording (seq, id)) :
    RecordsAttempts config.retry.maxAttempts config.FitsRetry (attemptsOf seq id system.bus.log)
      (event.recordOf id)
  dispatched {d : Dispatch} {seq : ℕ} {id : String} (mem : d ∈ system.dispatches)
    (recording : d.Recording (seq, id)) :
    ∃ attempt report, d.stage.report = some report ∧
      attemptsOf seq id system.bus.log = [attempt] ∧
      Reports config.retry.maxAttempts config.FitsRetry 0 attempt report
  retried {item : RetryableDelivery} {report : Report}
    (recording : system.retry.report = some (item, report)) :
    ∃ attempt earlier, attemptsOf item.seq item.subscriberId system.bus.log = attempt :: earlier ∧
      (∀ other ∈ earlier, other.outcome = .transient) ∧ earlier.length = item.attempts ∧
      Reports config.retry.maxAttempts config.FitsRetry item.attempts attempt report
  bounded {seq : ℕ} (stored : 0 < seq) (id : String) :
    (attemptsOf seq id system.bus.log).length ≤ config.retry.maxAttempts

theorem accounted_build (config : Config) (clock : ℕ) : (build .empty clock).Accounted config where
  disjoint := disjoint_build config clock
  settled found := by simp [build, Bus.onStore, InMemoryEventStore.find,
    InMemoryEventStore.empty] at found
  dispatched := by simp [build]
  retried := by simp [build, RetryPhase.report]
  bounded _ _ := Nat.zero_le _

/-- Nothing the accounts depend on changed. -/
structure SameAccounts (system next : System) : Prop where
  before {d : Dispatch} {key : ℕ × String} (mem : d ∈ next.dispatches)
    (recording : d.Recording key) : d ∈ system.dispatches
  after {d : Dispatch} {key : ℕ × String} (mem : d ∈ system.dispatches)
    (recording : d.Recording key) : d ∈ next.dispatches
  retry : next.retry.report = system.retry.report
  log {seq : ℕ} (stored : 0 < seq) (id : String) :
    attemptsOf seq id next.bus.log = attemptsOf seq id system.bus.log
  records {seq : ℕ} {event : StoredEvent} (found : next.bus.store.find seq = some event) :
    ∃ old, system.bus.store.find seq = some old ∧ ∀ id, event.recordOf id = old.recordOf id

namespace Disjoint

variable {config : Config} {system : System} {seq i : ℕ} {d : Dispatch} {id : String}
  {item : RetryableDelivery}

section

variable (h : system.Disjoint config)
include h

theorem pos_of_find {event : StoredEvent} (hfound : system.bus.store.find seq = some event) : 0 < seq := by
  apply Nat.pos_of_ne_zero
  rintro rfl
  simp [h.numbered] at hfound

theorem pos_of_recording (hmem : d ∈ system.dispatches) (hrecording : d.Recording (seq, id)) : 0 < seq := by
  obtain ⟨hactive, report, _, hkey⟩ := hrecording
  obtain ⟨i, hat⟩ := List.mem_iff_getElem?.mp hmem
  rw [← (Prod.mk.inj hkey).1]
  exact Nat.pos_of_ne_zero (h.seq_ne_zero hat hactive)

theorem pos_of_item (hmem : item ∈ system.retry.items) : 0 < item.seq := by
  obtain ⟨event, _, hfound, _⟩ := h.current hmem
  exact h.pos_of_find hfound

theorem attempts_lt : ∀ item ∈ system.retry.items, item.attempts < config.retry.maxAttempts := by
  intro item hitem
  obtain ⟨_, _, _, _, _, _, hleft, _⟩ := h.current hitem
  exact hleft

theorem item_not_pending (hmem : item ∈ system.retry.items) (hat : system.dispatches[i]? = some d)
    (hactive : d.active = true) (hseq : item.seq = d.seq) : item.subscriberId ∉ d.stage.pendingIds :=
  ((h.current hmem).not_pending (h.owns hat hactive) hseq).2

/-- A dispatch in a turn is the only one that works on the delivery. -/
theorem not_recording_of_turn {input : DispatchInput} {result : AttemptResult} {next : Stage}
    (hat : system.dispatches[i]? = some d) (hactive : d.active = true)
    (hturn : Dispatch.Turn input system.bus d id result next) : ¬ system.Recording (d.seq, id) := by
  rintro (⟨e, hmem, heactive, report, hreport, hkey⟩ | ⟨item, report, hreport, hkey⟩)
  · obtain ⟨j, hatj⟩ := List.mem_iff_getElem?.mp hmem
    have hij := h.apart hatj hat heactive hactive (Prod.mk.inj hkey).1
    rw [hij, hat] at hatj
    cases hatj
    simp [hturn.report_eq_none] at hreport
  · have hmem := RetryPhase.mem_items_of_report hreport
    obtain ⟨hseq, hid⟩ := Prod.mk.inj hkey
    apply h.item_not_pending hmem hat hactive hseq
    rw [hturn.pendingIds, hid]
    exact List.mem_cons_self

/-- The retry task in an attempt is the only one that works on the delivery. -/
theorem not_recording_of_item (hmem : item ∈ system.retry.items) (hidle : system.retry.report = none) :
    ¬ system.Recording item.key := by
  rintro (⟨e, hin, heactive, report, hreport, hkey⟩ | ⟨other, report, hreport, _⟩)
  · obtain ⟨j, hatj⟩ := List.mem_iff_getElem?.mp hin
    obtain ⟨next, hstage⟩ := Stage.report_eq_some hreport
    obtain ⟨hseq, hid⟩ := Prod.mk.inj hkey
    apply h.item_not_pending hmem hatj heactive hseq.symm
    rw [hstage, ← hid]
    exact List.mem_cons_self
  · simp [hidle] at hreport

end

end Disjoint

namespace Accounted

variable {config : Config} {system next : System}

theorem of_same (h : system.Accounted config) (hdisjoint : next.Disjoint config)
    (hsame : SameAccounts system next) : next.Accounted config where
  disjoint := hdisjoint
  settled {seq id event} hfound hidle := by
    obtain ⟨old, hold, hrecord⟩ := hsame.records hfound
    rw [hrecord, hsame.log (h.disjoint.pos_of_find hold)]
    apply h.settled hold
    rintro (⟨d, hmem, hrecording⟩ | hretry)
    · exact hidle (.inl ⟨d, hsame.after hmem hrecording, hrecording⟩)
    · exact hidle (.inr (hsame.retry ▸ hretry))
  dispatched hmem hrecording := by
    have hbefore := hsame.before hmem hrecording
    rw [hsame.log (h.disjoint.pos_of_recording hbefore hrecording)]
    exact h.dispatched hbefore hrecording
  retried {item report} hrecording := by
    rw [hsame.retry] at hrecording
    have hmem := RetryPhase.mem_items_of_report hrecording
    rw [hsame.log (h.disjoint.pos_of_item hmem)]
    exact h.retried hrecording
  bounded hstored id := by
    rw [hsame.log hstored]
    exact h.bounded hstored id

variable {d : Dispatch} {key : ℕ × String} {i : ℕ} {d' e : Dispatch} {bus : Bus}

theorem publish (h : system.Accounted config) {event : StoredEvent} (hfresh : event.deliveries = [])
    (hstarts : Starts system.bus.store.nextSeq false event d)
    (hbus : next.bus.store = (system.bus.store.append system.bus.clock event).2)
    (hlog : next.bus.log = .appended system.bus.store.nextSeq event.payload :: system.bus.log)
    (hdispatches : next.dispatches = system.dispatches ++ [d]) (hretry : next.retry = system.retry)
    (hdisjoint : next.Disjoint config) : next.Accounted config := by
  have hold {e : Dispatch} {key : ℕ × String} (hmem : e ∈ next.dispatches)
      (hrecording : e.Recording key) : e ∈ system.dispatches := by
    rw [hdispatches] at hmem
    obtain hin | hnew := List.mem_append.mp hmem
    · exact hin
    · obtain ⟨_, report, hreport, _⟩ := hrecording
      rw [List.mem_singleton.mp hnew, hstarts.stage] at hreport
      simp [Stage.report] at hreport
  have hseq {seq : ℕ} {stored : StoredEvent} (hfound : system.bus.store.find seq = some stored) :
      system.bus.store.nextSeq ≠ seq := by
    obtain ⟨hmem, hseq⟩ := InMemoryEventStore.find_eq_some_iff.mp hfound
    rw [← hseq]
    exact (InMemoryEventStore.seq_lt_nextSeq hmem).ne'
  constructor
  · exact hdisjoint
  · intro seq id stored hfound hidle
    rw [hbus, InMemoryEventStore.find_append] at hfound
    split_ifs at hfound with hnew
    · cases hfound
      rw [hlog, attemptsOf, if_pos hnew.symm]
      simp [RecordsAttempts, StoredEvent.recordOf, hfresh]
    · rw [hlog, attemptsOf_appended_ne _ (hseq hfound)]
      apply h.settled hfound
      rintro (⟨e, hmem, hrecording⟩ | hrecording)
      · exact hidle (.inl ⟨e, hdispatches ▸ List.mem_append_left _ hmem, hrecording⟩)
      · exact hidle (.inr (hretry ▸ hrecording))
  · intro e seq id hmem hrecording
    have hbefore := hold hmem hrecording
    have hne : system.bus.store.nextSeq ≠ seq := by
      obtain ⟨hactive, _, _, hkey⟩ := hrecording
      obtain ⟨i, hat⟩ := List.mem_iff_getElem?.mp hbefore
      obtain ⟨stored, hfound, _⟩ := (h.disjoint.owns hat hactive).stored
      rw [← (Prod.mk.inj hkey).1]
      exact hseq hfound
    rw [hlog, attemptsOf_appended_ne _ hne]
    exact h.dispatched hbefore hrecording
  · intro item report hrecording
    rw [hretry] at hrecording
    have hmem := RetryPhase.mem_items_of_report hrecording
    obtain ⟨stored, _, hfound, _⟩ := h.disjoint.current hmem
    rw [hlog, attemptsOf_appended_ne _ (hseq hfound)]
    exact h.retried hrecording
  · intro seq hstored id
    rw [hlog]
    unfold attemptsOf
    split_ifs
    · exact Nat.zero_le _
    · exact h.bounded hstored id

/-- An attempt is logged, and its outcome is on its way to the store. -/
theorem attempt (h : system.Accounted config) (hdisjoint : next.Disjoint config)
    (attempt : Attempt) {seq : ℕ} {id : String}
    (hkey : (attempt.seq, attempt.subscriberId) = (seq, id))
    (hstore : next.bus.store = system.bus.store)
    (hlog : ∀ other key, attemptsOf other key next.bus.log =
      attemptsOf other key (.attempted attempt :: system.bus.log))
    (hnow : next.Recording (seq, id))
    (hkept : ∀ key, system.Recording key → next.Recording key)
    (hdispatched : ∀ d other key, d ∈ next.dispatches → d.Recording (other, key) →
      (other, key) ≠ (seq, id) → d ∈ system.dispatches)
    (hretried : ∀ item report, next.retry.report = some (item, report) → item.key ≠ (seq, id) →
      system.retry.report = some (item, report))
    (hdispatch : ∀ d ∈ next.dispatches, d.Recording (seq, id) →
      ∃ report, d.stage.report = some report ∧ attemptsOf seq id system.bus.log = [] ∧
        Reports config.retry.maxAttempts config.FitsRetry 0 attempt report)
    (hretry : ∀ item report, next.retry.report = some (item, report) → item.key = (seq, id) →
      (∀ other ∈ attemptsOf seq id system.bus.log, other.outcome = .transient) ∧
        (attemptsOf seq id system.bus.log).length = item.attempts ∧
        Reports config.retry.maxAttempts config.FitsRetry item.attempts attempt report)
    (hleft : (attemptsOf seq id system.bus.log).length < config.retry.maxAttempts) :
    next.Accounted config := by
  have hother {other : ℕ} {key : String} (hne : (other, key) ≠ (seq, id)) :
      attemptsOf other key next.bus.log = attemptsOf other key system.bus.log := by
    rw [hlog, attemptsOf_attempted_ne (hkey ▸ hne.symm)]
  have hsame : attemptsOf seq id next.bus.log = attempt :: attemptsOf seq id system.bus.log := by
    rw [hlog, attemptsOf_attempted_eq hkey]
  constructor
  · exact hdisjoint
  · intro other key event hfound hstill
    have hne : (other, key) ≠ (seq, id) := fun heq ↦ hstill (heq ▸ hnow)
    rw [hother hne]
    exact h.settled (hstore ▸ hfound) fun hrecording ↦ hstill (hkept _ hrecording)
  · intro d other key hmem hrecording
    by_cases hcase : (other, key) = (seq, id)
    · cases hcase
      obtain ⟨report, hreport, hnone, hreports⟩ := hdispatch d hmem hrecording
      exact ⟨attempt, report, hreport, by rw [hsame, hnone], hreports⟩
    · rw [hother hcase]
      exact h.dispatched (hdispatched d other key hmem hrecording hcase) hrecording
  · intro item report hrecording
    by_cases hcase : item.key = (seq, id)
    · obtain ⟨htransient, hlength, hreports⟩ := hretry item report hrecording hcase
      obtain ⟨hseq, hid⟩ := Prod.mk.inj hcase
      rw [hseq, hid]
      exact ⟨attempt, _, hsame, htransient, hlength, hreports⟩
    · rw [hother hcase]
      exact h.retried (hretried item report hrecording hcase)
  · intro other hstored key
    by_cases hcase : (other, key) = (seq, id)
    · cases hcase
      rw [hsame, List.length_cons]
      omega
    · rw [hother hcase]
      exact h.bounded hstored key

/-- An outcome is written to the record. -/
theorem record (h : system.Accounted config) (hdisjoint : next.Disjoint config) (seq now : ℕ)
    (report : Report)
    (hstore : next.bus.store = (system.bus.store.recordDelivery now seq report.subscriberId
      report.status report.error report.nextRetry).2)
    (hlog : next.bus.log = system.bus.log)
    (hkept : ∀ key, key ≠ (seq, report.subscriberId) → system.Recording key → next.Recording key)
    (hdispatched : ∀ d key, d ∈ next.dispatches → d.Recording key → d ∈ system.dispatches)
    (hretried : ∀ item report, next.retry.report = some (item, report) →
      system.retry.report = some (item, report))
    (hrecord : ∀ event, system.bus.store.find seq = some event →
      RecordsAttempts config.retry.maxAttempts config.FitsRetry
        (attemptsOf seq report.subscriberId system.bus.log)
        ((event.withDelivery now report.subscriberId report.status report.error
          report.nextRetry).recordOf report.subscriberId)) :
    next.Accounted config := by
  constructor
  · exact hdisjoint
  · intro other key event hfound hidle
    rw [hlog]
    rw [hstore, InMemoryEventStore.find_recordDelivery] at hfound
    by_cases hcase : (other, key) = (seq, report.subscriberId)
    · cases hcase
      rw [if_pos rfl] at hfound
      obtain ⟨old, hold, rfl⟩ := Option.map_eq_some_iff.mp hfound
      exact hrecord old hold
    · have hbefore : ¬ system.Recording (other, key) := fun hrecording ↦
        hidle (hkept _ hcase hrecording)
      split_ifs at hfound with hseq
      · obtain ⟨old, hold, rfl⟩ := Option.map_eq_some_iff.mp hfound
        have hid : key ≠ report.subscriberId := fun heq ↦ hcase (by rw [hseq, heq])
        rw [StoredEvent.recordOf_withDelivery, if_neg hid]
        exact h.settled hold hbefore
      · exact h.settled hfound hbefore
  · intro d other key hmem hrecording
    rw [hlog]
    exact h.dispatched (hdispatched d _ hmem hrecording) hrecording
  · intro item other hrecording
    rw [hlog]
    exact h.retried (hretried item other hrecording)
  · intro other hstored key
    rw [hlog]
    exact h.bounded hstored key

theorem not_recording_of_report (hreport : d.stage.report = none) : ¬ d.Recording key := by
  rintro ⟨_, report, hsome, _⟩
  simp [hreport] at hsome

theorem mem_of_recording (hin : e ∈ system.dispatches.set i d') (hrecording : e.Recording key)
    (hnot : ¬ d'.Recording key) : e ∈ system.dispatches := by
  obtain hin | rfl := List.mem_or_eq_of_mem_set hin
  · exact hin
  · exact absurd hrecording hnot

theorem mem_set_of_recording (hat : system.dispatches[i]? = some d) (hin : e ∈ system.dispatches)
    (hrecording : e.Recording key) (hnot : ¬ d.Recording key) : e ∈ system.dispatches.set i d' :=
  mem_set_of_ne hat hin fun heq ↦ hnot (heq ▸ hrecording)

section Dispatches

variable {input : DispatchInput} {i : ℕ} {d : Dispatch} {id : String} {result : AttemptResult}
  {next : Stage} {report : Report}

/-- A dispatch of a stored event makes its first attempt on a delivery. -/
theorem attemptStored (h : system.Accounted config) (hmax : 2 ≤ config.retry.maxAttempts)
    (hat : system.dispatches[i]? = some d) (hactive : d.active = true)
    (turn : Dispatch.Turn input system.bus d id result next)
    (hdisjoint : Disjoint config { system with
      bus := (d.finishAttempt config input id result next).1
      dispatches := system.dispatches.set i (d.finishAttempt config input id result next).2 }) :
    Accounted config { system with
      bus := (d.finishAttempt config input id result next).1
      dispatches := system.dispatches.set i (d.finishAttempt config input id result next).2 } := by
  have hlog : (d.finishAttempt config input id result next).1.log = _ := turn.log
  have hstore : (d.finishAttempt config input id result next).1.store = _ := turn.store
  have hmoved : (d.finishAttempt config input id result next).2 ∈
      system.dispatches.set i (d.finishAttempt config input id result next).2 :=
    List.mem_set (List.getElem?_eq_some_iff.mp hat).1 _
  have hidle := h.disjoint.not_recording_of_turn hat hactive turn
  have hnow : Dispatch.Recording (d.finishAttempt config input id result next).2 (d.seq, id) :=
    ⟨Dispatch.active_finishAttempt hactive, _, rfl, rfl⟩
  have hempty : attemptsOf d.seq id system.bus.log = [] := by
    obtain ⟨event, hfound, _, _, _, hpending, _⟩ := (h.disjoint.owns hat hactive).stored
    have hsettled := h.settled hfound hidle
    rw [hpending id turn.mem_pendingIds] at hsettled
    exact hsettled.of_none
  have hown {other : ℕ} {key : String}
      (hrecording : Dispatch.Recording (d.finishAttempt config input id result next).2
        (other, key)) : (other, key) = (d.seq, id) := by
    obtain ⟨_, report, hreport, hkey⟩ := hrecording
    cases hreport
    exact hkey.symm
  apply h.attempt hdisjoint (d.attemptOf id result) rfl
  · exact hstore
  · intro other key
    simp only [hlog]
  · exact .inl ⟨_, hmoved, hnow⟩
  · rintro key (⟨e, hin, hrecording⟩ | hretry)
    · have hnone : ¬ d.Recording key := not_recording_of_report turn.report_eq_none
      exact .inl ⟨e, mem_set_of_recording hat hin hrecording hnone, hrecording⟩
    · exact .inr hretry
  · exact fun e other key hin hrecording hne ↦
      mem_of_recording hin hrecording fun hmine ↦ hne (hown hmine)
  · exact fun _ _ hrecording _ ↦ hrecording
  · intro e hin hrecording
    obtain hbefore | rfl := List.mem_or_eq_of_mem_set hin
    · exact absurd (.inl ⟨e, hbefore, hrecording⟩) hidle
    · exact ⟨_, rfl, hempty, Dispatch.reports hmax turn.sound⟩
  · exact fun item report hrecording hkey ↦
      absurd (.inr ⟨item, report, hrecording, hkey⟩) hidle
  · change (attemptsOf d.seq id system.bus.log).length < _
    rw [hempty, List.length_nil]
    omega

/-- The attempts for an event that is not stored count for nothing. -/
theorem attemptReply (h : system.Accounted config) (hat : system.dispatches[i]? = some d)
    (hinactive : ¬ d.active = true) (turn : Dispatch.Turn input system.bus d id result next)
    (hdisjoint : Disjoint config { system with
      bus := (d.finishAttempt config input id result next).1
      dispatches := system.dispatches.set i (d.finishAttempt config input id result next).2 }) :
    Accounted config { system with
      bus := (d.finishAttempt config input id result next).1
      dispatches := system.dispatches.set i (d.finishAttempt config input id result next).2 } := by
  have hlog : (d.finishAttempt config input id result next).1.log = _ := turn.log
  have hreply : d.isReply = true := by
    simpa [Dispatch.active, turn.running] using hinactive
  have hzero := h.disjoint.replies hat hreply
  have hsilent {key : ℕ × String} :
      ¬ Dispatch.Recording (d.finishAttempt config input id result next).2 key := by
    rintro ⟨hmoving, _⟩
    exact hinactive ((Dispatch.Change.attempt turn).active_before hmoving)
  apply h.of_same hdisjoint
  constructor
  · exact fun hin hrecording ↦ mem_of_recording hin hrecording hsilent
  · exact fun hin hrecording ↦
      mem_set_of_recording hat hin hrecording (not_recording_of_report turn.report_eq_none)
  · rfl
  · intro seq hpos key
    simp only [hlog]
    apply attemptsOf_attempted_ne
    intro hkey
    have hseq : d.seq = seq := (Prod.mk.inj hkey).1
    omega
  · intro seq event hfound
    have hstore : (d.finishAttempt config input id result next).1.store = _ := turn.store
    exact ⟨event, hstore ▸ hfound, fun _ ↦ rfl⟩

/-- A dispatch of a stored event records the outcome of its attempt. -/
theorem recordStored (h : system.Accounted config) (hmax : 2 ≤ config.retry.maxAttempts)
    (hok : input.storeOk = true) (hat : system.dispatches[i]? = some d) (hactive : d.active = true)
    (stage : d.stage = .record report next)
    (hdisjoint : Disjoint config { system with
      bus := system.bus.recordDelivery (d.writes input) d.seq report
      dispatches := system.dispatches.set i { d with stage := next } }) :
    Accounted config { system with
      bus := system.bus.recordDelivery (d.writes input) d.seq report
      dispatches := system.dispatches.set i { d with stage := next } } := by
  have howns := h.disjoint.owns hat hactive
  have hreply : d.isReply = false := by
    simp only [Dispatch.active, Bool.and_eq_true] at hactive
    simpa using hactive.1
  have hwrites : d.writes input = true := by simp [Dispatch.writes, hok, hreply]
  have hrecording : d.Recording (d.seq, report.subscriberId) :=
    ⟨hactive, report, by rw [stage]; rfl, rfl⟩
  have hsilent {key : ℕ × String} : ¬ Dispatch.Recording { d with stage := next } key :=
    not_recording_of_report (Stage.report_of_isAfterTurn (howns.follows stage))
  apply h.record hdisjoint d.seq system.bus.clock report
  · simp [Bus.recordDelivery, hwrites]
  · exact Bus.recordDelivery_log _ _ _ _
  · rintro key hne (⟨e, hin, hother⟩ | hretry)
    · refine .inl ⟨e, mem_set_of_recording hat hin hother fun hmine ↦ hne ?_, hother⟩
      obtain ⟨_, r, hr, hkey⟩ := hmine
      rw [stage] at hr
      cases hr
      exact hkey.symm
    · exact .inr hretry
  · exact fun e key hin hother ↦ mem_of_recording hin hother hsilent
  · exact fun _ _ hretry ↦ hretry
  · intro event hfound
    obtain ⟨stored, hstored, _, _, _, hpending, _⟩ := howns.stored
    obtain rfl := Option.some.inj (hfound.symm.trans hstored)
    obtain ⟨attempt, r, hr, hattempts, hreports⟩ :=
      h.dispatched (List.mem_of_getElem? hat) hrecording
    rw [stage] at hr
    cases hr
    have hnorecord := hpending report.subscriberId (Stage.mem_pendingIds_of_record stage)
    rw [StoredEvent.recordOf_withDelivery, if_pos rfl, hnorecord, hattempts]
    exact recordsAttempts_first hmax hreports _

/-- Nothing is recorded about an event that is not stored. -/
theorem recordReply (h : system.Accounted config) (hat : system.dispatches[i]? = some d)
    (hinactive : ¬ d.active = true) (stage : d.stage = .record report next)
    (hdisjoint : Disjoint config { system with
      bus := system.bus.recordDelivery (d.writes input) d.seq report
      dispatches := system.dispatches.set i { d with stage := next } }) :
    Accounted config { system with
      bus := system.bus.recordDelivery (d.writes input) d.seq report
      dispatches := system.dispatches.set i { d with stage := next } } := by
  have hreply : d.isReply = true := by
    simpa [Dispatch.active, stage, Stage.isReturned] using hinactive
  have hwrites : d.writes input = false := by simp [Dispatch.writes, hreply]
  have hchange : Dispatch.Change config input system.bus d
      (system.bus.recordDelivery (d.writes input) d.seq report) { d with stage := next } :=
    .record stage
  have hsilent {key : ℕ × String} : ¬ Dispatch.Recording { d with stage := next } key := by
    rintro ⟨hmoving, _⟩
    exact hinactive (hchange.active_before hmoving)
  apply h.of_same hdisjoint
  constructor
  · exact fun hin hrecording ↦ mem_of_recording hin hrecording hsilent
  · exact fun hin hrecording ↦ mem_set_of_recording hat hin hrecording fun hmine ↦
      hinactive hmine.1
  · rfl
  · exact fun _ id ↦ by rw [Bus.recordDelivery_log]
  · intro seq event hfound
    exact ⟨event, by simpa [Bus.recordDelivery, hwrites] using hfound, fun _ ↦ rfl⟩

end Dispatches

theorem dispatch (h : system.Accounted config) (hmax : 2 ≤ config.retry.maxAttempts) {input : DispatchInput}
    (hok : input.storeOk = true) (hat : system.dispatches[i]? = some d)
    (hchange : Dispatch.Change config input system.bus d bus d') :
    Accounted config { system with bus, dispatches := system.dispatches.set i d' } := by
  have hdisjoint := h.disjoint.dispatch hat hchange
  cases hchange.effect with
  | silent before silent current anyFailed log store =>
    obtain ⟨ok, status, hstore⟩ := store
    apply h.of_same hdisjoint
    constructor
    · exact fun hin hrecording ↦
        mem_of_recording hin hrecording (not_recording_of_report silent)
    · exact fun hin hrecording ↦
        mem_set_of_recording hat hin hrecording (not_recording_of_report before)
    · rfl
    · exact fun _ id ↦ by rw [log]
    · intro seq event hfound
      exact recordOf_of_updateStatus (hstore ▸ hfound)
  | attempt turn =>
    by_cases hactive : d.active = true
    · exact h.attemptStored hmax hat hactive turn hdisjoint
    · exact h.attemptReply hat hactive turn hdisjoint
  | record stage =>
    by_cases hactive : d.active = true
    · exact h.recordStored hmax hok hat hactive stage hdisjoint
    · exact h.recordReply hat hactive stage hdisjoint

section Retries

variable {input : RetryInput} {item : RetryableDelivery} {todo : List RetryableDelivery}

/-- The retry task makes one attempt more on a delivery with some left. -/
theorem attemptRetry (h : system.Accounted config) {answer : RetryOutcome × Bus}
    (turn : RetryPhase.Turn config input system.bus system.retry item todo answer)
    (hdisjoint : Disjoint config { system with
      bus := (RetryPhase.finishAttempt config input item todo answer).1
      retry := (RetryPhase.finishAttempt config input item todo answer).2 }) :
    Accounted config { system with
      bus := (RetryPhase.finishAttempt config input item todo answer).1
      retry := (RetryPhase.finishAttempt config input item todo answer).2 } := by
  have hanswered := turn.answered
  have hitem := turn.mem_items
  have hreport : system.retry.report = none := turn.report_eq_none
  have hidle := h.disjoint.not_recording_of_item hitem hreport
  obtain ⟨event, record, hfound, hrecord, hfailed, hattempts, hless, _⟩ := h.disjoint.current hitem
  have hsettled := h.settled hfound hidle
  rw [hrecord] at hsettled
  obtain ⟨htransient, hlength⟩ := hsettled.of_failed hfailed
  apply h.attempt hdisjoint (RetryPhase.attemptOf item answer) rfl
  · exact hanswered.store
  · intro other key
    simp only [RetryPhase.finishAttempt, Bus.note]
    obtain hlog | hlog := hanswered.log
    · rw [hlog]
    · rw [hlog]
      simp only [attemptsOf]
  · exact .inr ⟨item, _, rfl, rfl⟩
  · rintro key (hdispatch | ⟨other, report, hother, _⟩)
    · exact .inl hdispatch
    · simp [hreport] at hother
  · exact fun _ _ _ hin _ _ ↦ hin
  · intro other report hother hne
    obtain ⟨rfl, _⟩ := Prod.mk.inj (Option.some.inj hother)
    exact absurd rfl hne
  · exact fun d hin hrecording ↦ absurd (.inl ⟨d, hin, hrecording⟩) hidle
  · intro other report hother _
    cases hother
    exact ⟨htransient, hlength.trans hattempts, RetryPhase.reports _ _ _ _⟩
  · change (attemptsOf item.seq item.subscriberId system.bus.log).length < _
    rw [hlength, hattempts]
    exact hless

/-- The retry task records the outcome of its attempt. -/
theorem recordRetry (h : system.Accounted config) (hok : input.storeOk = true) {report : Report}
    {phase : RetryPhase} (hbefore : system.retry = .recording item report todo)
    (silent : phase.report = none)
    (hdisjoint : Disjoint config { system with
      bus := system.bus.recordDelivery input.storeOk item.seq report
      retry := phase }) :
    Accounted config { system with
      bus := system.bus.recordDelivery input.storeOk item.seq report
      retry := phase } := by
  have hitem : item ∈ system.retry.items := by
    rw [hbefore]
    exact List.mem_cons_self
  have hreport : system.retry.report = some (item, report) := by
    rw [hbefore]
    rfl
  have hid := h.disjoint.reported hbefore
  obtain ⟨event, record, hfound, hrecord, hfailed, hattempts, hless, _⟩ := h.disjoint.current hitem
  apply h.record hdisjoint item.seq system.bus.clock report
  · simp [Bus.recordDelivery, hok]
  · exact Bus.recordDelivery_log _ _ _ _
  · rintro key hne (hdispatch | ⟨other, r, hother, hkey⟩)
    · exact .inl hdispatch
    · rw [hreport] at hother
      cases hother
      rw [hid] at hne
      exact absurd hkey.symm hne
  · exact fun _ _ hin _ ↦ hin
  · intro other r hother
    simp [silent] at hother
  · intro stored hstored
    obtain rfl := Option.some.inj (hfound.symm.trans hstored)
    obtain ⟨attempt, earlier, hlog, htransient, hlength, hreports⟩ := h.retried hreport
    rw [StoredEvent.recordOf_withDelivery, if_pos rfl, hid, hrecord, hlog]
    rw [← hattempts] at hlength hreports hless
    exact recordsAttempts_transition htransient hlength hless hreports _

end Retries

theorem retry (h : system.Accounted config) {input : RetryInput} {phase : RetryPhase}
    (hok : input.storeOk = true)
    (hchange : RetryPhase.Change config input system.bus system.retry bus phase) :
    Accounted config { system with bus, retry := phase } := by
  have hdisjoint := h.disjoint.retry hchange
  have heffect := hchange.effect h.disjoint.attempts_lt
  generalize hbefore : system.retry = before at heffect
  cases heffect with
  | silent idle silent log store =>
    obtain ⟨ok, seq, status, hstore⟩ := store
    apply h.of_same hdisjoint
    constructor
    · exact fun hin _ ↦ hin
    · exact fun hin _ ↦ hin
    · rw [hbefore, idle]
      exact silent
    · exact fun _ id ↦ by rw [log]
    · intro other event hfound
      exact recordOf_of_updateStatus (hstore ▸ hfound)
  | attempt turn => exact h.attemptRetry (hbefore ▸ turn) hdisjoint
  | record silent => exact h.recordRetry hok hbefore silent hdisjoint

theorem step (h : system.Accounted config) (hmax : 2 ≤ config.retry.maxAttempts) {label : Label}
    (hok : label.writesSucceed = true) (hspared : system.SparesInUse label)
    (hstep : System.step config system label = some next) : next.Accounted config := by
  have hdisjoint := h.disjoint.step hspared hstep
  cases change_of_step hstep with
  | quiet quiet =>
    apply h.of_same hdisjoint
    constructor
    · exact fun hmem _ ↦ quiet.dispatches ▸ hmem
    · exact fun hmem _ ↦ quiet.dispatches ▸ hmem
    · rw [quiet.retry]
    · intro seq _ id
      obtain hlog | ⟨_, _, _, hlog⟩ := quiet.log
      · rw [hlog]
      · rw [hlog, attemptsOf]
    · exact fun hfound ↦ ⟨_, quiet.store ▸ hfound, fun _ ↦ rfl⟩
  | publish fresh starts => exact h.publish fresh.1 starts rfl rfl rfl rfl hdisjoint
  | publishReply starts =>
    have hsilent {key : ℕ × String} {d : Dispatch} (hstarts : d.stage = .resolve) :
        ¬ d.Recording key := by
      rintro ⟨_, report, hreport, _⟩
      simp [hstarts, Stage.report] at hreport
    apply h.of_same hdisjoint
    constructor
    · intro d key hmem hrecording
      obtain hold | hnew := List.mem_append.mp hmem
      · exact hold
      · rw [List.mem_singleton.mp hnew] at hrecording
        exact absurd hrecording (hsilent starts.stage)
    · exact fun hmem _ ↦ List.mem_append_left _ hmem
    · rfl
    · exact fun _ _ ↦ rfl
    · exact fun hfound ↦ ⟨_, hfound, fun _ ↦ rfl⟩
  | dispatch at_i running =>
    exact h.dispatch hmax hok at_i (Dispatch.change_of_step _ _ _ running)
  | poll idle =>
    apply h.of_same hdisjoint
    constructor
    · exact fun hmem _ ↦ hmem
    · exact fun hmem _ ↦ hmem
    · rw [RetryPhase.report_of_isIdle idle]
      rfl
    · exact fun _ _ ↦ rfl
    · exact fun hfound ↦ ⟨_, hfound, fun _ ↦ rfl⟩
  | retry busy => exact h.retry hok (RetryPhase.change_of_step _ _ _ busy)
  | compact =>
    apply h.of_same hdisjoint
    constructor
    · exact fun hmem _ ↦ hmem
    · exact fun hmem _ ↦ hmem
    · rfl
    · exact fun _ _ ↦ rfl
    · intro seq event hfound
      rw [InMemoryEventStore.find_compact] at hfound
      exact ⟨event, (Option.filter_eq_some_iff.mp hfound).1, fun _ ↦ rfl⟩

end Accounted

end System

/-! ## The last word on a delivery -/

/-- The record of the delivery, as long as its event is stored, is not one to retry. -/
def InMemoryEventStore.IsFinal (store : InMemoryEventStore) (seq : ℕ) (id : String) : Prop :=
  ∀ event, store.find seq = some event →
    ∃ record, event.recordOf id = some record ∧ record.status ≠ .failed

namespace InMemoryEventStore.IsFinal

variable {store : InMemoryEventStore} {seq : ℕ} {id : String}

theorem updateStatus (h : store.IsFinal seq id) (changed : ℕ) (status : EventStatus) :
    (store.updateStatus changed status).2.IsFinal seq id := by
  intro event hfound
  rw [find_updateStatus] at hfound
  split_ifs at hfound
  · obtain ⟨old, hold, rfl⟩ := Option.map_eq_some_iff.mp hfound
    exact h old hold
  · exact h event hfound

theorem recordDelivery (h : store.IsFinal seq id) (now changed : ℕ) {subscriberId : String}
    (status : DeliveryStatus) (error : Option String) (nextRetry : Option ℕ)
    (hother : (changed, subscriberId) ≠ (seq, id)) :
    (store.recordDelivery now changed subscriberId status error nextRetry).2.IsFinal seq id := by
  intro event hfound
  rw [find_recordDelivery] at hfound
  split_ifs at hfound with hseq
  · obtain ⟨old, hold, rfl⟩ := Option.map_eq_some_iff.mp hfound
    have hid : id ≠ subscriberId := fun heq ↦ hother (by rw [hseq, heq])
    rw [StoredEvent.recordOf_withDelivery, if_neg hid]
    exact h old hold
  · exact h event hfound

theorem ne_of_pending (h : store.IsFinal seq id) {d : Dispatch} (howns : d.Owns store)
    {other : String} (hpending : other ∈ d.stage.pendingIds) : (d.seq, other) ≠ (seq, id) := by
  intro hkey
  cases hkey
  obtain ⟨event, hfound, _, _, _, hnone, _⟩ := howns.stored
  obtain ⟨record, hrecord, _⟩ := h event hfound
  simp [hnone _ hpending] at hrecord

theorem ne_of_current (h : store.IsFinal seq id) {config : Config} {item : RetryableDelivery}
    (hcurrent : item.Current config store) : item.key ≠ (seq, id) := by
  intro hkey
  cases hkey
  obtain ⟨event, record, hfound, hrecord, hfailed, _⟩ := hcurrent
  obtain ⟨other, hother, hnotFailed⟩ := h event hfound
  rw [hrecord] at hother
  cases hother
  exact hnotFailed hfailed

end InMemoryEventStore.IsFinal

namespace System

variable {config : Config} {system : System} {after : Bus} {seq : ℕ} {id : String}

/-- A dispatch leaves a final record as it is, and does not attempt its delivery. -/
theorem isFinal_dispatch (h : system.Disjoint config) {input : DispatchInput} {i : ℕ} {d d' : Dispatch}
    (hat : system.dispatches[i]? = some d) (running : d.stage.isReturned = false)
    (hchange : Dispatch.Change config input system.bus d after d') (hpos : 0 < seq)
    (hfinal : system.bus.store.IsFinal seq id) :
    after.store.IsFinal seq id ∧ attemptsOf seq id after.log = attemptsOf seq id system.bus.log := by
  have hpending {other : String} (hactive : d.active = true)
      (hin : other ∈ d.stage.pendingIds) : (d.seq, other) ≠ (seq, id) :=
    hfinal.ne_of_pending (h.owns hat hactive) hin
  constructor
  · apply hchange.keeps (P := fun store ↦ store.IsFinal seq id) hfinal
    · exact fun status _ ↦ hfinal.updateStatus _ _
    · intro report next hactive hstage
      apply hfinal.recordDelivery
      exact hpending hactive (Stage.mem_pendingIds_of_record hstage)
  · cases hchange.effect with
    | silent _ _ _ _ log => rw [log]
    | @attempt other result next turn =>
      have hlog : (d.finishAttempt config input other result next).1.log = _ := turn.log
      rw [hlog]
      apply attemptsOf_attempted_ne
      by_cases hactive : d.active = true
      · exact hpending hactive turn.mem_pendingIds
      · have hreply : d.isReply = true := by
          simpa [Dispatch.active, running] using hactive
        intro hkey
        have hseq : d.seq = seq := (Prod.mk.inj hkey).1
        rw [h.replies hat hreply] at hseq
        omega
    | record => rw [Bus.recordDelivery_log]

/-- So does the retry task. -/
theorem isFinal_retry (h : system.Disjoint config) {input : RetryInput} {phase : RetryPhase}
    (hchange : RetryPhase.Change config input system.bus system.retry after phase)
    (hfinal : system.bus.store.IsFinal seq id) :
    after.store.IsFinal seq id ∧ attemptsOf seq id after.log = attemptsOf seq id system.bus.log := by
  constructor
  · apply hchange.keeps (P := fun store ↦ store.IsFinal seq id) hfinal
    · exact fun _ _ _ _ ↦ hfinal.updateStatus _ _
    · intro item report todo hphase
      apply hfinal.recordDelivery
      rw [h.reported hphase]
      exact hfinal.ne_of_current (h.current (RetryPhase.mem_items_of_recording hphase))
  · have heffect := hchange.effect h.attempts_lt
    generalize hbefore : system.retry = before at heffect
    cases heffect with
    | silent _ _ log => rw [log]
    | @attempt _ item todo answer turn =>
      have hitem : item ∈ system.retry.items := by
        rw [hbefore, turn.items]
        exact List.mem_cons_self
      have hskip : attemptsOf seq id (.attempted (RetryPhase.attemptOf item answer) ::
          answer.2.log) = attemptsOf seq id answer.2.log :=
        attemptsOf_attempted_ne (hfinal.ne_of_current (h.current hitem))
      simp only [RetryPhase.finishAttempt, Bus.note]
      rw [hskip]
      obtain hlog | hlog := turn.answered.log
      · rw [hlog]
      · rw [hlog, attemptsOf]
    | record => rw [Bus.recordDelivery_log]

/-- A final record stays final and its delivery is not attempted, until its number is given out
again. -/
theorem isFinal_step {next : System} (h : system.Disjoint config) {label : Label}
    (hstep : step config system label = some next) (hpos : 0 < seq)
    (hfinal : system.bus.store.IsFinal seq id) :
    (∃ payload, next.bus.log = .appended seq payload :: system.bus.log) ∨
      (next.bus.store.IsFinal seq id ∧
        attemptsOf seq id next.bus.log = attemptsOf seq id system.bus.log) := by
  cases change_of_step hstep with
  | quiet quiet =>
    refine .inr ⟨quiet.store ▸ hfinal, ?_⟩
    obtain hlog | ⟨_, _, _, hlog⟩ := quiet.log
    · rw [hlog]
    · rw [hlog, attemptsOf]
  | publish fresh starts =>
    by_cases hseq : system.bus.store.nextSeq = seq
    · exact .inl ⟨_, by rw [hseq]⟩
    · refine .inr ⟨fun event hfound ↦ ?_, attemptsOf_appended_ne _ hseq⟩
      simp only [InMemoryEventStore.find_append, if_neg (Ne.symm hseq)] at hfound
      exact hfinal event hfound
  | publishReply | poll => exact .inr ⟨hfinal, rfl⟩
  | @dispatch i input d hat running =>
    exact .inr (isFinal_dispatch h hat running
      (Dispatch.change_of_step config input system.bus running) hpos hfinal)
  | @retry input busy =>
    exact .inr (isFinal_retry h (RetryPhase.change_of_step config input system.bus busy) hfinal)
  | compact =>
    refine .inr ⟨fun event hfound ↦ ?_, rfl⟩
    simp only [InMemoryEventStore.find_compact] at hfound
    exact hfinal event (Option.filter_eq_some_iff.mp hfound).1

/-- After a final record the delivery is not attempted until its number is given out again. -/
theorem attempts_of_isFinal {guard : System → Label → Prop}
    (hguard : ∀ s label, guard s label → s.SparesInUse label) {later : System} (h : system.Disjoint config)
    (hpos : 0 < seq) (hfinal : system.bus.store.IsFinal seq id)
    (hreach : Steps.Reach (step config) guard system later) :
    ∃ extra, later.bus.log = extra ++ system.bus.log ∧
      ((∀ payload, .appended seq payload ∉ extra) →
        attemptsOf seq id later.bus.log = attemptsOf seq id system.bus.log) := by
  have hall : later.Disjoint config ∧ ∃ extra, later.bus.log = extra ++ system.bus.log ∧
      ((∀ payload, .appended seq payload ∉ extra) → later.bus.store.IsFinal seq id ∧
        attemptsOf seq id later.bus.log = attemptsOf seq id system.bus.log) := by
    apply hreach.invariant
    · exact ⟨h, [], rfl, fun _ ↦ ⟨hfinal, rfl⟩⟩
    · rintro s label s' ⟨hdisjoint, extra, hlog, hkept⟩ hs hstep
      obtain ⟨new, hnew⟩ := log_of_step hstep
      refine ⟨hdisjoint.step (hguard s label hs) hstep, new ++ extra, by
        rw [hnew, hlog, List.append_assoc], fun hnone ↦ ?_⟩
      obtain ⟨hstill, hsame⟩ := hkept fun payload hmem ↦
        hnone payload (List.mem_append_right _ hmem)
      obtain ⟨payload, hagain⟩ | ⟨hstill', hsame'⟩ := isFinal_step hdisjoint hstep hpos hstill
      · rw [hnew] at hagain
        have happended : new = [.appended seq payload] := List.append_cancel_right hagain
        exact absurd (by rw [happended]; exact List.mem_cons_self) (hnone payload)
      · exact ⟨hstill', hsame'.trans hsame⟩
  obtain ⟨_, extra, hlog, hkept⟩ := hall
  exact ⟨extra, hlog, fun hnone ↦ (hkept hnone).2⟩

theorem accounted_of_reach (hmax : 2 ≤ config.retry.maxAttempts) {clock : ℕ}
    (hreach : Steps.Reach (step config) Orderly (build .empty clock) system) : system.Accounted config :=
  hreach.invariant (accounted_build config clock) fun _ _ _ h hguard hstep ↦
    h.step hmax hguard.1 hguard.2 hstep

/-- A delivery gets at most the budgeted attempts, its record says how the last one ended and counts the
failed ones, and once the record is delivered or dead-lettered there is no further attempt. -/
def RetriesBounded (config : Config) (system : System) (seq : ℕ) (id : String) : Prop :=
  (attemptsOf seq id system.bus.log).length ≤ config.retry.maxAttempts ∧
  ∀ event, system.bus.store.find seq = some event →
    (¬ system.Recording (seq, id) → RecordsAttempts config.retry.maxAttempts (fun _ _ ↦ True)
      (attemptsOf seq id system.bus.log) (event.recordOf id)) ∧
    ∀ record, event.recordOf id = some record →
      record.status = .delivered ∨ record.status = .deadLettered →
      ∀ later, Steps.Reach (step config) Orderly system later →
        ∃ extra, later.bus.log = extra ++ system.bus.log ∧
          ((∀ payload, .appended seq payload ∉ extra) →
            attemptsOf seq id later.bus.log = attemptsOf seq id system.bus.log)

/-- If the last attempt failed and another is to follow, the time for that fits into 64 bits. -/
def InTime (config : Config) (system : System) (seq : ℕ) (id : String) : Prop :=
  ∀ last earlier, attemptsOf seq id system.bus.log = last :: earlier → last.outcome = .transient →
    earlier.length + 1 < config.retry.maxAttempts → config.FitsRetry last.time (earlier.length + 1)

theorem InTime.recordsAttempts (hfits : system.InTime config seq id) {record : Option DeliveryRecord}
    (h : RecordsAttempts config.retry.maxAttempts config.FitsRetry (attemptsOf seq id system.bus.log)
      record) :
    RecordsAttempts config.retry.maxAttempts (fun _ _ ↦ True) (attemptsOf seq id system.bus.log)
      record := by
  unfold InTime at hfits
  cases hattempts : attemptsOf seq id system.bus.log with
  | nil => rwa [hattempts] at h
  | cons last earlier =>
    rw [hattempts] at h
    obtain ⟨htransient, hlength, r, hr, hlast⟩ := h
    refine ⟨htransient, hlength, r, hr, ?_⟩
    cases houtcome : last.outcome with
    | delivered | permanent => rwa [houtcome] at hlast
    | transient =>
      simp only [houtcome] at hlast ⊢
      split_ifs at hlast ⊢ with hleft
      · obtain ⟨hcount, hfailed, t, ht, hle⟩ := hlast
        exact ⟨hcount, hfailed, t, ht, fun _ ↦ hle (hfits _ _ hattempts houtcome hleft)⟩
      · exact hlast

/-- Retries are bounded as long as the time of the next retry fits into 64 bits. -/
theorem retries_bounded (config : Config) (hmax : 2 ≤ config.retry.maxAttempts) (clock : ℕ)
    {system : System} (hreach : Steps.Reach (step config) Orderly (build .empty clock) system)
    {seq : ℕ} (hpos : 0 < seq) (id : String) (hfits : system.InTime config seq id) :
    RetriesBounded config system seq id := by
  have h := accounted_of_reach hmax hreach
  refine ⟨h.bounded hpos id, fun event hfound ↦
    ⟨fun hidle ↦ hfits.recordsAttempts (h.settled hfound hidle),
      fun record hrecord hstatus later hlater ↦ ?_⟩⟩
  have hfinal : system.bus.store.IsFinal seq id := by
    intro other hother
    obtain rfl := Option.some.inj (hfound.symm.trans hother)
    refine ⟨record, hrecord, fun hfailed ↦ ?_⟩
    obtain hstatus | hstatus := hstatus
    all_goals
      simp [hfailed] at hstatus
  exact attempts_of_isFinal (fun _ _ hguard ↦ hguard.2) h.disjoint hpos hfinal hlater

/-- A subscriber has dropped its channel when an event is published to it, and again when the
delivery is retried. -/
def droppedChannel : List Label :=
  [.inProcess "s" "a" .async 10, .closeChannel "s", .publishByte "a" 1] ++
    List.replicate 7 (.turn 0 .timedOut) ++ [.tick 1000, .poll] ++ List.replicate 4 .retryTurn

theorem retries_bounded_droppedChannel :
    ∃ system, Steps.execute (step (.plain 3)) (build .empty 0) droppedChannel = some system ∧
      (system.bus.store.find 1).map (·.deliveries.map fun record ↦
        (record.subscriberId, record.status, record.attempts)) = some [("s", .failed, 2)] ∧
      RetriesBounded (.plain 3) system 1 "s" := by
  have hexecute : ∃ system ∈ Steps.execute (step (.plain 3)) (build .empty 0) droppedChannel,
      (system.bus.store.find 1).map (·.deliveries.map fun record ↦
        (record.subscriberId, record.status, record.attempts)) = some [("s", .failed, 2)] ∧
      (attemptsOf 1 "s" system.bus.log).map (·.time) = [1000, 0] := by
    decide +kernel
  obtain ⟨system, hsystem, hrecords, htimes⟩ := hexecute
  have hreach : Steps.Reach (step (.plain 3)) Orderly (build .empty 0) system :=
    Steps.reach_of_execute (by decide +kernel) hsystem
  refine ⟨system, hsystem, hrecords,
    retries_bounded (.plain 3) (by decide) 0 hreach Nat.one_pos "s" fun last earlier hattempts _ _ ↦ ?_⟩
  rw [hattempts, List.map_cons] at htimes
  have htime : last.time = 1000 := (List.cons.inj htimes).1
  have hearlier : earlier.length = 1 := by
    simpa using congrArg List.length (List.cons.inj htimes).2
  rw [htime, hearlier]
  unfold Config.FitsRetry
  decide

/-- Without a cap on the backoff the time of the first retry wraps around. -/
theorem retries_not_in_time : ¬∀ config : Config, 2 ≤ config.retry.maxAttempts → ∀ clock system,
    Steps.Reach (step config) Orderly (build .empty clock) system → ∀ seq, 0 < seq → ∀ id,
      RetriesBounded config system seq id := by
  intro hall
  let config : Config := { Config.plain 5 with retry := ⟨5, u64Max, u64Max⟩ }
  have hexecute : ∃ system ∈ Steps.execute (step config) (build .empty 1700000000000)
      (droppedChannel.take 10), ∃ event, system.bus.store.find 1 = some event ∧
        (∀ d ∈ system.dispatches, d.stage.report = none) ∧ system.retry.report = none ∧
        (attemptsOf 1 "s" system.bus.log).map (fun attempt ↦ (attempt.outcome, attempt.time)) =
          [(.transient, 1700000000000)] ∧
        (event.recordOf "s").bind (·.nextRetry) = some 1699999999999 := by
    decide +kernel
  obtain ⟨system, hsystem, event, hfound, hdispatches, hretry, hattempts, hnext⟩ := hexecute
  have hreach : Steps.Reach (step config) Orderly (build .empty 1700000000000) system :=
    Steps.reach_of_execute (by decide +kernel) hsystem
  have hidle : ¬system.Recording (1, "s") := by
    rintro (⟨d, hmem, -, report, hreport, -⟩ | ⟨item, report, hreport, -⟩)
    · simp [hdispatches d hmem] at hreport
    · simp [hretry] at hreport
  have hrecords := ((hall config (by decide) _ _ hreach 1 Nat.one_pos "s").2 event hfound).1 hidle
  obtain ⟨attempt, hlist, hattempt⟩ := List.map_eq_singleton_iff.mp hattempts
  rw [hlist] at hrecords
  obtain ⟨-, -, record, hrecord, hlast⟩ := hrecords
  obtain ⟨houtcome, htime⟩ := Prod.mk.inj hattempt
  rw [hrecord, Option.bind_some] at hnext
  simp only [houtcome, htime, hnext] at hlast
  obtain ⟨-, hfailed⟩ := hlast
  rw [if_pos (by decide)] at hfailed
  obtain ⟨-, t, ht, hle⟩ := hfailed
  cases ht
  exact absurd (hle trivial) (by decide)

end System

end Seidrum.EventBus
