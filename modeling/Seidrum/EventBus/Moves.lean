import Seidrum.EventBus.System

/-!
# The moves of a dispatch and of the retry task

One case for everything a dispatch can do in a step, and one for everything the retry task can do.
What the engine decides in a turn of the sync chain or of the fan-out is the result of the turn;
the cases keep of it what the invariants of the running bus need.
-/

namespace Seidrum.EventBus

/-! ## Dispatches -/

/-- What is registered stays registered, and nothing is added. -/
structure Bus.KeepsRegistry (bus next : Bus) : Prop where
  index : next.index = bus.index
  senders : next.senders = bus.senders
  interceptors : next.interceptors = bus.interceptors
  usedIds : next.usedIds = bus.usedIds

namespace Bus

theorem KeepsRegistry.trans {a b c : Bus} (hab : a.KeepsRegistry b) (hbc : b.KeepsRegistry c) :
    a.KeepsRegistry c where
  index := hbc.index.trans hab.index
  senders := hbc.senders.trans hab.senders
  interceptors := hbc.interceptors.trans hab.interceptors
  usedIds := hbc.usedIds.trans hab.usedIds

theorem updateStatus_keepsRegistry (ok : Bool) (seq : ℕ) (status : EventStatus) (bus : Bus) :
    bus.KeepsRegistry (bus.updateStatus ok seq status) := by
  unfold updateStatus
  split_ifs <;> exact ⟨rfl, rfl, rfl, rfl⟩

theorem updateStatus_log (ok : Bool) (seq : ℕ) (status : EventStatus) (bus : Bus) :
    (bus.updateStatus ok seq status).log = bus.log := by
  unfold updateStatus
  split_ifs <;> rfl

theorem recordDelivery_log (ok : Bool) (seq : ℕ) (report : Report) (bus : Bus) :
    (bus.recordDelivery ok seq report).log = bus.log := by
  unfold recordDelivery
  split_ifs <;> rfl

theorem recordDelivery_keepsRegistry (ok : Bool) (seq : ℕ) (report : Report) (bus : Bus) :
    bus.KeepsRegistry (bus.recordDelivery ok seq report) := by
  unfold recordDelivery
  split_ifs <;> exact ⟨rfl, rfl, rfl, rfl⟩

end Bus

/-- The subscribers a dispatch has not yet recorded an outcome of, in the order of their turns. -/
def Stage.pendingIds : Stage → List String
  | .resolve => []
  | .mark entries => entries.map (·.id)
  | .snapshot sync async => sync.map (·.id) ++ async.map (·.id)
  | .chain todo async => todo.map (·.id) ++ async.map (·.id)
  | .fanOut todo => todo.map Prod.fst
  | .record report next => report.subscriberId :: next.pendingIds
  | .close _ => []
  | .returned => []

/-- Where a dispatch goes on after it recorded an outcome. -/
def Stage.isAfterTurn : Stage → Bool
  | .chain _ _ | .fanOut _ | .close _ => true
  | _ => false

/-- The status a dispatch that ends early is going to write. -/
def Stage.closeStatus : Stage → Option EventStatus
  | .close status => some status
  | .record _ next => next.closeStatus
  | _ => none

/-- What every result of an attempt satisfies. -/
structure AttemptResult.Sound (bus : Bus) (result : AttemptResult) :
    Prop where
  bus_eq : ∃ channels, result.bus = { bus with channels }
  status : result.status = .delivered ∨ result.status = .failed ∨ result.status = .deadLettered
  dropped : result.dropped = true → result.status = .delivered
  buffer : result.buffer.isSome = true → result.status = .delivered

namespace Dispatch

/-- A dispatch of a persisted event that has not returned. -/
def active (d : Dispatch) : Bool := !d.isReply && !d.stage.isReturned

/-- Whether a write of a dispatch reaches the store. -/
def writes (input : DispatchInput) (d : Dispatch) : Bool := input.storeOk && !d.isReply

/-- A turn of the sync chain or of the fan-out: the subscriber, the result of its attempt, and the
stage after it. -/
inductive Turn (input : DispatchInput) (bus : Bus) (d : Dispatch) :
    String → AttemptResult → Stage → Prop
  | sync {entry : SyncEntry} {todo : List SyncEntry} {async : List SubscriptionEntry}
      (stage : d.stage = .chain (entry :: todo) async) :
      Turn input bus d entry.id (bus.syncAttempt input.outcome entry d.event) (.chain todo async)
  | async {id : String} {sender : Bool} {todo : List (String × Bool)}
      (stage : d.stage = .fanOut ((id, sender) :: todo)) :
      Turn input bus d id (bus.asyncAttempt id sender d.event) (.fanOut todo)

/-- Everything one step of a dispatch can do. -/
inductive Change (config : Config) (input : DispatchInput) (bus : Bus) (d : Dispatch) :
    Bus → Dispatch → Prop
  | resolve (stage : d.stage = .resolve) :
      Change config input bus d bus { d with
        stage := if (bus.index.lookup d.subject).isEmpty then .close .delivered
          else .mark (bus.index.lookup d.subject) }
  | mark {entries kept : List SubscriptionEntry} (stage : d.stage = .mark entries)
      (sublist : kept.Sublist entries) :
      Change config input bus d (bus.updateStatus (d.writes input) d.seq .dispatching) { d with
        stage := if kept.isEmpty then .close .delivered
          else .snapshot (kept.filter (·.mode = .sync)) (kept.filter (·.mode = .async)) }
  | snapshot {sync async : List SubscriptionEntry} (stage : d.stage = .snapshot sync async) :
      Change config input bus d bus { d with stage := .chain (sync.map bus.syncEntry) async }
  | collect {async : List SubscriptionEntry} (stage : d.stage = .chain [] async) :
      Change config input bus d bus { d with
        stage := .fanOut (async.map fun entry ↦ (entry.id, entry.id ∈ bus.senders)) }
  | attempt {id : String} {result : AttemptResult} {next : Stage}
      (turn : Turn input bus d id result next) :
      Change config input bus d (d.finishAttempt config input id result next).1
        (d.finishAttempt config input id result next).2
  | record {report : Report} {next : Stage} (stage : d.stage = .record report next) :
      Change config input bus d (bus.recordDelivery (d.writes input) d.seq report)
        { d with stage := next }
  | finish {status : EventStatus}
      (stage : d.stage = .close status ∨ d.stage = .fanOut [] ∧ status = d.finalStatus) :
      Change config input bus d (bus.updateStatus (d.writes input) d.seq status)
        { d with stage := .returned }

theorem change_of_step (config : Config) (input : DispatchInput) (bus : Bus) {d : Dispatch}
    (h : d.stage.isReturned = false) :
    Change config input bus d (d.step config input bus).1 (d.step config input bus).2 := by
  unfold step
  cases hstage : d.stage with
  | resolve => exact .resolve hstage
  | mark entries => exact .mark hstage List.filter_sublist
  | snapshot sync async => exact .snapshot hstage
  | chain todo async =>
    cases todo with
    | nil => exact .collect hstage
    | cons entry todo => exact .attempt (.sync hstage)
  | fanOut todo =>
    cases todo with
    | nil => exact .finish (.inr ⟨hstage, rfl⟩)
    | cons entry todo => exact .attempt (.async hstage)
  | record report next => exact .record hstage
  | close status => exact .finish (.inl hstage)
  | returned => simp [hstage, Stage.isReturned] at h

end Dispatch

theorem Bus.sendResult_sound (sender : Bool) (id : String) (event : DispatchedEvent)
    (sendError : TrySendError → String) (noSender : String) (bus : Bus) :
    (bus.sendResult sender id event sendError noSender).Sound bus := by
  unfold Bus.sendResult
  split
  · split
    · exact ⟨⟨_, rfl⟩, .inl rfl, fun _ ↦ rfl, fun _ ↦ rfl⟩
    · exact ⟨⟨_, rfl⟩, .inr (.inl rfl), by simp, by simp⟩
  · exact ⟨⟨_, rfl⟩, .inr (.inl rfl), by simp, by simp⟩

theorem Bus.interceptorResult_sound (timeout : ℕ) (outcome : InterceptOutcome) (bus : Bus) :
    (bus.interceptorResult timeout outcome).Sound bus := by
  cases outcome with
  | completed result buffer => exact ⟨⟨_, rfl⟩, .inl rfl, fun _ ↦ rfl, fun _ ↦ rfl⟩
  | panicked | cancelled | timedOut =>
    exact ⟨⟨_, rfl⟩, .inr (.inr rfl), by simp [interceptorResult],
      by simp [interceptorResult]⟩

namespace Dispatch

variable {config : Config} {input : DispatchInput} {bus : Bus} {d : Dispatch} {id : String}
  {result : AttemptResult} {next : Stage}

section

variable (h : Turn input bus d id result next)
include h

theorem Turn.sound : result.Sound bus := by
  cases h with
  | sync stage =>
    unfold Bus.syncAttempt
    split
    · exact Bus.interceptorResult_sound _ _ _
    · exact Bus.sendResult_sound _ _ _ _ _ _
  | async stage => exact Bus.sendResult_sound _ _ _ _ _ _

theorem Turn.pendingIds : d.stage.pendingIds = id :: next.pendingIds := by
  cases h with
  | sync stage | async stage => simp [stage, Stage.pendingIds]

theorem Turn.mem_pendingIds : id ∈ d.stage.pendingIds :=
  h.pendingIds ▸ List.mem_cons_self

theorem Turn.store : (d.finishAttempt config input id result next).1.store = bus.store := by
  obtain ⟨channels, hbus⟩ := h.sound.bus_eq
  simp [finishAttempt, Bus.note, hbus]

theorem Turn.log :
    (d.finishAttempt config input id result next).1.log =
      .attempted (d.attemptOf id result) :: bus.log := by
  obtain ⟨channels, hbus⟩ := h.sound.bus_eq
  simp [finishAttempt, Bus.note, hbus]

theorem Turn.running : d.stage.isReturned = false := by
  cases h with
  | sync stage | async stage => simp [stage, Stage.isReturned]

theorem Turn.step : d.step config input bus = d.finishAttempt config input id result next := by
  cases h with
  | sync stage | async stage => simp [Dispatch.step, stage]

end

variable {d' : Dispatch} {after : Bus}

/-- A dispatch only adds to the history. -/
theorem Change.log (h : Change config input bus d after d') :
    ∃ new, after.log = new ++ bus.log := by
  cases h with
  | resolve => exact ⟨[], rfl⟩
  | mark | finish => exact ⟨[], Bus.updateStatus_log _ _ _ _⟩
  | snapshot | collect => exact ⟨[], rfl⟩
  | attempt turn => exact ⟨[_], turn.log⟩
  | record => exact ⟨[], Bus.recordDelivery_log _ _ _ _⟩

/-- What a dispatch is about stays the same. -/
structure Same (d d' : Dispatch) : Prop where
  seq : d'.seq = d.seq
  subject : d'.subject = d.subject
  payload : d'.payload = d.payload
  replySubject : d'.replySubject = d.replySubject
  isReply : d'.isReply = d.isReply

section

variable (h : Change config input bus d after d')
include h

theorem Change.same : Same d d' := by
  cases h <;> exact ⟨rfl, rfl, rfl, rfl, rfl⟩

theorem Change.running : d.stage.isReturned = false := by
  cases h with
  | resolve stage | mark stage | snapshot stage | collect stage | record stage =>
    simp [stage, Stage.isReturned]
  | attempt turn => exact turn.running
  | finish stage =>
    obtain hstage | ⟨hstage, _⟩ := stage
    all_goals simp [hstage, Stage.isReturned]

theorem Change.active_before (hactive : d'.active = true) : d.active = true := by
  unfold Dispatch.active at *
  rw [h.same.isReply] at hactive
  simp only [Bool.and_eq_true] at hactive
  rw [hactive.1, h.running]
  rfl

theorem Change.anyFailed_before (hnone : d'.anyFailed = false) : d.anyFailed = false := by
  cases h with
  | attempt turn => exact (Bool.or_eq_false_iff.mp hnone).1
  | _ => exact hnone

/-- What the writes of a dispatch keep of the store, its steps keep. -/
theorem Change.keeps {P : InMemoryEventStore → Prop} (hstore : P bus.store)
    (hstatus : ∀ status, d.active = true → P (bus.store.updateStatus d.seq status).2)
    (hrecord : ∀ report next, d.active = true → d.stage = .record report next →
      P (bus.store.recordDelivery bus.clock d.seq report.subscriberId report.status report.error
        report.nextRetry).2) : P after.store := by
  have hupdate (status : EventStatus) (hrunning : d.stage.isReturned = false) :
      P (bus.updateStatus (d.writes input) d.seq status).store := by
    unfold Bus.updateStatus
    split_ifs with hwrites
    · simp only [writes, Bool.and_eq_true] at hwrites
      exact hstatus status (by rw [active, hwrites.2, hrunning]; rfl)
    · exact hstore
  cases h with
  | resolve => exact hstore
  | mark stage => exact hupdate _ (by simp [stage, Stage.isReturned])
  | snapshot | collect => exact hstore
  | attempt turn => exact turn.store ▸ hstore
  | record stage =>
    unfold Bus.recordDelivery
    split_ifs with hwrites
    · simp only [writes, Bool.and_eq_true] at hwrites
      exact hrecord _ _ (by rw [active, hwrites.2, stage]; rfl) stage
    · exact hstore
  | finish stage =>
    apply hupdate
    obtain hstage | ⟨hstage, _⟩ := stage
    all_goals simp [hstage, Stage.isReturned]

/-- A dispatch registers nothing. -/
theorem Change.keepsRegistry : bus.KeepsRegistry after := by
  cases h with
  | resolve | snapshot | collect => exact ⟨rfl, rfl, rfl, rfl⟩
  | mark | finish => exact Bus.updateStatus_keepsRegistry _ _ _ _
  | attempt turn =>
    obtain ⟨channels, hbus⟩ := turn.sound.bus_eq
    exact ⟨by simp [finishAttempt, hbus, Bus.note], by simp [finishAttempt, hbus, Bus.note],
      by simp [finishAttempt, hbus, Bus.note], by simp [finishAttempt, hbus, Bus.note]⟩
  | record => exact Bus.recordDelivery_keepsRegistry _ _ _ _

end

theorem Turn.isAfterTurn (h : Turn input bus d id result next) : next.isAfterTurn = true := by
  cases h <;> rfl

theorem Turn.closeStatus (h : Turn input bus d id result next) : next.closeStatus = none := by
  cases h <;> rfl

theorem pendingIds_snapshot (bus : Bus) {sync async : List SubscriptionEntry}
    (h : d.stage = .snapshot sync async) :
    Stage.pendingIds (.chain (sync.map bus.syncEntry) async) = d.stage.pendingIds := by
  rw [h]
  simp [Stage.pendingIds, Bus.syncEntry, Function.comp_def]

theorem perm_by_mode (entries : List SubscriptionEntry) :
    (entries.filter (·.mode = .sync) ++ entries.filter (·.mode = .async)).Perm entries := by
  have hmode : entries.filter (·.mode = .async) = entries.filter fun entry ↦
      !decide (entry.mode = .sync) := by
    apply List.filter_congr
    intro entry _
    cases entry.mode <;> rfl
  rw [hmode]
  exact List.filter_append_perm _ _

variable {entries : List SubscriptionEntry}

theorem nodup_by_mode (h : (entries.map (·.id)).Nodup) :
    ((entries.filter (·.mode = .sync)).map (·.id) ++
      (entries.filter (·.mode = .async)).map (·.id)).Nodup := by
  rw [← List.map_append]
  exact (((perm_by_mode entries).map _).nodup_iff).mpr h

theorem mem_of_mem_by_mode
    (h : id ∈ (entries.filter (·.mode = .sync)).map (·.id) ++
      (entries.filter (·.mode = .async)).map (·.id)) : id ∈ entries.map (·.id) := by
  rw [← List.map_append] at h
  obtain ⟨entry, hentry, rfl⟩ := List.mem_map.mp h
  apply List.mem_map_of_mem
  obtain hsync | hasync := List.mem_append.mp hentry
  · exact List.mem_of_mem_filter hsync
  · exact List.mem_of_mem_filter hasync

end Dispatch

namespace Stage

/-- The outcome on its way to the store. -/
def report : Stage → Option Report
  | record report _ => some report
  | _ => none

variable {stage : Stage} {r : Report}

theorem report_eq_some (h : stage.report = some r) : ∃ next, stage = record r next := by
  cases stage with
  | record other next =>
    cases h
    exact ⟨next, rfl⟩
  | _ => simp [report] at h

theorem mem_pendingIds_of_record {next : Stage} (h : stage = record r next) :
    r.subscriberId ∈ stage.pendingIds :=
  h ▸ List.mem_cons_self

theorem report_of_isAfterTurn (h : stage.isAfterTurn = true) : stage.report = none := by
  cases stage with
  | record r next => simp [isAfterTurn] at h
  | _ => rfl

theorem isReturned_of_isAfterTurn (h : stage.isAfterTurn = true) : stage.isReturned = false := by
  cases stage with
  | returned => simp [isAfterTurn] at h
  | _ => rfl

end Stage

/-- A step of a dispatch as far as attempts and records are concerned: it makes an attempt, records
the outcome of one, or does neither. -/
inductive Dispatch.Effect (config : Config) (input : DispatchInput) (bus : Bus) (d : Dispatch) :
    Bus → Dispatch → Prop
  | silent {after : Bus} {d' : Dispatch} (before : d.stage.report = none)
      (silent : d'.stage.report = none) (current : d'.current = d.current)
      (anyFailed : d'.anyFailed = d.anyFailed) (log : after.log = bus.log)
      (store : ∃ ok status, after.store = (bus.updateStatus ok d.seq status).store) :
      Effect config input bus d after d'
  | attempt {id : String} {result : AttemptResult} {next : Stage}
      (turn : Dispatch.Turn input bus d id result next) :
      Effect config input bus d (d.finishAttempt config input id result next).1
        (d.finishAttempt config input id result next).2
  | record {report : Report} {next : Stage} (stage : d.stage = .record report next) :
      Effect config input bus d (bus.recordDelivery (d.writes input) d.seq report)
        { d with stage := next }

namespace Dispatch

variable {input : DispatchInput} {bus after : Bus} {d d' : Dispatch} {next : Stage}
  {config : Config}

theorem Turn.report_eq_none {id : String} {result : AttemptResult}
    (h : Turn input bus d id result next) : d.stage.report = none := by
  cases h with
  | sync stage | async stage => simp [stage, Stage.report]

section

variable (h : Change config input bus d after d')
include h

theorem Change.effect : Effect config input bus d after d' := by
  have hsame : ∃ ok status, bus.store = (bus.updateStatus ok d.seq status).store :=
    ⟨false, .pending, rfl⟩
  cases h with
  | resolve stage =>
    refine .silent (by simp [stage, Stage.report]) ?_ rfl rfl rfl hsame
    simp only
    split_ifs <;> rfl
  | mark stage =>
    refine .silent (by simp [stage, Stage.report]) ?_ rfl rfl (Bus.updateStatus_log _ _ _ _)
      ⟨_, _, rfl⟩
    simp only
    split_ifs <;> rfl
  | snapshot stage | collect stage =>
    exact .silent (by simp [stage, Stage.report]) rfl rfl rfl rfl hsame
  | attempt turn => exact .attempt turn
  | record stage => exact .record stage
  | finish stage =>
    refine .silent ?_ rfl rfl rfl (Bus.updateStatus_log _ _ _ _) ⟨_, _, rfl⟩
    obtain hstage | ⟨hstage, _⟩ := stage
    all_goals simp [hstage, Stage.report]

/-- A failure about to be recorded is known to the dispatch. -/
theorem Change.failing
    (hfollows : ∀ {report next}, d.stage = .record report next → next.isAfterTurn = true)
    {report : Report} (hstage : d'.stage = .record report next)
    (hfailed : report.status ≠ .delivered) : d'.anyFailed = true := by
  cases h.effect with
  | silent _ silent =>
    rw [hstage] at silent
    exact absurd silent (by simp [Stage.report])
  | attempt turn =>
    obtain ⟨rfl, _⟩ := Stage.record.inj hstage
    rw [reportOf_status] at hfailed
    simp [finishAttempt, hfailed]
  | record stage =>
    have hafter := hfollows stage
    simp only at hstage
    simp [hstage, Stage.isAfterTurn] at hafter

/-- A dispatch that ends early writes that its event is delivered. -/
theorem Change.closing (hold : ∀ status, d.stage.closeStatus = some status → status = .delivered)
    {status : EventStatus} (hstage : d'.stage.closeStatus = some status) : status = .delivered := by
  cases h with
  | resolve | mark =>
    simp only at hstage
    split_ifs at hstage
    · exact (Option.some.inj hstage).symm
    · simp [Stage.closeStatus] at hstage
  | snapshot | collect | finish => simp [Stage.closeStatus] at hstage
  | attempt turn =>
    have hnext := turn.closeStatus
    simp only [finishAttempt, Stage.closeStatus] at hstage
    split_ifs at hstage
    · exact (Option.some.inj hstage).symm
    · simp [hnext] at hstage
  | record stage => exact hold status (by rw [stage]; exact hstage)

/-- A dispatch returns with a write of the status of its event. -/
theorem Change.of_returned
    (hfollows : ∀ {report next}, d.stage = .record report next → next.isAfterTurn = true)
    (hreturned : d'.stage.isReturned = true) :
    ∃ status, (d.stage = .close status ∨ d.stage = .fanOut [] ∧ status = d.finalStatus) ∧
      after = bus.updateStatus (d.writes input) d.seq status := by
  cases h with
  | resolve | mark =>
    simp only at hreturned
    split_ifs at hreturned
    all_goals simp [Stage.isReturned] at hreturned
  | snapshot | collect => simp [Stage.isReturned] at hreturned
  | attempt => simp [finishAttempt, Stage.isReturned] at hreturned
  | record stage =>
    have hrunning := Stage.isReturned_of_isAfterTurn (hfollows stage)
    exact absurd (hrunning.symm.trans hreturned) (by simp)
  | finish stage => exact ⟨_, stage, rfl⟩

end

end Dispatch

/-! ## The retry task -/

namespace RetryPhase

/-- The deliveries the retry task has not finished. -/
def items : RetryPhase → List RetryableDelivery
  | idle => []
  | working todo => todo
  | calling delivery _ todo => delivery :: todo
  | recording delivery _ todo => delivery :: todo
  | loading _ todo => todo
  | finalizing _ _ todo => todo

/-- The deliveries of an event are over, and this is the status that follows. -/
theorem verdict_eq_some_iff {event : StoredEvent} {status : EventStatus} :
    verdict event = some status ↔
      (∀ record ∈ event.deliveries, record.status = .delivered ∨ record.status = .deadLettered) ∧
      status = if event.deliveries.any (·.status = .deadLettered) then .deadLettered
        else .delivered := by
  unfold verdict
  by_cases hover : (event.deliveries.all fun record ↦
      record.status = .delivered ∨ record.status = .deadLettered) = true
  · rw [if_pos hover, Option.some.injEq, eq_comm (b := status)]
    have hall : ∀ record ∈ event.deliveries,
        record.status = .delivered ∨ record.status = .deadLettered := by simpa using hover
    exact (and_iff_right hall).symm
  · rw [if_neg hover]
    refine iff_of_false (by simp) fun h ↦ hover ?_
    simpa using h.1

/-- What a retry attempt leaves of the bus, and its outcome. -/
structure Answered (bus : Bus) (delivery : RetryableDelivery) (answer : RetryOutcome × Bus) :
    Prop where
  store : answer.2.store = bus.store
  clock : answer.2.clock = bus.clock
  log : answer.2.log = bus.log ∨
    answer.2.log = .webhookReturned delivery.seq delivery.subscriberId
      (answer.1 = .delivered) :: bus.log
  registry : bus.KeepsRegistry answer.2

/-- An attempt on a delivery: the subscription is gone, or it is called. -/
inductive Turn (config : Config) (input : RetryInput) (bus : Bus) :
    RetryPhase → RetryableDelivery → List RetryableDelivery → RetryOutcome × Bus → Prop
  | gone {delivery : RetryableDelivery} {todo : List RetryableDelivery}
      (left : delivery.attempts < config.retry.maxAttempts)
      (missing : bus.index.findById delivery.subscriberId = none) :
      Turn config input bus (working (delivery :: todo)) delivery todo
        (.permanent ("subscriber " ++ delivery.subscriberId ++ " no longer exists"), bus)
  | call {delivery : RetryableDelivery} {target : RetryTarget} {todo : List RetryableDelivery} :
      Turn config input bus (calling delivery target todo) delivery todo
        (bus.retryToSubscriber config input.delivery delivery target)

/-- Everything one step of the retry task can do. -/
inductive Change (config : Config) (input : RetryInput) (bus : Bus) :
    RetryPhase → Bus → RetryPhase → Prop
  | rest : Change config input bus (working []) bus idle
  | exhausted {delivery : RetryableDelivery} {todo : List RetryableDelivery}
      (spent : config.retry.maxAttempts ≤ delivery.attempts) :
      Change config input bus (working (delivery :: todo)) bus
        (recording delivery (deadLetter delivery "max attempts exceeded") todo)
  | lookUp {delivery : RetryableDelivery} {todo : List RetryableDelivery}
      {entry : SubscriptionEntry} (found : bus.index.findById delivery.subscriberId = some entry) :
      Change config input bus (working (delivery :: todo)) bus
        (calling delivery ⟨entry.channel, delivery.subscriberId ∈ bus.senders⟩ todo)
  | attempt {phase : RetryPhase} {delivery : RetryableDelivery}
      {todo : List RetryableDelivery} {answer : RetryOutcome × Bus}
      (turn : Turn config input bus phase delivery todo answer) :
      Change config input bus phase (finishAttempt config input delivery todo answer).1
        (finishAttempt config input delivery todo answer).2
  | record {delivery : RetryableDelivery} {report : Report} {todo : List RetryableDelivery} :
      Change config input bus (recording delivery report todo)
        (bus.recordDelivery input.storeOk delivery.seq report)
        (if report.status = .failed then working todo else loading delivery.seq todo)
  | load {seq : ℕ} {todo : List RetryableDelivery} {event : StoredEvent} {status : EventStatus}
      (found : bus.store.find seq = some event) (ended : verdict event = some status) :
      Change config input bus (loading seq todo) bus (finalizing seq status todo)
  | skip {seq : ℕ} {todo : List RetryableDelivery}
      (open_or_unread : input.storeOk = true → (bus.store.find seq).bind verdict = none) :
      Change config input bus (loading seq todo) bus (working todo)
  | finalize {seq : ℕ} {status : EventStatus} {todo : List RetryableDelivery} :
      Change config input bus (finalizing seq status todo)
        (bus.updateStatus input.storeOk seq status) (working todo)

variable {phase : RetryPhase} {r : Report}

theorem change_of_step (config : Config) (input : RetryInput) (bus : Bus)
    (h : phase.isIdle = false) :
    Change config input bus phase (phase.step config input bus).1
      (phase.step config input bus).2 := by
  cases phase with
  | idle => simp [isIdle] at h
  | working todo =>
    cases todo with
    | nil => exact .rest
    | cons delivery todo =>
      simp only [step]
      split_ifs with hspent
      · exact .exhausted hspent
      · cases hfound : bus.index.findById delivery.subscriberId with
        | none => exact .attempt (.gone (not_le.mp hspent) hfound)
        | some entry => exact .lookUp hfound
  | calling delivery target todo => exact .attempt .call
  | recording delivery report todo => exact .record
  | loading seq todo =>
    simp only [step]
    by_cases hok : input.storeOk = true
    · cases hverdict : (bus.store.get seq).bind verdict with
      | none =>
        simp only [hok, if_true]
        exact .skip fun _ ↦ hverdict
      | some status =>
        simp only [hok, if_true]
        obtain ⟨event, hfound, hover⟩ := Option.bind_eq_some_iff.mp hverdict
        exact .load hfound hover
    · simp only [hok]
      exact .skip fun hok' ↦ absurd hok' hok
  | finalizing seq status todo => exact .finalize

theorem retryToSubscriber_answered (config : Config) (answer : Except DeliveryError Unit)
    (delivery : RetryableDelivery) (target : RetryTarget) (bus : Bus) :
    Answered bus delivery (bus.retryToSubscriber config answer delivery target) := by
  unfold Bus.retryToSubscriber
  split
  · exact ⟨rfl, rfl, .inr rfl, ⟨rfl, rfl, rfl, rfl⟩⟩
  · split_ifs
    all_goals exact ⟨rfl, rfl, .inl rfl, ⟨rfl, rfl, rfl, rfl⟩⟩
  · split_ifs
    · split
      all_goals exact ⟨rfl, rfl, .inl rfl, ⟨rfl, rfl, rfl, rfl⟩⟩
    · exact ⟨rfl, rfl, .inl rfl, ⟨rfl, rfl, rfl, rfl⟩⟩
  · exact ⟨rfl, rfl, .inl rfl, ⟨rfl, rfl, rfl, rfl⟩⟩

variable {config : Config} {input : RetryInput} {bus : Bus} {phase : RetryPhase}
  {delivery : RetryableDelivery} {todo : List RetryableDelivery} {answer : RetryOutcome × Bus}

theorem Turn.answered (h : Turn config input bus phase delivery todo answer) :
    Answered bus delivery answer := by
  cases h with
  | gone => exact ⟨rfl, rfl, .inl rfl, ⟨rfl, rfl, rfl, rfl⟩⟩
  | call => exact retryToSubscriber_answered _ _ _ _ _

theorem Turn.items (h : Turn config input bus phase delivery todo answer) :
    phase.items = delivery :: todo := by
  cases h <;> rfl

variable {phase' : RetryPhase} {after : Bus}

/-- What the writes of the retry task keep of the store, its steps keep. -/
theorem Change.keeps {P : InMemoryEventStore → Prop}
    (h : Change config input bus phase after phase') (hstore : P bus.store)
    (hstatus : ∀ seq status todo, phase = finalizing seq status todo →
      P (bus.store.updateStatus seq status).2)
    (hrecord : ∀ delivery report todo, phase = recording delivery report todo →
      P (bus.store.recordDelivery bus.clock delivery.seq report.subscriberId report.status
        report.error report.nextRetry).2) : P after.store := by
  cases h with
  | rest | exhausted | lookUp => exact hstore
  | attempt turn => exact turn.answered.store ▸ hstore
  | record =>
    unfold Bus.recordDelivery
    split_ifs
    · exact hrecord _ _ _ rfl
    · exact hstore
  | load | skip => exact hstore
  | finalize =>
    unfold Bus.updateStatus
    split_ifs
    · exact hstatus _ _ _ rfl
    · exact hstore

/-- The retry task only adds to the history. -/
theorem Change.log (h : Change config input bus phase after phase') :
    ∃ new, after.log = new ++ bus.log := by
  cases h with
  | rest | exhausted | lookUp => exact ⟨[], rfl⟩
  | attempt turn =>
    obtain hlog | hlog := turn.answered.log
    · exact ⟨[_], by simp only [finishAttempt, Bus.note, hlog]; rfl⟩
    · exact ⟨[_, _], by simp only [finishAttempt, Bus.note, hlog]; rfl⟩
  | record => exact ⟨[], Bus.recordDelivery_log _ _ _ _⟩
  | load | skip => exact ⟨[], rfl⟩
  | finalize => exact ⟨[], Bus.updateStatus_log _ _ _ _⟩

/-- The delivery and the outcome on its way to the store. -/
def report : RetryPhase → Option (RetryableDelivery × Report)
  | recording delivery report _ => some (delivery, report)
  | _ => none

theorem report_eq_some (h : phase.report = some (delivery, r)) :
    ∃ todo, phase = recording delivery r todo := by
  cases phase with
  | recording other r' todo =>
    cases h
    exact ⟨todo, rfl⟩
  | _ => simp [report] at h

theorem mem_items_of_recording (h : phase = recording delivery r todo) : delivery ∈ phase.items :=
  h ▸ List.mem_cons_self

theorem mem_items_of_report (h : phase.report = some (delivery, r)) : delivery ∈ phase.items := by
  obtain ⟨todo, hphase⟩ := report_eq_some h
  exact mem_items_of_recording hphase

theorem Turn.report_eq_none (h : Turn config input bus phase delivery todo answer) :
    phase.report = none := by
  cases h <;> rfl

theorem Turn.mem_items (h : Turn config input bus phase delivery todo answer) :
    delivery ∈ phase.items :=
  h.items ▸ List.mem_cons_self

theorem report_of_isIdle (h : phase.isIdle = true) : phase.report = none := by
  cases phase with
  | idle => rfl
  | _ => simp [isIdle] at h

/-- A step of the retry task as far as attempts and records are concerned. -/
inductive Effect (config : Config) (input : RetryInput) (bus : Bus) :
    RetryPhase → Bus → RetryPhase → Prop
  | silent {phase phase' : RetryPhase} {after : Bus} (before : phase.report = none)
      (silent : phase'.report = none) (log : after.log = bus.log)
      (store : ∃ ok seq status, after.store = (bus.updateStatus ok seq status).store) :
      Effect config input bus phase after phase'
  | attempt {phase : RetryPhase} {delivery : RetryableDelivery}
      {todo : List RetryableDelivery} {answer : RetryOutcome × Bus}
      (turn : Turn config input bus phase delivery todo answer) :
      Effect config input bus phase (finishAttempt config input delivery todo answer).1
        (finishAttempt config input delivery todo answer).2
  | record {delivery : RetryableDelivery} {report : Report} {todo : List RetryableDelivery}
      {phase' : RetryPhase} (silent : phase'.report = none) :
      Effect config input bus (recording delivery report todo)
        (bus.recordDelivery input.storeOk delivery.seq report) phase'

/-- A retry task none of whose deliveries has spent its attempts makes an attempt before it
records an outcome. -/
theorem Change.effect (h : Change config input bus phase after phase')
    (hleft : ∀ item ∈ phase.items, item.attempts < config.retry.maxAttempts) :
    Effect config input bus phase after phase' := by
  have hsame : ∃ ok seq status, bus.store = (bus.updateStatus ok seq status).store :=
    ⟨false, 0, .pending, rfl⟩
  cases h with
  | rest | lookUp | load | skip => exact .silent rfl rfl rfl hsame
  | exhausted spent => exact absurd (hleft _ List.mem_cons_self) (not_lt.mpr spent)
  | attempt turn => exact .attempt turn
  | record =>
    apply Effect.record
    split_ifs <;> rfl
  | finalize => exact .silent rfl rfl (Bus.updateStatus_log _ _ _ _) ⟨_, _, _, rfl⟩

/-- The retry task takes on no new delivery until it polls again. -/
theorem Change.items_subset (h : Change config input bus phase after phase') :
    phase'.items.Sublist phase.items := by
  cases h with
  | rest | exhausted | lookUp | load | skip | finalize => exact List.Sublist.refl _
  | attempt turn =>
    rw [turn.items]
    exact List.Sublist.refl _
  | record =>
    split_ifs
    all_goals exact List.sublist_cons_self _ _

theorem Change.items_of_recording {report : Report}
    (h : Change config input bus (recording delivery report todo) after phase') :
    phase'.items = todo := by
  cases h with
  | attempt turn => cases turn
  | record => split_ifs <;> rfl

theorem reportOf_subscriberId (config : Config) (now draw : ℕ) (delivery : RetryableDelivery)
    (outcome : RetryOutcome) :
    (reportOf config now draw delivery outcome).subscriberId = delivery.subscriberId := by
  cases outcome with
  | delivered => rfl
  | transient message =>
    simp only [reportOf]
    split_ifs <;> rfl
  | permanent message => rfl

/-- What is about to be written is about the delivery at hand. -/
theorem Change.reported (h : Change config input bus phase after phase')
    (hold : ∀ delivery report todo, phase = recording delivery report todo →
      report.subscriberId = delivery.subscriberId) {report : Report}
    (hrecording : phase' = recording delivery report todo) :
    report.subscriberId = delivery.subscriberId := by
  cases h with
  | rest => cases hrecording
  | exhausted =>
    cases hrecording
    rfl
  | lookUp => cases hrecording
  | attempt turn =>
    cases hrecording
    exact reportOf_subscriberId _ _ _ _ _
  | record => split_ifs at hrecording
  | load | skip | finalize => cases hrecording

/-- A status is about to be written only right after the event was found to be over. -/
theorem Change.of_finalizes {seq : ℕ} (h : Change config input bus phase after phase')
    (hfinal : phase'.finalizes seq = true) :
    after = bus ∧ ∃ event status todo, phase' = finalizing seq status todo ∧
      bus.store.find seq = some event ∧ verdict event = some status := by
  cases h with
  | rest | exhausted | lookUp | skip | finalize => simp [finalizes] at hfinal
  | attempt turn => simp [finishAttempt, finalizes] at hfinal
  | record =>
    split_ifs at hfinal
    all_goals simp [finalizes] at hfinal
  | load found ended =>
    obtain rfl : _ = seq := by simpa [finalizes] using hfinal
    exact ⟨rfl, _, _, _, rfl, found, ended⟩

/-- The retry task registers nothing. -/
theorem Change.keepsRegistry (h : Change config input bus phase after phase') :
    bus.KeepsRegistry after := by
  cases h with
  | attempt turn =>
    have hregistry := turn.answered.registry
    exact ⟨hregistry.index, hregistry.senders, hregistry.interceptors, hregistry.usedIds⟩
  | record => exact Bus.recordDelivery_keepsRegistry _ _ _ _
  | finalize => exact Bus.updateStatus_keepsRegistry _ _ _ _
  | rest | exhausted | lookUp | load | skip => exact ⟨rfl, rfl, rfl, rfl⟩

end RetryPhase

/-- A step only adds to the history. -/
theorem System.log_of_step {config : Config} {system next : System} {label : Label}
    (h : step config system label = some next) : ∃ new, next.bus.log = new ++ system.bus.log := by
  cases change_of_step h with
  | quiet quiet =>
    obtain hlog | ⟨_, _, _, hlog⟩ := quiet.log
    · exact ⟨[], hlog⟩
    · exact ⟨[_], hlog⟩
  | publish => exact ⟨[_], rfl⟩
  | publishReply => exact ⟨[], rfl⟩
  | dispatch at_i running => exact (Dispatch.change_of_step _ _ _ running).log
  | poll => exact ⟨[], rfl⟩
  | retry busy => exact (RetryPhase.change_of_step _ _ _ busy).log
  | compact => exact ⟨[], rfl⟩

/-- What a step can do to the registrations. -/
inductive System.Registers (system next : System) : Prop
  | keeps (registry : system.bus.KeepsRegistry next.bus) (webhooks : next.webhooks = system.webhooks)
  | subscribe {entry : SubscriptionEntry} {index : SubjectIndex} (forwarded : Bool)
      (fresh : entry.id ∉ system.bus.usedIds)
      (subscribed : system.bus.index.subscribe entry = .ok index)
      (webhook : forwarded = true → ∃ pattern url priority,
        entry = System.webhookEntry entry.id pattern url priority)
      (bus : next.bus = { system.bus.setChannel entry.id .new with
        index
        senders := entry.id :: system.bus.senders
        usedIds := entry.id :: system.bus.usedIds })
      (webhooks : next.webhooks = if forwarded then entry.id :: system.webhooks
        else system.webhooks)
  | intercept {id subjectPattern : String} {priority : ℕ} {timeout : Option ℕ}
      {index : SubjectIndex} (fresh : id ∉ system.bus.usedIds)
      (subscribed : system.bus.index.subscribe
        (Bus.interceptorEntry id subjectPattern priority timeout) = .ok index)
      (bus : next.bus = { system.bus with
        index
        interceptors := id :: system.bus.interceptors
        usedIds := id :: system.bus.usedIds })
      (webhooks : next.webhooks = system.webhooks)
  | unsubscribe (id : String) (bus : next.bus = system.bus.unsubscribe id)
      (webhooks : next.webhooks = system.webhooks)

namespace System

/-- The step registers and unregisters nobody. -/
def keepsTable : Label → Bool
  | .subscribe _ | .createSubscription .. | .intercept .. | .unsubscribe _ => false
  | _ => true

variable {config : Config} {system next : System} {label : Label}

theorem keepsRegistry_of_step (h : step config system label = some next)
    (htable : keepsTable label = true) :
    system.bus.KeepsRegistry next.bus ∧ next.webhooks = system.webhooks := by
  cases effect_of_step h with
  | dispatch at_i running =>
    exact ⟨(Dispatch.change_of_step config _ system.bus running).keepsRegistry, rfl⟩
  | retry busy => exact ⟨(RetryPhase.change_of_step config _ system.bus busy).keepsRegistry, rfl⟩
  | subscribe | createSubscription | intercept | unsubscribe => simp [keepsTable] at htable
  | _ => exact ⟨⟨rfl, rfl, rfl, rfl⟩, rfl⟩

theorem registers_of_step (h : step config system label = some next) : Registers system next := by
  by_cases htable : keepsTable label = true
  · obtain ⟨hregistry, hwebhooks⟩ := keepsRegistry_of_step h htable
    exact .keeps hregistry hwebhooks
  cases effect_of_step h with
  | refused => exact .keeps ⟨rfl, rfl, rfl, rfl⟩ rfl
  | subscribe fresh subscribed => exact .subscribe false fresh subscribed (by simp) rfl rfl
  | @createSubscription id pattern url priority index fresh subscribed =>
    have hentry : (webhookEntry id pattern url priority).id = id := rfl
    exact .subscribe true (hentry ▸ fresh) subscribed (fun _ ↦ ⟨pattern, url, priority, rfl⟩) rfl rfl
  | intercept fresh subscribed => exact .intercept fresh subscribed rfl rfl
  | @unsubscribe id => exact .unsubscribe id rfl rfl
  | _ => exact absurd rfl htable

end System

end Seidrum.EventBus
