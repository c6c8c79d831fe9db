import Seidrum.EventBus.Moves

/-!
# Who is mentioned where

The ids of subscribers travel from the index through a dispatch into delivery records, and from
there to the retry task.  A property of ids that holds of what a lookup finds and of what the store
mentions holds along the way.
-/

namespace Seidrum.EventBus

/-! ## In a dispatch -/

/-- The subscribers that still have a turn in the sync chain. -/
def Stage.syncIds : Stage → List String
  | .mark entries => (entries.filter (·.mode = .sync)).map (·.id)
  | .snapshot sync _ => sync.map (·.id)
  | .chain todo _ => todo.map (·.id)
  | .record _ next => next.syncIds
  | _ => []

theorem Stage.syncIds_subset (stage : Stage) : ∀ id ∈ stage.syncIds, id ∈ stage.pendingIds := by
  induction stage with
  | mark entries => exact (List.filter_sublist.map _).subset
  | snapshot sync async | chain todo async => exact fun _ h ↦ List.mem_append_left _ h
  | record report next ih => exact fun id h ↦ List.mem_cons_of_mem _ (ih id h)
  | _ => simp [syncIds]

/-- The sync chain is over; what is left is the fan-out. -/
def Stage.chainOver : Stage → Bool
  | .fanOut _ | .returned => true
  | .record _ next => next.chainOver
  | _ => false

namespace Bus

theorem sendResult_buffer (sender : Bool) (id : String) (event : DispatchedEvent)
    (sendError : TrySendError → String) (noSender : String) (bus : Bus) :
    (bus.sendResult sender id event sendError noSender).buffer = none ∧
      (bus.sendResult sender id event sendError noSender).dropped = false := by
  unfold sendResult
  split
  · split <;> exact ⟨rfl, rfl⟩
  · exact ⟨rfl, rfl⟩

theorem asyncAttempt_buffer (id : String) (sender : Bool) (event : DispatchedEvent) (bus : Bus) :
    (bus.asyncAttempt id sender event).buffer = none := (sendResult_buffer _ _ _ _ _ _).1

theorem asyncAttempt_dropped (id : String) (sender : Bool) (event : DispatchedEvent) (bus : Bus) :
    (bus.asyncAttempt id sender event).dropped = false := (sendResult_buffer _ _ _ _ _ _).2

end Bus

namespace Dispatch

variable {config : Config} {input : DispatchInput} {bus after : Bus} {d d' : Dispatch} {id : String}

/-- A dispatch mentions nobody it did not mention before, but for what its lookup found. -/
theorem Change.mem_pendingIds (h : Change config input bus d after d')
    (hid : id ∈ d'.stage.pendingIds) : id ∈ d.stage.pendingIds ∨
      ∃ entry ∈ bus.index.lookup d.subject, entry.id = id := by
  cases h with
  | resolve stage =>
    simp only at hid
    split_ifs at hid
    · simp [Stage.pendingIds] at hid
    · exact .inr (by simpa [Stage.pendingIds] using hid)
  | @mark entries kept stage sublist =>
    left
    rw [stage, Stage.pendingIds]
    apply (sublist.map _).subset
    simp only at hid
    split_ifs at hid
    · simp [Stage.pendingIds] at hid
    · simp only [Stage.pendingIds, List.mem_append, List.mem_map, List.mem_filter] at hid ⊢
      obtain ⟨entry, ⟨hentry, _⟩, rfl⟩ | ⟨entry, ⟨hentry, _⟩, rfl⟩ := hid
      all_goals exact ⟨entry, hentry, rfl⟩
  | snapshot stage => exact .inl (pendingIds_snapshot bus stage ▸ hid)
  | collect stage => exact .inl (by simpa [stage, Stage.pendingIds] using hid)
  | @attempt id result next turn =>
    left
    rw [turn.pendingIds]
    simp only [finishAttempt, Stage.pendingIds, reportOf_subscriberId] at hid
    split_ifs at hid
    · simp only [Stage.pendingIds, List.mem_singleton] at hid
      exact hid ▸ List.mem_cons_self
    · exact hid
  | record stage =>
    left
    rw [stage, Stage.pendingIds]
    exact List.mem_cons_of_mem _ hid
  | finish => simp [Stage.pendingIds] at hid

/-- Only sync subscribers get a turn in the sync chain. -/
theorem Change.mem_syncIds (h : Change config input bus d after d') (hid : id ∈ d'.stage.syncIds) :
    id ∈ d.stage.syncIds ∨
      ∃ entry ∈ bus.index.lookup d.subject, entry.id = id ∧ entry.mode = .sync := by
  cases h with
  | resolve stage =>
    simp only at hid
    split_ifs at hid
    · simp [Stage.syncIds] at hid
    · simp only [Stage.syncIds, List.mem_map, List.mem_filter, decide_eq_true_eq] at hid
      obtain ⟨entry, ⟨hentry, hmode⟩, rfl⟩ := hid
      exact .inr ⟨entry, hentry, rfl, hmode⟩
  | @mark entries kept stage sublist =>
    left
    rw [stage, Stage.syncIds]
    simp only at hid
    split_ifs at hid
    · simp [Stage.syncIds] at hid
    · exact ((sublist.filter _).map _).subset hid
  | snapshot stage =>
    left
    rw [stage]
    simpa [Stage.syncIds, Bus.syncEntry, Function.comp_def] using hid
  | collect | finish => simp [Stage.syncIds] at hid
  | attempt turn =>
    left
    simp only [finishAttempt, Stage.syncIds] at hid
    split_ifs at hid
    · simp [Stage.syncIds] at hid
    · cases turn with
      | sync stage =>
        rw [stage]
        exact List.mem_cons_of_mem _ hid
      | async => simp [Stage.syncIds] at hid
  | record stage =>
    rw [stage]
    exact .inl hid

/-- What a dispatch hands out in its fan-out does not change any more. -/
theorem Change.of_chainOver (h : Change config input bus d after d')
    (hover : d.stage.chainOver = true) : d'.stage.chainOver = true ∧ d'.current = d.current := by
  cases h with
  | resolve stage | mark stage | snapshot stage | collect stage =>
    simp [stage, Stage.chainOver] at hover
  | attempt turn =>
    cases turn with
    | sync stage => simp [stage, Stage.chainOver] at hover
    | async stage =>
      simp only [finishAttempt, Bus.asyncAttempt_buffer, Bus.asyncAttempt_dropped]
      exact ⟨rfl, rfl⟩
  | record stage =>
    rw [stage] at hover
    exact ⟨hover, rfl⟩
  | finish => exact ⟨rfl, rfl⟩

end Dispatch

namespace InMemoryEventStore

/-- Every delivery record is about a subscriber with the property. -/
def Mentions (Q : String → Prop) (store : InMemoryEventStore) : Prop :=
  ∀ event ∈ store.events, ∀ record ∈ event.deliveries, Q record.subscriberId

variable {Q : String → Prop} {store : InMemoryEventStore}

section

variable (h : store.Mentions Q)
include h

theorem Mentions.modify (seq : ℕ) {f : StoredEvent → StoredEvent}
    (hf : ∀ event, (f event).seq = event.seq)
    (hdeliveries : ∀ event ∈ store.events, ∀ record ∈ (f event).deliveries, Q record.subscriberId) :
    (store.modify seq f hf).Mentions Q := by
  intro event hevent
  obtain ⟨source, hsource, rfl⟩ := List.mem_map.mp hevent
  split_ifs
  · exact hdeliveries source hsource
  · exact h source hsource

theorem Mentions.updateStatus (seq : ℕ) (status : EventStatus) :
    (store.updateStatus seq status).2.Mentions Q := by
  unfold InMemoryEventStore.updateStatus
  split
  · exact h.modify seq (StoredEvent.withStatus_seq status) h
  · exact h

theorem Mentions.recordDelivery (now seq : ℕ) {subscriberId : String} (hid : Q subscriberId)
    (status : DeliveryStatus) (error : Option String) (nextRetry : Option ℕ) :
    (store.recordDelivery now seq subscriberId status error nextRetry).2.Mentions Q := by
  unfold InMemoryEventStore.recordDelivery
  split
  · refine h.modify seq (StoredEvent.withDelivery_seq now subscriberId status error nextRetry)
      fun event hevent record hrecord ↦ ?_
    have hids := StoredEvent.mem_ids_recordIn (List.mem_map_of_mem hrecord)
    obtain heq | hold := hids
    · exact heq ▸ hid
    · obtain ⟨other, hother, heq⟩ := List.mem_map.mp hold
      exact heq ▸ h event hevent other hother
  · exact h

theorem Mentions.append (now : ℕ) {event : StoredEvent} (hfresh : event.deliveries = []) :
    (store.append now event).2.Mentions Q := by
  intro other hother record hrecord
  obtain hold | rfl := mem_append.mp hother
  · exact h other hold record hrecord
  · simp [hfresh] at hrecord

theorem Mentions.retain (p : StoredEvent → Bool) :
    (store.retain p).Mentions Q := fun event hevent ↦ h event (mem_retain.mp hevent).1

theorem Mentions.requeueDeadLettered (seq : ℕ) : (store.requeueDeadLettered seq).2.Mentions Q := by
  unfold InMemoryEventStore.requeueDeadLettered
  split
  · exact h
  · split_ifs
    · exact h.modify seq StoredEvent.requeued_seq fun _ _ _ hrecord ↦
        absurd hrecord List.not_mem_nil
    · exact h

theorem Mentions.queryRetryable (now maxAttempts limit : ℕ) :
    ∀ item ∈ store.queryRetryable now maxAttempts limit, Q item.subscriberId := by
  intro item hitem
  have hsorted := List.mem_of_mem_take hitem
  rw [sortByNextRetry, List.mem_insertionSort] at hsorted
  obtain ⟨event, hevent, hitem⟩ := List.mem_flatMap.mp hsorted
  obtain ⟨record, hrecord, rfl⟩ := List.mem_map.mp hitem
  exact h event hevent record (List.mem_of_mem_filter hrecord)

end

end InMemoryEventStore

namespace System

/-- The store and the retry task mention only subscribers with the property. -/
structure Mentions (Q : String → Prop) (system : System) : Prop where
  records : system.bus.store.Mentions Q
  items : ∀ item ∈ system.retry.items, Q item.subscriberId
  reported : ∀ item report todo, system.retry = .recording item report todo →
    report.subscriberId = item.subscriberId

variable {Q : String → Prop} {config : Config} {system next : System} {label : Label}

theorem Mentions.mono {Q' : String → Prop} (h : system.Mentions Q) (hQ : ∀ id, Q id → Q' id) :
    system.Mentions Q' where
  records event hevent record hrecord := hQ _ (h.records event hevent record hrecord)
  items item hitem := hQ _ (h.items item hitem)
  reported := h.reported

/-- They go on mentioning no others when the dispatches of persisted events do not either. -/
theorem Mentions.step (h : system.Mentions Q)
    (hpending : ∀ d ∈ system.dispatches, d.active = true → ∀ id ∈ d.stage.pendingIds, Q id)
    (hstep : step config system label = some next) : next.Mentions Q := by
  cases change_of_step hstep with
  | quiet quiet =>
    exact ⟨quiet.store ▸ h.records, quiet.retry ▸ h.items, quiet.retry ▸ h.reported⟩
  | publish fresh starts => exact ⟨h.records.append _ fresh.1, h.items, h.reported⟩
  | publishReply starts => exact ⟨h.records, h.items, h.reported⟩
  | @dispatch i input d at_i running =>
    refine ⟨?_, h.items, h.reported⟩
    apply (Dispatch.change_of_step config input system.bus running).keeps h.records
    · exact fun status _ ↦ h.records.updateStatus _ _
    · intro report next hactive hstage
      apply h.records.recordDelivery
      refine hpending d (List.mem_of_getElem? at_i) hactive _ ?_
      rw [hstage]
      exact List.mem_cons_self
  | poll idle =>
    refine ⟨h.records, ?_, by simp [RetryPhase.poll]⟩
    exact h.records.queryRetryable _ _ _
  | @retry input busy =>
    have hchange := RetryPhase.change_of_step config input system.bus busy
    refine ⟨?_, fun item hitem ↦ h.items item (hchange.items_subset.subset hitem),
      fun item report todo hrecording ↦ hchange.reported h.reported hrecording⟩
    apply hchange.keeps h.records
    · exact fun _ _ _ _ ↦ h.records.updateStatus _ _
    · intro item report todo hphase
      apply h.records.recordDelivery
      rw [h.reported item report todo hphase]
      exact h.items item (RetryPhase.mem_items_of_recording hphase)
  | compact => exact ⟨h.records.retain _, h.items, h.reported⟩

end System

variable {id : String} {bus : Bus} {other : String}

/-- A send reaches at most the channel of its subscriber, and then it is a delivery. -/
theorem Bus.sendResult_channels {sender : Bool} {event : DispatchedEvent}
    {sendError : TrySendError → String} {noSender : String}
    (h : other ≠ id ∨ (bus.sendResult sender id event sendError noSender).status ≠ .delivered) :
    (bus.sendResult sender id event sendError noSender).bus.channels other =
      bus.channels other := by
  unfold sendResult at h ⊢
  split_ifs at h ⊢ with hsender
  · cases hsend : (bus.channels id).trySend event with
    | ok channel =>
      have hother : other ≠ id := by simpa [hsend] using h
      simp [setChannel, hother]
    | error error => rfl
  · rfl

theorem Dispatch.Turn.channels {input : DispatchInput} {d : Dispatch} {result : AttemptResult}
    {next : Stage} (h : Turn input bus d id result next)
    (hother : other ≠ id ∨ result.status ≠ .delivered) :
    result.bus.channels other = bus.channels other := by
  cases h with
  | sync =>
    unfold Bus.syncAttempt at hother ⊢
    split_ifs at hother ⊢
    · cases input.outcome <;> rfl
    · exact Bus.sendResult_channels hother
  | async => exact Bus.sendResult_channels hother

/-- A retry reaches at most the channel of its subscriber, and not when it calls a webhook. -/
theorem RetryPhase.retryToSubscriber_channels {config : Config} {answer : Except DeliveryError Unit}
    {delivery : RetryableDelivery} {target : RetryTarget}
    (h : other ≠ delivery.subscriberId ∨ ∃ url, target.channel = .webhook url) :
    (bus.retryToSubscriber config answer delivery target).2.channels other =
      bus.channels other := by
  unfold Bus.retryToSubscriber
  cases hchannel : target.channel with
  | webhook url => rfl
  | custom channelType =>
    simp only
    split_ifs <;> rfl
  | inProcess =>
    have hother : other ≠ delivery.subscriberId := by simpa [hchannel] using h
    simp only
    split_ifs
    · cases (bus.channels delivery.subscriberId).trySend
          ⟨delivery.payload, delivery.replySubject, delivery.subject, delivery.seq⟩ with
      | ok channel => simp [Bus.setChannel, hother]
      | error error => rfl
    · rfl
  | webSocket => rfl

theorem Bus.updateStatus_channels (ok : Bool) (seq : ℕ) (status : EventStatus) (bus : Bus) :
    (bus.updateStatus ok seq status).channels = bus.channels := by
  unfold updateStatus
  split_ifs <;> rfl

theorem Bus.recordDelivery_channels (ok : Bool) (seq : ℕ) (report : Report) (bus : Bus) :
    (bus.recordDelivery ok seq report).channels = bus.channels := by
  unfold recordDelivery
  split_ifs <;> rfl

/-- The attempts on one subscriber, newest first. -/
def attemptsOn (id : String) (log : List LogEntry) : List Attempt :=
  log.filterMap fun entry ↦ match entry with
    | .attempted attempt => if attempt.subscriberId = id then some attempt else none
    | _ => none

@[simp]
theorem attemptsOn_webhookReturned (id : String) (seq : ℕ) (subscriberId : String) (ok : Bool)
    (log : List LogEntry) :
    attemptsOn id (.webhookReturned seq subscriberId ok :: log) = attemptsOn id log := rfl

theorem attemptsOn_attempted (id : String) (attempt : Attempt) (log : List LogEntry) :
    attemptsOn id (.attempted attempt :: log) =
      if attempt.subscriberId = id then attempt :: attemptsOn id log else attemptsOn id log := by
  by_cases h : attempt.subscriberId = id
  all_goals simp [attemptsOn, h]

namespace Bus

/-- Nothing happened on the channel of a subscription, and no attempt was made on it. -/
structure Untouched (id : String) (bus next : Bus) : Prop where
  channel : next.channels id = bus.channels id
  attempts : attemptsOn id next.log = attemptsOn id bus.log

variable {id other : String} {bus next : Bus}

theorem setChannel_untouched (hne : other ≠ id) (channel : Channel) :
    bus.Untouched id (bus.setChannel other channel) :=
  ⟨if_neg hne.symm, rfl⟩

theorem updateStatus_untouched (ok : Bool) (seq : ℕ) (status : EventStatus) :
    bus.Untouched id (bus.updateStatus ok seq status) :=
  ⟨by rw [updateStatus_channels], by rw [updateStatus_log]⟩

theorem recordDelivery_untouched (ok : Bool) (seq : ℕ) (report : Report) :
    bus.Untouched id (bus.recordDelivery ok seq report) :=
  ⟨by rw [recordDelivery_channels], by rw [recordDelivery_log]⟩

theorem publishEvent_untouched {intercepting : Option String} {subject : String}
    {payload : Payload} {replySubject : Option String} {storeError : Option StorageError}
    {d : Dispatch}
    (h : bus.publishEvent intercepting subject payload replySubject storeError = .ok (next, d)) :
    bus.Untouched id next := by
  obtain ⟨-, _, rfl⟩ | ⟨-, _, rfl⟩ := publishEvent_ok h
  all_goals exact ⟨rfl, rfl⟩

end Bus

namespace Dispatch

variable {config : Config} {input : DispatchInput} {bus after : Bus} {d d' : Dispatch}
  {id other : String} {result : AttemptResult} {next : Stage}

/-- A step of a dispatch is a turn on a subscription, or leaves it alone. -/
theorem Change.untouched_or_turn (h : Change config input bus d after d') (id : String) :
    bus.Untouched id after ∨ ∃ result next, Turn input bus d id result next ∧
      after = (d.finishAttempt config input id result next).1 ∧
      d' = (d.finishAttempt config input id result next).2 := by
  cases h with
  | resolve => exact .inl ⟨rfl, rfl⟩
  | mark | finish => exact .inl (Bus.updateStatus_untouched _ _ _)
  | snapshot | collect => exact .inl ⟨rfl, rfl⟩
  | @attempt other result next turn =>
    by_cases hid : other = id
    · exact .inr ⟨result, next, hid ▸ turn, hid ▸ rfl, hid ▸ rfl⟩
    · left
      obtain ⟨channels, hbus⟩ := turn.sound.bus_eq
      refine ⟨turn.channels (.inl (Ne.symm hid)), ?_⟩
      have hlog : result.bus.log = bus.log := by rw [hbus]
      simp only [finishAttempt, Bus.note, attemptsOn_attempted, attemptOf, hlog]
      exact if_neg hid
  | record => exact .inl (Bus.recordDelivery_untouched _ _ _)

theorem Change.untouched (h : Change config input bus d after d')
    (hid : id ∉ d.stage.pendingIds) : bus.Untouched id after := by
  obtain huntouched | ⟨result, next, hturn, _⟩ := h.untouched_or_turn id
  · exact huntouched
  · exact absurd (hturn.pendingIds ▸ List.mem_cons_self) hid

end Dispatch

namespace RetryPhase

variable {config : Config} {input : RetryInput} {bus after : Bus} {phase phase' : RetryPhase}
  {id : String}

theorem Turn.untouched {delivery : RetryableDelivery} {todo : List RetryableDelivery}
    {answer : RetryOutcome × Bus} (h : Turn config input bus phase delivery todo answer)
    (hne : delivery.subscriberId ≠ id) : bus.Untouched id answer.2 := by
  cases h with
  | gone => exact ⟨rfl, rfl⟩
  | call =>
    refine ⟨retryToSubscriber_channels (.inl hne.symm), ?_⟩
    obtain hlog | hlog := (retryToSubscriber_answered config input.delivery delivery _ bus).log
    · rw [hlog]
    · rw [hlog, attemptsOn_webhookReturned]

/-- The retry task touches the channels of the subscribers it has deliveries for only. -/
theorem Change.untouched (h : Change config input bus phase after phase')
    (hid : ∀ item ∈ phase.items, item.subscriberId ≠ id) : bus.Untouched id after := by
  cases h with
  | rest | exhausted | lookUp => exact ⟨rfl, rfl⟩
  | @attempt phase delivery todo answer turn =>
    have hne : delivery.subscriberId ≠ id :=
      hid delivery turn.mem_items
    have hanswer := turn.untouched hne
    refine ⟨hanswer.channel, ?_⟩
    simp only [finishAttempt, Bus.note, attemptsOn_attempted, attemptOf, if_neg hne]
    exact hanswer.attempts
  | record => exact Bus.recordDelivery_untouched _ _ _
  | load | skip => exact ⟨rfl, rfl⟩
  | finalize => exact Bus.updateStatus_untouched _ _ _

end RetryPhase

namespace System

variable {config : Config} {system next : System} {id : String} {label : Label}

/-- An attempt is made by a dispatch that mentions the subscriber, or by a retry. -/
theorem attempts_of_step (hstep : step config system label = some next)
    (hitems : ∀ item ∈ system.retry.items, item.subscriberId ≠ id)
    (hdispatch : ∀ i input d, label = .dispatch i input → system.dispatches[i]? = some d →
      id ∉ d.stage.pendingIds) : attemptsOn id next.bus.log = attemptsOn id system.bus.log := by
  cases change_of_step hstep with
  | quiet quiet =>
    obtain hlog | ⟨_, _, _, hlog⟩ := quiet.log
    · rw [hlog]
    · rw [hlog, attemptsOn_webhookReturned]
  | publish | publishReply => rfl
  | @dispatch i input d at_i running =>
    exact ((Dispatch.change_of_step config input system.bus running).untouched
      (hdispatch i input d rfl at_i)).attempts
  | poll => rfl
  | @retry input busy =>
    exact ((RetryPhase.change_of_step config input system.bus busy).untouched hitems).attempts
  | compact => rfl

/-- A step touches a channel that was given out by its receiver, by a dispatch that mentions the
subscription, or by a retry for it. -/
theorem untouched_of_step (hstep : step config system label = some next)
    (hused : id ∈ system.bus.usedIds) (hitems : ∀ item ∈ system.retry.items, item.subscriberId ≠ id)
    (hreceive : label ≠ .receive id) (hclose : label ≠ .closeChannel id)
    (hdispatch : ∀ i input d, label = .dispatch i input → system.dispatches[i]? = some d →
      id ∉ d.stage.pendingIds) : system.bus.Untouched id next.bus := by
  cases effect_of_step hstep with
  | @dispatch i input d at_i running =>
    exact (Dispatch.change_of_step config input system.bus running).untouched
      (hdispatch i input d rfl at_i)
  | retry busy => exact (RetryPhase.change_of_step config _ system.bus busy).untouched hitems
  | @subscribe entry index fresh =>
    have hne : id ≠ entry.id := fun heq ↦ fresh (heq ▸ hused)
    exact ⟨if_neg hne, rfl⟩
  | @createSubscription other pattern url priority index fresh =>
    have hne : id ≠ other := fun heq ↦ fresh (heq ▸ hused)
    exact ⟨if_neg hne, rfl⟩
  | @receive other =>
    have hne : other ≠ id := fun heq ↦ hreceive (heq ▸ rfl)
    exact Bus.setChannel_untouched hne _
  | @closeChannel other =>
    have hne : other ≠ id := fun heq ↦ hclose (heq ▸ rfl)
    exact Bus.setChannel_untouched hne _
  | _ => exact ⟨rfl, rfl⟩

end System

end Seidrum.EventBus
