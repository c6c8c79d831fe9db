import Seidrum.EventBus.Moves

/-!
# What events are addressed to

The subject of an event and the subject its replies go to are set when it is published.  The store,
the retry task, the dispatches and the channels hand them on as they are, so a property of the two
that holds of what is published holds of everything along the way.
-/

namespace Seidrum.EventBus

variable {P : String → Option String → Prop}

namespace InMemoryEventStore

/-- Every stored event has a subject and a reply subject with the property. -/
def Addressed (P : String → Option String → Prop) (store : InMemoryEventStore) : Prop :=
  ∀ event ∈ store.events, P event.subject event.replySubject

variable {store : InMemoryEventStore}

theorem Addressed.modify (h : store.Addressed P) (seq : ℕ) {f : StoredEvent → StoredEvent}
    (hf : ∀ event, (f event).seq = event.seq) (hsubject : ∀ event, (f event).subject = event.subject)
    (hreply : ∀ event, (f event).replySubject = event.replySubject) :
    (store.modify seq f hf).Addressed P := by
  intro event hevent
  obtain ⟨source, hsource, rfl⟩ := List.mem_map.mp hevent
  split_ifs
  · rw [hsubject, hreply]
    exact h source hsource
  · exact h source hsource

theorem Addressed.updateStatus (h : store.Addressed P) (seq : ℕ) (status : EventStatus) :
    (store.updateStatus seq status).2.Addressed P := by
  unfold InMemoryEventStore.updateStatus
  split
  · exact h.modify seq (StoredEvent.withStatus_seq status) (fun _ ↦ rfl) fun _ ↦ rfl
  · exact h

theorem Addressed.recordDelivery (h : store.Addressed P) (now seq : ℕ) (subscriberId : String)
    (status : DeliveryStatus) (error : Option String) (nextRetry : Option ℕ) :
    (store.recordDelivery now seq subscriberId status error nextRetry).2.Addressed P := by
  unfold InMemoryEventStore.recordDelivery
  split
  · exact h.modify seq (StoredEvent.withDelivery_seq now subscriberId status error nextRetry)
      (fun _ ↦ rfl) fun _ ↦ rfl
  · exact h

variable {event : StoredEvent}

theorem Addressed.append (h : store.Addressed P) (now : ℕ)
    (hevent : P event.subject event.replySubject) : (store.append now event).2.Addressed P := by
  intro other hother
  obtain hold | rfl := mem_append.mp hother
  · exact h other hold
  · exact hevent

theorem Addressed.retain (h : store.Addressed P) (p : StoredEvent → Bool) :
    (store.retain p).Addressed P := fun event hevent ↦ h event (mem_retain.mp hevent).1

/-- A requeued event is one of the store's. -/
theorem Addressed.requeueDeadLettered (h : store.Addressed P) {seq : ℕ} {next : InMemoryEventStore}
    (hrequeued : store.requeueDeadLettered seq = (.ok event, next)) :
    next.Addressed P ∧ P event.subject event.replySubject := by
  unfold InMemoryEventStore.requeueDeadLettered at hrequeued
  split at hrequeued
  · cases hrequeued
  · rename_i source hfind
    split_ifs at hrequeued
    · obtain ⟨hevent, rfl⟩ := Prod.mk.inj hrequeued
      cases hevent
      exact ⟨h.modify seq StoredEvent.requeued_seq (fun _ ↦ rfl) fun _ ↦ rfl,
        h source (find_eq_some_iff.mp hfind).1⟩
    · cases hrequeued

theorem Addressed.queryRetryable (h : store.Addressed P) (now maxAttempts limit : ℕ) :
    ∀ item ∈ store.queryRetryable now maxAttempts limit, P item.subject item.replySubject := by
  intro item hitem
  have hsorted := List.mem_of_mem_take hitem
  rw [sortByNextRetry, List.mem_insertionSort] at hsorted
  obtain ⟨event, hevent, hitem⟩ := List.mem_flatMap.mp hsorted
  obtain ⟨record, _, rfl⟩ := List.mem_map.mp hitem
  exact h event hevent

end InMemoryEventStore

/-! ## On the channels -/

namespace Bus

/-- Every event waiting on a channel has a property that may depend on the channel. -/
def Waiting (Q : String → DispatchedEvent → Prop) (bus : Bus) : Prop :=
  ∀ id, ∀ event ∈ (bus.channels id).queue, Q id event

variable {Q : String → DispatchedEvent → Prop} {bus next : Bus} {channel : Channel}
  {event : DispatchedEvent}

theorem Waiting.setChannel (h : bus.Waiting Q) (id : String)
    (hchannel : ∀ event ∈ channel.queue, Q id event) : (bus.setChannel id channel).Waiting Q := by
  intro other event hevent
  simp only [Bus.setChannel] at hevent
  split_ifs at hevent with heq
  · exact heq ▸ hchannel event hevent
  · exact h other event hevent

theorem Waiting.trySend (h : bus.Waiting Q) {id : String} (hevent : Q id event)
    (hsend : (bus.channels id).trySend event = .ok channel) :
    (bus.setChannel id channel).Waiting Q := by
  apply h.setChannel
  unfold Channel.trySend at hsend
  split_ifs at hsend
  cases hsend
  intro other hother
  obtain hold | hnew := List.mem_append.mp hother
  · exact h id other hold
  · exact List.mem_singleton.mp hnew ▸ hevent

theorem Waiting.sendResult (h : bus.Waiting Q) (sender : Bool) (id : String) (hevent : Q id event)
    (sendError : TrySendError → String) (noSender : String) :
    (bus.sendResult sender id event sendError noSender).bus.Waiting Q := by
  unfold Bus.sendResult
  split
  · split
    · exact h.trySend hevent ‹_›
    · exact h
  · exact h

theorem Waiting.closeChannel (h : bus.Waiting Q) (id : String) :
    (bus.setChannel id (bus.channels id).close).Waiting Q :=
  h.setChannel id fun _ hevent ↦ absurd hevent List.not_mem_nil

end Bus

namespace Dispatch

variable {config : Config} {input : DispatchInput} {bus after : Bus} {d d' : Dispatch}
variable {Q : String → DispatchedEvent → Prop}

/-- A dispatch puts its own event on channels of subscribers it mentions, and nothing else. -/
theorem Change.waiting (h : Change config input bus d after d') (hwaiting : bus.Waiting Q)
    (hd : ∀ id ∈ d.stage.pendingIds, Q id d.event) : after.Waiting Q := by
  cases h with
  | resolve => exact hwaiting
  | mark | finish =>
    unfold Bus.updateStatus
    split_ifs <;> exact hwaiting
  | snapshot | collect => exact hwaiting
  | attempt turn =>
    have hown := hd _ (turn.pendingIds ▸ List.mem_cons_self)
    cases turn with
    | sync =>
      unfold finishAttempt Bus.syncAttempt
      split
      · unfold Bus.interceptorResult
        split <;> exact hwaiting
      · exact hwaiting.sendResult _ _ hown _ _
    | async => exact hwaiting.sendResult _ _ hown _ _
  | record =>
    unfold Bus.recordDelivery
    split_ifs <;> exact hwaiting

end Dispatch

namespace RetryableDelivery

/-- The event a delivery hands to its subscriber. -/
def event (delivery : RetryableDelivery) : DispatchedEvent :=
  ⟨delivery.payload, delivery.replySubject, delivery.subject, delivery.seq⟩

end RetryableDelivery

namespace RetryPhase

variable {config : Config} {input : RetryInput} {bus after : Bus} {phase phase' : RetryPhase}
variable {Q : String → DispatchedEvent → Prop}

theorem retryToSubscriber_waiting (hwaiting : bus.Waiting Q) (answer : Except DeliveryError Unit)
    {delivery : RetryableDelivery} (hdelivery : Q delivery.subscriberId delivery.event)
    (target : RetryTarget) :
    (bus.retryToSubscriber config answer delivery target).2.Waiting Q := by
  unfold Bus.retryToSubscriber
  split
  · exact hwaiting
  · split_ifs <;> exact hwaiting
  · split_ifs
    · split
      · exact hwaiting.trySend hdelivery ‹_›
      · exact hwaiting
    · exact hwaiting
  · exact hwaiting

/-- The retry task puts the events of its deliveries on the channels of their subscribers, and
nothing else. -/
theorem Change.waiting (h : Change config input bus phase after phase') (hwaiting : bus.Waiting Q)
    (hitems : ∀ item ∈ phase.items, Q item.subscriberId item.event) : after.Waiting Q := by
  cases h with
  | rest | exhausted | lookUp => exact hwaiting
  | @attempt phase delivery todo answer turn =>
    have hdelivery := hitems delivery turn.mem_items
    cases turn with
    | gone => exact hwaiting
    | call => exact retryToSubscriber_waiting hwaiting _ hdelivery _
  | record =>
    unfold Bus.recordDelivery
    split_ifs <;> exact hwaiting
  | load | skip => exact hwaiting
  | finalize =>
    unfold Bus.updateStatus
    split_ifs <;> exact hwaiting

end RetryPhase

namespace System

variable {config : Config} {system next : System} {label : Label}
variable {Q : String → DispatchedEvent → Prop}

/-- Dispatches and retries put events on channels; every other step at most takes some off. -/
theorem waiting_of_step (hwaiting : system.bus.Waiting Q)
    (hpending : ∀ d ∈ system.dispatches, ∀ id ∈ d.stage.pendingIds, Q id d.event)
    (hitems : ∀ item ∈ system.retry.items, Q item.subscriberId item.event)
    (hstep : step config system label = some next) : next.bus.Waiting Q := by
  have hopened (id : String) : (system.bus.setChannel id .new).Waiting Q :=
    hwaiting.setChannel id fun _ hevent ↦ absurd hevent List.not_mem_nil
  cases effect_of_step hstep with
  | dispatch at_i running =>
    exact (Dispatch.change_of_step config _ system.bus running).waiting hwaiting
      (hpending _ (List.mem_of_getElem? at_i))
  | retry busy =>
    exact (RetryPhase.change_of_step config _ system.bus busy).waiting hwaiting hitems
  | @subscribe entry => exact hopened entry.id
  | @createSubscription id => exact hopened id
  | @receive id event rest calls queued =>
    exact hwaiting.setChannel id fun other hother ↦
      hwaiting id other (queued ▸ List.mem_cons_of_mem _ hother)
  | @closeChannel id => exact hwaiting.closeChannel id
  | _ => exact hwaiting

end System

namespace Bus

/-- Every event waiting on a channel is addressed with the property. -/
def Queued (P : String → Option String → Prop) (bus : Bus) : Prop :=
  ∀ id, ∀ event ∈ (bus.channels id).queue, P event.subject event.replySubject

variable {bus next : Bus}

theorem queued_iff_waiting :
    bus.Queued P ↔ bus.Waiting fun _ event ↦ P event.subject event.replySubject := Iff.rfl

theorem Queued.setChannel (h : bus.Queued P) (id : String) {channel : Channel}
    (hchannel : ∀ event ∈ channel.queue, P event.subject event.replySubject) :
    (bus.setChannel id channel).Queued P := (queued_iff_waiting.mp h).setChannel id hchannel

theorem Queued.closeChannel (h : bus.Queued P) (id : String) :
    (bus.setChannel id (bus.channels id).close).Queued P := (queued_iff_waiting.mp h).closeChannel id

end Bus

namespace System

variable {config : Config} {system next : System} {label : Label}

def keepsDispatches : Label → Bool
  | .publish .. => false
  | _ => true

theorem length_dispatches_of_step (h : step config system label = some next)
    (hlabel : keepsDispatches label = true) :
    next.dispatches.length = system.dispatches.length := by
  cases effect_of_step h with
  | publish | publishReply => simp [keepsDispatches] at hlabel
  | dispatch => exact List.length_set
  | _ => rfl

/-- The store goes on holding only events addressed with a property that those published have. -/
theorem store_addressed_of_step (h : system.bus.store.Addressed P)
    (hstep : step config system label = some next) (hlabel : keepsDispatches label = true) :
    next.bus.store.Addressed P := by
  have hlength := length_dispatches_of_step hstep hlabel
  cases change_of_step hstep with
  | quiet quiet => exact quiet.store ▸ h
  | publish | publishReply => simp at hlength
  | dispatch at_i running =>
    apply (Dispatch.change_of_step config _ system.bus running).keeps h
    · exact fun status _ ↦ h.updateStatus _ _
    · exact fun report next _ _ ↦ h.recordDelivery _ _ _ _ _ _
  | poll => exact h
  | retry busy =>
    apply (RetryPhase.change_of_step config _ system.bus busy).keeps h
    · exact fun _ _ _ _ ↦ h.updateStatus _ _
    · exact fun _ _ _ _ ↦ h.recordDelivery _ _ _ _ _ _
  | compact => exact h.retain _

/-- Everything on its way is addressed with the property. -/
structure Addressed (P : String → Option String → Prop) (system : System) : Prop where
  stored : system.bus.store.Addressed P
  items : ∀ item ∈ system.retry.items, P item.subject item.replySubject
  dispatched : ∀ d ∈ system.dispatches, P d.subject d.replySubject
  queued : system.bus.Queued P

theorem Addressed.mono {Q : String → Option String → Prop} (h : system.Addressed P)
    (hPQ : ∀ subject replySubject, P subject replySubject → Q subject replySubject) :
    system.Addressed Q where
  stored event hevent := hPQ _ _ (h.stored event hevent)
  items item hitem := hPQ _ _ (h.items item hitem)
  dispatched d hd := hPQ _ _ (h.dispatched d hd)
  queued id event hevent := hPQ _ _ (h.queued id event hevent)

section

variable (h : system.Addressed P) (hstep : step config system label = some next)
include h hstep

theorem items_addressed_of_step : ∀ item ∈ next.retry.items, P item.subject item.replySubject := by
  cases change_of_step hstep with
  | quiet quiet => exact quiet.retry ▸ h.items
  | poll => exact h.stored.queryRetryable _ _ _
  | @retry input busy =>
    have hchange := RetryPhase.change_of_step config input system.bus busy
    exact fun item hitem ↦ h.items item (hchange.items_subset.subset hitem)
  | _ => exact h.items

theorem dispatched_addressed_of_step (hlabel : keepsDispatches label = true) :
    ∀ d ∈ next.dispatches, P d.subject d.replySubject := by
  have hlength := length_dispatches_of_step hstep hlabel
  cases change_of_step hstep with
  | quiet quiet => exact quiet.dispatches ▸ h.dispatched
  | publish | publishReply => simp at hlength
  | @dispatch i input d at_i running =>
    intro other hother
    obtain hold | rfl := List.mem_or_eq_of_mem_set hother
    · exact h.dispatched other hold
    · have hsame := (Dispatch.change_of_step config input system.bus running).same
      rw [hsame.subject, hsame.replySubject]
      exact h.dispatched d (List.mem_of_getElem? at_i)
  | _ => exact h.dispatched

theorem queued_of_step : next.bus.Queued P :=
  waiting_of_step h.queued (fun d hd _ _ ↦ h.dispatched d hd) h.items hstep

theorem Addressed.step (hlabel : keepsDispatches label = true) : next.Addressed P where
  stored := store_addressed_of_step h.stored hstep hlabel
  items := items_addressed_of_step h hstep
  dispatched := dispatched_addressed_of_step h hstep hlabel
  queued := queued_of_step h hstep

end

end System

end Seidrum.EventBus
