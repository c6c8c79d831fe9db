import Seidrum.EventBus.RetryBudget
import Seidrum.EventBus.Mentions

/-!
# What the records of webhook deliveries say

A subscription created over HTTP gets its events in two hops: the dispatch puts an event on the
channel of the subscription, and a forwarder takes it off and calls the webhook.  The dispatch
records the delivery when the event is on the channel, and the forwarder records nothing, so a record
tells the truth only where the first hop fails and the retry task, which calls the webhook itself,
takes over.
-/

namespace Seidrum.EventBus

open Seidrum.Foundation

/-- A call of the webhook of a delivery has returned Ok since its event was appended. -/
def webhookSucceeded (seq : ℕ) (id : String) : List LogEntry → Bool
  | [] => false
  | .appended other _ :: rest => if other = seq then false else webhookSucceeded seq id rest
  | .attempted _ :: rest => webhookSucceeded seq id rest
  | .webhookReturned other other_id ok :: rest =>
      (ok && decide ((other, other_id) = (seq, id))) || webhookSucceeded seq id rest

/-- The subscriber of the async fan-out whose turn it is, and whether it had a sender. -/
def Stage.asyncTurn : Stage → Option (String × Bool)
  | .fanOut (entry :: _) => some entry
  | _ => none

/-- The outcomes a dispatch is about to record. -/
def Stage.recording : Stage → List Report
  | .record report next => report :: next.recording
  | _ => []

theorem Stage.recording_subset (stage : Stage) :
    ∀ report ∈ stage.recording, report.subscriberId ∈ stage.pendingIds := by
  induction stage with
  | record report next ih =>
    intro other hother
    obtain rfl | hother := List.mem_cons.mp hother
    · exact List.mem_cons_self
    · exact List.mem_cons_of_mem _ (ih other hother)
  | _ => simp [recording]

namespace System

/-- No dispatch puts an event on the channel of a webhook subscription: whenever it is about to, the
channel is closed or full, or has no sender. -/
def LeavesToRetry (system : System) : Label → Prop
  | .dispatch i _ => ∀ d ∈ system.dispatches[i]?, ∀ turn ∈ d.stage.asyncTurn,
      turn.1 ∈ system.webhooks → turn.2 = true →
        ((system.bus.channels turn.1).trySend d.event).toBool = false
  | _ => True

instance (system : System) (label : Label) : Decidable (system.LeavesToRetry label) := by
  induction label using Label.casesOn <;> dsimp only [LeavesToRetry] <;> infer_instance

/-! ## Webhook subscriptions are asynchronous and known as such -/

/-- What is registered under the id of a webhook subscription is that subscription. -/
structure WebhooksApart (system : System) : Prop where
  index : ∃ live, system.bus.index.Represents live ∧ (live.map (·.id)).Nodup ∧
    ∀ entry ∈ live, entry.id ∈ system.bus.usedIds ∧ (entry.id ∈ system.webhooks →
      entry.mode = .async ∧ ∃ url, entry.channel = .webhook url)
  used : ∀ id ∈ system.webhooks, id ∈ system.bus.usedIds
  pending : ∀ d ∈ system.dispatches, ∀ id ∈ d.stage.pendingIds, id ∈ system.bus.usedIds
  sync : ∀ d ∈ system.dispatches, ∀ id ∈ d.stage.syncIds, id ∉ system.webhooks
  target {delivery : RetryableDelivery} {target : RetryTarget} {todo : List RetryableDelivery}
    (calling : system.retry = .calling delivery target todo) :
    delivery.subscriberId ∈ system.bus.usedIds ∧ (delivery.subscriberId ∈ system.webhooks →
      ∃ url, target.channel = .webhook url)

theorem webhooksApart_build (clock : ℕ) : (build .empty clock).WebhooksApart where
  index := ⟨[], SubjectIndex.represents_new, List.nodup_nil, by simp⟩
  used := by simp [build]
  pending := by simp [build]
  sync := by simp [build]
  target := by simp [build]

/-- Ids stay given out, and no id given out becomes that of a webhook subscription. -/
theorem Registers.grows {system next : System} (h : Registers system next)
    (hused : ∀ id ∈ system.webhooks, id ∈ system.bus.usedIds) :
    (∀ id ∈ system.bus.usedIds, id ∈ next.bus.usedIds) ∧
      (∀ id ∈ next.webhooks, id ∈ next.bus.usedIds) ∧
      ∀ id ∈ system.bus.usedIds, id ∈ next.webhooks → id ∈ system.webhooks := by
  cases h with
  | keeps registry webhooks =>
    rw [registry.usedIds, webhooks]
    exact ⟨fun _ h ↦ h, hused, fun _ _ h ↦ h⟩
  | subscribe forwarded fresh _ _ bus webhooks =>
    rw [bus, webhooks]
    refine ⟨fun _ h ↦ List.mem_cons_of_mem _ h, ?_, ?_⟩
    · intro id hid
      split_ifs at hid
      · obtain rfl | hold := List.mem_cons.mp hid
        · exact List.mem_cons_self
        · exact List.mem_cons_of_mem _ (hused id hold)
      · exact List.mem_cons_of_mem _ (hused id hid)
    · intro id hid hwebhook
      split_ifs at hwebhook
      · obtain rfl | hold := List.mem_cons.mp hwebhook
        · exact absurd hid fresh
        · exact hold
      · exact hwebhook
  | intercept fresh _ bus webhooks =>
    rw [bus, webhooks]
    exact ⟨fun _ h ↦ List.mem_cons_of_mem _ h, fun id h ↦ List.mem_cons_of_mem _ (hused id h),
      fun _ _ h ↦ h⟩
  | unsubscribe id bus webhooks =>
    rw [bus, webhooks]
    exact ⟨fun _ h ↦ h, hused, fun _ _ h ↦ h⟩

namespace WebhooksApart

variable {config : Config} {system next : System} {entry : SubscriptionEntry} {bus : Bus}

section

variable (h : system.WebhooksApart)
include h

/-- A registration under a fresh id, of a webhook subscription or of something else. -/
theorem index_subscribe (hfresh : entry.id ∉ system.bus.usedIds) {index : SubjectIndex}
    (hindex : system.bus.index.subscribe entry = .ok index) (hnext : next.bus.index = index)
    (hused : next.bus.usedIds = entry.id :: system.bus.usedIds)
    (hwebhooks : ∀ id ∈ system.bus.usedIds, id ∈ next.webhooks → id ∈ system.webhooks)
    (hentry : entry.id ∈ next.webhooks → entry.mode = .async ∧ ∃ url, entry.channel = .webhook url) :
    ∃ live, next.bus.index.Represents live ∧ (live.map (·.id)).Nodup ∧
      ∀ entry ∈ live, entry.id ∈ next.bus.usedIds ∧ (entry.id ∈ next.webhooks →
        entry.mode = .async ∧ ∃ url, entry.channel = .webhook url) := by
  obtain ⟨live, hlive, hdistinct, hknown⟩ := h.index
  refine ⟨live ++ [entry], hnext ▸ hlive.subscribe hindex, ?_, ?_⟩
  · apply Bus.nodup_ids_concat hdistinct
    intro hmem
    obtain ⟨other, hother, hid⟩ := List.mem_map.mp hmem
    exact hfresh (hid ▸ (hknown other hother).1)
  · intro other hother
    rw [hused]
    obtain hold | hnew := List.mem_append.mp hother
    · obtain ⟨hmem, hwebhook⟩ := hknown other hold
      exact ⟨List.mem_cons_of_mem _ hmem, fun h ↦ hwebhook (hwebhooks _ hmem h)⟩
    · rw [List.mem_singleton.mp hnew]
      exact ⟨List.mem_cons_self, hentry⟩

theorem index_registers (hregisters : Registers system next) :
    ∃ live, next.bus.index.Represents live ∧ (live.map (·.id)).Nodup ∧
      ∀ entry ∈ live, entry.id ∈ next.bus.usedIds ∧ (entry.id ∈ next.webhooks →
        entry.mode = .async ∧ ∃ url, entry.channel = .webhook url) := by
  obtain ⟨_, _, hold⟩ := hregisters.grows h.used
  cases hregisters with
  | keeps registry webhooks =>
    rw [registry.index, registry.usedIds, webhooks]
    exact h.index
  | @subscribe entry _ forwarded fresh subscribed webhook bus webhooks =>
    refine h.index_subscribe fresh subscribed (by rw [bus]) (by rw [bus]) hold fun hwebhook ↦ ?_
    rw [webhooks] at hwebhook
    split_ifs at hwebhook with hforwarded
    · obtain ⟨_, url, _, hentry⟩ := webhook hforwarded
      rw [hentry]
      exact ⟨rfl, url, rfl⟩
    · exact absurd (h.used _ hwebhook) fresh
  | intercept fresh subscribed bus webhooks =>
    refine h.index_subscribe fresh subscribed (by rw [bus]) (by rw [bus]; rfl) hold fun hwebhook ↦ ?_
    exact absurd (h.used _ (webhooks ▸ hwebhook)) fresh
  | unsubscribe id bus webhooks =>
    obtain ⟨live, hlive, hdistinct, hknown⟩ := h.index
    rw [bus, webhooks]
    exact ⟨live.filter fun entry ↦ entry.id ≠ id, hlive.step (.unsubscribe id),
      hdistinct.sublist (List.filter_sublist.map _),
      fun entry hentry ↦ hknown entry (List.mem_of_mem_filter hentry)⟩

theorem of_mem_lookup {subject : String} (hmem : entry ∈ system.bus.index.lookup subject) :
    entry.id ∈ system.bus.usedIds ∧ (entry.id ∈ system.webhooks → entry.mode = .async) := by
  obtain ⟨live, hlive, hdistinct, hknown⟩ := h.index
  have hperm := (hlive.answers hdistinct).lookup_perm subject
  obtain ⟨hused, hwebhook⟩ := hknown entry (List.mem_of_mem_filter (hperm.mem_iff.mp hmem))
  exact ⟨hused, fun h ↦ (hwebhook h).1⟩

theorem of_findById {id : String} (hfound : system.bus.index.findById id = some entry) :
    id ∈ system.bus.usedIds ∧ (id ∈ system.webhooks → ∃ url, entry.channel = .webhook url) := by
  obtain ⟨live, hlive, hdistinct, hknown⟩ := h.index
  rw [(hlive.answers hdistinct).findById_eq] at hfound
  obtain rfl : entry.id = id := by simpa using List.find?_some hfound
  obtain ⟨hused, hwebhook⟩ := hknown entry (List.mem_of_find?_eq_some hfound)
  exact ⟨hused, fun h ↦ (hwebhook h).2⟩

/-- A dispatch takes its subscribers from the index, the webhook subscriptions as asynchronous. -/
theorem ids_of_change {input : DispatchInput} {d d' : Dispatch} (hmem : d ∈ system.dispatches)
    (hchange : Dispatch.Change config input system.bus d bus d') :
    (∀ id ∈ d'.stage.pendingIds, id ∈ system.bus.usedIds) ∧
      ∀ id ∈ d'.stage.syncIds, id ∉ system.webhooks := by
  constructor
  · intro id hid
    obtain hold | ⟨entry, hentry, rfl⟩ := hchange.mem_pendingIds hid
    · exact h.pending d hmem id hold
    · exact (h.of_mem_lookup hentry).1
  · intro id hid hwebhook
    obtain hold | ⟨entry, hentry, rfl, hmode⟩ := hchange.mem_syncIds hid
    · exact h.sync d hmem id hold hwebhook
    · simp [(h.of_mem_lookup hentry).2 hwebhook] at hmode

/-- The retry task calls the webhook of a webhook subscription. -/
theorem target_of_change {input : RetryInput} {phase : RetryPhase}
    (hchange : RetryPhase.Change config input system.bus system.retry bus phase)
    {delivery : RetryableDelivery} {target : RetryTarget} {todo : List RetryableDelivery}
    (hcalling : phase = .calling delivery target todo) :
    delivery.subscriberId ∈ system.bus.usedIds ∧ (delivery.subscriberId ∈ system.webhooks →
      ∃ url, target.channel = .webhook url) := by
  generalize system.retry = before at hchange
  cases hchange with
  | lookUp found =>
    obtain ⟨rfl, rfl, rfl⟩ := RetryPhase.calling.inj hcalling
    exact h.of_findById found
  | record => split_ifs at hcalling
  | _ => exact absurd hcalling (by simp [RetryPhase.finishAttempt])

theorem step {label : Label} (hstep : System.step config system label = some next) : next.WebhooksApart := by
  have hregisters := registers_of_step hstep
  obtain ⟨hused, hwebhooks, hold⟩ := hregisters.grows h.used
  have hindex := h.index_registers hregisters
  -- what was known of an id stays known, whatever was registered in the step
  have hids {ids : List String} (hids : ∀ id ∈ ids, id ∈ system.bus.usedIds) :
      ∀ id ∈ ids, id ∈ next.bus.usedIds := fun id hid ↦ hused id (hids id hid)
  have hapart {stage : Stage} (hpending : ∀ id ∈ stage.pendingIds, id ∈ system.bus.usedIds)
      (hsync : ∀ id ∈ stage.syncIds, id ∉ system.webhooks) :
      ∀ id ∈ stage.syncIds, id ∉ next.webhooks := fun id hid hwebhook ↦
    hsync id hid (hold id (hpending id (stage.syncIds_subset id hid)) hwebhook)
  have hkept : ∀ d ∈ system.dispatches, (∀ id ∈ d.stage.pendingIds, id ∈ next.bus.usedIds) ∧
      ∀ id ∈ d.stage.syncIds, id ∉ next.webhooks := fun d hmem ↦
    ⟨hids (h.pending d hmem), hapart (h.pending d hmem) (h.sync d hmem)⟩
  have hall : ∀ d ∈ next.dispatches, (∀ id ∈ d.stage.pendingIds, id ∈ next.bus.usedIds) ∧
      ∀ id ∈ d.stage.syncIds, id ∉ next.webhooks := by
    have hchange := change_of_step hstep
    cases hchange with
    | quiet quiet => exact fun d hmem ↦ hkept d (quiet.dispatches ▸ hmem)
    | publish fresh starts | publishReply starts =>
      intro d hmem
      obtain hmem | hnew := List.mem_append.mp hmem
      · exact hkept d hmem
      · rw [List.mem_singleton.mp hnew, starts.stage]
        simp [Stage.pendingIds, Stage.syncIds]
    | dispatch at_i running =>
      intro d hmem
      obtain hmem | rfl := List.mem_or_eq_of_mem_set hmem
      · exact hkept d hmem
      · obtain ⟨hpending, hsync⟩ := h.ids_of_change (List.mem_of_getElem? at_i)
          (Dispatch.change_of_step _ _ _ running)
        exact ⟨hids hpending, hapart hpending hsync⟩
    | poll | retry | compact => exact hkept
  refine ⟨hindex, hwebhooks, fun d hmem ↦ (hall d hmem).1, fun d hmem ↦ (hall d hmem).2, ?_⟩
  intro delivery target todo calling
  have htarget : delivery.subscriberId ∈ system.bus.usedIds ∧
      (delivery.subscriberId ∈ system.webhooks → ∃ url, target.channel = .webhook url) := by
    cases change_of_step hstep with
    | quiet quiet => exact h.target (quiet.retry ▸ calling)
    | publish | publishReply | dispatch => exact h.target calling
    | poll => exact absurd calling (by simp [RetryPhase.poll])
    | retry busy => exact h.target_of_change (RetryPhase.change_of_step _ _ _ busy) calling
    | compact => exact h.target calling
  exact ⟨hused _ htarget.1, fun hwebhook ↦ htarget.2 (hold _ htarget.1 hwebhook)⟩

end

end WebhooksApart

end System

namespace InMemoryEventStore

/-- The status of every stored record satisfies a condition. -/
def RecordsSatisfy (P : ℕ → String → DeliveryStatus → Prop) (store : InMemoryEventStore) : Prop :=
  ∀ seq event id record, store.find seq = some event → event.recordOf id = some record →
    P seq id record.status

namespace RecordsSatisfy

variable {P : ℕ → String → DeliveryStatus → Prop} {store : InMemoryEventStore}

theorem updateStatus (h : store.RecordsSatisfy P) (changed : ℕ) (status : EventStatus) :
    (store.updateStatus changed status).2.RecordsSatisfy P := by
  intro seq event id record hfound hrecord
  rw [find_updateStatus] at hfound
  split_ifs at hfound
  · obtain ⟨old, hold, rfl⟩ := Option.map_eq_some_iff.mp hfound
    exact h seq old id record hold hrecord
  · exact h seq event id record hfound hrecord

theorem recordDelivery (h : store.RecordsSatisfy P) (now changed : ℕ) {subscriberId : String}
    {status : DeliveryStatus} (error : Option String) (nextRetry : Option ℕ)
    (hnew : P changed subscriberId status) :
    (store.recordDelivery now changed subscriberId status error nextRetry).2.RecordsSatisfy P := by
  intro seq event id record hfound hrecord
  rw [find_recordDelivery] at hfound
  split_ifs at hfound with hseq
  · obtain ⟨old, hold, rfl⟩ := Option.map_eq_some_iff.mp hfound
    rw [StoredEvent.recordOf_withDelivery] at hrecord
    split_ifs at hrecord with hid
    · have hstatus : record.status = status := by
        rw [← Option.some.inj hrecord]
        split <;> rfl
      rw [hseq, hid, hstatus]
      exact hnew
    · exact h seq old id record hold hrecord
  · exact h seq event id record hfound hrecord

theorem append (h : store.RecordsSatisfy P) (now : ℕ) {event : StoredEvent}
    (hfresh : event.deliveries = []) : (store.append now event).2.RecordsSatisfy P := by
  intro seq stored id record hfound hrecord
  rw [find_append] at hfound
  split_ifs at hfound
  · cases hfound
    simp [StoredEvent.recordOf, hfresh] at hrecord
  · exact h seq stored id record hfound hrecord

theorem compact (h : store.RecordsSatisfy P) (now olderThan : ℕ) :
    (store.compact now olderThan).2.RecordsSatisfy P := by
  intro seq event id record hfound hrecord
  rw [find_compact] at hfound
  exact h seq event id record (Option.filter_eq_some_iff.mp hfound).1 hrecord

end RecordsSatisfy

end InMemoryEventStore

theorem webhookSucceeded_append {seq : ℕ} {id : String} {new log : List LogEntry}
    (hsame : ∀ payload, .appended seq payload ∉ new) (h : webhookSucceeded seq id log = true) :
    webhookSucceeded seq id (new ++ log) = true := by
  induction new with
  | nil => exact h
  | cons entry new ih =>
    have hrest := ih fun payload hmem ↦ hsame payload (List.mem_cons_of_mem _ hmem)
    rw [List.cons_append]
    cases entry with
    | appended other payload =>
      have hne : other ≠ seq := by
        rintro rfl
        exact hsame payload List.mem_cons_self
      rw [webhookSucceeded, if_neg hne]
      exact hrest
    | attempted attempt => exact hrest
    | webhookReturned other other_id ok =>
      rw [webhookSucceeded, hrest, Bool.or_true]

namespace System

variable {system : System}

/-- Only an append enters the history as one, with the next number. -/
theorem appended_of_step {config : Config} {next : System} {label : Label}
    (h : step config system label = some next) :
    ∃ new, next.bus.log = new ++ system.bus.log ∧
      ∀ seq payload, .appended seq payload ∈ new → seq = system.bus.store.nextSeq := by
  cases change_of_step h with
  | quiet quiet =>
    obtain hlog | ⟨_, _, _, hlog⟩ := quiet.log
    · exact ⟨[], hlog, by simp⟩
    · exact ⟨[_], hlog, by simp⟩
  | publish => exact ⟨[_], rfl, by simp⟩
  | publishReply => exact ⟨[], rfl, by simp⟩
  | @dispatch i input d at_i running =>
    have hchange := Dispatch.change_of_step config input system.bus running
    simp only
    generalize (d.step config input system.bus).1 = after at hchange
    generalize (d.step config input system.bus).2 = d' at hchange
    cases hchange.effect with
    | silent _ _ _ _ log => exact ⟨[], log, by simp⟩
    | @attempt id result next turn =>
      have hlog : (d.finishAttempt config input id result next).1.log = _ := turn.log
      exact ⟨[_], hlog, by simp⟩
    | record => exact ⟨[], Bus.recordDelivery_log _ _ _ _, by simp⟩
  | poll => exact ⟨[], rfl, by simp⟩
  | @retry input busy =>
    have hchange := RetryPhase.change_of_step config input system.bus busy
    simp only
    generalize (system.retry.step config input system.bus).1 = after at hchange
    generalize (system.retry.step config input system.bus).2 = phase at hchange
    generalize system.retry = before at hchange
    cases hchange with
    | attempt turn =>
      simp only [RetryPhase.finishAttempt, Bus.note]
      obtain hlog | hlog := turn.answered.log
      · exact ⟨[_], by rw [hlog]; rfl, by simp⟩
      · exact ⟨[_, _], by rw [hlog]; rfl, by simp⟩
    | record => exact ⟨[], Bus.recordDelivery_log _ _ _ _, by simp⟩
    | finalize => exact ⟨[], Bus.updateStatus_log _ _ _ _, by simp⟩
    | _ => exact ⟨[], rfl, by simp⟩
  | compact => exact ⟨[], rfl, by simp⟩

/-! ## A delivered record follows a call that returned Ok -/

/-- A delivered record of a webhook subscription, stored or on its way to the store, follows a call
that returned Ok. -/
structure Truthful (config : Config) (system : System) : Prop where
  disjoint : system.Disjoint config
  apart : system.WebhooksApart
  stored : system.bus.store.RecordsSatisfy fun seq id status ↦ id ∈ system.bus.usedIds ∧
    (id ∈ system.webhooks → status = .delivered →
      webhookSucceeded seq id system.bus.log = true)
  dispatched {d : Dispatch} {report : Report} (mem : d ∈ system.dispatches)
    (recording : report ∈ d.stage.recording)
    (webhook : report.subscriberId ∈ system.webhooks) : report.status ≠ .delivered
  retried {item : RetryableDelivery} {report : Report}
    (recording : system.retry.report = some (item, report))
    (webhook : item.subscriberId ∈ system.webhooks) (delivered : report.status = .delivered) :
    webhookSucceeded item.seq item.subscriberId system.bus.log = true

theorem truthful_build (config : Config) (clock : ℕ) : (build .empty clock).Truthful config where
  disjoint := disjoint_build config clock
  apart := webhooksApart_build clock
  stored := by
    intro seq event id record hfound
    simp [build, Bus.onStore, InMemoryEventStore.find, InMemoryEventStore.empty] at hfound
  dispatched := by simp [build]
  retried := by simp [build, RetryPhase.report]

/-- A turn of a dispatch that leaves webhook subscriptions to the retry task delivers to none. -/
theorem LeavesToRetry.not_delivered (hapart : system.WebhooksApart) {i : ℕ} {input : DispatchInput}
    (hleaves : system.LeavesToRetry (.dispatch i input)) {d : Dispatch} (hat : system.dispatches[i]? = some d)
    {id : String} {result : AttemptResult} {next : Stage}
    (hturn : Dispatch.Turn input system.bus d id result next) (hwebhook : id ∈ system.webhooks) :
    result.status ≠ .delivered := by
  cases hturn with
  | sync stage =>
    refine absurd hwebhook (hapart.sync d (List.mem_of_getElem? hat) _ ?_)
    rw [stage]
    exact List.mem_cons_self
  | @async id sender todo stage =>
    have hrefused := hleaves d hat (id, sender) (by rw [stage]; rfl) hwebhook
    unfold Bus.asyncAttempt Bus.sendResult
    split_ifs with hsender
    · cases hsend : (system.bus.channels id).trySend d.event with
      | ok channel =>
        simp only [hsend] at hrefused
        exact absurd (hrefused hsender) (by simp [Except.toBool])
      | error error => simp
    · simp

end System

variable {config : Config} {delivery : RetryableDelivery} {bus : Bus}

theorem RetryPhase.delivered_of_reportOf {now draw : ℕ} {outcome : RetryOutcome}
    (h : (reportOf config now draw delivery outcome).status = .delivered) : outcome = .delivered := by
  cases outcome with
  | delivered => rfl
  | transient message =>
    simp only [reportOf] at h
    split_ifs at h
    · simp [deadLetter] at h
  | permanent message => simp [reportOf, deadLetter] at h

theorem RetryPhase.log_of_webhook {answer : Except DeliveryError Unit} {target : RetryTarget} {url : String}
    (hchannel : target.channel = .webhook url)
    (hdelivered : (bus.retryToSubscriber config answer delivery target).1 = .delivered) :
    (bus.retryToSubscriber config answer delivery target).2.log =
      .webhookReturned delivery.seq delivery.subscriberId true :: bus.log := by
  simp only [Bus.retryToSubscriber, hchannel] at hdelivered ⊢
  simp [Bus.note, hdelivered]

/-- The retry task reports a webhook delivery as delivered only when its call returned Ok. -/
theorem RetryPhase.Change.succeeded {input : RetryInput} {after : Bus} {phase phase' : RetryPhase}
    (h : Change config input bus phase after phase') {item : RetryableDelivery} {report : Report}
    (hreport : phase'.report = some (item, report)) (hdelivered : report.status = .delivered)
    (htarget : ∀ target todo, phase = .calling item target todo → ∃ url, target.channel = .webhook url) :
    webhookSucceeded item.seq item.subscriberId after.log = true := by
  cases h with
  | exhausted =>
    cases hreport
    simp [deadLetter] at hdelivered
  | attempt turn =>
    obtain ⟨hitem, rfl⟩ := Prod.mk.inj (Option.some.inj hreport)
    have houtcome := delivered_of_reportOf hdelivered
    cases turn with
    | gone => simp at houtcome
    | call =>
      subst hitem
      obtain ⟨url, hchannel⟩ := htarget _ _ rfl
      simp [finishAttempt, Bus.note, log_of_webhook hchannel houtcome, webhookSucceeded]
  | record => split_ifs at hreport <;> simp [RetryPhase.report] at hreport
  | _ => simp [RetryPhase.report] at hreport

namespace System

variable {config : Config} {system next : System}

namespace Truthful

variable {d : Dispatch} {report : Report} {label : Label}

theorem recorded (h : system.Truthful config) (hmem : d ∈ system.dispatches)
    (hrecording : report ∈ d.stage.recording) : report.subscriberId ∈ system.bus.usedIds :=
  h.apart.pending d hmem _ (d.stage.recording_subset report hrecording)

/-- What a dispatch is about to record of a webhook subscription after a step. -/
theorem dispatched_of_step (h : system.Truthful config) (hleaves : system.LeavesToRetry label)
    (hstep : System.step config system label = some next) (hmem : d ∈ next.dispatches)
    (hrecording : report ∈ d.stage.recording) (hwebhook : report.subscriberId ∈ next.webhooks) :
    report.status ≠ .delivered := by
  obtain ⟨_, _, hold⟩ := (registers_of_step hstep).grows h.apart.used
  have hkept {d : Dispatch} (hmem : d ∈ system.dispatches)
      (hrecording : report ∈ d.stage.recording) : report.status ≠ .delivered :=
    h.dispatched hmem hrecording (hold _ (h.recorded hmem hrecording) hwebhook)
  cases change_of_step hstep with
  | quiet quiet => exact hkept (quiet.dispatches ▸ hmem) hrecording
  | publish fresh starts | publishReply starts =>
    obtain hmem | hnew := List.mem_append.mp hmem
    · exact hkept hmem hrecording
    · rw [List.mem_singleton.mp hnew, starts.stage] at hrecording
      simp [Stage.recording] at hrecording
  | @dispatch i input before at_i running =>
    obtain hmem | rfl := List.mem_or_eq_of_mem_set hmem
    · exact hkept hmem hrecording
    have hbefore := List.mem_of_getElem? at_i
    have hchange := Dispatch.change_of_step config input system.bus running
    generalize (before.step config input system.bus).1 = after at hchange
    generalize (before.step config input system.bus).2 = d' at hchange hrecording
    cases hchange with
    | attempt turn =>
      obtain rfl | hnext := List.mem_cons.mp hrecording
      · exact hleaves.not_delivered h.apart at_i turn hwebhook
      · split_ifs at hnext
        · simp [Stage.recording] at hnext
        · cases turn <;> simp [Stage.recording] at hnext
    | record stage =>
      apply hkept hbefore
      rw [stage]
      exact List.mem_cons_of_mem _ hrecording
    | resolve | mark =>
      simp only at hrecording
      split_ifs at hrecording <;> simp [Stage.recording] at hrecording
    | _ => simp [Stage.recording] at hrecording
  | poll | retry | compact => exact hkept hmem hrecording

theorem step (h : system.Truthful config) (hspared : system.SparesInUse label)
    (hleaves : system.LeavesToRetry label) (hstep : System.step config system label = some next) :
    next.Truthful config := by
  obtain ⟨hused, _, hold⟩ := (registers_of_step hstep).grows h.apart.used
  obtain ⟨new, hlog, hnumber⟩ := appended_of_step hstep
  have hsucceeded {seq : ℕ} {event : StoredEvent} (hfound : system.bus.store.find seq = some event)
      {id : String} (hcalled : webhookSucceeded seq id system.bus.log = true) :
      webhookSucceeded seq id next.bus.log = true := by
    rw [hlog]
    refine webhookSucceeded_append (fun payload hmem ↦ ?_) hcalled
    obtain ⟨hin, hseq⟩ := InMemoryEventStore.find_eq_some_iff.mp hfound
    have hlt := InMemoryEventStore.seq_lt_nextSeq hin
    rw [hseq, hnumber seq payload hmem] at hlt
    exact absurd hlt (lt_irrefl _)
  have hitem {item : RetryableDelivery} (hmem : item ∈ system.retry.items) :
      ∃ event, system.bus.store.find item.seq = some event ∧
        item.subscriberId ∈ system.bus.usedIds := by
    obtain ⟨event, record, hfound, hrecord, _⟩ := h.disjoint.current hmem
    exact ⟨event, hfound, (h.stored _ event _ record hfound hrecord).1⟩
  have hreported {item : RetryableDelivery} {report : Report}
      (hrecording : system.retry.report = some (item, report)) :
      report.subscriberId = item.subscriberId ∧ item ∈ system.retry.items := by
    obtain ⟨todo, hphase⟩ := RetryPhase.report_eq_some hrecording
    exact ⟨h.disjoint.reported hphase, by rw [hphase]; exact List.mem_cons_self⟩
  -- the records that were there satisfy what the next state asks of them
  have hkept : system.bus.store.RecordsSatisfy fun seq id status ↦ id ∈ next.bus.usedIds ∧
      (id ∈ next.webhooks → status = .delivered →
        webhookSucceeded seq id next.bus.log = true) := by
    intro seq event id record hfound hrecord
    obtain ⟨hid, hcalled⟩ := h.stored seq event id record hfound hrecord
    exact ⟨hused id hid, fun hwebhook hdelivered ↦
      hsucceeded hfound (hcalled (hold id hid hwebhook) hdelivered)⟩
  have hretried {item : RetryableDelivery} {report : Report}
      (hrecording : system.retry.report = some (item, report))
      (hwebhook : item.subscriberId ∈ next.webhooks) (hdelivered : report.status = .delivered) :
      webhookSucceeded item.seq item.subscriberId next.bus.log = true := by
    obtain ⟨event, hfound, hid⟩ := hitem (hreported hrecording).2
    exact hsucceeded hfound (h.retried hrecording (hold _ hid hwebhook) hdelivered)
  refine ⟨h.disjoint.step hspared hstep, h.apart.step hstep, ?_, ?_, ?_⟩
  · cases change_of_step hstep with
    | quiet quiet => exact quiet.store ▸ hkept
    | publish fresh starts => exact hkept.append _ fresh.1
    | publishReply => exact hkept
    | @dispatch i input d at_i running =>
      refine (Dispatch.change_of_step _ _ _ running).keeps hkept
        (fun status _ ↦ hkept.updateStatus _ _) fun report rest _ hstage ↦ ?_
      have hmem := List.mem_of_getElem? at_i
      have hrecording : report ∈ d.stage.recording := by
        rw [hstage]
        exact List.mem_cons_self
      have hid := h.recorded hmem hrecording
      exact hkept.recordDelivery _ _ _ _ ⟨hused _ hid, fun hwebhook hdelivered ↦
        absurd hdelivered (h.dispatched hmem hrecording (hold _ hid hwebhook))⟩
    | poll => exact hkept
    | retry busy =>
      refine (RetryPhase.change_of_step _ _ _ busy).keeps hkept
        (fun _ _ _ _ ↦ hkept.updateStatus _ _) fun item report todo hphase ↦ ?_
      have hrecording : system.retry.report = some (item, report) := by
        rw [hphase]
        rfl
      obtain ⟨hid, hmem⟩ := hreported hrecording
      obtain ⟨event, _, hitem⟩ := hitem hmem
      apply hkept.recordDelivery
      rw [hid]
      exact ⟨hused _ hitem, fun hwebhook hdelivered ↦ hretried hrecording hwebhook hdelivered⟩
    | compact => exact hkept.compact _ _
  · exact fun hmem hrecording hwebhook ↦
      h.dispatched_of_step hleaves hstep hmem hrecording hwebhook
  · intro item report hrecording hwebhook hdelivered
    cases change_of_step hstep with
    | quiet quiet => exact hretried (quiet.retry ▸ hrecording) hwebhook hdelivered
    | publish | publishReply | dispatch | compact => exact hretried hrecording hwebhook hdelivered
    | poll => exact absurd hrecording (by simp [RetryPhase.poll, RetryPhase.report])
    | retry busy =>
      refine (RetryPhase.change_of_step _ _ _ busy).succeeded hrecording hdelivered
        fun target todo hcalling ↦ ?_
      exact (h.apart.target hcalling).2 (hold _ (h.apart.target hcalling).1 hwebhook)

end Truthful

/-- No event is on the channel of a webhook subscription or in a call of its forwarder. -/
structure NothingForwarded (system : System) : Prop where
  calls : system.calls = []
  queue : ∀ id ∈ system.webhooks, (system.bus.channels id).queue = []

theorem nothingForwarded_build (clock : ℕ) : (build .empty clock).NothingForwarded :=
  ⟨rfl, by simp [build]⟩

end System

namespace System

variable {config : Config} {system next : System} {id : String}

/-- A step of a dispatch keeps the channels of the webhook subscriptions. -/
theorem LeavesToRetry.channels (hapart : system.WebhooksApart) {i : ℕ} {input : DispatchInput}
    (hleaves : system.LeavesToRetry (.dispatch i input)) {d : Dispatch} (hat : system.dispatches[i]? = some d)
    (hrunning : d.stage.isReturned = false) (hid : id ∈ system.webhooks) :
    (d.step config input system.bus).1.channels id = system.bus.channels id := by
  have hchange := Dispatch.change_of_step config input system.bus hrunning
  generalize (d.step config input system.bus).1 = after at hchange ⊢
  generalize (d.step config input system.bus).2 = d' at hchange
  cases hchange with
  | mark | finish => rw [Bus.updateStatus_channels]
  | @attempt other result rest turn =>
    change result.bus.channels id = _
    apply turn.channels
    by_cases hother : id = other
    · exact .inr (hleaves.not_delivered hapart hat turn (hother ▸ hid))
    · exact .inl hother
  | record => rw [Bus.recordDelivery_channels]
  | _ => rfl

/-- The retry task puts nothing on the channels of the webhook subscriptions. -/
theorem WebhooksApart.channels_of_retry (h : system.WebhooksApart) {input : RetryInput}
    (hbusy : system.retry.isIdle = false) (hid : id ∈ system.webhooks) :
    (system.retry.step config input system.bus).1.channels id = system.bus.channels id := by
  have hchange := RetryPhase.change_of_step config input system.bus hbusy
  have htarget {delivery : RetryableDelivery} {target : RetryTarget}
      {todo : List RetryableDelivery} (hcalling : system.retry = .calling delivery target todo) :
      delivery.subscriberId = id → ∃ url, target.channel = .webhook url :=
    fun heq ↦ (h.target hcalling).2 (heq ▸ hid)
  generalize (system.retry.step config input system.bus).1 = after at hchange ⊢
  generalize (system.retry.step config input system.bus).2 = phase at hchange
  generalize system.retry = before at hchange htarget
  cases hchange with
  | attempt turn =>
    cases turn with
    | gone => rfl
    | call =>
      rename_i delivery todo target
      apply RetryPhase.retryToSubscriber_channels
      by_cases hother : id = delivery.subscriberId
      · exact .inr (htarget rfl hother.symm)
      · exact .inl hother
  | record => rw [Bus.recordDelivery_channels]
  | finalize => rw [Bus.updateStatus_channels]
  | _ => rfl

namespace NothingForwarded

theorem of_same (h : system.NothingForwarded) (hcalls : next.calls = system.calls)
    (hwebhooks : next.webhooks = system.webhooks)
    (hchannels : ∀ id ∈ system.webhooks, next.bus.channels id = system.bus.channels id) :
    next.NothingForwarded where
  calls := hcalls.trans h.calls
  queue id hid := by
    rw [hwebhooks] at hid
    rw [hchannels id hid, h.queue id hid]

/-- A registration under a fresh id. -/
theorem subscribe (h : system.NothingForwarded) {entry : SubscriptionEntry}
    (hfresh : entry.id ∉ system.bus.usedIds) (hused : ∀ id ∈ system.webhooks, id ∈ system.bus.usedIds)
    (hcalls : next.calls = system.calls)
    (hchannels : next.bus.channels = (system.bus.setChannel entry.id .new).channels)
    (hwebhooks : ∀ id ∈ next.webhooks, id = entry.id ∨ id ∈ system.webhooks) :
    next.NothingForwarded where
  calls := hcalls.trans h.calls
  queue id hid := by
    rw [hchannels]
    obtain rfl | hold := hwebhooks id hid
    · simp [Bus.setChannel, Channel.new]
    · have hne : id ≠ entry.id := fun heq ↦ hfresh (heq ▸ hused id hold)
      simp [Bus.setChannel, hne, h.queue id hold]

theorem step (h : system.NothingForwarded) (hapart : system.WebhooksApart) {label : Label}
    (hleaves : system.LeavesToRetry label) (hstep : System.step config system label = some next) :
    next.NothingForwarded := by
  cases effect_of_step hstep with
  | refused => exact h
  | dispatch at_i running =>
    exact h.of_same rfl rfl fun id hid ↦ hleaves.channels hapart at_i running hid
  | retry busy => exact h.of_same rfl rfl fun id hid ↦ hapart.channels_of_retry busy hid
  | subscribe fresh =>
    exact h.subscribe fresh hapart.used rfl rfl fun _ hid ↦ .inr hid
  | @createSubscription id pattern url priority index fresh =>
    have hentry : (webhookEntry id pattern url priority).id ∉ system.bus.usedIds := fresh
    exact h.subscribe hentry hapart.used rfl rfl fun _ hid ↦ List.mem_cons.mp hid
  | @receive id event rest calls queued forwarded =>
    have hid : id ∉ system.webhooks := by
      intro hid
      simp [h.queue id hid] at queued
    obtain ⟨hwebhook, _⟩ | ⟨_, rfl⟩ := forwarded
    · exact absurd hwebhook hid
    refine h.of_same rfl rfl fun other hother ↦ ?_
    have hne : other ≠ id := fun heq ↦ hid (heq ▸ hother)
    simp [Bus.setChannel, hne]
  | webhookReturn called => simp [h.calls] at called
  | @closeChannel id =>
    refine ⟨h.calls, fun other hother ↦ ?_⟩
    by_cases heq : other = id
    · simp [Bus.setChannel, heq, Channel.close]
    · simp [Bus.setChannel, heq, h.queue other hother]
  | _ => exact h.of_same rfl rfl fun _ _ ↦ rfl

end NothingForwarded

/-- An orderly step that puts no event on the channel of a webhook subscription. -/
def OrderlyLeavesToRetry (system : System) (label : Label) : Prop :=
  system.Orderly label ∧ system.LeavesToRetry label

instance (system : System) (label : Label) : Decidable (system.OrderlyLeavesToRetry label) :=
  inferInstanceAs (Decidable (_ ∧ _))

/-- Where every webhook delivery is left to the retry task, a record becomes delivered only after a
call of the webhook returned Ok, a delivery whose last attempt failed transiently is failed and
comes up for retry as long as attempts are left, and no event waits with a forwarder. -/
theorem webhook_records_truthful (config : Config) (clock : ℕ) {system : System}
    (hreach : Steps.Reach (step config) OrderlyLeavesToRetry (build .empty clock) system)
    {seq : ℕ} {event : StoredEvent} (hfound : system.bus.store.find seq = some event)
    {id : String} (hwebhook : id ∈ system.webhooks) :
    (∀ record, event.recordOf id = some record → record.status = .delivered →
      webhookSucceeded seq id system.bus.log = true) ∧
    (∀ last earlier, attemptsOf seq id system.bus.log = last :: earlier →
      last.outcome = .transient → earlier.length + 1 < config.retry.maxAttempts →
      ¬ system.Recording (seq, id) →
      ∃ record due, event.recordOf id = some record ∧ record.status = .failed ∧
        ∀ now ≥ due, record.isRetryable config.retry.maxAttempts now = true) ∧
    (system.bus.channels id).queue = [] ∧ system.calls = [] := by
  have h : system.Truthful config ∧ system.NothingForwarded := by
    apply hreach.invariant
    · exact ⟨truthful_build config clock, nothingForwarded_build clock⟩
    · rintro s label s' ⟨htruthful, hnothing⟩ ⟨horderly, hleaves⟩ hstep
      exact ⟨htruthful.step horderly.2 hleaves hstep,
        hnothing.step htruthful.apart hleaves hstep⟩
  obtain ⟨htruthful, hnothing⟩ := h
  refine ⟨fun record hrecord hdelivered ↦ ?_, ?_, hnothing.queue id hwebhook, hnothing.calls⟩
  · exact (htruthful.stored seq event id record hfound hrecord).2 hwebhook hdelivered
  · intro last earlier hattempts htransient hleft hidle
    have hmax : 2 ≤ config.retry.maxAttempts := by omega
    have haccounted := accounted_of_reach hmax (hreach.weaken fun _ _ hguard ↦ hguard.1)
    have hrecords := haccounted.settled hfound hidle
    rw [hattempts] at hrecords
    obtain ⟨_, _, record, hrecord, hlast⟩ := hrecords
    simp only [htransient, if_pos hleft] at hlast
    obtain ⟨hcount, hfailed, due, hdue, _⟩ := hlast
    refine ⟨record, due, hrecord, hfailed, fun now hnow ↦ ?_⟩
    simp [DeliveryRecord.isRetryable, hfailed, hcount, hleft, hdue, hnow]

/-- A webhook whose forwarder is gone fails on the first retry and succeeds on the second. -/
def calledTwice : List Label :=
  [.createSubscription "s" "a" "https://example.org" 10, .closeChannel "s", .publishByte "a" 1] ++
    List.replicate 7 (.turn 0 .timedOut) ++
    [.tick 1000, .poll, .retryTurn, .retry ⟨.error (.failed "503"), 0, true⟩, .retryTurn,
      .retryTurn, .tick 100000, .poll, .retryTurn, .retryTurn, .retryTurn]

theorem webhook_records_truthful_calledTwice :
    ∃ system event record, Steps.execute (step (.plain 5)) (build .empty 0) calledTwice =
        some system ∧ system.bus.store.find 1 = some event ∧ event.recordOf "s" = some record ∧
      record.status = .delivered ∧ webhookSucceeded 1 "s" system.bus.log = true := by
  have hexecute : ∃ system ∈ Steps.execute (step (.plain 5)) (build .empty 0) calledTwice,
      ∃ event ∈ system.bus.store.find 1, ∃ record ∈ event.recordOf "s",
        record.status = .delivered ∧ "s" ∈ system.webhooks := by
    decide +kernel
  obtain ⟨system, hsystem, event, hfound, record, hrecord, hdelivered, hwebhook⟩ := hexecute
  have hreach : Steps.Reach (step (.plain 5)) OrderlyLeavesToRetry (build .empty 0) system :=
    Steps.reach_of_execute (by decide +kernel) hsystem
  exact ⟨system, event, record, hsystem, hfound, hrecord, hdelivered,
    (webhook_records_truthful (.plain 5) 0 hreach hfound hwebhook).1 record hrecord hdelivered⟩

/-- A webhook is registered, and an event published to it; its forwarder then calls the webhook,
and the call fails. -/
def failedForward : List Label :=
  [.createSubscription "s" "a" "https://example.org" 10, .publishByte "a" 1] ++
    List.replicate 7 (.turn 0 .timedOut) ++
    [.receive "s", .webhookReturn "s" (.error (.failed "503"))]

/-- The record is delivered although no call returned Ok, and nothing is left to retry. -/
theorem failedForward_recorded_delivered :
    ∃ system, Steps.Reach (step (.plain 5)) Orderly (build .empty 0) system ∧
      (∃ event ∈ system.bus.store.find 1, ∃ record ∈ event.recordOf "s",
        record.status = .delivered) ∧
      system.bus.log.head? = some (.webhookReturned 1 "s" false) ∧
      webhookSucceeded 1 "s" system.bus.log = false ∧ system.calls = [] ∧
      ∀ event ∈ system.bus.store.events, event.hasFailed = false := by
  have hexecute : ∃ system ∈ Steps.execute (step (.plain 5)) (build .empty 0) failedForward,
      (∃ event ∈ system.bus.store.find 1, ∃ record ∈ event.recordOf "s",
        record.status = .delivered) ∧
      system.bus.log.head? = some (.webhookReturned 1 "s" false) ∧
      webhookSucceeded 1 "s" system.bus.log = false ∧ system.calls = [] ∧
      ∀ event ∈ system.bus.store.events, event.hasFailed = false := by
    decide +kernel
  obtain ⟨system, hsystem, hrest⟩ := hexecute
  exact ⟨system, Steps.reach_of_execute (by decide +kernel) hsystem, hrest⟩

end System

end Seidrum.EventBus
