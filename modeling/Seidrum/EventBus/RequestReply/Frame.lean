import Seidrum.EventBus.Mentions
import Seidrum.EventBus.Addressed
import Seidrum.EventBus.RequestReply.Registrations

/-!
# What a step of the exchange leaves alone

Dispatches go on where they were, or start at their beginning; a channel is touched by its receiver,
by a dispatch that mentions the subscription and by nobody else; and what the store and the retry
task mention comes from the dispatches of persisted events.
-/

namespace Seidrum.EventBus

open Seidrum.Foundation

/-! ## Dispatches -/

/-- The sync subscribers that still get a turn, as they were registered. -/
def Stage.syncTodo : Stage → List SyncEntry
  | .chain todo _ => todo
  | .record _ next => next.syncTodo
  | _ => []

namespace Dispatch

/-- No interceptor had a turn in the dispatch, and none is going to have one. -/
structure Unmodified (bus : Bus) (d : Dispatch) : Prop where
  pending : ∀ id ∈ d.stage.pendingIds, id ∉ bus.interceptors
  todo : ∀ entry ∈ d.stage.syncTodo, entry.interceptor = false
  current : d.current = d.payload

/-- The same dispatch, some steps later or dropped. -/
structure Later (bus : Bus) (d d' : Dispatch) : Prop where
  same : Same d d'
  pending : ∀ id ∈ d'.stage.pendingIds, id ∈ d.stage.pendingIds ∨
    ∃ entry ∈ bus.index.lookup d.subject, entry.id = id
  sync : ∀ id ∈ d'.stage.syncIds, id ∈ d.stage.syncIds ∨
    ∃ entry ∈ bus.index.lookup d.subject, entry.id = id ∧ entry.mode = .sync
  ended : d.stage.chainOver = true → d'.stage.chainOver = true ∧ d'.current = d.current
  unmodified : d.Unmodified bus → (∀ entry ∈ bus.index.lookup d.subject, entry.id ∉ bus.interceptors) →
    d'.Unmodified bus

theorem Later.refl (bus : Bus) (d : Dispatch) : d.Later bus d :=
  ⟨⟨rfl, rfl, rfl, rfl, rfl⟩, fun _ ↦ .inl, fun _ ↦ .inl, fun h ↦ ⟨h, rfl⟩, fun h _ ↦ h⟩

variable {config : Config} {input : DispatchInput} {bus after : Bus} {d d' : Dispatch}

/-- A turn of the chain changes the payload only when it is that of an interceptor. -/
theorem Change.unmodified (h : Change config input bus d after d') (hd : d.Unmodified bus)
    (hlookup : ∀ entry ∈ bus.index.lookup d.subject, entry.id ∉ bus.interceptors) :
    d'.Unmodified bus := by
  have hpending : ∀ id ∈ d'.stage.pendingIds, id ∉ bus.interceptors := by
    intro id hid
    obtain hold | ⟨entry, hentry, rfl⟩ := h.mem_pendingIds hid
    · exact hd.pending id hold
    · exact hlookup entry hentry
  cases h with
  | resolve | mark =>
    exact ⟨hpending, by simp only; split_ifs <;> simp [Stage.syncTodo], hd.current⟩
  | snapshot stage =>
    refine ⟨hpending, fun entry hentry ↦ ?_, hd.current⟩
    obtain ⟨subscription, hsubscription, rfl⟩ := List.mem_map.mp hentry
    have hfree := hd.pending subscription.id (by
      rw [stage]
      exact List.mem_append_left _ (List.mem_map_of_mem hsubscription))
    simpa [Bus.syncEntry] using hfree
  | collect | finish => exact ⟨hpending, by simp [Stage.syncTodo], hd.current⟩
  | @attempt id result next turn =>
    cases turn with
    | @sync entry todo async stage =>
      have htodo : ∀ other ∈ entry :: todo, other.interceptor = false := by
        have h := hd.todo
        rwa [stage] at h
      have hentry := htodo entry List.mem_cons_self
      refine ⟨hpending, fun other hother ↦ ?_, ?_⟩
      · simp only [finishAttempt, Stage.syncTodo] at hother
        split_ifs at hother
        · simp [Stage.syncTodo] at hother
        · exact htodo other (List.mem_cons_of_mem _ hother)
      · simp [finishAttempt, Bus.syncAttempt, hentry, Bus.sendResult_buffer, hd.current]
    | async stage =>
      refine ⟨hpending, fun other hother ↦ ?_, ?_⟩
      · simp only [finishAttempt, Stage.syncTodo] at hother
        split_ifs at hother <;> simp [Stage.syncTodo] at hother
      · simp [finishAttempt, Bus.asyncAttempt_buffer, hd.current]
  | record stage =>
    refine ⟨hpending, ?_, hd.current⟩
    have h := hd.todo
    rwa [stage] at h

theorem Change.later (h : Change config input bus d after d') : d.Later bus d' :=
  ⟨h.same, fun _ ↦ h.mem_pendingIds, fun _ ↦ h.mem_syncIds, h.of_chainOver, h.unmodified⟩

theorem later_returned (bus : Bus) (d : Dispatch) : d.Later bus { d with stage := .returned } :=
  ⟨⟨rfl, rfl, rfl, rfl, rfl⟩, fun _ h ↦ by simp [Stage.pendingIds] at h,
    fun _ h ↦ by simp [Stage.syncIds] at h, fun _ ↦ ⟨rfl, rfl⟩,
    fun h _ ↦ ⟨by simp [Stage.pendingIds], by simp [Stage.syncTodo], h.current⟩⟩

/-- Dispatches go on, and new ones start at the end. -/
structure Follows (bus : Bus) (before after : List Dispatch) : Prop where
  origin : ∀ {i : ℕ} {d' : Dispatch}, after[i]? = some d' →
    (∃ d, before[i]? = some d ∧ d.Later bus d') ∨ i = before.length ∧ d'.stage = .resolve
  kept : ∀ {i : ℕ} {d : Dispatch}, before[i]? = some d → ∃ d', after[i]? = some d' ∧ d.Later bus d'

variable {bus : Bus} {before after : List Dispatch}

theorem Follows.refl (bus : Bus) (before : List Dispatch) : Follows bus before before :=
  ⟨fun h ↦ .inl ⟨_, h, .refl bus _⟩, fun h ↦ ⟨_, h, .refl bus _⟩⟩

theorem follows_concat (bus : Bus) (before : List Dispatch) (hstage : d.stage = .resolve) :
    Follows bus before (before ++ [d]) where
  origin h := by
    obtain hold | ⟨hlast, rfl⟩ := at_of_concat h
    · exact .inl ⟨_, hold, .refl bus _⟩
    · exact .inr ⟨hlast, hstage⟩
  kept {i d} h := ⟨d, at_concat h _, .refl bus d⟩

theorem follows_set {i : ℕ} (hat : before[i]? = some d) (hlater : d.Later bus d') :
    Follows bus before (before.set i d') where
  origin {j e} h := by
    obtain ⟨rfl, rfl⟩ | ⟨_, hold⟩ := at_of_set h
    · exact .inl ⟨d, hat, hlater⟩
    · exact .inl ⟨e, hold, .refl bus e⟩
  kept {j e} h := by
    by_cases hij : i = j
    · subst hij
      obtain rfl := Option.some.inj (hat.symm.trans h)
      exact ⟨d', by rw [List.getElem?_set_self (List.getElem?_eq_some_iff.mp h).1], hlater⟩
    · exact ⟨e, by rw [List.getElem?_set_ne hij, h], .refl bus e⟩

end Dispatch

open Dispatch

theorem System.follows_of_step {config : Config} {system next : System} {label : Label}
    (h : step config system label = some next) :
    Follows system.bus system.dispatches next.dispatches := by
  cases change_of_step h with
  | quiet quiet =>
    rw [quiet.dispatches]
    exact .refl _ _
  | publish fresh starts | publishReply starts => exact follows_concat _ _ starts.stage
  | @dispatch i input d at_i running =>
    exact follows_set at_i (Dispatch.change_of_step config input system.bus running).later
  | poll | retry | compact => exact .refl _ _

variable {next bus : Bus} {d : Dispatch} {intercepting : Option String} {subject : String}
  {payload : Payload} {replySubject : Option String} {storeError : Option StorageError}

theorem Bus.publishEvent_starts
    (h : bus.publishEvent intercepting subject payload replySubject storeError = .ok (next, d)) :
    d.stage = .resolve ∧ d.subject = subject ∧ d.payload = payload ∧
      d.replySubject = replySubject := by
  obtain ⟨-, hstarts, _⟩ | ⟨-, hstarts, _⟩ := publishEvent_ok h
  all_goals exact ⟨hstarts.stage, hstarts.subject, hstarts.payload, hstarts.replySubject⟩

/-- A dispatch is ephemeral when it is one of a reply subject. -/
theorem Bus.publishEvent_isReply
    (h : bus.publishEvent intercepting subject payload replySubject storeError = .ok (next, d)) :
    d.isReply = isReplySubject subject := by
  obtain ⟨hreply, hstarts, _⟩ | ⟨hreply, hstarts, _⟩ := publishEvent_ok h
  all_goals exact hstarts.isReply.trans hreply.symm

namespace Exchange

variable {config : Config} {state next : Exchange}

theorem dropDispatch_follows (stage : RequestStage) (state : Exchange) :
    Follows state.core.bus state.core.dispatches (state.dropDispatch stage).core.dispatches := by
  unfold dropDispatch
  split
  · constructor
    · intro j d' h
      obtain ⟨_, d, hd, rfl⟩ | ⟨_, hold⟩ := at_of_modify h
      · exact .inl ⟨d, hd, later_returned _ d⟩
      · exact .inl ⟨d', hold, .refl _ _⟩
    · intro j d h
      simp only [List.getElem?_modify, h]
      split_ifs
      · exact ⟨_, rfl, later_returned _ d⟩
      · exact ⟨_, rfl, .refl _ _⟩
  · exact .refl _ _

variable {j : ℕ} {server : Server} {d : Dispatch} {r : ℕ} {id : String} {k : ℕ} {replier : Replier}
  {core : System}

theorem ServerChange.dispatches (h : ServerChange state j server next) :
    next.core.dispatches = state.core.dispatches := by
  cases h with
  | bridge => rw [bridgeEvent_core]; rfl
  | _ => rfl

/-- How a dispatch starts, and by whom. -/
inductive Started (state : Exchange) : Publisher → Dispatch → Prop
  | caller {intercepting : Option String} {subject : String} {payload : Payload}
      {storeError : Option StorageError} {bus : Bus} {d : Dispatch}
      (free : isReplySubject subject = false)
      (accepted : state.core.bus.publishEvent intercepting subject payload none storeError =
        .ok (bus, d)) : Started state .caller d
  | request {r : ℕ} {request : Request} {storeError : Option StorageError} {bus : Bus}
      {d : Dispatch} (at_r : state.requests[r]? = some request)
      (accepted : state.core.bus.publishEvent request.call.intercepting request.call.subject
        request.call.payload (some request.replySubject) storeError = .ok (bus, d)) :
      Started state (.request r) d
  | replay {seq : ℕ} {event : StoredEvent} {store : InMemoryEventStore}
      (requeued : state.core.bus.store.requeueDeadLettered seq = (.ok event, store)) :
      Started state .replay
        { seq, subject := event.subject, payload := event.payload,
          replySubject := event.replySubject, isReply := false, current := event.payload,
          anyFailed := false, stage := .resolve }
  | replier {k : ℕ} {replier : Replier} {intercepting : Option String} {payload : Payload}
      {bus : Bus} {d : Dispatch} (at_k : state.repliers[k]? = some replier)
      (accepted : replier.accepted = true)
      (published : state.core.bus.publishEvent intercepting replier.replySubject payload none none =
        .ok (bus, d)) : Started state (.replier k) d

/-- What a step does to the dispatches: they go on, or one is started. -/
inductive Dispatching (state next : Exchange) : Prop
  | keeps (follows : Follows state.core.bus state.core.dispatches next.core.dispatches)
      (length : next.core.dispatches.length = state.core.dispatches.length)
      (publishers : next.publishers = state.publishers)
  | starts {publisher : Publisher} {d : Dispatch} (started : state.Started publisher d)
      (dispatches : next.core.dispatches = state.core.dispatches ++ [d])
      (publishers : next.publishers = state.publishers ++ [publisher])
      (spends : ∀ k, publisher = .replier k → ∃ replier, state.repliers[k]? = some replier ∧
        replier.replied = false ∧ next.repliers[k]? = some { replier with replied := true })

theorem keepsDispatches_of_isCoreLabel {label : Label} (h : state.isCoreLabel label = true) :
    System.keepsDispatches label = true := by
  cases label with
  | publish => simp [isCoreLabel] at h
  | _ => rfl

variable {label : ExchangeLabel}

theorem Change.dispatching (h : Change config state label next) : state.Dispatching next := by
  have hkept {after : Exchange} (hdispatches : after.core.dispatches = state.core.dispatches)
      (hpublishers : after.publishers = state.publishers) : state.Dispatching after :=
    .keeps (hdispatches ▸ .refl _ _) (hdispatches ▸ rfl) hpublishers
  cases h with
  | refused => exact hkept rfl rfl
  | @core label after allowed stepped =>
    exact .keeps (System.follows_of_step stepped)
      (System.length_dispatches_of_step stepped (keepsDispatches_of_isCoreLabel allowed)) rfl
  | publish free accepted => exact .starts (.caller free accepted) rfl rfl nofun
  | replay requeued => exact .starts (.replay requeued) rfl rfl nofun
  | request => exact hkept rfl rfl
  | ofRequest at_r change =>
    cases change with
    | publish stage accepted => exact .starts (.request at_r accepted) rfl rfl nofun
    | drop suspended =>
      refine .keeps (dropDispatch_follows _ _) ?_ ?_
      · change (state.dropDispatch _).core.dispatches.length = _
        unfold dropDispatch
        split
        · exact List.length_modify _ _ _
        · rfl
      · change (state.dropDispatch _).publishers = _
        unfold dropDispatch
        split <;> rfl
    | _ => exact hkept rfl rfl
  | serve => exact hkept rfl rfl
  | ofServer at_j change =>
    apply hkept change.dispatches
    cases change with
    | bridge =>
      unfold bridgeEvent
      split
      · rfl
      · split_ifs <;> rfl
    | _ => rfl
  | replyRefused => exact hkept rfl rfl
  | reply at_k accepted unsent published =>
    refine .starts (.replier at_k accepted published) rfl rfl ?_
    rintro k ⟨rfl⟩
    refine ⟨_, at_k, unsent, ?_⟩
    change (List.modify _ _ _)[_]? = _
    rw [List.getElem?_modify_eq, at_k]
    rfl

theorem Started.stage {publisher : Publisher} (h : state.Started publisher d) :
    d.stage = .resolve := by
  cases h with
  | caller free accepted | request at_r accepted => exact (Bus.publishEvent_starts accepted).1
  | replay => rfl
  | replier at_k accepted published => exact (Bus.publishEvent_starts published).1

theorem Change.follows (h : Change config state label next) :
    Follows state.core.bus state.core.dispatches next.core.dispatches := by
  cases h.dispatching with
  | keeps follows => exact follows
  | starts started dispatches =>
    rw [dispatches]
    exact follows_concat _ _ started.stage

/-- Each dispatch goes on, or has just been started. -/
theorem Change.later_or_started (h : Change config state label next)
    (hd : d ∈ next.core.dispatches) :
    (∃ before ∈ state.core.dispatches, before.Later state.core.bus d) ∨
      ∃ publisher, state.Started publisher d := by
  cases h.dispatching with
  | keeps follows length =>
    obtain ⟨i, hat⟩ := List.mem_iff_getElem?.mp hd
    obtain ⟨before, hbefore, hlater⟩ | ⟨hlast, _⟩ := follows.origin hat
    · exact .inl ⟨before, List.mem_of_getElem? hbefore, hlater⟩
    · have hlt := (List.getElem?_eq_some_iff.mp hat).1
      omega
  | @starts publisher new started dispatches =>
    rw [dispatches] at hd
    obtain hold | hnew := List.mem_append.mp hd
    · exact .inl ⟨d, hold, .refl _ d⟩
    · exact .inr ⟨publisher, List.mem_singleton.mp hnew ▸ started⟩

/-- The label is not a step of the receiver of this subscription. -/
def SparesReceiver (id : String) (state : Exchange) : ExchangeLabel → Prop
  | .core (.receive other) | .core (.closeChannel other) => other ≠ id
  | .ofRequest r _ => ∀ request, state.requests[r]? = some request → request.id ≠ id
  | .ofServer j _ => ∀ server, state.servers[j]? = some server → server.id ≠ id
  | _ => True

/-- The label is not a step of a dispatch that mentions this subscription. -/
def SparesTurns (id : String) (state : Exchange) : ExchangeLabel → Prop
  | .core (.dispatch i _) =>
      ∀ d, state.core.dispatches[i]? = some d → id ∉ d.stage.pendingIds
  | _ => True

variable {request : Request} {stage : RequestStage} {move : RequestMove}

theorem RequestChange.untouched (h : RequestChange state r request move stage next)
    (hne : request.id ≠ id) : state.core.bus.Untouched id next.core.bus := by
  cases h with
  | publish stage accepted => exact Bus.publishEvent_untouched accepted
  | refused | published => exact ⟨rfl, rfl⟩
  | receive | dropReceiver => exact Bus.setChannel_untouched hne _
  | giveUp => exact ⟨rfl, rfl⟩
  | cleanUp | drop => exact ⟨if_neg hne.symm, rfl⟩

theorem ServerChange.untouched (h : ServerChange state j server next) (hne : server.id ≠ id) :
    state.core.bus.Untouched id next.core.bus := by
  cases h with
  | bridge =>
    rw [bridgeEvent_core]
    exact Bus.setChannel_untouched hne _
  | keeps => exact ⟨rfl, rfl⟩
  | exit => exact Bus.setChannel_untouched hne _
  | accept | cleanUp => exact ⟨rfl, rfl⟩

/-- A channel that was given out is touched by its receiver and by the dispatches that mention its
subscription only. -/
theorem Change.untouched (h : Change config state label next) (hused : id ∈ state.core.bus.usedIds)
    (hitems : ∀ item ∈ state.core.retry.items, item.subscriberId ≠ id)
    (hreceiver : state.SparesReceiver id label) (hturns : state.SparesTurns id label) :
    state.core.bus.Untouched id next.core.bus := by
  cases h with
  | refused => exact ⟨rfl, rfl⟩
  | core allowed stepped =>
    apply System.untouched_of_step stepped hused hitems
    · rintro rfl
      exact hreceiver rfl
    · rintro rfl
      exact hreceiver rfl
    · rintro i input d rfl
      exact hturns d
  | publish free accepted => exact Bus.publishEvent_untouched accepted
  | replay => exact ⟨rfl, rfl⟩
  | @request call ulid other index fresh registered =>
    simp only [freshRequest, Bool.and_eq_true, decide_eq_true_eq] at fresh
    have hne : other ≠ id := fun heq ↦ fresh.1.1.1.2 (heq ▸ hused)
    exact ⟨if_neg hne.symm, rfl⟩
  | ofRequest at_r change => exact change.untouched (hreceiver _ at_r)
  | @serve other pattern priority timeout filter index fresh subscribed =>
    have hne : other ≠ id := fun heq ↦ fresh (heq ▸ hused)
    exact ⟨if_neg hne.symm, rfl⟩
  | ofServer at_j change => exact change.untouched (hreceiver _ at_j)
  | replyRefused => exact ⟨rfl, rfl⟩
  | reply at_k accepted unsent published => exact Bus.publishEvent_untouched published

theorem RequestChange.attempts (h : RequestChange state r request move stage next) (id : String) :
    attemptsOn id next.core.bus.log = attemptsOn id state.core.bus.log := by
  cases h with
  | publish stage accepted => exact (Bus.publishEvent_untouched accepted).attempts
  | _ => rfl

/-- Attempts on a subscriber are made by the dispatches that mention it only, unless there is a retry
for it. -/
theorem Change.attempts (h : Change config state label next)
    (hitems : ∀ item ∈ state.core.retry.items, item.subscriberId ≠ id)
    (hturns : state.SparesTurns id label) :
    attemptsOn id next.core.bus.log = attemptsOn id state.core.bus.log := by
  cases h with
  | core allowed stepped =>
    apply System.attempts_of_step stepped hitems
    rintro i input d rfl
    exact hturns d
  | publish free accepted => exact (Bus.publishEvent_untouched accepted).attempts
  | ofRequest at_r change => exact change.attempts id
  | ofServer at_j change =>
    cases change with
    | bridge => rw [bridgeEvent_core]; rfl
    | _ => rfl
  | reply at_k accepted unsent published => exact (Bus.publishEvent_untouched published).attempts
  | _ => rfl

/-- What a step does on the channel of a subscription, when its receiver makes no move. -/
inductive OnChannel (config : Config) (state : Exchange) (id : String) (label : ExchangeLabel)
    (next : Exchange) : Prop
  | untouched (attempts : attemptsOn id next.core.bus.log = attemptsOn id state.core.bus.log)
      (channel : state.SparesReceiver id label →
        next.core.bus.channels id = state.core.bus.channels id)
  | turn {i : ℕ} {input : DispatchInput} {d : Dispatch} {result : AttemptResult} {rest : Stage}
      (label_eq : label = .core (.dispatch i input)) (at_i : state.core.dispatches[i]? = some d)
      (turn : Turn input state.core.bus d id result rest)
      (bus : next.core.bus = (d.finishAttempt config input id result rest).1)
      (after : next.core.dispatches[i]? = some (d.finishAttempt config input id result rest).2)

theorem Change.onChannel (h : Change config state label next) (hused : id ∈ state.core.bus.usedIds)
    (hitems : ∀ item ∈ state.core.retry.items, item.subscriberId ≠ id) :
    state.OnChannel config id label next := by
  by_cases hturns : state.SparesTurns id label
  · exact .untouched (h.attempts hitems hturns) fun hreceiver ↦
      (h.untouched hused hitems hreceiver hturns).channel
  cases h with
  | refused => exact .untouched rfl fun _ ↦ rfl
  | @core label after allowed stepped =>
    cases label with
    | dispatch i input =>
      obtain ⟨d, hat, hrunning, rfl⟩ := System.dispatch_of_step stepped
      have hchange := Dispatch.change_of_step config input state.core.bus hrunning
      obtain huntouched | ⟨result, rest, hturn, hbus, hafter⟩ := hchange.untouched_or_turn id
      · exact .untouched huntouched.attempts fun _ ↦ huntouched.channel
      · refine .turn rfl hat hturn hbus ?_
        change (List.set _ _ _)[i]? = _
        rw [List.getElem?_set_self (List.getElem?_eq_some_iff.mp hat).1, hafter]
    | _ => exact absurd trivial hturns
  | _ => exact absurd trivial hturns

/-! ## Owners -/

theorem setStage_map {β : Type} {g : Request → β}
    (hg : ∀ request stage, g { request with stage } = g request) (r : ℕ) (stage : RequestStage)
    (state : Exchange) : (state.setStage r stage).requests.map g = state.requests.map g :=
  map_modify fun request ↦ hg request stage

theorem setStage_servers (r : ℕ) (stage : RequestStage) (state : Exchange) :
    (state.setStage r stage).servers = state.servers := rfl

theorem dropDispatch_servers (stage : RequestStage) (state : Exchange) :
    (state.dropDispatch stage).servers = state.servers := by
  unfold dropDispatch
  split <;> rfl

theorem RequestChange.servers (h : RequestChange state r request move stage next) :
    next.servers = state.servers := by
  cases h with
  | drop => exact dropDispatch_servers _ _
  | _ => rfl

theorem ServerChange.ids (h : ServerChange state j server next)
    (hat : state.servers[j]? = some server) :
    next.servers.map (·.id) = state.servers.map (·.id) := by
  have hset {after : Server} (hid : after.id = server.id) :
      (state.servers.set j after).map (·.id) = state.servers.map (·.id) := map_set_of_eq hat hid
  cases h with
  | bridge =>
    unfold bridgeEvent
    split
    · rfl
    · split_ifs
      · rfl
      · exact hset rfl
  | keeps id => exact hset id
  | exit | accept | cleanUp => exact hset rfl

/-- The receivers of requests and handlers stay, and one may be added under a fresh id. -/
theorem Change.ownedIds (h : Change config state label next) :
    next.ownedIds = state.ownedIds ∨ ∃ id, id ∉ state.core.bus.usedIds ∧
      id ∈ next.core.bus.usedIds ∧ next.ownedIds.Perm (id :: state.ownedIds) := by
  cases h with
  | @request call ulid id index fresh registered =>
    simp only [freshRequest, Bool.and_eq_true, decide_eq_true_eq] at fresh
    refine .inr ⟨id, fresh.1.1.1.2, List.mem_cons_self, ?_⟩
    simp only [Exchange.ownedIds, List.map_append, List.map_singleton, List.append_assoc]
    exact List.perm_middle
  | @serve id pattern priority timeout filter index fresh subscribed =>
    refine .inr ⟨id, fresh, List.mem_cons_self, ?_⟩
    simp only [Exchange.ownedIds, List.map_append, List.map_singleton, ← List.append_assoc]
    exact List.perm_append_singleton _ _
  | ofRequest at_r change =>
    left
    unfold Exchange.ownedIds
    rw [setStage_map fun _ _ ↦ rfl, change.requests, setStage_servers, change.servers]
  | ofServer at_j change =>
    left
    unfold Exchange.ownedIds
    rw [change.requests, change.ids at_j]
  | _ => exact .inl rfl

/-- Requests keep their reply subjects, and a new one brings its own. -/
theorem Change.replySubjects (h : Change config state label next) :
    next.requests.map (·.replySubject) = state.requests.map (·.replySubject) ∨
      ∃ subject, subject ∉ state.requests.map (·.replySubject) ∧
        next.requests.map (·.replySubject) = state.requests.map (·.replySubject) ++ [subject] := by
  cases h with
  | @request call ulid id index fresh registered =>
    simp only [freshRequest, Bool.and_eq_true, decide_eq_true_eq] at fresh
    exact .inr ⟨replySubjectOf ulid, fresh.2, by rw [List.map_append]; rfl⟩
  | ofRequest at_r change =>
    left
    rw [setStage_map fun _ _ ↦ rfl, change.requests]
  | ofServer at_j change =>
    left
    rw [change.requests]
  | _ => exact .inl rfl

theorem Change.taken (h : Change config state label next) : next.taken = state.taken := by
  cases h with
  | ofRequest at_r change =>
    cases change with
    | drop =>
      change (state.dropDispatch _).taken = _
      unfold dropDispatch
      split <;> rfl
    | _ => rfl
  | ofServer at_j change =>
    cases change with
    | bridge =>
      unfold bridgeEvent
      split
      · rfl
      · split_ifs <;> rfl
    | _ => rfl
  | _ => rfl

/-- The same replier, some steps later. -/
structure Kept (replier replier' : Replier) : Prop where
  replySubject : replier'.replySubject = replier.replySubject
  message : replier'.message = replier.message
  replied : replier.replied = true → replier'.replied = true
  accepted : replier.accepted = true → replier'.accepted = true

theorem kept_of_modify {repliers : List Replier} {f : Replier → Replier}
    (hat : repliers[k]? = some replier) (hf : Kept replier (f replier)) :
    ∃ replier', (repliers.modify j f)[k]? = some replier' ∧ Kept replier replier' := by
  rw [List.getElem?_modify, hat]
  refine ⟨_, rfl, ?_⟩
  split_ifs
  · exact hf
  · exact ⟨rfl, rfl, id, id⟩

theorem RequestChange.repliers (h : RequestChange state r request move stage next) :
    next.repliers = state.repliers := by
  cases h with
  | drop =>
    unfold dropDispatch
    split <;> rfl
  | _ => rfl

/-- Repliers stay: one may be accepted, or spent. -/
theorem Change.replier_kept (h : Change config state label next)
    (hat : state.repliers[k]? = some replier) :
    ∃ replier', next.repliers[k]? = some replier' ∧ Kept replier replier' := by
  have hsame {repliers : List Replier} (heq : repliers = state.repliers) :
      ∃ replier', repliers[k]? = some replier' ∧ Kept replier replier' :=
    ⟨replier, heq ▸ hat, ⟨rfl, rfl, id, id⟩⟩
  cases h with
  | ofRequest at_r change => exact hsame change.repliers
  | ofServer at_j change =>
    cases change with
    | bridge =>
      unfold bridgeEvent
      split
      · exact hsame rfl
      · split_ifs
        · exact hsame rfl
        · exact ⟨replier, at_concat hat _, ⟨rfl, rfl, id, id⟩⟩
    | accept => exact kept_of_modify hat ⟨rfl, rfl, id, fun _ ↦ rfl⟩
    | _ => exact hsame rfl
  | replyRefused | reply => exact kept_of_modify hat ⟨rfl, rfl, fun _ ↦ rfl, id⟩
  | _ => exact hsame rfl

/-- Requests stay, and keep what they asked. -/
theorem Change.request_kept (h : Change config state label next)
    (hat : state.requests[r]? = some request) :
    ∃ stage, next.requests[r]? = some { request with stage } := by
  have hsame {requests : List Request} (heq : requests = state.requests) :
      ∃ stage, requests[r]? = some { request with stage } := ⟨request.stage, heq ▸ hat⟩
  cases h with
  | request => exact ⟨request.stage, at_concat hat _⟩
  | @ofRequest q before move stage after at_q change =>
    change ∃ stage', (after.requests.modify q _)[r]? = some { request with stage := stage' }
    rw [change.requests, List.getElem?_modify, hat]
    by_cases hq : q = r
    · exact ⟨stage, by simp [hq]⟩
    · exact ⟨request.stage, by simp [hq]⟩
  | ofServer at_j change => exact hsame change.requests
  | _ => exact hsame rfl

variable {Q : String → Prop}

theorem mentions_publishEvent (h : core.Mentions Q) {bus : Bus} {dispatches : List Dispatch}
    {intercepting : Option String} {subject : String} {payload : Payload}
    {replySubject : Option String} {storeError : Option StorageError}
    (hpublish : core.bus.publishEvent intercepting subject payload replySubject storeError =
      .ok (bus, d)) : ({ core with bus, dispatches } : System).Mentions Q := by
  obtain ⟨-, _, rfl⟩ | ⟨-, _, rfl⟩ := Bus.publishEvent_ok hpublish
  · exact ⟨h.records, h.items, h.reported⟩
  · exact ⟨h.records.append _ rfl, h.items, h.reported⟩

theorem mentions_of_bus {after : System} (h : core.Mentions Q)
    (hstore : after.bus.store = core.bus.store) (hretry : after.retry = core.retry) :
    after.Mentions Q :=
  ⟨hstore ▸ h.records, hretry ▸ h.items, hretry ▸ h.reported⟩

theorem dropDispatch_store (stage : RequestStage) (state : Exchange) :
    (state.dropDispatch stage).core.bus = state.core.bus ∧
      (state.dropDispatch stage).core.retry = state.core.retry := by
  unfold dropDispatch
  split <;> exact ⟨rfl, rfl⟩

theorem RequestChange.mentions (hchange : RequestChange state r request move stage next)
    (h : state.core.Mentions Q) : next.core.Mentions Q := by
  cases hchange with
  | publish stage accepted => exact mentions_publishEvent h accepted
  | drop => exact mentions_of_bus h rfl (dropDispatch_store _ _).2
  | _ => exact mentions_of_bus h rfl rfl

theorem ServerChange.mentions (hchange : ServerChange state j server next)
    (h : state.core.Mentions Q) : next.core.Mentions Q := by
  cases hchange with
  | bridge => rw [bridgeEvent_core]; exact mentions_of_bus h rfl rfl
  | _ => exact mentions_of_bus h rfl rfl

/-- The store and the retry task go on mentioning only subscribers with a property that those of the
dispatches of persisted events have. -/
theorem Change.mentions (hchange : Change config state label next) (h : state.core.Mentions Q)
    (hpending : ∀ d ∈ state.core.dispatches, d.active = true → ∀ id ∈ d.stage.pendingIds, Q id) :
    next.core.Mentions Q := by
  cases hchange with
  | refused => exact h
  | core allowed stepped => exact h.step hpending stepped
  | publish free accepted => exact mentions_publishEvent h accepted
  | @replay seq event store requeued =>
    have hstore : store = (state.core.bus.store.requeueDeadLettered seq).2 := by rw [requeued]
    exact ⟨hstore ▸ h.records.requeueDeadLettered seq, h.items, h.reported⟩
  | request | serve => exact mentions_of_bus h rfl rfl
  | ofRequest at_r change =>
    have hnext := change.mentions h
    exact ⟨hnext.records, hnext.items, hnext.reported⟩
  | ofServer at_j change => exact change.mentions h
  | replyRefused => exact h
  | reply at_k accepted unsent published => exact mentions_publishEvent h published

end Exchange

end Seidrum.EventBus
