import Seidrum.Client.Session
import Seidrum.EventBus.Disjoint
import Seidrum.EventBus.Mentions

/-!
# Subscriptions in the process of the bus

A client in the bus's own process subscribes by a subscription of the bus and a task that bridges its
events to the channel of the subscription the client holds.  Dropping that subscription is the only
way to end it.  The task finds out when it has an event to hand on; it then drops its end of the
bus's channel, and nobody tells the bus to unsubscribe.
-/

namespace Seidrum.EventBus

namespace Bus

variable {bus : Bus} {id : String} {channel : Channel}

theorem setChannel_closed (h : (bus.channels id).isOpen = false) {other : String}
    (hchannel : other = id → channel.isOpen = false) :
    ((bus.setChannel other channel).channels id).isOpen = false := by
  by_cases heq : other = id
  · subst heq
    simpa [setChannel] using hchannel rfl
  · simpa [setChannel, Ne.symm heq] using h

theorem trySend_of_closed (h : channel.isOpen = false) (event : DispatchedEvent) :
    channel.trySend event = .error .closed := if_pos h

theorem sendResult_closed (h : (bus.channels id).isOpen = false) (sender : Bool) (other : String)
    (event : DispatchedEvent) (sendError : TrySendError → String) (noSender : String) :
    ((bus.sendResult sender other event sendError noSender).bus.channels id).isOpen = false := by
  unfold sendResult
  split_ifs
  · split
    · rename_i channel hsend
      refine setChannel_closed h fun heq ↦ ?_
      subst heq
      simp [trySend_of_closed h] at hsend
    · exact h
  · exact h

end Bus

variable {config : Config} {bus after : Bus} {id : String} {system next : System} {label : Label}
  {entry : SubscriptionEntry}

theorem Dispatch.Change.closed {input : DispatchInput} {d d' : Dispatch}
    (hchange : Change config input bus d after d') (h : (bus.channels id).isOpen = false) :
    (after.channels id).isOpen = false := by
  cases hchange with
  | attempt turn =>
    cases turn with
    | sync =>
      unfold finishAttempt Bus.syncAttempt
      split
      · unfold Bus.interceptorResult
        split <;> exact h
      · exact Bus.sendResult_closed h _ _ _ _ _
    | async => exact Bus.sendResult_closed h _ _ _ _ _
  | mark | finish => rwa [Bus.updateStatus_channels]
  | record => rwa [Bus.recordDelivery_channels]
  | _ => exact h

/-- The retry task opens no channel. -/
theorem RetryPhase.Change.closed {input : RetryInput} {phase phase' : RetryPhase}
    (hchange : Change config input bus phase after phase') (h : (bus.channels id).isOpen = false) :
    (after.channels id).isOpen = false := by
  cases hchange with
  | @attempt phase delivery todo answer turn =>
    cases turn with
    | gone => exact h
    | call =>
      simp only [finishAttempt, Bus.note]
      unfold Bus.retryToSubscriber
      split
      · exact h
      · split_ifs <;> exact h
      · split_ifs
        · split
          · rename_i channel hsend
            refine Bus.setChannel_closed h fun heq ↦ ?_
            rw [heq, Bus.trySend_of_closed h] at hsend
            cases hsend
          · exact h
        · exact h
      · exact h
  | record => rwa [Bus.recordDelivery_channels]
  | finalize => rwa [Bus.updateStatus_channels]
  | _ => exact h

/-- A channel that was given out and closed stays closed. -/
theorem System.closed_of_step (hstep : step config system label = some next) (hused : id ∈ system.bus.usedIds)
    (h : (system.bus.channels id).isOpen = false) : (next.bus.channels id).isOpen = false := by
  have hopened {other : String} (fresh : other ∉ system.bus.usedIds) :
      ((system.bus.setChannel other .new).channels id).isOpen = false :=
    Bus.setChannel_closed h fun heq ↦ absurd hused (heq ▸ fresh)
  cases effect_of_step hstep with
  | dispatch at_i running => exact (Dispatch.change_of_step config _ system.bus running).closed h
  | retry busy => exact (RetryPhase.change_of_step config _ system.bus busy).closed h
  | subscribe fresh | createSubscription fresh => exact hopened fresh
  | receive => exact Bus.setChannel_closed h fun heq ↦ heq ▸ h
  | closeChannel => exact Bus.setChannel_closed h fun _ ↦ rfl
  | _ => exact h

/-- The subscription is listed, can be sent to and has had its id given out. -/
structure Bus.Holds (bus : Bus) (entry : SubscriptionEntry) : Prop where
  listed : entry ∈ bus.index.list none
  sender : entry.id ∈ bus.senders
  used : entry.id ∈ bus.usedIds

theorem Bus.Holds.subscribe {other : SubscriptionEntry} {index : SubjectIndex} (h : bus.Holds entry)
    (hindex : bus.index.subscribe other = .ok index) :
    Bus.Holds { bus.setChannel id .new with
      index
      senders := id :: bus.senders
      usedIds := id :: bus.usedIds } entry :=
  ⟨(SubjectIndex.mem_list_subscribe hindex).mpr (.inr h.listed), List.mem_cons_of_mem _ h.sender,
    List.mem_cons_of_mem _ h.used⟩

theorem Bus.holds_of_subscribe {next : Bus} (hsubscribe : bus.subscribe entry = .ok next) :
    next.Holds entry := by
  obtain ⟨index, hindex, rfl⟩ := Bus.subscribe_ok hsubscribe
  exact ⟨(SubjectIndex.mem_list_subscribe hindex).mpr (.inl rfl), List.mem_cons_self,
    List.mem_cons_self⟩

/-- A subscription stays until somebody unsubscribes its id. -/
theorem System.holds_of_step (hstep : step config system label = some next)
    (hlabel : label ≠ .unsubscribe entry.id) (h : system.bus.Holds entry) : next.bus.Holds entry := by
  by_cases htable : keepsTable label = true
  · have hkeeps := (keepsRegistry_of_step hstep htable).1
    exact ⟨hkeeps.index ▸ h.listed, hkeeps.senders ▸ h.sender, hkeeps.usedIds ▸ h.used⟩
  cases effect_of_step hstep with
  | refused => exact h
  | subscribe _ subscribed | createSubscription _ subscribed => exact h.subscribe subscribed
  | intercept _ subscribed =>
    exact ⟨(SubjectIndex.mem_list_subscribe subscribed).mpr (.inr h.listed), h.sender,
      List.mem_cons_of_mem _ h.used⟩
  | @unsubscribe id =>
    have hne : entry.id ≠ id := fun heq ↦ hlabel (heq ▸ rfl)
    exact ⟨SubjectIndex.mem_list_unsubscribe.mpr ⟨h.listed, hne⟩,
      List.mem_filter.mpr ⟨h.sender, by simpa using hne⟩, h.used⟩
  | _ => simp [keepsTable] at htable

end Seidrum.EventBus

namespace Seidrum.Client

open Seidrum.Foundation Seidrum.EventBus

/-- Where the task that bridges a subscription stands. -/
inductive Bridge
  | receiving
  | sending (message : WsMessage)
  | finished
  deriving DecidableEq, Repr

/-- A subscription of the client, and the task behind it. -/
structure Bridged where
  id : String
  pattern : String
  bridge : Bridge
  /-- The messages the client has not taken yet. -/
  queue : List WsMessage
  /-- The client has not dropped the subscription. -/
  isOpen : Bool
  deriving DecidableEq, Repr

/-- The size of the channel between the bridge and the client. -/
def bridgeCapacity : ℕ := 256

/-- A bus and the subscriptions its in-process clients made. -/
structure InProcess where
  core : System
  subscriptions : List Bridged

/-- Who moves next: a client subscribes, takes a message or drops a subscription, a bridge takes an
event or hands a message on, or something else happens on the bus. -/
inductive InProcessLabel
  | subscribe (id pattern : String)
  | next (k : ℕ)
  | drop (k : ℕ)
  | bridgeReceive (k : ℕ)
  | bridgeSend (k : ℕ)
  | core (label : Label)

namespace InProcess

/-- The subscription the client makes on the bus. -/
def entry (id pattern : String) : SubscriptionEntry :=
  { id, subjectPattern := pattern, priority := 10, mode := .async, channel := .inProcess,
    timeout := 5000, filter := none }

def start (store : InMemoryEventStore) (clock : ℕ) : InProcess := ⟨.build store clock, []⟩

def setSubscription (k : ℕ) (sub : Bridged) (state : InProcess) : InProcess :=
  { state with subscriptions := state.subscriptions.set k sub }

/-- What the bus does about one subscription on somebody's behalf: its receiver and its id are with
the bridge and the client alone. -/
def concerns : Label → Option String
  | .receive id | .closeChannel id | .unsubscribe id => some id
  | _ => none

def step (config : Config) : Steps InProcess InProcessLabel
  | state, .subscribe id pattern =>
      (state.core.register id (·.subscribe (entry id pattern))).map fun result ↦
        { core := result.2
          subscriptions :=
            if result.1 then state.subscriptions ++ [⟨id, pattern, .receiving, [], true⟩]
            else state.subscriptions }
  | state, .next k =>
      state.subscriptions[k]?.bind fun sub ↦
        if sub.isOpen = true ∧ sub.queue ≠ [] then
          some (state.setSubscription k { sub with queue := sub.queue.tail })
        else none
  | state, .drop k =>
      state.subscriptions[k]?.bind fun sub ↦
        if sub.isOpen then some (state.setSubscription k { sub with isOpen := false, queue := [] })
        else none
  | state, .bridgeReceive k =>
      state.subscriptions[k]?.bind fun sub ↦
        match sub.bridge, (state.core.bus.channels sub.id).queue with
        | .receiving, event :: _ =>
            (System.step config state.core (.receive sub.id)).map fun core ↦
              { state.setSubscription k { sub with
                  bridge := .sending ⟨event.subject, event.payload, event.replySubject⟩ } with core }
        | _, _ => none
  | state, .bridgeSend k =>
      state.subscriptions[k]?.bind fun sub ↦
        match sub.bridge with
        | .sending message =>
            if sub.isOpen = false then
              -- the task ends, and the bus's channel loses its receiver
              (System.step config state.core (.closeChannel sub.id)).map fun core ↦
                { state.setSubscription k { sub with bridge := .finished } with core }
            else if sub.queue.length < bridgeCapacity then
              some (state.setSubscription k { sub with
                bridge := .receiving, queue := sub.queue ++ [message] })
            else none
        | _ => none
  | state, .core label =>
      if ∃ sub ∈ state.subscriptions, concerns label = some sub.id then none
      else (System.step config state.core label).map fun core ↦ { state with core }

variable {config : Config} {state next : InProcess} {label : InProcessLabel}

inductive Moves (config : Config) (state : InProcess) : InProcessLabel → InProcess → Prop
  | bus {label : Label} {core : System} (stepped : System.step config state.core label = some core)
      (apart : ∀ sub ∈ state.subscriptions, concerns label ≠ some sub.id) :
      Moves config state (.core label) { state with core }
  | subscribe {label : InProcessLabel} {id pattern : String} {bus : Bus}
      (fresh : id ∉ state.core.bus.usedIds)
      (subscribed : state.core.bus.subscribe (entry id pattern) = .ok bus)
      (stepped : System.step config state.core (.subscribe (entry id pattern)) =
        some { state.core with bus }) :
      Moves config state label { core := { state.core with bus }
                                 subscriptions := state.subscriptions ++
                                   [⟨id, pattern, .receiving, [], true⟩] }
  | client {label : InProcessLabel} {k : ℕ} {sub sub' : Bridged} (at_k : state.subscriptions[k]? = some sub)
      (same : sub'.id = sub.id ∧ sub'.pattern = sub.pattern)
      (bridge : sub'.bridge = .finished → sub.bridge = .finished)
      (queue : ∀ message ∈ sub'.queue, message ∈ sub.queue ∨ sub.bridge = .sending message)
      (sending : ∀ message, sub'.bridge = .sending message → sub.bridge = .sending message) :
      Moves config state label (state.setSubscription k sub')
  | receive {label : InProcessLabel} {k : ℕ} {sub : Bridged} {event : DispatchedEvent} {core : System}
      (at_k : state.subscriptions[k]? = some sub)
      (queued : event ∈ (state.core.bus.channels sub.id).queue)
      (stepped : System.step config state.core (.receive sub.id) = some core) :
      Moves config state label { state.setSubscription k { sub with
        bridge := .sending ⟨event.subject, event.payload, event.replySubject⟩ } with core }
  | finish {label : InProcessLabel} {k : ℕ} {sub : Bridged} {core : System}
      (at_k : state.subscriptions[k]? = some sub)
      (stepped : System.step config state.core (.closeChannel sub.id) = some core) :
      Moves config state label { state.setSubscription k { sub with bridge := .finished } with core }

theorem moves_of_step (hstep : step config state label = some next) : next = state ∨
    Moves config state label next := by
  cases label with
  | subscribe id pattern =>
    obtain ⟨result, hresult, rfl⟩ := Option.map_eq_some_iff.mp hstep
    obtain ⟨hfresh, rfl | ⟨bus, hbus, rfl⟩⟩ := System.register_eq hresult
    · exact .inl rfl
    · refine .inr (.subscribe hfresh hbus ?_)
      exact Option.map_eq_some_iff.mpr ⟨_, hresult, rfl⟩
  | next k =>
    obtain ⟨sub, hat, hsub⟩ := Option.bind_eq_some_iff.mp hstep
    split_ifs at hsub
    cases hsub
    exact .inr (.client hat ⟨rfl, rfl⟩ id (fun _ hmem ↦ .inl (List.mem_of_mem_tail hmem))
      fun _ ↦ id)
  | drop k =>
    obtain ⟨sub, hat, hsub⟩ := Option.bind_eq_some_iff.mp hstep
    split_ifs at hsub
    cases hsub
    exact .inr (.client hat ⟨rfl, rfl⟩ id (fun _ hmem ↦ absurd hmem List.not_mem_nil) fun _ ↦ id)
  | bridgeReceive k =>
    obtain ⟨sub, hat, hsub⟩ := Option.bind_eq_some_iff.mp hstep
    split at hsub
    · rename_i event rest _ hqueue
      obtain ⟨core, hcore, rfl⟩ := Option.map_eq_some_iff.mp hsub
      exact .inr (.receive hat (hqueue ▸ List.mem_cons_self) hcore)
    · cases hsub
  | bridgeSend k =>
    obtain ⟨sub, hat, hsub⟩ := Option.bind_eq_some_iff.mp hstep
    split at hsub
    · rename_i message hbridge
      split_ifs at hsub with hdropped
      · obtain ⟨core, hcore, rfl⟩ := Option.map_eq_some_iff.mp hsub
        exact .inr (.finish hat hcore)
      · cases hsub
        refine .inr (.client hat ⟨rfl, rfl⟩ nofun (fun other hmem ↦ ?_) nofun)
        obtain hold | rfl := mem_of_concat hmem
        · exact .inl hold
        · exact .inr hbridge
    · cases hsub
  | core label =>
    simp only [step] at hstep
    split_ifs at hstep with hconcerns
    obtain ⟨core, hcore, rfl⟩ := Option.map_eq_some_iff.mp hstep
    exact .inr (.bus hcore fun sub hmem heq ↦ hconcerns ⟨sub, hmem, heq⟩)

/-- The bus knows the subscription; once its task has ended, nothing reaches it any more. -/
structure Kept (core : System) (sub : Bridged) : Prop where
  holds : core.bus.Holds (entry sub.id sub.pattern)
  closed : sub.bridge = .finished → (core.bus.channels sub.id).isOpen = false

variable {core after : System}

theorem Kept.step {label : Label} {sub : Bridged} (h : Kept core sub)
    (hstep : System.step config core label = some after) (hlabel : label ≠ .unsubscribe sub.id) :
    Kept after sub where
  holds := System.holds_of_step hstep hlabel h.holds
  closed hfinished := System.closed_of_step hstep h.holds.used (h.closed hfinished)

/-- What holds of the bus and of every subscription a client made. -/
structure Sound (state : InProcess) : Prop where
  index : state.core.bus.DistinctIndex
  kept : ∀ sub ∈ state.subscriptions, Kept state.core sub

theorem sound_start (store : InMemoryEventStore) (clock : ℕ) : Sound (start store clock) where
  index := Bus.distinctIndex_onStore store clock
  kept := by simp [start]

theorem distinctIndex_of_step {label : Label} (hstep : System.step config core label = some after)
    (h : core.bus.DistinctIndex) : after.bus.DistinctIndex := (System.registers_of_step hstep).distinctIndex h

theorem Sound.moves (h : state.Sound) (hmoves : Moves config state label next) : next.Sound := by
  have hset {k : ℕ} {sub sub' : Bridged} (hat : state.subscriptions[k]? = some sub) {core : System}
      (hkept : ∀ other ∈ state.subscriptions, Kept core other) (hsub : Kept core sub') :
      ∀ other ∈ state.subscriptions.set k sub', Kept core other := by
    intro other hother
    obtain hold | rfl := List.mem_or_eq_of_mem_set hother
    · exact hkept other hold
    · exact hsub
  cases hmoves with
  | bus stepped apart =>
    refine ⟨distinctIndex_of_step stepped h.index, fun sub hsub ↦ (h.kept sub hsub).step stepped ?_⟩
    rintro rfl
    exact apart sub hsub rfl
  | @subscribe label id pattern bus fresh subscribed =>
    obtain ⟨index, hindex, rfl⟩ := Bus.subscribe_ok subscribed
    refine ⟨h.index.subscribe fresh hindex rfl rfl, fun sub hsub ↦ ?_⟩
    obtain hold | rfl := mem_of_concat hsub
    · have hkept := h.kept sub hold
      refine ⟨hkept.holds.subscribe hindex, fun hfinished ↦ ?_⟩
      have hne : (entry id pattern).id ≠ sub.id := fun heq ↦
        by
        simp only [entry] at heq
        exact fresh (heq ▸ hkept.holds.used)
      exact Bus.setChannel_closed (hkept.closed hfinished) fun heq ↦ absurd heq hne
    · exact ⟨Bus.holds_of_subscribe subscribed, nofun⟩
  | client at_k same bridge =>
    have hkept := h.kept _ (List.mem_of_getElem? at_k)
    refine ⟨h.index, hset at_k h.kept ⟨?_, ?_⟩⟩
    · rw [same.1, same.2]
      exact hkept.holds
    · rw [same.1]
      exact fun hfinished ↦ hkept.closed (bridge hfinished)
  | receive at_k queued stepped =>
    have hafter : ∀ other ∈ state.subscriptions, Kept _ other := fun other hother ↦
      (h.kept other hother).step stepped nofun
    have hsub := hafter _ (List.mem_of_getElem? at_k)
    exact ⟨distinctIndex_of_step stepped h.index, hset at_k hafter ⟨hsub.holds, nofun⟩⟩
  | @finish label k sub core at_k stepped =>
    have hafter : ∀ other ∈ state.subscriptions, Kept core other := fun other hother ↦
      (h.kept other hother).step stepped nofun
    have hsub := hafter _ (List.mem_of_getElem? at_k)
    refine ⟨distinctIndex_of_step stepped h.index, hset at_k hafter ⟨hsub.holds, fun _ ↦ ?_⟩⟩
    obtain rfl := Option.some.inj stepped
    simp [Bus.setChannel, Channel.close]

theorem sound_of_reach {guard : InProcess → InProcessLabel → Prop} {store : InMemoryEventStore}
    {clock : ℕ} (hreach : Steps.Reach (step config) guard (start store clock) state) :
    state.Sound := by
  induction hreach with
  | init => exact sound_start store clock
  | next _ _ hstep ih =>
    obtain rfl | hmoves := moves_of_step hstep
    · exact ih
    · exact ih.moves hmoves

/-- A fan-out that reaches a closed channel records a failure, plans a retry and ends as partial. -/
theorem step_of_closed {input : DispatchInput} {bus : Bus} {d : Dispatch} {id : String}
    {sender : Bool} {todo : List (String × Bool)} (hstage : d.stage = .fanOut ((id, sender) :: todo))
    (hclosed : (bus.channels id).isOpen = false) :
    (d.step config input bus).2.finalStatus = .partiallyDelivered ∧
    ∃ report, (d.step config input bus).2.stage = .record report (.fanOut todo) ∧
      report.subscriberId = id ∧ report.status = .failed ∧ report.nextRetry.isSome := by
  have hfailed : (bus.asyncAttempt id sender d.event).status = .failed ∧
      (bus.asyncAttempt id sender d.event).dropped = false := by
    unfold Bus.asyncAttempt Bus.sendResult
    split_ifs
    · rw [Bus.trySend_of_closed hclosed]
      exact ⟨rfl, rfl⟩
    · exact ⟨rfl, rfl⟩
  simp [Dispatch.step, hstage, Dispatch.finishAttempt, Dispatch.finalStatus, Dispatch.reportOf,
    hfailed.1, hfailed.2]

/-- The index has no entry of the subscription, and no fan-out records a failure on its account. -/
structure HasLeft (config : Config) (bus : Bus) (id : String) : Prop where
  unlisted : ∀ entry ∈ bus.index.list none, entry.id ≠ id
  spared : ∀ (d : Dispatch) (input : DispatchInput) (sender : Bool) (todo : List (String × Bool)),
    d.stage = .fanOut ((id, sender) :: todo) →
    ∀ report rest, (d.step config input bus).2.stage = .record report rest → report.status ≠ .failed

/-- A subscription that was dropped, and whose task has ended, never leaves the bus.  Its entry is
found for every subject its pattern matches, and each time a dispatch gets to it a failure is
recorded, a retry planned and the event partially delivered. -/
theorem dropped_never_leaves {store : InMemoryEventStore} {clock : ℕ}
    (hreach : Steps.Reach (step config) (fun _ _ ↦ True) (start store clock) state) {sub : Bridged}
    (hsub : sub ∈ state.subscriptions) (hfinished : sub.bridge = .finished) :
    ¬ HasLeft config state.core.bus sub.id ∧
    (∀ subject, patternMatches (tokens sub.pattern) (tokens subject) = true →
      entry sub.id sub.pattern ∈ state.core.bus.index.lookup subject) ∧
    ∀ (d : Dispatch) (input : DispatchInput) (sender : Bool) (todo : List (String × Bool)),
      d.stage = .fanOut ((sub.id, sender) :: todo) →
      (d.step config input state.core.bus).2.finalStatus = .partiallyDelivered ∧
      ∃ report, (d.step config input state.core.bus).2.stage = .record report (.fanOut todo) ∧
        report.subscriberId = sub.id ∧ report.status = .failed ∧ report.nextRetry.isSome := by
  have hsound := sound_of_reach hreach
  have hkept := hsound.kept sub hsub
  refine ⟨fun hleft ↦ hleft.unlisted _ hkept.holds.listed rfl, fun subject hmatches ↦ ?_,
    fun d input sender todo hstage ↦ step_of_closed hstage (hkept.closed hfinished)⟩
  obtain ⟨live, hlive, _⟩ := hsound.index
  exact hlive.mem_lookup_iff.mpr ⟨hlive.walk.mem_iff.mp hkept.holds.listed, hmatches⟩

/-- A dispatch of an event with one asynchronous subscriber, from its lookup to its return. -/
def dispatchTurns (i : ℕ) : List InProcessLabel :=
  List.replicate 7 (.core (.turn i .panicked))

/-- Two events on the subject of a subscription that was dropped before them. -/
def afterDrop : List InProcessLabel :=
  [.subscribe "s" "a.*", .drop 0, .core (.publishByte "a.b" 1)] ++ dispatchTurns 0 ++
    [.bridgeReceive 0, .bridgeSend 0, .core (.publishByte "a.b" 2)] ++ dispatchTurns 1

/-- The second event ends partially delivered on account of the dropped subscription. -/
theorem dropped_never_leaves_afterDrop :
    ∃ (state : InProcess) (sub : Bridged),
      Steps.Reach (step (.plain 3)) (fun _ _ ↦ True) (start .empty 0) state ∧
      sub ∈ state.subscriptions ∧ sub.isOpen = false ∧ sub.bridge = .finished ∧
      ¬ HasLeft (.plain 3) state.core.bus sub.id := by
  have hrun : ∃ state ∈ Steps.execute (step (.plain 3)) (start .empty 0) afterDrop,
      ∃ sub ∈ state.subscriptions, sub.isOpen = false ∧ sub.bridge = .finished := by
    decide +kernel
  obtain ⟨state, hstate, sub, hsub, hdropped, hfinished⟩ := hrun
  have hreach := Steps.reach_of_execute
    (Steps.guarded_of_forall (fun _ _ ↦ trivial) _ _) hstate
  exact ⟨state, sub, hreach, hsub, hdropped, hfinished,
    (dropped_never_leaves hreach hsub hfinished).1⟩

/-- A dropped subscription stays in the index, and the second event published after the drop ends
partially delivered with a retry planned for it. -/
theorem dropped_subscription_not_left :
    ∃ state, Steps.Reach (step (.plain 3)) (fun _ _ ↦ True) (start .empty 0) state ∧
      (∃ sub ∈ state.subscriptions, sub.id = "s" ∧ sub.isOpen = false ∧ sub.bridge = .finished) ∧
      (∃ entry ∈ state.core.bus.index.list none, entry.id = "s") ∧
      ∃ event ∈ state.core.bus.store.events, event.seq = 2 ∧ event.status = .partiallyDelivered ∧
        ∃ record ∈ event.deliveries, record.subscriberId = "s" ∧ record.status = .failed ∧
          record.nextRetry.isSome := by
  have hrun : ∃ state ∈ Steps.execute (step (.plain 3)) (start .empty 0) afterDrop,
      (∃ sub ∈ state.subscriptions, sub.id = "s" ∧ sub.isOpen = false ∧ sub.bridge = .finished) ∧
      (∃ entry ∈ state.core.bus.index.list none, entry.id = "s") ∧
      ∃ event ∈ state.core.bus.store.events, event.seq = 2 ∧ event.status = .partiallyDelivered ∧
        ∃ record ∈ event.deliveries, record.subscriberId = "s" ∧ record.status = .failed ∧
          record.nextRetry.isSome := by
    decide +kernel
  obtain ⟨state, hstate, hrest⟩ := hrun
  exact ⟨state, Steps.reach_of_execute (Steps.guarded_of_forall (fun _ _ ↦ trivial) _ _) hstate,
    hrest⟩

end InProcess

end Seidrum.Client
