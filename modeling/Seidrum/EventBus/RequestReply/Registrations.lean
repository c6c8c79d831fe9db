import Seidrum.EventBus.RequestReply.Exchange
import Seidrum.EventBus.Dispatch.SubjectIndexSpec

/-!
# Registrations

Senders, interceptors and the subject index are updated separately.  Over all steps of the exchange
their keys stay in agreement, and a request takes its one-shot subscription out of all three when it
ends, unless its future is dropped before.
-/

namespace Seidrum.EventBus

open Seidrum.Foundation

namespace Bus

/-- The senders, the interceptors and the index agree on who is registered. -/
structure KeysMatch (bus : Bus) : Prop where
  apart : ∀ id ∈ bus.senders, id ∉ bus.interceptors
  indexed : ∀ id, (∃ entry ∈ bus.index.list none, entry.id = id) ↔
    id ∈ bus.senders ∨ id ∈ bus.interceptors

/-- The subscription is in one of the three structures. -/
def Registered (id : String) (bus : Bus) : Prop :=
  id ∈ bus.senders ∨ id ∈ bus.interceptors ∨ ∃ entry ∈ bus.index.list none, entry.id = id

/-- Only ids that were given out are registered. -/
def RegisteredUsed (bus : Bus) : Prop := ∀ id, bus.Registered id → id ∈ bus.usedIds

/-- Ids given out before are not registered anew. -/
structure RegistersFresh (bus next : Bus) : Prop where
  used : ∀ id ∈ bus.usedIds, id ∈ next.usedIds
  registered : ∀ id, next.Registered id → bus.Registered id ∨
    id ∉ bus.usedIds ∧ id ∈ next.usedIds

variable {bus next : Bus}

theorem RegistersFresh.registeredUsed (h : bus.RegistersFresh next) (hused : bus.RegisteredUsed) :
    next.RegisteredUsed := by
  intro id hid
  obtain hold | hnew := h.registered id hid
  · exact h.used id (hused id hold)
  · exact hnew.2

variable {id : String}

theorem RegistersFresh.not_registered (h : bus.RegistersFresh next) (hused : id ∈ bus.usedIds)
    (hout : ¬bus.Registered id) : ¬next.Registered id := by
  intro hid
  obtain hold | hnew := h.registered id hid
  · exact hout hold
  · exact hnew.1 hused

theorem keysMatch_onStore (store : InMemoryEventStore) (clock : ℕ) :
    (onStore store clock).KeysMatch := by
  constructor
  · simp [onStore]
  · intro id
    simp [onStore, SubjectIndex.list, SubjectIndex.new, TrieNode.collectAll_eq_filter]

/-! ## Each change of the registrations -/

theorem KeepsRegistry.keysMatch (hkeeps : bus.KeepsRegistry next) (h : bus.KeysMatch) :
    next.KeysMatch := by
  constructor
  · rw [hkeeps.senders, hkeeps.interceptors]
    exact h.apart
  · rw [hkeeps.index, hkeeps.senders, hkeeps.interceptors]
    exact h.indexed

theorem KeepsRegistry.registersFresh (hkeeps : bus.KeepsRegistry next) :
    bus.RegistersFresh next := by
  constructor
  · rw [hkeeps.usedIds]
    exact fun _ hid ↦ hid
  · intro id hid
    rw [Registered, hkeeps.index, hkeeps.senders, hkeeps.interceptors] at hid
    exact .inl hid

/-- A registration under a fresh id, as a sender or as an interceptor. -/
structure Registers (entry : SubscriptionEntry) (bus next : Bus) : Prop where
  fresh : entry.id ∉ bus.usedIds
  subscribed : bus.index.subscribe entry = .ok next.index
  maps : next.senders = entry.id :: bus.senders ∧ next.interceptors = bus.interceptors ∨
    next.senders = bus.senders ∧ next.interceptors = entry.id :: bus.interceptors
  usedIds : next.usedIds = entry.id :: bus.usedIds

variable {entry : SubscriptionEntry}

theorem Registers.mem_maps (h : Registers entry bus next) (id : String) :
    (id ∈ next.senders ∨ id ∈ next.interceptors) ↔
      id = entry.id ∨ id ∈ bus.senders ∨ id ∈ bus.interceptors := by
  obtain ⟨hsenders, hinterceptors⟩ | ⟨hsenders, hinterceptors⟩ := h.maps
  · rw [hsenders, hinterceptors, List.mem_cons, or_assoc]
  · rw [hsenders, hinterceptors, List.mem_cons, or_left_comm]

theorem Registers.mem_index (h : Registers entry bus next) (id : String) :
    (∃ other ∈ next.index.list none, other.id = id) ↔
      id = entry.id ∨ ∃ other ∈ bus.index.list none, other.id = id := by
  simp only [SubjectIndex.mem_list_subscribe h.subscribed, or_and_right, exists_or, exists_eq_left]
  exact or_congr_left eq_comm

theorem Registers.keysMatch (h : Registers entry bus next) (hused : bus.RegisteredUsed)
    (hkeys : bus.KeysMatch) : next.KeysMatch := by
  have hsender : entry.id ∉ bus.senders := fun hmem ↦ h.fresh (hused _ (.inl hmem))
  have hinterceptor : entry.id ∉ bus.interceptors := fun hmem ↦
    h.fresh (hused _ (.inr (.inl hmem)))
  constructor
  · obtain ⟨hsenders, hinterceptors⟩ | ⟨hsenders, hinterceptors⟩ := h.maps
    · rw [hsenders, hinterceptors]
      rintro id (_ | ⟨_, hid⟩)
      · exact hinterceptor
      · exact hkeys.apart id hid
    · rw [hsenders, hinterceptors]
      intro id hid hmem
      obtain rfl | hmem := List.mem_cons.mp hmem
      · exact hsender hid
      · exact hkeys.apart id hid hmem
  · intro id
    rw [h.mem_maps, h.mem_index, hkeys.indexed]

theorem Registers.registersFresh (h : Registers entry bus next) : bus.RegistersFresh next := by
  constructor
  · intro id hid
    rw [h.usedIds]
    exact List.mem_cons_of_mem _ hid
  · intro id hid
    have hid' : id = entry.id ∨ bus.Registered id := by
      unfold Registered at hid ⊢
      rw [← or_assoc, h.mem_maps, h.mem_index] at hid
      tauto
    obtain rfl | hold := hid'
    · exact .inr ⟨h.fresh, h.usedIds ▸ List.mem_cons_self⟩
    · exact .inl hold

theorem not_registered_unsubscribe (id : String) (bus : Bus) :
    ¬(bus.unsubscribe id).Registered id := by
  unfold Registered unsubscribe
  simp [SubjectIndex.mem_list_unsubscribe]

theorem registered_unsubscribe {other : String} (h : (bus.unsubscribe id).Registered other) :
    bus.Registered other := by
  obtain hsender | hinterceptor | ⟨entry, hentry, hid⟩ := h
  · exact .inl (List.mem_of_mem_filter hsender)
  · exact .inr (.inl (List.mem_of_mem_filter hinterceptor))
  · exact .inr (.inr ⟨entry, (SubjectIndex.mem_list_unsubscribe.mp hentry).1, hid⟩)

theorem unsubscribe_keysMatch (id : String) (h : bus.KeysMatch) :
    (bus.unsubscribe id).KeysMatch := by
  constructor
  · intro other hother hmem
    exact h.apart other (List.mem_of_mem_filter hother) (List.mem_of_mem_filter hmem)
  · intro other
    have hbefore := h.indexed other
    simp only [unsubscribe, SubjectIndex.mem_list_unsubscribe, List.mem_filter, decide_eq_true_eq]
    constructor
    · rintro ⟨entry, ⟨hentry, hne⟩, rfl⟩
      exact (hbefore.mp ⟨entry, hentry, rfl⟩).imp (⟨·, hne⟩) (⟨·, hne⟩)
    · intro hmem
      have hne : other ≠ id := by rcases hmem with ⟨_, hne⟩ | ⟨_, hne⟩ <;> exact hne
      obtain ⟨entry, hentry, rfl⟩ := hbefore.mpr (hmem.imp And.left And.left)
      exact ⟨entry, ⟨hentry, hne⟩, rfl⟩

theorem unsubscribe_registersFresh (id : String) : bus.RegistersFresh (bus.unsubscribe id) :=
  ⟨fun _ hid ↦ hid, fun _ hid ↦ .inl (registered_unsubscribe hid)⟩

theorem RegistersFresh.trans {middle : Bus} (h : bus.RegistersFresh middle)
    (h' : middle.RegistersFresh next) : bus.RegistersFresh next := by
  constructor
  · exact fun id hid ↦ h'.used id (h.used id hid)
  · intro id hid
    obtain hmiddle | hfresh := h'.registered id hid
    · obtain hold | hnew := h.registered id hmiddle
      · exact .inl hold
      · exact .inr ⟨hnew.1, h'.used id hnew.2⟩
    · exact .inr ⟨fun hused ↦ hfresh.1 (h.used id hused), hfresh.2⟩

/-- What a step does to the registrations: nothing, one registration, or one unsubscription. -/
inductive Registering (bus next : Bus) : Prop
  | keeps (keeps : bus.KeepsRegistry next)
  | registers {entry : SubscriptionEntry} (registers : Registers entry bus next)
  | unsubscribe (id : String) (keeps : (bus.unsubscribe id).KeepsRegistry next)

theorem Registering.keysMatch (h : Registering bus next) (hused : bus.RegisteredUsed)
    (hkeys : bus.KeysMatch) : next.KeysMatch := by
  cases h with
  | keeps keeps => exact keeps.keysMatch hkeys
  | registers registers => exact registers.keysMatch hused hkeys
  | unsubscribe id keeps => exact keeps.keysMatch (unsubscribe_keysMatch _ hkeys)

theorem Registering.registersFresh (h : Registering bus next) : bus.RegistersFresh next := by
  cases h with
  | keeps keeps => exact keeps.registersFresh
  | registers registers => exact registers.registersFresh
  | unsubscribe id keeps => exact (unsubscribe_registersFresh _).trans keeps.registersFresh

theorem publishEvent_keepsRegistry {intercepting : Option String} {subject : String}
    {payload : Payload} {replySubject : Option String} {storeError : Option StorageError}
    {d : Dispatch}
    (h : bus.publishEvent intercepting subject payload replySubject storeError = .ok (next, d)) :
    bus.KeepsRegistry next := by
  obtain ⟨-, _, rfl⟩ | ⟨-, _, rfl⟩ := publishEvent_ok h
  all_goals exact ⟨rfl, rfl, rfl, rfl⟩

end Bus

theorem System.Registers.registering {system next : System} (h : System.Registers system next) :
    system.bus.Registering next.bus := by
  cases h with
  | keeps registry => exact .keeps registry
  | subscribe forwarded fresh subscribed webhook bus =>
    exact .registers ⟨fresh, by rw [bus]; exact subscribed, .inl (by rw [bus]; exact ⟨rfl, rfl⟩),
      by rw [bus]⟩
  | @intercept id subjectPattern priority timeout index fresh subscribed bus =>
    have hregisters : Bus.Registers (Bus.interceptorEntry id subjectPattern priority timeout)
        system.bus next.bus := by
      refine ⟨fresh, ?_, .inr ?_, ?_⟩ <;> rw [bus]
      · exact subscribed
      · exact ⟨rfl, rfl⟩
      · rfl
    exact .registers hregisters
  | unsubscribe id bus => exact .unsubscribe id (bus ▸ ⟨rfl, rfl, rfl, rfl⟩)

namespace Exchange

variable {config : Config} {state next : Exchange} {r : ℕ} {request : Request} {move : RequestMove}
  {stage : RequestStage}

theorem RequestChange.registering (h : RequestChange state r request move stage next) :
    state.core.bus.Registering next.core.bus := by
  cases h with
  | publish stage accepted => exact .keeps (Bus.publishEvent_keepsRegistry accepted)
  | refused | published | receive | giveUp | dropReceiver | drop =>
    exact .keeps ⟨rfl, rfl, rfl, rfl⟩
  | cleanUp => exact .unsubscribe request.id ⟨rfl, rfl, rfl, rfl⟩

theorem bridgeEvent_core (j : ℕ) (server : Server) (event : DispatchedEvent) (state : Exchange) :
    (state.bridgeEvent j server event).core = state.core := by
  unfold bridgeEvent
  split
  · rfl
  · split_ifs <;> rfl

theorem ServerChange.registering {j : ℕ} {server : Server} (h : ServerChange state j server next) :
    state.core.bus.Registering next.core.bus := by
  cases h with
  | bridge => exact .keeps (by rw [bridgeEvent_core]; exact ⟨rfl, rfl, rfl, rfl⟩)
  | keeps | exit | accept => exact .keeps ⟨rfl, rfl, rfl, rfl⟩
  | cleanUp => exact .unsubscribe server.id ⟨rfl, rfl, rfl, rfl⟩

theorem Change.registering {label : ExchangeLabel} (h : Change config state label next) :
    state.core.bus.Registering next.core.bus := by
  cases h with
  | refused | replay | replyRefused => exact .keeps ⟨rfl, rfl, rfl, rfl⟩
  | core allowed stepped => exact (System.registers_of_step stepped).registering
  | publish free accepted => exact .keeps (Bus.publishEvent_keepsRegistry accepted)
  | request fresh registered =>
    simp only [freshRequest, Bool.and_eq_true, decide_eq_true_eq] at fresh
    exact .registers ⟨fresh.1.1.1.2, registered, .inl ⟨rfl, rfl⟩, rfl⟩
  | ofRequest at_r change => exact change.registering
  | serve fresh subscribed => exact .registers ⟨fresh, subscribed, .inl ⟨rfl, rfl⟩, rfl⟩
  | ofServer at_j change => exact change.registering
  | reply at_k accepted unsent published =>
    exact .keeps (Bus.publishEvent_keepsRegistry published)

/-- In every run, whatever happens to the requests, the senders, the interceptors and the index
agree. -/
theorem keysMatch_of_reach {guard : Exchange → ExchangeLabel → Prop} {store : InMemoryEventStore}
    {clock : ℕ} (hreach : Steps.Reach (step config) guard (build store clock) state) :
    state.core.bus.KeysMatch ∧ state.core.bus.RegisteredUsed := by
  apply hreach.invariant
  · refine ⟨Bus.keysMatch_onStore store clock, fun id hid ↦ ?_⟩
    obtain hsender | hinterceptor | hindexed := hid
    · cases hsender
    · cases hinterceptor
    · have hkey := ((Bus.keysMatch_onStore store clock).indexed id).mp hindexed
      simp [Bus.onStore] at hkey
  · rintro s label s' ⟨hkeys, hused⟩ _ hstep
    have hregistering := (change_of_step hstep).registering
    exact ⟨hregistering.keysMatch hused hkeys, hregistering.registersFresh.registeredUsed hused⟩

/-- The caller awaits each of its requests to the end. -/
def AwaitsRequests (_ : Exchange) : ExchangeLabel → Prop
  | .ofRequest _ move => move ≠ .drop
  | _ => True

instance (state : Exchange) (label : ExchangeLabel) : Decidable (state.AwaitsRequests label) := by
  cases label <;> unfold AwaitsRequests <;> infer_instance

/-- A request that was given its id keeps it out of later registrations, and once it is over its
one-shot subscription is gone. -/
structure CleanedUp (state : Exchange) (request : Request) : Prop where
  used : request.id ∈ state.core.bus.usedIds
  ended : request.stage.isOver = true → ¬state.core.bus.Registered request.id

theorem CleanedUp.step (h : state.CleanedUp request)
    (hfresh : state.core.bus.RegistersFresh next.core.bus) : next.CleanedUp request where
  used := hfresh.used _ h.used
  ended hover := hfresh.not_registered h.used (h.ended hover)

theorem RequestChange.cleanedUp (hchange : RequestChange state r request move stage next)
    (hawaited : move ≠ .drop) (h : state.CleanedUp request) :
    next.CleanedUp { request with stage } := by
  have hused := hchange.registering.registersFresh.used _ h.used
  cases hchange with
  | cleanUp => exact ⟨hused, fun _ ↦ Bus.not_registered_unsubscribe _ _⟩
  | drop => exact absurd rfl hawaited
  | _ => exact ⟨hused, fun hover ↦ absurd hover (by simp [RequestStage.isOver])⟩

/-- No registration leaks: the senders, the interceptors and the index always agree, and where the
caller awaits its requests, the one-shot subscription of a request that is over is in none of
them. -/
theorem no_leaked_registration {store : InMemoryEventStore} {clock : ℕ}
    (hreach : Steps.Reach (step config) AwaitsRequests (build store clock) state) :
    state.core.bus.KeysMatch ∧
      ∀ request ∈ state.requests, request.stage.isOver = true →
        ¬state.core.bus.Registered request.id := by
  refine ⟨(keysMatch_of_reach hreach).1, ?_⟩
  have hcleaned : ∀ (r : ℕ) (request : Request), state.requests[r]? = some request →
      state.CleanedUp request := by
    apply hreach.invariant
    · simp [build]
    · rintro s label s' ih hguard hstep r request hr
      have hchange := change_of_step hstep
      have hfresh := hchange.registering.registersFresh
      cases hchange.requestAfter hr with
      | kept before _ => exact (ih r request before).step hfresh
      | moved label_eq before change next_eq =>
        subst label_eq next_eq
        have hafter := change.cleanedUp hguard (ih r _ before)
        exact ⟨hafter.used, hafter.ended⟩
      | new label_eq fresh registered core_eq =>
        refine ⟨?_, fun hover ↦ absurd hover (by simp [RequestStage.isOver])⟩
        rw [core_eq]
        exact List.mem_cons_self
  intro request hmem
  obtain ⟨r, hr⟩ := List.mem_iff_getElem?.mp hmem
  exact (hcleaned r request hr).ended

/-- A request on `a` that nobody answers. -/
def unanswered : List ExchangeLabel :=
  [.request ⟨none, "a", [0]⟩ (ulidOf '0') (ulidOf '1'), .ofRequest 0 (.publish none),
    .core (.turn 0 .panicked), .core (.turn 0 .panicked), .ofRequest 0 .published]

/-- A request that times out leaves nothing registered. -/
theorem no_leaked_registration_timedOut :
    ∃ state ∈ Steps.execute (step (.plain 5)) (build .empty 0)
        (unanswered ++ [.ofRequest 0 .timeout, .ofRequest 0 .dropReceiver, .ofRequest 0 .cleanUp]),
      state.core.bus.KeysMatch ∧
        ∀ request ∈ state.requests, request.stage.isOver = true →
          ¬state.core.bus.Registered request.id := by
  have hexecute : (Steps.execute (step (.plain 5)) (build .empty 0)
      (unanswered ++ [.ofRequest 0 .timeout, .ofRequest 0 .dropReceiver,
        .ofRequest 0 .cleanUp])).isSome = true := by
    decide +kernel
  obtain ⟨state, hstate⟩ := Option.isSome_iff_exists.mp hexecute
  exact ⟨state, hstate,
    no_leaked_registration (Steps.reach_of_execute (by decide +kernel) hstate)⟩

/-- A request whose future is dropped while it waits leaves its one-shot subscription behind. -/
theorem droppedRequest_stays_registered :
    ∃ state ∈ Steps.execute (step (.plain 5)) (build .empty 0)
        (unanswered ++ [.ofRequest 0 .drop]),
      ∃ request ∈ state.requests, request.stage.isOver = true ∧
        request.id ∈ state.core.bus.senders ∧
        ∃ entry ∈ state.core.bus.index.list none, entry.id = request.id := by
  decide +kernel

end Exchange

end Seidrum.EventBus
