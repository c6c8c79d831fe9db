import Seidrum.Client.Answered
import Seidrum.Client.Tracked

/-!
# Subscriptions across connections

A subscription gets the events the server sends for it if it is in the registry when they are read;
it is bound again after a reconnect if it was there when the manager read the active patterns; and
the server gives it up if its id was known when it was taken out.  Each of the three fails in the
order that the condition names, and nowhere else.
-/

namespace Seidrum.Client

open Seidrum.Foundation Seidrum.EventBus

/-- The server's id an event is for. -/
def eventId : ServerMessage → Option String
  | .event _ _ _ subscriptionId => some subscriptionId
  | _ => none

/-- The correlation id a confirmation carries. -/
def confirmedCid : ServerMessage → Option String
  | .subscribed _ cid => cid
  | _ => none

instance (call : Call) : Decidable call.Registered :=
  decidable_of_iff ((match call.call with | .subscribe _ => true | _ => false) = true ∧
      call.stage = .returned (.ok none)) <| by
    unfold Call.Registered
    cases call.call <;> simp

namespace Session

variable {env : SessionEnv} {state next : Session} {label : SessionLabel}

instance (state : Session) (stableId : String) : Decidable (state.Registered stableId) := by
  unfold Registered
  infer_instance

/-- The subscriptions the manager makes again: still to do, on the way to the server, or confirmed. -/
def resubscribing (state : Session) : List String :=
  state.manager.todo.map Prod.fst ++
    ((state.toServer.filterMap fun operation ↦ (subscribeCid operation).bind resubscribeTarget) ++
      state.toClient.filterMap fun message ↦ (confirmedCid message).bind resubscribeTarget)

/-- The subscriptions that an id of the connection was given out for. -/
def owners (state : Session) (id : String) : List String :=
  state.answered (state.issued.filter (·.1 = id))

/-- An event is read when its subscription is registered; when the active patterns are read, what was
told is registered; the server takes what is subscribed again; and what is being subscribed again is
not unsubscribed. -/
def Orderly (env : SessionEnv) (state : Session) : SessionLabel → Prop
  | .read => ∀ message ∈ state.toClient.head?, ∀ id ∈ eventId message, ∀ stableId ∈ state.owners id,
      stableId ∈ state.unsubscribed ∨ state.Registered stableId
  | .snapshot _ => ∀ call ∈ state.calls, (state.told call.cid).isSome = true →
      call.stage.isReturned = true
  | .serve bus => ∀ operation ∈ state.toServer.head?, ∀ cid ∈ subscribeCid operation,
      (resubscribeTarget cid).isSome = true → state.connection.accepts env.base64 bus operation = true
  | .unsubscribe stableId => stableId ∉ state.resubscribing
  | _ => True

instance (env : SessionEnv) (state : Session) (label : SessionLabel) :
    Decidable (Orderly env state label) := by
  induction label using SessionLabel.casesOn <;> dsimp only [Orderly] <;> infer_instance

/-- The manager is connected, and nothing it subscribed again is under way any more. -/
structure Reconnected (state : Session) : Prop where
  manager : state.manager = .running []
  done : state.resubscribing = []

/-- No frame is under way, and no command waits. -/
structure Drained (state : Session) : Prop where
  leaving : state.leaving = []
  queue : state.queue = []
  toServer : state.toServer = []
  toClient : state.toClient = []

variable {stableId pattern cid : String} {priority : ℕ} {todo : List (String × String)}
  {rest : List ServerMessage} {call : Call} {id : String}

theorem mem_resubscribing :
    stableId ∈ state.resubscribing ↔
      stableId ∈ state.manager.todo.map Prod.fst ∨
      (∃ pattern priority cid, .subscribe pattern priority (some cid) ∈ state.toServer ∧
        resubscribeTarget cid = some stableId) ∨
      ∃ id cid, .subscribed id (some cid) ∈ state.toClient ∧
        resubscribeTarget cid = some stableId := by
  simp only [resubscribing, List.mem_append, List.mem_filterMap, Option.bind_eq_some_iff]
  refine or_congr_right (or_congr ⟨?_, ?_⟩ ⟨?_, ?_⟩)
  · rintro ⟨operation, hmem, cid, hcid, htarget⟩
    cases operation with
    | subscribe pattern priority c =>
      obtain rfl : c = some cid := hcid
      exact ⟨pattern, priority, cid, hmem, htarget⟩
    | _ => simp [subscribeCid] at hcid
  · rintro ⟨pattern, priority, cid, hmem, htarget⟩
    exact ⟨_, hmem, cid, rfl, htarget⟩
  · rintro ⟨message, hmem, cid, hcid, htarget⟩
    cases message with
    | subscribed id c =>
      obtain rfl : c = some cid := hcid
      exact ⟨id, cid, hmem, htarget⟩
    | _ => simp [confirmedCid] at hcid
  · rintro ⟨id, cid, hmem, htarget⟩
    exact ⟨_, hmem, cid, rfl, htarget⟩

theorem Tracked.target_of_queue (h : Tracked state)
    (hmem : .subscribe pattern priority (some cid) ∈ state.queue) : resubscribeTarget cid = none := by
  obtain ⟨cid', hcid, heq⟩ := h.lawful.queued _ hmem _ _ _ rfl
  cases heq
  exact resubscribeTarget_of_isUlid (h.identified.generated cid (List.mem_append_left _ hcid)).1

/-- What is being subscribed again was so before, or is in the registry when the manager reads the
active patterns. -/
theorem Change.resubscribingAfter (hchange : Change env state label next) (h : Tracked state)
    (hmem : stableId ∈ next.resubscribing) :
    stableId ∈ state.resubscribing ∨ state.subscribers.Holds stableId := by
  have hkept (htodo : next.manager.todo ⊆ state.manager.todo)
      (hserver : next.toServer ⊆ state.toServer) (hclient : next.toClient ⊆ state.toClient) :
      stableId ∈ state.resubscribing ∨ state.subscribers.Holds stableId := by
    left
    rw [mem_resubscribing] at hmem ⊢
    rcases hmem with hhere | ⟨pattern, priority, cid, hsent, htarget⟩ | ⟨id, cid, hsent, htarget⟩
    · exact .inl (List.map_subset _ htodo hhere)
    · exact .inr (.inl ⟨pattern, priority, cid, hserver hsent, htarget⟩)
    · exact .inr (.inr ⟨id, cid, hclient hsent, htarget⟩)
  cases hchange with
  | @snapshot order manager perm =>
    rw [mem_resubscribing] at hmem
    rcases hmem with hhere | hserver | hclient
    · right
      have hkeys := (perm.map Prod.fst).subset hhere
      rwa [SubscriberRegistry.map_activePatterns h.bindings.consistent] at hkeys
    · exact .inl (mem_resubscribing.mpr (.inr (.inl hserver)))
    · exact .inl (mem_resubscribing.mpr (.inr (.inr hclient)))
  | @resubscribe ulid target pattern todo manager fresh =>
    left
    rw [mem_resubscribing] at hmem ⊢
    rw [manager]
    rcases hmem with hhere | ⟨pattern', priority, cid, hsent, htarget⟩ | hclient
    · exact .inl (List.mem_cons_of_mem _ hhere)
    · rcases List.mem_append.mp hsent with hbefore | hnew
      · exact .inr (.inl ⟨pattern', priority, cid, hbefore, htarget⟩)
      · left
        have hhead : state.Registered target :=
          h.lawful.todo (target, pattern) (by rw [manager]; exact List.mem_cons_self)
        obtain ⟨_, _, hcid⟩ := ClientOperation.subscribe.inj (List.mem_singleton.mp hnew)
        cases hcid
        rw [resubscribeTarget_resubscribeCid (isUlid_of_registered h.identified hhead) ulid] at htarget
        cases htarget
        exact List.mem_cons_self
    · exact .inr (.inr hclient)
  | @send operation rest manager queue =>
    left
    rw [mem_resubscribing] at hmem ⊢
    refine hmem.imp_right (Or.imp_left ?_)
    rintro ⟨pattern, priority, cid, hsent, htarget⟩
    rcases List.mem_append.mp hsent with hbefore | hnew
    · exact ⟨pattern, priority, cid, hbefore, htarget⟩
    · have hqueue : .subscribe pattern priority (some cid) ∈ state.queue :=
        queue ▸ List.mem_singleton.mp hnew ▸ List.mem_cons_self
      simp [h.target_of_queue hqueue] at htarget
  | @serve bus operation rest up toServer short fresh =>
    left
    rw [mem_resubscribing] at hmem ⊢
    rcases hmem with hhere | ⟨pattern, priority, cid, hsent, htarget⟩ | ⟨id, cid, hsent, htarget⟩
    · exact .inl hhere
    · exact .inr (.inl ⟨pattern, priority, cid, toServer ▸ List.mem_cons_of_mem _ hsent, htarget⟩)
    · rcases List.mem_append.mp hsent with hbefore | hnew
      · exact .inr (.inr ⟨id, cid, hbefore, htarget⟩)
      · have hissued : (id, some cid) ∈ issuedIn _ := mem_issuedIn.mpr hnew
        obtain ⟨pattern, priority, rfl⟩ := subscribe_of_mem_issuedIn hissued
        exact .inr (.inl ⟨pattern, priority, cid, toServer ▸ List.mem_cons_self, htarget⟩)
  | @event subscriptionId subject payload replySubject up issued =>
    left
    rw [mem_resubscribing] at hmem ⊢
    refine hmem.imp_right (Or.imp_right ?_)
    rintro ⟨id, cid, hsent, htarget⟩
    rcases List.mem_append.mp hsent with hbefore | hnew
    · exact ⟨id, cid, hbefore, htarget⟩
    · simp at hnew
  | read manager toClient received =>
    have hrest := toClient ▸ List.subset_cons_self _ _
    cases received <;> exact hkept (List.Subset.refl _) (List.Subset.refl _) hrest
  | disconnect up => exact hkept (List.nil_subset _) (List.nil_subset _) (List.nil_subset _)
  | connect | giveUp | connectFails | backoffOver | discard | exit | markDown | failPending
  | clearIds => exact hkept (List.nil_subset _) (List.Subset.refl _) (List.Subset.refl _)
  | _ => exact hkept (List.Subset.refl _) (List.Subset.refl _) (List.Subset.refl _)

/-! ## What a client that is connected keeps -/

/-- The subscription is bound to an id of the connection, or is being made again. -/
def Live (state : Session) (stableId : String) : Prop :=
  stableId ∈ state.resubscribing ∨
    ∃ id, state.subscribers.Bound stableId id ∧ id ∈ state.issued.map Prod.fst

/-- While there is a connection, what the registry holds is live and what calls were told is of that
connection; and what was unsubscribed is not made again, and given up by the server. -/
structure Continued (state : Session) : Prop where
  live : ∀ todo, state.manager = .running todo → ∀ stableId, state.subscribers.Holds stableId →
    state.Live stableId
  told : ∀ todo, state.manager = .running todo → ∀ call ∈ state.calls,
    call.stage.isReturned = false → ∀ id, state.told call.cid = some id →
      id ∈ state.issued.map Prod.fst
  forgotten : ∀ stableId ∈ state.unsubscribed, stableId ∉ state.resubscribing
  held : ∀ id ∈ state.connection.subscriptions.map Prod.fst, id ∈ state.issued.map Prod.fst
  leaves : ∀ stableId ∈ state.unsubscribed, ∀ id cid, (id, some cid) ∈ state.issued →
    state.aim cid = some stableId → id ∈ state.connection.subscriptions.map Prod.fst →
    id ∈ state.leaving ∨ .unsubscribe id none ∈ state.queue ++ state.toServer

theorem continued_start (env : SessionEnv) : Continued (start env) where
  live _ hmanager := by simp [start] at hmanager
  told _ hmanager := by simp [start] at hmanager
  forgotten _ hmem := absurd hmem List.not_mem_nil
  held _ hmem := absurd hmem List.not_mem_nil
  leaves _ hmem := absurd hmem List.not_mem_nil

/-- A manager that moves frames did so before, or has read the active patterns. -/
theorem Change.running (hchange : Change env state label next) (hmanager : next.manager = .running todo) :
    (∃ before, state.manager = .running before) ∨ ∃ order, label = .snapshot order := by
  cases hchange with
  | snapshot => exact .inr ⟨_, rfl⟩
  | resubscribe manager fresh | read manager toClient received => exact .inl ⟨_, manager⟩
  | connect | giveUp | connectFails | backoffOver | discard | exit | disconnect | markDown
  | failPending | clearIds => simp at hmanager
  | _ => exact .inl ⟨_, hmanager⟩

theorem Change.issued_kept (hchange : Change env state label next) (hmanager : next.manager = .running todo) :
    state.issued ⊆ next.issued := by
  cases hchange with
  | read manager toClient received => cases received <;> exact List.Subset.refl _
  | serve => exact List.subset_append_left _ _
  | disconnect => simp at hmanager
  | _ => exact List.Subset.refl _

/-- A resubscription that the server takes is confirmed. -/
theorem served_of_accepts {bus : BusAnswers} {operation : ClientOperation}
    (hshort : env.frameLength operation ≤ maxFrameSize) (hcid : subscribeCid operation = some cid)
    (haccepts : state.connection.accepts env.base64 bus operation = true) :
    ∃ id, .subscribed id (some cid) ∈ (state.served env bus operation).1 := by
  rw [served, Connection.serveFrame, if_neg (not_lt.mpr hshort)]
  cases Connection.outcome env.base64 bus state.connection operation with
  | answered _ answer messages_eq =>
    simp only [messages_eq]
    cases answer with
    | subscribed given =>
      obtain rfl : _ = some cid := hcid
      exact ⟨_, List.mem_singleton_self _⟩
    | _ => simp [subscribeCid] at hcid
  | refused accepts silent => simp [haccepts] at accepts

theorem live_of_snapshot {order : List (String × String)} (hconsistent : state.subscribers.Consistent)
    (hperm : order.Perm state.subscribers.activePatterns) (hholds : state.subscribers.Holds stableId) :
    Live { state with manager := .running order } stableId := by
  have hkeys : stableId ∈ state.subscribers.activePatterns.map Prod.fst := by
    rw [SubscriberRegistry.map_activePatterns hconsistent]
    exact hholds
  exact .inl (mem_resubscribing.mpr (.inl ((hperm.map Prod.fst).symm.subset hkeys)))

/-- A message that is read binds what it confirms, and leaves everything else live. -/
theorem Live.read (h : Tracked state) {message : ServerMessage} (toClient : state.toClient = message :: rest)
    (received : Received env { state with toClient := rest } message next) (hlive : state.Live stableId)
    (hholds : state.subscribers.Holds stableId) : next.Live stableId := by
  have hconsistent := h.bindings.consistent
  have hquiet (hforeign : ∀ id cid, message = .subscribed id (some cid) →
      resubscribeTarget cid = none) (next : Session) (hserver : next.toServer = state.toServer)
      (htodo : next.manager = state.manager) (hclient : next.toClient = rest)
      (hsubscribers : next.subscribers = state.subscribers) (hissued : next.issued = state.issued) :
      next.Live stableId := by
    unfold Live
    rw [hsubscribers, hissued]
    refine hlive.imp_left fun hmem ↦ ?_
    rw [mem_resubscribing, toClient] at hmem
    rw [mem_resubscribing, hserver, htodo, hclient]
    refine hmem.imp_right (Or.imp_right ?_)
    rintro ⟨id, cid, hsent, htarget⟩
    rcases List.mem_cons.mp hsent with hhead | hrest
    · simp [hforeign id cid hhead.symm] at htarget
    · exact ⟨id, cid, hrest, htarget⟩
  cases received with
  | @bound id cid target message_eq htarget =>
    have hconfirmed : .subscribed id (some cid) ∈ state.toClient :=
      toClient ▸ message_eq ▸ List.mem_cons_self
    have hissued := h.wire.confirmed id _ hconfirmed
    by_cases hsame : stableId = target
    · subst hsame
      exact .inr ⟨id, hholds.bindServerId hconsistent id, List.mem_map_of_mem hissued⟩
    · rcases hlive with hmem | ⟨id', hbound, hissued'⟩
      · left
        rw [mem_resubscribing, toClient] at hmem
        rw [mem_resubscribing]
        refine hmem.imp_right (Or.imp_right ?_)
        rintro ⟨id', cid', hsent, htarget'⟩
        rcases List.mem_cons.mp hsent with hhead | hrest
        · rw [message_eq] at hhead
          obtain ⟨_, hcid⟩ := ServerMessage.subscribed.inj hhead
          cases hcid
          exact absurd (Option.some.inj (htarget'.symm.trans htarget)) hsame
        · exact ⟨id', cid', hrest, htarget'⟩
      · have hne : id' ≠ id := by
          rintro rfl
          exact h.not_bound (h.wire.issued _ hissued) (aim_of_target htarget) hsame hbound
        exact .inr ⟨id', hbound.bindServerId hconsistent hsame hne, hissued'⟩
  | answered answers waits | unexpected answers gone =>
    refine hquiet (fun id cid heq ↦ ?_) _ rfl rfl rfl rfl rfl
    subst heq
    cases answers
    assumption
  | handed message_eq sender | lost message_eq sender =>
    exact hquiet (fun id cid heq ↦ by simp [message_eq] at heq) _ rfl rfl rfl rfl rfl
  | ignored quiet unaddressed other =>
    exact hquiet (fun id cid heq ↦ absurd heq (unaddressed id cid)) _ rfl rfl rfl rfl rfl

/-- What is live stays so, as long as it is in the registry and there is the connection. -/
theorem Live.change (hchange : Change env state label next) (h : Tracked state)
    (hguard : Orderly env state label) (hlive : state.Live stableId)
    (hholds : state.subscribers.Holds stableId) (hstill : next.subscribers.Holds stableId)
    (hmanager : next.manager = .running todo) : next.Live stableId := by
  have hconsistent := h.bindings.consistent
  cases hchange with
  | @register c call id pattern at_c stage subscribes =>
    have hnot := not_registered_of_stage h.identified (List.mem_of_getElem? at_c) stage
    have hother : stableId ≠ call.stableId := by
      rintro rfl
      exact hnot ((h.kept.holds _).mp hholds).1
    obtain ⟨hgiven, haim⟩ := h.aim_of_stage (List.mem_of_getElem? at_c) stage
    refine hlive.imp_right fun ⟨id', hbound, hissued⟩ ↦ ⟨id', ?_, hissued⟩
    have hne : id' ≠ id := by
      rintro rfl
      exact h.not_bound hgiven haim hother hbound
    exact (hbound.insert hother pattern).bindServerId (hconsistent.insert _ pattern) hother hne
  | @unsubscribe removed state' subscribers held =>
    obtain rfl : (state.subscribers.remove removed).2 = subscribers := congrArg Prod.snd held
    have hne := (SubscriberRegistry.holds_remove.mp hstill).1
    exact hlive.imp_right fun ⟨id, hbound, hissued⟩ ↦ ⟨id, hbound.remove hconsistent hne, hissued⟩
  | snapshot manager perm => exact live_of_snapshot hconsistent perm hholds
  | @resubscribe ulid target pattern rest manager fresh =>
    refine hlive.imp_left fun hmem ↦ ?_
    rw [mem_resubscribing, manager] at hmem
    rw [mem_resubscribing]
    rcases hmem with hhere | ⟨pattern', priority, cid, hsent, htarget⟩ | hclient
    · rcases List.mem_cons.mp hhere with rfl | hrest
      · have hulid := isUlid_of_registered h.identified ((h.kept.holds _).mp hholds).1
        exact .inr (.inl ⟨pattern, 0, resubscribeCid stableId ulid,
          List.mem_concat_self,
          resubscribeTarget_resubscribeCid hulid ulid⟩)
      · exact .inl hrest
    · exact .inr (.inl ⟨pattern', priority, cid, List.mem_append_left _ hsent, htarget⟩)
    · exact .inr (.inr hclient)
  | send manager queue =>
    refine hlive.imp_left fun hmem ↦ ?_
    rw [mem_resubscribing] at hmem ⊢
    refine hmem.imp_right (Or.imp_left ?_)
    rintro ⟨pattern, priority, cid, hsent, htarget⟩
    exact ⟨pattern, priority, cid, List.mem_append_left _ hsent, htarget⟩
  | @serve bus operation rest up toServer short fresh =>
    rcases hlive with hmem | ⟨id, hbound, hissued⟩
    · left
      rw [mem_resubscribing] at hmem ⊢
      rcases hmem with hhere | ⟨pattern, priority, cid, hsent, htarget⟩ | ⟨id, cid, hsent, htarget⟩
      · exact .inl hhere
      · rw [toServer] at hsent
        rcases List.mem_cons.mp hsent with rfl | hrest
        · have haccepts := hguard (.subscribe pattern priority (some cid)) (by rw [toServer]; rfl)
            cid rfl (by rw [htarget]; rfl)
          obtain ⟨id, hid⟩ := served_of_accepts short rfl haccepts
          exact .inr (.inr ⟨id, cid, List.mem_append_right _ hid, htarget⟩)
        · exact .inr (.inl ⟨pattern, priority, cid, hrest, htarget⟩)
      · exact .inr (.inr ⟨id, cid, List.mem_append_left _ hsent, htarget⟩)
    · right
      rw [List.map_append]
      exact ⟨id, hbound, List.mem_append_left _ hissued⟩
  | event up issued =>
    refine hlive.imp_left fun hmem ↦ ?_
    rw [mem_resubscribing] at hmem ⊢
    refine hmem.imp_right (Or.imp_right ?_)
    rintro ⟨id, cid, hsent, htarget⟩
    exact ⟨id, cid, List.mem_append_left _ hsent, htarget⟩
  | read manager toClient received => exact hlive.read h toClient received hholds
  | connect | giveUp | connectFails | backoffOver | discard | exit | disconnect | markDown
  | failPending | clearIds => simp at hmanager
  | _ => exact hlive

/-- What is in the registry was there before, or is being registered. -/
theorem Change.holdsAfter (hchange : Change env state label next) (hholds : next.subscribers.Holds stableId) :
    state.subscribers.Holds stableId ∨ ∃ call ∈ state.calls, ∃ id, call.stage = .subscribed id ∧
      call.stableId = stableId ∧ next.manager = state.manager ∧ next.issued = state.issued ∧
      (state.subscribers.Consistent → next.subscribers.Bound stableId id) := by
  cases hchange with
  | @register c call id pattern at_c stage subscribes =>
    have hinserted := SubscriberRegistry.holds_bindServerId.mp hholds
    rcases SubscriberRegistry.holds_insert.mp hinserted with rfl | hbefore
    · exact .inr ⟨call, List.mem_of_getElem? at_c, id, stage, rfl, rfl, rfl,
        fun hconsistent ↦ hinserted.bindServerId (hconsistent.insert _ pattern) id⟩
    · exact .inl hbefore
  | @unsubscribe removed state' subscribers held =>
    obtain rfl : (state.subscribers.remove removed).2 = subscribers := congrArg Prod.snd held
    exact .inl (SubscriberRegistry.holds_remove.mp hholds).2
  | read manager toClient received =>
    left
    cases received with
    | bound => exact SubscriberRegistry.holds_bindServerId.mp hholds
    | _ => exact hholds
  | clearIds manager => exact .inl (SubscriberRegistry.holds_clearServerIds.mp hholds)
  | _ => exact .inl hholds

theorem live_change (h : Tracked state) (hcontinued : Continued state) (hguard : Orderly env state label)
    (hchange : Change env state label next) (hmanager : next.manager = .running todo)
    (hholds : next.subscribers.Holds stableId) : next.Live stableId := by
  rcases hchange.holdsAfter hholds with hbefore | ⟨call, hmem, id, hstage, rfl, hsame, hissued, hbound⟩
  · rcases hchange.running hmanager with ⟨before, hrunning⟩ | ⟨order, rfl⟩
    · exact (hcontinued.live before hrunning stableId hbefore).change hchange h hguard hbefore hholds
        hmanager
    · cases hchange with
      | snapshot manager perm => exact live_of_snapshot h.bindings.consistent perm hbefore
  · right
    refine ⟨id, hbound h.bindings.consistent, ?_⟩
    rw [hissued]
    exact hcontinued.told todo (hsame ▸ hmanager) call hmem (by rw [hstage]; rfl) id
      (h.single.stage call hmem id hstage)

/-- A call that was told something was there before, and had not returned. -/
theorem Change.unreturned_of_told (hchange : Change env state label next) (h : Tracked state)
    (hmem : call ∈ next.calls) (hwaits : call.stage.isReturned = false)
    (htold : state.told call.cid = some id) :
    ∃ before ∈ state.calls, before.cid = call.cid ∧ before.stage.isReturned = false := by
  cases hchange.callAfter hmem with
  | kept before => exact ⟨call, before, rfl, hwaits⟩
  | new label_eq fresh call_eq =>
    simp only [freshIds, List.all_cons, List.all_nil, Bool.and_true, Bool.and_eq_true,
      decide_eq_true_eq] at fresh
    obtain ⟨⟨⟨hcid, hcidNew⟩, _⟩, _⟩ := fresh
    rw [call_eq, told_of_fresh h.identified hcid hcidNew] at htold
    simp at htold
  | inserted before stage call_eq | enqueued before stage call_eq | told before stage told call_eq =>
    exact ⟨_, List.mem_of_getElem? before, by rw [call_eq], by rw [stage]; rfl⟩
  | failed before stage isError call_eq => simp [call_eq, CallStage.isReturned] at hwaits
  | registered before label_eq stage subscribes call_eq =>
    simp [call_eq, CallStage.isReturned] at hwaits

theorem told_change (h : Tracked state) (hcontinued : Continued state) (hguard : Orderly env state label)
    (hchange : Change env state label next) (hmanager : next.manager = .running todo)
    (hmem : call ∈ next.calls) (hwaits : call.stage.isReturned = false) (htold : next.told call.cid = some id) :
    id ∈ next.issued.map Prod.fst := by
  cases hchange.toldAfter call.cid with
  | kept eq =>
    rw [eq] at htold
    obtain ⟨before, hbefore, hcid, hunreturned⟩ := hchange.unreturned_of_told h hmem hwaits htold
    rw [← hcid] at htold
    rcases hchange.running hmanager with ⟨todo', hrunning⟩ | ⟨order, rfl⟩
    · exact List.map_subset _ (hchange.issued_kept hmanager)
        (hcontinued.told todo' hrunning before hbefore hunreturned id htold)
    · have hreturned := hguard before hbefore (by rw [htold]; rfl)
      simp [hunreturned] at hreturned
  | read waits gone manager toClient answers replies queue toServer given issued calls =>
    have hmessage := told_of_cons answers replies htold
    rw [issued]
    exact List.mem_map_of_mem
      (h.wire.confirmed id (some call.cid) (toClient ▸ hmessage ▸ List.mem_cons_self))

theorem forgotten_change (h : Tracked state) (hcontinued : Continued state) (hguard : Orderly env state label)
    (hchange : Change env state label next) (hmem : stableId ∈ next.unsubscribed) :
    stableId ∉ next.resubscribing := by
  have hgone (hbefore : stableId ∈ state.unsubscribed) : stableId ∉ next.resubscribing := by
    intro hresub
    rcases hchange.resubscribingAfter h hresub with hstill | hholds
    · exact hcontinued.forgotten stableId hbefore hstill
    · exact ((h.kept.holds stableId).mp hholds).2 hbefore
  cases hchange with
  | unsubscribe held =>
    rcases List.mem_cons.mp hmem with rfl | hbefore
    · exact hguard
    · exact hgone hbefore
  | read manager toClient received => cases received <;> exact hgone hmem
  | _ => exact hgone hmem

theorem held_change (hcontinued : Continued state) (hchange : Change env state label next)
    (hmem : id ∈ next.connection.subscriptions.map Prod.fst) : id ∈ next.issued.map Prod.fst := by
  cases hchange with
  | connect | disconnect => exact absurd hmem List.not_mem_nil
  | @serve bus operation rest up toServer short fresh =>
    simp only [served, Connection.serveFrame, if_neg (not_lt.mpr short)] at hmem
    rw [List.map_append, List.mem_append]
    rcases Connection.mem_subscriptions_run hmem with ⟨hbefore, _⟩ | ⟨c, hconfirmed⟩
    · exact .inl (hcontinued.held id hbefore)
    · have hissued : (id, c) ∈ issuedIn (state.served env bus operation).1 := by
        simp only [served, Connection.serveFrame, if_neg (not_lt.mpr short)]
        exact mem_issuedIn.mpr hconfirmed
      exact .inr (List.mem_map_of_mem hissued)
  | read manager toClient received => cases received <;> exact hcontinued.held id hmem
  | _ => exact hcontinued.held id hmem

/-- What was unsubscribed is not subscribed any more. -/
theorem Continued.unsent (hcontinued : Continued state) (h : Tracked state)
    (hgone : stableId ∈ state.unsubscribed)
    (hsent : .subscribe pattern priority (some cid) ∈ state.toServer) :
    state.aim cid ≠ some stableId := by
  intro haim
  rcases aim_cases haim with htarget | ⟨call, hcall, rfl, hstable⟩
  · exact hcontinued.forgotten stableId hgone
      (mem_resubscribing.mpr (.inr (.inl ⟨pattern, priority, cid, hsent, htarget⟩)))
  · obtain ⟨other, hother, hsame, hdone⟩ := h.kept.unsubscribed stableId hgone
    obtain rfl := h.identified.eq_of_stableId hother hcall (hsame.trans hstable.symm)
    obtain ⟨id, htold⟩ := h.single.registered _ hcall hdone
    exact (h.single.told _ id htold).unasked _ (List.mem_append_right _ hsent) rfl

/-- An id of the connection for what is in the registry, and not being made again, is bound. -/
theorem Tracked.bound_of_issued (h : Tracked state) (hholds : state.subscribers.Holds stableId)
    (hnot : stableId ∉ state.resubscribing) (hissued : (id, some cid) ∈ state.issued)
    (haim : state.aim cid = some stableId) : state.subscribers.Bound stableId id := by
  refine h.bindings.processed id cid stableId hissued haim (fun c hc ↦ ?_) hholds
  have hgiven := h.wire.issued _ hissued
  obtain rfl := h.wire.cid_unique (h.wire.issued _ (h.wire.confirmed id c hc)) hgiven
  cases htarget : resubscribeTarget cid with
  | none => exact h.not_holds_of_confirmed hc htarget haim hholds
  | some target =>
    rw [aim_of_target htarget] at haim
    cases haim
    exact hnot (mem_resubscribing.mpr (.inr (.inr ⟨id, cid, hc, htarget⟩)))

theorem leaves_change (h : Tracked state) (hcontinued : Continued state) (hguard : Orderly env state label)
    (hchange : Change env state label next) (hmem : stableId ∈ next.unsubscribed)
    (hissued : (id, some cid) ∈ next.issued) (haim : next.aim cid = some stableId)
    (hheld : id ∈ next.connection.subscriptions.map Prod.fst) :
    id ∈ next.leaving ∨ .unsubscribe id none ∈ next.queue ++ next.toServer := by
  have hwire := wire_change h.wire hchange
  obtain ⟨_, heq, hasks⟩ := hchange.asks_of_issued h hissued
  cases heq
  rw [hchange.aim_eq h.identified hasks] at haim
  have hkept := hcontinued.leaves stableId
  have hdown (hnot : ∀ todo, state.manager ≠ .running todo) : (id, some cid) ∉ state.issued := by
    rw [(h.wire.down hnot).2.2]
    exact List.not_mem_nil
  cases hchange with
  | @unsubscribe target removed subscribers held =>
    rcases List.mem_cons.mp hmem with rfl | hbefore
    · left
      have hbound := h.bound_of_issued (SubscriberRegistry.holds_of_remove held) hguard hissued haim
      have hid := SubscriberRegistry.serverId_of_remove held hbound
      exact List.mem_append_right _ (by simp [hid])
    · exact (hkept hbefore id cid hissued haim hheld).imp_left (List.mem_append_left _)
  | @sendUnsubscribe i serverId at_i running =>
    rcases hkept hmem id cid hissued haim hheld with hleaving | hunder
    · obtain ⟨j, hj⟩ := List.mem_iff_getElem?.mp hleaving
      by_cases hij : j = i
      · right
        subst hij
        obtain rfl := Option.some.inj (hj.symm.trans at_i)
        simp
      · exact .inl (List.mem_eraseIdx_iff_getElem?.mpr ⟨j, hij, hj⟩)
    · right
      rcases List.mem_append.mp hunder with hqueue | hsent
      · exact List.mem_append_left _ (List.mem_append_left _ hqueue)
      · exact List.mem_append_right _ hsent
  | dropUnsubscribe exited => exact absurd hissued (hdown (by simp [exited]))
  | discard manager queue | exit manager | connect manager => exact absurd hissued (hdown (by simp [manager]))
  | disconnect up => exact absurd hissued List.not_mem_nil
  | enqueue at_c stage running =>
    refine (hkept hmem id cid hissued haim hheld).imp_right fun hunder ↦ ?_
    rcases List.mem_append.mp hunder with hqueue | hsent
    · exact List.mem_append_left _ (List.mem_append_left _ hqueue)
    · exact List.mem_append_right _ hsent
  | resubscribe manager fresh =>
    refine (hkept hmem id cid hissued haim hheld).imp_right fun hunder ↦ ?_
    rw [← List.append_assoc]
    exact List.mem_append_left _ hunder
  | @send operation rest manager queue =>
    refine (hkept hmem id cid hissued haim hheld).imp_right fun hunder ↦ ?_
    simp only [queue, List.mem_append, List.mem_cons] at hunder ⊢
    tauto
  | @serve bus operation rest up toServer short fresh =>
    simp only [served, Connection.serveFrame, if_neg (not_lt.mpr short)] at hheld
    rcases List.mem_append.mp hissued with hbefore | hnew
    · rcases Connection.mem_subscriptions_run hheld with ⟨hstill, hother⟩ | ⟨c, hconfirmed⟩
      · refine (hkept hmem id cid hbefore haim hstill).imp_right fun hunder ↦ ?_
        rw [toServer] at hunder
        rcases List.mem_append.mp hunder with hqueue | hsent
        · exact List.mem_append_left _ hqueue
        · rcases List.mem_cons.mp hsent with hhead | hrest
          · exact absurd hhead.symm (hother none)
          · exact List.mem_append_right _ hrest
      · -- an id of the connection is not given out again
        have hissuedIn : (id, c) ∈ issuedIn (state.served env bus operation).1 := by
          simp only [served, Connection.serveFrame, if_neg (not_lt.mpr short)]
          exact mem_issuedIn.mpr hconfirmed
        have hgiven : id ∈ state.given.map Prod.fst := List.mem_map_of_mem (h.wire.issued _ hbefore)
        exact absurd hgiven (fresh _ hissuedIn)
    · obtain ⟨pattern, priority, rfl⟩ := subscribe_of_mem_issuedIn hnew
      exact absurd haim (hcontinued.unsent h hmem (toServer ▸ List.mem_cons_self))
  | read manager toClient received =>
    cases received <;> exact hkept hmem id cid hissued haim hheld
  | _ => exact hkept hmem id cid hissued haim hheld

theorem Continued.change (hcontinued : Continued state) (h : Tracked state)
    (hguard : Orderly env state label) (hchange : Change env state label next) :
    Continued next where
  live _ hmanager _ hholds := live_change h hcontinued hguard hchange hmanager hholds
  told _ hmanager _ hmem hwaits _ htold :=
    told_change h hcontinued hguard hchange hmanager hmem hwaits htold
  forgotten _ hmem := forgotten_change h hcontinued hguard hchange hmem
  held _ hmem := held_change hcontinued hchange hmem
  leaves _ hmem _ _ hissued haim hheld :=
    leaves_change h hcontinued hguard hchange hmem hissued haim hheld

theorem continued_of_reach (h : Steps.Reach (step env) (Orderly env) (start env) state) :
    Tracked state ∧ Continued state := by
  induction h with
  | init => exact ⟨tracked_start env, continued_start env⟩
  | next _ hguard hstep ih =>
    have hchange := change_of_step hstep
    exact ⟨ih.1.change hchange, ih.2.change ih.1 hguard hchange⟩

/-- An event of the connection is handed to its subscription exactly if that is registered. -/
theorem Tracked.handed_iff_registered (h : Tracked state) {subject payload : String}
    {replySubject : Option String} (hstep : step env state .read = some next)
    (htoClient : state.toClient = .event subject payload replySubject id :: rest)
    (hissued : (id, some cid) ∈ state.issued) (haim : state.aim cid = some stableId)
    (hkept : stableId ∉ state.unsubscribed) :
    next.handed = state.handed ++ [(stableId, ⟨subject, decoded env payload, replySubject⟩)] ↔
      state.Registered stableId := by
  have hmanager : state.manager = .running [] := by
    cases change_of_step hstep with
    | read manager => exact manager
  simp only [step, hmanager, htoClient, Option.some.injEq] at hstep
  subst hstep
  have hconfirmed : ∀ c, .subscribed id c ∉ state.toClient := by
    intro c hmem
    have horder := h.wire.order
    rw [htoClient] at horder hmem
    rcases List.mem_cons.mp hmem with hhead | hrest
    · simp at hhead
    · exact (List.pairwise_cons.mp horder).1 _ hrest id c rfl rfl
  constructor
  · intro hhanded
    simp only [handleServerMsg] at hhanded
    split at hhanded
    · rename_i found hsender
      obtain ⟨rfl, _⟩ : found = stableId ∧ True := by simpa using hhanded
      -- the sender that is found is in the registry
      obtain ⟨key, _, hfound⟩ := Option.bind_eq_some_iff.mp hsender
      obtain ⟨subscription, hlookup, hnamed⟩ := Option.map_eq_some_iff.mp hfound
      have hkey := (h.bindings.consistent.named key subscription hlookup).2
      have hholds : state.subscribers.Holds found :=
        AList.lookup_isSome.mp (by rw [← hnamed, hkey, hlookup]; rfl)
      exact ((h.kept.holds found).mp hholds).1
    · simp at hhanded
  · intro hregistered
    have hholds := (h.kept.holds stableId).mpr ⟨hregistered, hkept⟩
    have hbound := h.bindings.processed id cid stableId hissued haim hconfirmed hholds
    simp [handleServerMsg, hbound.getSender h.bindings.consistent]

/-- The next event is handed to the subscription of its id, unless that is not wanted any more. -/
def Forwards (env : SessionEnv) (state : Session) : Prop :=
  ∀ next subject payload replySubject id rest cid stableId, step env state .read = some next →
    state.toClient = .event subject payload replySubject id :: rest →
    (id, some cid) ∈ state.issued → state.aim cid = some stableId → stableId ∉ state.unsubscribed →
    next.handed = state.handed ++ [(stableId, ⟨subject, decoded env payload, replySubject⟩)]

/-- In an orderly run every event that is read gets to the receiver of its subscription; after a
reconnect every subscription is bound to an id of the connection; and with everything processed, the
server holds nothing for a subscription that was unsubscribed. -/
theorem subscription_continuity (hreach : Steps.Reach (step env) (Orderly env) (start env) state) :
    (Orderly env state .read → Forwards env state) ∧
      (Reconnected state → ∀ stableId, state.Registered stableId → stableId ∉ state.unsubscribed →
        ∃ id, state.subscribers.Bound stableId id ∧ id ∈ state.issued.map Prod.fst) ∧
      (Drained state → ∀ stableId ∈ state.unsubscribed, ∀ id cid, (id, some cid) ∈ state.given →
        state.aim cid = some stableId → id ∉ state.connection.subscriptions.map Prod.fst) := by
  obtain ⟨h, hcontinued⟩ := continued_of_reach hreach
  refine ⟨?_, ?_, ?_⟩
  · intro hguard next subject payload replySubject id rest cid stableId hstep htoClient hissued haim
      hkept
    refine (h.handed_iff_registered hstep htoClient hissued haim hkept).mpr ?_
    have howner : stableId ∈ state.owners id :=
      List.mem_filterMap.mpr ⟨(id, some cid), List.mem_filter.mpr ⟨hissued, by simp⟩, haim⟩
    exact (hguard _ (by rw [htoClient]; rfl) id rfl stableId howner).resolve_left hkept
  · intro hreconnected stableId hregistered hkept
    have hholds := (h.kept.holds stableId).mpr ⟨hregistered, hkept⟩
    rcases hcontinued.live [] hreconnected.manager stableId hholds with hresub | hbound
    · rw [hreconnected.done] at hresub
      exact absurd hresub List.not_mem_nil
    · exact hbound
  · intro hdrained stableId hgone id cid hgiven haim hheld
    obtain ⟨⟨_, c⟩, hissued, rfl⟩ := List.mem_map.mp (hcontinued.held id hheld)
    obtain rfl := h.wire.cid_unique (h.wire.issued _ hissued) hgiven
    rcases hcontinued.leaves stableId hgone _ cid hissued haim hheld with hleaving | hunder
    · simp [hdrained.leaving] at hleaving
    · simp [hdrained.queue, hdrained.toServer] at hunder

instance (state : Session) : Decidable (Reconnected state) :=
  decidable_of_iff (state.manager = .running [] ∧ state.resubscribing = [])
    ⟨fun h ↦ ⟨h.1, h.2⟩, fun h ↦ ⟨h.manager, h.done⟩⟩

instance (state : Session) : Decidable (Drained state) :=
  decidable_of_iff (state.leaving = [] ∧ state.queue = [] ∧ state.toServer = [] ∧ state.toClient = [])
    ⟨fun h ↦ ⟨h.1, h.2.1, h.2.2.1, h.2.2.2⟩, fun h ↦ ⟨h.leaving, h.queue, h.toServer, h.toClient⟩⟩

/-- A subscription is asked for, and confirmed as `"S"`. -/
def subscribing : List SessionLabel :=
  [.connect, .snapshot [], .call (.subscribe "a") (ulidOf '0') (ulidOf '1'), .insertPending 0,
    .enqueue 0, .send, .serve (takes "S")]

/-- The connection is lost, and there is a new one. -/
def reconnecting : List SessionLabel :=
  [.disconnect, .markDown, .failPending, .clearIds, .connect]

/-- A subscription is registered before its event is read, and made again after a reconnect; then it
is unsubscribed. -/
def subscribedAgain : List SessionLabel :=
  subscribing ++ [.read, .wake 0, .register 0, .event "S" "a" "CQ==" none, .read] ++ reconnecting ++
    [.snapshot [(ulidOf '1', "a")], .resubscribe (ulidOf '2'), .serve (takes "T"), .read]

def unsubscribedThen : List SessionLabel :=
  subscribedAgain ++ [.unsubscribe (ulidOf '1'), .sendUnsubscribe 0, .send, .serve (takes "U")]

theorem subscription_continuity_run :
    (∃ state ∈ Steps.execute (step shortFrames) (start shortFrames)
        (subscribing ++ [.read, .wake 0, .register 0, .event "S" "a" "CQ==" none]),
      ∃ next ∈ step shortFrames state .read,
        next.handed = [(ulidOf '1', ⟨"a", [9], none⟩)]) ∧
      (∃ state ∈ Steps.execute (step shortFrames) (start shortFrames) subscribedAgain,
        ∃ id, state.subscribers.Bound (ulidOf '1') id ∧ id ∈ state.issued.map Prod.fst) ∧
      ∃ state ∈ Steps.execute (step shortFrames) (start shortFrames) unsubscribedThen,
        ("T", some (resubscribeCid (ulidOf '1') (ulidOf '2'))) ∈ state.given ∧
          "T" ∉ state.connection.subscriptions.map Prod.fst := by
  refine ⟨?_, ?_, ?_⟩
  · have hexecute : ∃ state ∈ Steps.execute (step shortFrames) (start shortFrames)
        (subscribing ++ [.read, .wake 0, .register 0, .event "S" "a" "CQ==" none]),
        Orderly shortFrames state .read ∧ (step shortFrames state .read).isSome = true ∧
          state.toClient = [.event "a" "CQ==" none "S"] ∧ ("S", some (ulidOf '0')) ∈ state.issued ∧
          state.aim (ulidOf '0') = some (ulidOf '1') ∧ ulidOf '1' ∉ state.unsubscribed ∧
          state.handed = [] := by decide +kernel
    obtain ⟨state, hstate, hguard, hsome, htoClient, hissued, haim, hkept, hnone⟩ := hexecute
    obtain ⟨next, hnext⟩ := Option.isSome_iff_exists.mp hsome
    have hforwards := (subscription_continuity
      (Steps.reach_of_execute (by decide +kernel) hstate)).1 hguard next "a" "CQ==" none "S" []
      (ulidOf '0') (ulidOf '1') hnext htoClient hissued haim hkept
    rw [hnone] at hforwards
    exact ⟨state, hstate, next, hnext, hforwards⟩
  · have hexecute : ∃ state ∈ Steps.execute (step shortFrames) (start shortFrames) subscribedAgain,
        Reconnected state ∧ state.Registered (ulidOf '1') ∧ ulidOf '1' ∉ state.unsubscribed := by
      decide +kernel
    obtain ⟨state, hstate, hreconnected, hregistered, hkept⟩ := hexecute
    exact ⟨state, hstate, (subscription_continuity
      (Steps.reach_of_execute (by decide +kernel) hstate)).2.1 hreconnected _ hregistered hkept⟩
  · have hexecute : ∃ state ∈ Steps.execute (step shortFrames) (start shortFrames) unsubscribedThen,
        Drained state ∧ ulidOf '1' ∈ state.unsubscribed ∧
          ("T", some (resubscribeCid (ulidOf '1') (ulidOf '2'))) ∈ state.given ∧
          state.aim (resubscribeCid (ulidOf '1') (ulidOf '2')) = some (ulidOf '1') := by
      decide +kernel
    obtain ⟨state, hstate, hdrained, hgone, hgiven, haim⟩ := hexecute
    exact ⟨state, hstate, hgiven, (subscription_continuity
      (Steps.reach_of_execute (by decide +kernel) hstate)).2.2 hdrained _ hgone _ _ hgiven haim⟩

/-- An event is read before its subscription is registered, and lost; one that is registered after
the manager read the active patterns is bound to an id of the connection before; and one that is
unsubscribed while it is made again stays with the server. -/
theorem subscription_lost :
    (∃ state ∈ Steps.execute (step shortFrames) (start shortFrames)
        (subscribing ++ [.event "S" "a" "CQ==" none, .read, .read, .wake 0, .register 0]),
      state.Registered (ulidOf '1') ∧ ulidOf '1' ∉ state.unsubscribed ∧ Drained state ∧
        state.issued = [("S", some (ulidOf '0'))] ∧ state.handed = []) ∧
      (∃ state ∈ Steps.execute (step shortFrames) (start shortFrames)
          (subscribing ++ [.read] ++ reconnecting ++ [.snapshot [], .wake 0, .register 0]),
        Reconnected state ∧ state.Registered (ulidOf '1') ∧ ulidOf '1' ∉ state.unsubscribed ∧
          state.issued = []) ∧
      ∃ state ∈ Steps.execute (step shortFrames) (start shortFrames)
          (subscribing ++ [.read, .wake 0, .register 0] ++ reconnecting ++
            [.snapshot [(ulidOf '1', "a")], .unsubscribe (ulidOf '1'), .resubscribe (ulidOf '2'),
              .serve (takes "T"), .read]),
        Drained state ∧ ulidOf '1' ∈ state.unsubscribed ∧
          state.aim (resubscribeCid (ulidOf '1') (ulidOf '2')) = some (ulidOf '1') ∧
          ("T", some (resubscribeCid (ulidOf '1') (ulidOf '2'))) ∈ state.issued ∧
          "T" ∈ state.connection.subscriptions.map Prod.fst := by
  decide +kernel

end Session

end Seidrum.Client
