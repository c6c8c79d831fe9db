import Seidrum.Client.Identifiers

/-!
# What a subscription is bound to

A subscription has one operation under way at most on a connection: the one its call sends, or later
the one the manager sends for it.  So the id the server gives out is the only one for it on that
connection, and once the confirmation was processed the registry binds it, as long as the
subscription is there.
-/

namespace Seidrum.Client

open Seidrum.Foundation Seidrum.EventBus

/-- The call has not handed its operation to the manager yet. -/
def CallStage.isEarly : CallStage → Bool
  | .checked | .inserted => true
  | _ => false

/-- What the manager has yet to resubscribe. -/
def Manager.todo : Manager → List (String × String)
  | .running todo => todo
  | _ => []

/-- The correlation id a subscribe operation carries. -/
def subscribeCid : ClientOperation → Option String
  | .subscribe _ _ cid => cid
  | _ => none

/-- The message is about this subscription of the server. -/
def concerns (id : String) : ServerMessage → Prop
  | .event _ _ _ subscriptionId => subscriptionId = id
  | .subscribed other _ => other = id
  | _ => False

/-- The call subscribed, and put its subscription into the registry. -/
def Call.Registered (call : Call) : Prop :=
  (∃ pattern, call.call = .subscribe pattern) ∧ call.stage = .returned (.ok none)

namespace Session

variable {env : SessionEnv} {state next : Session} {label : SessionLabel}

def keys (state : Session) : List (String × String) :=
  state.calls.map fun call ↦ (call.cid, call.stableId)

/-- The subscription that a subscribe operation is made for. -/
def aim (state : Session) (cid : String) : Option String :=
  (resubscribeTarget cid).or (state.keys.lookup cid)

theorem Change.keys (hchange : Change env state label next) :
    next.keys = state.keys ∨ ∃ cid stableId, next.keys = state.keys ++ [(cid, stableId)] := by
  have hset (c : ℕ) (stage : CallStage) (state : Session) :
      (state.setStage c stage).keys = state.keys := map_modify fun _ ↦ rfl
  cases hchange with
  | call fresh => exact .inr ⟨_, _, List.map_append⟩
  | insertPending at_c stage | enqueueRefused at_c stage exited failed | enqueue at_c stage running
  | wake at_c stage told | wakeLost at_c stage untold gone failed | register at_c stage subscribes =>
    exact .inl (hset _ _ _)
  | read manager toClient received => cases received <;> exact .inl rfl
  | _ => exact .inl rfl

variable {cid stableId : String} {call : Call} {id : String} {bus : BusAnswers} {operation : ClientOperation}
  {entry : String × Option String}

theorem Change.aim (hchange : Change env state label next) (h : state.aim cid = some stableId) :
    next.aim cid = some stableId := by
  unfold Session.aim at h ⊢
  rcases hchange.keys with heq | ⟨cid', stableId', heq⟩
  · rw [heq, h]
  · rw [heq, List.lookup_append, ← Option.or_assoc, h, Option.some_or]

theorem mem_keys_iff :
    (cid, stableId) ∈ state.keys ↔
      ∃ call ∈ state.calls, call.cid = cid ∧ call.stableId = stableId := by
  simp [keys]

theorem aim_of_target (h : resubscribeTarget cid = some stableId) : state.aim cid = some stableId := by
  rw [aim, h, Option.some_or]

theorem aim_of_call (h : Identified state) (hmem : call ∈ state.calls) :
    state.aim call.cid = some call.stableId := by
  have hulid := (h.generated _ (List.mem_append_left _ (List.mem_map_of_mem hmem))).1
  rw [aim, resubscribeTarget_of_isUlid hulid, Option.none_or]
  have hfound : (state.keys.lookup call.cid).isSome := by
    rw [List.lookup_isSome_iff]
    exact ⟨_, mem_keys_iff.mpr ⟨call, hmem, rfl, rfl⟩, by simp⟩
  obtain ⟨stableId, hlookup⟩ := Option.isSome_iff_exists.mp hfound
  obtain ⟨l₁, l₂, heq, _⟩ := List.lookup_eq_some_iff.mp hlookup
  obtain ⟨other, hother, hcid, hstable⟩ :=
    mem_keys_iff.mp (heq ▸ List.mem_append_right l₁ List.mem_cons_self)
  rw [hlookup, ← hstable, h.eq_of_cid hother hmem hcid]

theorem aim_cases (h : state.aim cid = some stableId) :
    resubscribeTarget cid = some stableId ∨
      ∃ call ∈ state.calls, call.cid = cid ∧ call.stableId = stableId := by
  unfold aim at h
  rcases Option.or_eq_some_iff.mp h with htarget | ⟨_, hlookup⟩
  · exact .inl htarget
  · obtain ⟨l₁, l₂, heq, _⟩ := List.lookup_eq_some_iff.mp hlookup
    exact .inr (mem_keys_iff.mp (heq ▸ List.mem_append_right l₁ List.mem_cons_self))

/-- The server's id a subscribe operation was told. -/
def told (state : Session) (cid : String) : Option String :=
  match state.replies.lookup cid with
  | some (.subscribed id) => some id
  | _ => none

/-- A subscription that was put into the registry. -/
def Registered (state : Session) (stableId : String) : Prop :=
  ∃ call ∈ state.calls, call.stableId = stableId ∧ call.Registered

theorem told_eq_some_iff : state.told cid = some id ↔ state.replies.lookup cid = some (.subscribed id) := by
  unfold told
  split
  · rename_i other hlookup
    simp [hlookup]
  · rename_i hother
    simpa using hother id

theorem mem_setStage_of_ne {c : ℕ} {before : Call} {stage : CallStage} (hat : state.calls[c]? = some before)
    (hmem : call ∈ state.calls) (hne : call ≠ before) : call ∈ (state.setStage c stage).calls := by
  obtain ⟨i, hi⟩ := List.mem_iff_getElem?.mp hmem
  have hci : c ≠ i := by
    rintro rfl
    exact hne (Option.some.inj (hi.symm.trans hat))
  exact List.mem_of_getElem? ((getElem?_setStage_ne hci).trans hi)

/-- A call that returned stays as it is. -/
theorem Change.returned_kept (hchange : Change env state label next) (hmem : call ∈ state.calls)
    (hreturned : call.stage.isReturned = true) : call ∈ next.calls := by
  have hset {c : ℕ} {before : Call} (hat : state.calls[c]? = some before)
      (hstage : before.stage.isReturned = false) : call ≠ before := by
    rintro rfl
    simp [hreturned] at hstage
  cases hchange with
  | call fresh => exact List.mem_append_left _ hmem
  | insertPending at_c stage | enqueueRefused at_c stage exited failed | enqueue at_c stage running
  | register at_c stage subscribes | wake at_c stage told | wakeLost at_c stage untold gone failed =>
    exact mem_setStage_of_ne at_c hmem (hset at_c (by rw [stage]; rfl))
  | read manager toClient received => cases received <;> exact hmem
  | _ => exact hmem

theorem Change.registered (hchange : Change env state label next) (h : state.Registered stableId) :
    next.Registered stableId := by
  obtain ⟨call, hmem, hstable, hregistered⟩ := h
  refine ⟨call, hchange.returned_kept hmem ?_, hstable, hregistered⟩
  rw [hregistered.2]
  rfl

theorem onReply_subscribe_ne {call : ClientCall} {pattern : String}
    (hcall : call = .subscribe pattern) (reply : PendingReply) :
    call.onReply reply ≠ .returned (.ok none) := by
  subst hcall
  cases reply <;> simp [ClientCall.onReply]

/-- A subscription that is registered was before, or is being put into the registry. -/
theorem Change.registered_of_next (hchange : Change env state label next) (h : next.Registered stableId) :
    state.Registered stableId ∨ ∃ c call id, label = .register c ∧
      state.calls[c]? = some call ∧ call.stage = .subscribed id ∧ call.stableId = stableId := by
  obtain ⟨call, hmem, hstable, ⟨pattern, hsubscribes⟩, hstage⟩ := h
  cases hchange.callAfter hmem with
  | kept before => exact .inl ⟨call, before, hstable, ⟨pattern, hsubscribes⟩, hstage⟩
  | new label_eq fresh call_eq =>
    rw [call_eq] at hstage
    dsimp only at hstage
    split_ifs at hstage
    simp at hstage
  | inserted before stage call_eq | enqueued before stage call_eq => simp [call_eq] at hstage
  | told before stage told call_eq =>
    rw [call_eq] at hstage hsubscribes
    exact absurd hstage (onReply_subscribe_ne hsubscribes _)
  | failed before stage isError call_eq =>
    rw [call_eq] at hstage
    obtain rfl := CallStage.returned.inj hstage
    simp [Except.isOk, Except.toBool] at isError
  | registered before label_eq stage subscribes call_eq =>
    subst call_eq
    exact .inr ⟨_, _, _, label_eq, before, stage, hstable⟩

/-- The registry holds what was registered and not unsubscribed. -/
structure Kept (state : Session) : Prop where
  holds : ∀ stableId, state.subscribers.Holds stableId ↔
    state.Registered stableId ∧ stableId ∉ state.unsubscribed
  unsubscribed : ∀ stableId ∈ state.unsubscribed, state.Registered stableId

theorem kept_start (env : SessionEnv) : Kept (start env) where
  holds stableId := by
    constructor
    · exact fun hholds ↦ absurd hholds (AList.notMem_empty stableId)
    · rintro ⟨⟨call, hmem, _⟩, _⟩
      exact absurd hmem List.not_mem_nil
  unsubscribed _ hmem := absurd hmem List.not_mem_nil

theorem not_registered_of_stage (h : Identified state) (hmem : call ∈ state.calls)
    (hstage : call.stage = .subscribed id) : ¬state.Registered call.stableId := by
  rintro ⟨other, hother, hstable, _, hreturned⟩
  obtain rfl := h.eq_of_stableId hother hmem hstable
  simp [hstage] at hreturned

theorem Change.registered_iff (hchange : Change env state label next)
    (hlabel : ∀ c, label ≠ .register c) (stableId : String) :
    next.Registered stableId ↔ state.Registered stableId := by
  refine ⟨fun h ↦ ?_, hchange.registered⟩
  rcases hchange.registered_of_next h with hbefore | ⟨c, _, _, hregister, _⟩
  · exact hbefore
  · exact absurd hregister (hlabel c)

theorem Kept.change (h : Kept state) (hids : Identified state)
    (hchange : Change env state label next) : Kept next := by
  have hregistered : ∀ stableId, state.Registered stableId → next.Registered stableId :=
    fun _ ↦ hchange.registered
  have hof : ∀ stableId, next.Registered stableId → _ := fun _ ↦ hchange.registered_of_next
  have hiff : (∀ c, label ≠ .register c) →
      ∀ stableId, next.Registered stableId ↔ state.Registered stableId := hchange.registered_iff
  have hunsubscribed : ∀ stableId ∈ state.unsubscribed, next.Registered stableId :=
    fun stableId hmem ↦ hregistered stableId (h.unsubscribed stableId hmem)
  -- most steps leave what the registry holds, and what is registered, as they are
  have hsame (hlabel : ∀ c, label ≠ .register c)
      (hholds : ∀ stableId,
        next.subscribers.Holds stableId ↔ state.subscribers.Holds stableId)
      (heq : next.unsubscribed = state.unsubscribed) : Kept next := by
    refine ⟨fun stableId ↦ ?_, heq ▸ hunsubscribed⟩
    rw [hholds, hiff hlabel, heq, h.holds]
  cases hchange with
  | @register c call id pattern at_c stage subscribes =>
    have hnot := not_registered_of_stage hids (List.mem_of_getElem? at_c) stage
    refine ⟨fun stableId ↦ ?_, hunsubscribed⟩
    refine (SubscriberRegistry.holds_bindServerId.trans SubscriberRegistry.holds_insert).trans ?_
    rw [h.holds]
    constructor
    · rintro (rfl | ⟨hbefore, hkept⟩)
      · refine ⟨⟨_, List.mem_of_getElem? (getElem?_setStage_self at_c), rfl, ⟨pattern, subscribes⟩,
          rfl⟩, fun hmem ↦ hnot (h.unsubscribed _ hmem)⟩
      · exact ⟨hregistered stableId hbefore, hkept⟩
    · rintro ⟨hnow, hkept⟩
      rcases hof stableId hnow with hbefore | ⟨c', call', _, hlabel, hat, _, hstable⟩
      · exact .inr ⟨hbefore, hkept⟩
      · obtain rfl := SessionLabel.register.inj hlabel
        obtain rfl := Option.some.inj (hat.symm.trans at_c)
        exact .inl hstable.symm
  | @unsubscribe stableId removed subscribers held =>
    have hholds (other : String) : subscribers.Holds other ↔ _ :=
      (congrArg Prod.snd held) ▸ SubscriberRegistry.holds_remove
    constructor
    · intro other
      refine (hholds other).trans ?_
      rw [h.holds, ← hiff nofun other]
      simp only [List.mem_cons, not_or]
      tauto
    · intro other hmem
      rcases List.mem_cons.mp hmem with rfl | hbefore
      · exact hregistered _ ((h.holds _).mp (SubscriberRegistry.holds_of_remove held)).1
      · exact hunsubscribed other hbefore
  | read manager toClient received =>
    cases received with
    | bound message_eq target =>
      exact hsame nofun (fun _ ↦ SubscriberRegistry.holds_bindServerId) rfl
    | _ => exact hsame nofun (fun _ ↦ Iff.rfl) rfl
  | clearIds manager => exact hsame nofun (fun _ ↦ SubscriberRegistry.holds_clearServerIds) rfl
  | _ => exact hsame nofun (fun _ ↦ Iff.rfl) rfl

/-- The correlation id of a call, or of a resubscription. -/
def Asks (state : Session) (cid : String) : Prop :=
  cid ∈ state.cids ∨ ∃ stableId, resubscribeTarget cid = some stableId ∧ state.Registered stableId

/-- Subscriptions are asked for by calls, and again by the manager once they are registered. -/
structure Lawful (state : Session) : Prop where
  queued : ∀ operation ∈ state.queue, ∀ pattern priority c,
    operation = .subscribe pattern priority c → ∃ cid ∈ state.cids, c = some cid
  sent : ∀ operation ∈ state.toServer, ∀ pattern priority c,
    operation = .subscribe pattern priority c → ∃ cid, c = some cid ∧ state.Asks cid
  given : ∀ entry ∈ state.given, ∃ cid, entry.2 = some cid ∧ state.Asks cid
  todo : ∀ entry ∈ state.manager.todo, state.Registered entry.1

/-- The server confirms a subscription before it sends its events. -/
structure Wire (state : Session) : Prop where
  down : (∀ todo, state.manager ≠ .running todo) →
    state.toServer = [] ∧ state.toClient = [] ∧ state.issued = []
  distinct : (state.given.map Prod.fst).Nodup
  issued : ∀ entry ∈ state.issued, entry ∈ state.given
  confirmed : ∀ id c, .subscribed id c ∈ state.toClient → (id, c) ∈ state.issued
  events : ∀ subject payload replySubject id,
    .event subject payload replySubject id ∈ state.toClient → id ∈ state.issued.map Prod.fst
  order : state.toClient.Pairwise fun first second ↦
    ∀ id c, second = .subscribed id c → ¬concerns id first

/-- The subscriptions that these operations ask for. -/
def asked (state : Session) (operations : List ClientOperation) : List String :=
  operations.filterMap fun operation ↦ (subscribeCid operation).bind state.aim

/-- The subscriptions that these ids were given out for. -/
def answered (state : Session) (entries : List (String × Option String)) : List String :=
  entries.filterMap fun entry ↦ entry.2.bind state.aim

/-- How often a subscription is asked for, or was, on the current connection. -/
def load (state : Session) (stableId : String) : ℕ :=
  (state.asked state.queue).count stableId + (state.asked state.toServer).count stableId +
    (state.answered state.issued).count stableId + (state.manager.todo.map Prod.fst).count stableId

theorem load_def (state : Session) (stableId : String) :
    state.load stableId = (state.asked state.queue).count stableId +
      (state.asked state.toServer).count stableId +
      (state.answered state.issued).count stableId +
      (state.manager.todo.map Prod.fst).count stableId := rfl

/-- Everything about the correlation id of a call that was told the server's id is over. -/
structure Settled (state : Session) (cid id : String) : Prop where
  call : cid ∈ state.cids
  given : (id, some cid) ∈ state.given
  unasked : ∀ operation ∈ state.queue ++ state.toServer, subscribeCid operation ≠ some cid
  issued : ∀ other, (other, some cid) ∈ state.issued → other = id
  confirmed : ∀ other, .subscribed other (some cid) ∉ state.toClient

/-- A subscription is asked for once on a connection, and not before its call hands over its
operation. -/
structure Single (state : Session) : Prop where
  load : ∀ stableId, state.load stableId ≤ 1
  early : ∀ call ∈ state.calls, call.stage.isEarly = true →
    state.load call.stableId = 0 ∧ state.told call.cid = none
  pending : ∀ cid ∈ state.pending, state.told cid = none
  stage : ∀ call ∈ state.calls, ∀ id, call.stage = .subscribed id → state.told call.cid = some id
  registered : ∀ call ∈ state.calls, call.Registered → ∃ id, state.told call.cid = some id
  told : ∀ cid id, state.told cid = some id → state.Settled cid id

/-- What is bound was given out for it; and an id of the current connection whose confirmation was
processed is bound. -/
structure Bindings (state : Session) : Prop where
  consistent : state.subscribers.Consistent
  given : ∀ stableId id, state.subscribers.Bound stableId id →
    ∃ cid, (id, some cid) ∈ state.given ∧ state.aim cid = some stableId
  processed : ∀ id cid stableId, (id, some cid) ∈ state.issued → state.aim cid = some stableId →
    (∀ c, .subscribed id c ∉ state.toClient) → state.subscribers.Holds stableId →
    state.subscribers.Bound stableId id

structure Tracked (state : Session) : Prop where
  identified : Identified state
  kept : Kept state
  lawful : Lawful state
  wire : Wire state
  single : Single state
  bindings : Bindings state

/-- A frame yields an id if it subscribes, and then the confirmation is all that is sent. -/
theorem served_cases (env : SessionEnv) (bus : BusAnswers) (operation : ClientOperation)
    (state : Session) :
    (issuedIn (state.served env bus operation).1 = [] ∧
        ∀ id, ∀ message ∈ (state.served env bus operation).1, ¬concerns id message) ∨
      ∃ id pattern priority c, operation = .subscribe pattern priority c ∧
        (state.served env bus operation).1 = [.subscribed id c] := by
  unfold served Connection.serveFrame
  split_ifs
  · exact .inl ⟨rfl, fun _ message hmem ↦ by simp [List.mem_singleton.mp hmem, concerns]⟩
  · cases Connection.outcome env.base64 bus state.connection operation with
    | answered _ answer messages_eq =>
      simp only [messages_eq]
      cases answer with
      | subscribed => exact .inr ⟨_, _, _, _, rfl, rfl⟩
      | _ => exact .inl ⟨rfl, fun _ message hmem ↦ by simp [List.mem_singleton.mp hmem, concerns]⟩
    | refused _ silent =>
      left
      constructor
      · refine List.filterMap_eq_nil_iff.mpr fun message hmem ↦ ?_
        obtain ⟨text, rfl⟩ := silent message hmem
        rfl
      · intro id message hmem
        obtain ⟨text, rfl⟩ := silent message hmem
        exact fun hconcerns ↦ hconcerns

theorem subscribe_of_mem_issuedIn (hmem : entry ∈ issuedIn (state.served env bus operation).1) :
    ∃ pattern priority, operation = .subscribe pattern priority entry.2 := by
  rcases served_cases env bus operation state with ⟨hnone, _⟩ | ⟨id, pattern, priority, c, rfl, heq⟩
  · rw [hnone] at hmem
    exact absurd hmem List.not_mem_nil
  · rw [heq] at hmem
    obtain rfl := List.mem_singleton.mp hmem
    exact ⟨pattern, priority, rfl⟩

/-- An operation that is with the manager, or on its way to the server. -/
inductive OperationAfter (env : SessionEnv) (state : Session) (operation : ClientOperation) : Prop
  | kept (before : operation ∈ state.queue ++ state.toServer)
  | called {call : Call} (mem : call ∈ state.calls) (stage : call.stage = .inserted)
      (operation_eq : operation = call.call.operation env call.cid)
  | left {serverId : String} (mem : serverId ∈ state.leaving)
      (operation_eq : operation = .unsubscribe serverId none)
  | again {stableId pattern ulid : String} {todo : List (String × String)}
      (manager : state.manager = .running ((stableId, pattern) :: todo))
      (operation_eq : operation = .subscribe pattern 0 (some (resubscribeCid stableId ulid)))

theorem Change.operationAfter (hchange : Change env state label next)
    (hmem : operation ∈ next.queue ++ next.toServer) : OperationAfter env state operation := by
  have hkept : operation ∈ state.queue ∨ operation ∈ state.toServer →
      OperationAfter env state operation := fun h ↦ .kept (List.mem_append.mpr h)
  rw [List.mem_append] at hmem
  cases hchange with
  | enqueue at_c stage running =>
    simp only [setStage, List.mem_append, List.mem_singleton] at hmem
    rcases hmem with (hqueue | hnew) | hsent
    · exact hkept (.inl hqueue)
    · exact .called (List.mem_of_getElem? at_c) stage hnew
    · exact hkept (.inr hsent)
  | sendUnsubscribe at_i running =>
    simp only [List.mem_append, List.mem_singleton] at hmem
    rcases hmem with (hqueue | hnew) | hsent
    · exact hkept (.inl hqueue)
    · exact .left (List.mem_of_getElem? at_i) hnew
    · exact hkept (.inr hsent)
  | discard manager queue => exact hkept (hmem.imp_left fun h ↦ queue ▸ List.mem_cons_of_mem _ h)
  | exit manager => exact hkept (hmem.imp_left fun h ↦ absurd h List.not_mem_nil)
  | resubscribe manager fresh =>
    simp only [List.mem_append, List.mem_singleton] at hmem
    rcases hmem with hqueue | hsent | hnew
    · exact hkept (.inl hqueue)
    · exact hkept (.inr hsent)
    · exact .again manager hnew
  | send manager queue =>
    simp only [List.mem_append, List.mem_singleton] at hmem
    rcases hmem with hqueue | hsent | rfl
    · exact hkept (.inl (queue ▸ List.mem_cons_of_mem _ hqueue))
    · exact hkept (.inr hsent)
    · exact hkept (.inl (queue ▸ List.mem_cons_self))
  | read manager toClient received => cases received <;> exact hkept hmem
  | disconnect up => exact hkept (hmem.imp_right fun h ↦ absurd h List.not_mem_nil)
  | serve up toServer short fresh =>
    exact hkept (hmem.imp_right fun h ↦ toServer ▸ List.mem_cons_of_mem _ h)
  | _ => exact hkept hmem

theorem Change.given (hchange : Change env state label next) : state.given ⊆ next.given := by
  cases hchange with
  | read manager toClient received => cases received <;> exact List.Subset.refl _
  | serve up toServer short fresh => exact List.subset_append_right _ _
  | _ => exact List.Subset.refl _

/-- The server gives out an id for an operation that was on its way. -/
theorem Change.issuedAfter (hchange : Change env state label next) (hmem : entry ∈ next.issued) :
    entry ∈ state.issued ∨ ∃ pattern priority, .subscribe pattern priority entry.2 ∈ state.toServer := by
  cases hchange with
  | read manager toClient received => cases received <;> exact .inl hmem
  | disconnect up => exact absurd hmem List.not_mem_nil
  | serve up toServer short fresh =>
    rcases List.mem_append.mp hmem with hold | hnew
    · exact .inl hold
    · obtain ⟨pattern, priority, rfl⟩ := subscribe_of_mem_issuedIn hnew
      exact .inr ⟨pattern, priority, toServer ▸ List.mem_cons_self⟩
  | _ => exact .inl hmem

theorem Change.subscribedAfter (hchange : Change env state label next) {c : Option String}
    (hmem : .subscribed id c ∈ next.toClient) :
    .subscribed id c ∈ state.toClient ∨
      ∃ pattern priority, .subscribe pattern priority c ∈ state.toServer := by
  cases hchange with
  | read manager toClient received =>
    left
    cases received <;> exact toClient ▸ List.mem_cons_of_mem _ hmem
  | disconnect up => exact absurd hmem List.not_mem_nil
  | serve up toServer short fresh =>
    rcases List.mem_append.mp hmem with hold | hnew
    · exact .inl hold
    · have hissued : (id, c) ∈ issuedIn _ := mem_issuedIn.mpr hnew
      obtain ⟨pattern, priority, rfl⟩ := subscribe_of_mem_issuedIn hissued
      exact .inr ⟨pattern, priority, toServer ▸ List.mem_cons_self⟩
  | event up issued =>
    rcases List.mem_append.mp hmem with hold | hnew
    · exact .inl hold
    · simp at hnew
  | _ => exact .inl hmem

theorem Change.asks (hchange : Change env state label next) (h : state.Asks cid) : next.Asks cid := by
  rcases h with hcall | ⟨stableId, htarget, hregistered⟩
  · left
    rcases hchange.names with ⟨heq, _⟩ | ⟨_, _, _, _, _, rfl⟩
    · exact heq ▸ hcall
    · obtain ⟨call, hmem, heq⟩ := List.mem_map.mp hcall
      exact List.mem_map.mpr ⟨call, List.mem_append_left _ hmem, heq⟩
  · exact .inr ⟨stableId, htarget, hchange.registered hregistered⟩

theorem asks_of_call (hmem : call ∈ state.calls) : state.Asks call.cid :=
  .inl (List.mem_map_of_mem hmem)

theorem isUlid_of_registered (h : Identified state) (hregistered : state.Registered stableId) :
    isUlid stableId = true := by
  obtain ⟨call, hmem, rfl, _⟩ := hregistered
  exact (h.generated _ (List.mem_append_right _ (List.mem_map_of_mem hmem))).1

theorem lawful_start (env : SessionEnv) : Lawful (start env) where
  queued _ hmem := absurd hmem List.not_mem_nil
  sent _ hmem := absurd hmem List.not_mem_nil
  given _ hmem := absurd hmem List.not_mem_nil
  todo _ hmem := absurd hmem List.not_mem_nil

/-- Nothing new is asked for. -/
theorem Lawful.kept (h : Lawful state) (hchange : Change env state label next)
    (hqueue : next.queue ⊆ state.queue) (hsent : next.toServer ⊆ state.toServer)
    (hgiven : next.given ⊆ state.given) (htodo : next.manager.todo ⊆ state.manager.todo) :
    Lawful next where
  queued operation hmem pattern priority c heq := by
    obtain ⟨cid, hcid, hc⟩ := h.queued operation (hqueue hmem) pattern priority c heq
    refine ⟨cid, ?_, hc⟩
    rcases hchange.names with ⟨hnames, _⟩ | ⟨_, _, _, _, _, rfl⟩
    · exact hnames ▸ hcid
    · obtain ⟨call, hcall, rfl⟩ := List.mem_map.mp hcid
      exact List.mem_map_of_mem (List.mem_append_left _ hcall)
  sent operation hmem pattern priority c heq := by
    obtain ⟨cid, hc, hasks⟩ := h.sent operation (hsent hmem) pattern priority c heq
    exact ⟨cid, hc, hchange.asks hasks⟩
  given entry hmem := by
    obtain ⟨cid, hc, hasks⟩ := h.given entry (hgiven hmem)
    exact ⟨cid, hc, hchange.asks hasks⟩
  todo entry hmem := hchange.registered (h.todo entry (htodo hmem))

theorem lawful_change (h : Tracked state) (hchange : Change env state label next) :
    Lawful next := by
  have hkept := h.lawful.kept hchange
  have hasks : ∀ cid, state.Asks cid → next.Asks cid := fun _ ↦ hchange.asks
  have hregistered : ∀ stableId, state.Registered stableId → next.Registered stableId :=
    fun _ ↦ hchange.registered
  cases hchange with
  | @enqueue c call at_c stage running =>
    have hmem := List.mem_of_getElem? at_c
    have hcids := (setStage_names c .waiting
      { state with queue := state.queue ++ [call.call.operation env call.cid] }).1
    constructor
    · intro operation hoperation pattern priority c heq
      rw [hcids]
      obtain hbefore | rfl := mem_of_concat hoperation
      · exact h.lawful.queued operation hbefore pattern priority c heq
      · refine ⟨call.cid, List.mem_map_of_mem hmem, ?_⟩
        have hcid := correlationId_operation env call.cid call.call
        rw [heq] at hcid
        exact hcid
    · intro operation hoperation pattern priority c heq
      obtain ⟨cid, hc, hbefore⟩ := h.lawful.sent operation hoperation pattern priority c heq
      exact ⟨cid, hc, hasks cid hbefore⟩
    · intro entry hentry
      obtain ⟨cid, hc, hbefore⟩ := h.lawful.given entry hentry
      exact ⟨cid, hc, hasks cid hbefore⟩
    · exact fun entry hentry ↦ hregistered _ (h.lawful.todo entry hentry)
  | sendUnsubscribe at_i running =>
    refine ⟨fun operation hoperation pattern priority c heq ↦ ?_, h.lawful.sent, h.lawful.given,
      h.lawful.todo⟩
    rcases List.mem_append.mp hoperation with hbefore | hnew
    · exact h.lawful.queued operation hbefore pattern priority c heq
    · simp [List.mem_singleton.mp hnew] at heq
  | discard manager queue =>
    refine hkept ?_ (List.Subset.refl _) (List.Subset.refl _) (List.nil_subset _)
    rw [queue]
    exact List.subset_cons_self _ _
  | exit manager =>
    exact hkept (List.nil_subset _) (List.Subset.refl _) (List.Subset.refl _) (List.nil_subset _)
  | @snapshot order manager perm =>
    refine ⟨h.lawful.queued, h.lawful.sent, h.lawful.given, fun entry hentry ↦ ?_⟩
    have hkey : entry.1 ∈ state.subscribers.activePatterns.map Prod.fst :=
      List.mem_map_of_mem (perm.subset hentry)
    rw [SubscriberRegistry.map_activePatterns h.bindings.consistent] at hkey
    exact ((h.kept.holds entry.1).mp hkey).1
  | @resubscribe ulid stableId pattern todo manager fresh =>
    have htodo : ∀ entry ∈ (stableId, pattern) :: todo, state.Registered entry.1 := by
      have hbefore := h.lawful.todo
      rwa [manager] at hbefore
    have hhead := htodo (stableId, pattern) List.mem_cons_self
    refine ⟨h.lawful.queued, fun operation hoperation pattern priority c heq ↦ ?_, h.lawful.given,
      fun entry hentry ↦ htodo entry (List.mem_cons_of_mem _ hentry)⟩
    rcases List.mem_append.mp hoperation with hbefore | hnew
    · exact h.lawful.sent operation hbefore pattern priority c heq
    · rw [List.mem_singleton.mp hnew] at heq
      obtain ⟨_, _, rfl⟩ := ClientOperation.subscribe.inj heq
      exact ⟨_, rfl, .inr ⟨stableId, resubscribeTarget_resubscribeCid
        (isUlid_of_registered h.identified hhead) ulid, hhead⟩⟩
  | @send operation rest manager queue =>
    refine ⟨fun other hother ↦ h.lawful.queued other (queue ▸ List.mem_cons_of_mem _ hother), ?_,
      h.lawful.given, h.lawful.todo⟩
    intro other hother pattern priority c heq
    obtain hbefore | rfl := mem_of_concat hother
    · exact h.lawful.sent other hbefore pattern priority c heq
    · obtain ⟨cid, hcid, hc⟩ :=
        h.lawful.queued other (queue ▸ List.mem_cons_self) pattern priority c heq
      exact ⟨cid, hc, .inl hcid⟩
  | disconnect up =>
    exact hkept (List.Subset.refl _) (List.nil_subset _) (List.Subset.refl _) (List.nil_subset _)
  | @serve bus operation rest up toServer short fresh =>
    refine ⟨h.lawful.queued, fun other hother ↦ h.lawful.sent other
      (toServer ▸ List.mem_cons_of_mem _ hother), fun entry hentry ↦ ?_, h.lawful.todo⟩
    rcases List.mem_append.mp hentry with hnew | hbefore
    · obtain ⟨pattern, priority, heq⟩ := subscribe_of_mem_issuedIn hnew
      exact h.lawful.sent operation (toServer ▸ List.mem_cons_self) pattern priority _ heq
    · exact h.lawful.given entry hbefore
  | read manager toClient received =>
    cases received with
    | bound message_eq target | _ => exact ⟨h.lawful.queued, h.lawful.sent, h.lawful.given, h.lawful.todo⟩
  | call fresh | insertPending | enqueueRefused | wake | wakeLost | register
  | unsubscribe | unsubscribeUnknown | dropUnsubscribe | event =>
    exact hkept (List.Subset.refl _) (List.Subset.refl _) (List.Subset.refl _) (List.Subset.refl _)
  | _ =>
    exact hkept (List.Subset.refl _) (List.Subset.refl _) (List.Subset.refl _) (List.nil_subset _)

theorem wire_start (env : SessionEnv) : Wire (start env) where
  down _ := ⟨rfl, rfl, rfl⟩
  distinct := List.nodup_nil
  issued _ hmem := absurd hmem List.not_mem_nil
  confirmed _ _ hmem := absurd hmem List.not_mem_nil
  events _ _ _ _ hmem := absurd hmem List.not_mem_nil
  order := List.Pairwise.nil

/-- Reading a message, or none, keeps the order of the others. -/
theorem Wire.kept (h : Wire state) (hgiven : next.given = state.given)
    (hissued : next.issued = state.issued) (hclient : next.toClient.Sublist state.toClient)
    (hdown : (∀ todo, next.manager ≠ .running todo) →
      next.toServer = [] ∧ next.toClient = [] ∧ next.issued = []) : Wire next where
  down := hdown
  distinct := hgiven ▸ h.distinct
  issued := by rw [hissued, hgiven]; exact h.issued
  confirmed id c hmem := hissued ▸ h.confirmed id c (hclient.subset hmem)
  events subject payload replySubject id hmem :=
    hissued ▸ h.events subject payload replySubject id (hclient.subset hmem)
  order := h.order.sublist hclient

theorem Wire.serve (h : Wire state) {rest : List ClientOperation}
    (htoServer : state.toServer = operation :: rest)
    (hfresh : ∀ entry ∈ issuedIn (state.served env bus operation).1, entry.1 ∉ state.given.map Prod.fst) :
    Wire { state with
      toServer := rest
      toClient := state.toClient ++ (state.served env bus operation).1
      connection := (state.served env bus operation).2
      given := issuedIn (state.served env bus operation).1 ++ state.given
      issued := state.issued ++ issuedIn (state.served env bus operation).1 } := by
  have hdown : (∀ todo, state.manager ≠ .running todo) → False := by
    intro hnot
    simp [(h.down hnot).1] at htoServer
  rcases served_cases env bus operation state with ⟨hnone, hquiet⟩ | ⟨id, pattern, priority, c, _, heq⟩
  · rw [hnone, List.append_nil, List.nil_append]
    refine ⟨fun hnot ↦ (hdown hnot).elim, h.distinct, h.issued, fun id c hmem ↦ ?_,
      fun subject payload replySubject id hmem ↦ ?_, ?_⟩
    · rcases List.mem_append.mp hmem with hbefore | hnew
      · exact h.confirmed id c hbefore
      · exact (hquiet id (.subscribed id c) hnew rfl).elim
    · rcases List.mem_append.mp hmem with hbefore | hnew
      · exact h.events subject payload replySubject id hbefore
      · exact (hquiet id (.event subject payload replySubject id) hnew rfl).elim
    · refine List.pairwise_append.mpr ⟨h.order, ?_, ?_⟩
      · refine List.pairwise_of_forall_mem_list fun first _ second hsecond id c heq ↦ ?_
        exact (hquiet id second hsecond (heq ▸ rfl)).elim
      · intro first _ second hsecond id c heq
        exact (hquiet id second hsecond (heq ▸ rfl)).elim
  · have hissuedIn : issuedIn (state.served env bus operation).1 = [(id, c)] := by rw [heq]; rfl
    rw [hissuedIn, List.forall_mem_singleton] at hfresh
    rw [hissuedIn, heq]
    refine ⟨fun hnot ↦ (hdown hnot).elim, List.nodup_cons.mpr ⟨hfresh, h.distinct⟩, ?_, ?_, ?_, ?_⟩
    · intro entry hmem
      obtain hbefore | rfl := mem_of_concat hmem
      · exact List.mem_cons_of_mem _ (h.issued entry hbefore)
      · exact List.mem_cons_self
    · intro id' c' hmem
      rcases List.mem_append.mp hmem with hbefore | hnew
      · exact List.mem_append_left _ (h.confirmed id' c' hbefore)
      · obtain ⟨rfl, rfl⟩ := ServerMessage.subscribed.inj (List.mem_singleton.mp hnew)
        exact List.mem_concat_self
    · intro subject payload replySubject id' hmem
      rcases List.mem_append.mp hmem with hbefore | hnew
      · rw [List.map_append]
        exact List.mem_append_left _ (h.events subject payload replySubject id' hbefore)
      · simp at hnew
    · refine List.pairwise_append.mpr ⟨h.order, List.pairwise_singleton _ _, ?_⟩
      intro first hfirst second hsecond id' c' hsubscribed hconcerns
      obtain ⟨rfl, rfl⟩ := ServerMessage.subscribed.inj
        ((List.mem_singleton.mp hsecond).symm.trans hsubscribed)
      -- what is under way is about ids that were given out
      have hgiven : id ∈ state.issued.map Prod.fst := by
        cases first with
        | event subject payload replySubject id' =>
          exact h.events subject payload replySubject id (hconcerns ▸ hfirst)
        | subscribed id' c' =>
          obtain rfl := hconcerns
          exact List.mem_map_of_mem (h.confirmed id' c' hfirst)
        | _ => exact hconcerns.elim
      obtain ⟨entry, hentry, rfl⟩ := List.mem_map.mp hgiven
      exact hfresh (List.mem_map.mpr ⟨entry, h.issued entry hentry, rfl⟩)

theorem wire_change (h : Wire state) (hchange : Change env state label next) : Wire next := by
  have hnil {l : List ServerMessage} : ([] : List ServerMessage).Sublist l := List.nil_sublist _
  cases hchange with
  | connect manager =>
    exact h.kept rfl rfl (List.Sublist.refl _) fun _ ↦ h.down (by simp [manager])
  | giveUp manager | connectFails manager | backoffOver manager | discard manager queue
  | exit manager | markDown manager | failPending manager | clearIds manager =>
    exact h.kept rfl rfl (List.Sublist.refl _) fun _ ↦ h.down (by simp [manager])
  | snapshot manager perm => exact h.kept rfl rfl (List.Sublist.refl _) fun hnot ↦ absurd rfl (hnot _)
  | resubscribe manager fresh =>
    exact h.kept rfl rfl (List.Sublist.refl _) fun hnot ↦ absurd rfl (hnot _)
  | send manager queue =>
    exact h.kept rfl rfl (List.Sublist.refl _) fun hnot ↦ absurd manager (hnot _)
  | read manager toClient received =>
    have hrest := toClient ▸ List.sublist_cons_self _ _
    cases received <;> exact h.kept rfl rfl hrest fun hnot ↦ absurd manager (hnot _)
  | disconnect up =>
    exact ⟨fun _ ↦ ⟨rfl, rfl, rfl⟩, h.distinct, fun _ hmem ↦ absurd hmem List.not_mem_nil,
      fun _ _ hmem ↦ absurd hmem List.not_mem_nil, fun _ _ _ _ hmem ↦ absurd hmem List.not_mem_nil,
      List.Pairwise.nil⟩
  | serve up toServer short fresh => exact h.serve toServer fresh
  | @event subscriptionId subject payload replySubject up issued =>
    refine ⟨fun hnot ↦ ?_, h.distinct, h.issued, fun id c hmem ↦ ?_,
      fun subject' payload' replySubject' id hmem ↦ ?_, ?_⟩
    · simp [(h.down hnot).2.2] at issued
    · rcases List.mem_append.mp hmem with hbefore | hnew
      · exact h.confirmed id c hbefore
      · simp at hnew
    · rcases List.mem_append.mp hmem with hbefore | hnew
      · exact h.events subject' payload' replySubject' id hbefore
      · obtain ⟨_, _, _, rfl⟩ := ServerMessage.event.inj (List.mem_singleton.mp hnew)
        exact issued
    · refine List.pairwise_append.mpr ⟨h.order, List.pairwise_singleton _ _, ?_⟩
      intro first _ second hsecond id c heq
      simp [List.mem_singleton.mp hsecond] at heq
  | _ => exact h.kept rfl rfl (List.Sublist.refl _) h.down

end Session

end Seidrum.Client
