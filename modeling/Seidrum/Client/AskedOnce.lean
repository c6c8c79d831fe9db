import Seidrum.Client.Bindings

/-!
# Each subscription is asked for once

On one connection there is at most one operation, or one answer to it, for each subscription.  So a
call that was told an id is done with its correlation id: nothing is under way for it any more.
-/

namespace Seidrum.Client

open Seidrum.Foundation Seidrum.EventBus

namespace Session

variable {env : SessionEnv} {state next : Session} {label : SessionLabel}

/-! ## How often a subscription is asked for -/

variable {cid : String} {operation : ClientOperation} {id : String} {operations : List ClientOperation}
  {stableId : String} {message : ServerMessage} {call : Call}

theorem aim_of_asks (h : Identified state) (hasks : state.Asks cid) :
    ∃ stableId, state.aim cid = some stableId := by
  rcases hasks with hcall | ⟨stableId, htarget, _⟩
  · obtain ⟨call, hmem, rfl⟩ := List.mem_map.mp hcall
    exact ⟨_, aim_of_call h hmem⟩
  · exact ⟨stableId, aim_of_target htarget⟩

theorem Lawful.asks_of_mem (h : Lawful state) (hmem : operation ∈ state.queue ++ state.toServer)
    (hcid : subscribeCid operation = some cid) : state.Asks cid := by
  cases operation with
  | subscribe pattern priority c =>
    rcases List.mem_append.mp hmem with hqueue | hsent
    · obtain ⟨cid', hmem', rfl⟩ := h.queued _ hqueue _ _ _ rfl
      exact .inl (Option.some.inj hcid ▸ hmem')
    · obtain ⟨cid', rfl, hasks⟩ := h.sent _ hsent _ _ _ rfl
      exact Option.some.inj hcid ▸ hasks
  | _ => simp [subscribeCid] at hcid

theorem Lawful.asks_of_given (h : Lawful state) (hmem : (id, some cid) ∈ state.given) : state.Asks cid := by
  obtain ⟨cid', heq, hasks⟩ := h.given _ hmem
  exact Option.some.inj heq ▸ hasks

section

variable (hchange : Change env state label next)
include hchange

theorem Change.aim_eq (h : Identified state) (hasks : state.Asks cid) : next.aim cid = state.aim cid := by
  obtain ⟨stableId, haim⟩ := aim_of_asks h hasks
  rw [haim, hchange.aim haim]

theorem Change.asked_eq (h : Identified state)
    (hasks : ∀ operation ∈ operations, ∀ cid, subscribeCid operation = some cid → state.Asks cid) :
    next.asked operations = state.asked operations := by
  refine List.filterMap_congr fun operation hmem ↦ ?_
  cases hcid : subscribeCid operation with
  | none => rfl
  | some cid => exact hchange.aim_eq h (hasks operation hmem cid hcid)

/-- After a step nothing is asked for that could not have been asked for before. -/
theorem Change.asks_of_mem (h : Tracked state) (hmem : operation ∈ next.queue ++ next.toServer)
    (hcid : subscribeCid operation = some cid) : state.Asks cid := by
  cases hchange.operationAfter hmem with
  | kept before => exact h.lawful.asks_of_mem before hcid
  | @called call mem stage operation_eq =>
    cases hkind : call.call with
    | subscribe pattern =>
      rw [operation_eq, hkind] at hcid
      exact Option.some.inj hcid ▸ asks_of_call mem
    | _ => simp [operation_eq, hkind, ClientCall.operation, subscribeCid] at hcid
  | left mem operation_eq => simp [operation_eq, subscribeCid] at hcid
  | @again stableId pattern ulid todo manager operation_eq =>
    have hhead : state.Registered stableId :=
      h.lawful.todo (stableId, pattern) (by rw [manager]; exact List.mem_cons_self)
    rw [operation_eq] at hcid
    cases hcid
    exact .inr ⟨stableId, resubscribeTarget_resubscribeCid
      (isUlid_of_registered h.identified hhead) ulid, hhead⟩

theorem Change.asks_of_issued (h : Tracked state) {entry : String × Option String}
    (hmem : entry ∈ next.issued) : ∃ cid, entry.2 = some cid ∧ state.Asks cid := by
  rcases hchange.issuedAfter hmem with hbefore | ⟨pattern, priority, hsent⟩
  · exact h.lawful.given entry (h.wire.issued entry hbefore)
  · exact h.lawful.sent _ hsent pattern priority _ rfl

/-- The load after a step, counted before it. -/
theorem Change.load_eq (h : Tracked state) (stableId : String) :
    next.load stableId = (state.asked next.queue).count stableId +
      (state.asked next.toServer).count stableId + (state.answered next.issued).count stableId +
      (next.manager.todo.map Prod.fst).count stableId := by
  have hqueue : next.asked next.queue = state.asked next.queue :=
    hchange.asked_eq h.identified fun operation hmem cid ↦
      hchange.asks_of_mem h (List.mem_append_left _ hmem)
  have hsent : next.asked next.toServer = state.asked next.toServer :=
    hchange.asked_eq h.identified fun operation hmem cid ↦
      hchange.asks_of_mem h (List.mem_append_right _ hmem)
  have hissued : next.answered next.issued = state.answered next.issued := by
    refine List.filterMap_congr fun entry hmem ↦ ?_
    obtain ⟨cid, hcid, hasks⟩ := hchange.asks_of_issued h hmem
    rw [hcid]
    exact hchange.aim_eq h.identified hasks
  rw [load, hqueue, hsent, hissued]

end

theorem count_asked_le (state : Session) {first rest : List ClientOperation} (h : first.Sublist rest)
    (stableId : String) :
    (state.asked first).count stableId ≤ (state.asked rest).count stableId :=
  (h.filterMap _).count_le stableId

/-- A registered subscription is not asked for by a call any more. -/
theorem Tracked.asked_queue (h : Tracked state) (hregistered : state.Registered stableId) :
    (state.asked state.queue).count stableId = 0 := by
  refine List.count_eq_zero.mpr fun hmem ↦ ?_
  obtain ⟨operation, hoperation, haim⟩ := List.mem_filterMap.mp hmem
  obtain ⟨cid, hcid, haim⟩ := Option.bind_eq_some_iff.mp haim
  obtain ⟨call, hcall, hstable, hdone⟩ := hregistered
  cases operation with
  | subscribe pattern priority c =>
    obtain ⟨cid', hmem', rfl⟩ := h.lawful.queued _ hoperation _ _ _ rfl
    obtain rfl := Option.some.inj hcid
    obtain ⟨other, hother, rfl⟩ := List.mem_map.mp hmem'
    rw [aim_of_call h.identified hother] at haim
    obtain rfl := h.identified.eq_of_stableId hother hcall
      ((Option.some.inj haim).trans hstable.symm)
    obtain ⟨id, htold⟩ := h.single.registered other hcall hdone
    exact (h.single.told _ id htold).unasked _ (List.mem_append_left _ hoperation) rfl
  | _ => simp [subscribeCid] at hcid

/-- The load does not grow, except for a subscription whose call hands over its operation, and for
those the manager is about to ask for again. -/
inductive LoadAfter (state : Session) (label : SessionLabel) (stableId : String) (load : ℕ) : Prop
  | kept (le : load ≤ state.load stableId)
  | enqueued {c : ℕ} {call : Call} (label_eq : label = .enqueue c)
      (at_c : state.calls[c]? = some call) (stage : call.stage = .inserted)
      (stable_eq : call.stableId = stableId) (le : load ≤ 1)
  | again (registered : state.Registered stableId) (le : load ≤ 1)

theorem asked_append (first rest : List ClientOperation) :
    state.asked (first ++ rest) = state.asked first ++ state.asked rest := List.filterMap_append

theorem asked_cons (operation : ClientOperation) (rest : List ClientOperation) :
    state.asked (operation :: rest) = state.asked [operation] ++ state.asked rest :=
  asked_append [operation] rest

theorem answered_append (first rest : List (String × Option String)) :
    state.answered (first ++ rest) = state.answered first ++ state.answered rest :=
  List.filterMap_append

theorem count_answered_issuedIn_le (env : SessionEnv) (state : Session) (bus : BusAnswers)
    (operation : ClientOperation) (stableId : String) :
    (state.answered (issuedIn (state.served env bus operation).1)).count stableId ≤
      (state.asked [operation]).count stableId := by
  rcases served_cases env bus operation state with ⟨hnone, _⟩ | ⟨id, pattern, priority, c, rfl, heq⟩
  · rw [hnone]
    exact Nat.zero_le _
  · rw [heq]
    exact le_refl _

theorem Change.loadAfter (hchange : Change env state label next) (h : Tracked state)
    (stableId : String) : LoadAfter state label stableId (next.load stableId) := by
  have heq := hchange.load_eq h stableId
  generalize next.load stableId = after at heq ⊢
  have hload := load_def state stableId
  cases hchange with
  | @enqueue c call at_c stage running =>
    simp only [setStage, asked_append, List.count_append] at heq
    by_cases hstable : call.stableId = stableId
    · have hzero := (h.single.early call (List.mem_of_getElem? at_c) (by rw [stage]; rfl)).1
      have hone : (state.asked [call.call.operation env call.cid]).count stableId ≤ 1 :=
        List.count_le_length.trans (List.length_filterMap_le _ _)
      rw [hstable] at hzero
      exact .enqueued rfl at_c stage hstable (by omega)
    · have hnone : (state.asked [call.call.operation env call.cid]).count stableId = 0 := by
        refine List.count_eq_zero.mpr fun hmem ↦ ?_
        obtain ⟨operation, hoperation, haim⟩ := List.mem_filterMap.mp hmem
        obtain rfl := List.mem_singleton.mp hoperation
        obtain ⟨cid, hcid, haim⟩ := Option.bind_eq_some_iff.mp haim
        cases hkind : call.call with
        | subscribe pattern =>
          rw [hkind] at hcid
          cases hcid
          rw [aim_of_call h.identified (List.mem_of_getElem? at_c)] at haim
          exact hstable (Option.some.inj haim)
        | _ => simp [hkind, ClientCall.operation, subscribeCid] at hcid
      exact .kept (by omega)
  | @sendUnsubscribe i serverId at_i running =>
    have hnone : state.asked [.unsubscribe serverId none] = [] := rfl
    simp only [asked_append, hnone, List.append_nil] at heq
    exact .kept heq.le
  | @discard operation rest manager queue =>
    have hrest := count_asked_le state (queue ▸ List.sublist_cons_self operation rest)
      stableId
    simp only [Manager.todo, List.map_nil, List.count_nil] at heq
    exact .kept (by omega)
  | exit manager =>
    have hnone : state.asked [] = [] := rfl
    simp only [hnone, Manager.todo, List.map_nil, List.count_nil] at heq
    exact .kept (by omega)
  | @snapshot order manager perm =>
    have hdown := h.wire.down (by simp [manager])
    have hnone : state.asked [] = [] ∧ state.answered [] = [] := ⟨rfl, rfl⟩
    simp only [hdown.1, hdown.2.2, hnone.1, hnone.2, Manager.todo, List.count_nil] at heq hload
    have hkeys : (order.map Prod.fst).Perm state.subscribers.byStableId.keys :=
      SubscriberRegistry.map_activePatterns h.bindings.consistent ▸ perm.map Prod.fst
    have hnodup : (order.map Prod.fst).Nodup :=
      hkeys.nodup_iff.mpr (AList.keys_nodup state.subscribers.byStableId)
    have hone := List.nodup_iff_count_le_one.mp hnodup stableId
    by_cases hheld : state.subscribers.Holds stableId
    · have hregistered := ((h.kept.holds stableId).mp hheld).1
      have hqueue := h.asked_queue hregistered
      exact .again hregistered (by omega)
    · have hzero : (order.map Prod.fst).count stableId = 0 :=
        List.count_eq_zero.mpr fun hmem ↦ hheld (hkeys.subset hmem)
      exact .kept (by omega)
  | @resubscribe ulid target pattern todo manager fresh =>
    have hhead : state.Registered target :=
      h.lawful.todo (target, pattern) (by rw [manager]; exact List.mem_cons_self)
    have haim : state.aim (resubscribeCid target ulid) = some target :=
      aim_of_target (resubscribeTarget_resubscribeCid (isUlid_of_registered h.identified hhead) ulid)
    have hasked : state.asked [.subscribe pattern 0 (some (resubscribeCid target ulid))] =
        [target] := by
      simp [asked, subscribeCid, haim]
    simp only [asked_append, hasked, List.count_append, manager, Manager.todo, List.map_cons]
      at heq hload
    rw [← List.singleton_append, List.count_append] at hload
    exact .kept (by omega)
  | @send operation rest manager queue =>
    simp only [asked_append, List.count_append] at heq
    simp only [queue, asked_cons operation rest, List.count_append] at hload
    exact .kept (by omega)
  | read manager toClient received => cases received <;> exact .kept heq.le
  | disconnect up =>
    have hnone : state.asked [] = [] ∧ state.answered [] = [] := ⟨rfl, rfl⟩
    simp only [hnone.1, hnone.2, Manager.todo, List.map_nil, List.count_nil] at heq
    exact .kept (by omega)
  | @serve bus operation rest up toServer short fresh =>
    have hissued := count_answered_issuedIn_le env state bus operation stableId
    simp only [answered_append, List.count_append] at heq
    simp only [toServer, asked_cons operation rest, List.count_append] at hload
    exact .kept (by omega)
  | connect manager | giveUp manager | connectFails manager | backoffOver manager
  | markDown manager | failPending manager | clearIds manager =>
    simp only [failAllPending, manager, Manager.todo] at heq hload
    exact .kept (by omega)
  | _ => exact .kept heq.le

theorem told_congr (h : next.replies = state.replies) (cid : String) :
    next.told cid = state.told cid := by
  rw [told, told, h]

/-- What is told comes in an answer that is read. -/
inductive ToldAfter (env : SessionEnv) (state next : Session) (cid : String) : Prop
  | kept (eq : next.told cid = state.told cid)
  | read {message : ServerMessage} {reply : PendingReply} (waits : cid ∈ state.pending)
      (gone : cid ∉ next.pending) (manager : state.manager = .running [])
      (toClient : state.toClient = message :: next.toClient) (answers : Answers env message cid reply)
      (replies : next.replies = (cid, reply) :: state.replies)
      (queue : next.queue = state.queue) (toServer : next.toServer = state.toServer)
      (given : next.given = state.given) (issued : next.issued = state.issued)
      (calls : next.calls = state.calls)

theorem Change.toldAfter (hchange : Change env state label next) (cid : String) :
    ToldAfter env state next cid := by
  cases hchange with
  | read manager toClient received =>
    cases received with
    | @answered other reply answers waits =>
      by_cases hcid : cid = other
      · subst hcid
        exact .read waits (by simp) manager toClient answers rfl rfl rfl rfl rfl rfl
      · refine .kept ?_
        have hne : (cid == other) = false := beq_eq_false_iff_ne.mpr hcid
        simp [told, List.lookup_cons, hne]
    | _ => exact .kept (told_congr rfl cid)
  | _ => exact .kept (told_congr rfl cid)

theorem Change.told_kept (hchange : Change env state label next) (h : Single state)
    (htold : state.told cid = some id) : next.told cid = some id := by
  cases hchange.toldAfter cid with
  | kept eq => rw [eq, htold]
  | read waits => simp [h.pending cid waits] at htold

theorem told_of_cons {reply : PendingReply} (hanswers : Answers env message cid reply)
    (hreplies : next.replies = (cid, reply) :: state.replies) (htold : next.told cid = some id) :
    message = .subscribed id (some cid) := by
  rw [told_eq_some_iff, hreplies, List.lookup_cons_self] at htold
  cases htold
  cases hanswers
  rfl

theorem one_le_load (hissued : (id, some cid) ∈ state.issued) (haim : state.aim cid = some stableId) :
    1 ≤ (state.answered state.issued).count stableId := by
  refine List.one_le_count_iff.mpr (List.mem_filterMap.mpr ⟨_, hissued, ?_⟩)
  exact haim

theorem one_le_asked (hmem : operation ∈ operations) (hcid : subscribeCid operation = some cid)
    (haim : state.aim cid = some stableId) : 1 ≤ (state.asked operations).count stableId := by
  refine List.one_le_count_iff.mpr (List.mem_filterMap.mpr ⟨_, hmem, ?_⟩)
  rw [hcid]
  exact haim

/-- A subscription has one id on a connection. -/
theorem Single.issued_unique (h : Single state) {first second : String × Option String}
    (hfirst : first ∈ state.issued) (hsecond : second ∈ state.issued)
    (haimFirst : first.2.bind state.aim = some stableId)
    (haimSecond : second.2.bind state.aim = some stableId) : first = second := by
  by_contra hne
  have htwo : 2 ≤ (state.answered state.issued).count stableId := by
    obtain ⟨l₁, l₂, heq⟩ := List.append_of_mem hfirst
    rw [heq, answered_append, List.count_append]
    have hhead : state.answered (first :: l₂) = stableId :: state.answered l₂ := by
      simp [answered, haimFirst]
    rw [hhead, List.count_cons_self]
    have hrest : second ∈ l₁ ∨ second ∈ l₂ := by
      rw [heq, List.mem_append, List.mem_cons] at hsecond
      rcases hsecond with hmem | rfl | hmem
      · exact .inl hmem
      · exact absurd rfl hne
      · exact .inr hmem
    have hone {entries : List (String × Option String)} (hmem : second ∈ entries) :
        1 ≤ (state.answered entries).count stableId :=
      List.one_le_count_iff.mpr (List.mem_filterMap.mpr ⟨_, hmem, haimSecond⟩)
    rcases hrest with hmem | hmem
    all_goals
      have := hone hmem
      omega
  have hload := h.load stableId
  rw [load_def] at hload
  omega

/-! ## Nothing is asked for twice -/

theorem single_start (env : SessionEnv) : Single (start env) where
  load _ := Nat.zero_le _
  early _ hmem := absurd hmem List.not_mem_nil
  pending _ hmem := absurd hmem List.not_mem_nil
  stage _ hmem := absurd hmem List.not_mem_nil
  registered _ hmem := absurd hmem List.not_mem_nil
  told _ _ htold := by simp [told, start] at htold

theorem Change.load_le_one (hchange : Change env state label next) (h : Tracked state)
    (stableId : String) : next.load stableId ≤ 1 := by
  cases hchange.loadAfter h stableId with
  | kept le => exact le.trans (h.single.load stableId)
  | enqueued label_eq at_c stage stable_eq le | again registered le => exact le

/-- A subscription that is asked for is that of a call. -/
theorem mem_stableIds_of_asks (h : Identified state) (hasks : state.Asks cid)
    (haim : state.aim cid = some stableId) : stableId ∈ state.stableIds := by
  rcases hasks with hcall | ⟨target, htarget, call, hmem, hstable, _⟩
  · obtain ⟨call, hmem, rfl⟩ := List.mem_map.mp hcall
    rw [aim_of_call h hmem] at haim
    exact Option.some.inj haim ▸ List.mem_map_of_mem hmem
  · rw [aim_of_target htarget] at haim
    cases haim
    exact hstable ▸ List.mem_map_of_mem hmem

theorem Tracked.load_of_not_mem (h : Tracked state) (hnot : stableId ∉ state.stableIds) :
    state.load stableId = 0 := by
  have hasked {operations : List ClientOperation}
      (hsub : operations ⊆ state.queue ++ state.toServer) :
      (state.asked operations).count stableId = 0 := by
    refine List.count_eq_zero.mpr fun hmem ↦ hnot ?_
    obtain ⟨operation, hoperation, haim⟩ := List.mem_filterMap.mp hmem
    obtain ⟨cid, hcid, haim⟩ := Option.bind_eq_some_iff.mp haim
    exact mem_stableIds_of_asks h.identified (h.lawful.asks_of_mem (hsub hoperation) hcid) haim
  have hissued : (state.answered state.issued).count stableId = 0 := by
    refine List.count_eq_zero.mpr fun hmem ↦ hnot ?_
    obtain ⟨⟨id, c⟩, hentry, haim⟩ := List.mem_filterMap.mp hmem
    obtain ⟨cid, rfl, haim⟩ := Option.bind_eq_some_iff.mp haim
    exact mem_stableIds_of_asks h.identified
      (h.lawful.asks_of_given (h.wire.issued _ hentry)) haim
  have htodo : (state.manager.todo.map Prod.fst).count stableId = 0 := by
    refine List.count_eq_zero.mpr fun hmem ↦ hnot ?_
    obtain ⟨entry, hentry, rfl⟩ := List.mem_map.mp hmem
    obtain ⟨call, hcall, hstable, _⟩ := h.lawful.todo entry hentry
    exact hstable ▸ List.mem_map_of_mem hcall
  rw [load_def, hasked (List.subset_append_left _ _), hasked (List.subset_append_right _ _), hissued,
    htodo]

theorem told_of_fresh (h : Identified state) (hulid : isUlid cid = true) (hnew : cid ∉ state.usedIds) :
    state.told cid = none := by
  by_contra htold
  obtain ⟨id, htold⟩ := Option.ne_none_iff_exists'.mp htold
  obtain ⟨l₁, l₂, heq, _⟩ := List.lookup_eq_some_iff.mp (told_eq_some_iff.mp htold)
  have hmem : (cid, PendingReply.subscribed id) ∈ state.replies :=
    heq ▸ List.mem_append_right l₁ List.mem_cons_self
  exact hnew (h.mentioned cid (mem_mentioned.mpr (.inr (.inr (.inr (.inr ⟨_, hmem, rfl⟩))))) hulid)

/-- A call that stays early is not asked for, and is told nothing. -/
theorem Change.early_kept (hchange : Change env state label next) (h : Tracked state) {old : Call}
    (hold : old ∈ state.calls) (hearly : old.stage.isEarly = true) (hmem : call ∈ next.calls)
    (hstill : call.stage.isEarly = true) (hcid : call.cid = old.cid) :
    next.load old.stableId = 0 ∧ next.told old.cid = none := by
  obtain ⟨hload, htold⟩ := h.single.early old hold hearly
  constructor
  · cases hchange.loadAfter h old.stableId with
    | kept le => omega
    | @enqueued c other label_eq at_c stage stable_eq le =>
      obtain rfl := h.identified.eq_of_stableId (List.mem_of_getElem? at_c) hold stable_eq
      -- the call that hands over its operation is not early any more
      have hmoved : ∃ moved ∈ next.calls, moved.cid = other.cid ∧ moved.stage.isEarly = false := by
        subst label_eq
        have hself {stage : CallStage} {before : Session} (hat : before.calls[c]? = some other)
            (hlate : stage.isEarly = false) : ∃ moved ∈ (before.setStage c stage).calls,
              moved.cid = other.cid ∧ moved.stage.isEarly = false :=
          ⟨_, List.mem_of_getElem? (getElem?_setStage_self hat), rfl, hlate⟩
        cases hchange with
        | enqueueRefused | enqueue => exact hself at_c rfl
      obtain ⟨moved, hmoved, hsame, hlate⟩ := hmoved
      obtain rfl := (h.identified.change hchange).eq_of_cid hmoved hmem (hsame.trans hcid.symm)
      simp [hstill] at hlate
    | again registered le =>
      obtain ⟨other, hother, hstable, _, hreturned⟩ := registered
      obtain rfl := h.identified.eq_of_stableId hother hold hstable
      simp [hreturned, CallStage.isEarly] at hearly
  · cases hchange.toldAfter old.cid with
    | kept eq => rw [eq, htold]
    | read waits gone manager toClient answers replies queue toServer given issued calls =>
      by_contra htold'
      obtain ⟨id, htold'⟩ := Option.ne_none_iff_exists'.mp htold'
      have hmessage := told_of_cons answers replies htold'
      have hissued := h.wire.confirmed id (some old.cid)
        (toClient ▸ hmessage ▸ List.mem_cons_self)
      have hone := one_le_load hissued (aim_of_call h.identified hold)
      rw [load_def] at hload
      omega

theorem Change.early (hchange : Change env state label next) (h : Tracked state) (hmem : call ∈ next.calls)
    (hearly : call.stage.isEarly = true) : next.load call.stableId = 0 ∧ next.told call.cid = none := by
  have honReply (clientCall : ClientCall) (reply : PendingReply) :
      (clientCall.onReply reply).isEarly = false := by
    unfold ClientCall.onReply
    split <;> rfl
  cases hchange.callAfter hmem with
  | kept before => exact hchange.early_kept h before hearly hmem hearly rfl
  | @new clientCall cid stableId label_eq fresh call_eq =>
    simp only [freshIds, List.all_cons, List.all_nil, Bool.and_true, Bool.and_eq_true,
      decide_eq_true_eq] at fresh
    obtain ⟨⟨⟨hcid, hcidNew⟩, _, hstableNew⟩, _⟩ := fresh
    have hnot : stableId ∉ state.stableIds := fun hmem ↦
      hstableNew (h.identified.generated stableId (List.mem_append_right _ hmem)).2
    have hzero := h.load_of_not_mem hnot
    have htold := told_of_fresh h.identified hcid hcidNew
    rw [call_eq]
    constructor
    · cases hchange.loadAfter h stableId with
      | kept le => exact Nat.le_zero.mp (hzero ▸ le)
      | enqueued label_eq' => simp [label_eq] at label_eq'
      | again registered le =>
        obtain ⟨other, hother, hstable, _⟩ := registered
        exact absurd (hstable ▸ List.mem_map_of_mem hother) hnot
    · subst label_eq
      cases hchange with
      | call => exact htold
  | inserted before stage call_eq =>
    have hmem' := List.mem_of_getElem? before
    have hkept := hchange.early_kept h hmem' (by rw [stage]; rfl) hmem hearly (by rw [call_eq])
    rw [call_eq]
    exact hkept
  | enqueued before stage call_eq | failed before stage isError call_eq =>
    simp [call_eq, CallStage.isEarly] at hearly
  | told before stage told call_eq => simp [call_eq, honReply] at hearly
  | registered before label_eq stage subscribes call_eq =>
    simp [call_eq, CallStage.isEarly] at hearly

/-- A correlation id that gets a sender is that of a call that has none yet. -/
theorem Change.pendingAfter (hchange : Change env state label next) (hmem : cid ∈ next.pending) :
    cid ∈ state.pending ∨ ∃ call ∈ state.calls, call.stage = .checked ∧ call.cid = cid := by
  cases hchange with
  | insertPending at_c stage =>
    rcases List.mem_cons.mp hmem with rfl | hbefore
    · exact .inr ⟨_, List.mem_of_getElem? at_c, stage, rfl⟩
    · exact .inl hbefore
  | enqueueRefused => exact .inl (List.mem_of_mem_filter hmem)
  | giveUp | failPending => exact absurd hmem List.not_mem_nil
  | read manager toClient received =>
    left
    cases received with
    | answered => exact List.mem_of_mem_filter hmem
    | _ => exact hmem
  | _ => exact .inl hmem

/-- What was over stays over. -/
theorem Settled.change (hchange : Change env state label next) (h : Tracked state)
    (hsettled : state.Settled cid id) (htold : state.told cid = some id) : next.Settled cid id := by
  have hunsent {pattern : String} {priority : ℕ}
      (hmem : .subscribe pattern priority (some cid) ∈ state.toServer) : False :=
    hsettled.unasked _ (List.mem_append_right _ hmem) rfl
  obtain ⟨call, hcall, rfl⟩ := List.mem_map.mp hsettled.call
  constructor
  · rcases hchange.names with ⟨heq, _⟩ | ⟨_, _, _, _, _, rfl⟩
    · exact heq ▸ hsettled.call
    · exact List.mem_map_of_mem (List.mem_append_left _ hcall)
  · exact hchange.given hsettled.given
  · intro operation hmem hcid
    cases hchange.operationAfter hmem with
    | kept before => exact hsettled.unasked operation before hcid
    | @called other hother stage operation_eq =>
      have hother_told := (h.single.early other hother (by rw [stage]; rfl)).2
      cases hkind : other.call with
      | subscribe pattern =>
        rw [operation_eq, hkind] at hcid
        rw [Option.some.inj hcid, htold] at hother_told
        exact Option.some_ne_none _ hother_told
      | _ => simp [operation_eq, hkind, ClientCall.operation, subscribeCid] at hcid
    | left mem operation_eq => simp [operation_eq, subscribeCid] at hcid
    | again manager operation_eq =>
      rw [operation_eq] at hcid
      have hulid := (h.identified.generated _ (List.mem_append_left _ hsettled.call)).1
      rw [← Option.some.inj hcid, not_isUlid_resubscribeCid] at hulid
      simp at hulid
  · intro other hmem
    rcases hchange.issuedAfter hmem with hbefore | ⟨pattern, priority, hsent⟩
    · exact hsettled.issued other hbefore
    · exact (hunsent hsent).elim
  · intro other hmem
    rcases hchange.subscribedAfter hmem with hbefore | ⟨pattern, priority, hsent⟩
    · exact hsettled.confirmed other hbefore
    · exact hunsent hsent

/-- With the confirmation read, everything about the correlation id is over. -/
theorem Tracked.settled_of_read (h : Tracked state) (hpending : cid ∈ state.pending)
    (htoClient : state.toClient = message :: next.toClient) (hmessage : message = .subscribed id (some cid))
    (hqueue : next.queue = state.queue) (htoServer : next.toServer = state.toServer)
    (hgiven : next.given = state.given) (hissued : next.issued = state.issued)
    (hcalls : next.calls = state.calls) : next.Settled cid id := by
  have hcid : cid ∈ state.cids := h.identified.pending cid hpending
  obtain ⟨call, hcall, rfl⟩ := List.mem_map.mp hcid
  have haim := aim_of_call h.identified hcall
  have hentry : (id, some call.cid) ∈ state.issued :=
    h.wire.confirmed id _ (htoClient ▸ hmessage ▸ List.mem_cons_self)
  have hone := one_le_load hentry haim
  have hload := h.single.load call.stableId
  rw [load_def] at hload
  have hunique (other : String) (hother : (other, some call.cid) ∈ state.issued) : other = id :=
    congrArg Prod.fst (h.single.issued_unique hother hentry haim haim)
  constructor
  · rw [cids, hcalls]
    exact hcid
  · exact hgiven ▸ h.wire.issued _ hentry
  · rw [hqueue, htoServer]
    intro operation hmem hasks
    rcases List.mem_append.mp hmem with hmem | hmem
    all_goals
      have htwo := one_le_asked hmem hasks haim
      omega
  · exact hissued ▸ hunique
  · intro other hmem
    have hbefore : .subscribed other (some call.cid) ∈ state.toClient :=
      htoClient ▸ List.mem_cons_of_mem _ hmem
    obtain rfl := hunique other (h.wire.confirmed other _ hbefore)
    -- an id is not confirmed twice
    have horder := h.wire.order
    rw [htoClient, hmessage] at horder
    exact (List.pairwise_cons.mp horder).1 _ hmem _ _ rfl rfl

theorem single_change (h : Tracked state) (hchange : Change env state label next) :
    Single next where
  load := hchange.load_le_one h
  early _ hmem hearly := hchange.early h hmem hearly
  pending cid hmem := by
    have hbefore : state.told cid = none := by
      rcases hchange.pendingAfter hmem with hpending | ⟨call, hcall, hstage, rfl⟩
      · exact h.single.pending cid hpending
      · exact (h.single.early call hcall (by rw [hstage]; rfl)).2
    cases hchange.toldAfter cid with
    | kept eq => rw [eq, hbefore]
    | read waits gone => exact absurd hmem gone
  stage call hmem id hstage := by
    cases hchange.callAfter hmem with
    | kept before => exact hchange.told_kept h.single (h.single.stage call before id hstage)
    | new label_eq fresh call_eq =>
      rw [call_eq] at hstage
      dsimp only at hstage
      split_ifs at hstage
    | inserted before stage call_eq | enqueued before stage call_eq => simp [call_eq] at hstage
    | @told c old reply before stage told call_eq =>
      have hreply : reply = .subscribed id := by
        rw [call_eq] at hstage
        dsimp only at hstage
        unfold ClientCall.onReply at hstage
        split at hstage <;> simp_all
      rw [call_eq]
      exact hchange.told_kept h.single (told_eq_some_iff.mpr (hreply ▸ told))
    | failed before stage isError call_eq | registered before label_eq stage subscribes call_eq =>
      simp [call_eq] at hstage
  registered call hmem hdone := by
    have hkept (old : Call) (htold : ∃ id, state.told old.cid = some id) :
        ∃ id, next.told old.cid = some id :=
      htold.imp fun _ ↦ hchange.told_kept h.single
    cases hchange.callAfter hmem with
    | kept before => exact hkept call (h.single.registered call before hdone)
    | registered before label_eq stage subscribes call_eq =>
      rw [call_eq]
      exact hkept _ ⟨_, h.single.stage _ (List.mem_of_getElem? before) _ stage⟩
    | new label_eq fresh call_eq =>
      have hstage := hdone.2
      rw [call_eq] at hstage
      dsimp only at hstage
      split_ifs at hstage
      simp at hstage
    | inserted before stage call_eq | enqueued before stage call_eq =>
      simp [call_eq, Call.Registered] at hdone
    | told before stage told call_eq =>
      obtain ⟨⟨pattern, hsubscribes⟩, hstage⟩ := hdone
      rw [call_eq] at hstage hsubscribes
      exact absurd hstage (onReply_subscribe_ne hsubscribes _)
    | failed before stage isError call_eq =>
      have hstage := hdone.2
      rw [call_eq] at hstage
      obtain rfl := CallStage.returned.inj hstage
      simp [Except.isOk, Except.toBool] at isError
  told cid id htold := by
    cases hchange.toldAfter cid with
    | kept eq => exact (h.single.told cid id (eq ▸ htold)).change hchange h (eq ▸ htold)
    | read waits gone manager toClient answers replies queue toServer given issued calls =>
      exact h.settled_of_read waits toClient (told_of_cons answers replies htold) queue toServer
        given issued calls

end Session

end Seidrum.Client
