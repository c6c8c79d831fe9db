import Seidrum.Client.AskedOnce

/-!
# The bindings of the registry

Whatever the registry binds a subscription to was given out for that subscription.  In the other
direction, an id of the current connection is bound as soon as its confirmation was processed, if
the subscription is in the registry; for one that registers later, the id it was told is the one of
the connection, or the connection is gone.
-/

namespace Seidrum.Client

open Seidrum.Foundation Seidrum.EventBus

namespace Session

variable {env : SessionEnv} {state next : Session} {label : SessionLabel}
  {id cid stableId other : String} {call : Call}

theorem Wire.cid_unique (h : Wire state) {first second : Option String}
    (hfirst : (id, first) ∈ state.given) (hsecond : (id, second) ∈ state.given) : first = second :=
  congrArg Prod.snd (List.inj_on_of_nodup_map h.distinct hfirst hsecond rfl)

theorem Tracked.not_bound (h : Tracked state) (hgiven : (id, some cid) ∈ state.given)
    (haim : state.aim cid = some stableId) (hne : other ≠ stableId) :
    ¬state.subscribers.Bound other id := by
  intro hbound
  obtain ⟨cid', hgiven', haim'⟩ := h.bindings.given other id hbound
  obtain rfl := Option.some.inj (h.wire.cid_unique hgiven' hgiven)
  exact hne (Option.some.inj (haim'.symm.trans haim))

theorem Tracked.aim_of_stage (h : Tracked state) (hmem : call ∈ state.calls)
    (hstage : call.stage = .subscribed id) :
    (id, some call.cid) ∈ state.given ∧ state.aim call.cid = some call.stableId :=
  ⟨(h.single.told _ _ (h.single.stage call hmem id hstage)).given, aim_of_call h.identified hmem⟩

/-- An id of the connection for a subscription that is not in the registry yet is the one its call
was told. -/
theorem Tracked.issued_of_stage (h : Tracked state) (hmem : call ∈ state.calls)
    (hstage : call.stage = .subscribed id) (hissued : (other, some cid) ∈ state.issued)
    (haim : state.aim cid = some call.stableId) : other = id ∧ cid = call.cid := by
  rcases aim_cases haim with htarget | ⟨before, hbefore, rfl, hstable⟩
  · rcases h.lawful.asks_of_given (h.wire.issued _ hissued) with hcall | ⟨target, htarget', hdone⟩
    · have hulid := (h.identified.generated cid (List.mem_append_left _ hcall)).1
      simp [resubscribeTarget_of_isUlid hulid] at htarget
    · obtain rfl := Option.some.inj (htarget.symm.trans htarget')
      exact absurd hdone (not_registered_of_stage h.identified hmem hstage)
  · obtain rfl := h.identified.eq_of_stableId hbefore hmem hstable
    exact ⟨(h.single.told _ _ (h.single.stage _ hmem id hstage)).issued other hissued, rfl⟩

theorem bindings_start (env : SessionEnv) : Bindings (start env) where
  consistent := SubscriberRegistry.consistent_empty
  given stableId _ hbound := absurd hbound.holds (AList.notMem_empty stableId)
  processed _ _ _ hmem := absurd hmem List.not_mem_nil

/-- What is known of the bindings if the registry does not change. -/
theorem Tracked.bindings_kept (h : Tracked state) (hchange : Change env state label next)
    (hsubscribers : next.subscribers = state.subscribers) (hissued : next.issued ⊆ state.issued)
    (hclient : ∀ id c, .subscribed id c ∈ state.toClient →
      .subscribed id c ∈ next.toClient ∨ next.issued = []) : Bindings next where
  consistent := hsubscribers ▸ h.bindings.consistent
  given stableId id hbound := by
    obtain ⟨cid, hgiven, haim⟩ := h.bindings.given stableId id (hsubscribers ▸ hbound)
    exact ⟨cid, hchange.given hgiven, hchange.aim haim⟩
  processed id cid stableId hmem haim hnot hholds := by
    have hbefore := hissued hmem
    have hasks := h.lawful.asks_of_given (h.wire.issued _ hbefore)
    rw [hchange.aim_eq h.identified hasks] at haim
    rw [hsubscribers] at hholds ⊢
    refine h.bindings.processed id cid stableId hbefore haim (fun c hc ↦ ?_) hholds
    rcases hclient id c hc with hstill | hnone
    · exact hnot c hstill
    · simp [hnone] at hmem

theorem Tracked.settled_of_holds (h : Tracked state) (hholds : state.subscribers.Holds stableId) :
    ∃ call ∈ state.calls, call.stableId = stableId ∧ ∃ id, state.Settled call.cid id := by
  obtain ⟨call, hmem, hstable, hdone⟩ := ((h.kept.holds stableId).mp hholds).1
  obtain ⟨id, htold⟩ := h.single.registered call hmem hdone
  exact ⟨call, hmem, hstable, id, h.single.told _ _ htold⟩

theorem Tracked.not_holds_of_confirmed (h : Tracked state)
    (hmem : .subscribed id (some cid) ∈ state.toClient) (hforeign : resubscribeTarget cid = none)
    (haim : state.aim cid = some stableId) : ¬state.subscribers.Holds stableId := by
  intro hholds
  obtain ⟨call, hcall, hstable, other, hsettled⟩ := h.settled_of_holds hholds
  rcases aim_cases haim with htarget | ⟨before, hbefore, rfl, hsame⟩
  · simp [hforeign] at htarget
  · obtain rfl := h.identified.eq_of_stableId hbefore hcall (hsame.trans hstable.symm)
    exact hsettled.confirmed id hmem

/-- Reading a message that binds nothing. -/
theorem Tracked.bindings_read (h : Tracked state) (hchange : Change env state label next)
    {message : ServerMessage} (htoClient : state.toClient = message :: next.toClient)
    (hsubscribers : next.subscribers = state.subscribers) (hissued : next.issued = state.issued)
    (hforeign : ∀ id cid, message = .subscribed id (some cid) → resubscribeTarget cid = none) :
    Bindings next where
  consistent := hsubscribers ▸ h.bindings.consistent
  given stableId id hbound := by
    obtain ⟨cid, hgiven, haim⟩ := h.bindings.given stableId id (hsubscribers ▸ hbound)
    exact ⟨cid, hchange.given hgiven, hchange.aim haim⟩
  processed id cid stableId hmem haim hnot hholds := by
    rw [hissued] at hmem
    have hgiven := h.wire.issued _ hmem
    rw [hchange.aim_eq h.identified (h.lawful.asks_of_given hgiven)] at haim
    rw [hsubscribers] at hholds ⊢
    refine h.bindings.processed id cid stableId hmem haim (fun c hc ↦ ?_) hholds
    rw [htoClient] at hc
    rcases List.mem_cons.mp hc with hhead | hrest
    · have hconfirmed : .subscribed id c ∈ state.toClient := htoClient ▸ hhead ▸ List.mem_cons_self
      have hcid := h.wire.cid_unique (h.wire.issued _ (h.wire.confirmed id c hconfirmed)) hgiven
      subst hcid
      exact h.not_holds_of_confirmed hconfirmed (hforeign id cid hhead.symm) haim hholds
    · exact hnot c hrest

/-- Binding an id that was confirmed. -/
theorem Tracked.bindings_bound (h : Tracked state) {rest : List ServerMessage}
    (htoClient : state.toClient = .subscribed id (some cid) :: rest)
    (htarget : resubscribeTarget cid = some stableId) :
    Bindings { state with
      toClient := rest
      subscribers := (state.subscribers.bindServerId stableId id).2 } := by
  have hissued := h.wire.confirmed id (some cid) (htoClient ▸ List.mem_cons_self)
  have hgiven := h.wire.issued _ hissued
  have haim : state.aim cid = some stableId := aim_of_target htarget
  have hconsistent := h.bindings.consistent
  constructor
  · exact hconsistent.bindServerId fun other hne ↦ h.not_bound hgiven haim hne
  · intro other otherId hbound
    rcases hbound.of_bindServerId hconsistent with ⟨rfl, rfl⟩ | hbefore
    · exact ⟨cid, hgiven, haim⟩
    · exact h.bindings.given other otherId hbefore
  · intro otherId otherCid other hmem haim' hnot hholds
    have hheld := SubscriberRegistry.holds_bindServerId.mp hholds
    by_cases hother : other = stableId
    · subst hother
      obtain ⟨rfl, _⟩ := Prod.mk.inj (h.single.issued_unique hmem hissued haim' haim)
      exact hheld.bindServerId hconsistent _
    · have hne : otherId ≠ id := by
        rintro rfl
        obtain rfl := Option.some.inj (h.wire.cid_unique (h.wire.issued _ hmem) hgiven)
        exact hother (Option.some.inj (haim'.symm.trans haim))
      refine (h.bindings.processed otherId otherCid other hmem haim' (fun c hc ↦ ?_)
        hheld).bindServerId hconsistent hother hne
      rw [htoClient] at hc
      rcases List.mem_cons.mp hc with hhead | hrest
      · exact hne (ServerMessage.subscribed.inj hhead).1
      · exact hnot c hrest

/-- Putting a subscription into the registry. -/
theorem Tracked.bindings_registered (h : Tracked state) {c : ℕ} {pattern : String}
    {stage : CallStage} (hat : state.calls[c]? = some call) (hstage : call.stage = .subscribed id)
    (hchange : Change env state label ({ state with
      subscribers := ((state.subscribers.insert call.stableId pattern call.stableId).bindServerId
        call.stableId id).2 }.setStage c stage)) :
    Bindings ({ state with
      subscribers := ((state.subscribers.insert call.stableId pattern call.stableId).bindServerId
        call.stableId id).2 }.setStage c stage) := by
  have hmem := List.mem_of_getElem? hat
  obtain ⟨hgiven, haim⟩ := h.aim_of_stage hmem hstage
  have hinserted := h.bindings.consistent.insert call.stableId pattern
  constructor
  · exact hinserted.bindServerId fun other hne hbound ↦ h.not_bound hgiven haim hne hbound.of_insert
  · intro other otherId hbound
    rcases SubscriberRegistry.Bound.of_bindServerId hinserted hbound with ⟨rfl, rfl⟩ | hbefore
    · exact ⟨call.cid, hgiven, hchange.aim haim⟩
    · obtain ⟨cid, hgiven', haim'⟩ := h.bindings.given other otherId hbefore.of_insert
      exact ⟨cid, hgiven', hchange.aim haim'⟩
  · intro otherId cid other hissued haim' hnot hholds
    have hgiven' := h.wire.issued _ hissued
    rw [hchange.aim_eq h.identified (h.lawful.asks_of_given hgiven')] at haim'
    have hheld := SubscriberRegistry.holds_bindServerId.mp hholds
    by_cases hother : other = call.stableId
    · subst hother
      obtain ⟨rfl, _⟩ := h.issued_of_stage hmem hstage hissued haim'
      exact hheld.bindServerId hinserted _
    · have hne : otherId ≠ id := by
        rintro rfl
        obtain rfl := Option.some.inj (h.wire.cid_unique hgiven' hgiven)
        exact hother (Option.some.inj (haim'.symm.trans haim))
      have hbefore := (SubscriberRegistry.holds_insert.mp hheld).resolve_left hother
      exact ((h.bindings.processed otherId cid other hissued haim' hnot hbefore).insert hother
        pattern).bindServerId hinserted hother hne

theorem bindings_change (h : Tracked state) (hchange : Change env state label next) :
    Bindings next := by
  have hstep := hchange
  have hkept := h.bindings_kept hchange
  have hread {message : ServerMessage} (htoClient : state.toClient = message :: next.toClient) :=
    h.bindings_read hchange htoClient
  have hsame : ∀ id c, ServerMessage.subscribed id c ∈ state.toClient →
      ServerMessage.subscribed id c ∈ state.toClient ∨ state.issued = [] := fun _ _ ↦ .inl
  cases hchange with
  | register at_c stage subscribes =>
    exact h.bindings_registered at_c stage hstep
  | @unsubscribe stableId removed subscribers held =>
    obtain rfl : (state.subscribers.remove stableId).2 = subscribers := congrArg Prod.snd held
    have hconsistent := h.bindings.consistent
    refine ⟨hconsistent.remove stableId, fun other id hbound ↦ ?_,
      fun id cid other hissued haim hnot hholds ↦ ?_⟩
    · exact h.bindings.given other id (hbound.of_remove hconsistent)
    · obtain ⟨hne, hheld⟩ := SubscriberRegistry.holds_remove.mp hholds
      exact (h.bindings.processed id cid other hissued haim hnot hheld).remove hconsistent hne
  | clearIds manager =>
    have hdown := h.wire.down (by simp [manager])
    refine ⟨h.bindings.consistent.clearServerIds, fun stableId id hbound ↦ ?_,
      fun id cid stableId hmem ↦ ?_⟩
    · exact absurd hbound SubscriberRegistry.not_bound_clearServerIds
    · simp [hdown.2.2] at hmem
  | disconnect up => exact hkept rfl (List.nil_subset _) fun _ _ _ ↦ .inr rfl
  | @serve bus operation rest up toServer short fresh =>
    refine ⟨h.bindings.consistent, fun stableId id hbound ↦ ?_,
      fun id cid stableId hmem haim hnot hholds ↦ ?_⟩
    · obtain ⟨cid, hgiven, haim⟩ := h.bindings.given stableId id hbound
      exact ⟨cid, List.mem_append_right _ hgiven, haim⟩
    · rcases List.mem_append.mp hmem with hbefore | hnew
      · exact h.bindings.processed id cid stableId hbefore haim
          (fun c hc ↦ hnot c (List.mem_append_left _ hc)) hholds
      · exact absurd (List.mem_append_right _ (mem_issuedIn.mp hnew)) (hnot (some cid))
  | event up issued =>
    exact hkept rfl (List.Subset.refl _) fun _ _ hmem ↦ .inl (List.mem_append_left _ hmem)
  | read manager toClient received =>
    cases received with
    | bound message_eq target =>
      rw [message_eq] at toClient
      exact h.bindings_bound toClient target
    | answered answers waits | unexpected answers gone =>
      refine hread toClient rfl rfl fun id cid heq ↦ ?_
      subst heq
      cases answers
      assumption
    | handed message_eq sender | lost message_eq sender =>
      exact hread toClient rfl rfl fun id cid heq ↦ by simp [message_eq] at heq
    | ignored quiet unaddressed other =>
      exact hread toClient rfl rfl fun id cid heq ↦ absurd heq (unaddressed id cid)
  | _ => exact hkept rfl (List.Subset.refl _) hsame

theorem tracked_start (env : SessionEnv) : Tracked (start env) where
  identified := identified_start env
  kept := kept_start env
  lawful := lawful_start env
  wire := wire_start env
  single := single_start env
  bindings := bindings_start env

theorem Tracked.change (h : Tracked state) (hchange : Change env state label next) :
    Tracked next where
  identified := h.identified.change hchange
  kept := h.kept.change h.identified hchange
  lawful := lawful_change h hchange
  wire := wire_change h.wire hchange
  single := single_change h hchange
  bindings := bindings_change h hchange

end Session

end Seidrum.Client
