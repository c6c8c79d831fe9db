import Seidrum.Client.Registry
import Seidrum.Foundation.BackPointers
import Seidrum.Foundation.Transition

/-!
# Where the events of a server id go

A subscription of a client keeps the sending end of its receiver's channel.  The event loop finds it by
the id under which the server knows the subscription on the current connection: a second map leads from
there to the stable id.  Ids of the server are bound anew with every connection, and taken away together
when it is lost.
-/

namespace Seidrum.Client

open Foundation

namespace SubscriberRegistry

variable {σ : Type}

variable (registry : SubscriberRegistry σ) (stableId serverId : String)

def values (registry : SubscriberRegistry σ) (stableId : String) : Option (SubscriptionState σ) :=
  registry.byStableId.lookup stableId

def back (registry : SubscriberRegistry σ) (serverId : String) : Option String :=
  registry.serverToStable.lookup serverId

theorem values_insert (pattern : String) (sender : σ) :
    (registry.insert stableId pattern sender).values =
      Function.update registry.values stableId (some ⟨stableId, pattern, none, sender⟩) :=
  lookup_insert_eq_update _ _

theorem lookup_unbind (server : Option String) :
    (fun serverId ↦ (registry.unbind server).lookup serverId) = forgetName registry.back server := by
  cases server with
  | none => rfl
  | some serverId => exact lookup_erase_eq_update serverId

variable {registry stableId} {state : SubscriptionState σ}

theorem bindServerId_of_absent (hvalue : registry.values stableId = none) (serverId : String) :
    registry.bindServerId stableId serverId = (false, registry) := by
  rw [values] at hvalue
  rw [bindServerId, hvalue]

theorem values_bindServerId (hvalue : registry.values stableId = some state) (serverId : String) :
    (registry.bindServerId stableId serverId).2.values =
      Function.update registry.values stableId (some { state with serverId := some serverId }) := by
  rw [values] at hvalue
  rw [bindServerId, hvalue]
  exact lookup_insert_eq_update _ _

theorem back_bindServerId (hvalue : registry.values stableId = some state) (serverId : String) :
    (registry.bindServerId stableId serverId).2.back =
      Function.update (forgetName registry.back state.serverId) serverId (some state.stableId) := by
  rw [values] at hvalue
  rw [bindServerId, hvalue, ← lookup_unbind]
  exact lookup_insert_eq_update _ _

theorem remove_of_absent (hvalue : registry.values stableId = none) :
    registry.remove stableId = (none, registry) := by
  rw [values] at hvalue
  rw [remove, hvalue]

theorem values_remove (hvalue : registry.values stableId = some state) :
    (registry.remove stableId).2.values = Function.update registry.values stableId none := by
  rw [values] at hvalue
  rw [remove, hvalue]
  exact lookup_erase_eq_update _

theorem back_remove (hvalue : registry.values stableId = some state) :
    (registry.remove stableId).2.back = forgetName registry.back state.serverId := by
  rw [values] at hvalue
  rw [remove, hvalue]
  exact lookup_unbind registry state.serverId

theorem values_clearServerIds (stableId : String) :
    registry.clearServerIds.values stableId =
      (registry.values stableId).map ({ · with serverId := none }) :=
  HashMap.lookup_mapValues ..

theorem getSender_eq (serverId : String) :
    registry.getSenderByServerId serverId =
      (registry.back serverId).bind fun stableId ↦ (registry.values stableId).map (·.sender) := rfl

/-! ## Runs -/

inductive RegistryOp (σ : Type)
  | insert (stableId pattern : String) (sender : σ)
  | bindServerId (stableId serverId : String)
  | remove (stableId : String)
  | clearServerIds
  deriving DecidableEq, Repr

def apply (registry : SubscriberRegistry σ) : RegistryOp σ → SubscriberRegistry σ
  | .insert stableId pattern sender => registry.insert stableId pattern sender
  | .bindServerId stableId serverId => (registry.bindServerId stableId serverId).2
  | .remove stableId => (registry.remove stableId).2
  | .clearServerIds => registry.clearServerIds

/-- New subscriptions have fresh stable ids, and no server id is bound to a second subscription. -/
def Admits (registry : SubscriberRegistry σ) : RegistryOp σ → Prop
  | .insert stableId _ _ => stableId ∉ registry.byStableId
  | .bindServerId stableId serverId =>
      ∀ other ∈ registry.serverToStable.lookup serverId, other = stableId
  | .remove _ | .clearServerIds => True

instance (registry : SubscriberRegistry σ) : DecidablePred registry.Admits := fun op ↦ by
  cases op <;> unfold Admits <;> infer_instance

/-- The sender a subscription was inserted with, unless it was removed since; the newest operation comes
first. -/
def senderOf (stableId : String) : List (RegistryOp σ) → Option σ
  | [] => none
  | .insert other _ sender :: earlier =>
      if stableId = other then some sender else senderOf stableId earlier
  | .remove other :: earlier => if stableId = other then none else senderOf stableId earlier
  | .bindServerId _ _ :: earlier | .clearServerIds :: earlier => senderOf stableId earlier

/-- The subscription last bound to a server id, unless it was removed, bound to another id or separated
from the server since; the newest operation comes first. -/
def lastBound (serverId : String) : List (RegistryOp σ) → Option String
  | [] | .clearServerIds :: _ => none
  | .insert _ _ _ :: earlier => lastBound serverId earlier
  | .bindServerId stableId other :: earlier =>
      -- a subscription that is not there is not bound
      if (senderOf stableId earlier).isNone then lastBound serverId earlier
      else if serverId = other then some stableId
      else if lastBound serverId earlier = some stableId then none
      else lastBound serverId earlier
  | .remove stableId :: earlier =>
      if lastBound serverId earlier = some stableId then none else lastBound serverId earlier

end SubscriberRegistry

namespace SenderRegistry

open SubscriberRegistry

variable {σ : Type} {stableId : String} {state : SubscriptionState σ}

/-- A registry with the operations that led to it, the newest first. -/
structure Run (σ : Type) where
  registry : SubscriberRegistry σ
  history : List (RegistryOp σ)

def Run.init : Run σ := ⟨empty, []⟩

def Run.step : Steps (Run σ) (RegistryOp σ)
  | run, op => some ⟨run.registry.apply op, op :: run.history⟩

/-- The maps are inverse to each other, and agree with what happened. -/
structure Run.Sound (run : Run σ) : Prop where
  named : ∀ stableId state, run.registry.values stableId = some state → state.stableId = stableId
  inverse : LeadsBack (fun state : SubscriptionState σ ↦ state.serverId)
    run.registry.values run.registry.back
  senders : ∀ stableId, (run.registry.values stableId).map (·.sender) = senderOf stableId run.history
  bound : ∀ serverId, run.registry.back serverId = lastBound serverId run.history

theorem Run.sound_init : (Run.init : Run σ).Sound where
  named := fun _ _ hvalue ↦ by cases hvalue
  inverse := .empty _
  senders := fun _ ↦ rfl
  bound := fun _ ↦ rfl

namespace Run.Sound

variable {run : Run σ}

theorem insert (h : run.Sound) (habsent : run.registry.values stableId = none) (pattern : String)
    (sender : σ) :
    (⟨run.registry.insert stableId pattern sender,
      .insert stableId pattern sender :: run.history⟩ : Run σ).Sound := by
  have hvalues := values_insert run.registry stableId pattern sender
  refine ⟨?_, ?_, ?_, h.bound⟩
  · intro other state hvalue
    rw [hvalues] at hvalue
    by_cases hother : other = stableId
    · subst hother
      rw [Function.update_self] at hvalue
      rw [← Option.some.inj hvalue]
    · rw [Function.update_of_ne hother] at hvalue
      exact h.named other state hvalue
  · have hadd : LeadsBack _ (Function.update run.registry.values stableId
        (some ⟨stableId, pattern, none, sender⟩)) run.registry.back :=
      h.inverse.add habsent rfl
    rw [← hvalues] at hadd
    exact hadd
  · intro other
    rw [hvalues, senderOf]
    by_cases hother : other = stableId
    · rw [hother, if_pos rfl, Function.update_self, Option.map_some]
    · rw [if_neg hother, Function.update_of_ne hother, h.senders]

theorem bindServerId (h : run.Sound) {serverId : String}
    (hfree : ∀ other, run.registry.back serverId = some other → other = stableId) :
    (⟨(run.registry.bindServerId stableId serverId).2,
      .bindServerId stableId serverId :: run.history⟩ : Run σ).Sound := by
  cases hvalue : run.registry.values stableId with
  | none =>
    have hnone : (senderOf stableId run.history).isNone := by
      rw [← h.senders, hvalue]
      rfl
    rw [bindServerId_of_absent hvalue]
    exact ⟨h.named, h.inverse, h.senders, fun other ↦ by rw [lastBound, if_pos hnone, ← h.bound]⟩
  | some state =>
    have hnamed := h.named stableId state hvalue
    have hvalues := values_bindServerId hvalue serverId
    have hback := back_bindServerId hvalue serverId
    rw [hnamed] at hback
    have hsome : ¬(senderOf stableId run.history).isNone := by
      rw [← h.senders, hvalue]
      exact Bool.false_ne_true
    refine ⟨?_, ?_, ?_, ?_⟩
    · intro other state' hvalue'
      rw [hvalues] at hvalue'
      by_cases hother : other = stableId
      · subst hother
        rw [Function.update_self] at hvalue'
        rw [← Option.some.inj hvalue']
        exact hnamed
      · rw [Function.update_of_ne hother] at hvalue'
        exact h.named other state' hvalue'
    · have hrename : LeadsBack _
          (Function.update run.registry.values stableId (some { state with serverId := some serverId }))
          (Function.update (forgetName run.registry.back state.serverId) serverId (some stableId)) :=
        h.inverse.rename hvalue rfl hfree
      rw [← hvalues, ← hback] at hrename
      exact hrename
    · intro other
      rw [hvalues, senderOf, ← h.senders]
      by_cases hother : other = stableId
      · rw [hother, Function.update_self, hvalue, Option.map_some, Option.map_some]
      · rw [Function.update_of_ne hother]
    · intro other
      rw [hback, lastBound, if_neg hsome, ← h.bound]
      by_cases hother : other = serverId
      · rw [hother, Function.update_self, if_pos rfl]
      · rw [Function.update_of_ne hother, if_neg hother, h.inverse.forgetName_eq hvalue]

theorem remove (h : run.Sound) (stableId : String) :
    (⟨(run.registry.remove stableId).2, .remove stableId :: run.history⟩ : Run σ).Sound := by
  cases hvalue : run.registry.values stableId with
  | none =>
    rw [remove_of_absent hvalue]
    refine ⟨h.named, h.inverse, fun other ↦ ?_, fun serverId ↦ ?_⟩
    · rw [senderOf, ← h.senders]
      split_ifs with hother
      · rw [hother, hvalue, Option.map_none]
      · rfl
    · have hback : run.registry.back serverId ≠ some stableId := by
        intro hback
        obtain ⟨state, hstate, -⟩ := (h.inverse serverId stableId).mp hback
        exact Option.some_ne_none state (hstate.symm.trans hvalue)
      rw [lastBound, ← h.bound, if_neg hback]
  | some state =>
    have hvalues := values_remove hvalue
    have hback := back_remove hvalue
    refine ⟨?_, ?_, ?_, ?_⟩
    · intro other state' hvalue'
      rw [hvalues] at hvalue'
      by_cases hother : other = stableId
      · rw [hother, Function.update_self] at hvalue'
        cases hvalue'
      · rw [Function.update_of_ne hother] at hvalue'
        exact h.named other state' hvalue'
    · have hdrop := h.inverse.drop hvalue
      rw [← hvalues, ← hback] at hdrop
      exact hdrop
    · intro other
      rw [hvalues, senderOf, ← h.senders]
      by_cases hother : other = stableId
      · rw [hother, Function.update_self, if_pos rfl, Option.map_none]
      · rw [Function.update_of_ne hother, if_neg hother]
    · intro serverId
      rw [hback, lastBound, ← h.bound, h.inverse.forgetName_eq hvalue]

theorem clearServerIds (h : run.Sound) :
    (⟨run.registry.clearServerIds, .clearServerIds :: run.history⟩ : Run σ).Sound where
  named := by
    intro stableId state hvalue
    rw [values_clearServerIds] at hvalue
    obtain ⟨before, hbefore, rfl⟩ := Option.map_eq_some_iff.mp hvalue
    exact h.named stableId before hbefore
  inverse := by
    refine .clear fun stableId state hvalue ↦ ?_
    rw [values_clearServerIds] at hvalue
    obtain ⟨before, -, rfl⟩ := Option.map_eq_some_iff.mp hvalue
    rfl
  senders := by
    intro stableId
    rw [values_clearServerIds, Option.map_map, senderOf, ← h.senders]
    rfl
  bound := fun _ ↦ rfl

theorem step (h : run.Sound) {op : RegistryOp σ} (hadmits : run.registry.Admits op) {next : Run σ}
    (hstep : Run.step run op = some next) : next.Sound := by
  cases hstep
  cases op with
  | insert stableId pattern sender =>
    exact h.insert (AList.lookup_eq_none.mpr hadmits) pattern sender
  | bindServerId stableId serverId => exact h.bindServerId hadmits
  | remove stableId => exact h.remove stableId
  | clearServerIds => exact h.clearServerIds

/-- What a subscription was bound to leads nowhere once the subscription is removed or bound to another
id. -/
theorem unbound (h : run.Sound) {serverId : String} (hvalue : run.registry.values stableId = some state)
    (hserver : state.serverId = some serverId) :
    (run.registry.remove stableId).2.getSenderByServerId serverId = none ∧
      ∀ other, other ≠ serverId →
        (run.registry.bindServerId stableId other).2.getSenderByServerId serverId = none := by
  have hforget : forgetName run.registry.back state.serverId serverId = none := by
    rw [h.inverse.forgetName_eq hvalue, if_pos (h.inverse.back_eq hvalue hserver)]
  constructor
  · rw [getSender_eq, back_remove hvalue, hforget, Option.bind_none]
  · intro other hother
    rw [getSender_eq, back_bindServerId hvalue, Function.update_of_ne hother.symm, hforget,
      Option.bind_none]

end Run.Sound

/-- After every run the maps are inverse to each other, the sender found by a server id is that of the
subscription last bound to it, and a server id whose subscription is removed or bound to another id
leads to nobody. -/
theorem registry_bijective {run : Run σ}
    (hreach : Steps.Reach Run.step (fun run op ↦ run.registry.Admits op) .init run) :
    (∀ serverId stableId, run.registry.serverToStable.lookup serverId = some stableId ↔
      ∃ state, run.registry.byStableId.lookup stableId = some state ∧
        state.serverId = some serverId) ∧
      (∀ serverId, run.registry.getSenderByServerId serverId =
        (lastBound serverId run.history).bind (senderOf · run.history)) ∧
      ∀ stableId state serverId, run.registry.byStableId.lookup stableId = some state →
        state.serverId = some serverId →
          (run.registry.remove stableId).2.getSenderByServerId serverId = none ∧
            ∀ other, other ≠ serverId →
              (run.registry.bindServerId stableId other).2.getSenderByServerId serverId = none := by
  have h : run.Sound :=
    hreach.invariant Run.sound_init fun _ _ _ hbefore hadmits hstep ↦ hbefore.step hadmits hstep
  refine ⟨h.inverse, fun serverId ↦ ?_, fun _ _ _ hvalue hserver ↦ h.unbound hvalue hserver⟩
  simp only [getSender_eq, h.bound, h.senders]

/-- Two subscriptions, one bound again after a reconnect and one bound after it was removed. -/
def reconnect : List (RegistryOp ℕ) :=
  [.insert "a" "events.>" 1, .bindServerId "a" "s1", .insert "b" "task.*" 2, .bindServerId "b" "s2",
    .remove "b", .bindServerId "b" "s3", .clearServerIds, .bindServerId "a" "s2"]

theorem registry_bijective_reconnect :
    ∃ run, Steps.execute Run.step .init reconnect = some run ∧
      run.registry.getSenderByServerId "s2" = some 1 ∧
      run.registry.serverToStable.lookup "s1" = none ∧
      ∃ state, run.registry.byStableId.lookup "a" = some state ∧ state.serverId = some "s2" := by
  have hguarded : Steps.Guarded Run.step (fun run op ↦ run.registry.Admits op) .init reconnect := by
    decide
  obtain ⟨run, hexecute, hserver, hother⟩ : ∃ run, Steps.execute Run.step .init reconnect = some run ∧
      run.registry.serverToStable.lookup "s2" = some "a" ∧
      run.registry.serverToStable.lookup "s1" = none ∧ run.history = reconnect.reverse :=
    ⟨_, rfl, by decide, by decide, rfl⟩
  have hreach := Steps.reach_of_execute hguarded hexecute
  obtain ⟨hinverse, hsender, -⟩ := registry_bijective hreach
  refine ⟨run, hexecute, ?_, hother.1, (hinverse "s2" "a").mp hserver⟩
  rw [hsender, hother.2]
  rfl

end SenderRegistry

end Seidrum.Client
