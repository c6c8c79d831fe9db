import Mathlib.Data.List.AList
import Mathlib.Data.Option.Basic

/-!
# The subscriptions of a client

A client knows each of its subscriptions by a stable id.  The server gives out an id of its own for
every connection, which the client binds to the stable id; events carry the server's id.
-/

namespace Seidrum.Client

/-- A map keyed by strings. -/
abbrev HashMap (ν : Type) := AList fun _ : String ↦ ν

namespace HashMap

variable {ν : Type}

/-- Change every value. -/
def mapValues (f : ν → ν) (map : HashMap ν) : HashMap ν where
  entries := map.entries.map fun entry ↦ ⟨entry.1, f entry.2⟩
  nodupKeys := by
    have hkeys : (map.entries.map fun entry ↦ (⟨entry.1, f entry.2⟩ : Sigma fun _ ↦ ν)).keys =
        map.entries.keys := by
      simp [List.keys, Function.comp_def]
    rw [List.NodupKeys, hkeys]
    exact map.nodupKeys

theorem lookup_mapValues (f : ν → ν) (map : HashMap ν) (key : String) :
    (map.mapValues f).lookup key = (map.lookup key).map f := by
  ext value
  rw [← Option.mem_def, AList.mem_lookup_iff, ← Option.mem_def, Option.mem_map]
  simp only [mapValues, List.mem_map, AList.mem_lookup_iff]
  constructor
  · rintro ⟨⟨key', before⟩, hentry, heq⟩
    obtain ⟨rfl, hvalue⟩ := Sigma.mk.inj heq
    exact ⟨before, hentry, eq_of_heq hvalue⟩
  · rintro ⟨before, hentry, rfl⟩
    exact ⟨⟨key, before⟩, hentry, rfl⟩

end HashMap

structure SubscriptionState (σ : Type) where
  stableId : String
  pattern : String
  serverId : Option String
  /-- The sending end of the receiver's channel. -/
  sender : σ
  deriving DecidableEq, Repr

structure SubscriberRegistry (σ : Type) where
  byStableId : HashMap (SubscriptionState σ)
  serverToStable : HashMap String

namespace SubscriberRegistry

section Operations

variable {σ : Type}

def empty : SubscriberRegistry σ := ⟨∅, ∅⟩

def insert (stableId pattern : String) (sender : σ) (registry : SubscriberRegistry σ) :
    SubscriberRegistry σ :=
  { registry with
    byStableId := registry.byStableId.insert stableId ⟨stableId, pattern, none, sender⟩ }

/-- The map back without a server id. -/
def unbind (registry : SubscriberRegistry σ) : Option String → HashMap String
  | some serverId => registry.serverToStable.erase serverId
  | none => registry.serverToStable

/-- Bind the server's id of a subscription, if the subscription is there. -/
def bindServerId (stableId serverId : String) (registry : SubscriberRegistry σ) :
    Bool × SubscriberRegistry σ :=
  match registry.byStableId.lookup stableId with
  | none => (false, registry)
  | some state =>
      (true, {
        byStableId := registry.byStableId.insert stableId { state with serverId := some serverId }
        serverToStable := (registry.unbind state.serverId).insert serverId state.stableId })

def remove (stableId : String) (registry : SubscriberRegistry σ) :
    Option (SubscriptionState σ) × SubscriberRegistry σ :=
  match registry.byStableId.lookup stableId with
  | none => (none, registry)
  | some state =>
      (some state, {
        byStableId := registry.byStableId.erase stableId
        serverToStable := registry.unbind state.serverId })

def getSenderByServerId (serverId : String) (registry : SubscriberRegistry σ) : Option σ :=
  (registry.serverToStable.lookup serverId).bind fun stableId ↦
    (registry.byStableId.lookup stableId).map (·.sender)

/-- The stable ids with their patterns, in some order. -/
def activePatterns (registry : SubscriberRegistry σ) : List (String × String) :=
  registry.byStableId.entries.map fun entry ↦ (entry.2.stableId, entry.2.pattern)

def clearServerIds (registry : SubscriberRegistry σ) : SubscriberRegistry σ where
  byStableId := registry.byStableId.mapValues ({ · with serverId := none })
  serverToStable := ∅

/-- The subscription is there. -/
def Holds (registry : SubscriberRegistry σ) (stableId : String) : Prop :=
  stableId ∈ registry.byStableId

/-- The server's id and the stable id are bound to each other. -/
structure Bound (registry : SubscriberRegistry σ) (stableId serverId : String) : Prop where
  forward : ∃ state, registry.byStableId.lookup stableId = some state ∧
    state.stableId = stableId ∧ state.serverId = some serverId
  backward : registry.serverToStable.lookup serverId = some stableId

end Operations

/-- Subscriptions know their stable id, by which a client's channels go, and what they are bound to is
bound to them. -/
structure Consistent (registry : SubscriberRegistry String) : Prop where
  named : ∀ stableId state, registry.byStableId.lookup stableId = some state →
    state.stableId = stableId ∧ state.sender = stableId
  bound : ∀ stableId state serverId, registry.byStableId.lookup stableId = some state →
    state.serverId = some serverId → registry.serverToStable.lookup serverId = some stableId

variable {registry : SubscriberRegistry String} {stableId serverId : String}

theorem Bound.getSender (hbound : registry.Bound stableId serverId) (h : registry.Consistent) :
    registry.getSenderByServerId serverId = some stableId := by
  obtain ⟨state, hlookup, _⟩ := hbound.forward
  simp [getSenderByServerId, hbound.backward, hlookup, (h.named _ _ hlookup).2]

theorem Bound.holds (h : registry.Bound stableId serverId) : registry.Holds stableId := by
  obtain ⟨state, hlookup, _⟩ := h.forward
  exact AList.lookup_isSome.mp (by rw [hlookup]; rfl)

theorem Holds.lookup (h : registry.Holds stableId) :
    ∃ state, registry.byStableId.lookup stableId = some state :=
  Option.isSome_iff_exists.mp (AList.lookup_isSome.mpr h)

theorem consistent_empty : Consistent empty where
  named := by simp [empty]
  bound := by simp [empty]

variable {state : SubscriptionState String} {pattern : String} {rest : SubscriberRegistry String}

theorem Consistent.bound_of (h : registry.Consistent)
    (hlookup : registry.byStableId.lookup stableId = some state)
    (hserver : state.serverId = some serverId) : registry.Bound stableId serverId :=
  ⟨⟨state, hlookup, (h.named _ _ hlookup).1, hserver⟩, h.bound _ _ _ hlookup hserver⟩

theorem map_activePatterns (h : registry.Consistent) :
    registry.activePatterns.map Prod.fst = registry.byStableId.keys := by
  simp only [activePatterns, AList.keys, List.keys, List.map_map]
  apply List.map_congr_left
  intro entry hentry
  exact (h.named entry.1 entry.2 (AList.mem_lookup_iff.mpr hentry)).1

/-! ## Each operation -/

variable {other otherServer : String}

theorem holds_insert :
    (registry.insert stableId pattern stableId).Holds other ↔ other = stableId ∨ registry.Holds other :=
  AList.mem_insert registry.byStableId

theorem Consistent.insert (h : registry.Consistent) (stableId pattern : String) :
    (registry.insert stableId pattern stableId).Consistent where
  named key state hlookup := by
    by_cases hkey : key = stableId
    · subst hkey
      rw [SubscriberRegistry.insert, AList.lookup_insert] at hlookup
      rw [← Option.some.inj hlookup]
      exact ⟨rfl, rfl⟩
    · rw [SubscriberRegistry.insert, AList.lookup_insert_ne hkey] at hlookup
      exact h.named key state hlookup
  bound key state server hlookup hserver := by
    by_cases hkey : key = stableId
    · subst hkey
      rw [SubscriberRegistry.insert, AList.lookup_insert] at hlookup
      simp [← Option.some.inj hlookup] at hserver
    · rw [SubscriberRegistry.insert, AList.lookup_insert_ne hkey] at hlookup
      exact h.bound key state server hlookup hserver

theorem Bound.insert (h : registry.Bound other otherServer) (hne : other ≠ stableId)
    (pattern : String) : (registry.insert stableId pattern stableId).Bound other otherServer where
  forward := by
    rw [SubscriberRegistry.insert, AList.lookup_insert_ne hne]
    exact h.forward
  backward := h.backward

/-- A new subscription is bound to nothing. -/
theorem Bound.of_insert (hbound : (registry.insert stableId pattern stableId).Bound other otherServer) :
    registry.Bound other otherServer := by
  obtain ⟨state, hlookup, hnamed, hserver⟩ := hbound.forward
  by_cases hother : other = stableId
  · subst hother
    rw [SubscriberRegistry.insert, AList.lookup_insert] at hlookup
    simp [← Option.some.inj hlookup] at hserver
  · rw [SubscriberRegistry.insert, AList.lookup_insert_ne hother] at hlookup
    exact ⟨⟨state, hlookup, hnamed, hserver⟩, hbound.backward⟩

theorem holds_bindServerId :
    (registry.bindServerId stableId serverId).2.Holds other ↔ registry.Holds other := by
  unfold bindServerId
  split
  · rfl
  · rename_i state hlookup
    have hheld : registry.Holds stableId := AList.lookup_isSome.mp (by rw [hlookup]; rfl)
    refine (AList.mem_insert registry.byStableId).trans ⟨?_, .inr⟩
    rintro (rfl | hother)
    · exact hheld
    · exact hother

theorem Holds.bindServerId (hholds : registry.Holds stableId) (h : registry.Consistent)
    (serverId : String) : (registry.bindServerId stableId serverId).2.Bound stableId serverId := by
  obtain ⟨state, hlookup⟩ := hholds.lookup
  have hnamed := (h.named stableId state hlookup).1
  simp only [SubscriberRegistry.bindServerId, hlookup]
  exact ⟨⟨_, AList.lookup_insert _, hnamed, rfl⟩, by rw [hnamed]; exact AList.lookup_insert _⟩

/-- The server id of one subscription is unbound without that of another. -/
theorem Bound.lookup_unbound (hbound : registry.Bound other otherServer) (h : registry.Consistent)
    (hne : other ≠ stableId) (hlookup : registry.byStableId.lookup stableId = some state) :
    (registry.unbind state.serverId).lookup otherServer = some other := by
  cases hold : state.serverId with
  | none => exact hbound.backward
  | some old =>
    have hback := h.bound stableId state old hlookup hold
    have hdiffers : otherServer ≠ old := by
      rintro rfl
      exact hne (Option.some.inj (hbound.backward.symm.trans hback))
    rw [unbind, AList.lookup_erase_ne hdiffers]
    exact hbound.backward

theorem Bound.bindServerId (hbound : registry.Bound other otherServer) (h : registry.Consistent)
    (hne : other ≠ stableId) (hserver : otherServer ≠ serverId) :
    (registry.bindServerId stableId serverId).2.Bound other otherServer := by
  unfold SubscriberRegistry.bindServerId
  split
  · exact hbound
  · rename_i state hlookup
    refine ⟨?_, ?_⟩
    · rw [AList.lookup_insert_ne hne]
      exact hbound.forward
    · -- the old id is bound to the subscription that is bound anew
      rw [AList.lookup_insert_ne hserver]
      exact hbound.lookup_unbound h hne hlookup

theorem lookup_bindServerId_ne (hne : other ≠ stableId) :
    (registry.bindServerId stableId serverId).2.byStableId.lookup other =
      registry.byStableId.lookup other := by
  unfold SubscriberRegistry.bindServerId
  split
  · rfl
  · exact AList.lookup_insert_ne hne

/-- What is bound after a binding is the new one, or was bound before. -/
theorem Bound.of_bindServerId (h : registry.Consistent)
    (hbound : (registry.bindServerId stableId serverId).2.Bound other otherServer) :
    other = stableId ∧ otherServer = serverId ∨ registry.Bound other otherServer := by
  obtain ⟨state, hlookup, _, hserver⟩ := hbound.forward
  by_cases hother : other = stableId
  · subst hother
    have hholds := holds_bindServerId.mp hbound.holds
    obtain ⟨found, hfound, _, hid⟩ := (hholds.bindServerId h serverId).forward
    obtain rfl := Option.some.inj (hlookup.symm.trans hfound)
    exact .inl ⟨rfl, Option.some.inj (hserver.symm.trans hid)⟩
  · exact .inr (h.bound_of (lookup_bindServerId_ne hother ▸ hlookup) hserver)

theorem Consistent.bindServerId (h : registry.Consistent)
    (hfresh : ∀ key, key ≠ stableId → ¬registry.Bound key serverId) :
    (registry.bindServerId stableId serverId).2.Consistent := by
  constructor
  · intro key state hlookup
    by_cases hkey : key = stableId
    · subst hkey
      have hholds : registry.Holds key := by
        apply holds_bindServerId.mp
        exact AList.lookup_isSome.mp (by rw [hlookup]; rfl)
      obtain ⟨before, hbefore⟩ := hholds.lookup
      rw [SubscriberRegistry.bindServerId, hbefore, AList.lookup_insert] at hlookup
      rw [← Option.some.inj hlookup]
      exact h.named key before hbefore
    · exact h.named key state (lookup_bindServerId_ne hkey ▸ hlookup)
  · intro key state server hlookup hserver
    by_cases hkey : key = stableId
    · subst hkey
      have hholds : registry.Holds key := by
        apply holds_bindServerId.mp
        exact AList.lookup_isSome.mp (by rw [hlookup]; rfl)
      have hbound := hholds.bindServerId h serverId
      obtain ⟨found, hfound, _, hid⟩ := hbound.forward
      obtain rfl := Option.some.inj (hlookup.symm.trans hfound)
      obtain rfl := Option.some.inj (hserver.symm.trans hid)
      exact hbound.backward
    · have hbefore := h.bound_of (lookup_bindServerId_ne hkey ▸ hlookup) hserver
      have hdiffers : server ≠ serverId := by
        rintro rfl
        exact hfresh key hkey hbefore
      exact (hbefore.bindServerId h hkey hdiffers).backward

theorem holds_remove :
    (registry.remove stableId).2.Holds other ↔ other ≠ stableId ∧ registry.Holds other := by
  unfold remove
  split
  · rename_i hlookup
    refine ⟨fun hother ↦ ⟨?_, hother⟩, And.right⟩
    rintro rfl
    exact AList.lookup_eq_none.mp hlookup hother
  · exact AList.mem_erase

theorem holds_of_remove (h : registry.remove stableId = (some state, rest)) :
    registry.Holds stableId := by
  unfold remove at h
  split at h
  · simp at h
  · rename_i hlookup
    exact AList.lookup_isSome.mp (by rw [hlookup]; rfl)

theorem serverId_of_remove (h : registry.remove stableId = (some state, rest))
    (hbound : registry.Bound stableId serverId) : state.serverId = some serverId := by
  obtain ⟨found, hlookup, _, hserver⟩ := hbound.forward
  rw [SubscriberRegistry.remove, hlookup] at h
  obtain rfl := Option.some.inj (congrArg Prod.fst h)
  exact hserver

theorem Bound.remove (hbound : registry.Bound other otherServer) (h : registry.Consistent)
    (hne : other ≠ stableId) : (registry.remove stableId).2.Bound other otherServer := by
  unfold SubscriberRegistry.remove
  split
  · exact hbound
  · rename_i state hlookup
    refine ⟨?_, ?_⟩
    · rw [AList.lookup_erase_ne hne]
      exact hbound.forward
    · exact hbound.lookup_unbound h hne hlookup

theorem lookup_of_remove
    (hlookup : (registry.remove stableId).2.byStableId.lookup other = some state) :
    other ≠ stableId ∧ registry.byStableId.lookup other = some state := by
  have hheld : (registry.remove stableId).2.Holds other :=
    AList.lookup_isSome.mp (by rw [hlookup]; rfl)
  have hne := (holds_remove.mp hheld).1
  refine ⟨hne, ?_⟩
  unfold SubscriberRegistry.remove at hlookup
  split at hlookup
  · exact hlookup
  · exact (AList.lookup_erase_ne hne).symm.trans hlookup

theorem Bound.of_remove (h : registry.Consistent)
    (hbound : (registry.remove stableId).2.Bound other otherServer) :
    registry.Bound other otherServer := by
  obtain ⟨state, hlookup, _, hserver⟩ := hbound.forward
  exact h.bound_of (lookup_of_remove hlookup).2 hserver

theorem Consistent.remove (h : registry.Consistent) (stableId : String) :
    (registry.remove stableId).2.Consistent where
  named key state hlookup := h.named key state (lookup_of_remove hlookup).2
  bound key state server hlookup hserver := by
    obtain ⟨hne, hbefore⟩ := lookup_of_remove hlookup
    exact ((h.bound_of hbefore hserver).remove h hne).backward

theorem holds_clearServerIds : registry.clearServerIds.Holds other ↔ registry.Holds other := by
  unfold Holds clearServerIds
  rw [← AList.lookup_isSome, ← AList.lookup_isSome, HashMap.lookup_mapValues, Option.isSome_map]

theorem not_bound_clearServerIds : ¬registry.clearServerIds.Bound other otherServer := by
  intro hbound
  simpa [clearServerIds] using hbound.backward

theorem Consistent.clearServerIds (h : registry.Consistent) :
    registry.clearServerIds.Consistent := by
  constructor
  · intro key state hlookup
    rw [SubscriberRegistry.clearServerIds, HashMap.lookup_mapValues] at hlookup
    obtain ⟨before, hbefore, rfl⟩ := Option.map_eq_some_iff.mp hlookup
    exact h.named key before hbefore
  · intro key state server hlookup hserver
    rw [SubscriberRegistry.clearServerIds, HashMap.lookup_mapValues] at hlookup
    obtain ⟨before, _, rfl⟩ := Option.map_eq_some_iff.mp hlookup
    cases hserver

end SubscriberRegistry

end Seidrum.Client
