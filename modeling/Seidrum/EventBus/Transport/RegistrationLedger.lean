import Mathlib.Logic.Function.Basic
import Seidrum.EventBus.Transport.HandlerPhases

/-!
# The registrations behind the phases

What the handlers of a server share is determined by where it started and by the phases of its
handlers: a mapping is there from the phase that inserts it to the phase that removes it, and so for
ids, registrations on the bus and persisted entries.  Each of these is kept by the operations that
change it, and by all others because they leave the phases it depends on alone.
-/

namespace Seidrum.EventBus

open Seidrum.Foundation

/-! ## What a phase says -/

theorem PersistedSubscription.registers_id (id : String) (entry : PersistedSubscription) :
    (entry.registers id).id = id := by
  unfold registers
  cases entry.kind <;> rfl

namespace HandlerPhase

/-- The id a handler registered on the bus. -/
def creates : HandlerPhase → Option String
  | registered id _ _ => some id
  | numbered id _ | mapped id _ | tracked id _ | saved id _ => some id
  | unsaved id _ | unmapped id _ | untracked id _ | undone id _ => some id
  | _ => none

def onBus : HandlerPhase → Option SubscriptionEntry
  | registered id kind registration => some ((registration.entry kind "" 0).registers id)
  | numbered id entry | mapped id entry | tracked id entry | saved id entry =>
      some (entry.registers id)
  | unsaved id entry | unmapped id entry | untracked id entry | undone id entry =>
      some (entry.registers id)
  | _ => none

/-- The persisted id it was given. -/
def numbers : HandlerPhase → Option String
  | numbered _ entry | mapped _ entry | tracked _ entry | saved _ entry => some entry.persistedId
  | unsaved _ entry | unmapped _ entry | untracked _ entry | undone _ entry =>
      some entry.persistedId
  | _ => none

/-- The mapping it inserted. -/
def maps : HandlerPhase → Option (String × String)
  | mapped id entry | tracked id entry | saved id entry => some (id, entry.persistedId)
  | unsaved id entry | unmapped id entry | untracked id entry | undone id entry =>
      some (id, entry.persistedId)
  | _ => none

/-- The id it inserted. -/
def tracks : HandlerPhase → Option (PersistedSubscriptionKind × String)
  | tracked id entry | saved id entry => some (entry.kind, id)
  | unsaved id entry | unmapped id entry | untracked id entry | undone id entry =>
      some (entry.kind, id)
  | _ => none

def saves : HandlerPhase → Option PersistedSubscription
  | saved _ entry => some entry
  | _ => none

/-- The id whose mapping it removed when it undid its own registration. -/
def undoes : HandlerPhase → Option String
  | unmapped id _ | untracked id _ | undone id _ => some id
  | _ => none

/-- The id a removal found. -/
def takes : HandlerPhase → Option String
  | taken id | gone id | dropped id _ | deleted id _ => some id
  | _ => none

/-- The mapping a removal removed. -/
def drops : HandlerPhase → Option (String × Option String)
  | dropped id persistedId => some (id, persistedId)
  | deleted id persistedId => some (id, some persistedId)
  | _ => none

/-- The id whose mapping was removed. -/
def unmaps : HandlerPhase → Option String
  | unmapped id _ | untracked id _ | undone id _ => some id
  | dropped id _ | deleted id _ => some id
  | _ => none

/-- The id that was removed. -/
def untracks : HandlerPhase → Option String
  | untracked id _ | undone id _ => some id
  | taken id | gone id | dropped id _ | deleted id _ => some id
  | _ => none

/-- The id that was unsubscribed. -/
def unregisters : HandlerPhase → Option String
  | undone id _ => some id
  | gone id | dropped id _ | deleted id _ => some id
  | _ => none

/-- The persisted id whose entry was deleted. -/
def deletes : HandlerPhase → Option String
  | deleted _ persistedId => some persistedId
  | _ => none

section Views

variable {phase : HandlerPhase} {id persistedId : String} {kind : PersistedSubscriptionKind}

theorem creates_of_onBus {entry : SubscriptionEntry} (h : phase.onBus = some entry) :
    phase.creates = some entry.id := by
  cases phase <;> simp only [onBus, reduceCtorEq, Option.some.injEq] at h <;> subst h <;>
    simp [creates, PersistedSubscription.registers_id]

theorem creates_of_maps (h : phase.maps = some (id, persistedId)) :
    phase.creates = some id ∧ phase.numbers = some persistedId := by
  cases phase <;> simp_all [maps, creates, numbers]

theorem creates_of_tracks (h : phase.tracks = some (kind, id)) :
    phase.creates = some id ∧ ∃ persistedId, phase.maps = some (id, persistedId) := by
  cases phase <;> simp_all [maps, creates, tracks]

theorem of_undoes (h : phase.undoes = some id) : phase.creates = some id ∧ phase.saves = none ∧
    ∃ kind, phase.tracks = some (kind, id) := by
  cases phase <;> simp_all [undoes, creates, saves, tracks]

theorem of_saves {entry : PersistedSubscription} (h : phase.saves = some entry) :
    ∃ id, phase.maps = some (id, entry.persistedId) ∧ phase.onBus = some (entry.registers id) := by
  cases phase <;> simp_all [maps, saves, onBus]

theorem takes_or_undoes_of_unmaps (h : phase.unmaps = some id) :
    phase.takes = some id ∨ phase.undoes = some id := by
  cases phase <;> simp_all [unmaps, takes, undoes]

theorem takes_or_undoes_of_untracks (h : phase.untracks = some id) :
    phase.takes = some id ∨ phase.undoes = some id := by
  cases phase <;> simp_all [untracks, takes, undoes]

theorem takes_or_undoes_of_unregisters (h : phase.unregisters = some id) :
    phase.takes = some id ∨ phase.undoes = some id := by
  cases phase <;> simp_all [unregisters, takes, undoes]

variable {p : HandlerPhase} {op : HttpOp} {answer : HttpAnswer op}

/-- An inserted mapping is not forgotten. -/
theorem maps_next (hne : p.next op answer ≠ failed) (h : p.maps = some (id, persistedId)) :
    (p.next op answer).maps = some (id, persistedId) := by
  cases p with
  | mapped id entry => cases op <;> exact h
  | tracked id entry =>
    cases op
    case saveSubscription => cases answer <;> exact h
    all_goals exact h
  | saved id entry | unsaved id entry | unmapped id entry => cases op <;> exact h
  | untracked id entry =>
    cases op
    case unsubscribe =>
      cases answer with
      | error error => exact absurd rfl hne
      | ok _ => exact h
    all_goals exact h
  | undone id entry => cases op <;> exact h
  | _ => cases h

/-- Only a deletion in the store makes an entry deleted. -/
theorem deletes_next (hallowed : p.Allows op) (hne : p ≠ failed)
    (h : (p.next op answer).deletes = some persistedId) :
    p.deletes = some persistedId ∨ op = .deleteSubscription persistedId := by
  cases op with
  | deleteSubscription other =>
    obtain ⟨id, rfl⟩ := of_allows_deleteSubscription hallowed hne
    cases answer with
    | error error => cases h
    | ok _ => exact .inr (by rw [Option.some.inj h])
  | register kind registration =>
    obtain rfl := of_allows_register hallowed hne
    cases answer <;> cases h
  | newPersistedId kind =>
    obtain ⟨id, registration, rfl⟩ := of_allows_newPersistedId hallowed hne
    cases h
  | insertMapping id other =>
    obtain ⟨entry, rfl, -⟩ := of_allows_insertMapping hallowed hne
    cases h
  | removeMapping id =>
    rcases of_allows_removeMapping hallowed hne with rfl | ⟨entry, rfl⟩ <;> cases h
  | insertId kind id =>
    obtain ⟨entry, rfl, -⟩ := of_allows_insertId hallowed hne
    cases h
  | removeId kind id =>
    rcases of_allows_removeId hallowed hne with rfl | ⟨entry, rfl, -⟩
    · cases answer <;> cases h
    · cases h
  | saveSubscription entry =>
    obtain ⟨id, rfl⟩ := of_allows_saveSubscription hallowed hne
    cases answer <;> cases h
  | unsubscribe id =>
    rcases of_allows_unsubscribe hallowed hne with rfl | ⟨entry, rfl⟩ <;> cases answer <;> cases h
  | _ => exact .inl (by rwa [next_of_neutral (by trivial)] at h)

theorem untracks_of_takes (h : phase.takes = some id) : phase.untracks = some id := by
  cases phase <;> simp_all [untracks, takes]

end Views

end HandlerPhase

variable {phase : ℕ → HandlerPhase} {p q : HandlerPhase} {i : ℕ} {β : Type}
  {view : HandlerPhase → Option β} {x y : β}

/-- Some handler has come to a phase that says so. -/
def Holds (phase : ℕ → HandlerPhase) (view : HandlerPhase → Option β) (x : β) : Prop :=
  ∃ i, view (phase i) = some x

theorem holds_update (hphase : phase i = q) (h : view p = view q) :
    Holds (Function.update phase i p) view x ↔ Holds phase view x := by
  unfold Holds
  refine exists_congr fun j ↦ ?_
  by_cases hj : j = i
  · subst hj
    rw [Function.update_self, h, hphase]
  · rw [Function.update_of_ne hj]

theorem holds_update_new (hphase : phase i = q) (hold : view q = none) (hnew : view p = some y) :
    Holds (Function.update phase i p) view x ↔ x = y ∨ Holds phase view x := by
  constructor
  · rintro ⟨j, hj⟩
    by_cases hji : j = i
    · subst hji
      rw [Function.update_self, hnew] at hj
      exact .inl (Option.some.inj hj).symm
    · rw [Function.update_of_ne hji] at hj
      exact .inr ⟨j, hj⟩
  · rintro (rfl | ⟨j, hj⟩)
    · exact ⟨i, by rw [Function.update_self, hnew]⟩
    · have hji : j ≠ i := by
        rintro rfl
        rw [hphase, hold] at hj
        cases hj
      exact ⟨j, by rw [Function.update_of_ne hji, hj]⟩

theorem holds_update_mono (hphase : phase i = q) (h : ∀ x, view q = some x → view p = some x)
    (hx : Holds phase view x) : Holds (Function.update phase i p) view x := by
  obtain ⟨j, hj⟩ := hx
  by_cases hji : j = i
  · subst hji
    rw [hphase] at hj
    exact ⟨j, by rw [Function.update_self, h x hj]⟩
  · exact ⟨j, by rw [Function.update_of_ne hji, hj]⟩

/-- Handlers whose phase says the same are one handler. -/
def Once (phase : ℕ → HandlerPhase) (view : HandlerPhase → Option β) : Prop :=
  ∀ ⦃i j x⦄, view (phase i) = some x → view (phase j) = some x → i = j

theorem Once.update (h : Once phase view) (hphase : phase i = q) (hview : view p = view q) :
    Once (Function.update phase i p) view := by
  have hsame (j : ℕ) : view (Function.update phase i p j) = view (phase j) := by
    by_cases hji : j = i
    · rw [hji, Function.update_self, hview, hphase]
    · rw [Function.update_of_ne hji]
  intro j k x hj hk
  rw [hsame] at hj hk
  exact h hj hk

theorem Once.update_new (h : Once phase view) (hnew : view p = some y)
    (hfresh : ¬Holds phase view y) : Once (Function.update phase i p) view := by
  intro j k x hj hk
  by_cases hji : j = i <;> by_cases hki : k = i
  · rw [hji, hki]
  · rw [hji, Function.update_self, hnew] at hj
    rw [Function.update_of_ne hki] at hk
    exact absurd ⟨k, hk.trans hj.symm⟩ hfresh
  · rw [Function.update_of_ne hji] at hj
    rw [hki, Function.update_self, hnew] at hk
    exact absurd ⟨j, hj.trans hk.symm⟩ hfresh
  · rw [Function.update_of_ne hji] at hj
    rw [Function.update_of_ne hki] at hk
    exact h hj hk

/-- The live registrations of a bus. -/
def Bus.live (bus : Bus) : List SubscriptionEntry := bus.index.list none

namespace HttpServer

/-- The ids and the tables of a server that no handler has touched yet. -/
structure WellFormed (server : HttpServer) : Prop where
  hasStore : server.app.store.isSome
  live_used : ∀ entry ∈ server.app.bus.live, entry.id ∈ server.app.bus.usedIds
  registered_used : ∀ id ∈ server.registered, id ∈ server.app.bus.usedIds
  mapping_used : ∀ id persistedId, (id, persistedId) ∈ server.app.busToPersisted →
    id ∈ server.app.bus.usedIds ∧ persistedId ∈ server.usedPersistedIds
  /-- a mapping is the only one of both its ids -/
  mapping_unique : ∀ a ∈ server.app.busToPersisted, ∀ b ∈ server.app.busToPersisted,
    a.1 = b.1 ∨ a.2 = b.2 → a = b
  ids_mapped : ∀ kind, ∀ id ∈ server.ids kind,
    ∃ persistedId, (id, persistedId) ∈ server.app.busToPersisted
  ids_kind : ∀ kind other, ∀ id ∈ server.ids kind, id ∈ server.ids other → kind = other
  entries_used : ∀ entry ∈ server.entries, entry.persistedId ∈ server.usedPersistedIds

end HttpServer

/-! ## Who did what -/

variable {initial : HttpServer} {usedIds registered usedPersistedIds : List String}

/-- The id was inserted. -/
def Tracked (initial : HttpServer) (phase : ℕ → HandlerPhase) (kind : PersistedSubscriptionKind)
    (id : String) : Prop :=
  id ∈ initial.ids kind ∨ Holds phase HandlerPhase.tracks (kind, id)

/-- The mapping was inserted. -/
def Mapped (initial : HttpServer) (phase : ℕ → HandlerPhase) (id persistedId : String) : Prop :=
  (id, persistedId) ∈ initial.app.busToPersisted ∨
    Holds phase HandlerPhase.maps (id, persistedId)

open HandlerPhase

/-- Every id is one handler's, and only ids that were inserted are found by a removal. -/
structure Owners (initial : HttpServer) (usedIds registered usedPersistedIds : List String)
    (phase : ℕ → HandlerPhase) : Prop where
  keptIds : initial.app.bus.usedIds ⊆ usedIds
  keptPersistedIds : initial.usedPersistedIds ⊆ usedPersistedIds
  created : ∀ id, Holds phase creates id → id ∈ usedIds ∧ id ∉ initial.app.bus.usedIds
  createdOnce : Once phase creates
  made : ∀ id, id ∈ registered ↔ id ∈ initial.registered ∨ Holds phase creates id
  numbered : ∀ persistedId, Holds phase numbers persistedId →
    persistedId ∈ usedPersistedIds ∧ persistedId ∉ initial.usedPersistedIds
  numberedOnce : Once phase numbers
  taken : ∀ id, Holds phase takes id → ∃ kind, Tracked initial phase kind id
  takenOnce : Once phase takes

theorem HttpServer.WellFormed.mapped_of_tracked (hinitial : initial.WellFormed)
    {kind : PersistedSubscriptionKind} {id : String}
    (htracked : Tracked initial phase kind id) :
    ∃ persistedId, Mapped initial phase id persistedId := by
  rcases htracked with hold | ⟨j, hj⟩
  · obtain ⟨persistedId, hmapped⟩ := hinitial.ids_mapped kind id hold
    exact ⟨persistedId, .inl hmapped⟩
  · obtain ⟨-, persistedId, hmaps⟩ := creates_of_tracks hj
    exact ⟨persistedId, .inr ⟨j, hmaps⟩⟩

namespace Owners

variable {kind : PersistedSubscriptionKind} {id persistedId : String}

theorem tracked_mono (hphase : phase i = q) (h : ∀ x, tracks q = some x → tracks p = some x)
    (htracked : Tracked initial phase kind id) :
    Tracked initial (Function.update phase i p) kind id :=
  htracked.imp_right (holds_update_mono hphase h)

section

variable (h : Owners initial usedIds registered usedPersistedIds phase)
include h

/-- A step that registers, numbers and finds nothing. -/
theorem frame (hphase : phase i = q) (hcreates : creates p = creates q)
    (hnumbers : numbers p = numbers q) (htakes : takes p = takes q)
    (htracks : ∀ x, tracks q = some x → tracks p = some x) :
    Owners initial usedIds registered usedPersistedIds (Function.update phase i p) where
  keptIds := h.keptIds
  keptPersistedIds := h.keptPersistedIds
  created id hid := h.created id ((holds_update hphase hcreates).mp hid)
  createdOnce := h.createdOnce.update hphase hcreates
  made id := by rw [h.made, holds_update hphase hcreates]
  numbered persistedId hheld := h.numbered persistedId ((holds_update hphase hnumbers).mp hheld)
  numberedOnce := h.numberedOnce.update hphase hnumbers
  taken id hid := by
    obtain ⟨kind, htracked⟩ := h.taken id ((holds_update hphase htakes).mp hid)
    exact ⟨kind, tracked_mono hphase htracks htracked⟩
  takenOnce := h.takenOnce.update hphase htakes

/-- The bus gives a fresh id. -/
theorem register (hphase : phase i = .waiting) (hfresh : id ∉ usedIds)
    (kind : PersistedSubscriptionKind) (registration : Registration) :
    Owners initial (id :: usedIds) (id :: registered) usedPersistedIds
      (Function.update phase i (.registered id kind registration)) where
  keptIds := List.subset_cons_of_subset _ h.keptIds
  keptPersistedIds := h.keptPersistedIds
  created other hother := by
    rcases (holds_update_new hphase (by rfl) (by rfl)).mp hother with rfl | hold
    · exact ⟨List.mem_cons_self, fun hinitial ↦ hfresh (h.keptIds hinitial)⟩
    · exact ⟨List.mem_cons_of_mem _ (h.created other hold).1, (h.created other hold).2⟩
  createdOnce := h.createdOnce.update_new rfl fun hheld ↦ hfresh (h.created _ hheld).1
  made other := by
    have hnew : Holds (Function.update phase i (.registered id kind registration)) creates other ↔
        other = id ∨ Holds phase creates other := holds_update_new hphase rfl rfl
    rw [hnew, List.mem_cons, h.made]
    tauto
  numbered persistedId hheld := h.numbered persistedId ((holds_update hphase (by rfl)).mp hheld)
  numberedOnce := h.numberedOnce.update hphase rfl
  taken other hother := by
    obtain ⟨kind, htracked⟩ := h.taken other ((holds_update hphase (by rfl)).mp hother)
    exact ⟨kind, tracked_mono hphase (fun _ hnone ↦ by cases hnone) htracked⟩
  takenOnce := h.takenOnce.update hphase rfl

/-- A persisted id is fresh. -/
theorem number {registration : Registration} (hphase : phase i = .registered id kind registration)
    {entry : PersistedSubscription} (hfresh : entry.persistedId ∉ usedPersistedIds) :
    Owners initial usedIds registered (entry.persistedId :: usedPersistedIds)
      (Function.update phase i (.numbered id entry)) where
  keptIds := h.keptIds
  keptPersistedIds := List.subset_cons_of_subset _ h.keptPersistedIds
  created other hother := h.created other ((holds_update hphase (by rfl)).mp hother)
  createdOnce := h.createdOnce.update hphase rfl
  made other := by
    rw [h.made, holds_update hphase]
    rfl
  numbered persistedId hheld := by
    rcases (holds_update_new hphase (by rfl) (by rfl)).mp hheld with rfl | hold
    · exact ⟨List.mem_cons_self, fun hinitial ↦ hfresh (h.keptPersistedIds hinitial)⟩
    · exact ⟨List.mem_cons_of_mem _ (h.numbered _ hold).1, (h.numbered _ hold).2⟩
  numberedOnce := h.numberedOnce.update_new rfl fun hheld ↦ hfresh (h.numbered _ hheld).1
  taken other hother := by
    obtain ⟨kind, htracked⟩ := h.taken other ((holds_update hphase (by rfl)).mp hother)
    exact ⟨kind, tracked_mono hphase (fun _ hnone ↦ by cases hnone) htracked⟩
  takenOnce := h.takenOnce.update hphase rfl

/-- A removal finds an id that no other removal has found. -/
theorem take (hphase : phase i = .waiting) (htracked : Tracked initial phase kind id)
    (hfree : ¬Holds phase takes id) :
    Owners initial usedIds registered usedPersistedIds (Function.update phase i (.taken id)) where
  keptIds := h.keptIds
  keptPersistedIds := h.keptPersistedIds
  created other hother := h.created other ((holds_update hphase (by rfl)).mp hother)
  createdOnce := h.createdOnce.update hphase rfl
  made other := by
    rw [h.made, holds_update hphase]
    rfl
  numbered persistedId hheld := h.numbered persistedId ((holds_update hphase (by rfl)).mp hheld)
  numberedOnce := h.numberedOnce.update hphase rfl
  taken other hother := by
    rcases (holds_update_new hphase (by rfl) (by rfl)).mp hother with rfl | hold
    · exact ⟨kind, tracked_mono hphase (fun _ hnone ↦ by cases hnone) htracked⟩
    · obtain ⟨kind, hkind⟩ := h.taken other hold
      exact ⟨kind, tracked_mono hphase (fun _ hnone ↦ by cases hnone) hkind⟩
  takenOnce := h.takenOnce.update_new rfl hfree

end

variable (h : Owners initial usedIds registered usedPersistedIds phase)
  (hinitial : initial.WellFormed)

include h

theorem not_initial_of_creates (hcreates : creates (phase i) = some id) :
    id ∉ initial.app.bus.usedIds :=
  (h.created id ⟨i, hcreates⟩).2

include hinitial

theorem creates_of_tracked (hcreates : creates (phase i) = some id)
    (htracked : Tracked initial phase kind id) : tracks (phase i) = some (kind, id) := by
  rcases htracked with hold | ⟨j, hj⟩
  · obtain ⟨persistedId, hmapped⟩ := hinitial.ids_mapped kind id hold
    exact absurd (hinitial.mapping_used id persistedId hmapped).1 (h.not_initial_of_creates hcreates)
  · obtain rfl := h.createdOnce hcreates (creates_of_tracks hj).1
    exact hj

theorem maps_of_mapped (hcreates : creates (phase i) = some id)
    (hmapped : Mapped initial phase id persistedId) : maps (phase i) = some (id, persistedId) := by
  rcases hmapped with hold | ⟨j, hj⟩
  · exact absurd (hinitial.mapping_used id persistedId hold).1 (h.not_initial_of_creates hcreates)
  · obtain rfl := h.createdOnce hcreates (creates_of_maps hj).1
    exact hj

/-- Nobody takes back what a handler has registered before it inserts the id. -/
theorem untouched (hcreates : creates (phase i) = some id) (htracks : tracks (phase i) = none)
    {view : HandlerPhase → Option String}
    (hview : ∀ {p id}, view p = some id → takes p = some id ∨ undoes p = some id) :
    ¬Holds phase view id := by
  rintro ⟨j, hj⟩
  rcases hview hj with htakes | hundoes
  · obtain ⟨kind, htracked⟩ := h.taken id ⟨j, htakes⟩
    rw [h.creates_of_tracked hinitial hcreates htracked] at htracks
    cases htracks
  · obtain ⟨hj, -, kind, hkind⟩ := of_undoes hundoes
    obtain rfl := h.createdOnce hcreates hj
    rw [hkind] at htracks
    cases htracks

theorem tracked_unique {other : PersistedSubscriptionKind} (hkind : Tracked initial phase kind id)
    (hother : Tracked initial phase other id) : kind = other := by
  rcases hkind with hold | ⟨j, hj⟩
  · rcases hother with hold' | ⟨k, hk⟩
    · exact hinitial.ids_kind kind other id hold hold'
    · have htracks := h.creates_of_tracked hinitial (creates_of_tracks hk).1 (.inl hold)
      exact (Prod.mk.inj (Option.some.inj (htracks.symm.trans hk))).1
  · have htracks := h.creates_of_tracked hinitial (creates_of_tracks hj).1 hother
    exact (Prod.mk.inj (Option.some.inj (hj.symm.trans htracks))).1

/-- A mapping is the only one of both its ids. -/
theorem mapped_unique {id' persistedId' : String} (hmapped : Mapped initial phase id persistedId)
    (hother : Mapped initial phase id' persistedId')
    (hshared : id = id' ∨ persistedId = persistedId') : id = id' ∧ persistedId = persistedId' := by
  have hcross {id id' persistedId persistedId' : String}
      (hold : (id, persistedId) ∈ initial.app.busToPersisted)
      (hnew : Holds phase maps (id', persistedId')) :
      ¬(id = id' ∨ persistedId = persistedId') := by
    obtain ⟨hid, hpersistedId⟩ := hinitial.mapping_used id persistedId hold
    obtain ⟨j, hj⟩ := hnew
    obtain ⟨hcreates, hnumbers⟩ := creates_of_maps hj
    rintro (rfl | rfl)
    · exact h.not_initial_of_creates hcreates hid
    · exact (h.numbered _ ⟨j, hnumbers⟩).2 hpersistedId
  rcases hmapped with hold | hnew <;> rcases hother with hold' | hnew'
  · have heq := hinitial.mapping_unique _ hold _ hold' hshared
    exact Prod.mk.inj heq
  · exact absurd hshared (hcross hold hnew')
  · exact absurd (hshared.imp Eq.symm Eq.symm) (hcross hold' hnew)
  · obtain ⟨j, hj⟩ := hnew
    obtain ⟨k, hk⟩ := hnew'
    have hjk : j = k := by
      rcases hshared with rfl | rfl
      · exact h.createdOnce (creates_of_maps hj).1 (creates_of_maps hk).1
      · exact h.numberedOnce (creates_of_maps hj).2 (creates_of_maps hk).2
    subst hjk
    exact Prod.mk.inj (Option.some.inj (hj.symm.trans hk))

end Owners

/-- The mapping holds what was inserted and not removed, and a removal got what it held. -/
structure MappingLedger (initial : HttpServer) (mapping : List (String × String))
    (phase : ℕ → HandlerPhase) : Prop where
  mapping : ∀ id persistedId, (id, persistedId) ∈ mapping ↔
    Mapped initial phase id persistedId ∧ ¬Holds phase unmaps id
  dropped : ∀ id persistedId, Holds phase drops (id, some persistedId) →
    Mapped initial phase id persistedId
  missed : ∀ id, Holds phase drops (id, none) → Holds phase undoes id

namespace MappingLedger

variable {mapping : List (String × String)} {id : String} {entry : PersistedSubscription}

theorem mapped_iff (hphase : phase i = q) (hmaps : maps p = maps q) {persistedId : String} :
    Mapped initial (Function.update phase i p) id persistedId ↔
      Mapped initial phase id persistedId := by
  unfold Mapped
  rw [holds_update hphase hmaps]

section

variable (h : MappingLedger initial mapping phase)
include h

theorem frame (hphase : phase i = q) (hmaps : maps p = maps q) (hunmaps : unmaps p = unmaps q)
    (hdrops : drops p = drops q) (hundoes : undoes p = undoes q) :
    MappingLedger initial mapping (Function.update phase i p) where
  mapping id persistedId := by
    rw [h.mapping, mapped_iff hphase hmaps, holds_update hphase hunmaps]
  dropped id persistedId hheld :=
    (mapped_iff hphase hmaps).mpr (h.dropped id persistedId ((holds_update hphase hdrops).mp hheld))
  missed id hheld :=
    (holds_update hphase hundoes).mpr (h.missed id ((holds_update hphase hdrops).mp hheld))

/-- A handler inserts the mapping of its fresh id. -/
theorem insert (hphase : phase i = .numbered id entry) (hinitial : id ∉ initial.app.bus.usedIds)
    (hmapping : initial.WellFormed) (hfirst : ∀ persistedId, ¬Holds phase maps (id, persistedId))
    (huntouched : ¬Holds phase unmaps id) :
    MappingLedger initial ((id, entry.persistedId) :: mapping.filter (·.1 ≠ id))
      (Function.update phase i (.mapped id entry)) where
  mapping other persistedId := by
    have hmaps : Holds (Function.update phase i (.mapped id entry)) maps (other, persistedId) ↔
        (other, persistedId) = (id, entry.persistedId) ∨ Holds phase maps (other, persistedId) :=
      holds_update_new hphase rfl rfl
    have hunmaps : Holds (Function.update phase i (.mapped id entry)) unmaps other ↔
        Holds phase unmaps other := holds_update hphase rfl
    rw [Mapped, hmaps, hunmaps, List.mem_cons, List.mem_filter, h.mapping, Mapped]
    by_cases hother : other = id
    · subst hother
      have hnone : (other, persistedId) ∉ initial.app.busToPersisted :=
        fun hold ↦ hinitial (hmapping.mapping_used other persistedId hold).1
      have hfirst := hfirst persistedId
      simp only [ne_eq, not_true_eq_false, decide_false, Bool.false_eq_true, and_false, or_false]
      tauto
    · simp [hother]
  dropped other persistedId hheld := by
    rcases h.dropped other persistedId ((holds_update hphase (by rfl)).mp hheld) with hold | hold
    · exact .inl hold
    · exact .inr (holds_update_mono hphase (fun _ hnone ↦ by cases hnone) hold)
  missed other hheld :=
    (holds_update hphase (by rfl)).mpr (h.missed other ((holds_update hphase (by rfl)).mp hheld))

theorem mem_filter_iff (hphase : phase i = q) (hmaps : maps p = maps q) (hold : unmaps q = none)
    (hnew : unmaps p = some id) (other persistedId : String) :
    (other, persistedId) ∈ mapping.filter (·.1 ≠ id) ↔
      Mapped initial (Function.update phase i p) other persistedId ∧
        ¬Holds (Function.update phase i p) unmaps other := by
  rw [mapped_iff hphase hmaps, holds_update_new hphase hold hnew, List.mem_filter, h.mapping]
  by_cases hother : other = id <;> simp [hother]

theorem undo (hphase : phase i = .unsaved id entry) :
    MappingLedger initial (mapping.filter (·.1 ≠ id))
      (Function.update phase i (.unmapped id entry)) where
  mapping := h.mem_filter_iff hphase (by rfl) (by rfl) (by rfl)
  dropped other persistedId hheld :=
    (mapped_iff hphase (by rfl)).mpr
      (h.dropped other persistedId ((holds_update hphase (by rfl)).mp hheld))
  missed other hheld := holds_update_mono hphase (fun _ hnone ↦ by cases hnone)
    (h.missed other ((holds_update hphase (by rfl)).mp hheld))

/-- A removal removes the mapping of the id it found.  It finds none only when the handler that
inserted it has undone its registration. -/
theorem drop (hphase : phase i = .gone id)
    (hmapped : ∃ persistedId, Mapped initial phase id persistedId)
    (hfirst : Holds phase unmaps id → Holds phase undoes id) :
    MappingLedger initial (mapping.filter (·.1 ≠ id))
      (Function.update phase i (.dropped id (mapping.lookup id))) where
  mapping := h.mem_filter_iff hphase (by rfl) (by rfl) (by rfl)
  dropped other persistedId hheld := by
    apply (mapped_iff hphase (by rfl)).mpr
    rcases (holds_update_new hphase (by rfl) (by rfl)).mp hheld with hnew | hold
    · obtain ⟨rfl, hfound⟩ := Prod.mk.inj hnew
      have hmem : (other, persistedId) ∈ mapping := by
        obtain ⟨before, after, rfl, -⟩ := List.lookup_eq_some_iff.mp hfound.symm
        simp
      exact ((h.mapping other persistedId).mp hmem).1
    · exact h.dropped other persistedId hold
  missed other hheld := by
    apply (holds_update hphase (by rfl)).mpr
    rcases (holds_update_new hphase (by rfl) (by rfl)).mp hheld with hnew | hold
    · obtain ⟨rfl, hmissed⟩ := Prod.mk.inj hnew
      obtain ⟨persistedId, hmapped⟩ := hmapped
      apply hfirst
      by_contra hunmaps
      have hmem := (h.mapping other persistedId).mpr ⟨hmapped, hunmaps⟩
      have hother := List.lookup_eq_none_iff.mp hmissed.symm _ hmem
      simp at hother
    · exact h.missed other hold

end

end MappingLedger

/-- The ids are those inserted and not removed. -/
def IdsLedger (initial : HttpServer) (ids : PersistedSubscriptionKind → List String)
    (phase : ℕ → HandlerPhase) : Prop :=
  ∀ kind id, id ∈ ids kind ↔ Tracked initial phase kind id ∧ ¬Holds phase untracks id

namespace IdsLedger

variable {ids ids' : PersistedSubscriptionKind → List String} {id : String}
  {entry : PersistedSubscription} {kind : PersistedSubscriptionKind}

theorem tracked_iff (hphase : phase i = q) (htracks : tracks p = tracks q) :
    Tracked initial (Function.update phase i p) kind id ↔ Tracked initial phase kind id := by
  unfold Tracked
  rw [holds_update hphase htracks]

theorem frame (h : IdsLedger initial ids phase) (hphase : phase i = q)
    (htracks : tracks p = tracks q) (huntracks : untracks p = untracks q) :
    IdsLedger initial ids (Function.update phase i p) := by
  intro kind id
  rw [h, tracked_iff hphase htracks, holds_update hphase huntracks]

/-- A handler inserts its id. -/
theorem insert (h : IdsLedger initial ids phase) (hphase : phase i = .mapped id entry)
    (huntouched : ¬Holds phase untracks id)
    (hids : ∀ kind other, other ∈ ids' kind ↔ kind = entry.kind ∧ other = id ∨ other ∈ ids kind) :
    IdsLedger initial ids' (Function.update phase i (.tracked id entry)) := by
  intro kind other
  have htracks : Holds (Function.update phase i (.tracked id entry)) tracks (kind, other) ↔
      (kind, other) = (entry.kind, id) ∨ Holds phase tracks (kind, other) :=
    holds_update_new hphase rfl rfl
  have huntracks : Holds (Function.update phase i (.tracked id entry)) untracks other ↔
      Holds phase untracks other := holds_update hphase rfl
  rw [hids, h, Tracked, Tracked, htracks, huntracks, Prod.mk.injEq]
  constructor
  · rintro (⟨rfl, rfl⟩ | ⟨htracked, hnot⟩)
    · exact ⟨.inr (.inl ⟨rfl, rfl⟩), huntouched⟩
    · exact ⟨htracked.imp_right .inr, hnot⟩
  · rintro ⟨hinitial | hnew | hold, hnot⟩
    · exact .inr ⟨.inl hinitial, hnot⟩
    · exact .inl hnew
    · exact .inr ⟨.inr hold, hnot⟩

/-- An id is removed from the ids of its kind. -/
theorem remove (h : IdsLedger initial ids phase) (hphase : phase i = q)
    (htracks : tracks p = tracks q) (hold : untracks q = none) (hnew : untracks p = some id)
    (hkind : ∀ other, Tracked initial phase other id → other = kind)
    (hids : ∀ other id', id' ∈ ids' other ↔ id' ∈ ids other ∧ ¬(other = kind ∧ id' = id)) :
    IdsLedger initial ids' (Function.update phase i p) := by
  intro other id'
  rw [hids, h, tracked_iff hphase htracks, holds_update_new hphase hold hnew]
  constructor
  · rintro ⟨⟨htracked, hnot⟩, hne⟩
    refine ⟨htracked, ?_⟩
    rintro (rfl | hheld)
    · exact hne ⟨hkind other htracked, rfl⟩
    · exact hnot hheld
  · rintro ⟨htracked, hnot⟩
    rw [not_or] at hnot
    exact ⟨⟨htracked, hnot.2⟩, fun heq ↦ hnot.1 heq.2⟩

end IdsLedger

namespace Bus

variable {bus next : Bus} {id : String} {entry : PersistedSubscription}

theorem registerEntry_ok (h : bus.registerEntry id entry = .ok next) :
    bus.index.subscribe (entry.registers id) = .ok next.index ∧
      next.usedIds = id :: bus.usedIds := by
  unfold registerEntry at h
  unfold PersistedSubscription.registers
  cases hkind : entry.kind with
  | asyncWebhook =>
    simp only [hkind] at h
    obtain ⟨index, hindex, rfl⟩ := subscribe_ok h
    exact ⟨hindex, rfl⟩
  | syncInterceptor =>
    simp only [hkind] at h
    obtain ⟨index, hindex, rfl⟩ := intercept_ok h
    exact ⟨hindex, rfl⟩

theorem mem_live_registerEntry (h : bus.registerEntry id entry = .ok next)
    (other : SubscriptionEntry) :
    other ∈ next.live ↔ other = entry.registers id ∨ other ∈ bus.live :=
  SubjectIndex.mem_list_subscribe (registerEntry_ok h).1

theorem mem_live_unsubscribe {entry : SubscriptionEntry} :
    entry ∈ (bus.unsubscribe id).live ↔ entry ∈ bus.live ∧ entry.id ≠ id :=
  SubjectIndex.mem_list_unsubscribe

end Bus

/-- Of the registrations made over HTTP, those are live that nobody has unsubscribed. -/
structure LiveLedger (initial : HttpServer) (bus : Bus) (registered : List String)
    (phase : ℕ → HandlerPhase) : Prop where
  live_used : ∀ entry ∈ bus.live, entry.id ∈ bus.usedIds
  live : ∀ entry, entry.id ∈ registered →
    (entry ∈ bus.live ↔ (entry ∈ initial.app.bus.live ∨ Holds phase onBus entry) ∧
      ¬Holds phase unregisters entry.id)

namespace LiveLedger

variable {bus next : Bus} {registered : List String} {id : String}

theorem frame (h : LiveLedger initial bus registered phase) (hphase : phase i = q)
    (honBus : onBus p = onBus q) (hunregisters : unregisters p = unregisters q) :
    LiveLedger initial bus registered (Function.update phase i p) where
  live_used := h.live_used
  live entry hentry := by
    rw [h.live entry hentry, holds_update hphase honBus, holds_update hphase hunregisters]

/-- The bus takes a registration under a fresh id. -/
theorem register (h : LiveLedger initial bus registered phase) (hphase : phase i = .waiting)
    (howners : Owners initial bus.usedIds registered usedPersistedIds phase)
    (hinitial : initial.WellFormed) {kind : PersistedSubscriptionKind}
    {registration : Registration} (hfresh : id ∉ bus.usedIds)
    (hnext : bus.registerEntry id (registration.entry kind "" 0) = .ok next) :
    LiveLedger initial next (id :: registered)
      (Function.update phase i (.registered id kind registration)) where
  live_used entry hentry := by
    rw [(Bus.registerEntry_ok hnext).2, List.mem_cons]
    rcases (Bus.mem_live_registerEntry hnext entry).mp hentry with rfl | hold
    · exact .inl (PersistedSubscription.registers_id _ _)
    · exact .inr (h.live_used entry hold)
  live entry hentry := by
    have honBus : Holds (Function.update phase i (.registered id kind registration)) onBus entry ↔
        entry = (registration.entry kind "" 0).registers id ∨ Holds phase onBus entry :=
      holds_update_new hphase rfl rfl
    have hunregisters : Holds (Function.update phase i (.registered id kind registration))
        unregisters entry.id ↔ Holds phase unregisters entry.id := holds_update hphase rfl
    rw [Bus.mem_live_registerEntry hnext, honBus, hunregisters]
    by_cases hid : entry.id = id
    · have hnotLive : entry ∉ bus.live := fun hlive ↦ hfresh (hid ▸ h.live_used entry hlive)
      have hnotInitial : entry ∉ initial.app.bus.live := fun hlive ↦
        hfresh (hid ▸ howners.keptIds (hinitial.live_used entry hlive))
      have hnotHeld : ¬Holds phase onBus entry := fun ⟨j, hj⟩ ↦
        hfresh (hid ▸ (howners.created _ ⟨j, creates_of_onBus hj⟩).1)
      have hnotEnded : ¬Holds phase unregisters entry.id := by
        rintro ⟨j, hj⟩
        rcases takes_or_undoes_of_unregisters hj with htakes | hundoes
        · obtain ⟨kind, htracked⟩ := howners.taken _ ⟨j, htakes⟩
          rcases htracked with hold | ⟨k, hk⟩
          · obtain ⟨persistedId, hmapped⟩ := hinitial.ids_mapped kind _ hold
            have hused := (hinitial.mapping_used _ _ hmapped).1
            exact hfresh (hid ▸ howners.keptIds hused)
          · exact hfresh (hid ▸ (howners.created _ ⟨k, (creates_of_tracks hk).1⟩).1)
        · exact hfresh (hid ▸ (howners.created _ ⟨j, (of_undoes hundoes).1⟩).1)
      simp [hnotLive, hnotInitial, hnotHeld, hnotEnded]
    · have hne : entry ≠ (registration.entry kind "" 0).registers id := by
        rintro rfl
        exact hid (PersistedSubscription.registers_id _ _)
      rw [h.live entry (List.mem_of_ne_of_mem hid hentry)]
      simp [hne]

theorem unsubscribe (h : LiveLedger initial bus registered phase) (hphase : phase i = q)
    (honBus : onBus p = onBus q) (hold : unregisters q = none)
    (hnew : unregisters p = some id) :
    LiveLedger initial (bus.unsubscribe id) registered (Function.update phase i p) where
  live_used entry hentry := h.live_used entry (Bus.mem_live_unsubscribe.mp hentry).1
  live entry hentry := by
    rw [Bus.mem_live_unsubscribe, h.live entry hentry, holds_update hphase honBus,
      holds_update_new hphase hold hnew, not_or]
    tauto

end LiveLedger

/-- The store holds the entries that were saved and not deleted. -/
def StoreLedger (initial : HttpServer) (entries : List PersistedSubscription)
    (phase : ℕ → HandlerPhase) : Prop :=
  ∀ entry, entry ∈ entries ↔ (entry ∈ initial.entries ∨ Holds phase saves entry) ∧
    ¬Holds phase deletes entry.persistedId

namespace StoreLedger

variable {entries : List PersistedSubscription} {entry : PersistedSubscription} {id : String}

theorem frame (h : StoreLedger initial entries phase) (hphase : phase i = q)
    (hsaves : saves p = saves q) (hdeletes : deletes p = deletes q) :
    StoreLedger initial entries (Function.update phase i p) := by
  intro entry
  rw [h, holds_update hphase hsaves, holds_update hphase hdeletes]

/-- A handler saves its entry, which nobody has deleted before. -/
theorem save (h : StoreLedger initial entries phase) (hphase : phase i = .tracked id entry)
    (howners : Owners initial usedIds registered usedPersistedIds phase)
    (hinitial : initial.WellFormed) (hkept : ¬Holds phase deletes entry.persistedId) :
    StoreLedger initial (entry :: entries.filter (·.persistedId ≠ entry.persistedId))
      (Function.update phase i (.saved id entry)) := by
  intro other
  have hsaves : Holds (Function.update phase i (.saved id entry)) saves other ↔
      other = entry ∨ Holds phase saves other := holds_update_new hphase rfl rfl
  have hdeletes : Holds (Function.update phase i (.saved id entry)) deletes other.persistedId ↔
      Holds phase deletes other.persistedId := holds_update hphase rfl
  have hnumbers : numbers (phase i) = some entry.persistedId := by rw [hphase]; rfl
  have hfirst (hother : other ∈ initial.entries ∨ Holds phase saves other) :
      other.persistedId ≠ entry.persistedId := by
    intro heq
    rcases hother with hold | ⟨j, hj⟩
    · exact (howners.numbered _ ⟨i, hnumbers⟩).2 (heq ▸ hinitial.entries_used other hold)
    · obtain ⟨id, hmaps, -⟩ := of_saves hj
      have hj' := (creates_of_maps hmaps).2
      rw [heq] at hj'
      obtain rfl := howners.numberedOnce hj' hnumbers
      rw [hphase] at hj
      cases hj
  rw [hsaves, hdeletes, List.mem_cons, List.mem_filter, h]
  constructor
  · rintro (rfl | ⟨⟨hold, hnot⟩, -⟩)
    · exact ⟨.inr (.inl rfl), hkept⟩
    · exact ⟨hold.imp_right .inr, hnot⟩
  · rintro ⟨hold | rfl | hold, hnot⟩
    · exact .inr ⟨⟨.inl hold, hnot⟩, decide_eq_true (hfirst (.inl hold))⟩
    · exact .inl rfl
    · exact .inr ⟨⟨.inr hold, hnot⟩, decide_eq_true (hfirst (.inr hold))⟩

/-- A removal deletes an entry. -/
theorem delete (h : StoreLedger initial entries phase) {persistedId : String}
    (hphase : phase i = .dropped id (some persistedId)) :
    StoreLedger initial (entries.filter (·.persistedId ≠ persistedId))
      (Function.update phase i (.deleted id persistedId)) := by
  intro other
  have hsaves : Holds (Function.update phase i (.deleted id persistedId)) saves other ↔
      Holds phase saves other := holds_update hphase rfl
  have hdeletes : Holds (Function.update phase i (.deleted id persistedId)) deletes
      other.persistedId ↔ other.persistedId = persistedId ∨
        Holds phase deletes other.persistedId := holds_update_new hphase rfl rfl
  rw [hsaves, hdeletes, List.mem_filter, h, decide_eq_true_eq, not_or]
  tauto

end StoreLedger

end Seidrum.EventBus
