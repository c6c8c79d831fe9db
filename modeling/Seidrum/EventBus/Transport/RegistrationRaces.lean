import Seidrum.EventBus.Transport.RegistrationLedger

/-!
# Registrations and persisted entries

In every interleaving of handlers that create and remove registrations, once all of them have ended
the persisted entries are those of the live registrations, and an id that was removed with success
has no entry, provided no handler saves an entry after a removal has deleted it and the deletions of
the store succeed.  A removal that runs to its end before the entry is saved breaks this.
-/

namespace Seidrum.EventBus

open Seidrum.Foundation HandlerPhase

/-- The tables of a server are what the phases of its handlers say. -/
structure RegistrationLedger (initial server : HttpServer) (phase : ℕ → HandlerPhase) : Prop where
  owners : Owners initial server.app.bus.usedIds server.registered server.usedPersistedIds phase
  mapping : MappingLedger initial server.app.busToPersisted phase
  ids : IdsLedger initial server.ids phase
  live : LiveLedger initial server.app.bus server.registered phase
  hasStore : server.app.store.isSome
  store : StoreLedger initial server.entries phase
  notFailed : ∀ i, phase i ≠ .failed

/-- Two servers with the same tables. -/
structure SameTables (a b : HttpServer) : Prop where
  bus : a.app.bus = b.app.bus
  registered : a.registered = b.registered
  usedPersistedIds : a.usedPersistedIds = b.usedPersistedIds
  busToPersisted : a.app.busToPersisted = b.app.busToPersisted
  ids : a.ids = b.ids
  store : a.app.store = b.app.store

namespace RegistrationLedger

variable {initial server next : HttpServer} {phase : ℕ → HandlerPhase} {i : ℕ} {env : HttpEnv}

theorem of_same (h : RegistrationLedger initial server phase) (hsame : SameTables next server) :
    RegistrationLedger initial next phase where
  owners := by
    rw [hsame.bus, hsame.registered, hsame.usedPersistedIds]
    exact h.owners
  mapping := hsame.busToPersisted ▸ h.mapping
  ids := hsame.ids ▸ h.ids
  live := by
    rw [hsame.bus, hsame.registered]
    exact h.live
  hasStore := hsame.store ▸ h.hasStore
  store := by
    rw [HttpServer.entries, hsame.store]
    exact h.store
  notFailed := h.notFailed

variable {p : HandlerPhase} {registration : Registration} {persistedId : String} {q : HandlerPhase}
  {op : HttpOp} {answer : HttpAnswer op}

theorem notFailed_update (h : RegistrationLedger initial server phase) (hp : p ≠ .failed) (j : ℕ) :
    Function.update phase i p j ≠ .failed := by
  by_cases hji : j = i
  · rw [hji, Function.update_self]
    exact hp
  · rw [Function.update_of_ne hji]
    exact h.notFailed j

theorem sameTables_reserve (kind : PersistedSubscriptionKind) (server : HttpServer) :
    SameTables { server with app := (HttpServer.reserve kind server.app).2 } server := by
  cases kind <;> simp only [HttpServer.reserve] <;> split_ifs <;> exact ⟨rfl, rfl, rfl, rfl, rfl, rfl⟩

theorem sameTables_release (kind : PersistedSubscriptionKind) (server : HttpServer) :
    SameTables { server with app := HttpServer.release kind server.app } server := by
  cases kind <;> exact ⟨rfl, rfl, rfl, rfl, rfl, rfl⟩

theorem sameTables_spawn (task : DeliveryTask) (server : HttpServer) :
    SameTables { server with app := HttpServer.spawnWebhookDeliveryTask task server.app } server := by
  unfold HttpServer.spawnWebhookDeliveryTask
  split_ifs <;> exact ⟨rfl, rfl, rfl, rfl, rfl, rfl⟩

theorem sameTables_admission (env : UrlEnv) (opName patternCode pattern url : String)
    (nowSecs : ℕ) (server : HttpServer) :
    SameTables { server with
      app := (server.app.admission env opName patternCode pattern url nowSecs).2 } server := by
  have hrate (counted : AppState) (h : server.app.checkRegistrationRateLimit nowSecs = .ok counted) :
      ∃ rate, counted = { server.app with registrationRate := rate } := by
    simp only [AppState.checkRegistrationRateLimit] at h
    split_ifs at h <;> cases h <;> exact ⟨_, rfl⟩
  unfold AppState.admission
  split
  · exact ⟨rfl, rfl, rfl, rfl, rfl, rfl⟩
  · split
    · exact ⟨rfl, rfl, rfl, rfl, rfl, rfl⟩
    · rename_i counted hcounted
      obtain ⟨rate, rfl⟩ := hrate counted hcounted
      split
      · exact ⟨rfl, rfl, rfl, rfl, rfl, rfl⟩
      · split <;> exact ⟨rfl, rfl, rfl, rfl, rfl, rfl⟩

/-! ### Creating -/

variable {id : String} {kind : PersistedSubscriptionKind}

theorem register (h : RegistrationLedger initial server phase) (hinitial : initial.WellFormed)
    (hphase : phase i = .waiting) {bus : Bus} (hfresh : id ∉ server.app.bus.usedIds)
    (hbus : server.app.bus.registerEntry id (registration.entry kind "" 0) = .ok bus) :
    RegistrationLedger initial
      { server with
        app := HttpServer.handOver kind id registration { server.app with bus }
        registered := id :: server.registered }
      (Function.update phase i (.registered id kind registration)) := by
  have hsame : SameTables
      { server with
        app := HttpServer.handOver kind id registration { server.app with bus }
        registered := id :: server.registered }
      { server with app := { server.app with bus }, registered := id :: server.registered } := by
    cases kind <;> exact ⟨rfl, rfl, rfl, rfl, rfl, rfl⟩
  refine of_same ?_ hsame
  constructor
  · have hused : bus.usedIds = id :: server.app.bus.usedIds := (Bus.registerEntry_ok hbus).2
    change Owners initial bus.usedIds _ _ _
    rw [hused]
    exact h.owners.register hphase hfresh kind registration
  · exact h.mapping.frame hphase rfl rfl rfl rfl
  · exact h.ids.frame hphase rfl rfl
  · exact h.live.register hphase h.owners hinitial hfresh hbus
  · exact h.hasStore
  · exact h.store.frame hphase rfl rfl
  · exact h.notFailed_update (by simp)

theorem newPersistedId (h : RegistrationLedger initial server phase) {now : ℕ}
    (hphase : phase i = .registered id kind registration)
    (hfresh : persistedId ∉ server.usedPersistedIds) :
    RegistrationLedger initial
      { server with usedPersistedIds := persistedId :: server.usedPersistedIds }
      (Function.update phase i (.numbered id (registration.entry kind persistedId now))) where
  owners := by
    have hnumber : Owners initial server.app.bus.usedIds server.registered
        ((registration.entry kind persistedId now).persistedId :: server.usedPersistedIds)
        (Function.update phase i (.numbered id (registration.entry kind persistedId now))) :=
      h.owners.number hphase hfresh
    exact hnumber
  mapping := h.mapping.frame hphase rfl rfl rfl rfl
  ids := h.ids.frame hphase rfl rfl
  live := h.live.frame hphase rfl rfl
  hasStore := h.hasStore
  store := h.store.frame hphase rfl rfl
  notFailed := h.notFailed_update (by simp)

variable {entry : PersistedSubscription}

theorem insertMapping (h : RegistrationLedger initial server phase) (hinitial : initial.WellFormed)
    (hphase : phase i = .numbered id entry) :
    RegistrationLedger initial
      { server with app := HttpServer.insertMapping id entry.persistedId server.app }
      (Function.update phase i (.mapped id entry)) := by
  have hcreates : creates (phase i) = some id := by rw [hphase]; rfl
  have hfirst (persistedId : String) : ¬Holds phase maps (id, persistedId) := by
    intro hheld
    have hmaps := h.owners.maps_of_mapped hinitial hcreates (.inr hheld)
    rw [hphase] at hmaps
    cases hmaps
  have huntouched := h.owners.untouched hinitial hcreates (by rw [hphase]; rfl)
    takes_or_undoes_of_unmaps
  constructor
  · exact h.owners.frame hphase rfl rfl rfl fun _ hnone ↦ by cases hnone
  · exact h.mapping.insert hphase (h.owners.not_initial_of_creates hcreates) hinitial hfirst
      huntouched
  · exact h.ids.frame hphase rfl rfl
  · exact h.live.frame hphase rfl rfl
  · exact h.hasStore
  · exact h.store.frame hphase rfl rfl
  · exact h.notFailed_update (by simp)

theorem ids_setIds (kind : PersistedSubscriptionKind) (ids : List String) (server : HttpServer)
    (other : PersistedSubscriptionKind) :
    { server with app := HttpServer.setIds kind ids server.app }.ids other =
      if other = kind then ids else server.ids other := by
  cases kind <;> cases other <;> rfl

@[simp]
theorem setIds_bus (kind : PersistedSubscriptionKind) (ids : List String) (app : AppState) :
    (HttpServer.setIds kind ids app).bus = app.bus := by
  cases kind <;> rfl

@[simp]
theorem setIds_busToPersisted (kind : PersistedSubscriptionKind) (ids : List String)
    (app : AppState) : (HttpServer.setIds kind ids app).busToPersisted = app.busToPersisted := by
  cases kind <;> rfl

@[simp]
theorem setIds_store (kind : PersistedSubscriptionKind) (ids : List String) (app : AppState) :
    (HttpServer.setIds kind ids app).store = app.store := by
  cases kind <;> rfl

theorem insertId (h : RegistrationLedger initial server phase) (hinitial : initial.WellFormed)
    (hphase : phase i = .mapped id entry) :
    RegistrationLedger initial
      { server with app := HttpServer.setIds entry.kind (id :: server.ids entry.kind) server.app }
      (Function.update phase i (.tracked id entry)) := by
  have hcreates : creates (phase i) = some id := by rw [hphase]; rfl
  have huntouched := h.owners.untouched hinitial hcreates (by rw [hphase]; rfl)
    takes_or_undoes_of_untracks
  have hids (kind : PersistedSubscriptionKind) (other : String) :
      other ∈ { server with
        app := HttpServer.setIds entry.kind (id :: server.ids entry.kind) server.app }.ids kind ↔
        kind = entry.kind ∧ other = id ∨ other ∈ server.ids kind := by
    rw [ids_setIds]
    by_cases hkind : kind = entry.kind
    · subst hkind
      simp
    · simp [hkind]
  constructor
  · rw [setIds_bus]
    exact h.owners.frame hphase rfl rfl rfl fun _ hnone ↦ by cases hnone
  · rw [setIds_busToPersisted]
    exact h.mapping.frame hphase rfl rfl rfl rfl
  · exact IdsLedger.insert h.ids hphase huntouched hids
  · rw [setIds_bus]
    exact h.live.frame hphase rfl rfl
  · rw [setIds_store]
    exact h.hasStore
  · rw [HttpServer.entries, setIds_store]
    exact h.store.frame hphase rfl rfl
  · exact h.notFailed_update (by simp)

theorem saved (h : RegistrationLedger initial server phase) (hinitial : initial.WellFormed)
    (hphase : phase i = .tracked id entry) (hkept : ¬Holds phase deletes entry.persistedId) :
    RegistrationLedger initial
      { server with app := HttpServer.saveSubscription entry server.app }
      (Function.update phase i (.saved id entry)) where
  owners := h.owners.frame hphase rfl rfl rfl fun _ hsame ↦ hsame
  mapping := h.mapping.frame hphase rfl rfl rfl rfl
  ids := h.ids.frame hphase rfl rfl
  live := h.live.frame hphase rfl rfl
  hasStore := by simpa [HttpServer.saveSubscription] using h.hasStore
  store := by
    have hsaved := StoreLedger.save h.store hphase h.owners hinitial hkept
    obtain ⟨entries, hentries⟩ := Option.isSome_iff_exists.mp h.hasStore
    simpa [HttpServer.entries, HttpServer.saveSubscription, hentries] using hsaved
  notFailed := h.notFailed_update (by simp)

/-- A phase that only the handler itself sees. -/
theorem notSaved (h : RegistrationLedger initial server phase)
    (hphase : phase i = .tracked id entry) :
    RegistrationLedger initial server (Function.update phase i (.unsaved id entry)) where
  owners := h.owners.frame hphase rfl rfl rfl fun _ hsame ↦ hsame
  mapping := h.mapping.frame hphase rfl rfl rfl rfl
  ids := h.ids.frame hphase rfl rfl
  live := h.live.frame hphase rfl rfl
  hasStore := h.hasStore
  store := h.store.frame hphase rfl rfl
  notFailed := h.notFailed_update (by simp)

theorem undoMapping (h : RegistrationLedger initial server phase)
    (hphase : phase i = .unsaved id entry) :
    RegistrationLedger initial
      { server with app := HttpServer.removeMapping id server.app }
      (Function.update phase i (.unmapped id entry)) where
  owners := h.owners.frame hphase rfl rfl rfl fun _ hsame ↦ hsame
  mapping := h.mapping.undo hphase
  ids := h.ids.frame hphase rfl rfl
  live := h.live.frame hphase rfl rfl
  hasStore := h.hasStore
  store := h.store.frame hphase rfl rfl
  notFailed := h.notFailed_update (by simp)

theorem mem_ids_filter (server : HttpServer) (kind other : PersistedSubscriptionKind)
    (id id' : String) :
    id' ∈ HttpServer.ids
        { server with
          app := HttpServer.setIds kind ((server.ids kind).filter (· ≠ id)) server.app } other ↔
      id' ∈ server.ids other ∧ ¬(other = kind ∧ id' = id) := by
  rw [ids_setIds]
  by_cases hkind : other = kind
  · subst hkind
    simp
  · simp [hkind]

section

variable (h : RegistrationLedger initial server phase)
include h

/-- An id is removed, by a removal or by the handler that inserted it. -/
theorem removeId (hinitial : initial.WellFormed) (hphase : phase i = q)
    (howners : Owners initial server.app.bus.usedIds server.registered server.usedPersistedIds
      (Function.update phase i p))
    (hids : tracks p = tracks q ∧ untracks q = none ∧ untracks p = some id)
    (hmapping : maps p = maps q ∧ unmaps p = unmaps q ∧ drops p = drops q ∧ undoes p = undoes q)
    (hlive : onBus p = onBus q ∧ unregisters p = unregisters q)
    (hstore : saves p = saves q ∧ deletes p = deletes q) (htracked : Tracked initial phase kind id)
    (hfailed : p ≠ .failed) :
    RegistrationLedger initial
      { server with app :=
        HttpServer.setIds kind ((server.ids kind).filter (· ≠ id)) server.app }
      (Function.update phase i p) := by
  constructor
  · rw [setIds_bus]
    exact howners
  · rw [setIds_busToPersisted]
    exact h.mapping.frame hphase hmapping.1 hmapping.2.1 hmapping.2.2.1 hmapping.2.2.2
  · exact h.ids.remove hphase hids.1 hids.2.1 hids.2.2
      (fun other hother ↦ h.owners.tracked_unique hinitial hother htracked)
      (mem_ids_filter server kind · id)
  · rw [setIds_bus]
    exact h.live.frame hphase hlive.1 hlive.2
  · rw [setIds_store]
    exact h.hasStore
  · rw [HttpServer.entries, setIds_store]
    exact h.store.frame hphase hstore.1 hstore.2
  · exact h.notFailed_update hfailed

theorem undoId (hinitial : initial.WellFormed) (hphase : phase i = .unmapped id entry) :
    RegistrationLedger initial
      { server with app :=
        HttpServer.setIds entry.kind ((server.ids entry.kind).filter (· ≠ id)) server.app }
      (Function.update phase i (.untracked id entry)) :=
  h.removeId hinitial hphase (h.owners.frame hphase rfl rfl rfl fun _ hsame ↦ hsame)
    ⟨rfl, rfl, rfl⟩ ⟨rfl, rfl, rfl, rfl⟩ ⟨rfl, rfl⟩ ⟨rfl, rfl⟩
    (.inr ⟨i, by rw [hphase]; rfl⟩) (by simp)

/-- A handler unsubscribes an id. -/
theorem unsubscribe (hphase : phase i = q)
    (howners : creates p = creates q ∧ numbers p = numbers q ∧ takes p = takes q ∧
      tracks p = tracks q)
    (hmapping : maps p = maps q ∧ unmaps p = unmaps q ∧ drops p = drops q ∧ undoes p = undoes q)
    (hids : untracks p = untracks q)
    (hlive : onBus p = onBus q ∧ unregisters q = none ∧ unregisters p = some id)
    (hstore : saves p = saves q ∧ deletes p = deletes q) (hfailed : p ≠ .failed) :
    RegistrationLedger initial
      { server with app := HttpServer.unsubscribe id server.app } (Function.update phase i p) where
  owners := h.owners.frame hphase howners.1 howners.2.1 howners.2.2.1
    fun x hx ↦ by rw [howners.2.2.2, hx]
  mapping := h.mapping.frame hphase hmapping.1 hmapping.2.1 hmapping.2.2.1 hmapping.2.2.2
  ids := h.ids.frame hphase howners.2.2.2 hids
  live := h.live.unsubscribe hphase hlive.1 hlive.2.1 hlive.2.2
  hasStore := h.hasStore
  store := h.store.frame hphase hstore.1 hstore.2
  notFailed := h.notFailed_update hfailed

theorem undoRegistration (hphase : phase i = .untracked id entry) :
    RegistrationLedger initial
      { server with app := HttpServer.unsubscribe id server.app }
      (Function.update phase i (.undone id entry)) :=
  h.unsubscribe hphase ⟨rfl, rfl, rfl, rfl⟩ ⟨rfl, rfl, rfl, rfl⟩ rfl ⟨rfl, rfl, rfl⟩ ⟨rfl, rfl⟩
    (by simp)

end

/-- A removal that finds the id. -/
theorem take (h : RegistrationLedger initial server phase) (hinitial : initial.WellFormed)
    (hphase : phase i = .waiting) (hfound : id ∈ server.ids kind) :
    RegistrationLedger initial
      { server with app :=
        HttpServer.setIds kind ((server.ids kind).filter (· ≠ id)) server.app }
      (Function.update phase i (.taken id)) := by
  obtain ⟨htracked, huntracked⟩ := (h.ids kind id).mp hfound
  have hfree : ¬Holds phase takes id := fun ⟨j, hj⟩ ↦ huntracked ⟨j, untracks_of_takes hj⟩
  exact h.removeId hinitial hphase (h.owners.take hphase htracked hfree) ⟨rfl, rfl, rfl⟩
    ⟨rfl, rfl, rfl, rfl⟩ ⟨rfl, rfl⟩ ⟨rfl, rfl⟩ htracked (by simp)

theorem sameTables_missed (hmissed : id ∉ server.ids kind) :
    SameTables
      { server with app :=
        HttpServer.setIds kind ((server.ids kind).filter (· ≠ id)) server.app } server := by
  have hids : (server.ids kind).filter (· ≠ id) = server.ids kind :=
    List.filter_eq_self.mpr fun other hother ↦ decide_eq_true (ne_of_mem_of_not_mem hother hmissed)
  rw [hids]
  cases kind <;> exact ⟨rfl, rfl, rfl, rfl, rfl, rfl⟩

theorem removeRegistration (h : RegistrationLedger initial server phase)
    (hphase : phase i = .taken id) :
    RegistrationLedger initial
      { server with app := HttpServer.unsubscribe id server.app }
      (Function.update phase i (.gone id)) :=
  h.unsubscribe hphase ⟨rfl, rfl, rfl, rfl⟩ ⟨rfl, rfl, rfl, rfl⟩ rfl ⟨rfl, rfl, rfl⟩ ⟨rfl, rfl⟩
    (by simp)

theorem dropMapping (h : RegistrationLedger initial server phase) (hinitial : initial.WellFormed)
    (hphase : phase i = .gone id) :
    RegistrationLedger initial
      { server with app := HttpServer.removeMapping id server.app }
      (Function.update phase i (.dropped id (server.app.busToPersisted.lookup id))) := by
  have htakes : takes (phase i) = some id := by rw [hphase]; rfl
  obtain ⟨kind, htracked⟩ := h.owners.taken id ⟨i, htakes⟩
  have hfirst : Holds phase unmaps id → Holds phase undoes id := by
    rintro ⟨j, hj⟩
    rcases takes_or_undoes_of_unmaps hj with htaken | hundoes
    · obtain rfl := h.owners.takenOnce htakes htaken
      rw [hphase] at hj
      cases hj
    · exact ⟨j, hundoes⟩
  constructor
  · exact h.owners.frame hphase rfl rfl rfl fun _ hsame ↦ hsame
  · exact h.mapping.drop hphase (hinitial.mapped_of_tracked htracked) hfirst
  · exact h.ids.frame hphase rfl rfl
  · exact h.live.frame hphase rfl rfl
  · exact h.hasStore
  · exact h.store.frame hphase rfl rfl
  · exact h.notFailed_update (by simp)

theorem deleteEntry (h : RegistrationLedger initial server phase)
    (hphase : phase i = .dropped id (some persistedId)) :
    RegistrationLedger initial
      { server with app := HttpServer.deleteSubscription persistedId server.app }
      (Function.update phase i (.deleted id persistedId)) where
  owners := h.owners.frame hphase rfl rfl rfl fun _ hsame ↦ hsame
  mapping := h.mapping.frame hphase rfl rfl rfl rfl
  ids := h.ids.frame hphase rfl rfl
  live := h.live.frame hphase rfl rfl
  hasStore := by simpa [HttpServer.deleteSubscription] using h.hasStore
  store := by
    have hdeleted := StoreLedger.delete h.store hphase
    obtain ⟨entries, hentries⟩ := Option.isSome_iff_exists.mp h.hasStore
    simpa [HttpServer.entries, HttpServer.deleteSubscription, hentries] using hdeleted
  notFailed := h.notFailed_update (by simp)

theorem unchanged (h : RegistrationLedger initial server phase)
    (hphase : (phase i).next op answer = phase i) (hsame : SameTables next server) :
    RegistrationLedger initial next (Function.update phase i ((phase i).next op answer)) := by
  rw [hphase, Function.update_eq_self]
  exact h.of_same hsame

/-- What an operation of a handler does keeps the tables and the phases in step, unless it saves an
entry that was deleted, or the store fails to delete one. -/
theorem step (h : RegistrationLedger initial server phase) (hinitial : initial.WellFormed)
    (hallowed : (phase i).Allows op) (hperform : server.perform op env = some (answer, next))
    (hsave : ∀ entry, op = .saveSubscription entry → env.storeError = none →
      ¬Holds phase deletes entry.persistedId)
    (hdelete : ∀ persistedId, op = .deleteSubscription persistedId → env.storeError = none) :
    RegistrationLedger initial next (Function.update phase i ((phase i).next op answer)) := by
  have hne := h.notFailed i
  cases op with
  | admission opName patternCode pattern url =>
    cases hperform
    exact h.unchanged (next_of_neutral (by trivial) _ _) (sameTables_admission ..)
  | reserve kind =>
    cases hperform
    exact h.unchanged (next_of_neutral (by trivial) _ _) (sameTables_reserve kind server)
  | release kind =>
    cases hperform
    exact h.unchanged (next_of_neutral (by trivial) _ _) (sameTables_release kind server)
  | spawnWebhookDeliveryTask task =>
    cases hperform
    exact h.unchanged (next_of_neutral (by trivial) _ _) (sameTables_spawn task server)
  | register kind registration =>
    have hphase := of_allows_register hallowed hne
    simp only [HttpServer.perform] at hperform
    split_ifs at hperform with hfresh
    split at hperform
    · cases hperform
      exact h.unchanged (by rw [hphase]; rfl) ⟨rfl, rfl, rfl, rfl, rfl, rfl⟩
    · rename_i bus hbus
      cases hperform
      rw [hphase]
      exact h.register hinitial hphase hfresh hbus
  | newPersistedId kind =>
    obtain ⟨id, registration, hphase⟩ := of_allows_newPersistedId hallowed hne
    simp only [HttpServer.perform] at hperform
    split_ifs at hperform with hfresh
    cases hperform
    rw [hphase]
    exact h.newPersistedId hphase hfresh
  | insertMapping busId persistedId =>
    obtain ⟨entry, hphase, rfl⟩ := of_allows_insertMapping hallowed hne
    cases hperform
    rw [hphase]
    exact h.insertMapping hinitial hphase
  | removeMapping busId =>
    cases hperform
    rcases of_allows_removeMapping hallowed hne with hphase | ⟨entry, hphase⟩
    · rw [hphase]
      exact h.dropMapping hinitial hphase
    · rw [hphase]
      exact h.undoMapping hphase
  | insertId kind busId =>
    obtain ⟨entry, hphase, rfl⟩ := of_allows_insertId hallowed hne
    cases hperform
    rw [hphase]
    exact h.insertId hinitial hphase
  | removeId kind busId =>
    cases hperform
    rcases of_allows_removeId hallowed hne with hphase | ⟨entry, hphase, rfl⟩
    · by_cases hfound : busId ∈ server.ids kind
      · rw [hphase, decide_eq_true hfound]
        exact h.take hinitial hphase hfound
      · rw [decide_eq_false hfound]
        exact h.unchanged (by rw [hphase]; rfl) (sameTables_missed hfound)
    · rw [hphase]
      exact h.undoId hinitial hphase
  | saveSubscription entry =>
    obtain ⟨id, hphase⟩ := of_allows_saveSubscription hallowed hne
    simp only [HttpServer.perform] at hperform
    split at hperform
    · cases hperform
      rw [hphase]
      exact h.notSaved hphase
    · rename_i hsaved
      cases hperform
      rw [hphase]
      exact h.saved hinitial hphase (hsave entry rfl hsaved)
  | deleteSubscription persistedId =>
    obtain ⟨id, hphase⟩ := of_allows_deleteSubscription hallowed hne
    simp only [HttpServer.perform, hdelete persistedId rfl] at hperform
    cases hperform
    rw [hphase]
    exact h.deleteEntry hphase
  | unsubscribe busId =>
    cases hperform
    rcases of_allows_unsubscribe hallowed hne with hphase | ⟨entry, hphase⟩
    · rw [hphase]
      exact h.removeRegistration hphase
    · rw [hphase]
      exact h.undoRegistration hphase

end RegistrationLedger

/-- How far each handler has come. -/
def phases (state : HttpHandlers) (i : ℕ) : HandlerPhase :=
  protocol.replay .waiting (state.events i)

/-- A save that succeeds comes before the deletion of its entry, and a deletion succeeds. -/
def KeepsStoreOrder (state : HttpHandlers) (env : HttpEnv) : HttpOp → Prop
  | .saveSubscription entry => env.storeError = none →
      ∀ event ∈ state.trace, event.op ≠ .deleteSubscription entry.persistedId
  | .deleteSubscription _ => env.storeError = none
  | _ => True

instance (state : HttpHandlers) (env : HttpEnv) (op : HttpOp) :
    Decidable (KeepsStoreOrder state env op) := by
  unfold KeepsStoreOrder
  split <;> infer_instance

/-- No entry is saved after a removal has deleted it, and the store deletes what it is asked to. -/
def SavesBeforeDeletes (state : HttpHandlers) : Move HttpRequest HttpEnv → Prop
  | .spawn _ => True
  | .run i env => ∀ task ∈ state.tasks[i]?, ∀ op ∈ task.program.next?,
      KeepsStoreOrder state env op

instance (state : HttpHandlers) (move : Move HttpRequest HttpEnv) :
    Decidable (SavesBeforeDeletes state move) := by
  cases move <;> unfold SavesBeforeDeletes <;> infer_instance

theorem phases_answered (state : HttpHandlers) (i : ℕ) (request : HttpRequest) (op : HttpOp)
    (next : HttpAnswer op → Handler) (answer : HttpAnswer op) (server : HttpServer) :
    phases (state.answered i request op next answer server) =
      Function.update (phases state) i ((phases state i).next op answer) :=
  Tasks.locals_answered protocol .waiting state i request op next answer server

/-- The tables are what the phases say, and the history holds the mappings and the deletions. -/
structure HandlersInvariant (initial : HttpServer) (state : HttpHandlers) : Prop where
  ledger : RegistrationLedger initial state.shared (phases state)
  mapped : ∀ event ∈ state.trace, ∀ id persistedId, event.op = .insertMapping id persistedId →
    Mapped initial (phases state) id persistedId
  deleted : ∀ persistedId, Holds (phases state) deletes persistedId →
    ∃ event ∈ state.trace, event.op = .deleteSubscription persistedId

variable {initial : HttpServer} {state : HttpHandlers}

theorem not_holds_waiting {β : Type} (view : HandlerPhase → Option β)
    (h : view .waiting = none) (x : β) : ¬Holds (fun _ ↦ .waiting) view x := by
  rintro ⟨_, hx⟩
  rw [h] at hx
  cases hx

/-- Before any handler has run. -/
theorem registrationLedger_init (hinitial : initial.WellFormed) :
    RegistrationLedger initial initial fun _ ↦ .waiting where
  owners :=
    { keptIds := fun _ h ↦ h
      keptPersistedIds := fun _ h ↦ h
      created := fun id h ↦ absurd h (not_holds_waiting creates rfl id)
      createdOnce := fun i j x h ↦ by cases h
      made := fun id ↦ (or_iff_left (not_holds_waiting creates rfl id)).symm
      numbered := fun id h ↦ absurd h (not_holds_waiting numbers rfl id)
      numberedOnce := fun i j x h ↦ by cases h
      taken := fun id h ↦ absurd h (not_holds_waiting takes rfl id)
      takenOnce := fun i j x h ↦ by cases h }
  mapping :=
    { mapping := fun id persistedId ↦ by
        simp [Mapped, not_holds_waiting maps rfl, not_holds_waiting unmaps rfl]
      dropped := fun id persistedId h ↦ absurd h (not_holds_waiting drops rfl _)
      missed := fun id h ↦ absurd h (not_holds_waiting drops rfl _) }
  ids := fun kind id ↦ by
    simp [Tracked, not_holds_waiting tracks rfl, not_holds_waiting untracks rfl]
  live :=
    { live_used := hinitial.live_used
      live := fun entry _ ↦ by
        simp [not_holds_waiting onBus rfl, not_holds_waiting unregisters rfl] }
  hasStore := hinitial.hasStore
  store := fun entry ↦ by
    simp [not_holds_waiting saves rfl, not_holds_waiting deletes rfl]
  notFailed := fun _ h ↦ by cases h

variable {request : HttpRequest} {phase : HandlerPhase} {id : String}

/-- Every step of the handlers keeps the invariant, when the guard holds. -/
theorem HandlersInvariant.answered {i : ℕ} {op : HttpOp} {next : HttpAnswer op → Handler}
    {env : HttpEnv} {answer : HttpAnswer op} {server : HttpServer}
    (h : HandlersInvariant initial state) (hinitial : initial.WellFormed)
    (hat : state.tasks[i]? = some ⟨request, .call op next⟩)
    (hguard : SavesBeforeDeletes state (.run i env)) (hallowed : (phases state i).Allows op)
    (hperform : state.shared.perform op env = some (answer, server)) :
    HandlersInvariant initial (state.answered i request op next answer server) := by
  have hne := h.ledger.notFailed i
  have hguard : KeepsStoreOrder state env op := hguard _ hat op rfl
  have hledger := h.ledger.step hinitial hallowed hperform
    (by
      rintro entry rfl hserved ⟨j, hj⟩
      obtain ⟨event, hmem, hop⟩ := h.deleted entry.persistedId ⟨j, hj⟩
      exact hguard hserved event hmem hop)
    (by
      rintro persistedId rfl
      exact hguard)
  have hnext := hledger.notFailed i
  rw [Function.update_self] at hnext
  constructor
  · rw [phases_answered]
    exact hledger
  · intro event hmem id persistedId hop
    rw [phases_answered]
    obtain hold | rfl := mem_of_concat hmem
    · rcases h.mapped event hold id persistedId hop with hstart | hheld
      · exact .inl hstart
      · exact .inr (holds_update_mono rfl (fun x hx ↦ maps_next hnext hx) hheld)
    · dsimp only at hop
      subst hop
      obtain ⟨entry, hphase, rfl⟩ := of_allows_insertMapping hallowed hne
      exact .inr ⟨i, by rw [Function.update_self, hphase]; rfl⟩
  · rw [phases_answered]
    rintro persistedId ⟨j, hj⟩
    by_cases hji : j = i
    · subst hji
      rw [Function.update_self] at hj
      rcases deletes_next hallowed hne hj with hold | rfl
      · obtain ⟨event, hmem, hop⟩ := h.deleted persistedId ⟨j, hold⟩
        exact ⟨event, List.mem_append_left _ hmem, hop⟩
      · exact ⟨_, List.mem_concat_self, rfl⟩
    · rw [Function.update_of_ne hji] at hj
      obtain ⟨event, hmem, hop⟩ := h.deleted persistedId ⟨j, hj⟩
      exact ⟨event, List.mem_append_left _ hmem, hop⟩

theorem handlersInvariant_of_reach (hinitial : initial.WellFormed)
    (hreach : Steps.Reach httpHandlers SavesBeforeDeletes (Tasks.init initial) state) :
    HandlersInvariant initial state := by
  refine Tasks.invariant_of_follows follows_handler hreach ?_ ?_ ?_
  · exact ⟨registrationLedger_init hinitial, fun event hmem ↦ absurd hmem List.not_mem_nil,
      fun persistedId hheld ↦ absurd hheld (not_holds_waiting deletes rfl persistedId)⟩
  · exact fun before request _ h ↦ ⟨h.ledger, h.mapped, h.deleted⟩
  · intro before i request op next env answer server _ h hat hguard hallowed hperform
    exact h.answered hinitial hat hguard hallowed hperform

/-! ## Registrations and entries -/

/-- The persisted entries are those of the live registrations. -/
structure HttpServer.Agrees (server : HttpServer) : Prop where
  live : ∀ entry ∈ server.entries, ∃ id ∈ server.registered,
    (id, entry.persistedId) ∈ server.app.busToPersisted ∧
      entry.registers id ∈ server.app.bus.live
  persisted : ∀ registration ∈ server.app.bus.live, registration.id ∈ server.registered →
    ∃ entry ∈ server.entries,
      (registration.id, entry.persistedId) ∈ server.app.busToPersisted ∧
        entry.registers registration.id = registration

/-- The persisted id was given to a registration with this id. -/
def EntryOf (initial : HttpServer) (state : HttpHandlers) (id persistedId : String) : Prop :=
  (id, persistedId) ∈ initial.app.busToPersisted ∨
    ∃ event ∈ state.trace, event.op = .insertMapping id persistedId

/-- When no handler is running, the entries are those of the live registrations; and an id whose
removal returned success has no entry. -/
structure RegistrationsAgree (initial : HttpServer) (state : HttpHandlers) : Prop where
  quiescent : (∀ task ∈ state.tasks, task.program.isDone) → state.shared.Agrees
  removed : ∀ task ∈ state.tasks, ∀ id, task.input.removes = some id →
    task.program = .done (.ok .noContent) → ∀ persistedId, EntryOf initial state id persistedId →
      ∀ entry ∈ state.shared.entries, entry.persistedId ≠ persistedId

/-- A phase in which a handler may have ended. -/
def HandlerPhase.Rest : HandlerPhase → Prop
  | waiting | saved .. | undone .. | deleted .. => True
  | dropped _ none => True
  | _ => False

theorem HandlerPhase.rest_of_final {answer : Except HttpError HttpReply}
    (h : phase.Final request answer) (hne : phase ≠ failed) : phase.Rest := by
  cases answer with
  | error error =>
    rcases h.resolve_left hne with rfl | ⟨id, entry, rfl⟩ <;> trivial
  | ok reply =>
    cases reply with
    | created id =>
      obtain ⟨entry, rfl⟩ := h.resolve_left hne
      trivial
    | noContent =>
      obtain ⟨id, -, rfl | ⟨persistedId, rfl⟩⟩ := h.resolve_left hne <;> trivial

/-- A handler at rest that took an id has removed its registration and dropped its mapping. -/
theorem HandlerPhase.Rest.of_takes (h : phase.Rest) (htakes : phase.takes = some id) :
    phase.unregisters = some id ∧
      (phase.drops = some (id, none) ∨ ∃ persistedId, phase.drops = some (id, some persistedId) ∧
        phase.deletes = some persistedId) := by
  cases phase with
  | dropped other persistedId =>
    cases htakes
    cases persistedId with
    | none => exact ⟨rfl, .inl rfl⟩
    | some persistedId => cases h
  | deleted other persistedId =>
    cases htakes
    exact ⟨rfl, .inr ⟨persistedId, rfl, rfl⟩⟩
  | taken other | gone other => cases h
  | _ => cases htakes

theorem HandlerPhase.Rest.of_undoes (h : phase.Rest) (hundoes : phase.undoes = some id) :
    phase.unregisters = some id := by
  cases phase with
  | undone other entry => exact hundoes
  | unmapped other entry | untracked other entry => cases h
  | _ => cases hundoes

/-- A handler at rest that registered something has saved its entry, or undone it. -/
theorem HandlerPhase.Rest.of_onBus (h : phase.Rest) {registration : SubscriptionEntry}
    (honBus : phase.onBus = some registration) :
    phase.unregisters = some registration.id ∨
      ∃ entry, phase.saves = some entry ∧
        phase.maps = some (registration.id, entry.persistedId) ∧
        entry.registers registration.id = registration := by
  cases phase with
  | saved id entry =>
    cases honBus
    rw [PersistedSubscription.registers_id]
    exact .inr ⟨entry, rfl, rfl, rfl⟩
  | undone id entry =>
    cases honBus
    rw [PersistedSubscription.registers_id]
    exact .inl rfl
  | registered | numbered | mapped | tracked | unsaved | unmapped | untracked => cases h
  | _ => cases honBus

namespace RegistrationLedger

variable {initial server : HttpServer} {phase : ℕ → HandlerPhase} {id persistedId : String}
  {entry : PersistedSubscription}

section

variable (h : RegistrationLedger initial server phase) (hinitial : initial.WellFormed)
include h hinitial

/-- The deletion of an entry is by a removal that took the id of its mapping. -/
theorem taken_of_deleted (hmapped : Mapped initial phase id persistedId)
    (hdeleted : Holds phase deletes persistedId) : Holds phase unregisters id := by
  obtain ⟨j, hj⟩ := hdeleted
  cases hphase : phase j with
  | deleted other dropped =>
    rw [hphase] at hj
    obtain rfl := Option.some.inj hj
    have hother := h.mapping.dropped other dropped ⟨j, by rw [hphase]; rfl⟩
    obtain ⟨rfl, -⟩ := h.owners.mapped_unique hinitial hmapped hother (.inr rfl)
    exact ⟨j, by rw [hphase]; rfl⟩
  | _ =>
    rw [hphase] at hj
    cases hj

/-- At rest, nobody has taken the id of an entry that is in the store. -/
theorem untaken_of_stored (hrest : ∀ i, (phase i).Rest)
    (hmapped : Mapped initial phase id persistedId) (hkept : ¬Holds phase deletes persistedId)
    (hundoes : ¬Holds phase undoes id) : ¬Holds phase takes id := by
  rintro ⟨j, hj⟩
  obtain ⟨-, hmissed | ⟨other, hdropped, hdeleted⟩⟩ := (hrest j).of_takes hj
  · exact hundoes (h.mapping.missed id ⟨j, hmissed⟩)
  · have hother := h.mapping.dropped id other ⟨j, hdropped⟩
    obtain ⟨-, rfl⟩ := h.owners.mapped_unique hinitial hmapped hother (.inl rfl)
    exact hkept ⟨j, hdeleted⟩

/-- At rest, every entry is that of a live registration. -/
theorem live_of_rest (hagrees : initial.Agrees) (hrest : ∀ i, (phase i).Rest)
    (hentry : entry ∈ server.entries) :
    ∃ id ∈ server.registered, (id, entry.persistedId) ∈ server.app.busToPersisted ∧
      entry.registers id ∈ server.app.bus.live := by
  obtain ⟨hsaved, hkept⟩ := (h.store entry).mp hentry
  obtain ⟨id, hid, hmapped, hlive, hundoes⟩ : ∃ id ∈ server.registered,
      Mapped initial phase id entry.persistedId ∧
      (entry.registers id ∈ initial.app.bus.live ∨ Holds phase onBus (entry.registers id)) ∧
      ¬Holds phase undoes id := by
    rcases hsaved with hold | ⟨i, hi⟩
    · obtain ⟨id, hid, hmapping, hlive⟩ := hagrees.live entry hold
      refine ⟨id, (h.owners.made id).mpr (.inl hid), .inl hmapping, .inl hlive, ?_⟩
      rintro ⟨j, hj⟩
      exact h.owners.not_initial_of_creates (of_undoes hj).1 (hinitial.registered_used id hid)
    · obtain ⟨id, hmaps, honBus⟩ := of_saves hi
      have hcreates := (creates_of_maps hmaps).1
      refine ⟨id, (h.owners.made id).mpr (.inr ⟨i, hcreates⟩), .inr ⟨i, hmaps⟩,
        .inr ⟨i, honBus⟩, ?_⟩
      rintro ⟨j, hj⟩
      obtain ⟨hj, hnone, -⟩ := of_undoes hj
      obtain rfl := h.owners.createdOnce hcreates hj
      rw [hi] at hnone
      cases hnone
  have htakes := h.untaken_of_stored hinitial hrest hmapped hkept hundoes
  have hunmaps : ¬Holds phase unmaps id := fun ⟨j, hj⟩ ↦
    (takes_or_undoes_of_unmaps hj).elim (htakes ⟨j, ·⟩) (hundoes ⟨j, ·⟩)
  have hunregisters : ¬Holds phase unregisters (entry.registers id).id := by
    rw [PersistedSubscription.registers_id]
    exact fun ⟨j, hj⟩ ↦
      (takes_or_undoes_of_unregisters hj).elim (htakes ⟨j, ·⟩) (hundoes ⟨j, ·⟩)
  have hregistered : (entry.registers id).id ∈ server.registered := by
    rwa [PersistedSubscription.registers_id]
  exact ⟨id, hid, (h.mapping.mapping id _).mpr ⟨hmapped, hunmaps⟩,
    (h.live.live _ hregistered).mpr ⟨hlive, hunregisters⟩⟩

/-- At rest, every live registration has its entry. -/
theorem persisted_of_rest (hagrees : initial.Agrees) (hrest : ∀ i, (phase i).Rest)
    {registration : SubscriptionEntry} (hlive : registration ∈ server.app.bus.live)
    (hregistered : registration.id ∈ server.registered) :
    ∃ entry ∈ server.entries,
      (registration.id, entry.persistedId) ∈ server.app.busToPersisted ∧
        entry.registers registration.id = registration := by
  obtain ⟨hsource, hunregisters⟩ := (h.live.live registration hregistered).mp hlive
  obtain ⟨entry, hsaved, hmapped, hregisters⟩ : ∃ entry,
      (entry ∈ initial.entries ∨ Holds phase saves entry) ∧
      Mapped initial phase registration.id entry.persistedId ∧
      entry.registers registration.id = registration := by
    rcases hsource with hold | ⟨i, hi⟩
    · have hid : registration.id ∈ initial.registered := by
        refine ((h.owners.made _).mp hregistered).resolve_right fun hcreated ↦ ?_
        exact (h.owners.created _ hcreated).2 (hinitial.live_used registration hold)
      obtain ⟨entry, hentry, hmapping, hregisters⟩ := hagrees.persisted registration hold hid
      exact ⟨entry, .inl hentry, .inl hmapping, hregisters⟩
    · rcases (hrest i).of_onBus hi with hundone | ⟨entry, hsaves, hmaps, hregisters⟩
      · exact absurd ⟨i, hundone⟩ hunregisters
      · exact ⟨entry, .inr ⟨i, hsaves⟩, .inr ⟨i, hmaps⟩, hregisters⟩
  have hkept : ¬Holds phase deletes entry.persistedId := fun hdeleted ↦
    hunregisters (h.taken_of_deleted hinitial hmapped hdeleted)
  have hunmaps : ¬Holds phase unmaps registration.id := by
    rintro ⟨j, hj⟩
    rcases takes_or_undoes_of_unmaps hj with htakes | hundoes
    · exact hunregisters ⟨j, ((hrest j).of_takes htakes).1⟩
    · exact hunregisters ⟨j, (hrest j).of_undoes hundoes⟩
  exact ⟨entry, (h.store entry).mpr ⟨hsaved, hkept⟩, (h.mapping.mapping _ _).mpr ⟨hmapped, hunmaps⟩,
    hregisters⟩

/-- An id that a removal dropped has no entry in the store. -/
theorem no_entry_of_dropped {i : ℕ}
    (hdropped : phase i = .dropped id none ∨ ∃ other, phase i = .deleted id other)
    (hmapped : Mapped initial phase id persistedId) (hentry : entry ∈ server.entries) :
    entry.persistedId ≠ persistedId := by
  rintro rfl
  obtain ⟨hsaved, hkept⟩ := (h.store entry).mp hentry
  rcases hdropped with hphase | ⟨other, hphase⟩
  · -- the removal found no mapping, so the handler that made it failed to save the entry
    obtain ⟨k, hk⟩ := h.mapping.missed id ⟨i, by rw [hphase]; rfl⟩
    obtain ⟨hcreates, hnone, -⟩ := of_undoes hk
    have hnumbers := (creates_of_maps (h.owners.maps_of_mapped hinitial hcreates hmapped)).2
    rcases hsaved with hold | ⟨j, hj⟩
    · exact (h.owners.numbered _ ⟨k, hnumbers⟩).2 (hinitial.entries_used entry hold)
    · obtain ⟨_, hmaps, -⟩ := of_saves hj
      obtain rfl := h.owners.numberedOnce (creates_of_maps hmaps).2 hnumbers
      rw [hj] at hnone
      cases hnone
  · have hother := h.mapping.dropped id other ⟨i, by rw [hphase]; rfl⟩
    obtain ⟨-, rfl⟩ := h.owners.mapped_unique hinitial hmapped hother (.inl rfl)
    exact hkept ⟨i, by rw [hphase]; rfl⟩

end

end RegistrationLedger

/-- In every interleaving in which no entry is saved after a removal has deleted it, and the store
deletes what it is asked to, registrations and entries agree. -/
theorem registrationsAgree_of_reach (initial : HttpServer) (state : HttpHandlers)
    (hinitial : initial.WellFormed) (hagrees : initial.Agrees)
    (hreach : Steps.Reach httpHandlers SavesBeforeDeletes (Tasks.init initial) state) :
    RegistrationsAgree initial state := by
  have hinv := handlersInvariant_of_reach hinitial hreach
  have hfollowing : Tasks.Following (fun _ ↦ protocol) (fun _ ↦ .waiting) Final state :=
    Tasks.following_of_reach follows_handler hreach
  constructor
  · intro hdone
    have hrest (i : ℕ) : (phases state i).Rest := by
      by_cases hi : i < state.tasks.length
      · have hat : state.tasks[i]? = some state.tasks[i] := List.getElem?_eq_getElem hi
        have hends := hdone state.tasks[i] (List.getElem_mem hi)
        have hfollows := hfollowing.follows i _ hat
        cases hprogram : state.tasks[i].program with
        | call op next =>
          rw [hprogram] at hends
          cases hends
        | done answer =>
          rw [hprogram] at hfollows
          exact HandlerPhase.rest_of_final hfollows (hinv.ledger.notFailed i)
      · rw [phases, hfollowing.known.events_eq_nil (not_lt.mp hi)]
        trivial
    exact ⟨fun entry hentry ↦ hinv.ledger.live_of_rest hinitial hagrees hrest hentry,
      fun registration hlive hregistered ↦
        hinv.ledger.persisted_of_rest hinitial hagrees hrest hlive hregistered⟩
  · intro task hmem id hremoves hdone persistedId hentryOf entry hentry
    obtain ⟨i, hi, rfl⟩ := List.mem_iff_getElem.mp hmem
    have hat : state.tasks[i]? = some state.tasks[i] := List.getElem?_eq_getElem hi
    have hfollows := hfollowing.follows i _ hat
    rw [hdone] at hfollows
    obtain ⟨other, hother, hdropped⟩ := hfollows.resolve_left (hinv.ledger.notFailed i)
    obtain rfl := Option.some.inj (hremoves.symm.trans hother)
    have hmapped : Mapped initial (phases state) id persistedId := by
      rcases hentryOf with hold | ⟨event, hevent, hop⟩
      · exact .inl hold
      · exact hinv.mapped event hevent id persistedId hop
    exact hinv.ledger.no_entry_of_dropped hinitial hdropped hmapped hentry

/-- A server that has just started with an empty store. -/
def freshServer : HttpServer := ⟨AppState.justStarted, [], []⟩

theorem wellFormed_freshServer : freshServer.WellFormed where
  hasStore := rfl
  live_used _ h := by cases h
  registered_used _ h := by cases h
  mapping_used _ _ h := by cases h
  mapping_unique _ h := by cases h
  ids_mapped kind _ h := by cases kind <;> cases h
  ids_kind kind _ _ h := by cases kind <;> cases h
  entries_used _ h := by cases h

theorem agrees_freshServer : freshServer.Agrees where
  live _ h := by cases h
  persisted _ h := by cases h

/-- Every URL is accepted, every id is `b` and the store serves. -/
def serving : HttpEnv := ⟨AppState.everyHostPublic, 0, "b", none⟩

def hookRequest : AppState.SubscribeRequest := ⟨"a.b", "https://example.com/hook", [], 0⟩

/-- A subscription is created, up to its id, and then saved. -/
def createThenSave (middle : List (Move HttpRequest HttpEnv)) : List (Move HttpRequest HttpEnv) :=
  .spawn (.createSubscription hookRequest) :: .spawn (.removeSubscription "b") ::
    (List.replicate 6 (.run 0 serving) ++ middle ++ List.replicate 2 (.run 0 serving))

/-- A removal after the save. -/
theorem registrationsAgree_of_order :
    ∃ state ∈ Steps.execute httpHandlers (Tasks.init freshServer)
      (createThenSave [] ++ List.replicate 4 (.run 1 serving)),
      RegistrationsAgree freshServer state := by
  obtain ⟨state, hstate, -⟩ : ∃ state ∈ Steps.execute httpHandlers (Tasks.init freshServer)
      (createThenSave [] ++ List.replicate 4 (.run 1 serving)), state.shared.entries = [] := by
    decide +kernel
  exact ⟨state, hstate, registrationsAgree_of_reach freshServer state wellFormed_freshServer
    agrees_freshServer (Steps.reach_of_execute (by decide +kernel) hstate)⟩

/-- A removal that ends before the save leaves an entry that no registration has. -/
theorem orphan_after_removal :
    ∃ state, Steps.Reach httpHandlers (fun _ _ ↦ True) (Tasks.init freshServer) state ∧
      ¬RegistrationsAgree freshServer state := by
  obtain ⟨state, hstate, hdone, hentries, hmapping⟩ :
      ∃ state ∈ Steps.execute httpHandlers (Tasks.init freshServer)
        (createThenSave (List.replicate 4 (.run 1 serving))),
        (∀ task ∈ state.tasks, task.program.isDone = true) ∧ state.shared.entries ≠ [] ∧
          state.shared.app.busToPersisted = [] := by
    decide +kernel
  refine ⟨state, Steps.reach_of_execute (Steps.guarded_of_forall (fun _ _ ↦ trivial) _ _) hstate,
    fun hagrees ↦ ?_⟩
  obtain ⟨entry, hentry⟩ := List.exists_mem_of_ne_nil _ hentries
  obtain ⟨id, -, hmem, -⟩ := (hagrees.quiescent hdone).live entry hentry
  rw [hmapping] at hmem
  cases hmem

end Seidrum.EventBus
