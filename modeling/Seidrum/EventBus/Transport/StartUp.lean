import Seidrum.EventBus.Transport.Recreation

/-!
# What a start deletes

A start recreates every persisted entry.  An outcome that is classified as permanent deletes the
entry; any other failure leaves it for the next start.  The resolver, the bus and the store may
answer differently at every entry.
-/

namespace Seidrum.EventBus

/-- A refusal of the bus that is not about the pattern. -/
structure BusRefusal where
  error : EventBusError
  temporary : ∀ message, error ≠ .invalidSubject message

/-- What a start meets when it comes to a persisted entry. -/
structure Circumstances where
  /-- the fresh id the bus gives -/
  busId : String
  env : UrlEnv
  refusal : Option BusRefusal
  deleteError : Option StorageError

/-- The content of a store: one entry for each persisted id. -/
structure PersistedEntries where
  entries : List PersistedSubscription
  distinct : (entries.map (·.persistedId)).Nodup

namespace PersistedSubscription

/-- The pattern is not one that this kind of registration accepts. -/
inductive ViolatesPatternPolicy (entry : PersistedSubscription) : Prop
  | subject (refused : Bus.validateSubject entry.pattern ≠ .ok ())
  | tokens (refused : validatePattern (tokens entry.pattern) ≠ .ok ())
  | remote (kind : entry.kind = .syncInterceptor)
      (refused : validateRemotePattern entry.pattern ≠ .ok ())

/-- The entry itself is not one to recreate. -/
def Violates (env : UrlEnv) (policy : WebhookUrlPolicy) (entry : PersistedSubscription) : Prop :=
  entry.ViolatesPatternPolicy ∨ ViolatesUrlPolicy env policy entry.url

/-- The bus refuses a registration that passed every check before it. -/
structure RefusedForNow (circumstances : Circumstances) (policy : WebhookUrlPolicy)
    (entry : PersistedSubscription) : Prop where
  url : validateWebhookUrlWithPolicy circumstances.env entry.url policy = .ok ()
  remote : entry.kind = .syncInterceptor → validateRemotePattern entry.pattern = .ok ()
  refused : circumstances.refusal.isSome

/-- The entry cannot be recreated for a reason that may be gone at the next start: the host of its
URL is not resolved now, or the bus refuses now. -/
def FailsForNow (circumstances : Circumstances) (policy : WebhookUrlPolicy)
    (entry : PersistedSubscription) : Prop :=
  HostLookupFails circumstances.env policy entry.url ∨ entry.RefusedForNow circumstances policy

end PersistedSubscription

namespace AppState

/-- Recreation on a bus that refuses: the checks before the bus is asked, and then its refusal. -/
def recreateRefused (env : UrlEnv) (policy : WebhookUrlPolicy) (refusal : BusRefusal)
    (entry : PersistedSubscription) (state : AppState) : RecreateOutcome :=
  match validateWebhookUrlWithPolicy env entry.url policy with
  | .error error => .permanentFailure ("URL no longer valid: " ++ error.message)
  | .ok _ =>
      match entry.kind with
      | .asyncWebhook =>
          if maxHttpSubscriptions ≤ state.subscriptionCount then
            .transientFailure ("subscription limit reached (" ++ toString maxHttpSubscriptions ++
              " max)")
          else .ofError refusal.error
      | .syncInterceptor =>
          match validateRemotePattern entry.pattern with
          | .error error => .permanentFailure ("pattern no longer permitted: " ++ error.message)
          | .ok _ =>
              if maxHttpInterceptors ≤ state.interceptorCount then
                .transientFailure ("interceptor cap reached (" ++ toString maxHttpInterceptors ++
                  " max)")
              else .ofError refusal.error

def recreateUnder (circumstances : Circumstances) (entry : PersistedSubscription)
    (state : AppState) : RecreateOutcome × AppState :=
  match circumstances.refusal with
  | none => state.recreatePersistedSubscription circumstances.env state.webhookUrlPolicy
      circumstances.busId entry
  | some refusal =>
      (state.recreateRefused circumstances.env state.webhookUrlPolicy refusal entry, state)

/-- Delete a persisted entry; a store that fails to is left as it is. -/
def deletePersisted (deleteError : Option StorageError) (persistedId : String)
    (state : AppState) : AppState :=
  match deleteError with
  | some _ => state
  | none => { state with store := state.store.map (·.filter (·.persistedId ≠ persistedId)) }

/-- One entry of the start: only a permanent failure deletes it. -/
def recreateOrDelete (circumstances : String → Circumstances) (state : AppState)
    (entry : PersistedSubscription) : AppState :=
  match state.recreateUnder (circumstances entry.persistedId) entry with
  | (.permanentFailure _, next) =>
      next.deletePersisted (circumstances entry.persistedId).deleteError entry.persistedId
  | (.recreated, next) => next
  | (.transientFailure _, next) => next

/-- The start of a server.  A store that cannot list its entries recreates none. -/
def start (listError : Option StorageError) (circumstances : String → Circumstances)
    (state : AppState) : AppState :=
  match state.store, listError with
  | some entries, none => entries.foldl (recreateOrDelete circumstances) state
  | _, _ => state

def Keeps (state : AppState) (entry : PersistedSubscription) : Prop :=
  ∃ entries ∈ state.store, entry ∈ entries

/-- A start loses no entry but one that violates the policy, and none that fails for now. -/
structure KeepsValid (circumstances : String → Circumstances) (policy : WebhookUrlPolicy)
    (entries : List PersistedSubscription) (after : AppState) : Prop where
  violates : ∀ entry ∈ entries, ¬after.Keeps entry →
    entry.Violates (circumstances entry.persistedId).env policy
  stays : ∀ entry ∈ entries, entry.FailsForNow (circumstances entry.persistedId) policy →
    after.Keeps entry

end AppState

theorem RecreateOutcome.ofError_permanent {error : EventBusError} {reason : String}
    (h : RecreateOutcome.ofError error = .permanentFailure reason) :
    ∃ message, error = .invalidSubject message := by
  cases error with
  | invalidSubject message => exact ⟨message, rfl⟩
  | _ => cases h

theorem BusRefusal.ofError_ne_permanent (refusal : BusRefusal) (reason : String) :
    RecreateOutcome.ofError refusal.error ≠ .permanentFailure reason := by
  intro h
  obtain ⟨message, hinvalid⟩ := RecreateOutcome.ofError_permanent h
  exact refusal.temporary message hinvalid

theorem SubjectIndex.subscribe_of_valid (index : SubjectIndex) (entry : SubscriptionEntry)
    (h : validatePattern (tokens entry.subjectPattern) = .ok ()) :
    ∃ next, index.subscribe entry = .ok next := by
  unfold SubjectIndex.subscribe
  split
  · rename_i error hrefused
    rw [h] at hrefused
    cases hrefused
  · exact ⟨_, rfl⟩

variable {bus : Bus} {message : String}

theorem Bus.subscribe_invalidSubject {entry : SubscriptionEntry}
    (h : bus.subscribe entry = .error (.invalidSubject message)) :
    Bus.validateSubject entry.subjectPattern ≠ .ok () ∨
      validatePattern (tokens entry.subjectPattern) ≠ .ok () := by
  by_contra hvalid
  rw [not_or, not_not, not_not] at hvalid
  obtain ⟨next, hnext⟩ := bus.index.subscribe_of_valid entry hvalid.2
  simp [Bus.subscribe, hvalid.1, hnext, bind, Except.bind] at h

theorem Bus.intercept_invalidSubject {id pattern : String} {priority : ℕ} {timeout : Option ℕ}
    (h : bus.intercept id pattern priority timeout = .error (.invalidSubject message)) :
    Bus.validateSubject pattern ≠ .ok () ∨ validatePattern (tokens pattern) ≠ .ok () := by
  by_contra hvalid
  rw [not_or, not_not, not_not] at hvalid
  unfold Bus.intercept at h
  simp only [hvalid.1, bind, Except.bind] at h
  split_ifs at h
  · cases h
  · split at h
    · rename_i hrefused
      obtain ⟨next, hnext⟩ := bus.index.subscribe_of_valid
        (Bus.interceptorEntry id pattern priority timeout) hvalid.2
      exact absurd (hnext.symm.trans hrefused) (by simp)
    · cases h

namespace AppState

variable {entry other : PersistedSubscription} {busId reason id pattern url : String}
  {state next before after : AppState} {policy : WebhookUrlPolicy} {circumstances : Circumstances}
  {headers : List (String × String)} {priority : ℕ}

theorem violatesPattern_of_asyncWebhook
    (h : (state.recreatePersistedAsyncWebhook busId entry).1 = .permanentFailure reason) :
    entry.ViolatesPatternPolicy := by
  unfold recreatePersistedAsyncWebhook at h
  split_ifs at h
  cases hlive : state.subscribeWebhook busId entry.pattern entry.url entry.headers
      entry.priority with
  | ok next => simp [hlive] at h
  | error error =>
    simp only [hlive] at h
    obtain ⟨message, rfl⟩ := RecreateOutcome.ofError_permanent h
    have hbus : state.bus.subscribe
        (System.webhookEntry busId entry.pattern entry.url entry.priority) =
          .error (.invalidSubject message) := by
      unfold subscribeWebhook at hlive
      simp only [bind, Except.bind] at hlive
      split at hlive
      · rename_i hrefused
        obtain rfl := Except.error.inj hlive
        exact hrefused
      · cases hlive
    rcases Bus.subscribe_invalidSubject hbus with hsubject | htokens
    · exact .subject hsubject
    · exact .tokens htokens

theorem violatesPattern_of_syncInterceptor (hkind : entry.kind = .syncInterceptor)
    (h : (state.recreatePersistedSyncInterceptor policy busId entry).1 = .permanentFailure reason) :
    entry.ViolatesPatternPolicy := by
  unfold recreatePersistedSyncInterceptor at h
  cases hremote : validateRemotePattern entry.pattern with
  | error error => exact .remote hkind (by simp [hremote])
  | ok _ =>
    simp only [hremote] at h
    split_ifs at h
    cases hlive : state.interceptWebhook busId entry.pattern entry.url entry.headers
        entry.priority entry.timeoutMs policy with
    | ok next => simp [hlive] at h
    | error error =>
      simp only [hlive] at h
      obtain ⟨message, rfl⟩ := RecreateOutcome.ofError_permanent h
      have hbus : state.bus.intercept busId entry.pattern
          (clampRemoteInterceptorPriority entry.priority)
          (clampRemoteInterceptorTimeout entry.timeoutMs) = .error (.invalidSubject message) := by
        unfold interceptWebhook at hlive
        simp only [bind, Except.bind] at hlive
        split at hlive
        · rename_i hrefused
          obtain rfl := Except.error.inj hlive
          exact hrefused
        · cases hlive
      rcases Bus.intercept_invalidSubject hbus with hsubject | htokens
      · exact .subject hsubject
      · exact .tokens htokens

/-- A permanent failure on a bus that refuses is one of the checks before the bus. -/
theorem violates_of_recreateRefused {env : UrlEnv} {refusal : BusRefusal}
    (h : state.recreateRefused env policy refusal entry = .permanentFailure reason) :
    entry.Violates env policy ∨ HostLookupFails env policy entry.url := by
  unfold recreateRefused at h
  cases hurl : validateWebhookUrlWithPolicy env entry.url policy with
  | error error => exact (violates_or_lookupFails hurl).imp_left .inr
  | ok _ =>
    simp only [hurl] at h
    cases hkind : entry.kind with
    | asyncWebhook =>
      simp only [hkind] at h
      split_ifs at h
      exact absurd h (refusal.ofError_ne_permanent reason)
    | syncInterceptor =>
      cases hremote : validateRemotePattern entry.pattern with
      | error error => exact .inl (.inl (.remote hkind (by simp [hremote])))
      | ok _ =>
        simp only [hkind, hremote] at h
        split_ifs at h
        exact absurd h (refusal.ofError_ne_permanent reason)

/-- An entry fails permanently when it violates the policy, and when its host is not resolved. -/
theorem violates_of_permanentFailure
    (h : (state.recreateUnder circumstances entry).1 = .permanentFailure reason) :
    entry.Violates circumstances.env state.webhookUrlPolicy ∨
      HostLookupFails circumstances.env state.webhookUrlPolicy entry.url := by
  unfold recreateUnder at h
  cases hrefusal : circumstances.refusal with
  | some refusal =>
    simp only [hrefusal] at h
    exact violates_of_recreateRefused h
  | none =>
    simp only [hrefusal, recreatePersistedSubscription] at h
    cases hurl : validateWebhookUrlWithPolicy circumstances.env entry.url
        state.webhookUrlPolicy with
    | error error => exact (violates_or_lookupFails hurl).imp_left .inr
    | ok _ =>
      simp only [hurl] at h
      cases hkind : entry.kind with
      | asyncWebhook =>
        simp only [hkind] at h
        exact .inl (.inl (violatesPattern_of_asyncWebhook h))
      | syncInterceptor =>
        simp only [hkind] at h
        exact .inl (.inl (violatesPattern_of_syncInterceptor hkind h))

/-- A refusal of the bus is not classified as permanent. -/
theorem not_permanentFailure_of_refused
    (hrefused : entry.RefusedForNow circumstances state.webhookUrlPolicy) :
    (state.recreateUnder circumstances entry).1 ≠ .permanentFailure reason := by
  obtain ⟨refusal, hrefusal⟩ := Option.isSome_iff_exists.mp hrefused.refused
  intro h
  simp only [recreateUnder, hrefusal, recreateRefused, hrefused.url] at h
  cases hkind : entry.kind with
  | asyncWebhook =>
    simp only [hkind] at h
    split_ifs at h
    exact refusal.ofError_ne_permanent reason h
  | syncInterceptor =>
    simp only [hkind, hrefused.remote hkind] at h
    split_ifs at h
    exact refusal.ofError_ne_permanent reason h

theorem permanentFailure_of_lookupFails
    (h : HostLookupFails circumstances.env state.webhookUrlPolicy entry.url) :
    ∃ reason, (state.recreateUnder circumstances entry).1 = .permanentFailure reason := by
  obtain ⟨error, hurl⟩ := refused_of_lookupFails h
  refine ⟨"URL no longer valid: " ++ error.message, ?_⟩
  unfold recreateUnder
  cases circumstances.refusal with
  | some refusal => simp only [recreateRefused, hurl]
  | none => simp only [recreatePersistedSubscription, hurl]

/-- What recreating an entry leaves alone. -/
structure SameStore (a b : AppState) : Prop where
  store : a.store = b.store
  webhookUrlPolicy : a.webhookUrlPolicy = b.webhookUrlPolicy

theorem SameStore.rfl : SameStore state state := ⟨Eq.refl _, Eq.refl _⟩

theorem sameStore_of_subscribeWebhook
    (h : state.subscribeWebhook id pattern url headers priority = .ok next) :
    SameStore next state := by
  unfold subscribeWebhook at h
  simp only [bind, Except.bind] at h
  split at h
  · cases h
  · cases h
    exact ⟨rfl, rfl⟩

theorem sameStore_of_interceptWebhook {timeoutMs : Option ℕ}
    (h : state.interceptWebhook id pattern url headers priority timeoutMs policy = .ok next) :
    SameStore next state := by
  unfold interceptWebhook at h
  simp only [bind, Except.bind] at h
  split at h
  · cases h
  · cases h
    exact ⟨rfl, rfl⟩

theorem sameStore_recreatePersistedAsyncWebhook (busId : String) (entry : PersistedSubscription)
    (state : AppState) : SameStore (state.recreatePersistedAsyncWebhook busId entry).2 state := by
  unfold recreatePersistedAsyncWebhook
  split_ifs
  · exact .rfl
  · split
    · exact .rfl
    · rename_i next hlive
      have hsame := sameStore_of_subscribeWebhook hlive
      exact ⟨hsame.store, hsame.webhookUrlPolicy⟩

theorem sameStore_recreatePersistedSyncInterceptor (policy : WebhookUrlPolicy) (busId : String)
    (entry : PersistedSubscription) (state : AppState) :
    SameStore (state.recreatePersistedSyncInterceptor policy busId entry).2 state := by
  unfold recreatePersistedSyncInterceptor
  split
  · exact .rfl
  · split_ifs
    · exact .rfl
    · split
      · exact .rfl
      · rename_i next hlive
        have hsame := sameStore_of_interceptWebhook hlive
        exact ⟨hsame.store, hsame.webhookUrlPolicy⟩

theorem sameStore_recreateUnder (circumstances : Circumstances) (entry : PersistedSubscription)
    (state : AppState) : SameStore (state.recreateUnder circumstances entry).2 state := by
  unfold recreateUnder
  split
  · unfold recreatePersistedSubscription
    split
    · exact .rfl
    · split
      · exact sameStore_recreatePersistedAsyncWebhook _ entry state
      · exact sameStore_recreatePersistedSyncInterceptor _ _ entry state
  · exact .rfl

/-- What a deleted entry is like. -/
structure Deleted (circumstances : Circumstances) (policy : WebhookUrlPolicy)
    (entry : PersistedSubscription) : Prop where
  done : circumstances.deleteError = none
  cause : entry.Violates circumstances.env policy ∨
    HostLookupFails circumstances.env policy entry.url
  notRefused : ¬entry.RefusedForNow circumstances policy

/-- What the turn of one entry does to the store: nothing, or it deletes the entry. -/
inductive EntryEffect (circumstances : Circumstances) (entry : PersistedSubscription)
    (before after : AppState) : Prop
  | kept (same : SameStore after before)
  | deleted (policy : after.webhookUrlPolicy = before.webhookUrlPolicy)
      (deleted : Deleted circumstances before.webhookUrlPolicy entry)
      (store : after.store = before.store.map (·.filter (·.persistedId ≠ entry.persistedId)))

theorem recreateOrDelete_effect (circumstances : String → Circumstances)
    (entry : PersistedSubscription) (state : AppState) :
    EntryEffect (circumstances entry.persistedId) entry state
      (recreateOrDelete circumstances state entry) := by
  have hsame := sameStore_recreateUnder (circumstances entry.persistedId) entry state
  unfold recreateOrDelete
  split
  · rename_i reason next houtcome
    rw [houtcome] at hsame
    have hpermanent : (state.recreateUnder (circumstances entry.persistedId) entry).1 =
        .permanentFailure reason := by rw [houtcome]
    unfold deletePersisted
    split
    · exact .kept hsame
    · rename_i hdone
      refine .deleted hsame.webhookUrlPolicy
        ⟨hdone, violates_of_permanentFailure hpermanent, ?_⟩ (by rw [hsame.store])
      exact fun hrefused ↦ not_permanentFailure_of_refused hrefused hpermanent
  all_goals
    rename_i houtcome
    rw [houtcome] at hsame
    exact .kept hsame

/-- An entry whose host is not resolved is deleted when the store is able to. -/
theorem not_keeps_of_lookupFails {circumstances : String → Circumstances}
    (hfails : HostLookupFails (circumstances entry.persistedId).env state.webhookUrlPolicy
      entry.url) (hdone : (circumstances entry.persistedId).deleteError = none) :
    ¬(recreateOrDelete circumstances state entry).Keeps entry := by
  obtain ⟨reason, hpermanent⟩ := permanentFailure_of_lookupFails hfails
  rintro ⟨entries, hstore, hmem⟩
  unfold recreateOrDelete at hstore
  split at hstore
  · simp only [deletePersisted, hdone] at hstore
    obtain ⟨stored, _, rfl⟩ := Option.map_eq_some_iff.mp hstore
    simp at hmem
  all_goals
    rename_i houtcome
    rw [houtcome] at hpermanent
    cases hpermanent

/-- An entry another one's turn takes from the store has that one's id. -/
theorem EntryEffect.lost (heffect : EntryEffect circumstances entry before after)
    (hbefore : before.Keeps other) (hafter : ¬after.Keeps other) :
    entry.persistedId = other.persistedId ∧
      Deleted circumstances before.webhookUrlPolicy entry := by
  obtain ⟨stored, hstored, hmem⟩ := hbefore
  cases heffect with
  | kept same => exact absurd ⟨stored, same.store ▸ hstored, hmem⟩ hafter
  | deleted policy deleted store =>
    refine ⟨?_, deleted⟩
    by_contra hne
    have hother : decide (other.persistedId ≠ entry.persistedId) = true :=
      decide_eq_true (Ne.symm hne)
    refine hafter ⟨stored.filter (·.persistedId ≠ entry.persistedId), ?_,
      List.mem_filter.mpr ⟨hmem, hother⟩⟩
    rw [store, Option.mem_def.mp hstored]
    rfl

/-- No turn puts an entry back. -/
theorem EntryEffect.keeps_of_keeps (heffect : EntryEffect circumstances entry before after)
    (h : after.Keeps other) : before.Keeps other := by
  obtain ⟨stored, hstored, hmem⟩ := h
  cases heffect with
  | kept same => exact ⟨stored, same.store ▸ hstored, hmem⟩
  | deleted policy deleted store =>
    rw [store] at hstored
    obtain ⟨old, hold, rfl⟩ := Option.map_eq_some_iff.mp hstored
    exact ⟨old, hold, (List.mem_filter.mp hmem).1⟩

theorem EntryEffect.policy_eq (heffect : EntryEffect circumstances entry before after) :
    after.webhookUrlPolicy = before.webhookUrlPolicy := by
  cases heffect with
  | kept same => exact same.webhookUrlPolicy
  | deleted policy deleted store => exact policy

variable {entries : List PersistedSubscription}

theorem keeps_of_foldl {circumstances : String → Circumstances}
    (h : (entries.foldl (recreateOrDelete circumstances) state).Keeps other) :
    state.Keeps other := by
  induction entries generalizing state with
  | nil => exact h
  | cons entry rest ih =>
    have heffect := recreateOrDelete_effect circumstances entry state
    exact heffect.keeps_of_keeps (ih h)

/-- An entry the loop takes from the store has the id of an entry that violates the policy or whose
host was not resolved. -/
theorem lost_of_foldl {circumstances : String → Circumstances} (hbefore : state.Keeps other)
    (hafter : ¬(entries.foldl (recreateOrDelete circumstances) state).Keeps other) :
    ∃ entry ∈ entries, entry.persistedId = other.persistedId ∧
      Deleted (circumstances entry.persistedId) state.webhookUrlPolicy entry := by
  induction entries generalizing state with
  | nil => exact absurd hbefore hafter
  | cons entry rest ih =>
    have heffect := recreateOrDelete_effect circumstances entry state
    by_cases hnext : (recreateOrDelete circumstances state entry).Keeps other
    · obtain ⟨found, hfound, hlost⟩ := ih hnext hafter
      rw [heffect.policy_eq] at hlost
      exact ⟨found, List.mem_cons_of_mem entry hfound, hlost⟩
    · exact ⟨entry, List.mem_cons_self, heffect.lost hbefore hnext⟩

/-- The loop deletes every entry whose host is not resolved, when the store is able to. -/
theorem not_keeps_of_foldl {circumstances : String → Circumstances} (hmem : entry ∈ entries)
    (hfails : HostLookupFails (circumstances entry.persistedId).env state.webhookUrlPolicy
      entry.url) (hdone : (circumstances entry.persistedId).deleteError = none) :
    ¬(entries.foldl (recreateOrDelete circumstances) state).Keeps entry := by
  induction entries generalizing state with
  | nil => cases hmem
  | cons first rest ih =>
    rcases List.mem_cons.mp hmem with rfl | hrest
    · exact fun h ↦ not_keeps_of_lookupFails hfails hdone (keeps_of_foldl h)
    · rw [← (recreateOrDelete_effect circumstances first state).policy_eq] at hfails
      exact ih hrest hfails

variable {listError : Option StorageError} {circumstances : String → Circumstances}
  {state : AppState} {stored : PersistedEntries}

/-- An entry that a start deletes was listed, and is one to delete. -/
theorem deleted_of_start (hstore : state.store = some stored.entries)
    (hmem : entry ∈ stored.entries) (hlost : ¬(state.start listError circumstances).Keeps entry) :
    listError = none ∧
      Deleted (circumstances entry.persistedId) state.webhookUrlPolicy entry := by
  have hbefore : state.Keeps entry := ⟨stored.entries, hstore, hmem⟩
  unfold start at hlost
  split at hlost
  · rename_i entries hentries
    obtain rfl := Option.some.inj (hstore.symm.trans hentries)
    obtain ⟨found, hfound, hid, hdeleted⟩ := lost_of_foldl hbefore hlost
    obtain rfl := List.inj_on_of_nodup_map stored.distinct hfound hmem hid
    exact ⟨rfl, hdeleted⟩
  · exact absurd hbefore hlost

theorem not_keeps_start (hstore : state.store = some stored.entries) (hmem : entry ∈ stored.entries)
    (hfails : HostLookupFails (circumstances entry.persistedId).env state.webhookUrlPolicy
      entry.url) (hdone : (circumstances entry.persistedId).deleteError = none) :
    ¬(state.start none circumstances).Keeps entry := by
  unfold start
  rw [hstore]
  exact not_keeps_of_foldl hmem hfails hdone

end AppState

/-- A start deletes only entries that violate the pattern or URL policy, and keeps those that fail
for a reason that may pass, exactly when it resolves the host of every entry it could delete. -/
theorem start_keepsValid_iff (bus : Bus) (policy : WebhookUrlPolicy) (authIsOpen devMode : Bool)
    (listError : Option StorageError) (circumstances : String → Circumstances)
    (stored : PersistedEntries) :
    AppState.KeepsValid circumstances policy stored.entries
        ((AppState.atStart bus (some stored.entries) policy authIsOpen devMode).start listError
          circumstances) ↔
      (listError = none → ∀ entry ∈ stored.entries,
        (circumstances entry.persistedId).deleteError = none →
          ¬HostLookupFails (circumstances entry.persistedId).env policy entry.url) := by
  set initial := AppState.atStart bus (some stored.entries) policy authIsOpen devMode with hinitial
  have hstore : initial.store = some stored.entries := rfl
  constructor
  · rintro hvalid rfl entry hmem hdone hfails
    exact AppState.not_keeps_start hstore hmem hfails hdone (hvalid.stays entry hmem (.inl hfails))
  · intro hresolved
    constructor
    · intro entry hmem hlost
      obtain ⟨hlisted, hdeleted⟩ := AppState.deleted_of_start hstore hmem hlost
      exact hdeleted.cause.resolve_right (hresolved hlisted entry hmem hdeleted.done)
    · intro entry hmem hfails
      by_contra hlost
      obtain ⟨hlisted, hdeleted⟩ := AppState.deleted_of_start hstore hmem hlost
      rcases hfails with hlookup | hrefused
      · exact hresolved hlisted entry hmem hdeleted.done hlookup
      · exact hdeleted.notRefused hrefused

/-- Every URL is read as `https` on a host whose name no lookup resolves. -/
def resolverDown : UrlEnv :=
  { AppState.everyHostPublic with
    resolve := fun _ _ ↦ .error "temporary failure in name resolution"
    resolveAgain := fun _ _ ↦ .error "temporary failure in name resolution" }

/-- A server with a given store, about to start on an empty bus. -/
def aboutToStart (stored : PersistedEntries) : AppState :=
  .atStart (.onStore .empty 0) (some stored.entries) .strict false false

/-- A start during an outage of the resolver deletes a subscription that violates no policy. -/
theorem start_forgets_valid :
    let entry := AppState.persistedOn .asyncWebhook "a.b"
    let stored : PersistedEntries := ⟨[entry], List.nodup_singleton _⟩
    let circumstances : String → Circumstances := fun _ ↦ ⟨"b", resolverDown, none, none⟩
    ¬entry.Violates resolverDown .strict ∧
      ¬AppState.KeepsValid circumstances .strict stored.entries
        ((aboutToStart stored).start none circumstances) := by
  intro entry stored circumstances
  have hvalid : ¬entry.Violates resolverDown .strict := by
    rintro (hpattern | hurl)
    · rcases hpattern with hsubject | htokens | ⟨hkind, _⟩
      · exact hsubject (by decide)
      · exact htokens (by decide)
      · cases hkind
    · cases hurl with
      | parse unreadable => cases unreadable
      | scheme read refused =>
        cases read
        exact refused (by decide)
      | noHost read missing =>
        cases read
        rcases missing with hhost | hhost <;> cases hhost
      | address read named stands refused =>
        cases read
        cases named
        rcases stands with ⟨_, hfirst⟩ | ⟨_, hagain, _⟩
        · cases hfirst
        · cases hagain
  have hlookup : HostLookupFails resolverDown .strict entry.url :=
    ⟨_, "example.com", "example.com", rfl, by decide, rfl, rfl, .inl ⟨_, rfl⟩⟩
  have hlost : ¬((aboutToStart stored).start none circumstances).Keeps entry :=
    AppState.not_keeps_start rfl List.mem_cons_self hlookup rfl
  exact ⟨hvalid, fun hkeeps ↦ hvalid (hkeeps.violates entry List.mem_cons_self hlost)⟩

end Seidrum.EventBus
