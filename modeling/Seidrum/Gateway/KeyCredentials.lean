import Mathlib.Data.List.Induction
import Seidrum.Gateway.ApiKeys

/-!
# API keys as credentials

A request is authenticated by what stands in its authorization header or in its query.  Only tokens and the
gateway's own key are looked at; the brain could tell whose key a text is, but is never asked.  A key that
was handed out is refused, and so a run treats its keys as it should only if they are all dead from the
beginning.
-/

namespace Seidrum.Gateway

open Foundation

/-- The credentials of a request, where it may carry them. -/
structure CredentialRequest where
  authorization : Option String
  query : Option String

/-- The first parameter that starts with `api_key=`, as it stands. -/
def apiKeyOfQuery (query : String) : Option String :=
  (((query.toList.splitOn '&').map String.ofList).find? fun parameter ↦
    (stripPrefix "api_key=" parameter).isSome).bind (stripPrefix "api_key=")

def CredentialRequest.authHeader (req : CredentialRequest) : String := req.authorization.getD ""

def CredentialRequest.apiKeyParam (req : CredentialRequest) : Option String :=
  req.query.bind apiKeyOfQuery

/-- Whom the middleware lets in, before it counts requests. -/
def KeyConfig.letIn (config : KeyConfig) (validateToken : String → Option Claims)
    (req : CredentialRequest) : Option AuthResult :=
  authenticate config.apiKey validateToken req.authHeader req.apiKeyParam

/-- The key stands in the header under one of the two schemes, or it is the parameter. -/
def CredentialRequest.Presents (req : CredentialRequest) (rawKey : String) : Prop :=
  ((req.authHeader = "Bearer " ++ rawKey ∨ req.authHeader = "ApiKey " ++ rawKey) ∧
    req.apiKeyParam = none) ∨
  (req.authHeader = "" ∧ req.apiKeyParam = some rawKey)

theorem stripPrefix_append (start rest : String) : stripPrefix start (start ++ rest) = some rest := by
  simp [stripPrefix]

theorem KeyConfig.letIn_header (config : KeyConfig) (validateToken : String → Option Claims)
    (rawKey : String) :
    config.letIn validateToken ⟨some ("ApiKey " ++ rawKey), none⟩ =
      if rawKey = config.apiKey then some .apiKey else none := by
  have hscheme : stripPrefix "Bearer " ("ApiKey " ++ rawKey) = none := by
    simp [stripPrefix]
  simp [letIn, authenticate, CredentialRequest.authHeader, CredentialRequest.apiKeyParam, hscheme,
    stripPrefix_append]

variable {rawKey : String} {keys next : ApiKeys} {env : KeyEnv} {auth : AuthResult} {request : KeyRequest}
  {response : KeyResponse} {keyId : String}

/-- A text that no token service accepts is let in only as the gateway's own key. -/
theorem KeyConfig.letIn_of_presents (config : KeyConfig) {validateToken : String → Option Claims}
    {req : CredentialRequest} (hpresents : req.Presents rawKey) (htoken : validateToken rawKey = none)
    (hempty : rawKey ≠ "") :
    config.letIn validateToken req = none ∨
      rawKey = config.apiKey ∧ config.letIn validateToken req = some .apiKey := by
  have hscheme : stripPrefix "Bearer " ("ApiKey " ++ rawKey) = none := by
    simp [stripPrefix]
  have hscheme' : stripPrefix "ApiKey " ("Bearer " ++ rawKey) = none := by
    simp [stripPrefix]
  have hnothing (scheme : String) (hne : scheme ≠ "") : stripPrefix scheme "" = none := by
    simp [stripPrefix, hne]
  unfold letIn authenticate
  rcases hpresents with ⟨hheader | hheader, hparam⟩ | ⟨hheader, hparam⟩
  · rw [hheader, hparam, stripPrefix_append, hscheme', Option.bind_some, htoken]
    simp
  · rw [hheader, hparam, hscheme, stripPrefix_append]
    by_cases hown : rawKey = config.apiKey <;> simp [hown]
  · rw [hheader, hparam, hnothing _ (by decide), hnothing _ (by decide)]
    by_cases hown : rawKey = config.apiKey
    · subst hown
      simp [hempty]
    · simp [hown]

/-- Neither revoked nor expired. -/
def ApiKeyRecord.Live (key : ApiKeyRecord) (now : ℕ) : Prop :=
  key.revoked = false ∧ key.expiresAt.all (now < ·) = true

/-- The answer to a creation gave the key to its user. -/
def Served.HandsOut (served : Served) (keyId rawKey : String) : Prop :=
  ∃ name expiresAt, served.response = .created keyId rawKey name expiresAt

/-- The key was asked for with no day to live, and is not the gateway's own. -/
def Served.Stillborn (config : KeyConfig) (served : Served) : Prop :=
  ∀ keyId rawKey, served.HandsOut keyId rawKey →
    rawKey ≠ config.apiKey ∧
      ∃ body, served.request = .create (some body) ∧ body.expiresInDays = some 0

namespace KeyState

/-- A live key that was handed out lets its user in, with its scopes, and a dead one nobody. -/
def KeysWork (config : KeyConfig) (validateToken : String → Option Claims) (state : KeyState) : Prop :=
  ∀ served ∈ state.served, ∀ keyId rawKey, served.HandsOut keyId rawKey →
    ∀ key ∈ state.keys.lookup keyId, ∀ req : CredentialRequest, req.Presents rawKey →
      (key.Live state.now → ∃ auth ∈ config.letIn validateToken req,
        auth.userId = some key.userId ∧ auth.scopes = key.scopes) ∧
      (¬key.Live state.now → config.letIn validateToken req = none)

/-- What is known of an answer to a creation: the key it gave, and the record of the key, which expires as
the request said when it was served. -/
def Recorded (config : KeyConfig) (state : KeyState) (served : Served) : Prop :=
  ∀ keyId rawKey, served.HandsOut keyId rawKey →
    ∃ body created key, served.request = .create (some body) ∧ created ≤ state.now ∧
      state.keys.lookup keyId = some key ∧
      config.expiry created body.expiresInDays = some key.expiresAt ∧
      ∃ stripped ulid, rawKey = Gateway.rawKey stripped ulid

end KeyState

variable {config : KeyConfig} {users : String → List String}

/-- A key that is handed out is in the database, with the expiry that was asked for. -/
theorem KeyConfig.serve_handsOut {now : ℕ}
    (hserve : config.serve keys now env auth request = (next, response))
    (hhands : (Served.mk auth request response).HandsOut keyId rawKey) :
    ∃ body key, request = .create (some body) ∧ next.lookup keyId = some key ∧ key.revoked = false ∧
      config.expiry now body.expiresInDays = some key.expiresAt ∧
      ∃ stripped ulid, rawKey = Gateway.rawKey stripped ulid := by
  obtain ⟨name, expiresAt, hresponse⟩ := hhands
  obtain rfl : response = .created keyId rawKey name expiresAt := hresponse
  cases request with
  | list =>
    exfalso
    simp only [serve, listApikeysHandler, Prod.mk.injEq] at hserve
    split at hserve
    · simp at hserve
    · split_ifs at hserve <;> simp at hserve
  | revoke revokedId =>
    exfalso
    simp only [serve, revokeApikeyHandler] at hserve
    split at hserve
    · simp at hserve
    · simp only [Prod.mk.injEq] at hserve
      split_ifs at hserve <;> simp at hserve
  | create body =>
    simp only [serve, createApikeyHandler] at hserve
    split at hserve
    · rename_i failure hrequest
      cases hserve
      rcases KeyConfig.createRequest_error hrequest with hfailed | ⟨status, message, hfailed⟩ <;>
        cases hfailed
    · rename_i raw req hrequest
      obtain ⟨read, stripped, rfl, -, -, hexpires, hraw⟩ := KeyConfig.createRequest_ok hrequest
      by_cases hfresh : env.available = true ∧ keys.lookup env.keyId = none
      · rw [handleApikeyCreate, if_pos hfresh] at hserve
        obtain ⟨rfl, hanswer⟩ := Prod.mk.inj hserve
        split_ifs at hanswer with hanswered
        · obtain ⟨rfl, rfl, -, -⟩ := KeyResponse.created.inj hanswer
          exact ⟨read, _, rfl, AList.lookup_insert keys, rfl, hexpires, stripped, env.ulid, hraw⟩
      · rw [handleApikeyCreate, if_neg hfresh] at hserve
        obtain ⟨-, hanswer⟩ := Prod.mk.inj hserve
        simp at hanswer

/-- No request changes when a key expires. -/
theorem KeyChange.lookup (h : KeyChange keys auth env request next response) {key : ApiKeyRecord}
    (hkey : keys.lookup keyId = some key) :
    ∃ after, next.lookup keyId = some after ∧ after.expiresAt = key.expiresAt := by
  cases h with
  | none _ => exact ⟨key, hkey, rfl⟩
  | created _ hfresh _ _ _ _ =>
    have hother : keyId ≠ env.keyId := by
      rintro rfl
      rw [hfresh] at hkey
      cases hkey
    exact ⟨key, (AList.lookup_insert_ne hother).trans hkey, rfl⟩
  | @revoked revokedId _ record _ _ _ hrecord =>
    by_cases hsame : keyId = revokedId
    · subst hsame
      obtain rfl := Option.some.inj (hrecord.symm.trans hkey)
      exact ⟨_, AList.lookup_insert keys, rfl⟩
    · exact ⟨key, (AList.lookup_insert_ne hsame).trans hkey, rfl⟩

namespace KeyState

variable {state next : KeyState} {label : KeyStep}

/-- A step serves at most one request, and the clock does not go back. -/
theorem served_step (hstep : step config users state label = some next) :
    state.now ≤ next.now ∧
      (next.served = state.served ∨
        ∃ access request env auth, label = .request access request env ∧ next.now = state.now ∧
          next.keys = (config.serve state.keys state.now env auth request).1 ∧
          next.served = state.served ++
            [⟨auth, request, (config.serve state.keys state.now env auth request).2⟩]) := by
  cases label with
  | tick seconds =>
    cases hstep
    exact ⟨Nat.le_add_right _ _, .inl rfl⟩
  | login username userId role jti | issue subject role scopes jti | validate keyHash =>
    cases hstep
    exact ⟨Nat.le_refl _, .inl rfl⟩
  | request access request env =>
    simp only [step] at hstep
    split_ifs at hstep with hissued
    split at hstep
    · cases hstep
      exact ⟨Nat.le_refl _, .inl rfl⟩
    · rename_i auth hauth
      cases hstep
      exact ⟨Nat.le_refl _, .inr ⟨access, request, env, auth, rfl, rfl, rfl, rfl⟩⟩
  | touch keyId =>
    obtain ⟨keys, -, rfl⟩ := change_of_touch hstep
    exact ⟨Nat.le_refl _, .inl rfl⟩

variable {keyId : String} {key : ApiKeyRecord} {served : Served} {labels : List KeyStep}

/-- A step keeps all keys, and when they expire. -/
theorem lookup_step (hstep : step config users state label = some next)
    (hkey : state.keys.lookup keyId = some key) :
    ∃ after, next.keys.lookup keyId = some after ∧ after.expiresAt = key.expiresAt := by
  cases label with
  | tick seconds | login username userId role jti | issue subject role scopes jti | validate keyHash =>
    cases hstep
    exact ⟨key, hkey, rfl⟩
  | request access request env =>
    simp only [step] at hstep
    split_ifs at hstep with hissued
    split at hstep
    · cases hstep
      exact ⟨key, hkey, rfl⟩
    · rename_i auth hauth
      cases hstep
      exact (change_serve config state.keys state.now env auth request).lookup hkey
  | touch touchedId =>
    obtain ⟨keys, hkeys, rfl⟩ := change_of_touch hstep
    obtain ⟨record, hrecord, rfl⟩ := Option.map_eq_some_iff.mp hkeys
    by_cases hsame : keyId = touchedId
    · subst hsame
      obtain rfl := Option.some.inj (hrecord.symm.trans hkey)
      exact ⟨_, AList.lookup_insert state.keys, rfl⟩
    · exact ⟨key, (AList.lookup_insert_ne hsame).trans hkey, rfl⟩

theorem Recorded.step (h : Recorded config state served)
    (hstep : KeyState.step config users state label = some next) : Recorded config next served := by
  intro keyId rawKey hhands
  obtain ⟨body, created, key, hrequest, hcreated, hkey, hexpiry, hraw⟩ := h keyId rawKey hhands
  obtain ⟨after, hafter, hexpires⟩ := lookup_step hstep hkey
  exact ⟨body, created, after, hrequest, hcreated.trans (served_step hstep).1, hafter,
    hexpires ▸ hexpiry, hraw⟩

/-- Every answer is recorded. -/
theorem recorded_step (h : ∀ served ∈ state.served, Recorded config state served)
    (hstep : step config users state label = some next) :
    ∀ served ∈ next.served, Recorded config next served := by
  rcases (served_step hstep).2 with hsame | ⟨access, request, env, auth, -, hnow, hkeys, hnew⟩
  · rw [hsame]
    exact fun served hserved ↦ (h served hserved).step hstep
  · rw [hnew]
    intro served hserved
    obtain hold | rfl := mem_of_concat hserved
    · exact (h served hold).step hstep
    · intro keyId rawKey hhands
      obtain ⟨body, key, hrequest, hkey, -, hexpiry, hraw⟩ := KeyConfig.serve_handsOut rfl hhands
      exact ⟨body, state.now, key, hrequest, Nat.le_of_eq hnow.symm, hkeys ▸ hkey, hexpiry, hraw⟩

/-! ## Keys in a run -/

variable {validateToken : KeyState → String → Option Claims}

/-- A key that was asked for with no day to live is dead as long as it exists. -/
theorem not_live_of_stillborn (hrecorded : Recorded config state served)
    (hstillborn : served.Stillborn config) {rawKey : String} (hhands : served.HandsOut keyId rawKey)
    (hkey : state.keys.lookup keyId = some key) : ¬key.Live state.now := by
  obtain ⟨-, body, hrequest, hdays⟩ := hstillborn keyId rawKey hhands
  obtain ⟨body', created, record, hrequest', hcreated, hrecord, hexpiry, -⟩ := hrecorded keyId rawKey hhands
  obtain rfl := Option.some.inj (hrecord.symm.trans hkey)
  obtain rfl := Option.some.inj (KeyRequest.create.inj (hrequest.symm.trans hrequest'))
  rw [hdays, KeyConfig.expiry] at hexpiry
  split_ifs at hexpiry with hlatest
  rintro ⟨-, hlive⟩
  rw [← Option.some.inj hexpiry, Option.all_some, decide_eq_true_eq, Nat.zero_mul, Nat.add_zero] at hlive
  exact absurd hlive (Nat.not_lt.mpr hcreated)

theorem keysWork_of_stillborn
    (hsigned : ∀ stripped ulid, validateToken state (Gateway.rawKey stripped ulid) = none)
    (hrecorded : ∀ served ∈ state.served, Recorded config state served)
    (hstillborn : ∀ served ∈ state.served, served.Stillborn config) :
    KeysWork config (validateToken state) state := by
  intro served hserved keyId rawKey hhands key hkey req hpresents
  have hdead : ¬key.Live state.now :=
    not_live_of_stillborn (hrecorded served hserved) (hstillborn served hserved) hhands hkey
  obtain ⟨-, -, -, -, -, -, -, stripped, ulid, rfl⟩ := hrecorded served hserved keyId rawKey hhands
  have hempty : Gateway.rawKey stripped ulid ≠ "" := by simp [Gateway.rawKey]
  refine ⟨fun hlive ↦ absurd hlive hdead, fun _ ↦ ?_⟩
  rcases config.letIn_of_presents hpresents (hsigned stripped ulid) hempty with hnone | ⟨hown, -⟩
  · exact hnone
  · exact absurd hown (hstillborn served hserved keyId _ hhands).1

/-- If the keys work after an answer, that answer gave a key with no day to live. -/
theorem stillborn_of_keysWork {request : KeyRequest} {env : KeyEnv} {auth : AuthResult}
    (hnow : next.now = state.now)
    (hkeys : next.keys = (config.serve state.keys state.now env auth request).1)
    (hserved : next.served = state.served ++
      [⟨auth, request, (config.serve state.keys state.now env auth request).2⟩])
    (hwork : KeysWork config (validateToken next) next) :
    (Served.mk auth request (config.serve state.keys state.now env auth request).2).Stillborn config := by
  intro keyId rawKey hhands
  obtain ⟨body, key, hrequest, hkey, hrevoked, hexpiry, -⟩ := KeyConfig.serve_handsOut rfl hhands
  have hmem : ⟨auth, request, (config.serve state.keys state.now env auth request).2⟩ ∈ next.served := by
    rw [hserved]
    exact List.mem_append_right _ (List.mem_singleton.mpr rfl)
  have hpresents : CredentialRequest.Presents ⟨some ("ApiKey " ++ rawKey), none⟩ rawKey :=
    .inl ⟨.inr rfl, rfl⟩
  obtain ⟨hlive, hdead⟩ := hwork _ hmem keyId rawKey hhands key (hkeys ▸ hkey) _ hpresents
  rw [KeyConfig.letIn_header] at hlive hdead
  have hnot : ¬key.Live next.now := by
    intro h
    obtain ⟨other, hother, huser, -⟩ := hlive h
    split_ifs at hother
    · cases hother
      cases huser
    · cases hother
  constructor
  · intro hown
    have hnone := hdead hnot
    rw [if_pos hown] at hnone
    cases hnone
  · refine ⟨body, hrequest, ?_⟩
    cases hdays : body.expiresInDays with
    | none =>
      rw [hdays] at hexpiry
      have hnever : none = key.expiresAt := Option.some.inj hexpiry
      exact absurd ⟨hrevoked, by rw [← hnever]; rfl⟩ hnot
    | some days =>
      rw [hdays, KeyConfig.expiry] at hexpiry
      split_ifs at hexpiry with hlatest
      have hmoment : some (state.now + days * 86400) = key.expiresAt := Option.some.inj hexpiry
      have hpassed : ¬state.now < state.now + days * 86400 := by
        intro h
        refine hnot ⟨hrevoked, ?_⟩
        rw [← hmoment, hnow, Option.all_some, decide_eq_true_eq]
        exact h
      have hzero : days = 0 := by omega
      rw [hzero]

theorem served_subset (hrun : (step config users).execute state labels = some next) :
    state.served ⊆ next.served := by
  induction labels generalizing state with
  | nil =>
    cases hrun
    exact List.Subset.refl _
  | cons label rest ih =>
    obtain ⟨middle, hstep, hrest⟩ := Option.bind_eq_some_iff.mp hrun
    refine List.Subset.trans ?_ (ih hrest)
    rcases (served_step hstep).2 with hsame | ⟨_, _, _, _, -, -, -, hnew⟩
    · rw [hsame]
      exact List.Subset.refl _
    · rw [hnew]
      exact List.subset_append_left _ _

theorem always_keysWork_iff_of_stillborn
    (hsigned : ∀ state stripped ulid, validateToken state (Gateway.rawKey stripped ulid) = none)
    (hrecorded : ∀ served ∈ state.served, Recorded config state served)
    (hstillborn : ∀ served ∈ state.served, served.Stillborn config)
    (hrun : (step config users).execute state labels = some next) :
    (step config users).Always (fun state ↦ KeysWork config (validateToken state) state) state labels ↔
      ∀ served ∈ next.served, served.Stillborn config := by
  have hfirst : KeysWork config (validateToken state) state :=
    keysWork_of_stillborn (hsigned state) hrecorded hstillborn
  induction labels generalizing state with
  | nil =>
    cases hrun
    exact iff_of_true hfirst hstillborn
  | cons label rest ih =>
    obtain ⟨middle, hstep, hrest⟩ := Option.bind_eq_some_iff.mp hrun
    have hmiddle := recorded_step hrecorded hstep
    constructor
    · intro halways
      have hrestAlways := halways.2 middle hstep
      have hstill : ∀ served ∈ middle.served, served.Stillborn config := by
        rcases (served_step hstep).2 with hsame | ⟨access, request, env, auth, -, hnow, hkeys, hnew⟩
        · rw [hsame]
          exact hstillborn
        · have hlast := stillborn_of_keysWork hnow hkeys hnew hrestAlways.first
          rw [hnew]
          intro served hserved
          obtain hold | rfl := mem_of_concat hserved
          · exact hstillborn served hold
          · exact hlast
      have hwork := keysWork_of_stillborn (hsigned middle) hmiddle hstill
      exact (ih hmiddle hstill hrest hwork).mp hrestAlways
    · intro hfinal
      refine ⟨hfirst, fun other hother ↦ ?_⟩
      obtain rfl := Option.some.inj (hstep.symm.trans hother)
      have hstill : ∀ served ∈ middle.served, served.Stillborn config :=
        fun served hserved ↦ hfinal served (served_subset hrest hserved)
      have hwork := keysWork_of_stillborn (hsigned middle) hmiddle hstill
      exact (ih hmiddle hstill hrest hwork).mpr hfinal

/-- The keys work in every state of a run exactly if all keys that were handed out in it were asked for with
no day to live. -/
theorem always_keysWork_iff {now : ℕ} {labels : List KeyStep}
    (hsigned : ∀ state stripped ulid, validateToken state (Gateway.rawKey stripped ulid) = none)
    (hrun : (step config users).execute (init now) labels = some state) :
    (step config users).Always (fun state ↦ KeysWork config (validateToken state) state) (init now) labels ↔
      ∀ served ∈ state.served, served.Stillborn config :=
  always_keysWork_iff_of_stillborn hsigned (fun _ hmem ↦ absurd hmem List.not_mem_nil)
    (fun _ hmem ↦ absurd hmem List.not_mem_nil) hrun

/-- What Alice presents. -/
def aliceClaims : Claims :=
  ⟨"jti_1", "alice", 0, 3600, sampleScopes "user_alice", "user", some "user_alice"⟩

/-- The token service knows Alice's token. -/
def aliceToken (_ : KeyState) (token : String) : Option Claims :=
  if token = "t1" then some aliceClaims else none

theorem aliceToken_rawKey (state : KeyState) (stripped ulid : String) :
    aliceToken state (Gateway.rawKey stripped ulid) = none := by
  refine if_neg fun h ↦ ?_
  have hfirst := congrArg (fun text ↦ text.toList.head?) h
  simp [Gateway.rawKey] at hfirst

/-- Alice creates a key that expires at once. -/
def aliceCreatesNone : List KeyStep :=
  [.login "alice" "user_alice" "user" "jti_1",
    .request ⟨"Bearer t1", none, some aliceClaims⟩ (.create (some ⟨"laptop", none, some 0⟩))
      ⟨"u1", "apikey_1", true, true⟩]

theorem always_keysWork_aliceCreatesNone :
    (step sampleKeys sampleScopes).Always (fun state ↦ KeysWork sampleKeys (aliceToken state) state)
      (init 0) aliceCreatesNone := by
  have hrun : ∃ state ∈ (step sampleKeys sampleScopes).execute (init 0) aliceCreatesNone,
      state.served.map (fun served ↦ (served.request, served.response)) =
        [(.create (some ⟨"laptop", none, some 0⟩), .created "apikey_1" "sk_alice_u1" "laptop" (some 0))] := by
    decide +kernel
  obtain ⟨state, hstate, hserved⟩ := hrun
  refine (always_keysWork_iff aliceToken_rawKey hstate).mpr fun served hmem keyId rawKey hhands ↦ ?_
  have hpair := List.mem_map_of_mem (f := fun served ↦ (served.request, served.response)) hmem
  rw [hserved, List.mem_singleton, Prod.mk.injEq] at hpair
  obtain ⟨hrequest, hresponse⟩ := hpair
  obtain ⟨name, expiresAt, hgiven⟩ := hhands
  obtain ⟨rfl, rfl, -, -⟩ := KeyResponse.created.inj (hgiven.symm.trans hresponse)
  exact ⟨by decide, _, hrequest, rfl⟩

/-- Alice's key for her laptop, which has no expiry, lets nobody in. -/
theorem exists_key_refused :
    ∃ state, (step sampleKeys sampleScopes).execute (init 0) aliceCreates = some state ∧
      sampleKeys.letIn (aliceToken state) ⟨some "ApiKey sk_alice_u1", none⟩ = none ∧
      ¬KeysWork sampleKeys (aliceToken state) state := by
  have hrun : ∃ state ∈ (step sampleKeys sampleScopes).execute (init 0) aliceCreates,
      (∃ served ∈ state.served,
        served.response = .created "apikey_1" "sk_alice_u1" "laptop" none) ∧
      ∃ key ∈ state.keys.lookup "apikey_1", key.revoked = false ∧ key.expiresAt = none := by
    decide +kernel
  obtain ⟨state, hstate, ⟨served, hserved, hresponse⟩, key, hkey, hrevoked, hexpires⟩ := hrun
  have hrefused : sampleKeys.letIn (aliceToken state) ⟨some ("ApiKey " ++ "sk_alice_u1"), none⟩ = none := by
    rw [KeyConfig.letIn_header]
    rfl
  refine ⟨state, hstate, hrefused, fun hwork ↦ ?_⟩
  have hlive : key.Live state.now := ⟨hrevoked, by rw [hexpires]; rfl⟩
  obtain ⟨auth, hauth, -⟩ := (hwork served hserved "apikey_1" "sk_alice_u1" ⟨"laptop", none, hresponse⟩
    key hkey ⟨some ("ApiKey " ++ "sk_alice_u1"), none⟩ (.inl ⟨.inr rfl, rfl⟩)).1 hlive
  rw [hrefused] at hauth
  cases hauth

end KeyState

end Seidrum.Gateway
