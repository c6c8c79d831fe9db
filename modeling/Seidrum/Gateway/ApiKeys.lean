import Mathlib.Data.List.AList
import Seidrum.Foundation.ByteSlice
import Seidrum.Foundation.Positions
import Seidrum.Foundation.StableSort
import Seidrum.Gateway.Jwt

/-!
# API keys of users

A user creates API keys at the gateway, lists them and revokes them; the brain keeps them.  The gateway
passes on the scopes asked for without looking at those of the caller, and the brain revokes whatever
key is named, whoever asks.  No request is ever authenticated by such a key.
-/

namespace Seidrum.Gateway

open Foundation

/-- Authentication result containing validated claims. -/
structure AuthResult where
  subject : String
  role : String
  scopes : List String
  userId : Option String
  deriving DecidableEq, Repr

def Claims.authResult (claims : Claims) : AuthResult :=
  ⟨claims.sub, claims.role, claims.scopes, claims.userId⟩

/-- Whoever presents the gateway's own key. -/
def AuthResult.apiKey : AuthResult := ⟨"api-key", "admin", ["scope_root"], none⟩

/-- Check a bearer token, then the key in the query, then the key in the header.  `validateToken` tells
what the token service makes of a token. -/
def authenticate (apiKey : String) (validateToken : String → Option Claims) (authHeader : String)
    (apiKeyParam : Option String) : Option AuthResult :=
  match (stripPrefix "Bearer " authHeader).bind validateToken with
  | some claims => some claims.authResult
  | none =>
      if apiKeyParam.getD "" ≠ "" ∧ apiKeyParam.getD "" = apiKey then some .apiKey
      else if stripPrefix "ApiKey " authHeader = some apiKey then some .apiKey
      else none

variable {auth : AuthResult} {α β : Type} {found : Option α} {now : ℕ} {ulid : String}

/-- Only a valid token speaks for a user. -/
theorem authenticate_cases {apiKey : String} {validateToken : String → Option Claims} {authHeader : String}
    {apiKeyParam : Option String} (h : authenticate apiKey validateToken authHeader apiKeyParam = some auth) :
    (∃ token claims, validateToken token = some claims ∧ auth = claims.authResult) ∨
      auth = .apiKey := by
  unfold authenticate at h
  split at h
  · rename_i claims hclaims
    obtain ⟨token, -, hvalid⟩ := Option.bind_eq_some_iff.mp hclaims
    exact .inl ⟨token, claims, hvalid, (Option.some.inj h).symm⟩
  · split_ifs at h with hparam hheader
    all_goals exact .inr (Option.some.inj h).symm

structure ApiKeyRecord where
  keyId : String
  userId : String
  name : String
  keyHash : String
  scopes : List String
  createdAt : ℕ
  expiresAt : Option ℕ
  lastUsed : Option ℕ
  revoked : Bool
  deriving DecidableEq, Repr

/-- The collection of keys by document key. -/
abbrev ApiKeys := AList fun _ : String ↦ ApiKeyRecord

structure ApiKeyCreateRequest where
  userId : String
  name : String
  keyHash : String
  scopes : List String
  expiresAt : Option ℕ

/-- `available` tells whether the database answers; a document key that is taken is refused. -/
def handleApikeyCreate (keys : ApiKeys) (now : ℕ) (keyId : String) (available : Bool)
    (req : ApiKeyCreateRequest) : ApiKeys × Bool :=
  if available = true ∧ keys.lookup keyId = none then
    (keys.insert keyId {
      keyId := keyId
      userId := req.userId
      name := req.name
      keyHash := req.keyHash
      scopes := req.scopes
      createdAt := now
      expiresAt := req.expiresAt
      lastUsed := none
      revoked := false }, true)
  else (keys, false)

/-- The keys of a user, the latest first. -/
def handleApikeyList (keys : ApiKeys) (userId : String) : List ApiKeyRecord :=
  sortByKey (fun key ↦ OrderDual.toDual key.createdAt)
    ((keys.entries.map fun entry ↦ entry.2).filter fun key ↦ key.userId = userId)

/-- A partial update of a document; one that does not exist is an error. -/
def ApiKeys.update (keys : ApiKeys) (keyId : String) (change : ApiKeyRecord → ApiKeyRecord) :
    Option ApiKeys :=
  (keys.lookup keyId).map fun key ↦ keys.insert keyId (change key)

/-- The query names the document key alone; the user of the request is not used. -/
def handleApikeyRevoke (keys : ApiKeys) (available : Bool) (keyId _userId : String) : ApiKeys × Bool :=
  match if available then keys.update keyId fun key ↦ { key with revoked := true } else none with
  | some keys => (keys, true)
  | none => (keys, false)

def handleApikeyValidate (keys : ApiKeys) (now : ℕ) (keyHash : String) : Option ApiKeyRecord :=
  ((keys.entries.map fun entry ↦ entry.2).find? fun key ↦
      key.keyHash = keyHash ∧ key.revoked = false).filter fun key ↦ key.expiresAt.all (now < ·)

/-! ## The gateway -/

structure CreateApiKeyBody where
  name : String
  scopes : Option (List String)
  expiresInDays : Option ℕ
  deriving DecidableEq, Repr

inductive KeyRequest
  | create (body : Option CreateApiKeyBody)
  | list
  | revoke (keyId : String)
  deriving DecidableEq, Repr

/-- What the gateway answers; an aborted request gets no answer. -/
inductive KeyResponse
  | failure (status : ℕ) (error : String)
  | created (keyId key name : String) (expiresAt : Option ℕ)
  | keys (keys : List ApiKeyRecord)
  | revoked
  | aborted
  deriving DecidableEq

structure KeyConfig where
  apiKey : String
  tokenTtlSecs : ℕ
  sha256 : String → String
  /-- The last moment the clock can name, in seconds. -/
  latest : ℕ

/-- What is decided outside of the code: the random parts of a new key, whether the database is
available and whether the gateway waits for the brain's answer. -/
structure KeyEnv where
  ulid : String
  keyId : String
  available : Bool
  answered : Bool

/-- Go on with what is there, or answer. -/
def required {α : Type} (response : KeyResponse) : Option α → Except KeyResponse α
  | some a => .ok a
  | none => .error response

variable {response : KeyResponse} {next : α → Except KeyResponse β}

theorem required_bind_eq_ok_iff {b : β} :
    (required response found >>= next) = .ok b ↔ ∃ a, found = some a ∧ next a = .ok b := by
  cases found with
  | none =>
    constructor
    · intro h
      cases h
    · rintro ⟨_, hfound, -⟩
      cases hfound
  | some a =>
    constructor
    · exact fun h ↦ ⟨a, rfl, h⟩
    · rintro ⟨other, hfound, h⟩
      cases hfound
      exact h

theorem required_bind_eq_error {other : KeyResponse} (h : (required response found >>= next) = .error other) :
    other = response ∨ ∃ a, found = some a ∧ next a = .error other := by
  cases found with
  | none => exact .inl (Except.error.inj h).symm
  | some a => exact .inr ⟨a, rfl, h⟩

/-- The moment some days from now; there is none beyond the last. -/
def KeyConfig.expiry (config : KeyConfig) (now : ℕ) : Option ℕ → Option (Option ℕ)
  | none => some none
  | some days =>
      if now + days * 86400 ≤ config.latest then some (some (now + days * 86400)) else none

/-- The text of a new key. -/
def rawKey (stripped ulid : String) : String := "sk_" ++ stripped ++ "_" ++ ulid

/-- What the gateway sends to the brain for a new key, with the key itself.  A moment or a slice that
does not exist aborts the request. -/
def KeyConfig.createRequest (config : KeyConfig) (now : ℕ) (ulid : String) (auth : AuthResult)
    (body : Option CreateApiKeyBody) : Except KeyResponse (String × ApiKeyCreateRequest) := do
  let userId ← required (.failure 400 "only user accounts can create API keys") auth.userId
  let req ← required (.failure 400
    "invalid request body, expected: {name, scopes?, expires_in_days?}") body
  -- the slice behind "user_" is taken by bytes
  let stripped ← required .aborted (sliceFrom userId 5)
  let expiresAt ← required .aborted (config.expiry now req.expiresInDays)
  return (rawKey stripped ulid, {
    userId := userId
    name := req.name
    keyHash := config.sha256 (rawKey stripped ulid)
    scopes := req.scopes.getD auth.scopes
    expiresAt := expiresAt })

def createApikeyHandler (config : KeyConfig) (keys : ApiKeys) (now : ℕ) (env : KeyEnv)
    (auth : AuthResult) (body : Option CreateApiKeyBody) : ApiKeys × KeyResponse :=
  match config.createRequest now env.ulid auth body with
  | .error response => (keys, response)
  | .ok (rawKey, req) =>
      let (keys, created) := handleApikeyCreate keys now env.keyId env.available req
      (keys, if created = true ∧ env.answered = true then .created env.keyId rawKey req.name req.expiresAt
        else .failure 500 "failed to create API key")

def listApikeysHandler (keys : ApiKeys) (env : KeyEnv) (auth : AuthResult) : KeyResponse :=
  match auth.userId with
  | none => .failure 400 "only user accounts have API keys"
  | some userId =>
      if env.available = true ∧ env.answered = true then .keys (handleApikeyList keys userId)
      else .failure 500 "failed to list API keys"

def revokeApikeyHandler (keys : ApiKeys) (env : KeyEnv) (auth : AuthResult) (keyId : String) :
    ApiKeys × KeyResponse :=
  match auth.userId with
  | none => (keys, .failure 400 "only user accounts have API keys")
  | some userId =>
      let (keys, success) := handleApikeyRevoke keys env.available keyId userId
      (keys, if success = true ∧ env.answered = true then .revoked
        else .failure 500 "failed to revoke API key")

def KeyConfig.serve (config : KeyConfig) (keys : ApiKeys) (now : ℕ) (env : KeyEnv)
    (auth : AuthResult) : KeyRequest → ApiKeys × KeyResponse
  | .create body => createApikeyHandler config keys now env auth body
  | .list => (keys, listApikeysHandler keys env auth)
  | .revoke keyId => revokeApikeyHandler keys env auth keyId

/-- A request that was authenticated, and its answer. -/
structure Served where
  auth : AuthResult
  request : KeyRequest
  response : KeyResponse

/-- The clock, the tokens signed, the keys with the credentials that created them, the keys found valid
whose use is still to be noted, and the requests served. -/
structure KeyState where
  now : ℕ
  issued : List Claims
  keys : ApiKeys
  validated : List String
  creators : AList fun _ : String ↦ AuthResult
  served : List Served

/-- What a request presents; `token` is what the token service accepts its bearer token as. -/
structure Access where
  authHeader : String
  apiKeyParam : Option String
  token : Option Claims

inductive KeyStep
  | tick (seconds : ℕ)
  | login (username userId role jti : String)
  | issue (subject role : String) (scopes : List String) (jti : String)
  | request (access : Access) (request : KeyRequest) (env : KeyEnv)
  | validate (keyHash : String)
  | touch (keyId : String)

namespace KeyState

def init (now : ℕ) : KeyState := ⟨now, [], ∅, [], ∅, []⟩

def authenticated (config : KeyConfig) (access : Access) : Option AuthResult :=
  authenticate config.apiKey (fun _ ↦ access.token) access.authHeader access.apiKeyParam

/-- One step; `users` gives the scopes of each user.  A token of a user carries the user's scopes, one
issued for the gateway's key names no user.  A validation reads, and notes the use of the key later. -/
def step (config : KeyConfig) (users : String → List String) : Steps KeyState KeyStep
  | state, .tick seconds => some { state with now := state.now + seconds }
  | state, .login username userId role jti =>
      some { state with
        issued := ⟨jti, username, state.now, state.now + config.tokenTtlSecs, users userId, role,
          some userId⟩ :: state.issued }
  | state, .issue subject role scopes jti =>
      some { state with
        issued := ⟨jti, subject, state.now, state.now + config.tokenTtlSecs, scopes, role, none⟩ ::
          state.issued }
  | state, .request access request env =>
      if ∀ claims ∈ access.token, claims ∈ state.issued then
        match authenticated config access with
        | none => some state
        | some auth =>
            let (keys, response) := config.serve state.keys state.now env auth request
            some { state with
              keys := keys
              creators :=
                if state.keys.lookup env.keyId = none ∧ keys.lookup env.keyId ≠ none then
                  state.creators.insert env.keyId auth
                else state.creators
              served := state.served ++ [⟨auth, request, response⟩] }
      else none
  | state, .validate keyHash =>
      let key := handleApikeyValidate state.keys state.now keyHash
      some { state with validated := (key.map ApiKeyRecord.keyId).toList ++ state.validated }
  | state, .touch keyId =>
      if keyId ∈ state.validated then
        (state.keys.update keyId fun key ↦ { key with lastUsed := some state.now }).map fun keys ↦
          { state with keys := keys, validated := state.validated.erase keyId }
      else none

/-- Only the owner of a key has revoked it, nobody else was told so, and no key carries a scope that its
creator's credential, or its user, does not have. -/
structure Kept (users : String → List String) (state : KeyState) : Prop where
  ownRevocations : ∀ keyId, ∀ key ∈ state.keys.lookup keyId, key.revoked = true →
    ∃ served ∈ state.served, served.request = .revoke keyId ∧ served.auth.userId = some key.userId
  othersRefused : ∀ served ∈ state.served, ∀ keyId, served.request = .revoke keyId →
    ∀ key ∈ state.keys.lookup keyId, served.auth.userId ≠ some key.userId → served.response ≠ .revoked
  bounded : ∀ keyId, ∀ key ∈ state.keys.lookup keyId,
    ∃ creator ∈ state.creators.lookup keyId, key.scopes ⊆ creator.scopes
  held : ∀ keyId, ∀ key ∈ state.keys.lookup keyId, key.scopes ⊆ users key.userId

/-- The request asks for no scope its credential lacks, and revokes no key of another user. -/
def WithinRights (keys : ApiKeys) (auth : AuthResult) : KeyRequest → Prop
  | .create body => ∀ read ∈ body, ∀ scopes ∈ read.scopes, scopes ⊆ auth.scopes
  | .list => True
  | .revoke keyId => ∀ key ∈ keys.lookup keyId, auth.userId = some key.userId

instance (keys : ApiKeys) (auth : AuthResult) (request : KeyRequest) :
    Decidable (WithinRights keys auth request) := by
  cases request <;> unfold WithinRights <;> infer_instance

/-- Every request of a user that reaches the database stays within the user's rights. -/
def Rightful (config : KeyConfig) (state : KeyState) : KeyStep → Prop
  | .request access request env => ∀ auth ∈ authenticated config access,
      auth.userId.isSome = true → env.available = true → WithinRights state.keys auth request
  | _ => True

instance (config : KeyConfig) (state : KeyState) (label : KeyStep) :
    Decidable (state.Rightful config label) := by
  cases label <;> unfold Rightful <;> infer_instance

end KeyState

/-- The three ways in which a request ends. -/
inductive KeyChange (keys : ApiKeys) (auth : AuthResult) (env : KeyEnv) :
    KeyRequest → ApiKeys → KeyResponse → Prop
  | none {request : KeyRequest} {response : KeyResponse} (hresponse : response ≠ .revoked) :
      KeyChange keys auth env request keys response
  | created {body : CreateApiKeyBody} {key : ApiKeyRecord} {response : KeyResponse}
      (havailable : env.available = true) (hfresh : keys.lookup env.keyId = none)
      (howner : auth.userId = some key.userId) (hscopes : key.scopes = body.scopes.getD auth.scopes)
      (hrevoked : key.revoked = false) (hresponse : response ≠ .revoked) :
      KeyChange keys auth env (.create (some body)) (keys.insert env.keyId key) response
  | revoked {keyId userId : String} {key : ApiKeyRecord} {response : KeyResponse}
      (havailable : env.available = true) (huser : auth.userId = some userId)
      (hkey : keys.lookup keyId = some key) :
      KeyChange keys auth env (.revoke keyId) (keys.insert keyId { key with revoked := true }) response

variable {config : KeyConfig} {users : String → List String} {body : Option CreateApiKeyBody}

/-- What is sent to the brain for a new key is made of the request and the caller. -/
theorem KeyConfig.createRequest_ok {rawKey : String} {req : ApiKeyCreateRequest}
    (h : config.createRequest now ulid auth body = .ok (rawKey, req)) :
    ∃ read stripped, body = some read ∧ auth.userId = some req.userId ∧
      req.scopes = read.scopes.getD auth.scopes ∧
      config.expiry now read.expiresInDays = some req.expiresAt ∧
      rawKey = Gateway.rawKey stripped ulid := by
  obtain ⟨userId, huser, h⟩ := required_bind_eq_ok_iff.mp h
  obtain ⟨read, hread, h⟩ := required_bind_eq_ok_iff.mp h
  obtain ⟨stripped, -, h⟩ := required_bind_eq_ok_iff.mp h
  obtain ⟨expiresAt, hexpires, h⟩ := required_bind_eq_ok_iff.mp h
  obtain ⟨rfl, rfl⟩ := Prod.mk.inj (Except.ok.inj h)
  exact ⟨read, stripped, hread, huser, rfl, hexpires, rfl⟩

/-- Before the brain is asked, a request can only fail. -/
theorem KeyConfig.createRequest_error (h : config.createRequest now ulid auth body = .error response) :
    response = .aborted ∨ ∃ status message, response = .failure status message := by
  rcases required_bind_eq_error h with rfl | ⟨userId, -, h⟩
  · exact .inr ⟨_, _, rfl⟩
  rcases required_bind_eq_error h with rfl | ⟨read, -, h⟩
  · exact .inr ⟨_, _, rfl⟩
  rcases required_bind_eq_error h with rfl | ⟨stripped, -, h⟩
  · exact .inl rfl
  rcases required_bind_eq_error h with rfl | ⟨expiresAt, -, h⟩
  · exact .inl rfl
  · cases h

theorem change_create (config : KeyConfig) (keys : ApiKeys) (now : ℕ) (env : KeyEnv) (auth : AuthResult)
    (body : Option CreateApiKeyBody) :
    KeyChange keys auth env (.create body) (createApikeyHandler config keys now env auth body).1
      (createApikeyHandler config keys now env auth body).2 := by
  unfold createApikeyHandler
  cases hrequest : config.createRequest now env.ulid auth body with
  | error response =>
    refine .none ?_
    rcases KeyConfig.createRequest_error hrequest with rfl | ⟨status, message, rfl⟩ <;> simp
  | ok prepared =>
    obtain ⟨rawKey, req⟩ := prepared
    obtain ⟨read, -, rfl, howner, hscopes, -⟩ := KeyConfig.createRequest_ok hrequest
    dsimp only
    by_cases hfresh : env.available = true ∧ keys.lookup env.keyId = none
    · rw [handleApikeyCreate, if_pos hfresh]
      refine .created hfresh.1 hfresh.2 howner hscopes rfl ?_
      split_ifs <;> simp
    · rw [handleApikeyCreate, if_neg hfresh]
      exact .none (by simp)

theorem change_revoke (keys : ApiKeys) (env : KeyEnv) (auth : AuthResult) (keyId : String) :
    KeyChange keys auth env (.revoke keyId) (revokeApikeyHandler keys env auth keyId).1
      (revokeApikeyHandler keys env auth keyId).2 := by
  unfold revokeApikeyHandler
  cases huser : auth.userId with
  | none => exact .none (by simp)
  | some userId =>
    unfold handleApikeyRevoke ApiKeys.update
    cases havailable : env.available with
    | false => exact .none (by simp)
    | true =>
      cases hkey : keys.lookup keyId with
      | none => exact .none (by simp)
      | some key => exact .revoked havailable huser hkey

theorem change_list (keys : ApiKeys) (env : KeyEnv) (auth : AuthResult) :
    KeyChange keys auth env .list keys (listApikeysHandler keys env auth) := by
  apply KeyChange.none
  unfold listApikeysHandler
  split
  · simp
  · split_ifs <;> simp

theorem change_serve (config : KeyConfig) (keys : ApiKeys) (now : ℕ) (env : KeyEnv) (auth : AuthResult)
    (request : KeyRequest) :
    KeyChange keys auth env request (config.serve keys now env auth request).1
      (config.serve keys now env auth request).2 := by
  cases request with
  | create body => exact change_create config keys now env auth body
  | list => exact change_list keys env auth
  | revoke keyId => exact change_revoke keys env auth keyId

theorem lookup_insert_cases {keys : ApiKeys} {keyId other : String} {key found : ApiKeyRecord}
    (h : (keys.insert keyId key).lookup other = some found) :
    (other = keyId ∧ found = key) ∨ (other ≠ keyId ∧ keys.lookup other = some found) := by
  by_cases hother : other = keyId
  · subst hother
    rw [AList.lookup_insert] at h
    exact .inl ⟨rfl, (Option.some.inj h).symm⟩
  · rw [AList.lookup_insert_ne hother] at h
    exact .inr ⟨hother, h⟩

namespace KeyState

variable {state next : KeyState}

/-- A request that was told of a revocation came from the owner. -/
def RightlyTold (keys : ApiKeys) (served : Served) : Prop :=
  ∀ keyId, served.request = .revoke keyId → served.response = .revoked →
    ∃ key ∈ keys.lookup keyId, served.auth.userId = some key.userId

/-- What `Kept` says, with what it rests on: tokens carry the scopes of their users, and keys were
created for the users of their creators. -/
structure Sound (users : String → List String) (state : KeyState) : Prop where
  issued : ∀ claims ∈ state.issued, ∀ userId ∈ claims.userId, claims.scopes = users userId
  ownRevocations : ∀ keyId, ∀ key ∈ state.keys.lookup keyId, key.revoked = true →
    ∃ served ∈ state.served, served.request = .revoke keyId ∧ served.auth.userId = some key.userId
  told : ∀ served ∈ state.served, RightlyTold state.keys served
  created : ∀ keyId, ∀ key ∈ state.keys.lookup keyId, ∃ creator ∈ state.creators.lookup keyId,
    creator.scopes = users key.userId ∧ key.scopes ⊆ creator.scopes

theorem sound_init (users : String → List String) (now : ℕ) : Sound users (init now) := by
  constructor
  · exact fun _ hmem ↦ absurd hmem List.not_mem_nil
  · intro keyId key hkey
    cases hkey
  · exact fun _ hmem ↦ absurd hmem List.not_mem_nil
  · intro keyId key hkey
    cases hkey

theorem Sound.kept (h : Sound users state) : Kept users state := by
  constructor
  · exact h.ownRevocations
  · intro served hserved keyId hrequest key hkey hother htold
    obtain ⟨owned, howned, howner⟩ := h.told served hserved keyId hrequest htold
    obtain rfl := Option.some.inj (howned.symm.trans hkey)
    exact hother howner
  · intro keyId key hkey
    obtain ⟨creator, hcreator, -, hscopes⟩ := h.created keyId key hkey
    exact ⟨creator, hcreator, hscopes⟩
  · intro keyId key hkey
    obtain ⟨creator, -, huser, hscopes⟩ := h.created keyId key hkey
    exact huser ▸ hscopes

variable {keys : ApiKeys} {keyId : String} {key : ApiKeyRecord} {auth : AuthResult} {access : Access}

theorem RightlyTold.replace {served : Served} (h : RightlyTold keys served) {changed : ApiKeyRecord}
    (hkey : keys.lookup keyId = some key) (huser : changed.userId = key.userId) :
    RightlyTold (keys.insert keyId changed) served := by
  intro other hrequest htold
  obtain ⟨found, hfound, howner⟩ := h other hrequest htold
  by_cases hother : other = keyId
  · subst hother
    obtain rfl := Option.some.inj (hfound.symm.trans hkey)
    exact ⟨changed, AList.lookup_insert keys, howner.trans (congrArg some huser.symm)⟩
  · exact ⟨found, (AList.lookup_insert_ne hother).trans hfound, howner⟩

theorem RightlyTold.add {served : Served} (h : RightlyTold keys served) (hfresh : keys.lookup keyId = none)
    (key : ApiKeyRecord) : RightlyTold (keys.insert keyId key) served := by
  intro other hrequest htold
  obtain ⟨found, hfound, howner⟩ := h other hrequest htold
  have hother : other ≠ keyId := by
    rintro rfl
    rw [hfresh] at hfound
    cases hfound
  exact ⟨found, (AList.lookup_insert_ne hother).trans hfound, howner⟩

/-- A key is changed for a reason, and keeps its user and its scopes. -/
theorem Sound.replace (h : Sound users state) (changed : ApiKeyRecord)
    (hkey : state.keys.lookup keyId = some key) (huser : changed.userId = key.userId)
    (hscopes : changed.scopes = key.scopes) {served : List Served}
    (hserved : ∀ earlier ∈ state.served, earlier ∈ served)
    (htold : ∀ later ∈ served, RightlyTold state.keys later)
    (hrevoked : changed.revoked = true →
      ∃ reason ∈ served, reason.request = .revoke keyId ∧ reason.auth.userId = some key.userId) :
    Sound users { state with keys := state.keys.insert keyId changed, served := served } := by
  refine ⟨h.issued, ?_, fun later hlater ↦ (htold later hlater).replace hkey huser, ?_⟩
  · intro other found hfound hfoundRevoked
    rcases lookup_insert_cases hfound with ⟨rfl, rfl⟩ | ⟨-, hold⟩
    · rw [huser]
      exact hrevoked hfoundRevoked
    · obtain ⟨reason, hreason, hwhy⟩ := h.ownRevocations other found hold hfoundRevoked
      exact ⟨reason, hserved reason hreason, hwhy⟩
  · intro other found hfound
    rcases lookup_insert_cases hfound with ⟨rfl, rfl⟩ | ⟨-, hold⟩
    · rw [huser, hscopes]
      exact h.created other key hkey
    · exact h.created other found hold

/-- A new key carries no more than its creator's credential. -/
theorem Sound.add (h : Sound users state) (hfresh : state.keys.lookup keyId = none)
    (hrevoked : key.revoked = false) (hauth : auth.scopes = users key.userId)
    (hscopes : key.scopes ⊆ auth.scopes) {served : Served} (htold : served.response ≠ .revoked) :
    Sound users { state with
      keys := state.keys.insert keyId key
      creators := state.creators.insert keyId auth
      served := state.served ++ [served] } := by
  refine ⟨h.issued, ?_, ?_, ?_⟩
  · intro other found hfound hfoundRevoked
    rcases lookup_insert_cases hfound with ⟨rfl, rfl⟩ | ⟨-, hold⟩
    · rw [hrevoked] at hfoundRevoked
      cases hfoundRevoked
    · obtain ⟨reason, hreason, hwhy⟩ := h.ownRevocations other found hold hfoundRevoked
      exact ⟨reason, List.mem_append_left _ hreason, hwhy⟩
  · intro later hlater
    obtain hold | rfl := mem_of_concat hlater
    · exact (h.told later hold).add hfresh key
    · exact fun _ _ hresponse ↦ absurd hresponse htold
  · intro other found hfound
    rcases lookup_insert_cases hfound with ⟨rfl, rfl⟩ | ⟨hother, hold⟩
    · exact ⟨auth, AList.lookup_insert state.creators, hauth, hscopes⟩
    · obtain ⟨creator, hcreator, hrights⟩ := h.created other found hold
      exact ⟨creator, (AList.lookup_insert_ne hother).trans hcreator, hrights⟩

/-- A request that changes no key. -/
theorem Sound.served (h : Sound users state) {served : Served} (htold : served.response ≠ .revoked) :
    Sound users { state with served := state.served ++ [served] } := by
  refine ⟨h.issued, ?_, ?_, h.created⟩
  · intro keyId key hkey hrevoked
    obtain ⟨reason, hreason, hwhy⟩ := h.ownRevocations keyId key hkey hrevoked
    exact ⟨reason, List.mem_append_left _ hreason, hwhy⟩
  · intro later hlater
    obtain hold | rfl := mem_of_concat hlater
    · exact h.told later hold
    · exact fun _ _ hresponse ↦ absurd hresponse htold

theorem Sound.scopes_of_authenticated (h : Sound users state) {userId : String}
    (hissued : ∀ claims ∈ access.token, claims ∈ state.issued)
    (hauth : authenticated config access = some auth) (huser : auth.userId = some userId) :
    auth.scopes = users userId := by
  rcases authenticate_cases hauth with ⟨token, claims, hclaims, rfl⟩ | rfl
  · exact h.issued claims (hissued claims hclaims) userId huser
  · cases huser

theorem Sound.request (h : Sound users state) {request : KeyRequest} {env : KeyEnv}
    (hrightful : state.Rightful config (.request access request env))
    (hstep : step config users state (.request access request env) = some next) : Sound users next := by
  simp only [step] at hstep
  split_ifs at hstep with hissued
  cases hauth : authenticated config access with
  | none =>
    rw [hauth] at hstep
    cases hstep
    exact h
  | some auth =>
    rw [hauth] at hstep
    cases hstep
    have hchange := change_serve config state.keys state.now env auth request
    generalize config.serve state.keys state.now env auth request = result at hchange
    obtain ⟨keys, response⟩ := result
    dsimp only at hchange ⊢
    cases hchange with
    | none hresponse =>
      rw [if_neg fun hnew ↦ hnew.2 hnew.1]
      exact h.served hresponse
    | @created body key _ havailable hfresh howner hscopes hrevoked hresponse =>
      have hadded : (state.keys.insert env.keyId key).lookup env.keyId ≠ none := by
        rw [AList.lookup_insert]
        exact Option.some_ne_none key
      rw [if_pos ⟨hfresh, hadded⟩]
      have huser := h.scopes_of_authenticated hissued hauth howner
      have hwithin := hrightful auth hauth (by rw [howner]; rfl) havailable body rfl
      refine h.add hfresh hrevoked huser ?_ hresponse
      rw [hscopes]
      cases hasked : body.scopes with
      | none => exact List.Subset.refl _
      | some scopes => exact hwithin scopes hasked
    | @revoked keyId userId key _ havailable huser hkey =>
      have howner : auth.userId = some key.userId :=
        hrightful auth hauth (by rw [huser]; rfl) havailable key hkey
      rw [if_neg]
      · apply h.replace { key with revoked := true } hkey rfl rfl
        · exact fun earlier hearlier ↦ List.mem_append_left _ hearlier
        · intro later hlater
          obtain hold | rfl := mem_of_concat hlater
          · exact h.told later hold
          · rintro other hrequest -
            obtain rfl := KeyRequest.revoke.inj hrequest
            exact ⟨key, hkey, howner⟩
        · exact fun _ ↦ ⟨_, List.mem_append_right _ (List.mem_singleton.mpr rfl), rfl, howner⟩
      · rintro ⟨hnone, hsome⟩
        rcases Option.ne_none_iff_exists'.mp hsome with ⟨found, hfound⟩
        rcases lookup_insert_cases hfound with ⟨rfl, -⟩ | ⟨-, hold⟩
        · rw [hkey] at hnone
          cases hnone
        · rw [hnone] at hold
          cases hold

/-- The use of a key is noted that was found valid. -/
theorem change_of_touch (hstep : step config users state (.touch keyId) = some next) :
    ∃ keys, state.keys.update keyId (fun key ↦ { key with lastUsed := some state.now }) = some keys ∧
      next = { state with keys := keys, validated := state.validated.erase keyId } := by
  simp only [step] at hstep
  split_ifs at hstep
  obtain ⟨keys, hkeys, rfl⟩ := Option.map_eq_some_iff.mp hstep
  exact ⟨keys, hkeys, rfl⟩

theorem Sound.touch (h : Sound users state)
    (hkeys : state.keys.update keyId (fun key ↦ { key with lastUsed := some state.now }) = some keys) :
    Sound users { state with keys := keys, validated := state.validated.erase keyId } := by
  obtain ⟨key, hkey, rfl⟩ := Option.map_eq_some_iff.mp hkeys
  have hkept := h.replace { key with lastUsed := some state.now } hkey rfl rfl
    (fun _ hearlier ↦ hearlier) h.told fun hrevoked ↦ h.ownRevocations keyId key hkey hrevoked
  exact ⟨hkept.issued, hkept.ownRevocations, hkept.told, hkept.created⟩

theorem Sound.issue (h : Sound users state) {claims : Claims}
    (hclaims : ∀ userId ∈ claims.userId, claims.scopes = users userId) :
    Sound users { state with issued := claims :: state.issued } := by
  refine ⟨fun other hother ↦ ?_, h.ownRevocations, h.told, h.created⟩
  rcases List.mem_cons.mp hother with rfl | hold
  · exact hclaims
  · exact h.issued other hold

theorem sound_step {label : KeyStep} (h : Sound users state) (hrightful : state.Rightful config label)
    (hstep : step config users state label = some next) : Sound users next := by
  cases label with
  | tick seconds =>
    cases hstep
    exact ⟨h.issued, h.ownRevocations, h.told, h.created⟩
  | login username userId role jti =>
    cases hstep
    apply h.issue
    intro other hother
    cases hother
    rfl
  | issue subject role scopes jti =>
    cases hstep
    apply h.issue
    intro other hother
    cases hother
  | request access request env => exact h.request hrightful hstep
  | validate keyHash =>
    cases hstep
    exact ⟨h.issued, h.ownRevocations, h.told, h.created⟩
  | touch keyId =>
    obtain ⟨keys, hkeys, rfl⟩ := change_of_touch hstep
    exact h.touch hkeys

/-- As long as users ask for no scopes beyond those of their credentials and revoke no keys of others,
keys stay with their owners and within their rights. -/
theorem keys_kept {now : ℕ}
    (hreach : Steps.Reach (step config users) (Rightful config) (init now) state) :
    Kept users state :=
  (hreach.invariant (sound_init users now) fun _ _ _ hbefore hrightful hstep ↦
    sound_step hbefore hrightful hstep).kept

end KeyState

/-- A gateway whose hash is the text itself. -/
def sampleKeys : KeyConfig := ⟨"secret", 3600, id, 8210266876799⟩

/-- Alice has one more scope than Bob. -/
def sampleScopes (userId : String) : List String :=
  if userId = "user_alice" then ["scope_root", "scope_health"] else ["scope_root"]

/-- Alice and Bob log in, and Alice creates a key. -/
def aliceCreates : List KeyStep :=
  [.login "alice" "user_alice" "user" "jti_1", .login "bob" "user_bob" "user" "jti_2",
    .request ⟨"Bearer t1", none, some ⟨"jti_1", "alice", 0, 3600, sampleScopes "user_alice", "user",
      some "user_alice"⟩⟩ (.create (some ⟨"laptop", none, none⟩)) ⟨"u1", "apikey_1", true, true⟩]

/-- What Bob presents. -/
def bobAccess : Access :=
  ⟨"Bearer t2", none, some ⟨"jti_2", "bob", 0, 3600, sampleScopes "user_bob", "user",
    some "user_bob"⟩⟩

/-- Bob revokes Alice's key, and creates one with her scope. -/
def bobOversteps : List KeyStep :=
  [.request bobAccess (.revoke "apikey_1") ⟨"u2", "apikey_2", true, true⟩,
    .request bobAccess (.create (some ⟨"phone", some ["scope_health"], none⟩))
      ⟨"u2", "apikey_2", true, true⟩]

namespace KeyState

theorem keys_kept_created :
    ∃ state, (step sampleKeys sampleScopes).execute (init 0) aliceCreates = some state ∧
      (state.keys.lookup "apikey_1").map ApiKeyRecord.keyHash = some "sk_alice_u1" ∧
      Kept sampleScopes state := by
  have hrun : ∃ state ∈ (step sampleKeys sampleScopes).execute (init 0) aliceCreates,
      (state.keys.lookup "apikey_1").map ApiKeyRecord.keyHash = some "sk_alice_u1" := by
    decide +kernel
  obtain ⟨state, hstate, hkey⟩ := hrun
  exact ⟨state, hstate, hkey, keys_kept (Steps.reach_of_execute (by decide +kernel) hstate)⟩

/-- A stranger revokes a key and is told so, and gets a key with a scope he does not have. -/
theorem exists_key_taken :
    ∃ state, Steps.Reach (step sampleKeys sampleScopes) (fun _ _ ↦ True) (init 0) state ∧
      ¬Kept sampleScopes state ∧
      ∃ key ∈ state.keys.lookup "apikey_2", "scope_health" ∈ key.scopes ∧ key.userId = "user_bob" := by
  have hrun : ∃ state ∈ (step sampleKeys sampleScopes).execute (init 0) (aliceCreates ++ bobOversteps),
      (∃ served ∈ state.served, served.request = .revoke "apikey_1" ∧ served.response = .revoked ∧
        ∃ key ∈ state.keys.lookup "apikey_1", served.auth.userId ≠ some key.userId) ∧
      ∃ key ∈ state.keys.lookup "apikey_2", "scope_health" ∈ key.scopes ∧ key.userId = "user_bob" := by
    decide +kernel
  obtain ⟨state, hstate, ⟨served, hserved, hrequest, htold, key, hkey, hother⟩, hbeyond⟩ := hrun
  exact ⟨state, Steps.reach_of_execute (Steps.guarded_of_forall (fun _ _ ↦ trivial) _ _) hstate,
    fun hkept ↦ hkept.othersRefused served hserved "apikey_1" hrequest key hkey hother htold, hbeyond⟩

end KeyState

end Seidrum.Gateway
