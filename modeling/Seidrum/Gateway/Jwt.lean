import Mathlib.Data.Finset.Card
import Mathlib.Data.Finset.Image
import Mathlib.Data.Set.Finite.Basic
import Seidrum.Foundation.Transition

/-!
# Revocation of tokens

The gateway signs tokens that carry an identifier and an expiry.  A revoked identifier is remembered
in a set, which is saved to the plugin storage from time to time and read back at the next start.  A
periodic clean-up bounds the set and forgets as many identifiers as are too many, whichever the set
lists first.
-/

namespace Seidrum.Gateway

open Foundation

structure Claims where
  jti : String
  sub : String
  iat : ℕ
  exp : ℕ
  scopes : List String
  role : String
  userId : Option String
  deriving DecidableEq, Repr

/-- Signing a token, and checking its signature. -/
structure Signing (Token : Type) where
  encode : Claims → Token
  verify : Token → Except String Claims

/-- Tokens that are their claims. -/
def Signing.structural : Signing Claims where
  encode := id
  verify := .ok

structure JwtConfig (Token : Type) where
  signing : Signing Token
  tokenTtlSecs : ℕ

variable {Token : Type}

/-- Signature and expiry, without leeway. -/
def JwtConfig.decode (config : JwtConfig Token) (now : ℕ) (token : Token) : Except String Claims :=
  match config.signing.verify token with
  | .error error => .error error
  | .ok claims => if claims.exp < now then .error "ExpiredSignature" else .ok claims

/-- The clock, the tokens issued, the revocations of the running process and those in storage. -/
structure JwtState where
  now : ℕ
  issued : List Claims
  revoked : Finset String
  stored : Option (List String)

def JwtState.init (now : ℕ) : JwtState := ⟨now, [], ∅, none⟩

def JwtConfig.validateToken (config : JwtConfig Token) (state : JwtState) (token : Token) :
    Except String Claims :=
  match config.decode state.now token with
  | .error error => .error ("JWT validation failed: " ++ error)
  | .ok claims =>
      if claims.jti ∈ state.revoked then .error "Token has been revoked" else .ok claims

theorem JwtConfig.validateToken_eq_ok_iff (config : JwtConfig Token) {state : JwtState} {token : Token}
    {claims : Claims} :
    config.validateToken state token = .ok claims ↔
      config.signing.verify token = .ok claims ∧ state.now ≤ claims.exp ∧
        claims.jti ∉ state.revoked := by
  unfold validateToken decode
  cases config.signing.verify token with
  | error error => simp
  | ok found =>
    by_cases hexpired : found.exp < state.now
    · simp only [hexpired, if_true, Except.ok.injEq, false_iff, reduceCtorEq]
      rintro ⟨rfl, hnow, -⟩
      exact absurd hexpired (Nat.not_lt.mpr hnow)
    · by_cases hrevoked : found.jti ∈ state.revoked
      · simp only [hexpired, hrevoked, if_true, if_false, Except.ok.injEq, false_iff, reduceCtorEq]
        rintro ⟨rfl, -, hkept⟩
        exact hkept hrevoked
      · simp only [hexpired, hrevoked, if_false, Except.ok.injEq]
        constructor
        · rintro rfl
          exact ⟨rfl, Nat.not_lt.mp hexpired, hrevoked⟩
        · exact fun h ↦ h.1

/-- What may happen, with the choices that are not the service's: the identifier of a new token, what
a clean-up forgets, the order in which the set is listed, and whether the storage answers. -/
inductive JwtLabel
  | tick (seconds : ℕ)
  | generateToken (subject role : String) (scopes : List String) (userId : Option String)
      (jti : String)
  | revokeToken (jti : String)
  | cleanupRevocations (maxEntries : ℕ) (removed : Finset String)
  | saveRevocations (jtiList : List String) (stored : Bool)
  | restart (restored : Bool)

def JwtConfig.step (config : JwtConfig Token) : Steps JwtState JwtLabel
  | state, .tick seconds => some { state with now := state.now + seconds }
  | state, .generateToken subject role scopes userId jti =>
      if jti ∈ state.issued.map (·.jti) then none
      else some { state with
        issued := ⟨jti, subject, state.now, state.now + config.tokenTtlSecs, scopes, role, userId⟩ ::
          state.issued }
  | state, .revokeToken jti => some { state with revoked := insert jti state.revoked }
  | state, .cleanupRevocations maxEntries removed =>
      if maxEntries < state.revoked.card then
        if removed ⊆ state.revoked ∧ removed.card = state.revoked.card - maxEntries then
          some { state with revoked := state.revoked \ removed }
        else none
      else if removed = ∅ then some state else none
  | state, .saveRevocations jtiList stored =>
      if jtiList.Nodup ∧ jtiList.toFinset = state.revoked then
        some (if stored then { state with stored := some jtiList } else state)
      else none
  | state, .restart restored =>
      some { state with revoked := if restored then (state.stored.getD []).toFinset else ∅ }

/-! ## What a revocation survives -/

/-- A clean-up finds no more revocations than it may keep. -/
def JwtState.Fits (state : JwtState) : JwtLabel → Prop
  | .cleanupRevocations maxEntries _ => state.revoked.card ≤ maxEntries
  | _ => True

/-- While a revocation waits to be saved: clean-ups fit, and the process goes on. -/
def JwtState.KeepsUnsaved (state : JwtState) (label : JwtLabel) : Prop :=
  state.Fits label ∧ ∀ restored, label ≠ .restart restored

/-- Once a revocation is saved: clean-ups fit, and the storage answers at every start. -/
def JwtState.KeepsSaved (state : JwtState) (label : JwtLabel) : Prop :=
  state.Fits label ∧ label ≠ .restart false

section

variable {config : JwtConfig Token} {state next : JwtState} {label : JwtLabel} {jti : String}

/-- Only a restart makes a process forget what it has been told, if clean-ups fit. -/
theorem revoked_subset_of_step (hstep : config.step state label = some next)
    (hfits : state.Fits label) (hrestart : ∀ restored, label ≠ .restart restored) :
    state.revoked ⊆ next.revoked := by
  cases label with
  | tick seconds =>
    cases hstep
    exact subset_rfl
  | generateToken subject role scopes userId jti =>
    obtain ⟨-, heq⟩ := Option.ite_none_left_eq_some.mp hstep
    cases heq
    exact subset_rfl
  | revokeToken jti =>
    cases hstep
    exact Finset.subset_insert jti state.revoked
  | cleanupRevocations maxEntries removed =>
    have hcard : ¬maxEntries < state.revoked.card := Nat.not_lt.mpr hfits
    rw [JwtConfig.step, if_neg hcard] at hstep
    obtain ⟨-, heq⟩ := Option.ite_none_right_eq_some.mp hstep
    cases heq
    exact subset_rfl
  | saveRevocations jtiList stored =>
    obtain ⟨-, heq⟩ := Option.ite_none_right_eq_some.mp hstep
    cases heq
    cases stored <;> exact subset_rfl
  | restart restored => exact absurd rfl (hrestart restored)

/-- The storage changes only by a save, which puts the whole set there. -/
theorem stored_of_step (hstep : config.step state label = some next) :
    next.stored = state.stored ∨
      ∃ jtiList, next.stored = some jtiList ∧ jtiList.toFinset = state.revoked := by
  cases label with
  | saveRevocations jtiList stored =>
    obtain ⟨⟨-, hlisted⟩, heq⟩ := Option.ite_none_right_eq_some.mp hstep
    cases heq
    cases stored with
    | false => exact .inl rfl
    | true => exact .inr ⟨jtiList, rfl, hlisted⟩
  | cleanupRevocations maxEntries removed =>
    refine .inl ?_
    simp only [JwtConfig.step] at hstep
    split_ifs at hstep <;> obtain rfl := Option.some.inj hstep <;> rfl
  | generateToken subject role scopes userId jti =>
    obtain ⟨-, heq⟩ := Option.ite_none_left_eq_some.mp hstep
    cases heq
    exact .inl rfl
  | tick seconds | revokeToken jti | restart restored =>
    cases hstep
    exact .inl rfl

/-- The process and the storage both have a revocation. -/
structure JwtState.Remembers (state : JwtState) (jti : String) : Prop where
  revoked : jti ∈ state.revoked
  stored : jti ∈ state.stored.getD []

theorem JwtState.Remembers.step (h : state.Remembers jti)
    (hstep : config.step state label = some next) (hkeeps : state.KeepsSaved label) :
    next.Remembers jti := by
  constructor
  · by_cases hrestart : ∃ restored, label = .restart restored
    · obtain ⟨restored, rfl⟩ := hrestart
      obtain rfl : restored = true := by
        cases restored with
        | false => exact absurd rfl hkeeps.2
        | true => rfl
      cases hstep
      exact List.mem_toFinset.mpr h.stored
    · have hkept := revoked_subset_of_step hstep hkeeps.1 fun restored heq ↦
        hrestart ⟨restored, heq⟩
      exact hkept h.revoked
  · obtain heq | ⟨jtiList, heq, hlisted⟩ := stored_of_step hstep
    · rw [heq]
      exact h.stored
    · rw [heq, Option.getD_some, ← List.mem_toFinset, hlisted]
      exact h.revoked

/-- From the save that follows a token's revocation on, the token is refused. -/
theorem revoked_after_save {revoking revoked saving saved : JwtState} {jtiList : List String}
    (hrevoke : config.step revoking (.revokeToken jti) = some revoked)
    (hunsaved : Steps.Reach config.step JwtState.KeepsUnsaved revoked saving)
    (hsave : config.step saving (.saveRevocations jtiList true) = some saved)
    (hsaved : Steps.Reach config.step JwtState.KeepsSaved saved state) {token : Token}
    {claims : Claims} (hjti : claims.jti = jti) :
    config.validateToken state token ≠ .ok claims := by
  have hrevoked : jti ∈ revoked.revoked := by
    cases hrevoke
    exact Finset.mem_insert_self jti revoking.revoked
  have hsaving : jti ∈ saving.revoked := hunsaved.invariant hrevoked
    fun _ _ _ hmem hkeeps hstep ↦ revoked_subset_of_step hstep hkeeps.1 hkeeps.2 hmem
  have hremembers : saved.Remembers jti := by
    obtain ⟨⟨-, hlisted⟩, heq⟩ := Option.ite_none_right_eq_some.mp hsave
    cases heq
    exact ⟨hsaving, List.mem_toFinset.mp (hlisted ▸ hsaving)⟩
  have hlater : state.Remembers jti := by
    induction hsaved with
    | init => exact hremembers
    | next _ hkeeps hstep ih => exact ih.step hstep hkeeps
  intro haccepted
  obtain ⟨-, -, hfresh⟩ := config.validateToken_eq_ok_iff.mp haccepted
  exact hfresh (hjti ▸ hlater.revoked)

end

/-- A token that lasts for an hour, of a user. -/
def Claims.sample : Claims := ⟨"t", "user1", 0, 3600, ["scope_root"], "user", none⟩

theorem revoked_after_save_restart :
    (JwtConfig.mk Signing.structural 3600).validateToken ⟨60, [.sample], {"t"}, some ["t"]⟩
      .sample ≠ .ok .sample := by
  have hrevoke : (JwtConfig.mk Signing.structural 3600).step ⟨60, [.sample], ∅, none⟩
      (.revokeToken "t") = some ⟨60, [.sample], {"t"}, none⟩ := rfl
  have hsave : (JwtConfig.mk Signing.structural 3600).step ⟨60, [.sample], {"t"}, none⟩
      (.saveRevocations ["t"] true) = some ⟨60, [.sample], {"t"}, some ["t"]⟩ := rfl
  have hrestart : (JwtConfig.mk Signing.structural 3600).step
      ⟨60, [.sample], {"t"}, some ["t"]⟩ (.restart true) =
        some ⟨60, [.sample], {"t"}, some ["t"]⟩ := rfl
  have hkeeps : JwtState.KeepsSaved ⟨60, [.sample], {"t"}, some ["t"]⟩ (.restart true) :=
    ⟨trivial, by simp⟩
  exact revoked_after_save hrevoke .init hsave (.next .init hkeeps hrestart) rfl

/-- The entries the periodic clean-up keeps. -/
def maxRevocations : ℕ := 10000

section

variable {config : JwtConfig Token}

theorem reach_revoked (state : JwtState) (jtis : Finset String) :
    Steps.Reach config.step (fun _ _ ↦ True) state
      { state with revoked := state.revoked ∪ jtis } := by
  induction jtis using Finset.induction_on with
  | empty =>
    rw [Finset.union_empty]
    exact .init
  | insert jti jtis _ ih =>
    have hstep : config.step { state with revoked := state.revoked ∪ jtis } (.revokeToken jti) =
        some { state with revoked := state.revoked ∪ insert jti jtis } := by
      simp only [JwtConfig.step, Finset.union_insert]
    exact .next ih trivial hstep

theorem exists_others (jti : String) (count : ℕ) :
    ∃ others : Finset String, jti ∉ others ∧ others.card = count := by
  have : Infinite String :=
    Infinite.of_injective String.ofList fun _ _ ↦ String.ofList_injective
  have hinfinite := (Set.finite_singleton jti).infinite_compl
  obtain ⟨others, hothers, hcard⟩ := hinfinite.exists_subset_card_eq count
  exact ⟨others, fun hmem ↦ hothers hmem rfl, hcard⟩

/-- With as many other revocations as may be kept, a clean-up may forget the one just saved. -/
theorem accepted_after_cleanup (maxEntries : ℕ) {now : ℕ} {token : Token} {claims : Claims}
    (hverify : config.signing.verify token = .ok claims) (hexp : now ≤ claims.exp) :
    ∃ revoking revoked saved state jtiList,
      Steps.Reach config.step (fun _ _ ↦ True) (.init now) revoking ∧
      config.step revoking (.revokeToken claims.jti) = some revoked ∧
      config.step revoked (.saveRevocations jtiList true) = some saved ∧
      config.step saved (.cleanupRevocations maxEntries {claims.jti}) = some state ∧
      config.validateToken state token = .ok claims := by
  obtain ⟨others, hother, hcard⟩ := exists_others claims.jti maxEntries
  let all := insert claims.jti others
  have hall : all.card = maxEntries + 1 := by rw [Finset.card_insert_of_notMem hother, hcard]
  refine ⟨⟨now, [], others, none⟩, ⟨now, [], all, none⟩, ⟨now, [], all, some all.toList⟩,
    ⟨now, [], all \ {claims.jti}, some all.toList⟩, all.toList, ?_, rfl, ?_, ?_, ?_⟩
  · have hreach : Steps.Reach config.step (fun _ _ ↦ True) (.init now)
        { JwtState.init now with revoked := ∅ ∪ others } := reach_revoked (.init now) others
    rwa [Finset.empty_union] at hreach
  · simp [JwtConfig.step, Finset.nodup_toList, Finset.toList_toFinset]
  · simp [JwtConfig.step, hall, all]
  · rw [JwtConfig.validateToken_eq_ok_iff]
    exact ⟨hverify, hexp, by simp⟩

end

theorem revocation_forgotten :
    ∃ revoking revoked saved state jtiList,
      Steps.Reach (JwtConfig.mk Signing.structural 3600).step (fun _ _ ↦ True) (.init 60) revoking ∧
      (JwtConfig.mk Signing.structural 3600).step revoking (.revokeToken "t") = some revoked ∧
      (JwtConfig.mk Signing.structural 3600).step revoked (.saveRevocations jtiList true) =
        some saved ∧
      (JwtConfig.mk Signing.structural 3600).step saved
        (.cleanupRevocations maxRevocations {"t"}) = some state ∧
      (JwtConfig.mk Signing.structural 3600).validateToken state .sample = .ok .sample := by
  have hverify : (JwtConfig.mk Signing.structural 3600).signing.verify .sample = .ok .sample := rfl
  have hexp : 60 ≤ Claims.sample.exp := by decide
  exact accepted_after_cleanup maxRevocations hverify hexp

section

variable {Token : Type} {config : JwtConfig Token} {state next : JwtState} {label : JwtLabel} {jti : String}

/-- Nobody has revoked an identifier, and all tokens issued last as long. -/
structure JwtState.Unrevoked (config : JwtConfig Token) (jti : String) (state : JwtState) : Prop where
  revoked : jti ∉ state.revoked
  stored : jti ∉ state.stored.getD []
  issued : ∀ claims ∈ state.issued, claims.exp = claims.iat + config.tokenTtlSecs

theorem JwtState.Unrevoked.step (h : state.Unrevoked config jti)
    (hstep : config.step state label = some next) (hlabel : label ≠ .revokeToken jti) :
    next.Unrevoked config jti := by
  cases label with
  | tick seconds =>
    cases hstep
    exact { h with }
  | generateToken subject role scopes userId new =>
    obtain ⟨-, heq⟩ := Option.ite_none_left_eq_some.mp hstep
    cases heq
    exact { h with issued := List.forall_mem_cons.mpr ⟨rfl, h.issued⟩ }
  | revokeToken other =>
    cases hstep
    have hne : jti ≠ other := fun heq ↦ hlabel (heq ▸ rfl)
    exact { h with revoked := Finset.mem_insert.not.mpr (not_or.mpr ⟨hne, h.revoked⟩) }
  | cleanupRevocations maxEntries removed =>
    simp only [JwtConfig.step] at hstep
    split_ifs at hstep <;> cases hstep
    · exact { h with revoked := fun hmem ↦ h.revoked (Finset.sdiff_subset hmem) }
    · exact h
  | saveRevocations jtiList stored =>
    obtain ⟨⟨-, hlisted⟩, heq⟩ := Option.ite_none_right_eq_some.mp hstep
    cases heq
    cases stored with
    | false => exact h
    | true => exact { h with stored := fun hmem ↦ h.revoked (hlisted ▸ List.mem_toFinset.mpr hmem) }
  | restart restored =>
    cases hstep
    cases restored with
    | false => exact { h with revoked := Finset.notMem_empty _ }
    | true => exact { h with revoked := fun hmem ↦ h.stored (List.mem_toFinset.mp hmem) }

/-- Whatever else is revoked, forgotten, saved and restored, a token that nobody has revoked is accepted until
it expires, and not for longer. -/
theorem accepted_until_expiry {now : ℕ} {claims : Claims}
    (hsigned : ∀ claims, config.signing.verify (config.signing.encode claims) = .ok claims)
    (hreach : Steps.Reach config.step (fun _ label ↦ label ≠ .revokeToken claims.jti) (.init now) state)
    (hissued : claims ∈ state.issued) :
    config.validateToken state (config.signing.encode claims) = .ok claims ↔
      state.now ≤ claims.iat + config.tokenTtlSecs := by
  have h : state.Unrevoked config claims.jti := by
    refine hreach.invariant ?_ fun _ _ _ h hlabel hstep ↦ h.step hstep hlabel
    exact ⟨Finset.notMem_empty _, List.not_mem_nil, nofun⟩
  rw [config.validateToken_eq_ok_iff, hsigned, h.issued claims hissued]
  exact ⟨fun hvalid ↦ hvalid.2.1, fun hnow ↦ ⟨rfl, hnow, h.revoked⟩⟩

end

/-- Another token is revoked, and this one is let in in its last second. -/
theorem accepted_until_expiry_sample : ∃ state, state.now = 3600 ∧
    (JwtConfig.mk .structural 3600).validateToken state .sample = .ok .sample := by
  obtain ⟨state, hstate, hissued, hnow⟩ : ∃ state ∈ Steps.execute (JwtConfig.mk .structural 3600).step (.init 0)
      [.generateToken "user1" "user" ["scope_root"] none "t", .revokeToken "u", .saveRevocations ["u"] true,
        .tick 3600, .restart true], Claims.sample ∈ state.issued ∧ state.now = 3600 := by
    decide
  have haccepted := accepted_until_expiry (fun _ ↦ rfl) (Steps.reach_of_execute
    (Steps.guarded_of_mem (by simp [Claims.sample]) _) hstate) hissued
  exact ⟨state, hnow, haccepted.mpr (by rw [hnow]; decide)⟩

end Seidrum.Gateway
