import Seidrum.Plugins.Messages

/-!
# Routing to providers

The router chooses a provider for a request by its preferences, its privacy and its size, and tries the
others after it one by one until some reply can be read.  A provider replies to a request it could not
serve with a response of its own, which can be read as well.
-/

namespace Seidrum.Plugins

open Kernel

/-! ## Choosing a provider -/

inductive Provider
  | google
  | openAI
  | anthropic
  | ollama
  deriving DecidableEq, Repr

namespace Provider

def all : List Provider := [google, openAI, anthropic, ollama]

def name : Provider → String
  | google => "google"
  | openAI => "openai"
  | anthropic => "anthropic"
  | ollama => "ollama"

def subject (provider : Provider) : String := "llm.provider." ++ provider.name

end Provider

structure IntelligentRoutingConfig where
  toolHeavy : Provider
  simple : Provider
  complex : Provider
  privateProvider : Provider
  fallback : Provider
  deriving DecidableEq, Repr

/-- The configuration of the router. -/
def IntelligentRoutingConfig.default : IntelligentRoutingConfig where
  toolHeavy := .google
  simple := .ollama
  complex := .anthropic
  privateProvider := .ollama
  fallback := .google

inductive RoutingStrategy
  | fixed (provider : Provider)
  | fallback (providers : List Provider)
  | intelligent (config : IntelligentRoutingConfig)
  deriving DecidableEq, Repr

structure RequestProfile where
  toolCount : ℕ
  messageCount : ℕ
  estimatedTokens : ℕ
  scope : Option String
  routingStrategy : String
  modelPreferences : List String
  deriving DecidableEq, Repr

/-- The characters whose lower case has a letter of the Latin alphabet; the others stay outside of it. -/
def lowercaseChar (c : Char) : List Char :=
  if c = '\u212A' then ['k'] else if c = '\u0130' then ['i', '\u0307'] else [c.toLower]

def toLowercase (text : String) : String := String.ofList (text.toList.flatMap lowercaseChar)

def containsAny (text : String) (words : List String) : Bool :=
  words.any fun word ↦ decide (word.toList <:+: text.toList)

/-- The provider a preference names. -/
def preferredProvider (preference : String) : Option Provider :=
  let lower := toLowercase preference
  if containsAny lower ["gpt", "openai"] then some .openAI
  else if containsAny lower ["claude", "anthropic"] then some .anthropic
  else if containsAny lower ["gemini", "google"] then some .google
  else if containsAny lower ["llama", "ollama", "local", "mistral"] then some .ollama
  else none

def privacyKeywords : List String :=
  ["private", "personal", "medical", "financial", "health", "legal"]

namespace RequestProfile

/-- The request asks for privacy by its strategy, or by a keyword in its scope. -/
def Private (profile : RequestProfile) : Prop :=
  profile.routingStrategy ∈ ["private", "local"] ∨
    ∃ scope ∈ profile.scope, containsAny (toLowercase scope) privacyKeywords

instance (profile : RequestProfile) : Decidable profile.Private := inferInstanceAs (Decidable (_ ∨ _))

end RequestProfile

def selectIntelligent (profile : RequestProfile) (config : IntelligentRoutingConfig) : Provider :=
  match profile.modelPreferences.findSome? preferredProvider with
  | some provider => provider
  | none =>
      if profile.Private then config.privateProvider
      else if 3 < profile.toolCount then config.toolHeavy
      else if 10000 < profile.estimatedTokens ∨ 20 < profile.messageCount then config.complex
      else if profile.estimatedTokens < 1000 ∧ profile.toolCount = 0 then config.simple
      else config.fallback

def selectProvider (profile : RequestProfile) : RoutingStrategy → Provider
  | .fixed provider => provider
  | .fallback providers => providers.head?.getD .google
  | .intelligent config => selectIntelligent profile config

def getProvidersToTry (profile : RequestProfile) : RoutingStrategy → List Provider
  | .fixed provider => [provider]
  | .fallback providers => providers
  | .intelligent config =>
      let primary := selectProvider profile (.intelligent config)
      let list := if config.fallback ≠ primary then [primary, config.fallback] else [primary]
      Provider.all.foldl (fun list other ↦ if other ∈ list then list else list ++ [other]) list

/-- After the first provider, another one is tried. -/
theorem getProvidersToTry_private {profile : RequestProfile} (config : IntelligentRoutingConfig)
    (hpreferences : profile.modelPreferences = []) (hprivate : profile.Private) :
    ∃ other rest, other ≠ config.privateProvider ∧
      getProvidersToTry profile (.intelligent config) = config.privateProvider :: other :: rest := by
  have hprimary : selectProvider profile (.intelligent config) = config.privateProvider := by
    rw [selectProvider, selectIntelligent, hpreferences, List.findSome?_nil]
    exact if_pos hprivate
  rw [getProvidersToTry, hprimary]
  cases config.privateProvider <;> cases config.fallback <;>
    exact ⟨_, _, by decide, rfl⟩

/-- What came back of a request to a provider. -/
inductive ProviderReply (Bytes : Type)
  | reply (bytes : Bytes)
  | failed (error : String)
  | timedOut

/-- The providers the request was sent to, the last error and the response that was read. -/
structure Attempts where
  sent : List Provider
  lastError : Option String
  response : Option LlmResponse

variable {Bytes : Type}

def ProviderReply.read (fromSlice : Bytes → Except String LlmResponse) (provider : Provider) :
    ProviderReply Bytes → Except String LlmResponse
  | reply bytes =>
      match fromSlice bytes with
      | .ok response => .ok response
      | .error error =>
          .error ("Provider " ++ provider.name ++ " failed to parse response: " ++ error)
  | failed error => .error ("Provider " ++ provider.name ++ " request failed: " ++ error)
  | timedOut => .error ("Provider " ++ provider.name ++ " request timed out")

theorem ProviderReply.read_eq_ok_iff {fromSlice : Bytes → Except String LlmResponse}
    {provider : Provider} {reply : ProviderReply Bytes} {response : LlmResponse} :
    reply.read fromSlice provider = .ok response ↔
      ∃ bytes, reply = .reply bytes ∧ fromSlice bytes = .ok response := by
  cases reply with
  | failed error | timedOut => simp [read]
  | reply bytes =>
    unfold read
    cases hparse : fromSlice bytes <;> simp [hparse]

/-- Try the providers in order until a reply can be read. -/
def tryProviders (fromSlice : Bytes → Except String LlmResponse) :
    List (Provider × ProviderReply Bytes) → Option String → Attempts
  | [], lastError => ⟨[], lastError, none⟩
  | (provider, reply) :: rest, lastError =>
      match reply.read fromSlice provider with
      | .ok response => ⟨[provider], lastError, some response⟩
      | .error error =>
          let later := tryProviders fromSlice rest (some error)
          { later with sent := provider :: later.sent }

/-- The response that is published: what was read, or an error. -/
def Attempts.published (agentId : String) (attempts : Attempts) : LlmResponse :=
  attempts.response.getD
    (.failure agentId ("Error: " ++ attempts.lastError.getD "All providers failed") "unknown" "unknown")

/-- A private request stays at the private provider exactly if that provider's reply can be read. -/
theorem private_stays_iff {profile : RequestProfile} (config : IntelligentRoutingConfig)
    (hpreferences : profile.modelPreferences = []) (hprivate : profile.Private)
    (fromSlice : Bytes → Except String LlmResponse) (outcome : Provider → ProviderReply Bytes) :
    (∀ provider ∈ (tryProviders fromSlice
        ((getProvidersToTry profile (.intelligent config)).map fun provider ↦
          (provider, outcome provider)) none).sent, provider = config.privateProvider) ↔
      ∃ response bytes, outcome config.privateProvider = .reply bytes ∧
        fromSlice bytes = .ok response := by
  obtain ⟨other, rest, hother, hlist⟩ :=
    getProvidersToTry_private config hpreferences hprivate
  have hread : (∃ response bytes, outcome config.privateProvider = .reply bytes ∧
      fromSlice bytes = .ok response) ↔ ∃ response,
        (outcome config.privateProvider).read fromSlice config.privateProvider = .ok response :=
    exists_congr fun _ ↦ ProviderReply.read_eq_ok_iff.symm
  rw [hread, hlist, List.map_cons, List.map_cons, tryProviders]
  cases (outcome config.privateProvider).read fromSlice config.privateProvider with
  | ok response => simp
  | error error =>
    -- the reply is not read, so the request goes to the next provider
    have hsent : ∀ lastError, other ∈ (tryProviders fromSlice ((other, outcome other) ::
        rest.map fun provider ↦ (provider, outcome provider)) lastError).sent := by
      intro lastError
      rw [tryProviders]
      split <;> exact List.mem_cons_self
    constructor
    · intro hstays
      exact absurd (hstays other (List.mem_cons_of_mem _ (hsent _))) hother
    · rintro ⟨response, hresponse⟩
      cases hresponse

/-- The private provider answers, and is the only one asked. -/
theorem private_stays_answered :
    Provider.ollama ∈ (tryProviders (fun response : LlmResponse ↦ .ok response)
        ((getProvidersToTry ⟨0, 1, 10, some "medical", "best-first", []⟩ (.intelligent .default)).map
          fun provider ↦ (provider, .reply (.failure "a" "b" "c" "d"))) none).sent ∧
      ∀ provider ∈ (tryProviders (fun response : LlmResponse ↦ .ok response)
        ((getProvidersToTry ⟨0, 1, 10, some "medical", "best-first", []⟩ (.intelligent .default)).map
          fun provider ↦ (provider, .reply (.failure "a" "b" "c" "d"))) none).sent,
        provider = .ollama :=
  ⟨by decide +kernel, (private_stays_iff .default rfl (by decide +kernel)
    (fun response : LlmResponse ↦ .ok response)
    fun _ ↦ .reply (.failure "a" "b" "c" "d")).mpr ⟨_, _, rfl, rfl⟩⟩

/-- The private provider times out, and the request goes to the fallback. -/
theorem private_request_leaks :
    ¬∀ provider ∈ (tryProviders (fun response : LlmResponse ↦ .ok response)
        ((getProvidersToTry ⟨0, 1, 10, some "medical", "best-first", []⟩ (.intelligent .default)).map
          fun provider ↦ (provider, .timedOut)) none).sent,
      provider = .ollama := by
  decide +kernel

/-! ## What providers reply -/

/-- How responses are written and read. -/
structure ResponseCodec (Bytes : Type) where
  fromSlice : Bytes → Except String LlmResponse
  toVec : LlmResponse → Bytes
  read_back : ∀ response, fromSlice (toVec response) = .ok response

def ResponseCodec.structural : ResponseCodec (Option LlmResponse) where
  fromSlice bytes := bytes.elim (.error "expected value") .ok
  toVec := some
  read_back _ := rfl

/-- What becomes of a request at a provider: its handler succeeds or fails, the reply cannot be read,
or there is none. -/
inductive HandlerOutcome (codec : ResponseCodec Bytes)
  | success (response : LlmResponse)
  | apiError (error model : String)
  | malformed (bytes : Bytes) (error : String) (unread : codec.fromSlice bytes = .error error)
  | timedOut
  | noSubscriber (error : String)

/-- The reply of a provider whose handler failed. -/
def providerError (provider : Provider) (error model : String) : LlmResponse :=
  .failure "unknown" ("LLM provider error: " ++ error) model provider.name

/-- A request to a provider, and what becomes of it. -/
structure ProviderAttempt (codec : ResponseCodec Bytes) where
  provider : Provider
  outcome : HandlerOutcome codec

namespace ProviderAttempt

variable {codec : ResponseCodec Bytes}

def reply (attempt : ProviderAttempt codec) : ProviderReply Bytes :=
  match attempt.outcome with
  | .success response => .reply (codec.toVec response)
  | .apiError error model => .reply (codec.toVec (providerError attempt.provider error model))
  | .malformed bytes _ _ => .reply bytes
  | .timedOut => .timedOut
  | .noSubscriber error => .failed error

/-- The successful answer of the provider. -/
def answer (attempt : ProviderAttempt codec) : Option LlmResponse :=
  match attempt.outcome with
  | .success response => if response.finishReason ≠ "error" then some response else none
  | _ => none

/-- The provider reports a failure in a response that can be read. -/
def reportsFailure (attempt : ProviderAttempt codec) : Bool :=
  match attempt.outcome with
  | .success response => response.finishReason = "error"
  | .apiError _ _ => true
  | _ => false

theorem finishReason_of_answer {attempt : ProviderAttempt codec} {response : LlmResponse}
    (h : attempt.answer = some response) : response.finishReason ≠ "error" := by
  unfold answer at h
  split at h
  · split_ifs at h with hreason
    cases h
    exact hreason
  · cases h

/-- How the router reads the reply of a provider. -/
inductive Read (attempt : ProviderAttempt codec) : Prop
  | answered {response : LlmResponse} (answer : attempt.answer = some response)
      (read : attempt.reply.read codec.fromSlice attempt.provider = .ok response)
  | reported {response : LlmResponse} (answer : attempt.answer = none)
      (reports : attempt.reportsFailure = true)
      (read : attempt.reply.read codec.fromSlice attempt.provider = .ok response)
      (reason : response.finishReason = "error")
  | unread {error : String} (answer : attempt.answer = none) (reports : attempt.reportsFailure = false)
      (read : attempt.reply.read codec.fromSlice attempt.provider = .error error)

theorem read_cases (attempt : ProviderAttempt codec) : attempt.Read := by
  obtain ⟨provider, outcome⟩ := attempt
  cases outcome with
  | success response =>
    have hread : (ProviderReply.reply (codec.toVec response)).read codec.fromSlice provider =
        .ok response := ProviderReply.read_eq_ok_iff.mpr ⟨_, rfl, codec.read_back response⟩
    by_cases hreason : response.finishReason = "error"
    · exact .reported (if_neg (not_not.mpr hreason)) (decide_eq_true hreason) hread hreason
    · exact .answered (if_pos hreason) hread
  | apiError error model =>
    have hread : (ProviderReply.reply (codec.toVec (providerError provider error model))).read
        codec.fromSlice provider = .ok (providerError provider error model) :=
      ProviderReply.read_eq_ok_iff.mpr ⟨_, rfl, codec.read_back _⟩
    exact .reported rfl rfl hread rfl
  | malformed bytes error hunread =>
    have hread : (ProviderReply.reply bytes).read codec.fromSlice provider =
        .error ("Provider " ++ provider.name ++ " failed to parse response: " ++ error) := by
      rw [ProviderReply.read, hunread]
    exact .unread rfl rfl hread
  | timedOut | noSubscriber error => exact .unread rfl rfl rfl

end ProviderAttempt

section Fallback

variable {codec : ResponseCodec Bytes}

/-- The response the router publishes for its attempts. -/
def routed (agentId : String) (attempts : List (ProviderAttempt codec)) (lastError : Option String) :
    LlmResponse :=
  (tryProviders codec.fromSlice (attempts.map fun attempt ↦ (attempt.provider, attempt.reply))
    lastError).published agentId

/-- The first successful answer is published, and an error if there is none. -/
structure FallsBack (attempts : List (ProviderAttempt codec)) (published : LlmResponse) : Prop where
  answered : ∀ response ∈ attempts.findSome? (·.answer), published = response
  failed : attempts.findSome? (·.answer) = none → published.finishReason = "error"

/-- No provider before the first success reports a failure of its own. -/
def SilentFailures (attempts : List (ProviderAttempt codec)) : Prop :=
  (attempts.findSome? (·.answer)).isSome →
    ∀ attempt ∈ attempts.takeWhile fun attempt ↦ attempt.answer.isNone, attempt.reportsFailure = false

variable {attempt : ProviderAttempt codec} {response : LlmResponse}

theorem routed_of_read (h : attempt.reply.read codec.fromSlice attempt.provider = .ok response)
    (agentId : String) (rest : List (ProviderAttempt codec)) (lastError : Option String) :
    routed agentId (attempt :: rest) lastError = response := by
  rw [routed, List.map_cons, tryProviders, h]
  rfl

theorem routed_of_unread {error : String}
    (h : attempt.reply.read codec.fromSlice attempt.provider = .error error) (agentId : String)
    (rest : List (ProviderAttempt codec)) (lastError : Option String) :
    routed agentId (attempt :: rest) lastError = routed agentId rest (some error) := by
  rw [routed, List.map_cons, tryProviders, h]
  rfl

theorem finishReason_of_findSome {attempts : List (ProviderAttempt codec)}
    (h : attempts.findSome? (·.answer) = some response) : response.finishReason ≠ "error" := by
  obtain ⟨attempt, -, hanswer⟩ := List.exists_of_findSome?_eq_some h
  exact ProviderAttempt.finishReason_of_answer hanswer

/-- The router falls back to the first provider that answers exactly if none before it reports its
failure. -/
theorem fallsBack_iff (agentId : String) (attempts : List (ProviderAttempt codec))
    (lastError : Option String) :
    FallsBack attempts (routed agentId attempts lastError) ↔ SilentFailures attempts := by
  induction attempts generalizing lastError with
  | nil =>
    constructor
    · intro _ h
      cases h
    · intro _
      exact ⟨fun _ h ↦ absurd h (Option.not_mem_none _), fun _ ↦ rfl⟩
  | cons attempt rest ih =>
    rcases attempt.read_cases with ⟨hanswer, hread⟩ | ⟨hanswer, hreports, hread, hreason⟩ |
      ⟨hanswer, hreports, hread⟩
    · -- the first provider answers
      rw [routed_of_read hread]
      have hfirst : (attempt :: rest).findSome? (·.answer) = attempt.answer := by
        rw [List.findSome?_cons, hanswer]
      constructor
      · intro _ _ other hother
        rw [List.takeWhile_cons, hanswer] at hother
        cases hother
      · intro _
        constructor
        · intro response hresponse
          rw [hfirst, hanswer] at hresponse
          exact Option.some.inj hresponse
        · intro hnone
          rw [hfirst, hanswer] at hnone
          cases hnone
    · -- it reports a failure, which is published whoever would answer after it
      rw [routed_of_read hread]
      have hlater : (attempt :: rest).findSome? (·.answer) = rest.findSome? (·.answer) := by
        rw [List.findSome?_cons, hanswer]
      constructor
      · intro hfalls hsome
        obtain ⟨response, hresponse⟩ := Option.isSome_iff_exists.mp hsome
        have hpublished := hfalls.answered response hresponse
        exact absurd (hpublished ▸ hreason) (finishReason_of_findSome hresponse)
      · intro hsilent
        constructor
        · intro response hresponse
          have hmem : attempt ∈ (attempt :: rest).takeWhile fun attempt ↦ attempt.answer.isNone := by
            rw [List.takeWhile_cons, hanswer]
            exact List.mem_cons_self
          have hquiet := hsilent (Option.isSome_iff_exists.mpr ⟨response, hresponse⟩) attempt hmem
          rw [hreports] at hquiet
          cases hquiet
        · exact fun _ ↦ hreason
    · -- its reply is not read, and the others are tried
      rw [routed_of_unread hread]
      have hlater : (attempt :: rest).findSome? (·.answer) = rest.findSome? (·.answer) := by
        rw [List.findSome?_cons, hanswer]
      have hbefore : ((attempt :: rest).takeWhile fun attempt ↦ attempt.answer.isNone) =
          attempt :: rest.takeWhile fun attempt ↦ attempt.answer.isNone := by
        rw [List.takeWhile_cons, hanswer]
        rfl
      have hsame : ∀ published, FallsBack (attempt :: rest) published ↔ FallsBack rest published := by
        intro published
        constructor
        · intro h
          exact ⟨fun response hmem ↦ h.answered response (hlater ▸ hmem),
            fun hnone ↦ h.failed (hlater.trans hnone)⟩
        · intro h
          exact ⟨fun response hmem ↦ h.answered response (hlater ▸ hmem),
            fun hnone ↦ h.failed (hlater.symm.trans hnone)⟩
      rw [hsame, ih, SilentFailures, SilentFailures, hlater, hbefore, List.forall_mem_cons,
        and_iff_right hreports]

end Fallback

/-- A provider that fails, before one that answers. -/
def failingAttempts : List (ProviderAttempt ResponseCodec.structural) :=
  [⟨.google, .apiError "quota exceeded" "gemini"⟩,
    ⟨.ollama, .success ⟨"a", some "hi", none, "llama", "ollama", .zero, 1, "stop", 0⟩⟩]

/-- The failure of the first provider is published as the response. -/
theorem failure_published :
    (routed "a" failingAttempts none).content = some "LLM provider error: quota exceeded" ∧
      ¬FallsBack failingAttempts (routed "a" failingAttempts none) := by
  refine ⟨by decide +kernel, fun hfalls ↦ ?_⟩
  have hanswered := hfalls.answered _ rfl
  exact absurd (congrArg LlmResponse.content hanswered) (by decide +kernel)

end Seidrum.Plugins
