import Seidrum.EventBus.Transport.Registration

/-!
# Recreation against creation

An entry that start-up turns into a live registration has passed the checks of its recreation path.
The endpoint of its kind, asked for the same registration under the same policy, makes the same
checks for interceptors, and for webhook subscriptions it makes one more: the pattern of a remote
caller.
-/

namespace Seidrum.EventBus

namespace AppState

/-- Nothing but the registration itself makes a creation fail: the caller may register, the rate
limit is not reached, and the store takes the entry. -/
structure Ready (input : RegistrationInput) (state : AppState) : Prop where
  authorized : state.authIsOpen = true → state.devMode = true
  belowRate : state.registrationRate.1 = input.nowMs / 1000 / webhookRegistrationRateWindowSecs →
    state.registrationRate.2 < webhookRegistrationRateLimit
  saved : input.saveError = none

/-- The same subscription, interceptor and forwarder are live in both states. -/
structure SameRegistrations (a b : AppState) : Prop where
  bus : a.bus = b.bus
  interceptors : a.interceptors = b.interceptors
  deliveryTasks : a.deliveryTasks = b.deliveryTasks

theorem SameRegistrations.trans {a b c : AppState} (h : SameRegistrations a b) (h' : SameRegistrations b c) :
    SameRegistrations a c :=
  ⟨h.bus.trans h'.bus, h.interceptors.trans h'.interceptors, h.deliveryTasks.trans h'.deliveryTasks⟩

variable {input : RegistrationInput} {state live : AppState} {env : UrlEnv} {pattern busId : String}
  {policy : WebhookUrlPolicy}

theorem admission_of_ready (hready : state.Ready input) (opName patternCode : String) {url : String}
    (hpattern : validateRemotePattern pattern = .ok ())
    (hurl : validateWebhookUrlWithPolicy env url state.webhookUrlPolicy = .ok ()) :
    ∃ rate, state.admission env opName patternCode pattern url (input.nowMs / 1000) =
      (.ok (), { state with registrationRate := rate }) := by
  have hauth : state.refuseIfUnauthStateChanging opName = .ok () := by
    unfold refuseIfUnauthStateChanging
    rw [if_neg]
    rintro ⟨hopen, hmode⟩
    exact hmode (hready.authorized hopen)
  have hrate : ∃ rate, state.checkRegistrationRateLimit (input.nowMs / 1000) =
      .ok { state with registrationRate := rate } := by
    unfold checkRegistrationRateLimit
    by_cases hwindow : state.registrationRate.1 =
        input.nowMs / 1000 / webhookRegistrationRateWindowSecs
    · have hbelow := hready.belowRate hwindow
      exact ⟨_, by rw [if_neg (not_not.mpr hwindow), if_neg (by omega)]⟩
    · exact ⟨_, by rw [if_pos hwindow]⟩
  obtain ⟨rate, hrate⟩ := hrate
  exact ⟨rate, by simp only [admission, hauth, hrate, hpattern, hurl]⟩

/-- A pattern that a remote caller may not use is not admitted. -/
theorem admission_of_invalid_pattern (opName patternCode : String) (url : String) (nowSecs : ℕ)
    (h : validateRemotePattern pattern ≠ .ok ()) :
    ∃ error counted,
      state.admission env opName patternCode pattern url nowSecs = (.error error, counted) := by
  unfold admission
  cases state.refuseIfUnauthStateChanging opName with
  | error error => exact ⟨_, _, rfl⟩
  | ok _ =>
    cases state.checkRegistrationRateLimit nowSecs with
    | error error => exact ⟨_, _, rfl⟩
    | ok counted =>
      cases hpattern : validateRemotePattern pattern with
      | error error => exact ⟨_, _, rfl⟩
      | ok _ => exact absurd hpattern h

theorem subscribeWebhook_rate (id pattern url : String) (headers : List (String × String))
    (priority : ℕ) (rate : ℕ × ℕ) (state : AppState) :
    { state with registrationRate := rate }.subscribeWebhook id pattern url headers priority =
      (state.subscribeWebhook id pattern url headers priority).map
        ({ · with registrationRate := rate }) := by
  unfold subscribeWebhook
  cases state.bus.subscribe (System.webhookEntry id pattern url priority) <;> rfl

theorem interceptWebhook_rate (id pattern url : String) (headers : List (String × String))
    (priority : ℕ) (timeoutMs : Option ℕ) (policy : WebhookUrlPolicy) (rate : ℕ × ℕ)
    (state : AppState) :
    { state with registrationRate := rate }.interceptWebhook id pattern url headers priority
        timeoutMs policy =
      (state.interceptWebhook id pattern url headers priority timeoutMs policy).map
        ({ · with registrationRate := rate }) := by
  unfold interceptWebhook
  dsimp only
  cases state.bus.intercept id pattern (clampRemoteInterceptorPriority priority)
    (clampRemoteInterceptorTimeout timeoutMs) <;> rfl

/-- A store that takes the entry leaves the registration live. -/
theorem persist_of_saved (hsaved : input.saveError = none) (entry : PersistedSubscription)
    (what : String) (live undone : AppState) :
    ∃ next, persist input entry what live undone = (.ok input.busId, next) ∧
      SameRegistrations next live := by
  unfold persist
  cases live.store with
  | none => exact ⟨_, rfl, rfl, rfl, rfl⟩
  | some entries =>
    simp only [hsaved]
    exact ⟨_, rfl, rfl, rfl, rfl⟩

variable {entry : PersistedSubscription}

theorem url_of_recreated
    (h : (state.recreatePersistedSubscription env policy busId entry).1 = .recreated) :
    validateWebhookUrlWithPolicy env entry.url policy = .ok () := by
  unfold recreatePersistedSubscription at h
  cases hurl : validateWebhookUrlWithPolicy env entry.url policy with
  | error error => simp [hurl] at h
  | ok _ => rfl

theorem RecreateOutcome.ofError_ne_recreated (error : EventBusError) :
    RecreateOutcome.ofError error ≠ .recreated := by
  cases error <;> simp [RecreateOutcome.ofError]

/-- A recreated webhook subscription: there was room, and the bus took the subscription. -/
theorem asyncWebhook_of_recreated
    (h : (state.recreatePersistedAsyncWebhook busId entry).1 = .recreated) :
    state.subscriptionCount < maxHttpSubscriptions ∧
      ∃ live, state.subscribeWebhook busId entry.pattern entry.url entry.headers entry.priority =
          .ok live ∧
        SameRegistrations live (state.recreatePersistedAsyncWebhook busId entry).2 := by
  unfold recreatePersistedAsyncWebhook at h ⊢
  split_ifs at h ⊢ with hfull
  cases hlive : state.subscribeWebhook busId entry.pattern entry.url entry.headers
      entry.priority with
  | error error =>
    simp only [hlive] at h
    exact absurd h (RecreateOutcome.ofError_ne_recreated error)
  | ok live => exact ⟨not_le.mp hfull, live, rfl, rfl, rfl, rfl⟩

/-- A recreated interceptor: its pattern is one of a remote caller, there was room, and the bus took
the interceptor. -/
theorem syncInterceptor_of_recreated
    (h : (state.recreatePersistedSyncInterceptor policy busId entry).1 = .recreated) :
    validateRemotePattern entry.pattern = .ok () ∧ state.interceptorCount < maxHttpInterceptors ∧
      ∃ live, state.interceptWebhook busId entry.pattern entry.url entry.headers entry.priority
          entry.timeoutMs policy = .ok live ∧
        SameRegistrations live (state.recreatePersistedSyncInterceptor policy busId entry).2 := by
  unfold recreatePersistedSyncInterceptor at h ⊢
  cases hpattern : validateRemotePattern entry.pattern with
  | error error => simp [hpattern] at h
  | ok _ =>
    simp only [hpattern] at h ⊢
    split_ifs at h ⊢ with hfull
    cases hlive : state.interceptWebhook busId entry.pattern entry.url entry.headers
        entry.priority entry.timeoutMs policy with
    | error error =>
      simp only [hlive] at h
      exact absurd h (RecreateOutcome.ofError_ne_recreated error)
    | ok live => exact ⟨trivial, not_le.mp hfull, live, rfl, rfl, rfl, rfl⟩

section

variable (hready : state.Ready input) (hpattern : validateRemotePattern entry.pattern = .ok ())
  (hurl : validateWebhookUrlWithPolicy env entry.url state.webhookUrlPolicy = .ok ())
include hready hpattern hurl

/-- `POST /subscribe` makes the same registration when the pattern is one of a remote caller. -/
theorem createSubscription_of_ready (hroom : state.subscriptionCount < maxHttpSubscriptions)
    (hlive : state.subscribeWebhook input.busId entry.pattern entry.url entry.headers
      entry.priority = .ok live) :
    ∃ next, state.createSubscription env input
        ⟨entry.pattern, entry.url, entry.headers, entry.priority⟩ = (.ok input.busId, next) ∧
      SameRegistrations next live := by
  obtain ⟨rate, hadmit⟩ := admission_of_ready hready "POST /subscribe" "INVALID_SUBSCRIBE_PATTERN"
    hpattern hurl
  simp only [createSubscription, hadmit, subscribeWebhook_rate, hlive, Except.map]
  rw [if_neg (not_le.mpr hroom)]
  obtain ⟨next, hnext, hsame⟩ := persist_of_saved hready.saved
    { persistedId := input.persistedId, pattern := entry.pattern, url := entry.url,
      headers := entry.headers, priority := entry.priority, createdAt := input.nowMs,
      kind := .asyncWebhook, timeoutMs := none }
    "subscription" { live with registrationRate := rate }
    { state with registrationRate := rate, bus := live.bus.unsubscribe input.busId }
  exact ⟨next, hnext, hsame.bus, hsame.interceptors, hsame.deliveryTasks⟩

theorem createInterceptor_of_ready (hroom : state.interceptorCount < maxHttpInterceptors)
    (hlive : state.interceptWebhook input.busId entry.pattern entry.url entry.headers
      entry.priority entry.timeoutMs state.webhookUrlPolicy = .ok live) :
    ∃ next, state.createInterceptor env input
        ⟨entry.pattern, entry.url, entry.headers, entry.priority, entry.timeoutMs⟩ =
          (.ok input.busId, next) ∧
      SameRegistrations next live := by
  obtain ⟨rate, hadmit⟩ := admission_of_ready hready "POST /interceptors"
    "INVALID_INTERCEPTOR_PATTERN" hpattern hurl
  simp only [createInterceptor, hadmit, interceptWebhook_rate, hlive, Except.map]
  rw [if_neg (not_le.mpr hroom)]
  obtain ⟨next, hnext, hsame⟩ := persist_of_saved hready.saved
    { persistedId := input.persistedId, pattern := entry.pattern, url := entry.url,
      headers := entry.headers, priority := clampRemoteInterceptorPriority entry.priority,
      createdAt := input.nowMs, kind := .syncInterceptor,
      timeoutMs := clampRemoteInterceptorTimeout entry.timeoutMs }
    "interceptor" { live with registrationRate := rate }
    { state with registrationRate := rate, bus := live.bus.unsubscribe input.busId }
  exact ⟨next, hnext, hsame.bus, hsame.interceptors, hsame.deliveryTasks⟩

end

theorem createSubscription_of_invalid_pattern {req : SubscribeRequest}
    (h : validateRemotePattern req.pattern ≠ .ok ()) (next : AppState) :
    state.createSubscription env input req ≠ (.ok input.busId, next) := by
  obtain ⟨error, counted, hadmitted⟩ : ∃ error counted, state.admission env "POST /subscribe"
      "INVALID_SUBSCRIBE_PATTERN" req.pattern req.url (input.nowMs / 1000) =
        (.error error, counted) :=
    admission_of_invalid_pattern "POST /subscribe" "INVALID_SUBSCRIBE_PATTERN" req.url
      (input.nowMs / 1000) h
  simp [createSubscription, hadmitted]

/-- The endpoint of a recreated entry makes the same registration, under the same policy, exactly
when the entry is an interceptor or its pattern is one of a remote caller. -/
theorem recreated_iff_created (env : UrlEnv) (input : RegistrationInput)
    (entry : PersistedSubscription) (state : AppState)
    (hrecreated : (state.recreatePersistedSubscription env state.webhookUrlPolicy input.busId
      entry).1 = .recreated)
    (hready : state.Ready input) :
    (∃ next, state.createLike env input entry = (.ok input.busId, next) ∧
        SameRegistrations next
          (state.recreatePersistedSubscription env state.webhookUrlPolicy input.busId entry).2) ↔
      entry.kind = .syncInterceptor ∨ validateRemotePattern entry.pattern = .ok () := by
  have hurl := url_of_recreated hrecreated
  unfold createLike
  simp only [recreatePersistedSubscription, hurl] at hrecreated ⊢
  cases hkind : entry.kind with
  | asyncWebhook =>
    simp only [hkind] at hrecreated ⊢
    obtain ⟨hroom, live, hlive, hsame⟩ := asyncWebhook_of_recreated hrecreated
    constructor
    · rintro ⟨next, hnext, _⟩
      by_contra hinvalid
      have hpattern : validateRemotePattern entry.pattern ≠ .ok () := fun h ↦ hinvalid (.inr h)
      exact createSubscription_of_invalid_pattern hpattern next hnext
    · rintro (hsync | hpattern)
      · cases hsync
      · obtain ⟨next, hnext, hnextSame⟩ :=
          createSubscription_of_ready hready hpattern hurl hroom hlive
        exact ⟨next, hnext, hnextSame.trans hsame⟩
  | syncInterceptor =>
    simp only [hkind] at hrecreated ⊢
    obtain ⟨hpattern, hroom, live, hlive, hsame⟩ := syncInterceptor_of_recreated hrecreated
    obtain ⟨next, hnext, hnextSame⟩ :=
      createInterceptor_of_ready hready hpattern hurl hroom hlive
    exact ⟨fun _ ↦ .inl trivial, fun _ ↦ ⟨next, hnext, hnextSame.trans hsame⟩⟩

/-- Every URL is read as `https` on a host with the public address `1.1.1.1`. -/
def everyHostPublic : UrlEnv where
  parse _ := .ok ⟨"https", some (.domain "example.com"), some "example.com", some 443⟩
  resolve _ _ := .ok [.v4 ⟨1, 1, 1, 1⟩]
  resolveAgain _ _ := .ok [.v4 ⟨1, 1, 1, 1⟩]

/-- A persisted entry that delivers to a webhook on such a host. -/
def persistedOn (kind : PersistedSubscriptionKind) (pattern : String) : PersistedSubscription where
  persistedId := "ws-0"
  pattern
  url := "https://example.com/hook"
  headers := []
  priority := 0
  createdAt := 0
  kind
  timeoutMs := none

/-- A server that has just started on an empty bus. -/
def justStarted : AppState :=
  .atStart (.onStore .empty 0) (some []) .strict false false

/-- A recreated interceptor on everything below `a` could be created again. -/
theorem recreated_iff_created_interceptor :
    ∃ next, justStarted.createLike everyHostPublic ⟨"b", "ws-1", 0, none⟩
        (persistedOn .syncInterceptor "a.>") = (.ok "b", next) ∧
      SameRegistrations next (justStarted.recreatePersistedSubscription everyHostPublic .strict "b"
        (persistedOn .syncInterceptor "a.>")).2 :=
  (recreated_iff_created everyHostPublic ⟨"b", "ws-1", 0, none⟩
    (persistedOn .syncInterceptor "a.>") justStarted (by decide)
    ⟨by decide, by decide, rfl⟩).mpr (.inl rfl)

/-- A persisted webhook subscription on every reply is recreated, and refused by the endpoint. -/
theorem recreated_reply_webhook_refused :
    (justStarted.recreatePersistedSubscription everyHostPublic .strict "b"
        (persistedOn .asyncWebhook "_reply.>")).1 = .recreated ∧
      (justStarted.createLike everyHostPublic ⟨"b", "ws-1", 0, none⟩
        (persistedOn .asyncWebhook "_reply.>")).1 =
          .error ⟨400, (RemotePatternError.reserved "_reply.>").message,
            some "INVALID_SUBSCRIBE_PATTERN"⟩ := by
  decide

end AppState

end Seidrum.EventBus
