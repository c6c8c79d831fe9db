import Seidrum.EventBus.Delivery.WebhookChannel
import Seidrum.EventBus.Transport.Recreation

/-!
# Runs of the circuit breaker

A half-open circuit has one probe in flight, its cooldown is doubled by failed probes only, and a
delivery it refuses uses up no attempt, in every interleaving in which no delivery is admitted as a
probe beside another one, only the probe reports a failure to a circuit that is not closed, and no
delivery is retried while the circuit refuses it.  The channel itself keeps to none of the three.
-/

namespace Seidrum.EventBus

open Seidrum.Foundation

/-! ## How far a call has come -/

inductive CallPhase
  | idle
  /-- admitted by the circuit of a URL, in a mode -/
  | flying (url : String) (mode : CircuitMode)
  | refused
  /-- the circuit was told how the delivery ended -/
  | landed
  deriving DecidableEq, Repr

namespace CallPhase

def isFlying : CallPhase → Bool
  | flying .. => true
  | _ => false

/-- The operations of each phase; only the retry task records an outcome. -/
def Allows (retry : Bool) : CallPhase → WebhookOp → Prop
  | idle, .ensureCircuitAllowsDelivery _ => True
  | idle, .retryTarget _ => True
  | idle, .retryToSubscriber .. => True
  | flying url _, .validateWebhookUrlResolved other => other = url
  | flying .., .buildPinnedClient _ => True
  | flying url _, .send request => request.url = url
  | flying url _, .recordSuccess other => other = url
  | flying url _, .recordFailure other => other = url
  | phase, .recordDelivery .. => retry = true ∧ phase.isFlying = false
  | phase, .get _ => phase.isFlying = false
  | phase, .updateStatus .. => phase.isFlying = false
  | _, _ => False

/-- The phase after an operation. -/
def next : CallPhase → (op : WebhookOp) → WebhookAnswer op → CallPhase
  | idle, .ensureCircuitAllowsDelivery url, .ok mode => flying url mode
  | idle, .ensureCircuitAllowsDelivery _, .error _ => refused
  | flying .., .recordSuccess _, _ => landed
  | flying .., .recordFailure _, _ => landed
  | phase, _, _ => phase

def protocol (retry : Bool) : Protocol WebhookAnswer CallPhase where
  allowed := Allows retry
  after := next

section Follows

variable {retry : Bool} {url : String} {mode : CircuitMode}

/-- A delivery ends when it has told the circuit, or was not admitted. -/
abbrev Ends {α : Type} (phase : CallPhase) (_ : α) : Prop := phase.isFlying = false

theorem follows_fail (error : DeliveryError) :
    (WebhookChannel.fail url error).Follows (protocol retry) Ends (flying url mode) :=
  ⟨rfl, fun _ ↦ rfl⟩

theorem follows_deliver (payload : Payload) (subject : String) (channel : ChannelConfig) :
    (WebhookChannel.deliver payload subject channel).Follows (protocol retry) Ends idle := by
  cases channel with
  | webhook url =>
    refine ⟨trivial, fun admitted ↦ ?_⟩
    cases admitted with
    | error error => exact rfl
    | ok mode =>
    refine ⟨rfl, fun validated ↦ ?_⟩
    cases validated with
    | error failure => exact follows_fail failure.error
    | ok validated =>
    refine ⟨trivial, fun built ↦ ?_⟩
    cases built with
    | error reason => exact follows_fail _
    | ok _ =>
    refine ⟨rfl, fun answer ↦ ?_⟩
    cases answer with
    | error reason => exact follows_fail _
    | ok response =>
      simp only [Program.done_bind]
      split
      · exact ⟨rfl, fun _ ↦ rfl⟩
      · exact follows_fail _
  | inProcess | webSocket | custom channelType => exact rfl

variable {phase : CallPhase}

theorem allows_of_not_flying (h : phase.isFlying = false) :
    (∀ delivery outcome, phase.Allows true (.recordDelivery delivery outcome)) ∧
      (∀ seq, phase.Allows true (.get seq)) ∧
      ∀ seq status, phase.Allows true (.updateStatus seq status) := by
  cases phase with
  | flying => cases h
  | _ => exact ⟨fun _ _ ↦ ⟨rfl, rfl⟩, fun _ ↦ rfl, fun _ _ ↦ rfl⟩

theorem follows_finish (delivery : RetryableDelivery) (outcome : RetryOutcome) (h : phase.isFlying = false) :
    (RetryTask.finish delivery outcome).Follows (protocol true) (fun _ _ ↦ True) phase := by
  obtain ⟨hrecord, hget, hupdate⟩ := allows_of_not_flying h
  have hsame : (∀ report, phase.next (.recordDelivery delivery outcome) report = phase) ∧
      ∀ event, phase.next (.get delivery.seq) event = phase := by
    cases phase <;> exact ⟨fun _ ↦ rfl, fun _ ↦ rfl⟩
  refine ⟨hrecord delivery outcome, fun report ↦ ?_⟩
  rw [show (protocol true).after phase _ report = phase from hsame.1 report]
  simp only [Program.done_bind]
  split
  · trivial
  · refine ⟨hget delivery.seq, fun event ↦ ?_⟩
    rw [show (protocol true).after phase _ event = phase from hsame.2 event]
    cases event with
    | none => trivial
    | some event =>
      simp only [Program.done_bind]
      split
      · trivial
      · exact ⟨hupdate _ _, fun _ ↦ trivial⟩

theorem follows_retryToSubscriber (delivery : RetryableDelivery) :
    (RetryTask.retryToSubscriber delivery).Follows (protocol true) Ends idle := by
  refine ⟨trivial, fun target ↦ ?_⟩
  cases target with
  | none => exact rfl
  | some target =>
    simp only [Program.done_bind]
    split
    · exact Program.Follows.map (follows_deliver ..)
    · exact ⟨trivial, fun _ ↦ rfl⟩

/-- Whatever a call is answered, it keeps to the phases. -/
theorem follows_body (config : Config) (call : WebhookCall) :
    (call.body config).Follows (protocol call.isRetry) (fun _ _ ↦ True) idle := by
  cases call with
  | forward channel event =>
    exact Program.Follows.bind ((follows_deliver ..).mono fun _ _ _ ↦ trivial)
  | retry delivery =>
    simp only [WebhookCall.body, RetryTask.retryDelivery]
    split
    · exact follows_finish _ _ rfl
    · exact Program.Follows.bind
        ((follows_retryToSubscriber delivery).mono fun _ _ h ↦ follows_finish _ _ h)

end Follows

end CallPhase

section History

variable (url : String)

/-- A delivery to the URL is admitted as a probe. -/
def admitsProbe : Performed WebhookAnswer → Bool
  | ⟨_, .ensureCircuitAllowsDelivery other, .ok .halfOpen⟩ => other = url
  | _ => false

/-- The cooldown with which the circuit of the URL is opened. -/
def opens : Performed WebhookAnswer → Option ℕ
  | ⟨_, .recordFailure other, some cooldown⟩ => if other = url then some cooldown else none
  | _ => none

/-- A delivery to the URL succeeds. -/
def closes : Performed WebhookAnswer → Bool
  | ⟨_, .recordSuccess other, _⟩ => other = url
  | _ => false

/-- What happened since the circuit was last opened, if no delivery has succeeded since. -/
def sinceOpened (history : List (Performed WebhookAnswer)) :
    Option (List (Performed WebhookAnswer)) :=
  history.foldl (fun since event ↦
    if (opens url event).isSome then some []
    else if closes url event then none
    else since.map (· ++ [event])) none

end History

/-- A delivery is refused because the circuit is open. -/
def refuses : Performed WebhookAnswer → Bool
  | ⟨_, .ensureCircuitAllowsDelivery _, .error _⟩ => true
  | _ => false

def callsEndpoint : Performed WebhookAnswer → Bool
  | ⟨_, .send _, _⟩ => true
  | _ => false

/-- The outcome that is recorded uses up an attempt of its delivery. -/
def usesAttempt : Performed WebhookAnswer → Bool
  | ⟨_, .recordDelivery .., report⟩ => report.status.countsAttempt
  | _ => false

/-- The circuit is opened with its initial cooldown, or again, with a doubled one, by a probe that
was admitted after it was opened. -/
def DoubledByProbe (config : WebhookConfig) (url : String)
    (before : List (Performed WebhookAnswer)) (event : Performed WebhookAnswer) : Prop :=
  ∀ cooldown ∈ opens url event,
    match sinceOpened url before with
    | none => cooldown = config.circuit.initialCooldown
    | some since => ∃ admission ∈ since, admission.task = event.task ∧ admitsProbe url admission

/-- No attempt is used up by a delivery that was refused without a call of the endpoint. -/
def RefusedFree (before : List (Performed WebhookAnswer)) (event : Performed WebhookAnswer) : Prop :=
  usesAttempt event → ∀ refusal ∈ before, refusal.task = event.task → refuses refusal →
    ∃ call ∈ before, call.task = event.task ∧ callsEndpoint call

instance (before : List (Performed WebhookAnswer)) (event : Performed WebhookAnswer) :
    Decidable (RefusedFree before event) := by
  unfold RefusedFree
  infer_instance

/-- How far each call has come. -/
def callPhases (state : WebhookCalls) : ℕ → CallPhase :=
  state.locals (CallPhase.protocol true) .idle

/-- What a circuit breaker is for. -/
structure CircuitSound (config : WebhookConfig) (state : WebhookCalls) : Prop where
  oneProbe : ∀ url, (state.shared.circuits url).mode = .halfOpen → ∀ i j,
    callPhases state i = .flying url .halfOpen → callPhases state j = .flying url .halfOpen → i = j
  doubledByProbe : ∀ url, Throughout (DoubledByProbe config url) state.trace
  refusedFree : Throughout RefusedFree state.trace

/-- No second probe, no failure but the probe's while the circuit is not closed, no retry that the
circuit refuses. -/
def KeepsCircuitOrder (state : WebhookCalls) (i : ℕ) (call : WebhookCall) (env : WebhookEnv) :
    WebhookOp → Prop
  | .ensureCircuitAllowsDelivery url =>
      let now := (env.meanwhile state.shared.bus).clock
      ((state.shared.circuits url).Probes now →
        ∀ j < state.tasks.length, callPhases state j ≠ .flying url .halfOpen) ∧
      ((state.shared.circuits url).Refuses now → call.isRetry = false)
  | .recordFailure url =>
      (state.shared.circuits url).mode = .closed ∨
        (state.shared.circuits url).mode = .halfOpen ∧ callPhases state i = .flying url .halfOpen
  | _ => True

instance (state : WebhookCalls) (i : ℕ) (call : WebhookCall) (env : WebhookEnv) (op : WebhookOp) :
    Decidable (KeepsCircuitOrder state i call env op) := by
  unfold KeepsCircuitOrder
  split <;> infer_instance

def CircuitOrder (state : WebhookCalls) : Move WebhookCall WebhookEnv → Prop
  | .spawn _ => True
  | .run i env => ∀ task ∈ state.tasks[i]?, ∀ op ∈ task.program.next?,
      KeepsCircuitOrder state i task.input env op

instance (state : WebhookCalls) (move : Move WebhookCall WebhookEnv) :
    Decidable (CircuitOrder state move) := by
  cases move <;> unfold CircuitOrder <;> infer_instance

section SinceOpened

variable {url : String} {history : List (Performed WebhookAnswer)}
  {event : Performed WebhookAnswer}

theorem sinceOpened_concat :
    sinceOpened url (history ++ [event]) =
      if (opens url event).isSome then some []
      else if closes url event then none
      else (sinceOpened url history).map (· ++ [event]) := by
  rw [sinceOpened, List.foldl_concat, sinceOpened]

theorem sinceOpened_of_quiet (hopens : opens url event = none) (hcloses : closes url event = false) :
    sinceOpened url (history ++ [event]) = (sinceOpened url history).map (· ++ [event]) := by
  simp [sinceOpened_concat, hopens, hcloses]

end SinceOpened

/-- A circuit is what the history of its URL and the phases of the calls say. -/
structure CircuitLedger (config : WebhookConfig) (url : String) (circuit : CircuitState)
    (phase : ℕ → CallPhase) (history : List (Performed WebhookAnswer)) : Prop where
  oneProbe : ∀ i j, phase i = .flying url .halfOpen → phase j = .flying url .halfOpen → i = j
  closed : circuit.mode = .closed → sinceOpened url history = none
  initial : sinceOpened url history = none → circuit.cooldown = config.circuit.initialCooldown
  probe : circuit.mode = .halfOpen → ∀ i, phase i = .flying url .halfOpen →
    ∀ since ∈ sinceOpened url history,
      ∃ admission ∈ since, admission.task = i ∧ admitsProbe url admission

namespace CircuitLedger

variable {config : WebhookConfig} {url : String} {circuit after : CircuitState}
  {phase : ℕ → CallPhase} {history : List (Performed WebhookAnswer)} {i : ℕ} {p : CallPhase}
  {event : Performed WebhookAnswer}

theorem start (config : WebhookConfig) (url : String) :
    CircuitLedger config url (.new config.circuit) (fun _ ↦ .idle) [] where
  oneProbe _ _ h := by cases h
  closed _ := rfl
  initial _ := rfl
  probe h := by cases h

theorem probing_of_update (hp : p = .flying url .halfOpen → phase i = .flying url .halfOpen) {j : ℕ}
    (h : Function.update phase i p j = .flying url .halfOpen) : phase j = .flying url .halfOpen := by
  by_cases hji : j = i
  · subst hji
    rw [Function.update_self] at h
    exact hp h
  · rwa [Function.update_of_ne hji] at h

section

variable (h : CircuitLedger config url circuit phase history)
include h

/-- An operation that neither opens nor closes the circuit, and admits no probe. -/
theorem quiet (hmode : after.mode = circuit.mode) (hcooldown : after.cooldown = circuit.cooldown)
    (hopens : opens url event = none) (hcloses : closes url event = false)
    (hp : p = .flying url .halfOpen → phase i = .flying url .halfOpen) :
    CircuitLedger config url after (Function.update phase i p) (history ++ [event]) where
  oneProbe j k hj hk := h.oneProbe j k (probing_of_update hp hj) (probing_of_update hp hk)
  closed hclosed := by
    rw [sinceOpened_of_quiet hopens hcloses, h.closed (hmode ▸ hclosed)]
    rfl
  initial hnone := by
    rw [sinceOpened_of_quiet hopens hcloses] at hnone
    rw [hcooldown]
    exact h.initial (Option.map_eq_none_iff.mp hnone)
  probe hhalf j hj since hsince := by
    rw [sinceOpened_of_quiet hopens hcloses] at hsince
    obtain ⟨earlier, hearlier, rfl⟩ := Option.map_eq_some_iff.mp hsince
    obtain ⟨admission, hmem, hadmission⟩ :=
      h.probe (hmode ▸ hhalf) j (probing_of_update hp hj) earlier hearlier
    exact ⟨admission, List.mem_append_left _ hmem, hadmission⟩

/-- A call is admitted as the only probe. -/
theorem admitted (hfree : ∀ j, phase j ≠ .flying url .halfOpen) (hmode : after.mode = .halfOpen)
    (hcooldown : after.cooldown = circuit.cooldown)
    (hevent : event = ⟨i, .ensureCircuitAllowsDelivery url, .ok .halfOpen⟩) :
    CircuitLedger config url after (Function.update phase i (.flying url .halfOpen))
      (history ++ [event]) := by
  subst hevent
  have honly {j : ℕ} (hj : Function.update phase i (.flying url .halfOpen) j =
      .flying url .halfOpen) : j = i := by
    by_contra hji
    rw [Function.update_of_ne hji] at hj
    exact hfree j hj
  constructor
  · exact fun j k hj hk ↦ (honly hj).trans (honly hk).symm
  · intro hafter
    rw [hmode] at hafter
    cases hafter
  · intro hnone
    rw [sinceOpened_of_quiet rfl rfl] at hnone
    rw [hcooldown]
    exact h.initial (Option.map_eq_none_iff.mp hnone)
  · intro _ j hj since hsince
    obtain rfl := honly hj
    rw [sinceOpened_of_quiet rfl rfl] at hsince
    obtain ⟨earlier, -, rfl⟩ := Option.map_eq_some_iff.mp hsince
    exact ⟨_, List.mem_concat_self, rfl, decide_eq_true rfl⟩

/-- A delivery succeeds. -/
theorem succeed (hopens : opens url event = none) (hcloses : closes url event = true)
    (hp : p ≠ .flying url .halfOpen) :
    CircuitLedger config url (.new config.circuit) (Function.update phase i p)
      (history ++ [event]) where
  oneProbe j k hj hk := h.oneProbe j k (probing_of_update (absurd · hp) hj)
    (probing_of_update (absurd · hp) hk)
  closed _ := by simp [sinceOpened_concat, hopens, hcloses]
  initial _ := rfl
  probe hhalf := by cases hhalf

/-- A failure opens the circuit. -/
theorem reopen (hopens : (opens url event).isSome) (hmode : after.mode = .opened)
    (hp : p ≠ .flying url .halfOpen) :
    CircuitLedger config url after (Function.update phase i p) (history ++ [event]) where
  oneProbe j k hj hk := h.oneProbe j k (probing_of_update (absurd · hp) hj)
    (probing_of_update (absurd · hp) hk)
  closed hclosed := by
    rw [hmode] at hclosed
    cases hclosed
  initial hnone := by
    rw [sinceOpened_concat, if_pos hopens] at hnone
    cases hnone
  probe hhalf := by
    rw [hmode] at hhalf
    cases hhalf

end

end CircuitLedger

/-! ## All runs -/

variable {config : WebhookConfig} {url : String} {circuit : CircuitState} {phase : ℕ → CallPhase}
  {history : List (Performed WebhookAnswer)} {i : ℕ}

namespace CircuitLedger

/-- Admission by the circuit. -/
theorem ensure (h : CircuitLedger config url circuit phase history) {now : ℕ}
    (hfree : circuit.Probes now → ∀ j, phase j ≠ .flying url .halfOpen)
    (hidle : phase i = .idle) :
    CircuitLedger config url (circuit.ensureCircuitAllowsDelivery now).2
      (Function.update phase i
        ((phase i).next (.ensureCircuitAllowsDelivery url)
          (circuit.ensureCircuitAllowsDelivery now).1))
      (history ++ [⟨i, .ensureCircuitAllowsDelivery url,
        (circuit.ensureCircuitAllowsDelivery now).1⟩]) := by
  rw [hidle]
  cases hmode : circuit.mode with
  | closed =>
    simp only [CircuitState.ensureCircuitAllowsDelivery, hmode]
    exact h.quiet rfl rfl rfl rfl fun hp ↦ by cases hp
  | halfOpen =>
    have hprobes : circuit.Probes now := by simp [CircuitState.Probes, CircuitState.Refuses, hmode]
    simp only [CircuitState.ensureCircuitAllowsDelivery, hmode]
    exact h.admitted (hfree hprobes) hmode rfl rfl
  | opened =>
    by_cases hover : ∃ until_ ∈ circuit.openedUntil, until_ ≤ now
    · have hprobes : circuit.Probes now := by
        simp only [CircuitState.Probes, CircuitState.Refuses, hmode]
        exact ⟨by simp, fun hrefuses ↦ hrefuses.2 hover⟩
      simp only [CircuitState.ensureCircuitAllowsDelivery, hmode, if_pos hover]
      exact h.admitted (hfree hprobes) rfl rfl rfl
    · simp only [CircuitState.ensureCircuitAllowsDelivery, hmode, if_neg hover]
      exact h.quiet rfl rfl rfl rfl fun hp ↦ by cases hp

/-- A delivery that failed. -/
theorem failure (h : CircuitLedger config url circuit phase history) (now : ℕ)
    (hflying : (phase i).isFlying) :
    CircuitLedger config url (circuit.recordFailure config.circuit now).2
      (Function.update phase i
        ((phase i).next (.recordFailure url) (circuit.recordFailure config.circuit now).1))
      (history ++ [⟨i, .recordFailure url, (circuit.recordFailure config.circuit now).1⟩]) := by
  have hnext (opened : Option ℕ) : (phase i).next (.recordFailure url) opened = .landed := by
    cases hphase : phase i with
    | flying => rfl
    | _ =>
      rw [hphase] at hflying
      cases hflying
  rw [hnext]
  unfold CircuitState.recordFailure
  dsimp only
  split_ifs with hopens
  · exact h.reopen (by simp [opens]) rfl (by simp)
  · exact h.quiet rfl rfl rfl rfl fun hp ↦ by cases hp

/-- The circuit is opened with a doubled cooldown by its probe only. -/
theorem doubledByProbe (h : CircuitLedger config url circuit phase history) (now : ℕ)
    (horder : circuit.mode = .closed ∨ circuit.mode = .halfOpen ∧ phase i = .flying url .halfOpen) :
    DoubledByProbe config url history
      ⟨i, .recordFailure url, (circuit.recordFailure config.circuit now).1⟩ := by
  intro cooldown hopens
  have hcooldown : cooldown = circuit.cooldown := by
    unfold CircuitState.recordFailure at hopens
    dsimp only at hopens
    split_ifs at hopens with hcondition
    · simpa [opens, eq_comm] using hopens
    · cases hopens
  cases hsince : sinceOpened url history with
  | none => exact hcooldown.trans (h.initial hsince)
  | some since =>
    rcases horder with hclosed | ⟨hhalf, hprobe⟩
    · rw [h.closed hclosed] at hsince
      cases hsince
    · exact h.probe hhalf i hprobe since hsince

end CircuitLedger

/-- The URL whose circuit an operation is about. -/
def WebhookOp.circuitUrl : WebhookOp → Option String
  | ensureCircuitAllowsDelivery url | recordSuccess url | recordFailure url => some url
  | _ => none

section Other

variable {op : WebhookOp} (hop : op.circuitUrl ≠ some url) (answer : WebhookAnswer op)

include hop

theorem opens_of_other (i : ℕ) : opens url ⟨i, op, answer⟩ = none := by
  cases op with
  | recordFailure other =>
    have hne : other ≠ url := fun heq ↦ hop (congrArg some heq)
    cases answer with
    | none => rfl
    | some cooldown => exact if_neg hne
  | _ => rfl

theorem closes_of_other (i : ℕ) : closes url ⟨i, op, answer⟩ = false := by
  cases op with
  | recordSuccess other => exact decide_eq_false fun heq ↦ hop (congrArg some heq)
  | _ => rfl

theorem next_of_other {phase : CallPhase} (h : phase.next op answer = .flying url .halfOpen) :
    phase = .flying url .halfOpen := by
  cases phase with
  | idle =>
    cases op with
    | ensureCircuitAllowsDelivery other =>
      cases answer with
      | error error => cases h
      | ok mode =>
        obtain ⟨rfl, -⟩ := CallPhase.flying.inj h
        exact absurd rfl hop
    | _ => cases h
  | flying other mode => cases op <;> first | exact h | cases h
  | _ => cases h

theorem circuits_of_other (config : WebhookConfig) (state : WebhookState) (env : WebhookEnv) :
    (state.performNow config op env).2.circuits url = state.circuits url := by
  cases op with
  | ensureCircuitAllowsDelivery other | recordSuccess other | recordFailure other =>
    exact if_neg fun heq ↦ hop (congrArg some heq.symm)
  | validateWebhookUrlResolved other | buildPinnedClient validated =>
    simp only [WebhookState.performNow]; split <;> rfl
  | _ => rfl

end Other

variable {op : WebhookOp} {retry : Bool} {state : WebhookState} {env : WebhookEnv}

/-- A call that was refused has nothing more to do with circuits. -/
theorem CallPhase.next_eq_refused {phase : CallPhase} {answer : WebhookAnswer op} :
    phase.next op answer = .refused ↔
      phase = .refused ∨ phase = .idle ∧ refuses ⟨i, op, answer⟩ := by
  cases phase with
  | idle =>
    cases op with
    | ensureCircuitAllowsDelivery url => cases answer <;> simp [CallPhase.next, refuses]
    | _ => simp [CallPhase.next, refuses]
  | refused | landed => simp [CallPhase.next]
  | flying url mode => cases op <;> simp [CallPhase.next]

theorem CallPhase.eq_idle_of_allows {phase : CallPhase}
    (h : phase.Allows retry (.ensureCircuitAllowsDelivery url)) : phase = .idle := by
  cases phase <;> first | rfl | cases h

theorem CallPhase.flying_of_allows {phase : CallPhase} (h : phase.Allows retry (.recordFailure url)) :
    phase.isFlying := by
  cases phase <;> first | rfl | cases h

/-- What an operation does to a circuit keeps it what the history says. -/
theorem CircuitLedger.step (h : CircuitLedger config url (state.circuits url) phase history)
    (hallowed : (phase i).Allows retry op)
    (hfree : op = .ensureCircuitAllowsDelivery url → (state.circuits url).Probes state.bus.clock →
      ∀ j, phase j ≠ .flying url .halfOpen) :
    CircuitLedger config url ((state.performNow config op env).2.circuits url)
      (Function.update phase i ((phase i).next op (state.performNow config op env).1))
      (history ++ [⟨i, op, (state.performNow config op env).1⟩]) := by
  by_cases hop : op.circuitUrl = some url
  · cases op with
    | ensureCircuitAllowsDelivery other =>
      obtain rfl := Option.some.inj hop
      have hself : ((state.performNow config (.ensureCircuitAllowsDelivery other) env).2.circuits
          other) = ((state.circuits other).ensureCircuitAllowsDelivery state.bus.clock).2 :=
        if_pos rfl
      rw [hself]
      exact h.ensure (hfree rfl) (CallPhase.eq_idle_of_allows hallowed)
    | recordSuccess other =>
      obtain rfl := Option.some.inj hop
      have hself : ((state.performNow config (.recordSuccess other) env).2.circuits other) =
          .new config.circuit := if_pos rfl
      rw [hself]
      refine h.succeed rfl (decide_eq_true rfl) fun hnext ↦ ?_
      cases hphase : phase i with
      | flying url mode =>
        rw [hphase] at hnext
        cases hnext
      | _ =>
        rw [hphase] at hallowed
        cases hallowed
    | recordFailure other =>
      obtain rfl := Option.some.inj hop
      have hself : ((state.performNow config (.recordFailure other) env).2.circuits other) =
          ((state.circuits other).recordFailure config.circuit state.bus.clock).2 := if_pos rfl
      rw [hself]
      exact h.failure state.bus.clock (CallPhase.flying_of_allows hallowed)
    | _ => cases hop
  · exact h.quiet (by rw [circuits_of_other hop]) (by rw [circuits_of_other hop])
      (opens_of_other hop _ i) (closes_of_other hop _ i) (next_of_other hop _)

/-- What holds of every run that keeps the order. -/
structure CallsInvariant (config : WebhookConfig) (state : WebhookCalls) : Prop where
  ledger : ∀ url,
    CircuitLedger config url (state.shared.circuits url) (callPhases state) state.trace
  doubled : ∀ url, Throughout (DoubledByProbe config url) state.trace
  free : Throughout RefusedFree state.trace
  refused : ∀ refusal ∈ state.trace, refuses refusal → callPhases state refusal.task = .refused
  retried : ∀ (i : ℕ) task, state.tasks[i]? = some task → task.input.isRetry →
    callPhases state i ≠ .refused

theorem callPhases_answered (state : WebhookCalls) (i : ℕ) (call : WebhookCall) (op : WebhookOp)
    (next : WebhookAnswer op → Program WebhookAnswer Unit) (answer : WebhookAnswer op)
    (server : WebhookState) :
    callPhases (state.answered i call op next answer server) =
      Function.update (callPhases state) i ((callPhases state i).next op answer) :=
  Tasks.locals_answered (CallPhase.protocol true) .idle state i call op next answer server

/-- Only a circuit that refuses now answers with a refusal. -/
theorem refuses_of_answer (h : refuses ⟨i, op, (state.performNow config op env).1⟩) :
    ∃ url, op = .ensureCircuitAllowsDelivery url ∧ (state.circuits url).Refuses state.bus.clock := by
  cases op with
  | ensureCircuitAllowsDelivery url =>
    refine ⟨url, rfl, ?_⟩
    simp only [WebhookState.performNow, CircuitState.ensureCircuitAllowsDelivery] at h
    cases hmode : (state.circuits url).mode with
    | opened =>
      simp only [hmode] at h
      split_ifs at h with hover
      · cases h
      · exact ⟨hmode, hover⟩
    | closed | halfOpen =>
      simp only [hmode] at h
      cases h
  | _ => cases h

namespace CallsInvariant

variable {state : WebhookCalls} {call : WebhookCall} {op : WebhookOp}
  {next : WebhookAnswer op → Program WebhookAnswer Unit} {env : WebhookEnv}

theorem start (config : WebhookConfig) (bus : Bus) :
    CallsInvariant config (Tasks.init (.start config bus)) where
  ledger url := CircuitLedger.start config url
  doubled _ := throughout_nil
  free := throughout_nil
  refused _ hmem := absurd hmem List.not_mem_nil
  retried _ _ hat := by cases hat

theorem spawn (h : CallsInvariant config state) (hknown : state.Known) (call : WebhookCall) :
    CallsInvariant config (state.spawn (WebhookCall.body config.bus) call) where
  ledger := h.ledger
  doubled := h.doubled
  free := h.free
  refused := h.refused
  retried i task hat hretry := by
    rcases at_of_concat hat with hold | ⟨rfl, rfl⟩
    · exact h.retried i task hold hretry
    · have hidle : callPhases state state.tasks.length = .idle := by
        rw [callPhases, Tasks.locals, hknown.events_eq_nil (Nat.le_refl _)]
        rfl
      change callPhases state state.tasks.length ≠ .refused
      rw [hidle]
      simp

theorem answered (h : CallsInvariant config state) (hknown : state.Known)
    (hat : state.tasks[i]? = some ⟨call, .call op next⟩)
    (hguard : CircuitOrder state (.run i env))
    (hallowed : (callPhases state i).Allows call.isRetry op) {answer : WebhookAnswer op}
    {server : WebhookState} (hperform : state.shared.perform config op env = some (answer, server)) :
    CallsInvariant config (state.answered i call op next answer server) := by
  obtain ⟨rfl, rfl⟩ := WebhookState.perform_eq hperform
  have horder : KeepsCircuitOrder state i call env op := hguard _ hat op rfl
  have hidle (j : ℕ) (hj : state.tasks.length ≤ j) : callPhases state j = .idle := by
    rw [callPhases, Tasks.locals, hknown.events_eq_nil hj]
    rfl
  constructor
  · intro url
    rw [callPhases_answered]
    have hbefore : CircuitLedger config url ((state.shared.meanwhile env).circuits url)
        (callPhases state) state.trace := h.ledger url
    refine hbefore.step hallowed fun hop hprobes j ↦ ?_
    subst hop
    by_cases hj : j < state.tasks.length
    · exact horder.1 hprobes j hj
    · rw [hidle j (not_lt.mp hj)]
      simp
  · intro url
    refine throughout_concat.mpr ⟨h.doubled url, ?_⟩
    by_cases hop : op = .recordFailure url
    · subst hop
      exact (h.ledger url).doubledByProbe _ horder
    · intro cooldown hopens
      cases op with
      | recordFailure other =>
        have hne : WebhookOp.circuitUrl (.recordFailure other) ≠ some url :=
          fun heq ↦ hop (congrArg _ (Option.some.inj heq))
        rw [opens_of_other hne] at hopens
        cases hopens
      | _ => cases hopens
  · refine throughout_concat.mpr ⟨h.free, fun huses refusal hmem htask hrefuses ↦ ?_⟩
    have hrefused := h.refused refusal hmem hrefuses
    rw [htask] at hrefused
    cases op with
    | recordDelivery delivery outcome =>
      rw [show callPhases state i = .refused from hrefused] at hallowed
      exact absurd hrefused (h.retried i _ hat hallowed.1)
    | _ => cases huses
  · rw [callPhases_answered]
    intro refusal hmem hrefuses
    obtain hold | rfl := mem_of_concat hmem
    · have hrefused := h.refused refusal hold hrefuses
      by_cases htask : refusal.task = i
      · rw [htask, Function.update_self]
        exact (CallPhase.next_eq_refused (i := i)).mpr (.inl (htask ▸ hrefused))
      · rwa [Function.update_of_ne htask]
    · rw [Function.update_self]
      obtain ⟨url, rfl, -⟩ := refuses_of_answer hrefuses
      exact (CallPhase.next_eq_refused (i := i)).mpr
        (.inr ⟨CallPhase.eq_idle_of_allows hallowed, hrefuses⟩)
  · rw [callPhases_answered]
    intro j task hatj hretry
    rcases at_of_set hatj with ⟨rfl, rfl⟩ | ⟨hij, hold⟩
    · rw [Function.update_self]
      intro hrefused
      rcases (CallPhase.next_eq_refused (i := i)).mp hrefused with hbefore | ⟨-, hrefuses⟩
      · exact h.retried _ _ hat hretry hbefore
      · obtain ⟨url, rfl, hnow⟩ := refuses_of_answer hrefuses
        rw [horder.2 hnow] at hretry
        cases hretry
    · rw [Function.update_of_ne (Ne.symm hij)]
      exact h.retried j task hold hretry

end CallsInvariant

/-- In every interleaving that keeps the order, the circuits are sound. -/
theorem circuitSound_of_order (config : WebhookConfig) (bus : Bus) (state : WebhookCalls)
    (hreach : Steps.Reach (webhookCalls config) CircuitOrder (Tasks.init (.start config bus))
      state) :
    CircuitSound config state := by
  have hinv : CallsInvariant config state := by
    refine Tasks.invariant_of_follows (CallPhase.follows_body config.bus) hreach
      (CallsInvariant.start config bus) ?_ ?_
    · exact fun before call hfollowing h ↦ h.spawn hfollowing.known call
    · intro before i call op next env answer server hfollowing h hat hguard hallowed hperform
      exact h.answered hfollowing.known hat hguard hallowed hperform
  exact ⟨fun url _ i j ↦ (hinv.ledger url).oneProbe i j, hinv.doubled, hinv.free⟩

/-- The default breaker before a webhook that every policy accepts. -/
def defaultBreaker : WebhookConfig := ⟨.plain 5, .strict, .default⟩

def hookUrl : String := "https://example.com/hook"

/-- A webhook subscriber `s` whose queue was full when the first event was delivered to it. -/
def backlogged : Bus :=
  let event : StoredEvent :=
    { seq := 0, subject := "a.b", payload := [7], storedAt := 0, status := .dispatching,
      deliveries := [], replySubject := none }
  let appended := (InMemoryEventStore.empty.append 0 event).2
  let store := (appended.recordDelivery 0 1 "s" .failed (some "no available capacity") (some 0)).2
  ((Bus.onStore store 0).subscribe (System.webhookEntry "s" "a.b" hookUrl 0)).toOption.getD
    (.onStore store 0)

/-- The delivery that is due again. -/
def overdue : RetryableDelivery where
  seq := 1
  subject := "a.b"
  subscriberId := "s"
  attempts := 1
  payload := [7]
  replySubject := none
  nextRetry := some 0

/-- Nobody listens at the endpoint, and some time passes first. -/
def unreachable (elapsed : ℕ) : WebhookEnv where
  meanwhile bus := { bus with clock := bus.clock + elapsed }
  url := AppState.everyHostPublic
  panicked := none
  clientError := none
  response := .error "connection refused"
  delivery := .ok ()
  draw := 0
  storeOk := true

def hookCall : WebhookCall := .forward (.webhook hookUrl) ⟨[8], none, "a.b", 2⟩

/-- Three calls in a row fail, and the circuit opens. -/
def openCircuit : List (Move WebhookCall WebhookEnv) :=
  (List.range 3).flatMap fun i ↦ .spawn hookCall :: List.replicate 5 (.run i (unreachable 0))

/-- After the cooldown one probe fails, and the circuit opens for twice as long. -/
theorem circuitSound_of_failed_probe :
    ∃ state ∈ Steps.execute (webhookCalls defaultBreaker)
      (Tasks.init (.start defaultBreaker backlogged))
      (openCircuit ++ .spawn hookCall :: .run 3 (unreachable 30000) ::
        List.replicate 4 (.run 3 (unreachable 0))),
      CircuitSound defaultBreaker state := by
  obtain ⟨state, hstate, -⟩ : ∃ state ∈ Steps.execute (webhookCalls defaultBreaker)
      (Tasks.init (.start defaultBreaker backlogged))
      (openCircuit ++ .spawn hookCall :: .run 3 (unreachable 30000) ::
        List.replicate 4 (.run 3 (unreachable 0))),
      state.shared.circuits hookUrl = ⟨.opened, 4, 120000, some 90000⟩ := by
    decide +kernel
  exact ⟨state, hstate, circuitSound_of_order defaultBreaker backlogged state
    (Steps.reach_of_execute (by decide +kernel) hstate)⟩

/-- Two probes at once; a doubled cooldown after a failure of a call that was in flight when the
circuit opened; and a retry that is refused and still uses up an attempt. -/
theorem circuit_unsound_without_order :
    (∃ state, Steps.Reach (webhookCalls defaultBreaker) (fun _ _ ↦ True)
      (Tasks.init (.start defaultBreaker backlogged)) state ∧
      (state.shared.circuits hookUrl).mode = .halfOpen ∧
      ∀ i ∈ [3, 4], callPhases state i = .flying hookUrl .halfOpen ∧
        (state.tasks[i]?.bind (·.program.next?)) = some (.send ⟨hookUrl, "a.b", [8]⟩)) ∧
    (∃ state, Steps.Reach (webhookCalls defaultBreaker) (fun _ _ ↦ True)
      (Tasks.init (.start defaultBreaker backlogged)) state ∧
      ¬Throughout (DoubledByProbe defaultBreaker hookUrl) state.trace) ∧
    ∃ state, Steps.Reach (webhookCalls defaultBreaker) (fun _ _ ↦ True)
      (Tasks.init (.start defaultBreaker backlogged)) state ∧ ¬Throughout RefusedFree state.trace := by
  refine ⟨?_, ?_, ?_⟩
  · obtain ⟨state, hstate, hprobes⟩ : ∃ state ∈ Steps.execute (webhookCalls defaultBreaker)
        (Tasks.init (.start defaultBreaker backlogged))
        (openCircuit ++ .spawn hookCall :: .spawn hookCall :: .run 3 (unreachable 30000) ::
          (List.replicate 2 (.run 3 (unreachable 0)) ++ List.replicate 3 (.run 4 (unreachable 0)))),
        (state.shared.circuits hookUrl).mode = .halfOpen ∧
        ∀ i ∈ [3, 4], callPhases state i = .flying hookUrl .halfOpen ∧
          (state.tasks[i]?.bind (·.program.next?)) = some (.send ⟨hookUrl, "a.b", [8]⟩) := by
      decide +kernel
    exact ⟨state, Steps.reach_of_execute (Steps.guarded_of_forall (fun _ _ ↦ trivial) _ _) hstate,
      hprobes⟩
  · obtain ⟨state, hstate, event, hlast, hopens, since, hsince, hstale⟩ :
        ∃ state ∈ Steps.execute (webhookCalls defaultBreaker)
          (Tasks.init (.start defaultBreaker backlogged))
          (.spawn hookCall :: (List.replicate 4 (.run 0 (unreachable 0)) ++
            ((List.range 3).flatMap fun i ↦
              .spawn hookCall :: List.replicate 5 (.run (i + 1) (unreachable 0))) ++
            [.run 0 (unreachable 0)])),
          ∃ event ∈ state.trace.getLast?, opens hookUrl event = some 60000 ∧
            ∃ since ∈ sinceOpened hookUrl state.trace.dropLast, ∀ admission ∈ since,
              admitsProbe hookUrl admission = false := by
      decide +kernel
    refine ⟨state,
      Steps.reach_of_execute (Steps.guarded_of_forall (fun _ _ ↦ trivial) _ _) hstate,
      fun hdoubled ↦ ?_⟩
    have hprobe := hdoubled.last hlast _ hopens
    rw [hsince] at hprobe
    obtain ⟨admission, hmem, -, hadmits⟩ := hprobe
    rw [hstale admission hmem] at hadmits
    cases hadmits
  · obtain ⟨state, hstate, -, -, event, hlast, hfree⟩ :
        ∃ state ∈ Steps.execute (webhookCalls defaultBreaker)
          (Tasks.init (.start defaultBreaker backlogged))
          (openCircuit ++ .spawn (.retry overdue) :: List.replicate 3 (.run 3 (unreachable 0))),
          overdue ∈ backlogged.store.queryRetryable 0 5 256 ∧
          ((state.shared.bus.store.get 1).map fun event ↦ event.deliveries.map (·.attempts)) =
            some [2] ∧
          ∃ event ∈ state.trace.getLast?, ¬RefusedFree state.trace.dropLast event := by
      decide +kernel
    exact ⟨state, Steps.reach_of_execute (Steps.guarded_of_forall (fun _ _ ↦ trivial) _ _) hstate,
      fun hthroughout ↦ hfree (hthroughout.last hlast)⟩

/-- The cooldown of a circuit is within its bounds, and the circuit is closed exactly as long as fewer failures
than its threshold follow one another. -/
structure CircuitState.Bounded (config : WebhookCircuitBreakerConfig) (circuit : CircuitState) : Prop where
  low : config.initialCooldown ≤ circuit.cooldown
  high : circuit.cooldown ≤ config.maxCooldown
  saturated : circuit.consecutiveFailures ≤ u32Max
  closed : circuit.mode = .closed ↔ circuit.consecutiveFailures < config.failureThreshold
  opened : circuit.mode = .opened → circuit.openedUntil.isSome

section

variable {config : WebhookCircuitBreakerConfig} {circuit : CircuitState}

theorem CircuitState.Bounded.ensure (h : circuit.Bounded config) (now : ℕ) :
    (circuit.ensureCircuitAllowsDelivery now).2.Bounded config := by
  unfold ensureCircuitAllowsDelivery
  split
  · exact h
  · exact h
  · rename_i hopened
    split_ifs
    · have hreached : ¬circuit.consecutiveFailures < config.failureThreshold := by
        rw [← h.closed, hopened]
        exact CircuitMode.noConfusion
      exact { h with
        closed := iff_of_false CircuitMode.noConfusion hreached
        opened := nofun }
    · exact h

theorem CircuitState.Bounded.failure (h : circuit.Bounded config) (now : ℕ) :
    (circuit.recordFailure config now).2.Bounded config := by
  have hdoubled : config.initialCooldown ≤ circuit.cooldown * 2 :=
    h.low.trans (Nat.le_mul_of_pos_right _ (by decide))
  have hcounted : circuit.consecutiveFailures ≤ min (circuit.consecutiveFailures + 1) u32Max :=
    Nat.le_min.mpr ⟨Nat.le_succ _, h.saturated⟩
  unfold recordFailure
  dsimp only
  split_ifs with hopens
  · have hreached : config.failureThreshold ≤ min (circuit.consecutiveFailures + 1) u32Max := by
      refine hopens.elim (fun hhalf ↦ hcounted.trans' (Nat.not_lt.mp ?_)) id
      rw [← h.closed, hhalf]
      exact CircuitMode.noConfusion
    exact ⟨Nat.le_min.mpr ⟨hdoubled, h.low.trans h.high⟩, Nat.min_le_right _ _, Nat.min_le_right _ _,
      iff_of_false CircuitMode.noConfusion (Nat.not_lt.mpr hreached), fun _ ↦ rfl⟩
  · obtain ⟨hhalf, hbelow⟩ := not_or.mp hopens
    have hbelow := Nat.lt_of_not_le hbelow
    exact { h with
      saturated := Nat.min_le_right _ _
      closed := iff_of_true (h.closed.mpr (hcounted.trans_lt hbelow)) hbelow }

variable {config : WebhookConfig} {state : WebhookState} {url : String}

theorem bounded_performNow (h : (state.circuits url).Bounded config.circuit)
    (hnew : (CircuitState.new config.circuit).Bounded config.circuit) (op : WebhookOp) (env : WebhookEnv) :
    ((state.performNow config op env).2.circuits url).Bounded config.circuit := by
  by_cases hop : op.circuitUrl = some url
  · cases op with
    | ensureCircuitAllowsDelivery other =>
      cases hop
      simpa only [WebhookState.performNow, WebhookState.setCircuit, if_true] using h.ensure _
    | recordSuccess other =>
      cases hop
      simpa only [WebhookState.performNow, WebhookState.setCircuit, if_true] using hnew
    | recordFailure other =>
      cases hop
      simpa only [WebhookState.performNow, WebhookState.setCircuit, if_true] using h.failure _
    | _ => cases hop
  · rw [circuits_of_other hop]
    exact h

/-- However deliveries are interleaved, all circuits stay within their bounds. -/
theorem circuits_bounded {bus : Bus} {calls : WebhookCalls}
    {guard : WebhookCalls → Move WebhookCall WebhookEnv → Prop}
    (hthreshold : 0 < config.circuit.failureThreshold)
    (hcooldown : config.circuit.initialCooldown ≤ config.circuit.maxCooldown)
    (hreach : Steps.Reach (webhookCalls config) guard (Tasks.init (.start config bus)) calls) :
    ∀ url, (calls.shared.circuits url).Bounded config.circuit := by
  have hnew : (CircuitState.new config.circuit).Bounded config.circuit :=
    ⟨le_rfl, hcooldown, Nat.zero_le _, iff_of_true rfl hthreshold, nofun⟩
  induction hreach with
  | init => exact fun _ ↦ hnew
  | @next before _ label _ _ hstep ih =>
    cases label with
    | spawn call =>
      cases hstep
      exact ih
    | run i env =>
      obtain ⟨call, op, next, answer, shared, -, hperform, rfl⟩ := Tasks.step_run hstep
      obtain ⟨rfl, rfl⟩ := WebhookState.perform_eq hperform
      -- what happens meanwhile changes the bus alone
      exact fun url ↦ @bounded_performNow config (before.shared.meanwhile env) url (ih url) hnew op env

end

/-- Three calls in a row have failed. -/
theorem circuits_bounded_opened : ∃ calls : WebhookCalls, (calls.shared.circuits hookUrl).mode = .opened ∧
    ∀ url, (calls.shared.circuits url).Bounded .default := by
  obtain ⟨calls, hcalls, hopened⟩ : ∃ calls ∈ Steps.execute (webhookCalls defaultBreaker)
      (Tasks.init (.start defaultBreaker backlogged)) openCircuit,
      (calls.shared.circuits hookUrl).mode = .opened := by
    decide +kernel
  exact ⟨calls, hopened, circuits_bounded (by decide) (by decide) (Steps.reach_of_execute
    (Steps.guarded_of_forall (fun _ _ ↦ trivial) _ _) hcalls)⟩

end Seidrum.EventBus
