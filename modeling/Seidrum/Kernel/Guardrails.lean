import Seidrum.Plugins.Messages

/-!
# Guardrails of the tool loop

While an event is processed the consciousness service counts turns: rounds of tool calls that a provider
made on its own are added in one go, and each tool call of a response is recorded and checked.  A call is
stopped by the turn limit, by the time limit, when it repeats earlier calls, or when the turn comes after
which a human is asked.  The text of a response that was stopped is not published.
-/

namespace Seidrum.Kernel

open Plugins (ToolCall)

structure GuardrailConfig where
  turnLimit : UInt32
  timeLimitSeconds : UInt64
  loopDetectionThreshold : UInt32
  hitlAfterTurns : Option UInt32
  deriving DecidableEq, Repr

inductive GuardrailViolation
  | turnLimitReached (turns : UInt32)
  | timeLimitReached (seconds : UInt64)
  | loopDetected (toolName : String) (count : UInt32)
  | hitlRequired (turns : UInt32)
  deriving DecidableEq, Repr

structure GuardrailState where
  turnCount : UInt32
  /-- How often each call was made, by its text. -/
  toolCallHistory : AList fun _ : String ↦ UInt32
  config : GuardrailConfig

/-- The text under which calls are counted. -/
def callKey (toolName argumentsHash : String) : String := toolName ++ ":" ++ argumentsHash

/-- Subtraction that stops at zero. -/
def saturatingSub (a b : UInt32) : UInt32 := if a < b then 0 else a - b

namespace GuardrailState

def new (config : GuardrailConfig) : GuardrailState := ⟨0, ∅, config⟩

/-- How often calls with a text were counted. -/
def repeats (state : GuardrailState) (key : String) : UInt32 :=
  (state.toolCallHistory.lookup key).getD 0

/-- Record a tool call, the given number of seconds after the start. -/
def recordTurn (toolName argumentsHash : String) (elapsed : UInt64) (state : GuardrailState) :
    Option GuardrailViolation × GuardrailState :=
  let counted := { state with turnCount := state.turnCount + 1 }
  if state.config.turnLimit ≤ counted.turnCount then
    (some (.turnLimitReached counted.turnCount), counted)
  else if state.config.timeLimitSeconds ≤ elapsed then (some (.timeLimitReached elapsed), counted)
  else
    let key := callKey toolName argumentsHash
    let count := state.repeats key + 1
    let recorded := { counted with toolCallHistory := state.toolCallHistory.insert key count }
    if state.config.loopDetectionThreshold ≤ count then
      (some (.loopDetected toolName count), recorded)
    else match state.config.hitlAfterTurns with
      | some hitlAfter =>
          if hitlAfter ≤ recorded.turnCount ∧ (recorded.turnCount = hitlAfter ∨
              saturatingSub recorded.turnCount 1 < hitlAfter) then
            (some (.hitlRequired recorded.turnCount), recorded)
          else (none, recorded)
      | none => (none, recorded)

/-- Count the rounds a provider made on its own. -/
def addProviderRounds (rounds : UInt32) (state : GuardrailState) : GuardrailState :=
  { state with turnCount := state.turnCount + rounds }

end GuardrailState

/-- One of the guardrails stops a call: by the number of the turn, the time, or how often the call came
up. -/
def GuardrailConfig.Stops (config : GuardrailConfig) (turn : UInt32) (elapsed : UInt64)
    (repeats : UInt32) : Prop :=
  config.turnLimit ≤ turn ∨ config.timeLimitSeconds ≤ elapsed ∨
    config.loopDetectionThreshold ≤ repeats ∨ config.hitlAfterTurns = some turn

instance (config : GuardrailConfig) (turn : UInt32) (elapsed : UInt64) (repeats : UInt32) :
    Decidable (config.Stops turn elapsed repeats) :=
  inferInstanceAs (Decidable (_ ∨ _ ∨ _ ∨ _))

/-- The crossing that is looked for is the turn itself: one less is below it only there. -/
theorem hitl_crossed_iff (turn hitlAfter : UInt32) :
    hitlAfter ≤ turn ∧ (turn = hitlAfter ∨ saturatingSub turn 1 < hitlAfter) ↔ hitlAfter = turn := by
  constructor
  · rintro ⟨hle, hturn | hbelow⟩
    · exact hturn.symm
    · apply UInt32.toNat_inj.mp
      rw [UInt32.le_iff_toNat_le] at hle
      rw [saturatingSub] at hbelow
      split_ifs at hbelow with hzero
      · rw [UInt32.lt_iff_toNat_lt] at hbelow hzero
        change 0 < hitlAfter.toNat at hbelow
        change turn.toNat < 1 at hzero
        omega
      · rw [UInt32.not_lt] at hzero
        rw [UInt32.lt_iff_toNat_lt, UInt32.toNat_sub_of_le turn 1 hzero] at hbelow
        change turn.toNat - 1 < hitlAfter.toNat at hbelow
        omega
  · rintro rfl
    exact ⟨UInt32.le_refl _, .inl rfl⟩

namespace GuardrailState

variable (state : GuardrailState) (toolName argumentsHash : String) (elapsed : UInt64)

@[simp]
theorem config_recordTurn : (state.recordTurn toolName argumentsHash elapsed).2.config = state.config := by
  grind [recordTurn]

@[simp]
theorem turnCount_recordTurn :
    (state.recordTurn toolName argumentsHash elapsed).2.turnCount = state.turnCount + 1 := by
  grind [recordTurn]

theorem recordTurn_isSome :
    (state.recordTurn toolName argumentsHash elapsed).1.isSome ↔
      state.config.Stops (state.turnCount + 1) elapsed
        (state.repeats (callKey toolName argumentsHash) + 1) := by
  unfold recordTurn GuardrailConfig.Stops
  by_cases hturn : state.config.turnLimit ≤ state.turnCount + 1
  · simp [hturn]
  by_cases htime : state.config.timeLimitSeconds ≤ elapsed
  · simp [hturn, htime]
  by_cases hloop : state.config.loopDetectionThreshold ≤
      state.repeats (callKey toolName argumentsHash) + 1
  · simp [hturn, htime, hloop]
  · simp only [hturn, htime, hloop, if_false, false_or]
    cases state.config.hitlAfterTurns with
    | none => simp
    | some hitlAfter =>
      simp only [hitl_crossed_iff, Option.some.injEq]
      split_ifs with hcrossed <;> simp [hcrossed]

/-- A call is counted unless the turn limit or the time limit stops it. -/
theorem repeats_recordTurn (key : String) :
    (state.recordTurn toolName argumentsHash elapsed).2.repeats key =
      if key = callKey toolName argumentsHash ∧ ¬state.config.turnLimit ≤ state.turnCount + 1 ∧
          ¬state.config.timeLimitSeconds ≤ elapsed then state.repeats key + 1
      else state.repeats key := by
  have hinsert : ((state.toolCallHistory.insert (callKey toolName argumentsHash)
        (state.repeats (callKey toolName argumentsHash) + 1)).lookup key).getD 0 =
      if key = callKey toolName argumentsHash then state.repeats key + 1 else state.repeats key := by
    split_ifs with hkey
    · rw [hkey, AList.lookup_insert, Option.getD_some]
    · rw [AList.lookup_insert_ne hkey, repeats]
  by_cases hturn : state.config.turnLimit ≤ state.turnCount + 1
  · simp [recordTurn, hturn, repeats]
  by_cases htime : state.config.timeLimitSeconds ≤ elapsed
  · simp [recordTurn, hturn, htime, repeats]
  have hhistory : (state.recordTurn toolName argumentsHash elapsed).2.toolCallHistory =
      state.toolCallHistory.insert (callKey toolName argumentsHash)
        (state.repeats (callKey toolName argumentsHash) + 1) := by
    grind [recordTurn]
  rw [repeats, hhistory, hinsert]
  simp only [hturn, htime, not_false_eq_true, and_true]

end GuardrailState

/-- Record the calls of a response up to the first that is stopped; the call at a position is checked at
the time the clock gives for it, in seconds since the start. -/
def GuardrailState.check (clock : ℕ → UInt64) :
    List ToolCall → ℕ → GuardrailState → Option GuardrailViolation × GuardrailState
  | [], _, state => (none, state)
  | call :: rest, position, state =>
      match state.recordTurn call.functionName call.arguments (clock position) with
      | (some violation, next) => (some violation, next)
      | (none, next) => next.check clock rest (position + 1)

/-- The text a call is counted under. -/
def guardKey (call : ToolCall) : String := callKey call.functionName call.arguments

/-- How often the text of the call at a position came up so far, that call included. -/
def occurrences (calls : List ToolCall) (position : ℕ) : ℕ :=
  match calls[position]? with
  | some call => ((calls.take (position + 1)).map guardKey).count (guardKey call)
  | none => 0

theorem occurrences_cons_zero (call : ToolCall) (rest : List ToolCall) :
    occurrences (call :: rest) 0 = 1 := by
  simp [occurrences]

theorem occurrences_cons_succ {call other : ToolCall} {rest : List ToolCall} {position : ℕ}
    (hat : rest[position]? = some other) :
    occurrences (call :: rest) (position + 1) =
      occurrences rest position + if guardKey call = guardKey other then 1 else 0 := by
  simp only [occurrences, List.getElem?_cons_succ, hat, List.take_succ_cons, List.map_cons,
    List.count_cons, beq_iff_eq]

/-- A call of the list is stopped exactly if a guardrail stops it by what came before it in the list. -/
theorem GuardrailState.check_isSome (clock : ℕ → UInt64) (calls : List ToolCall) (start : ℕ)
    (state : GuardrailState) :
    (state.check clock calls start).1.isSome ↔
      ∃ position call, calls[position]? = some call ∧
        state.config.Stops (state.turnCount + UInt32.ofNat (position + 1)) (clock (start + position))
          (state.repeats (guardKey call) + UInt32.ofNat (occurrences calls position)) := by
  induction calls generalizing start state with
  | nil => simp [check]
  | cons call rest ih =>
    have hfirst := state.recordTurn_isSome call.functionName call.arguments (clock start)
    rw [check]
    rcases hrecord : state.recordTurn call.functionName call.arguments (clock start) with ⟨report, next⟩
    rw [hrecord] at hfirst
    cases report with
    | some violation =>
      refine ⟨fun _ ↦ ⟨0, call, rfl, ?_⟩, fun _ ↦ rfl⟩
      rw [occurrences_cons_zero]
      exact hfirst.mp rfl
    | none =>
      have hpassed : ¬state.config.Stops (state.turnCount + 1) (clock start)
          (state.repeats (guardKey call) + 1) := fun hstops ↦ Bool.false_ne_true (hfirst.mpr hstops)
      have hnext : next = (state.recordTurn call.functionName call.arguments (clock start)).2 := by
        rw [hrecord]
      have hturns (position : ℕ) : next.turnCount + UInt32.ofNat (position + 1) =
          state.turnCount + UInt32.ofNat (position + 1 + 1) := by
        rw [hnext, turnCount_recordTurn, Nat.add_comm (position + 1) 1, UInt32.ofNat_add 1,
          UInt32.add_assoc]
        rfl
      have hrepeats (position : ℕ) (other : ToolCall) (hat : rest[position]? = some other) :
          next.repeats (guardKey other) + UInt32.ofNat (occurrences rest position) =
            state.repeats (guardKey other) +
              UInt32.ofNat (occurrences (call :: rest) (position + 1)) := by
        have hturn : ¬state.config.turnLimit ≤ state.turnCount + 1 := fun h ↦ hpassed (.inl h)
        have htime : ¬state.config.timeLimitSeconds ≤ clock start :=
          fun h ↦ hpassed (.inr (.inl h))
        rw [hnext, repeats_recordTurn, occurrences_cons_succ hat]
        by_cases hkey : guardKey call = guardKey other
        · rw [if_pos ⟨hkey.symm, hturn, htime⟩, if_pos hkey, Nat.add_comm, UInt32.ofNat_add 1,
            UInt32.add_assoc]
          rfl
        · rw [if_neg fun h ↦ hkey h.1.symm, if_neg hkey, Nat.add_zero]
      have hshift (position : ℕ) : start + 1 + position = start + (position + 1) := by omega
      have hconfig : next.config = state.config := by rw [hnext, config_recordTurn]
      simp only [ih, hconfig, hturns, hshift]
      constructor
      · rintro ⟨position, other, hat, hstops⟩
        exact ⟨position + 1, other, hat, hrepeats position other hat ▸ hstops⟩
      · rintro ⟨position, other, hat, hstops⟩
        cases position with
        | zero =>
          cases hat
          rw [occurrences_cons_zero] at hstops
          exact absurd hstops hpassed
        | succ position => exact ⟨position, other, hat, hrepeats position other hat ▸ hstops⟩

/-- What is said in place of a response that was stopped. -/
def GuardrailViolation.message : GuardrailViolation → String
  | .turnLimitReached turns =>
      "Tool call limit reached (" ++ toString turns ++ " turns). Stopping."
  | .timeLimitReached seconds => "Time limit reached (" ++ toString seconds ++ "s). Stopping."
  | .loopDetected toolName count =>
      "Loop detected: " ++ toolName ++ " called " ++ toString count ++ " times with same args."
  | .hitlRequired turns => "Human approval needed after " ++ toString turns ++ " turns."

/-- What the consciousness service reads of a response. -/
structure GuardedResponse where
  content : Option String
  toolCalls : Option (List ToolCall)
  toolRounds : UInt32
  deriving DecidableEq, Repr

/-- What becomes of a response: the violation, the text appended to the conversation, and what is
published to the channel the event came from. -/
structure ProcessedResponse (Origin : Type) where
  violation : Option GuardrailViolation
  responseText : String
  outbound : Option (Origin × String)
  deriving DecidableEq, Repr

/-- Process the response to an event, with new guardrails. -/
def processResponse {Origin : Type} (config : GuardrailConfig) (clock : ℕ → UInt64)
    (origin : Option Origin) (response : GuardedResponse) : ProcessedResponse Origin :=
  let guardrail := GuardrailState.new config
  let guardrail :=
    if 0 < response.toolRounds then guardrail.addProviderRounds response.toolRounds else guardrail
  let violation := match response.toolCalls with
    | some calls => (guardrail.check clock calls 0).1
    | none => none
  let responseText := match violation with
    | some violation => violation.message
    | none => response.content.getD ""
  { violation
    responseText
    outbound :=
      if violation.isSome then none
      else match origin with
        | some origin => if responseText.isEmpty then none else some (origin, responseText)
        | none => none }

namespace GuardedResponse

def calls (response : GuardedResponse) : List ToolCall := response.toolCalls.getD []

/-- The rounds and the calls of a response together come to a threshold. -/
def Reaches (response : GuardedResponse) (threshold : UInt32) : Prop :=
  threshold.toNat ≤ response.toolRounds.toNat + response.calls.length

/-- One of the calls of a response is stopped, the rounds of the provider counted first. -/
def Stopped (response : GuardedResponse) (config : GuardrailConfig) (clock : ℕ → UInt64) : Prop :=
  ∃ position < response.calls.length,
    config.Stops (response.toolRounds + UInt32.ofNat (position + 1)) (clock position)
      (UInt32.ofNat (occurrences response.calls position))

end GuardedResponse

/-- The guardrails when the calls of a response are checked. -/
theorem counted_eq (config : GuardrailConfig) (rounds : UInt32) :
    (if 0 < rounds then (GuardrailState.new config).addProviderRounds rounds
      else GuardrailState.new config) = ⟨rounds, ∅, config⟩ := by
  split_ifs with hrounds
  · rw [GuardrailState.addProviderRounds, GuardrailState.new, UInt32.zero_add]
  · have hzero : rounds = 0 := by
      apply UInt32.toNat_inj.mp
      rw [UInt32.lt_iff_toNat_lt] at hrounds
      exact Nat.eq_zero_of_not_pos hrounds
    rw [hzero, GuardrailState.new]

theorem violation_isSome {Origin : Type} (config : GuardrailConfig) (clock : ℕ → UInt64)
    (origin : Option Origin) (response : GuardedResponse) :
    (processResponse config clock origin response).violation.isSome ↔
      response.Stopped config clock := by
  simp only [processResponse, counted_eq, GuardedResponse.Stopped, GuardedResponse.calls]
  cases response.toolCalls with
  | none => simp
  | some calls =>
    rw [GuardrailState.check_isSome]
    constructor
    · rintro ⟨position, call, hat, hstops⟩
      refine ⟨position, (List.getElem?_eq_some_iff.mp hat).1, ?_⟩
      rw [Nat.zero_add, GuardrailState.repeats, AList.lookup_empty, Option.getD_none,
        UInt32.zero_add] at hstops
      exact hstops
    · rintro ⟨position, hposition, hstops⟩
      refine ⟨position, calls[position], List.getElem?_eq_getElem hposition, ?_⟩
      rw [Nat.zero_add, GuardrailState.repeats, AList.lookup_empty, Option.getD_none,
        UInt32.zero_add]
      exact hstops

theorem outbound_of_violation {Origin : Type} {config : GuardrailConfig} {clock : ℕ → UInt64}
    {origin : Option Origin} {response : GuardedResponse}
    (h : (processResponse config clock origin response).violation.isSome) :
    (processResponse config clock origin response).outbound = none :=
  if_pos h

inductive GuardrailOp
  | recordTurn (toolName argumentsHash : String) (elapsed : UInt64)
  | addProviderRounds (rounds : UInt32)
  deriving DecidableEq, Repr

/-- A call that was recorded, with the guardrails before. -/
structure RecordedTurn where
  before : GuardrailState
  toolName : String
  argumentsHash : String
  elapsed : UInt64

namespace RecordedTurn

variable (turn : RecordedTurn)

def number : UInt32 := turn.before.turnCount + 1

def report : Option GuardrailViolation :=
  (turn.before.recordTurn turn.toolName turn.argumentsHash turn.elapsed).1

/-- How often the call came up, this time included. -/
def repeats : UInt32 := turn.before.repeats (callKey turn.toolName turn.argumentsHash) + 1

end RecordedTurn

/-- The turns recorded in a sequence of operations. -/
def GuardrailState.turns : List GuardrailOp → GuardrailState → List RecordedTurn
  | [], _ => []
  | .recordTurn toolName argumentsHash elapsed :: rest, state =>
      ⟨state, toolName, argumentsHash, elapsed⟩ ::
        (state.recordTurn toolName argumentsHash elapsed).2.turns rest
  | .addProviderRounds rounds :: rest, state => (state.addProviderRounds rounds).turns rest

/-- The guardrails of all turns are configured alike. -/
theorem GuardrailState.config_turns (ops : List GuardrailOp) (state : GuardrailState) :
    ∀ turn ∈ state.turns ops, turn.before.config = state.config := by
  induction ops generalizing state with
  | nil => exact fun _ hmem ↦ absurd hmem List.not_mem_nil
  | cons op rest ih =>
    cases op with
    | recordTurn toolName argumentsHash elapsed =>
      intro turn hmem
      rcases List.mem_cons.mp hmem with rfl | hrest
      · rfl
      · rw [ih _ turn hrest, config_recordTurn]
    | addProviderRounds rounds =>
      intro turn hmem
      exact ih (state.addProviderRounds rounds) turn hmem

/-- The first turn at or above a threshold. -/
def firstAt (threshold : UInt32) (turns : List RecordedTurn) : Option RecordedTurn :=
  turns.find? fun turn ↦ threshold ≤ turn.number

/-- At the first turn that reaches the limit, or the threshold after which a human is asked, something
is reported. -/
def ThresholdsReported (config : GuardrailConfig) (ops : List GuardrailOp) : Prop :=
  ∀ threshold, threshold = config.turnLimit ∨ config.hitlAfterTurns = some threshold →
    ∀ turn ∈ firstAt threshold ((GuardrailState.new config).turns ops), turn.report.isSome

/-- The count comes to the threshold after which a human is asked without jumping over it, or another
guardrail stops the turn that is past it. -/
def HitlMet (config : GuardrailConfig) (ops : List GuardrailOp) : Prop :=
  ∀ hitlAfter, config.hitlAfterTurns = some hitlAfter →
    ∀ turn ∈ firstAt hitlAfter ((GuardrailState.new config).turns ops),
      turn.before.turnCount + 1 = hitlAfter ∨ config.turnLimit ≤ turn.before.turnCount + 1 ∨
        config.timeLimitSeconds ≤ turn.elapsed ∨ config.loopDetectionThreshold ≤ turn.repeats

theorem thresholdsReported_iff (config : GuardrailConfig) (ops : List GuardrailOp) :
    ThresholdsReported config ops ↔ HitlMet config ops := by
  have hreport {threshold : UInt32} {turn : RecordedTurn}
      (hfirst : turn ∈ firstAt threshold ((GuardrailState.new config).turns ops)) :
      turn.report.isSome ↔ config.Stops turn.number turn.elapsed turn.repeats := by
    have hconfig := GuardrailState.config_turns ops _ turn (List.mem_of_find?_eq_some hfirst)
    rw [RecordedTurn.report, GuardrailState.recordTurn_isSome, hconfig]
    rfl
  constructor
  · intro h hitlAfter hhitl turn hfirst
    rcases (hreport hfirst).mp (h hitlAfter (.inr hhitl) turn hfirst) with hturn | htime | hloop | hat
    · exact .inr (.inl hturn)
    · exact .inr (.inr (.inl htime))
    · exact .inr (.inr (.inr hloop))
    · exact .inl (Option.some.inj (hat.symm.trans hhitl))
  · rintro h threshold (rfl | hhitl) turn hfirst
    · have hreached : config.turnLimit ≤ turn.number := by
        simpa using List.find?_some hfirst
      exact (hreport hfirst).mpr (.inl hreached)
    · apply (hreport hfirst).mpr
      rcases h threshold hhitl turn hfirst with hat | hturn | htime | hloop
      · exact .inr (.inr (.inr (hhitl.trans (congrArg some hat.symm))))
      · exact .inl hturn
      · exact .inr (.inl htime)
      · exact .inr (.inr (.inl hloop))

/-- A response that reaches a threshold is stopped and not published. -/
def ThresholdEnforced {Origin : Type} (config : GuardrailConfig) (clock : ℕ → UInt64)
    (origin : Option Origin) (response : GuardedResponse) : Prop :=
  ∀ threshold, threshold = config.turnLimit ∨ config.hitlAfterTurns = some threshold →
    response.Reaches threshold →
      (processResponse config clock origin response).violation.isSome ∧
        (processResponse config clock origin response).outbound = none

/-- A response is stopped where it reaches a threshold exactly if it reaches none or one of its own calls
is stopped; and the first turn of a sequence that reaches a threshold reports exactly if the threshold
after which a human is asked is met, not jumped over. -/
theorem thresholdEnforced_iff (config : GuardrailConfig) :
    (∀ {Origin : Type} (clock : ℕ → UInt64) (origin : Option Origin) (response : GuardedResponse),
      ThresholdEnforced config clock origin response ↔
        (∀ threshold, threshold = config.turnLimit ∨ config.hitlAfterTurns = some threshold →
          ¬response.Reaches threshold) ∨ response.Stopped config clock) ∧
      ∀ ops, ThresholdsReported config ops ↔ HitlMet config ops := by
  refine ⟨fun clock origin response ↦ ⟨fun h ↦ ?_, ?_⟩, thresholdsReported_iff config⟩
  · by_cases hreaches : ∀ threshold, threshold = config.turnLimit ∨
        config.hitlAfterTurns = some threshold → ¬response.Reaches threshold
    · exact .inl hreaches
    · simp only [not_forall, not_not] at hreaches
      obtain ⟨threshold, hthreshold, hreached⟩ := hreaches
      exact .inr ((violation_isSome _ _ _ _).mp (h threshold hthreshold hreached).1)
  · rintro (hnone | hstopped) threshold hthreshold hreached
    · exact absurd hreached (hnone threshold hthreshold)
    · have hviolation := (violation_isSome config clock origin response).mpr hstopped
      exact ⟨hviolation, outbound_of_violation hviolation⟩

def defaultConsciousness : GuardrailConfig := ⟨100, 1800, 3, none⟩

/-- A provider made a hundred rounds on its own and its answer has no calls; and three rounds jump over
the third turn, after which a human is to be asked. -/
theorem thresholdEnforced_false :
    (¬ThresholdEnforced defaultConsciousness (fun _ ↦ 0) (some ()) ⟨some "done", none, 100⟩ ∧
      (processResponse defaultConsciousness (fun _ ↦ 0) (some ())
        ⟨some "done", none, 100⟩).outbound = some ((), "done")) ∧
      ¬ThresholdsReported ⟨100, 1800, 3, some 3⟩
        [.addProviderRounds 3, .recordTurn "search" "{}" 0] := by
  refine ⟨⟨fun h ↦ ?_, by decide⟩, fun h ↦ ?_⟩
  · have hviolation := (h 100 (.inl rfl) (le_refl 100)).1
    exact absurd hviolation (by decide)
  · have hreport := h 3 (.inr rfl) _ rfl
    exact absurd hreport (by decide)

namespace RecordedTurn

variable (turn : RecordedTurn)

/-- Neither limit stops the turn, so its call is counted. -/
def Counted : Prop :=
  ¬turn.before.config.turnLimit ≤ turn.number ∧ ¬turn.before.config.timeLimitSeconds ≤ turn.elapsed

instance : DecidablePred Counted := fun turn ↦ by
  unfold Counted
  infer_instance

def key : String := callKey turn.toolName turn.argumentsHash

def LoopReported : Prop := ∃ count, turn.report = some (.loopDetected turn.toolName count)

theorem loopReported_iff_repeats :
    turn.LoopReported ↔
      turn.Counted ∧ turn.before.config.loopDetectionThreshold ≤ turn.repeats := by
  unfold LoopReported Counted report number repeats GuardrailState.recordTurn
  by_cases hturn : turn.before.config.turnLimit ≤ turn.before.turnCount + 1
  · simp [hturn]
  by_cases htime : turn.before.config.timeLimitSeconds ≤ turn.elapsed
  · simp [hturn, htime]
  by_cases hloop : turn.before.config.loopDetectionThreshold ≤
      turn.before.repeats (callKey turn.toolName turn.argumentsHash) + 1
  · simp [hturn, htime, hloop]
  · simp only [hturn, htime, hloop, if_false, and_false, iff_false, not_exists]
    intro count
    cases turn.before.config.hitlAfterTurns with
    | none => simp
    | some hitlAfter =>
      dsimp only
      split_ifs <;> simp

end RecordedTurn

/-- How often a text is in the history before a turn. -/
theorem GuardrailState.repeats_turns (ops : List GuardrailOp) (state : GuardrailState) (key : String)
    {i : ℕ} {turn : RecordedTurn} (hat : (state.turns ops)[i]? = some turn) :
    turn.before.repeats key = state.repeats key + UInt32.ofNat
      (((state.turns ops).take i).countP fun other ↦ other.Counted ∧ other.key = key) := by
  induction ops generalizing state i with
  | nil => cases hat
  | cons op rest ih =>
    cases op with
    | addProviderRounds rounds => exact ih (state.addProviderRounds rounds) hat
    | recordTurn toolName argumentsHash elapsed =>
      cases i with
      | zero =>
        cases hat
        exact (UInt32.add_zero _).symm
      | succ i =>
        have hcounted : (key = callKey toolName argumentsHash ∧
              ¬state.config.turnLimit ≤ state.turnCount + 1 ∧
              ¬state.config.timeLimitSeconds ≤ elapsed) ↔
            RecordedTurn.Counted ⟨state, toolName, argumentsHash, elapsed⟩ ∧
              RecordedTurn.key ⟨state, toolName, argumentsHash, elapsed⟩ = key :=
          ⟨fun ⟨hkey, hlimits⟩ ↦ ⟨hlimits, hkey.symm⟩, fun ⟨hlimits, hkey⟩ ↦ ⟨hkey.symm, hlimits⟩⟩
        rw [ih _ hat, repeats_recordTurn, turns, List.take_succ_cons, List.countP_cons]
        by_cases hthis : RecordedTurn.Counted ⟨state, toolName, argumentsHash, elapsed⟩ ∧
            RecordedTurn.key ⟨state, toolName, argumentsHash, elapsed⟩ = key
        · rw [if_pos (hcounted.mpr hthis), if_pos (decide_eq_true hthis), Nat.add_comm,
            UInt32.ofNat_add 1, UInt32.add_assoc]
          rfl
        · rw [if_neg (mt hcounted.mp hthis), if_neg (by simpa using hthis), Nat.add_zero]

/-- How often a tool was called with some arguments and counted. -/
def timesCalled (turns : List RecordedTurn) (toolName argumentsHash : String) : ℕ :=
  turns.countP fun turn ↦
    turn.Counted ∧ turn.toolName = toolName ∧ turn.argumentsHash = argumentsHash

/-- Calls that differ in the name or the arguments are counted under different texts. -/
def DistinctKeys (turns : List RecordedTurn) : Prop :=
  ∀ turn ∈ turns, ∀ other ∈ turns, turn.key = other.key →
    turn.toolName = other.toolName ∧ turn.argumentsHash = other.argumentsHash

/-- Where no two different calls share a text, a loop is reported exactly for a call that neither limit
stops and that was made, up to then, as often as is configured. -/
theorem loopReported_iff {config : GuardrailConfig} {ops : List GuardrailOp}
    (hkeys : DistinctKeys ((GuardrailState.new config).turns ops)) (i : ℕ) (turn : RecordedTurn)
    (hat : ((GuardrailState.new config).turns ops)[i]? = some turn) :
    turn.LoopReported ↔ turn.Counted ∧ config.loopDetectionThreshold ≤ UInt32.ofNat
      (timesCalled (((GuardrailState.new config).turns ops).take (i + 1)) turn.toolName
        turn.argumentsHash) := by
  have hmem := List.mem_of_getElem? hat
  have hconfig : turn.before.config = config := GuardrailState.config_turns ops _ turn hmem
  rw [RecordedTurn.loopReported_iff_repeats, hconfig]
  apply and_congr_right
  intro hcounted
  have hrepeats : turn.repeats = UInt32.ofNat
      (timesCalled (((GuardrailState.new config).turns ops).take (i + 1)) turn.toolName
        turn.argumentsHash) := by
    have hbefore := GuardrailState.repeats_turns ops (.new config) turn.key hat
    have hsame : ∀ other ∈ ((GuardrailState.new config).turns ops).take i,
        (other.Counted ∧ other.key = turn.key ↔
          other.Counted ∧ other.toolName = turn.toolName ∧
            other.argumentsHash = turn.argumentsHash) := by
      intro other hother
      refine and_congr_right fun _ ↦ ⟨hkeys other (List.mem_of_mem_take hother) turn hmem, ?_⟩
      rintro ⟨hname, harguments⟩
      rw [RecordedTurn.key, hname, harguments, RecordedTurn.key]
    have hcount : (((GuardrailState.new config).turns ops).take i).countP
          (fun other ↦ other.Counted ∧ other.key = turn.key) =
        (((GuardrailState.new config).turns ops).take i).countP (fun other ↦
          other.Counted ∧ other.toolName = turn.toolName ∧
            other.argumentsHash = turn.argumentsHash) :=
      List.countP_congr fun other hother ↦ by
        simpa only [decide_eq_true_eq] using hsame other hother
    rw [timesCalled, List.take_add_one, hat, Option.toList_some, List.countP_append,
      List.countP_singleton, if_pos (decide_eq_true ⟨hcounted, rfl, rfl⟩), UInt32.ofNat_add, ← hcount]
    change turn.before.repeats turn.key + 1 = _
    rw [hbefore]
    exact congrArg (· + 1) (UInt32.zero_add _)
  rw [hrepeats]

/-- The same search twice, with another call in between. -/
def repeatedSearch : List GuardrailOp :=
  [.recordTurn "search" "q" 0, .recordTurn "read" "q" 1, .recordTurn "search" "q" 2]

theorem loopReported_iff_repeatedSearch :
    ∃ turn, ((GuardrailState.new ⟨10, 600, 2, none⟩).turns repeatedSearch)[2]? = some turn ∧
      turn.LoopReported := by
  have hkeys : DistinctKeys ((GuardrailState.new ⟨10, 600, 2, none⟩).turns repeatedSearch) := by
    unfold DistinctKeys
    decide
  exact ⟨_, rfl, (loopReported_iff hkeys 2 _ rfl).mpr (by decide)⟩

/-- Three equal calls, the third at the turn limit. -/
theorem loopReported_false :
    ¬∀ (config : GuardrailConfig) (ops : List GuardrailOp) (i : ℕ) (turn : RecordedTurn),
      ((GuardrailState.new config).turns ops)[i]? = some turn →
        (turn.LoopReported ↔ config.loopDetectionThreshold.toNat ≤
          (((GuardrailState.new config).turns ops).take (i + 1)).countP fun other ↦
            other.toolName = turn.toolName ∧ other.argumentsHash = turn.argumentsHash) := by
  intro h
  have hclaim := h ⟨3, 600, 3, none⟩ (List.replicate 3 (.recordTurn "search" "q" 0)) 2 _ rfl
  obtain ⟨count, hreport⟩ := hclaim.mpr (by decide)
  have hlimit : some (GuardrailViolation.turnLimitReached 3) = some (.loopDetected "search" count) :=
    hreport
  cases hlimit

end Seidrum.Kernel
