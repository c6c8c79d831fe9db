import Seidrum.Agent.Turn

/-!
# The tool calls of a turn

What a turn has done is read off its operations: the responses it was given, and what it did for
them.  A faithful turn handles the tool calls of all its responses, one after the other, each
recorded, run and its result recorded, and hands on a final text after that.  A turn takes a response
with a final text as the last one whatever else it carries, so it is faithful exactly when that
response carries no tool calls.  A turn that runs out of iterations has handled all its calls.
-/

namespace Seidrum.Agent

open Seidrum.Foundation

variable {Value : Type}

/-- What a turn does for a response. -/
inductive Deed (Value : Type)
  | called (call : ToolCall Value)
  | executed (call : ToolCall Value) (outcome : Except RuntimeError ToolResult)
  | answered (result : ToolResult)
  | said (text : String)
  deriving DecidableEq

/-- The responses a turn was given, what it did for them, and whether the store or the provider failed
it. -/
structure Account (Value : Type) where
  responses : List (ProviderResponse Value)
  deeds : List (Deed Value)
  failed : Bool

namespace Account

def empty : Account Value := ⟨[], [], false⟩

/-- A call or a result counts once it is recorded, a text as soon as the turn hands it on. -/
def after (account : Account Value) : (op : TurnOp Value) → TurnAnswer Value op → Account Value
  | .complete _, .ok response => { account with responses := account.responses ++ [response] }
  | .append (.assistantToolCall _ _ _ _ callId toolName arguments), .ok () =>
      { account with deeds := account.deeds ++ [.called ⟨callId, toolName, arguments⟩] }
  | .append (.toolResult _ _ _ _ callId toolName content isError), .ok () =>
      { account with deeds := account.deeds ++ [.answered ⟨callId, toolName, content, isError⟩] }
  | .append (.assistantMessage _ _ _ _ content), .ok () =>
      { account with deeds := account.deeds ++ [.said content] }
  | .append (.assistantMessage _ _ _ _ content), .error _ =>
      { account with deeds := account.deeds ++ [.said content], failed := true }
  | .execute call, outcome => { account with deeds := account.deeds ++ [.executed call outcome] }
  | .records _, .error _ | .complete _, .error _ | .append _, .error _ =>
      { account with failed := true }
  | _, _ => account

def ofEvents (events : List (Performed (TurnAnswer Value))) : Account Value :=
  events.foldl (fun account event ↦ account.after event.op event.answer) empty

/-- The tool calls of all responses, in order. -/
def calls (account : Account Value) : List (ToolCall Value) :=
  account.responses.flatMap ProviderResponse.toolCalls

end Account

def unregistered (call : ToolCall Value) : ToolResult :=
  ⟨call.id, call.name, (RuntimeError.toolNotRegistered call.name).toString, true⟩

/-- A call handled completely: recorded, run if its tool is registered, its result recorded. -/
def handling (runtime : AgentRuntime) (call : ToolCall Value)
    (outcome : Except RuntimeError ToolResult) : List (Deed Value) :=
  if call.name ∈ runtime.tools then
    [.called call, .executed call outcome, .answered (AgentRuntime.toolResult call outcome)]
  else [.called call, .answered (unregistered call)]

/-- Calls handled one after the other, whatever the outcomes. -/
inductive Handled (runtime : AgentRuntime) : List (ToolCall Value) → List (Deed Value) → Prop
  | nil : Handled runtime [] []
  | concat {calls deeds} (before : Handled runtime calls deeds) (call : ToolCall Value)
      (outcome : Except RuntimeError ToolResult) :
      Handled runtime (calls ++ [call]) (deeds ++ handling runtime call outcome)

/-- A turn has handled the calls of its responses in order and no others; where it has handed on a
text, it has handled all of them before. -/
def Faithful (runtime : AgentRuntime) (account : Account Value) : Prop :=
  ∃ deeds, Handled runtime account.calls deeds ∧
    (account.deeds <+: deeds ∨ ∃ text, account.deeds = deeds ++ [.said text])

/-- No response with a final text carries tool calls. -/
def TextsAlone (responses : List (ProviderResponse Value)) : Prop :=
  ∀ response ∈ responses, response.finalText ≠ none → response.toolCalls = []

namespace Handled

variable {runtime : AgentRuntime} {calls : List (ToolCall Value)} {deeds : List (Deed Value)}

theorem extend (h : Handled runtime calls deeds) (rest : List (ToolCall Value)) :
    ∃ later, Handled runtime (calls ++ rest) (deeds ++ later) := by
  induction rest using List.reverseRecOn with
  | nil => exact ⟨[], by simpa using h⟩
  | append_singleton rest call ih =>
    obtain ⟨later, hlater⟩ := ih
    refine ⟨later ++ handling runtime call (.error (.provider "")), ?_⟩
    rw [← List.append_assoc, ← List.append_assoc]
    exact hlater.concat call _

theorem called_eq (h : Handled runtime calls deeds) :
    deeds.filterMap (fun | .called call => some call | _ => none) = calls := by
  induction h with
  | nil => rfl
  | concat before call outcome ih =>
    rw [List.filterMap_append, ih, handling]
    split_ifs <;> rfl

theorem said_not_mem (h : Handled runtime calls deeds) (text : String) : .said text ∉ deeds := by
  induction h with
  | nil => exact List.not_mem_nil
  | concat before call outcome ih =>
    rw [List.mem_append, not_or]
    refine ⟨ih, ?_⟩
    unfold handling
    split_ifs <;> simp

end Handled

section Loop

variable {runtime : AgentRuntime} {input : TurnInput} {account : Account Value}

/-- All calls so far are handled, and no response has brought a text. -/
structure Settled (runtime : AgentRuntime) (account : Account Value) : Prop where
  handled : Handled runtime account.calls account.deeds
  textless : ∀ response ∈ account.responses, response.finalText = none

/-- The calls before `rest` are handled, and part of the handling of the next one is done. -/
structure Owing (runtime : AgentRuntime) (account : Account Value)
    (done : List (Deed Value)) (rest : List (ToolCall Value)) : Prop where
  handled : ∃ before deeds, account.calls = before ++ rest ∧ Handled runtime before deeds ∧
    account.deeds = deeds ++ done
  textless : ∀ response ∈ account.responses, response.finalText = none

/-- A turn that ends here, or goes on, is faithful. -/
structure InOrder (runtime : AgentRuntime) (account : Account Value) : Prop where
  faithful : Faithful runtime account
  textless : ∀ response ∈ account.responses, response.finalText = none

theorem InOrder.failed (h : InOrder runtime account) :
    InOrder runtime { account with failed := true } :=
  ⟨h.faithful, h.textless⟩

theorem Settled.inOrder (h : Settled runtime account) : InOrder runtime account :=
  ⟨⟨account.deeds, h.handled, .inl (List.prefix_refl _)⟩, h.textless⟩

theorem Owing.settled (h : Owing runtime account [] []) : Settled runtime account := by
  obtain ⟨before, deeds, hcalls, hhandled, hdeeds⟩ := h.handled
  rw [List.append_nil] at hcalls hdeeds
  exact ⟨by rwa [hcalls, hdeeds], h.textless⟩

variable {done : List (Deed Value)} {call : ToolCall Value} {rest : List (ToolCall Value)}

/-- Part of the handling of the next call is no offence. -/
theorem Owing.inOrder (h : Owing runtime account done (call :: rest))
    (outcome : Except RuntimeError ToolResult) (hdone : done <+: handling runtime call outcome) :
    InOrder runtime account := by
  obtain ⟨before, deeds, hcalls, hhandled, hdeeds⟩ := h.handled
  obtain ⟨later, hlater⟩ := (hhandled.concat call outcome).extend rest
  refine ⟨⟨deeds ++ handling runtime call outcome ++ later, ?_, .inl ?_⟩, h.textless⟩
  · rw [hcalls, List.append_cons]
    exact hlater
  · rw [hdeeds, List.append_assoc]
    exact (List.prefix_append_right_inj deeds).mpr (hdone.trans (List.prefix_append _ _))

theorem Owing.deed (h : Owing runtime account done rest) (deed : Deed Value) :
    Owing runtime { account with deeds := account.deeds ++ [deed] } (done ++ [deed]) rest := by
  obtain ⟨before, deeds, hcalls, hhandled, hdeeds⟩ := h.handled
  exact ⟨⟨before, deeds, hcalls, hhandled, by rw [hdeeds, List.append_assoc]⟩, h.textless⟩

theorem Owing.next {outcome : Except RuntimeError ToolResult}
    (h : Owing runtime account (handling runtime call outcome) (call :: rest)) :
    Owing runtime account [] rest := by
  obtain ⟨before, deeds, hcalls, hhandled, hdeeds⟩ := h.handled
  refine ⟨⟨before ++ [call], _, ?_, hhandled.concat call outcome, ?_⟩, h.textless⟩
  · rw [hcalls, List.append_cons]
  · rw [hdeeds, List.append_nil]

end Loop

/-! ## One turn -/

/-- Turns stay faithful at every operation. -/
def accounting (runtime : AgentRuntime) : Protocol (TurnAnswer Value) (Account Value) where
  allowed account _ := Faithful runtime account
  after := Account.after

section Turn

variable {runtime : AgentRuntime} {input : TurnInput} {account : Account Value} {sequence : ℕ}

/-- What is known of a turn that ended: if it ended with an error that nobody gave it, the iterations
ran out. -/
structure Judged (runtime : AgentRuntime) (account : Account Value)
    (result : Except RuntimeError TurnOutput) : Prop where
  faithful : Faithful runtime account ↔ TextsAlone account.responses
  exhausted : ∀ error, result = .error error → account.failed = false →
    Handled runtime account.calls account.deeds

variable {result : Except RuntimeError TurnOutput}

theorem InOrder.judged (h : InOrder runtime account) (hfailed : account.failed = true) :
    Judged runtime account result := by
  constructor
  · constructor
    · exact fun _ response hmem htext ↦ absurd (h.textless response hmem) htext
    · exact fun _ ↦ h.faithful
  · intro error _ hserved
    rw [hfailed] at hserved
    cases hserved

theorem follows_recordId {final : Account Value → Except RuntimeError String → Prop}
    (hfaithful : Faithful runtime account) (h : ∀ id, final account (.ok id)) :
    (newRecordId : TurnM Value String).run.Follows (accounting runtime) final account :=
  Program.Follows.liftExcept (Program.Follows.ask hfaithful h)

/-- Where the calls of a response leave the account. -/
def AfterCalls {α : Type} (runtime : AgentRuntime) (account : Account Value) :
    Except RuntimeError α → Prop
  | .ok _ => Settled runtime account
  | .error _ => InOrder runtime account ∧ account.failed = true

variable {toolResults : List ToolResult}

/-- The result of a call is recorded and the calls after it are handled. -/
theorem follows_recordResult {call : ToolCall Value} {rest : List (ToolCall Value)} {done : List (Deed Value)}
    {result : ToolResult} (h : Owing runtime account done (call :: rest))
    (outcome : Except RuntimeError ToolResult)
    (hresult : done ++ [.answered result] = handling runtime call outcome)
    (ih : ∀ account : Account Value, Owing runtime account [] rest →
      (AgentRuntime.executeCalls runtime input rest (sequence + 2)
        (toolResults ++ [result])).run.Follows (accounting runtime) (AfterCalls runtime) account) :
    (do
      append (.toolResult (← newRecordId) (sequence + 1) input.sessionId input.agentId
        result.callId result.toolName result.content result.isError)
      AgentRuntime.executeCalls runtime input rest (sequence + 2) (toolResults ++ [result])
        : TurnM Value _).run.Follows (accounting runtime) (AfterCalls runtime) account := by
  have hinOrder : InOrder runtime account := h.inOrder outcome (hresult ▸ List.prefix_append done _)
  apply Program.Follows.bindExcept
  refine follows_recordId hinOrder.faithful fun id ↦ ?_
  apply Program.Follows.bindExcept
  refine Program.Follows.ask hinOrder.faithful fun answer ↦ ?_
  cases answer with
  | error error => exact ⟨hinOrder.failed, rfl⟩
  | ok recorded =>
    apply ih
    have hanswered := h.deed (.answered result)
    rw [hresult] at hanswered
    exact hanswered.next

theorem follows_executeCalls_faithful {calls : List (ToolCall Value)} (h : Owing runtime account [] calls) :
    (AgentRuntime.executeCalls runtime input calls sequence toolResults).run.Follows
      (accounting runtime) (AfterCalls runtime) account := by
  induction calls generalizing account sequence toolResults with
  | nil => exact h.settled
  | cons call rest ih =>
    -- before the call is run any outcome will do
    have hinOrder : InOrder runtime account := h.inOrder (.error (.provider "")) List.nil_prefix
    apply Program.Follows.bindExcept
    refine follows_recordId hinOrder.faithful fun id ↦ ?_
    apply Program.Follows.bindExcept
    refine Program.Follows.ask hinOrder.faithful fun answer ↦ ?_
    cases answer with
    | error error => exact ⟨hinOrder.failed, rfl⟩
    | ok recorded =>
      have hcalled := h.deed (.called call)
      apply Program.Follows.bindExcept
      unfold AgentRuntime.executeTool
      split_ifs with hregistered
      · apply Program.Follows.liftExcept
        apply Program.Follows.map
        refine Program.Follows.ask ?_ fun outcome ↦ ?_
        · apply (hcalled.inOrder (.error (.provider "")) ?_).faithful
          rw [handling, if_pos hregistered]
          exact List.prefix_append [Deed.called call] _
        · apply follows_recordResult (hcalled.deed (.executed call outcome)) outcome
          · rw [handling, if_pos hregistered]
            rfl
          · exact fun account hrest ↦ ih hrest
      · apply follows_recordResult hcalled (.error (.provider ""))
        · rw [handling, if_neg hregistered]
          rfl
        · exact fun account hrest ↦ ih hrest

/-- A text taken from a response leaves the calls of that response unhandled. -/
theorem Settled.faithful_said_iff {response : ProviderResponse Value} {text : String} (failed : Bool)
    (h : Settled runtime account) (htext : response.finalText = some text) :
    Faithful runtime ⟨account.responses ++ [response], account.deeds ++ [.said text], failed⟩ ↔
      TextsAlone (account.responses ++ [response]) := by
  have hcalls : (⟨account.responses ++ [response], account.deeds ++ [.said text], failed⟩ :
      Account Value).calls = account.calls ++ response.toolCalls := by simp [Account.calls]
  constructor
  · rintro ⟨deeds, hhandled, hdeeds⟩ other hother hsome
    rw [hcalls] at hhandled
    obtain hold | rfl := mem_of_concat hother
    · exact absurd (h.textless other hold) hsome
    · rcases hdeeds with hinitial | ⟨text', hsaid⟩
      · have hmem : .said text ∈ deeds := hinitial.subset (by simp)
        exact absurd hmem (hhandled.said_not_mem text)
      · obtain ⟨rfl, -⟩ := List.append_inj' hsaid rfl
        have hsame : account.calls = account.calls ++ other.toolCalls :=
          h.handled.called_eq.symm.trans hhandled.called_eq
        exact List.self_eq_append_right.mp hsame
  · intro hAlone
    have hnone : response.toolCalls = [] := by
      apply hAlone response (by simp)
      rw [htext]
      exact Option.some_ne_none text
    refine ⟨account.deeds, ?_, .inr ⟨text, rfl⟩⟩
    rw [hcalls, hnone, List.append_nil]
    exact h.handled

theorem follows_iterate_faithful {left : ℕ} (h : Settled runtime account) :
    (AgentRuntime.iterate runtime input left sequence toolResults : TurnM Value _).run.Follows
      (accounting runtime) (Judged runtime) account := by
  induction left generalizing account sequence toolResults with
  | zero =>
    refine ⟨?_, fun _ _ _ ↦ h.handled⟩
    exact iff_of_true h.inOrder.faithful fun response hmem htext ↦
      absurd (h.textless response hmem) htext
  | succ left ih =>
    apply Program.Follows.bindExcept
    refine Program.Follows.ask h.inOrder.faithful fun answer ↦ ?_
    cases answer with
    | error error => exact h.inOrder.failed.judged rfl
    | ok response =>
      have hcalls : (⟨account.responses ++ [response], account.deeds, account.failed⟩ :
          Account Value).calls = account.calls ++ response.toolCalls := by simp [Account.calls]
      -- the calls of the response are still to be handled
      have hfaithful : Faithful runtime
          ⟨account.responses ++ [response], account.deeds, account.failed⟩ := by
        obtain ⟨later, hlater⟩ := h.handled.extend response.toolCalls
        exact ⟨_, hcalls ▸ hlater, .inl (List.prefix_append _ _)⟩
      dsimp only
      cases htext : response.finalText with
      | some finalText =>
        apply Program.Follows.bindExcept
        refine follows_recordId hfaithful fun id ↦ ?_
        apply Program.Follows.bindExcept
        refine Program.Follows.ask hfaithful fun answer ↦ ?_
        cases answer with
        | error error => exact ⟨h.faithful_said_iff _ htext, fun _ _ hserved ↦ by cases hserved⟩
        | ok recorded => exact ⟨h.faithful_said_iff _ htext, fun _ hresult ↦ by cases hresult⟩
      | none =>
        have howing : Owing runtime
            ⟨account.responses ++ [response], account.deeds, account.failed⟩ []
            response.toolCalls := by
          refine ⟨⟨account.calls, account.deeds, hcalls, h.handled, (List.append_nil _).symm⟩, ?_⟩
          intro other hother
          obtain hold | rfl := mem_of_concat hother
          · exact h.textless other hold
          · exact htext
        apply Program.Follows.bindExcept
        apply Program.Follows.mono _ (follows_executeCalls_faithful howing)
        intro account' result hresult
        cases result with
        | error error => exact hresult.1.judged hresult.2
        | ok after => exact ih hresult

theorem settled_empty : Settled runtime (Account.empty : Account Value) :=
  ⟨.nil, fun _ hmem ↦ absurd hmem List.not_mem_nil⟩

theorem follows_turn_faithful (start : AgentRuntime × TurnInput) :
    (turn start : Program (TurnAnswer Value) _).Follows (accounting start.1)
      (Judged start.1) Account.empty := by
  have hinOrder : InOrder start.1 (Account.empty : Account Value) := settled_empty.inOrder
  apply Program.Follows.bindExcept
  apply Program.Follows.bindExcept
  refine Program.Follows.ask hinOrder.faithful fun answer ↦ ?_
  cases answer with
  | error error => exact hinOrder.failed.judged rfl
  | ok records =>
    apply Program.Follows.bindExcept
    refine follows_recordId hinOrder.faithful fun id ↦ ?_
    apply Program.Follows.bindExcept
    refine Program.Follows.ask hinOrder.faithful fun answer ↦ ?_
    cases answer with
    | error error => exact hinOrder.failed.judged rfl
    | ok recorded => exact follows_iterate_faithful settled_empty

end Turn

variable {σ : Type} {store : RuntimeStore Value σ} {shared : σ} {state : Turns Value σ}
variable {guard : Turns Value σ → Move (AgentRuntime × TurnInput) (TurnEnv Value) → Prop}

/-- What a turn has done so far in an interleaving. -/
def accountOf (state : Turns Value σ) (i : ℕ) : Account Value := .ofEvents (state.events i)

theorem follows_accountOf (hreach : Steps.Reach (turns store) guard (Tasks.init shared) state)
    {i : ℕ} {task : Task (AgentRuntime × TurnInput) (TurnAnswer Value) (Except RuntimeError TurnOutput)}
    (hat : state.tasks[i]? = some task) :
    task.program.Follows (accounting task.input.1) (Judged task.input.1) (accountOf state i) :=
  (Tasks.following_of_reach follows_turn_faithful hreach).follows i task hat

/-- Every turn in progress is faithful; one that ended was faithful exactly when no response it was
given carried tool calls beside a final text; and one that ended with an error, though neither the store
nor the provider failed it, has handled all calls of its responses. -/
theorem turn_faithful_iff (hreach : Steps.Reach (turns store) guard (Tasks.init shared) state)
    {i : ℕ} {task : Task (AgentRuntime × TurnInput) (TurnAnswer Value) (Except RuntimeError TurnOutput)}
    (hat : state.tasks[i]? = some task) :
    (task.program.isDone = false → Faithful task.input.1 (accountOf state i)) ∧
      (task.program.isDone = true →
        (Faithful task.input.1 (accountOf state i) ↔ TextsAlone (accountOf state i).responses)) ∧
      ∀ error, task.program = .done (.error error) → (accountOf state i).failed = false →
        Handled task.input.1 (accountOf state i).calls (accountOf state i).deeds := by
  have hfollows := follows_accountOf hreach hat
  cases hprogram : task.program with
  | done result =>
    rw [hprogram] at hfollows
    exact ⟨fun hrunning ↦ absurd hrunning Bool.noConfusion, fun _ ↦ hfollows.faithful,
      fun error hdone ↦ hfollows.exhausted error (Program.done.inj hdone)⟩
  | call op next =>
    rw [hprogram] at hfollows
    exact ⟨fun _ ↦ hfollows.1, fun hdone ↦ absurd hdone Bool.noConfusion,
      fun error hdone ↦ by cases hdone⟩

/-- A turn with one tool, `echo`. -/
private def asking : AgentRuntime × TurnInput := (⟨{}, ["echo"]⟩, ⟨"s", "a", "hi"⟩)

/-- What the router answers, its argument texts read as nothing. -/
private def routed (content : Option String) (toolCalls : Option (List RouterToolCall)) :
    TurnEnv Unit :=
  .response (ProviderResponse.tryFrom (fun _ ↦ .ok ()) ⟨content, toolCalls⟩)

/-- A tool call, then a text. -/
private def callThenText : List (Move (AgentRuntime × TurnInput) (TurnEnv Unit)) :=
  [.spawn asking, .run 0 .served, .run 0 (.recordId "r1"), .run 0 .served,
    .run 0 (routed none (some [⟨"c1", "echo", "{}"⟩])), .run 0 (.recordId "r2"), .run 0 .served,
    .run 0 (.toolOutcome (.error (.tool "echo" "boom"))), .run 0 (.recordId "r3"), .run 0 .served,
    .run 0 (routed (some "done") none), .run 0 (.recordId "r4"), .run 0 .served]

/-- A text with a tool call beside it. -/
private def callBesideText : List (Move (AgentRuntime × TurnInput) (TurnEnv Unit)) :=
  [.spawn asking, .run 0 .served, .run 0 (.recordId "r1"), .run 0 .served,
    .run 0 (routed (some "Let me look.") (some [⟨"c1", "echo", "{}"⟩])), .run 0 (.recordId "r2"),
    .run 0 .served]

private def emptyTurns : Turns Unit (InMemoryTurnStore Unit) := Tasks.init .empty

theorem turn_faithful_run :
    ∃ state ∈ Steps.execute (turns InMemoryTurnStore.runtimeStore) emptyTurns callThenText,
      (accountOf state 0).deeds =
          [.called ⟨"c1", "echo", ()⟩, .executed ⟨"c1", "echo", ()⟩ (.error (.tool "echo" "boom")),
            .answered ⟨"c1", "echo", "boom", true⟩, .said "done"] ∧
        Faithful asking.1 (accountOf state 0) := by
  have hexecute : ∃ state ∈ Steps.execute (turns InMemoryTurnStore.runtimeStore) emptyTurns
      callThenText, (∃ task ∈ state.tasks[0]?, task.input = asking ∧ task.program.isDone = true) ∧
        (accountOf state 0).deeds =
          [.called ⟨"c1", "echo", ()⟩, .executed ⟨"c1", "echo", ()⟩ (.error (.tool "echo" "boom")),
            .answered ⟨"c1", "echo", "boom", true⟩, .said "done"] ∧
          TextsAlone (accountOf state 0).responses := by
    unfold TextsAlone
    decide +kernel
  obtain ⟨state, hstate, ⟨task, hat, hinput, hdone⟩, hdeeds, halone⟩ := hexecute
  have hreach := Steps.reach_of_execute
    (Steps.guarded_of_forall (fun _ _ ↦ trivial) _ callThenText) hstate
  refine ⟨state, hstate, hdeeds, ?_⟩
  rw [← hinput]
  exact ((turn_faithful_iff hreach hat).2.1 hdone).mpr halone

/-- A turn that is given a text and a tool call ends with the text; the call is never run. -/
theorem turn_drops_calls :
    ∃ state ∈ Steps.execute (turns InMemoryTurnStore.runtimeStore) emptyTurns callBesideText,
      (accountOf state 0).calls = [⟨"c1", "echo", ()⟩] ∧
        (accountOf state 0).deeds = [.said "Let me look."] ∧
          ¬ Faithful asking.1 (accountOf state 0) := by
  have hexecute : ∃ state ∈ Steps.execute (turns InMemoryTurnStore.runtimeStore) emptyTurns
      callBesideText, (accountOf state 0).calls = [⟨"c1", "echo", ()⟩] ∧
        (accountOf state 0).deeds = [.said "Let me look."] := by decide +kernel
  obtain ⟨state, hstate, hcalls, hdeeds⟩ := hexecute
  refine ⟨state, hstate, hcalls, hdeeds, ?_⟩
  rintro ⟨deeds, hhandled, hinitial⟩
  rw [hcalls] at hhandled
  rw [hdeeds] at hinitial
  rcases hinitial with hinitial | ⟨text, hsaid⟩
  · exact hhandled.said_not_mem "Let me look." (hinitial.subset (by simp))
  · have hsplit : [] ++ [.said "Let me look."] = deeds ++ [.said text] := hsaid
    obtain ⟨hnil, -⟩ := List.append_inj' hsplit rfl
    have hcalled := hhandled.called_eq
    rw [← hnil] at hcalled
    cases hcalled

end Seidrum.Agent
