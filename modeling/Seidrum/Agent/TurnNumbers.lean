import Seidrum.Agent.Turn
import Seidrum.Foundation.CountedLog

/-!
# The numbers of a session's records

A turn counts its session once, before it appends its first record, and counts on by itself.  The
records of a session are numbered 1, 2, 3, … in the order of the log exactly when no turn appends to
the session after another has appended to it since the turn counted it.
-/

namespace Seidrum.Agent

open Seidrum.Foundation

variable {Value σ : Type} (store : RuntimeStore Value σ)

/-- What an operation of a turn means to the sessions. -/
def sessionAccess : (op : TurnOp Value) → TurnAnswer Value op → Access String
  | .records sessionId, .ok records => .count sessionId records.length
  | .append record, .ok () => .add record.sessionId record.sequence
  | _, _ => .other

def sessionLedger : Ledger (perform store) String where
  access := sessionAccess
  log := store.sequences
  log_count := by
    intro shared op env answer shared' key length hperform hcount
    cases op with
    | records sessionId =>
      cases answer with
      | error error => cases hcount
      | ok records =>
        obtain ⟨rfl, rfl⟩ := Access.count.inj hcount
        cases env with
        | served =>
          obtain ⟨hrecords, -⟩ := Prod.mk.inj (Option.some.inj hperform)
          rw [← (store.records_perm hrecords).length_eq, List.length_map]
        | failed error => cases hperform
        | recordId id => cases hperform
        | response response => cases hperform
        | toolOutcome outcome => cases hperform
    | append record => cases answer <;> cases hcount
    | newRecordId => cases hcount
    | complete request => cases hcount
    | execute call => cases hcount
  log_step := by
    intro shared op env answer shared' key hperform
    cases op <;> cases env <;> cases hperform <;>
      simp only [sessionAccess, List.append_nil]
    case records.served => cases store.records _ shared <;> simp
    case append.served record => rw [store.sequences_append]

/-! ## One turn counts on -/

section Rule

variable {S : Type*} {protocol : Protocol (TurnAnswer Value) S} {input : TurnInput}
variable {ready : S → ℕ → Prop} {s : S} {sequence : ℕ}

/-- What is known of a turn's session and its next number, whatever the turn asks for: it appends that
number only. -/
structure CountingOn (protocol : Protocol (TurnAnswer Value) S) (input : TurnInput)
    (ready : S → ℕ → Prop) : Prop where
  append : ∀ {s sequence record}, ready s sequence → record.sessionId = input.sessionId →
    record.sequence = sequence → protocol.allowed s (.append record) ∧
      ready (protocol.after s (.append record) (.ok ())) (sequence + 1) ∧
        ∀ error, ready (protocol.after s (.append record) (.error error)) sequence
  recordId : ∀ {s sequence}, ready s sequence → protocol.allowed s .newRecordId ∧
    ∀ id, ready (protocol.after s .newRecordId id) sequence
  complete : ∀ {s sequence} request, ready s sequence → protocol.allowed s (.complete request) ∧
    ∀ response, ready (protocol.after s (.complete request) response) sequence
  execute : ∀ {s sequence} call, ready s sequence → protocol.allowed s (.execute call) ∧
    ∀ outcome, ready (protocol.after s (.execute call) outcome) sequence

/-- The session is counted up to some number. -/
def Counted (ready : S → ℕ → Prop) (s : S) : Prop := ∃ sequence, ready s sequence

/-- An append of the next number. -/
theorem CountingOn.follows_append (h : CountingOn protocol input ready)
    {record : StoredTurnRecord Value} {final : S → Except RuntimeError Unit → Prop}
    (hready : ready s sequence) (hsession : record.sessionId = input.sessionId)
    (hsequence : record.sequence = sequence)
    (hok : ∀ s, ready s (sequence + 1) → final s (.ok ()))
    (herror : ∀ s error, Counted ready s → final s (.error error)) :
    (Agent.append record).run.Follows protocol final s := by
  obtain ⟨hallowed, happended, hfailed⟩ := h.append hready hsession hsequence
  apply Program.Follows.ask hallowed
  intro answer
  cases answer with
  | error error => exact herror _ error ⟨sequence, hfailed error⟩
  | ok done => exact hok _ happended

theorem CountingOn.follows_newRecordId (h : CountingOn protocol input ready)
    {final : S → Except RuntimeError String → Prop} (hready : ready s sequence)
    (hid : ∀ s id, ready s sequence → final s (.ok id)) :
    (newRecordId : TurnM Value String).run.Follows protocol final s := by
  obtain ⟨hallowed, hafter⟩ := h.recordId hready
  exact Program.Follows.liftExcept (Program.Follows.ask hallowed fun id ↦ hid _ id (hafter id))

variable {runtime : AgentRuntime} {toolResults : List ToolResult}

theorem CountingOn.follows_executeTool (h : CountingOn protocol input ready) {call : ToolCall Value}
    {final : S → Except RuntimeError ToolResult → Prop} (hready : ready s sequence)
    (hresult : ∀ s result, ready s sequence → final s (.ok result)) :
    (AgentRuntime.executeTool runtime call).run.Follows protocol final s := by
  unfold AgentRuntime.executeTool
  split_ifs
  · obtain ⟨hallowed, hafter⟩ := h.execute call hready
    apply Program.Follows.liftExcept
    apply Program.Follows.map
    exact Program.Follows.ask hallowed fun outcome ↦ hresult _ _ (hafter outcome)
  · exact hresult _ _ hready

/-- Where the calls of a response leave the session. -/
def CountedOn (ready : S → ℕ → Prop) (s : S) : Except RuntimeError (ℕ × List ToolResult) → Prop
  | .ok after => ready s after.1
  | .error _ => Counted ready s

theorem CountingOn.follows_executeCalls (h : CountingOn protocol input ready)
    {calls : List (ToolCall Value)} (hready : ready s sequence) :
    (AgentRuntime.executeCalls runtime input calls sequence toolResults).run.Follows
      protocol (CountedOn ready) s := by
  induction calls generalizing sequence toolResults s with
  | nil => exact hready
  | cons call rest ih =>
    apply Program.Follows.bindExcept
    refine h.follows_newRecordId hready fun s id hready ↦ ?_
    apply Program.Follows.bindExcept
    apply h.follows_append hready rfl rfl _ fun s error hcounted ↦ hcounted
    intro s hready
    apply Program.Follows.bindExcept
    refine h.follows_executeTool hready fun s result hready ↦ ?_
    apply Program.Follows.bindExcept
    refine h.follows_newRecordId hready fun s id hready ↦ ?_
    apply Program.Follows.bindExcept
    apply h.follows_append hready rfl rfl _ fun s error hcounted ↦ hcounted
    exact fun s hready ↦ ih hready

theorem CountingOn.follows_iterate (h : CountingOn protocol input ready) {left : ℕ}
    (hready : ready s sequence) :
    (AgentRuntime.iterate runtime input left sequence toolResults : TurnM Value _).run.Follows
      protocol (fun s _ ↦ Counted ready s) s := by
  induction left generalizing sequence toolResults s with
  | zero => exact ⟨sequence, hready⟩
  | succ left ih =>
    apply Program.Follows.bindExcept
    obtain ⟨hallowed, hafter⟩ := h.complete ⟨input.sessionId, input.agentId,
      [⟨"user", input.userMessage⟩], toolResults⟩ hready
    refine Program.Follows.ask hallowed fun answer ↦ ?_
    have hready := hafter answer
    cases answer with
    | error error => exact ⟨sequence, hready⟩
    | ok response =>
      dsimp only
      cases response.finalText with
      | some finalText =>
        apply Program.Follows.bindExcept
        refine h.follows_newRecordId hready fun s id hready ↦ ?_
        apply Program.Follows.bindExcept
        apply h.follows_append hready rfl rfl _ fun s error hcounted ↦ hcounted
        exact fun s hready ↦ ⟨_, hready⟩
      | none =>
        apply Program.Follows.bindExcept
        apply Program.Follows.mono _ (h.follows_executeCalls hready)
        intro s result hresult
        cases result with
        | error error => exact hresult
        | ok after => exact ih hresult

/-- A turn that may count its session gives its records the numbers after the count. -/
theorem CountingOn.follows_runTurn (h : CountingOn protocol input ready) {ended : S → Prop}
    (hended : ∀ s, Counted ready s → ended s)
    (hcount : protocol.allowed s (.records input.sessionId))
    (hcounted : ∀ records, ready (protocol.after s (.records input.sessionId) (.ok records))
      (records.length + 1))
    (herror : ∀ error, ended (protocol.after s (.records input.sessionId) (.error error))) :
    (AgentRuntime.runTurn runtime input : TurnM Value _).run.Follows protocol
      (fun s _ ↦ ended s) s := by
  apply Program.Follows.bindExcept
  apply Program.Follows.bindExcept
  refine Program.Follows.ask hcount fun answer ↦ ?_
  cases answer with
  | error error => exact herror error
  | ok records =>
    apply Program.Follows.bindExcept
    refine h.follows_newRecordId (hcounted records) fun s id hready ↦ ?_
    apply Program.Follows.bindExcept
    apply h.follows_append hready rfl rfl _ fun s error hcounted ↦ hended s hcounted
    intro s hready
    exact Program.Follows.mono (fun s _ hcounted ↦ hended s hcounted) (h.follows_iterate hready)

end Rule

section Protocol

variable {store}

/-- The ledger of the sessions tells the next number of a turn's session. -/
theorem countingOn_sessionLedger (input : TurnInput) :
    CountingOn (sessionLedger store).protocol input
      fun next sequence ↦ next input.sessionId = some sequence where
  append {next sequence record} hnext hsession hsequence := by
    refine ⟨?_, ?_, fun error ↦ hnext⟩
    · intro answer key number hadd
      cases answer with
      | error error => cases hadd
      | ok done =>
        obtain ⟨rfl, rfl⟩ := Access.add.inj hadd
        rw [hsession, hnext, hsequence]
    · have hafter : (sessionLedger store).protocol.after next (.append record) (.ok ()) =
          Function.update next record.sessionId ((next record.sessionId).map (· + 1)) := rfl
      rw [hafter, hsession, Function.update_self, hnext]
      rfl
  recordId hnext := by
    refine ⟨fun answer key number hadd ↦ ?_, fun _ ↦ hnext⟩
    cases hadd
  complete _ hnext := by
    refine ⟨fun answer key number hadd ↦ ?_, fun _ ↦ hnext⟩
    cases hadd
  execute _ hnext := by
    refine ⟨fun answer key number hadd ↦ ?_, fun _ ↦ hnext⟩
    cases hadd

/-- A turn gives its records the numbers after its count of the session. -/
theorem follows_turn (start : AgentRuntime × TurnInput) :
    (turn start : Program (TurnAnswer Value) _).Follows (sessionLedger store).protocol
      (fun _ _ ↦ True) fun _ ↦ none := by
  have hcounting : CountingOn (sessionLedger store).protocol start.2 _ :=
    countingOn_sessionLedger start.2
  apply hcounting.follows_runTurn (fun _ _ ↦ trivial)
  · intro answer key number hadd
    cases answer <;> cases hadd
  · intro records
    have hafter : (sessionLedger store).protocol.after (fun _ ↦ none)
        (.records start.2.sessionId) (.ok records) =
          Function.update (fun _ ↦ none) start.2.sessionId (some (records.length + 1)) := rfl
    rw [hafter, Function.update_self]
  · exact fun _ ↦ trivial

end Protocol

variable {store} {shared : σ} {state : Turns Value σ}
variable {guard : Turns Value σ → Move (AgentRuntime × TurnInput) (TurnEnv Value) → Prop}

/-- In every interleaving of turns on an empty store, the records of a session have distinct numbers,
1 to n in the order of their append, exactly when no turn appended to the session after another had
appended to it since the turn counted it. -/
theorem sequences_numbered_iff (hempty : ∀ sessionId, store.sequences sessionId shared = [])
    (hreach : Steps.Reach (turns store) guard (Tasks.init shared) state) (sessionId : String) :
    ((store.sequences sessionId state.shared).Nodup ∧
      store.sequences sessionId state.shared =
        List.range' 1 (store.sequences sessionId state.shared).length) ↔
      Undisturbed sessionId ((sessionLedger store).history state.trace) := by
  have hiff := Ledger.nodup_iff follows_turn hreach hempty sessionId
  constructor
  · exact fun h ↦ hiff.mp h.1
  · intro h
    have hnodup := hiff.mpr h
    exact ⟨hnodup, Ledger.eq_range'_of_nodup follows_turn hreach hempty hnodup⟩

/-- A turn of agent `a` in session `s`, without tools. -/
private def greeting (text : String) : AgentRuntime × TurnInput :=
  (⟨{}, []⟩, ⟨"s", "a", text⟩)

/-- One turn after the other. -/
private def consecutiveTurns : List (Move (AgentRuntime × TurnInput) (TurnEnv Unit)) :=
  [.spawn (greeting "hi"), .run 0 .served, .run 0 (.recordId "r1"), .run 0 .served,
    .run 0 (.response (.error (.provider "down"))),
    .spawn (greeting "again"), .run 1 .served, .run 1 (.recordId "r2"), .run 1 .served,
    .run 1 (.response (.ok ⟨some "hello", []⟩)), .run 1 (.recordId "r3"), .run 1 .served]

/-- Two turns that count the session before either appends. -/
private def overlappingTurns : List (Move (AgentRuntime × TurnInput) (TurnEnv Unit)) :=
  [.spawn (greeting "hi"), .spawn (greeting "again"), .run 0 .served, .run 1 .served,
    .run 0 (.recordId "r1"), .run 0 .served, .run 1 (.recordId "r2"), .run 1 .served,
    .run 0 (.response (.error (.provider "down"))), .run 1 (.response (.error (.provider "down")))]

theorem sequences_numbered_run :
    ∃ state : Turns Unit (InMemoryTurnStore Unit),
      InMemoryTurnStore.runtimeStore.sequences "s" state.shared = [1, 2, 3] ∧
        Undisturbed "s" ((sessionLedger InMemoryTurnStore.runtimeStore).history state.trace) := by
  have hexecute : ∃ state ∈ Steps.execute (turns InMemoryTurnStore.runtimeStore)
      (Tasks.init InMemoryTurnStore.empty) consecutiveTurns,
        InMemoryTurnStore.runtimeStore.sequences "s" state.shared = [1, 2, 3] := by decide +kernel
  obtain ⟨state, hstate, hsequences⟩ := hexecute
  have hreach := Steps.reach_of_execute
    (Steps.guarded_of_forall (fun _ _ ↦ trivial) _ consecutiveTurns) hstate
  refine ⟨state, hsequences, (sequences_numbered_iff (fun _ ↦ rfl) hreach "s").mp ?_⟩
  rw [hsequences]
  decide

/-- Overlapping turns of one session give their records the same number. -/
theorem sequences_repeated :
    ∃ state ∈ Steps.execute (turns InMemoryTurnStore.runtimeStore)
      (Tasks.init InMemoryTurnStore.empty) overlappingTurns,
        (∀ task ∈ state.tasks, task.program.isDone = true) ∧
          ¬ (InMemoryTurnStore.runtimeStore.sequences "s" state.shared).Nodup := by
  decide +kernel

end Seidrum.Agent
