import Seidrum.Agent.Session
import Seidrum.Agent.Turn
import Seidrum.Foundation.CountedLog

/-!
# Audited tool calls

Before a tool is run its call is put to an authorization boundary, and the decision is written to an
audit store.  The tool runs only on a decision to allow that was recorded; a failure of the store ends
the call with an error.  A record is numbered by the length of the store, which is read in a step of
its own, so calls that overlap there give out the same number.
-/

namespace Seidrum.Agent

open Seidrum.Foundation

inductive ToolPermissionDecision
  | allow
  | deny (reason : String)
  | requireApproval (reason : String)
  deriving DecidableEq, Repr

structure ToolAuthorizationRequest (Value : Type) where
  callId : String
  toolName : String
  arguments : Value
  sessionId : Option String
  channelOrigin : Option ChannelContinuationIdentity
  deriving DecidableEq, Repr

structure AuthorizationAuditRecord where
  auditId : String
  sequence : ℕ
  decision : ToolPermissionDecision
  toolName : String
  callId : String
  sessionId : Option String
  channelOrigin : Option ChannelContinuationIdentity
  reason : Option String
  deriving DecidableEq, Repr

def permissionDecisionReason : ToolPermissionDecision → Option String
  | .allow => none
  | .deny reason | .requireApproval reason => some reason

def AuthorizationAuditRecord.new {Value : Type} (auditId : String) (sequence : ℕ)
    (decision : ToolPermissionDecision) (request : ToolAuthorizationRequest Value) :
    AuthorizationAuditRecord where
  auditId := auditId
  sequence := sequence
  decision := decision
  toolName := request.toolName
  callId := request.callId
  sessionId := request.sessionId
  channelOrigin := request.channelOrigin
  reason := permissionDecisionReason decision

/-- A store of audit records whose appends succeed, with the records in append order beside it. -/
structure AuthorizationAuditStore (σ : Type) where
  append : AuthorizationAuditRecord → σ → σ
  list : σ → Except RuntimeError (List AuthorizationAuditRecord)
  appended : σ → List AuthorizationAuditRecord
  appended_append : ∀ record store, appended (append record store) = appended store ++ [record]
  list_perm : ∀ {store records}, list store = .ok records → records.Perm (appended store)

/-- The numbers in append order. -/
def AuthorizationAuditStore.sequences {σ : Type} (store : AuthorizationAuditStore σ) (shared : σ) :
    List ℕ :=
  (store.appended shared).map AuthorizationAuditRecord.sequence

/-- Audits are listed by number; the sort is stable. -/
def sortAudits (records : List AuthorizationAuditRecord) : List AuthorizationAuditRecord :=
  records.insertionSort fun a b ↦ a.sequence ≤ b.sequence

def inMemoryAuthorizationAuditStore : AuthorizationAuditStore (List AuthorizationAuditRecord) where
  append record store := store ++ [record]
  list store := .ok (sortAudits store)
  appended store := store
  appended_append _ _ := rfl
  list_perm h := by
    obtain rfl := Except.ok.inj h
    exact List.perm_insertionSort _ _

/-- The store on disk is a table under ascending keys. -/
def redbAuthorizationAuditStore {Bytes : Type} (codec : Codec AuthorizationAuditRecord Bytes) :
    AuthorizationAuditStore (Table ℕ Bytes) where
  append record table := table.insert table.nextKey (codec.toVec record)
  list table := (readTable codec.toSerialization "authorization audit" table.entries).map sortAudits
  appended table := readable codec.toSerialization table.entries
  appended_append record table := readable_insert_nextKey codec table record
  list_perm {table records} h := by
    cases hall : readTable codec.toSerialization "authorization audit" table.entries with
    | error error => simp [hall, Except.map] at h
    | ok all =>
      rw [hall] at h
      obtain rfl := Except.ok.inj h
      rw [readTable_eq_readable hall]
      exact List.perm_insertionSort _ _

inductive AuditOp (Value : Type)
  | authorize (request : ToolAuthorizationRequest Value)
  | listAuthorizationAudits
  | newRecordId
  | appendAuthorizationAudit (record : AuthorizationAuditRecord)
  | execute (call : ToolCall Value)
  deriving DecidableEq, Repr

abbrev AuditAnswer (Value : Type) : AuditOp Value → Type
  | .authorize _ => ToolPermissionDecision
  | .listAuthorizationAudits => Except RuntimeError (List AuthorizationAuditRecord)
  | .newRecordId => String
  | .appendAuthorizationAudit _ => Except RuntimeError Unit
  | .execute _ => Except RuntimeError ToolResult

structure AuditedSecureToolExecutor where
  sessionId : Option String
  channelOrigin : Option ChannelContinuationIdentity
  deriving DecidableEq, Repr

namespace AuditedSecureToolExecutor

variable {Value : Type}

def execute (executor : AuditedSecureToolExecutor) (call : ToolCall Value) :
    ExceptT RuntimeError (Program (AuditAnswer Value)) ToolResult := do
  let request : ToolAuthorizationRequest Value :=
    ⟨call.id, call.name, call.arguments, executor.sessionId, executor.channelOrigin⟩
  let decision ← ExceptT.lift (Program.ask (AuditOp.authorize request))
  let audits ← ExceptT.mk (Program.ask AuditOp.listAuthorizationAudits)
  let auditId ← ExceptT.lift (Program.ask AuditOp.newRecordId)
  ExceptT.mk (Program.ask (AuditOp.appendAuthorizationAudit
    (.new auditId (audits.length + 1) decision request)))
  match decision with
  | .allow => ExceptT.mk (Program.ask (AuditOp.execute call))
  | .deny reason =>
      return ⟨call.id, call.name, "tool authorization denied: " ++ reason, true⟩
  | .requireApproval reason =>
      return ⟨call.id, call.name, "tool authorization requires approval: " ++ reason, true⟩

end AuditedSecureToolExecutor

/-- What the world does to an operation. -/
inductive AuditEnv
  | decision (decision : ToolPermissionDecision)
  | served
  | failed (error : RuntimeError)
  | recordId (id : String)
  | toolOutcome (outcome : Except RuntimeError ToolResult)
  deriving Repr

section Perform

variable {σ : Type} (store : AuthorizationAuditStore σ) (Value : Type)

/-- A failed store call leaves the store as it was. -/
def performAudit (shared : σ) :
    (op : AuditOp Value) → AuditEnv → Option (AuditAnswer Value op × σ)
  | .authorize _, .decision decision => some (decision, shared)
  | .listAuthorizationAudits, .served => some (store.list shared, shared)
  | .listAuthorizationAudits, .failed error => some (.error error, shared)
  | .newRecordId, .recordId id => some (id, shared)
  | .appendAuthorizationAudit record, .served => some (.ok (), store.append record shared)
  | .appendAuthorizationAudit _, .failed error => some (.error error, shared)
  | .execute _, .toolOutcome outcome => some (outcome, shared)
  | _, _ => none

variable {Value}

def auditedCall (start : AuditedSecureToolExecutor × ToolCall Value) :
    Program (AuditAnswer Value) (Except RuntimeError ToolResult) :=
  (start.1.execute start.2).run

abbrev AuditedCalls (Value σ : Type) :=
  Tasks σ (AuditedSecureToolExecutor × ToolCall Value) (AuditAnswer Value)
    (Except RuntimeError ToolResult)

/-- Calls of any executors on one store, interleaved at every operation. -/
def auditedCalls :
    Steps (AuditedCalls Value σ) (Move (AuditedSecureToolExecutor × ToolCall Value) AuditEnv) :=
  Tasks.step auditedCall (performAudit store Value)

end Perform

section Numbers

variable {Value σ : Type} (store : AuthorizationAuditStore σ)

/-- What an operation of a call means to the store. -/
def auditAccess : (op : AuditOp Value) → AuditAnswer Value op → Access Unit
  | .listAuthorizationAudits, .ok records => .count () records.length
  | .appendAuthorizationAudit record, .ok () => .add () record.sequence
  | _, _ => .other

def auditLedger : Ledger (performAudit store Value) Unit where
  access := auditAccess
  log _ := store.sequences
  log_count := by
    intro shared op env answer shared' key length hperform hcount
    cases op with
    | listAuthorizationAudits =>
      cases answer with
      | error error => cases hcount
      | ok records =>
        obtain ⟨-, rfl⟩ := Access.count.inj hcount
        cases env with
        | served =>
          obtain ⟨hrecords, -⟩ := Prod.mk.inj (Option.some.inj hperform)
          rw [AuthorizationAuditStore.sequences, List.length_map,
            (store.list_perm hrecords).length_eq]
        | decision decision => cases hperform
        | failed error => cases hperform
        | recordId id => cases hperform
        | toolOutcome outcome => cases hperform
    | appendAuthorizationAudit record => cases answer <;> cases hcount
    | authorize request => cases hcount
    | newRecordId => cases hcount
    | execute call => cases hcount
  log_step := by
    intro shared op env answer shared' key hperform
    cases op <;> cases env <;> cases hperform <;>
      simp only [auditAccess, List.append_nil]
    case listAuthorizationAudits.served => cases store.list shared <;> simp
    case appendAuthorizationAudit.served record =>
      rw [AuthorizationAuditStore.sequences, store.appended_append, List.map_append]
      rfl

end Numbers

/-! ## The order of a call -/

section Order

variable {Value : Type}

/-- The record an operation appended. -/
def appendedAudit : (op : AuditOp Value) → AuditAnswer Value op → Option AuthorizationAuditRecord
  | .appendAuthorizationAudit record, .ok () => some record
  | _, _ => none

/-- The decision an operation was given. -/
def decidedAudit : (op : AuditOp Value) → AuditAnswer Value op → Option ToolPermissionDecision
  | .authorize _, decision => some decision
  | _, _ => none

/-- The store failed an operation. -/
def auditFailed : (op : AuditOp Value) → AuditAnswer Value op → Bool
  | .listAuthorizationAudits, .error _ => true
  | .appendAuthorizationAudit _, .error _ => true
  | _, _ => false

/-- The call an operation runs the inner tool for. -/
def invokedTool : AuditOp Value → Option (ToolCall Value)
  | .execute call => some call
  | _ => none

def AuthorizationAuditRecord.Allows (record : AuthorizationAuditRecord) (call : ToolCall Value) :
    Prop :=
  record.decision = .allow ∧ record.callId = call.id ∧ record.toolName = call.name

/-- Where a call may perform an operation: the store has not failed it, its tool has not run, and it
runs its tool only when a record that allows it was appended. -/
structure MayPerform (history : List (Sigma (AuditAnswer Value))) (op : AuditOp Value) : Prop where
  sound : ∀ entry ∈ history, auditFailed entry.1 entry.2 = false
  waiting : ∀ entry ∈ history, invokedTool entry.1 = none
  allowed : ∀ call, invokedTool op = some call →
    ∃ entry ∈ history, ∃ record, appendedAudit entry.1 entry.2 = some record ∧ record.Allows call

/-- A call that ends without an error has its decision recorded. -/
def Recorded (history : List (Sigma (AuditAnswer Value))) (result : Except RuntimeError ToolResult) :
    Prop :=
  ∀ value, result = .ok value → ∀ entry ∈ history, ∀ decision,
    decidedAudit entry.1 entry.2 = some decision →
      ∃ other ∈ history, ∃ record, appendedAudit other.1 other.2 = some record ∧
        record.decision = decision

theorem recorded_error (history : List (Sigma (AuditAnswer Value))) (error : RuntimeError) :
    Recorded history (.error error) := fun value h ↦ by cases h

theorem recorded_of_appended {history : List (Sigma (AuditAnswer Value))}
    {record : AuthorizationAuditRecord} (result : Except RuntimeError ToolResult)
    (hmem : ⟨.appendAuthorizationAudit record, .ok ()⟩ ∈ history)
    (hdecided : ∀ entry ∈ history, ∀ decision, decidedAudit entry.1 entry.2 = some decision →
      record.decision = decision) : Recorded history result :=
  fun _ _ entry hentry decision h ↦ ⟨_, hmem, record, rfl, hdecided entry hentry decision h⟩

theorem follows_auditedCall (start : AuditedSecureToolExecutor × ToolCall Value) :
    (auditedCall start).Follows (Protocol.ofHistory MayPerform) Recorded [] := by
  apply Program.Follows.bindExcept
  apply Program.Follows.liftExcept
  refine Program.Follows.ask ⟨by simp, by simp, fun call h ↦ by cases h⟩ fun decision ↦ ?_
  apply Program.Follows.bindExcept
  refine Program.Follows.ask ?_ fun audits ↦ ?_
  · constructor <;> simp [Protocol.ofHistory, auditFailed, invokedTool]
  cases audits with
  | error error => exact recorded_error _ error
  | ok audits =>
    apply Program.Follows.bindExcept
    apply Program.Follows.liftExcept
    refine Program.Follows.ask ?_ fun auditId ↦ ?_
    · constructor <;> simp [Protocol.ofHistory, auditFailed, invokedTool]
    apply Program.Follows.bindExcept
    refine Program.Follows.ask ?_ fun appended ↦ ?_
    · constructor <;> simp [Protocol.ofHistory, auditFailed, invokedTool]
    cases appended with
    | error error => exact recorded_error _ error
    | ok done =>
      cases decision with
      | allow =>
        refine Program.Follows.ask ?_ fun outcome ↦ ?_
        · constructor
          · simp [Protocol.ofHistory, auditFailed]
          · simp [Protocol.ofHistory, invokedTool]
          · intro call hcall
            obtain rfl : start.2 = call := Option.some.inj hcall
            exact ⟨_, List.mem_concat_self, _, rfl, rfl, rfl, rfl⟩
        · apply recorded_of_appended outcome
            (List.mem_append_left _ (List.mem_concat_self))
          simp [Protocol.ofHistory, decidedAudit, AuthorizationAuditRecord.new]
      | deny reason | requireApproval reason =>
        apply recorded_of_appended _ (List.mem_concat_self)
        simp [Protocol.ofHistory, decidedAudit, AuthorizationAuditRecord.new]

/-- A call numbers its record by its count of the store. -/
theorem counts_auditedCall {σ : Type} {store : AuthorizationAuditStore σ}
    (start : AuditedSecureToolExecutor × ToolCall Value) :
    (auditedCall start).Follows (auditLedger store).protocol (fun _ _ ↦ True) fun _ ↦ none := by
  apply Program.Follows.bindExcept
  apply Program.Follows.liftExcept
  refine Program.Follows.ask (fun _ _ _ hadd ↦ by cases hadd) fun decision ↦ ?_
  apply Program.Follows.bindExcept
  refine Program.Follows.ask (fun answer _ _ hadd ↦ by cases answer <;> cases hadd) fun audits ↦ ?_
  cases audits with
  | error error => trivial
  | ok audits =>
    apply Program.Follows.bindExcept
    apply Program.Follows.liftExcept
    refine Program.Follows.ask (fun _ _ _ hadd ↦ by cases hadd) fun auditId ↦ ?_
    apply Program.Follows.bindExcept
    refine Program.Follows.ask ?_ fun appended ↦ ?_
    · intro answer key number hadd
      cases answer with
      | error error => cases hadd
      | ok done =>
        obtain ⟨rfl, rfl⟩ := Access.add.inj hadd
        rfl
    cases appended with
    | error error => trivial
    | ok done =>
      cases decision with
      | allow => exact Program.Follows.ask (fun _ _ _ hadd ↦ by cases hadd) fun _ ↦ trivial
      | deny reason | requireApproval reason => trivial

end Order

section Calls

variable {Value σ : Type} {store : AuthorizationAuditStore σ} {shared : σ}
variable {state : AuditedCalls Value σ}
variable {guard : AuditedCalls Value σ → Move (AuditedSecureToolExecutor × ToolCall Value) AuditEnv →
  Prop}

/-- What audited execution promises, the numbers apart. -/
structure Audited (store : AuthorizationAuditStore σ) (state : AuditedCalls Value σ) : Prop where
  /-- The store holds the records that were appended, in their order. -/
  durable : store.appended state.shared =
    state.trace.filterMap fun event ↦ appendedAudit event.op event.answer
  /-- A tool runs after a record that allows its call was appended by the call. -/
  allowed : Throughout (fun before event ↦ ∀ call, invokedTool event.op = some call →
    ∃ earlier ∈ before, earlier.task = event.task ∧ ∃ record,
      appendedAudit earlier.op earlier.answer = some record ∧ record.Allows call) state.trace
  /-- The decision on a call is on record, unless the call ended with an error. -/
  recorded : ∀ (i : ℕ) (task : Task (AuditedSecureToolExecutor × ToolCall Value) (AuditAnswer Value)
      (Except RuntimeError ToolResult)) (value : ToolResult),
    state.tasks[i]? = some task → task.program = .done (.ok value) →
      ∀ event ∈ state.events i, ∀ decision, decidedAudit event.op event.answer = some decision →
        ∃ other ∈ state.events i, ∃ record,
          appendedAudit other.op other.answer = some record ∧ record.decision = decision
  /-- A call that the store failed runs no tool, before or after. -/
  failed : ∀ i, ∀ event ∈ state.events i, auditFailed event.op event.answer = true →
    ∀ other ∈ state.events i, invokedTool other.op = none

/-- The store holds what was appended. -/
theorem appended_eq_trace (hempty : store.appended shared = [])
    (hreach : Steps.Reach (auditedCalls store) guard (Tasks.init shared) state) :
    store.appended state.shared =
      state.trace.filterMap fun event ↦ appendedAudit event.op event.answer := by
  apply hreach.invariant hempty
  rintro before (start | ⟨i, env⟩) next hbefore - hstep
  · cases hstep
    exact hbefore
  · obtain ⟨input, op, rest, answer, shared', -, hperform, rfl⟩ := Tasks.step_run hstep
    simp only [Tasks.answered, List.filterMap_append, ← hbefore]
    cases op <;> cases env <;> cases hperform <;> simp [appendedAudit]
    exact store.appended_append _ _

theorem mayPerform_of_reach
    (hreach : Steps.Reach (auditedCalls store) guard (Tasks.init shared) state)
    {before rest : List (Performed (AuditAnswer Value))} {event : Performed (AuditAnswer Value)}
    (hsplit : state.trace = before ++ event :: rest) :
    MayPerform ((before.filter fun earlier ↦ earlier.task = event.task).map
      fun earlier ↦ ⟨earlier.op, earlier.answer⟩) event.op := by
  rw [← Protocol.replay_ofHistory MayPerform]
  exact Tasks.allowed_throughout follows_auditedCall hreach before event rest hsplit

theorem audited_of_reach (hempty : store.appended shared = [])
    (hreach : Steps.Reach (auditedCalls store) guard (Tasks.init shared) state) :
    Audited store state := by
  constructor
  · exact appended_eq_trace hempty hreach
  · intro before event rest hsplit call hcall
    obtain ⟨entry, hentry, record, hrecord, hallows⟩ :=
      (mayPerform_of_reach hreach hsplit).allowed call hcall
    obtain ⟨earlier, hearlier, rfl⟩ := List.mem_map.mp hentry
    obtain ⟨hmem, htask⟩ := List.mem_filter.mp hearlier
    exact ⟨earlier, hmem, of_decide_eq_true htask, record, hrecord, hallows⟩
  · intro i task value hat hdone event hevent decision hdecision
    have hfollows := (Tasks.following_of_reach follows_auditedCall hreach).follows i task hat
    rw [hdone, Protocol.replay_ofHistory] at hfollows
    obtain ⟨entry, hentry, hrecord⟩ := hfollows value rfl ⟨event.op, event.answer⟩
      (List.mem_map_of_mem hevent) decision hdecision
    obtain ⟨other, hother, rfl⟩ := List.mem_map.mp hentry
    exact ⟨other, hother, hrecord⟩
  · intro i event hevent hfailed other hother
    obtain ⟨hmem, htask⟩ := List.mem_filter.mp hevent
    obtain ⟨hmem', htask'⟩ := List.mem_filter.mp hother
    have hsame : event.task = other.task :=
      (of_decide_eq_true htask).trans (of_decide_eq_true htask').symm
    obtain ⟨before, rest, hsplit⟩ := List.append_of_mem hmem
    rw [hsplit] at hmem'
    have hmay := mayPerform_of_reach hreach hsplit
    rcases List.mem_append.mp hmem' with hbefore | hafter
    · -- the tool would have run before the store failed
      exact hmay.waiting _ (List.mem_map_of_mem (List.mem_filter.mpr ⟨hbefore, by simp [hsame]⟩))
    · rcases List.mem_cons.mp hafter with rfl | hlater
      · obtain ⟨i, op, answer⟩ := other
        cases op <;> first | rfl | cases hfailed
      · -- the tool would run after the store failed
        obtain ⟨middle, last, hrest⟩ := List.append_of_mem hlater
        have hsplit' : state.trace = (before ++ event :: middle) ++ other :: last := by
          rw [hsplit, hrest, List.append_assoc, List.cons_append]
        have hsound := (mayPerform_of_reach hreach hsplit').sound ⟨event.op, event.answer⟩
          (List.mem_map_of_mem (List.mem_filter.mpr ⟨by simp, by simp [hsame]⟩))
        exact absurd hfailed (by simp [hsound])

/-- Tools run only on recorded permission, refusals are recorded and a failing store runs nothing, in
every interleaving; the records have distinct numbers besides exactly when no call appends its record
after another has appended one since the call counted the store. -/
theorem audited_numbers_iff (hempty : store.appended shared = [])
    (hreach : Steps.Reach (auditedCalls store) guard (Tasks.init shared) state) :
    (Audited store state ∧ (store.sequences state.shared).Nodup) ↔
      Undisturbed () ((auditLedger store).history state.trace) := by
  have hnone : ∀ key, (auditLedger store : Ledger (performAudit store Value) Unit).log key shared =
      [] :=
    fun _ ↦ congrArg (List.map AuthorizationAuditRecord.sequence) hempty
  have hnodup := Ledger.nodup_iff counts_auditedCall hreach hnone ()
  rw [← hnodup]
  exact and_iff_right (audited_of_reach hempty hreach)

/-- A call of the tool `shell`. -/
private def toolCall (id : String) : AuditedSecureToolExecutor × ToolCall Unit :=
  (⟨some "s", none⟩, ⟨id, "shell", ()⟩)

/-- A call that is allowed and run, then one that is denied. -/
private def consecutiveCalls :
    List (Move (AuditedSecureToolExecutor × ToolCall Unit) AuditEnv) :=
  [.spawn (toolCall "c1"), .run 0 (.decision .allow), .run 0 .served, .run 0 (.recordId "a1"),
    .run 0 .served, .run 0 (.toolOutcome (.ok ⟨"c1", "shell", "ok", false⟩)),
    .spawn (toolCall "c2"), .run 1 (.decision (.deny "no")), .run 1 .served,
    .run 1 (.recordId "a2"), .run 1 .served]

/-- Two calls that count the store before either appends. -/
private def overlappingCalls :
    List (Move (AuditedSecureToolExecutor × ToolCall Unit) AuditEnv) :=
  [.spawn (toolCall "c1"), .spawn (toolCall "c2"), .run 0 (.decision .allow),
    .run 1 (.decision .allow), .run 0 .served, .run 1 .served, .run 0 (.recordId "a1"),
    .run 0 .served, .run 1 (.recordId "a2"), .run 1 .served]

theorem audited_numbers_run :
    ∃ state : AuditedCalls Unit (List AuthorizationAuditRecord),
      inMemoryAuthorizationAuditStore.sequences state.shared = [1, 2] ∧
        Undisturbed () ((auditLedger inMemoryAuthorizationAuditStore).history state.trace) := by
  have hexecute : ∃ state ∈ Steps.execute (auditedCalls inMemoryAuthorizationAuditStore)
      (Tasks.init []) consecutiveCalls,
        inMemoryAuthorizationAuditStore.sequences state.shared = [1, 2] := by decide +kernel
  obtain ⟨state, hstate, hsequences⟩ := hexecute
  have hreach := Steps.reach_of_execute
    (Steps.guarded_of_forall (fun _ _ ↦ trivial) _ consecutiveCalls) hstate
  have haudited : Audited inMemoryAuthorizationAuditStore state := audited_of_reach rfl hreach
  refine ⟨state, hsequences, (audited_numbers_iff rfl hreach).mp ⟨haudited, ?_⟩⟩
  rw [hsequences]
  decide

/-- Overlapping calls give their records the same number. -/
theorem audited_numbers_repeated :
    ∃ state ∈ Steps.execute (auditedCalls inMemoryAuthorizationAuditStore)
      (Tasks.init []) overlappingCalls,
        ¬ (inMemoryAuthorizationAuditStore.sequences state.shared).Nodup := by
  decide +kernel

end Calls

end Seidrum.Agent
