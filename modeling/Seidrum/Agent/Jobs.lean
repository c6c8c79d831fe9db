import Mathlib.Data.String.Basic
import Seidrum.Agent.Turn

/-!
# Durable jobs

A job is a stored definition; a forced run of it takes one turn in the job's session.  The run is
stored when it is queued, again before its turn and once more after it, each in a call of its own.  A
run is replayed by reading back the session it took place in.
-/

namespace Seidrum.Agent

open Seidrum.Foundation

/-- The session is the one the job goes on with; without one every run has its own. -/
structure JobDefinition (Value : Type) where
  jobId : String
  agentId : String
  sessionId : Option String
  prompt : String
  scheduleSpec : Option String
  enabled : Bool
  metadata : Value
  deriving DecidableEq, Repr

inductive JobRunStatus
  | queued
  | running
  | succeeded
  | failed
  | cancelled
  deriving DecidableEq, Repr

structure JobRunRecord where
  runId : String
  jobId : String
  sessionId : String
  status : JobRunStatus
  startedSequence : ℕ
  completedSequence : Option ℕ
  outputSummary : Option String
  finalText : Option String
  error : Option String
  traceSessionId : String
  deriving DecidableEq, Repr

namespace JobRunRecord

/-- A run as it is first stored. -/
def queued (runId jobId sessionId : String) (startedSequence : ℕ) : JobRunRecord where
  runId := runId
  jobId := jobId
  sessionId := sessionId
  status := .queued
  startedSequence := startedSequence
  completedSequence := none
  outputSummary := none
  finalText := none
  error := none
  traceSessionId := sessionId

/-- A run after its turn. -/
def finished (run : JobRunRecord) (completedSequence : ℕ) :
    Except RuntimeError TurnOutput → JobRunRecord
  | .ok output => { run with
      completedSequence := some completedSequence
      status := .succeeded
      outputSummary := some output.finalText
      finalText := some output.finalText
      error := none }
  | .error error => { run with
      completedSequence := some completedSequence
      status := .failed
      outputSummary := none
      finalText := none
      error := some error.toString }

end JobRunRecord

/-- Serialization of what the tables hold. -/
structure JobCodecs (Value Bytes : Type) where
  turnRecord : TurnCodec Value Bytes
  jobDefinition : Serialization (JobDefinition Value) Bytes
  jobRun : Codec JobRunRecord Bytes

/-- The tables of turn records, of definitions by their job and of runs by their id. -/
structure JobStore (Bytes : Type) where
  turns : RedbTurnStore Bytes
  jobDefinitions : Table String Bytes
  jobRuns : Table String Bytes

namespace JobStore

variable {Value Bytes : Type} (codecs : JobCodecs Value Bytes)

/-- A freshly created database. -/
def create : JobStore Bytes := ⟨.create, .empty, .empty⟩

def putJobDefinition (definition : JobDefinition Value) (store : JobStore Bytes) : JobStore Bytes :=
  { store with
    jobDefinitions := store.jobDefinitions.insert definition.jobId
      (codecs.jobDefinition.toVec definition) }

def jobDefinition (jobId : String) (store : JobStore Bytes) :
    Except RuntimeError (Option (JobDefinition Value)) :=
  match store.jobDefinitions.get jobId with
  | none => .ok none
  | some data =>
      match codecs.jobDefinition.fromSlice data with
      | .ok definition => .ok (some definition)
      | .error error => .error (.store ("failed to deserialize job definition: " ++ error))

def putJobRun (run : JobRunRecord) (store : JobStore Bytes) : JobStore Bytes :=
  { store with jobRuns := store.jobRuns.insert run.runId (codecs.jobRun.toVec run) }

def jobRun (runId : String) (store : JobStore Bytes) : Except RuntimeError (Option JobRunRecord) :=
  match store.jobRuns.get runId with
  | none => .ok none
  | some data =>
      match codecs.jobRun.fromSlice data with
      | .ok run => .ok (some run)
      | .error error => .error (.store ("failed to deserialize job run: " ++ error))

theorem jobRun_putJobRun (run : JobRunRecord) (store : JobStore Bytes) (runId : String) :
    (store.putJobRun codecs run).jobRun codecs runId =
      if runId = run.runId then .ok (some run) else store.jobRun codecs runId := by
  unfold jobRun putJobRun
  rw [Table.get_insert]
  split_ifs with hsame
  · simp
  · rfl

end JobStore

/-- What the runtime asks of the job store beside the operations of a turn. -/
inductive JobOp (Value : Type)
  | turn (op : TurnOp Value)
  | putJobDefinition (definition : JobDefinition Value)
  | jobDefinition (jobId : String)
  | putJobRun (run : JobRunRecord)
  deriving DecidableEq, Repr

abbrev JobAnswer (Value : Type) : JobOp Value → Type
  | .turn op => TurnAnswer Value op
  | .putJobDefinition _ => Except RuntimeError Unit
  | .jobDefinition _ => Except RuntimeError (Option (JobDefinition Value))
  | .putJobRun _ => Except RuntimeError Unit

abbrev JobM (Value α : Type) := ExceptT RuntimeError (Program (JobAnswer Value)) α

section Calls

variable {Value : Type}

def inTurn {α : Type} (computation : TurnM Value α) : JobM Value α :=
  ExceptT.mk (Program.embed JobOp.turn computation.run)

def putJobDefinition (definition : JobDefinition Value) : JobM Value Unit :=
  ExceptT.mk (Program.ask (JobOp.putJobDefinition definition))

def jobDefinition (jobId : String) : JobM Value (Option (JobDefinition Value)) :=
  ExceptT.mk (Program.ask (JobOp.jobDefinition jobId))

def putJobRun (run : JobRunRecord) : JobM Value Unit :=
  ExceptT.mk (Program.ask (JobOp.putJobRun run))

/-- The turn of a run; its outcome is no error of the job. -/
def jobTurn (runtime : AgentRuntime) (input : TurnInput) :
    JobM Value (Except RuntimeError TurnOutput) :=
  ExceptT.lift (inTurn (runtime.runTurn input)).run

/-- Take the turn of a run that is queued and store how it ended. -/
def runQueued (runtime : AgentRuntime) (definition : JobDefinition Value) (run : JobRunRecord) :
    JobM Value JobRunRecord := do
  putJobRun run
  let run := { run with status := .running }
  putJobRun run
  let result ← jobTurn runtime ⟨run.sessionId, definition.agentId, definition.prompt⟩
  let completedSequence := (← inTurn (records run.sessionId)).length
  let run := run.finished completedSequence result
  putJobRun run
  return run

def forceRunJob (runtime : AgentRuntime) (jobId : String) : JobM Value JobRunRecord := do
  match ← jobDefinition jobId with
  | none => throw (.store ("job `" ++ jobId ++ "` is not defined"))
  | some definition =>
      if definition.enabled then
        let runId ← inTurn newRecordId
        let sessionId :=
          definition.sessionId.getD ("job:" ++ definition.jobId ++ ":run:" ++ runId)
        let startedSequence := (← inTurn (records sessionId)).length + 1
        runQueued runtime definition (.queued runId definition.jobId sessionId startedSequence)
      else throw (.store ("job `" ++ jobId ++ "` is disabled"))

end Calls

structure RuntimeTrace (Value : Type) where
  sessionId : String
  agentId : String
  records : List (StoredTurnRecord Value)
  outboundEvents : List RuntimeEvent
  deriving DecidableEq, Repr

structure JobRunReplay (Value : Type) where
  run : JobRunRecord
  trace : RuntimeTrace Value
  deriving DecidableEq, Repr

section Replay

variable {Value Bytes : Type}

def StoredTurnRecord.agentId : StoredTurnRecord Value → String
  | userMessage _ _ _ agentId _ | assistantToolCall _ _ _ agentId _ _ _
  | toolResult _ _ _ agentId _ _ _ _ | assistantMessage _ _ _ agentId _ => agentId

/-- The response a record stands for. -/
def StoredTurnRecord.outboundEvent : StoredTurnRecord Value → Option RuntimeEvent
  | assistantMessage _ _ sessionId agentId content =>
      some (.outboundResponse sessionId agentId content)
  | _ => none

def buildTrace (sessionId agentId : String) (records : List (StoredTurnRecord Value)) :
    RuntimeTrace Value :=
  ⟨sessionId, agentId, records, records.filterMap StoredTurnRecord.outboundEvent⟩

variable (codecs : JobCodecs Value Bytes)

def replaySessionTrace (sessionId : String) (store : JobStore Bytes) :
    Except RuntimeError (RuntimeTrace Value) := do
  let records ← store.turns.records codecs.turnRecord sessionId
  let agentId := (records.head?.map StoredTurnRecord.agentId).getD ""
  return buildTrace sessionId agentId records

def replayJobRun (runId : String) (store : JobStore Bytes) :
    Except RuntimeError (JobRunReplay Value) := do
  match ← store.jobRun codecs runId with
  | none => throw (.store ("job run `" ++ runId ++ "` is not defined"))
  | some run => return ⟨run, ← replaySessionTrace codecs run.traceSessionId store⟩

end Replay

inductive JobCall (Value : Type)
  | putJobDefinition (definition : JobDefinition Value)
  | runTurn (runtime : AgentRuntime) (input : TurnInput)
  | forceRunJob (runtime : AgentRuntime) (jobId : String)
  deriving Repr

/-- What a call returns. -/
inductive JobOutput
  | defined
  | turn (output : TurnOutput)
  | run (run : JobRunRecord)
  deriving DecidableEq, Repr

section Perform

variable {Value Bytes : Type} (codecs : JobCodecs Value Bytes)

/-- A failed store call leaves the store as it was. -/
def performJob (shared : JobStore Bytes) :
    (op : JobOp Value) → TurnEnv Value → Option (JobAnswer Value op × JobStore Bytes)
  | .turn op, env =>
      (perform (RedbTurnStore.runtimeStore codecs.turnRecord) shared.turns op env).map
        fun (answer, turns) ↦ (answer, { shared with turns := turns })
  | .putJobDefinition definition, .served =>
      some (.ok (), shared.putJobDefinition codecs definition)
  | .putJobDefinition _, .failed error => some (.error error, shared)
  | .jobDefinition jobId, .served => some (shared.jobDefinition codecs jobId, shared)
  | .jobDefinition _, .failed error => some (.error error, shared)
  | .putJobRun run, .served => some (.ok (), shared.putJobRun codecs run)
  | .putJobRun _, .failed error => some (.error error, shared)
  | _, _ => none

def job : JobCall Value → JobM Value JobOutput
  | .putJobDefinition definition => (fun _ ↦ .defined) <$> putJobDefinition definition
  | .runTurn runtime input => .turn <$> inTurn (runtime.runTurn input)
  | .forceRunJob runtime jobId => .run <$> forceRunJob runtime jobId

abbrev Jobs (Value Bytes : Type) :=
  Tasks (JobStore Bytes) (JobCall Value) (JobAnswer Value) (Except RuntimeError JobOutput)

/-- Calls on one store, interleaved at every operation. -/
def jobs : Steps (Jobs Value Bytes) (Move (JobCall Value) (TurnEnv Value)) :=
  Tasks.step (fun call ↦ (job call).run) (performJob codecs)

/-- The id an operation drew. -/
def drawnBy : (op : JobOp Value) → JobAnswer Value op → Option String
  | .turn .newRecordId, id => some id
  | _, _ => none

/-- An id the runtime draws was never drawn before. -/
def Fresh (state : Jobs Value Bytes) : Move (JobCall Value) (TurnEnv Value) → Prop
  | .run _ (.recordId id) => ∀ event ∈ state.trace, drawnBy event.op event.answer ≠ some id
  | _ => True

instance (state : Jobs Value Bytes) (move : Move (JobCall Value) (TurnEnv Value)) :
    Decidable (Fresh state move) := by
  unfold Fresh
  split <;> infer_instance

end Perform

end Seidrum.Agent
