import Seidrum.Agent.TurnStore
import Seidrum.Foundation.Program

/-!
# Turns

A turn records the user's message, then asks the provider for responses until one carries a final
text.  The tool calls of a response without a text are run one after the other, each recorded before
and after.  Every store, provider and tool call is an operation of the turn's program, so turns can
be interleaved at each of them.
-/

namespace Seidrum.Agent

open Seidrum.Foundation

structure TurnInput where
  sessionId : String
  agentId : String
  userMessage : String
  deriving DecidableEq, Repr

structure ToolCall (Value : Type) where
  id : String
  name : String
  arguments : Value
  deriving DecidableEq, Repr

structure ToolResult where
  callId : String
  toolName : String
  content : String
  isError : Bool
  deriving DecidableEq, Repr

structure ContextMessage where
  role : String
  content : String
  deriving DecidableEq, Repr

structure ProviderRequest where
  sessionId : String
  agentId : String
  messages : List ContextMessage
  toolResults : List ToolResult
  deriving DecidableEq, Repr

structure ProviderResponse (Value : Type) where
  finalText : Option String
  toolCalls : List (ToolCall Value)
  deriving DecidableEq, Repr

inductive RuntimeEvent
  | outboundResponse (sessionId agentId text : String)
  deriving DecidableEq, Repr

structure TurnOutput where
  sessionId : String
  agentId : String
  finalText : String
  events : List RuntimeEvent
  toolResults : List ToolResult
  deriving DecidableEq, Repr

structure RuntimeConfig where
  maxToolIterations : ℕ := 4
  deriving DecidableEq, Repr

/-- The configuration of a runtime and the names of its registered tools. -/
structure AgentRuntime where
  config : RuntimeConfig
  tools : List String
  deriving DecidableEq, Repr

/-- A tool call as the router delivers it, its arguments a JSON text. -/
structure RouterToolCall where
  id : String
  functionName : String
  arguments : String
  deriving DecidableEq, Repr

/-- What the runtime reads of the router's response. -/
structure LlmResponse where
  content : Option String
  toolCalls : Option (List RouterToolCall)
  deriving DecidableEq, Repr

section Router

variable {Value : Type} (fromStr : String → Except String Value)

def ToolCall.tryFrom (call : RouterToolCall) : Except RuntimeError (ToolCall Value) :=
  match fromStr call.arguments with
  | .error error =>
      .error (.provider ("invalid tool arguments for call `" ++ call.id ++ "`: " ++ error))
  | .ok arguments => .ok ⟨call.id, call.functionName, arguments⟩

def ProviderResponse.tryFrom (response : LlmResponse) :
    Except RuntimeError (ProviderResponse Value) := do
  let toolCalls ← (response.toolCalls.getD []).mapM (ToolCall.tryFrom fromStr)
  return ⟨response.content, toolCalls⟩

end Router

/-- What a turn asks of its store, its provider and its tools. -/
inductive TurnOp (Value : Type)
  | records (sessionId : String)
  | newRecordId
  | append (record : StoredTurnRecord Value)
  | complete (request : ProviderRequest)
  | execute (call : ToolCall Value)
  deriving DecidableEq, Repr

abbrev TurnAnswer (Value : Type) : TurnOp Value → Type
  | .records _ => Except RuntimeError (List (StoredTurnRecord Value))
  | .newRecordId => String
  | .append _ => Except RuntimeError Unit
  | .complete _ => Except RuntimeError (ProviderResponse Value)
  | .execute _ => Except RuntimeError ToolResult

/-- A computation of the runtime, which may end in an error. -/
abbrev TurnM (Value α : Type) := ExceptT RuntimeError (Program (TurnAnswer Value)) α

section Calls

variable {Value : Type}

def records (sessionId : String) : TurnM Value (List (StoredTurnRecord Value)) :=
  ExceptT.mk (Program.ask (TurnOp.records sessionId))

def newRecordId : TurnM Value String := ExceptT.lift (Program.ask TurnOp.newRecordId)

def append (record : StoredTurnRecord Value) : TurnM Value Unit :=
  ExceptT.mk (Program.ask (TurnOp.append record))

def complete (request : ProviderRequest) : TurnM Value (ProviderResponse Value) :=
  ExceptT.mk (Program.ask (TurnOp.complete request))

end Calls

namespace AgentRuntime

variable {Value : Type}

def nextSequence (sessionId : String) : TurnM Value ℕ := do
  return (← records sessionId).length + 1

/-- What the outcome of a tool is turned into. -/
def toolResult (call : ToolCall Value) : Except RuntimeError ToolResult → ToolResult
  | .ok result => result
  | .error (.tool _ message) => ⟨call.id, call.name, message, true⟩
  | .error error => ⟨call.id, call.name, error.toString, true⟩

/-- Run a tool; no outcome of it is an error of the turn. -/
def executeTool (runtime : AgentRuntime) (call : ToolCall Value) : TurnM Value ToolResult :=
  if call.name ∈ runtime.tools then
    ExceptT.lift (toolResult call <$> Program.ask (TurnOp.execute call))
  else
    pure ⟨call.id, call.name, (RuntimeError.toolNotRegistered call.name).toString, true⟩

/-- Run the tool calls of one response, counting the sequence on. -/
def executeCalls (runtime : AgentRuntime) (input : TurnInput) :
    List (ToolCall Value) → ℕ → List ToolResult → TurnM Value (ℕ × List ToolResult)
  | [], sequence, toolResults => pure (sequence, toolResults)
  | call :: rest, sequence, toolResults => do
      append (.assistantToolCall (← newRecordId) sequence input.sessionId input.agentId call.id
        call.name call.arguments)
      let result ← executeTool runtime call
      append (.toolResult (← newRecordId) (sequence + 1) input.sessionId input.agentId
        result.callId result.toolName result.content result.isError)
      executeCalls runtime input rest (sequence + 2) (toolResults ++ [result])

/-- The loop over provider responses, with the number of iterations left. -/
def iterate (runtime : AgentRuntime) (input : TurnInput) :
    ℕ → ℕ → List ToolResult → TurnM Value TurnOutput
  | 0, _, _ => throw (.iterationLimit runtime.config.maxToolIterations)
  | left + 1, sequence, toolResults => do
      let response ← complete ⟨input.sessionId, input.agentId, [⟨"user", input.userMessage⟩],
        toolResults⟩
      match response.finalText with
      | some finalText =>
          append (.assistantMessage (← newRecordId) sequence input.sessionId input.agentId
            finalText)
          return ⟨input.sessionId, input.agentId, finalText,
            [.outboundResponse input.sessionId input.agentId finalText], toolResults⟩
      | none =>
          let (sequence, toolResults) ←
            executeCalls runtime input response.toolCalls sequence toolResults
          iterate runtime input left sequence toolResults

def runTurn (runtime : AgentRuntime) (input : TurnInput) : TurnM Value TurnOutput := do
  let sequence ← nextSequence input.sessionId
  append (.userMessage (← newRecordId) sequence input.sessionId input.agentId input.userMessage)
  iterate runtime input runtime.config.maxToolIterations (sequence + 1) []

end AgentRuntime

/-- What the world does to an operation: the store serves it or fails, the provider and the tools
answer anything. -/
inductive TurnEnv (Value : Type)
  | served
  | failed (error : RuntimeError)
  | recordId (id : String)
  | response (response : Except RuntimeError (ProviderResponse Value))
  | toolOutcome (outcome : Except RuntimeError ToolResult)
  deriving Repr

section Perform

variable {Value σ : Type} (store : RuntimeStore Value σ)

/-- A failed store call leaves the store as it was. -/
def perform (shared : σ) :
    (op : TurnOp Value) → TurnEnv Value → Option (TurnAnswer Value op × σ)
  | .records sessionId, .served => some (store.records sessionId shared, shared)
  | .records _, .failed error => some (.error error, shared)
  | .newRecordId, .recordId id => some (id, shared)
  | .append record, .served => some (.ok (), store.append record shared)
  | .append _, .failed error => some (.error error, shared)
  | .complete _, .response response => some (response, shared)
  | .execute _, .toolOutcome outcome => some (outcome, shared)
  | _, _ => none

def turn (start : AgentRuntime × TurnInput) :
    Program (TurnAnswer Value) (Except RuntimeError TurnOutput) :=
  (start.1.runTurn start.2).run

abbrev Turns (Value σ : Type) :=
  Tasks σ (AgentRuntime × TurnInput) (TurnAnswer Value)
    (Except RuntimeError TurnOutput)

/-- Turns of any runtimes on one store, interleaved at every operation. -/
def turns : Steps (Turns Value σ) (Move (AgentRuntime × TurnInput) (TurnEnv Value)) :=
  Tasks.step turn (perform store)

end Perform

end Seidrum.Agent
