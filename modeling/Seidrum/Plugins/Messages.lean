import Seidrum.Kernel.Orchestrator

/-!
# Messages of the plugins

What the context loader, the router, the providers and the response formatter exchange over the bus.
-/

namespace Seidrum.Plugins

open EventBus (Value)
open Kernel

structure ChannelAction where
  label : String
  actionType : String
  value : String
  deriving DecidableEq, Repr

/-- A response back to a channel. -/
structure ChannelOutbound where
  platform : String
  chatId : String
  text : String
  format : String
  replyTo : Option String
  actions : List ChannelAction
  deriving DecidableEq, Repr

def outboundSubject (platform : String) : String := "channel." ++ platform ++ ".outbound"

structure UnifiedToolCall where
  id : String
  name : String
  arguments : Value

structure UnifiedToolResult where
  toolCallId : String
  content : String
  isError : Bool
  deriving DecidableEq, Repr

/-- A message in the form the providers share. -/
structure UnifiedMessage where
  role : String
  content : Option String
  toolCalls : Option (List UnifiedToolCall)
  toolResults : Option (List UnifiedToolResult)

structure ToolSchema where
  name : String
  description : String
  parameters : Value

structure UnifiedLlmRequest where
  agentId : String
  messages : List UnifiedMessage
  systemPrompt : Option String
  tools : List ToolSchema
  routingStrategy : String
  modelPreferences : List String
  correlationId : Option String
  scope : Option String

structure ToolCall where
  id : String
  functionName : String
  arguments : String
  deriving DecidableEq, Repr

structure TokenUsage where
  promptTokens : ℕ
  completionTokens : ℕ
  totalTokens : ℕ
  deriving DecidableEq, Repr

def TokenUsage.zero : TokenUsage := ⟨0, 0, 0⟩

structure LlmResponse where
  agentId : String
  content : Option String
  toolCalls : Option (List ToolCall)
  modelUsed : String
  provider : String
  tokens : TokenUsage
  durationMs : ℕ
  finishReason : String
  toolRounds : ℕ
  deriving DecidableEq, Repr

/-- A response that reports a failure. -/
def LlmResponse.failure (agentId text modelUsed provider : String) : LlmResponse where
  agentId := agentId
  content := some text
  toolCalls := none
  modelUsed := modelUsed
  provider := provider
  tokens := .zero
  durationMs := 0
  finishReason := "error"
  toolRounds := 0

end Seidrum.Plugins
