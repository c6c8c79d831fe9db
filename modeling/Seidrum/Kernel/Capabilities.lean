import Seidrum.Kernel.ToolRegistry

/-!
# The kernel's own capabilities

The registry registers the tools that search it and describe its entries, the consciousness service the
tools that act for an agent; both register a tool that queries the brain.  A capability declares its
parameters as a schema of the objects it takes.
-/

namespace Seidrum.Kernel

open EventBus (Value)

/-- The exponent of a literal, and the literal before it. -/
def splitExponent (literal : List Char) : List Char × ℤ :=
  let (mantissa, exponent) := literal.span fun c ↦ c ≠ 'e' ∧ c ≠ 'E'
  (mantissa, match exponent.drop 1 with
    | '-' :: digits => -Nat.ofDigitChars 10 digits 0
    | '+' :: digits | digits => Nat.ofDigitChars 10 digits 0)

/-- The literal of a number without a fractional part. -/
def isIntegral (literal : String) : Bool :=
  let (mantissa, exponent) := splitExponent literal.toList
  let (whole, fraction) := (mantissa.dropWhile (· = '-')).span (· ≠ '.')
  ((whole ++ fraction.drop 1).drop (whole.length + exponent).toNat).all (· = '0')

inductive ParameterType
  | string
  | enum (values : List String)
  | integer
  | object
  | strings

namespace ParameterType

/-- The values a parameter of the type may have. -/
def Allows : ParameterType → Value → Bool
  | string, .string _ => true
  | enum values, .string value => values.contains value
  | integer, .number literal => isIntegral literal
  | object, .object _ => true
  | strings, .array items => items.all fun item ↦ item.asStr.isSome
  | _, _ => false

def fields : ParameterType → List (String × Value)
  | string => [("type", .string "string")]
  | enum values => [("enum", .array (values.map .string)), ("type", .string "string")]
  | integer => [("type", .string "integer")]
  | object => [("type", .string "object")]
  | strings => [("items", .object [("type", .string "string")]), ("type", .string "array")]

end ParameterType

structure Parameter where
  name : String
  type : ParameterType
  description : Option String := none

/-- The parameters a capability declares, in the order of their names. -/
structure Parameters where
  properties : List Parameter
  required : List String

namespace Parameters

def toValue (parameters : Parameters) : Value :=
  let properties := parameters.properties.map fun parameter ↦
    (parameter.name, Value.object
      (parameter.description.toList.map (fun text ↦ ("description", .string text)) ++
        parameter.type.fields))
  let required := if parameters.required = [] then []
    else [("required", Value.array (parameters.required.map .string))]
  .object ([("properties", .object properties)] ++ required ++ [("type", .string "object")])

/-- The arguments the parameters allow.  A field that is not declared may have any value. -/
def Allows (parameters : Parameters) : Value → Bool
  | .object fields =>
      (parameters.required.all fun name ↦ ((Value.object fields).get name).isSome) &&
        parameters.properties.all fun parameter ↦
          ((Value.object fields).get parameter.name).all parameter.type.Allows
  | _ => false

end Parameters

inductive MetaCapability
  | brainQuery
  | searchTools
  | getToolManual
  deriving DecidableEq, Repr

namespace MetaCapability

def parameters : MetaCapability → Parameters
  | brainQuery => {
      properties := [
        ⟨"aql", .string, none⟩,
        ⟨"bind_vars", .object, none⟩,
        ⟨"limit", .integer, none⟩,
        ⟨"query_type", .enum ["aql", "vector_search", "graph_traverse", "get_facts", "get_context"],
          none⟩]
      required := ["query_type"] }
  | searchTools => {
      properties := [⟨"limit", .integer, none⟩, ⟨"query_text", .string, none⟩]
      required := ["query_text"] }
  | getToolManual => {
      properties := [⟨"tool_id", .string, none⟩]
      required := ["tool_id"] }

/-- What `register_meta_capabilities` registers. -/
def payload (capability : MetaCapability) : ToolRegisterPayload :=
  match capability with
  | brainQuery => {
      toolId := "brain-query"
      pluginId := "kernel"
      name := "Brain Query"
      summaryMd := "Query the knowledge graph using AQL"
      manualMd :=
        "# brain-query\n\n" ++
        "Execute an AQL query against the Seidrum knowledge graph (ArangoDB).\n\n" ++
        "## Parameters\n\n" ++
        "- `query_type` (string, required): One of `aql`, `vector_search`, " ++
        "`graph_traverse`, `get_facts`, `get_context`.\n" ++
        "- `aql` (string): Raw AQL query string (for `aql` type).\n" ++
        "- `bind_vars` (object): AQL bind variables.\n" ++
        "- `limit` (integer): Max results to return.\n"
      parameters := capability.parameters.toValue
      callSubject := "capability.call.kernel"
      kind := "tool" }
  | searchTools => {
      toolId := "search-tools"
      pluginId := "kernel"
      name := "Search Capabilities"
      summaryMd := "Search for available capabilities by description"
      manualMd :=
        "# search-tools\n\n" ++
        "Full-text search across all registered capability summaries and manuals.\n\n" ++
        "## Parameters\n\n" ++
        "- `query_text` (string, required): Natural-language search query.\n" ++
        "- `limit` (integer): Max results (default 5).\n"
      parameters := capability.parameters.toValue
      callSubject := "capability.search"
      kind := "both" }
  | getToolManual => {
      toolId := "get-tool-manual"
      pluginId := "kernel"
      name := "Get Capability Manual"
      summaryMd := "Get the full manual for a capability by ID"
      manualMd :=
        "# get-tool-manual\n\n" ++
        "Retrieve the full documentation (manual_md) for a specific capability.\n\n" ++
        "## Parameters\n\n" ++
        "- `tool_id` (string, required): The unique capability identifier.\n"
      parameters := capability.parameters.toValue
      callSubject := "capability.describe"
      kind := "both" }

end MetaCapability

/-! ## The consciousness service's capabilities -/

inductive BuiltinCapability
  | brainQuery
  | subscribeEvents
  | unsubscribeEvents
  | delegateTask
  | scheduleWake
  | sendNotification
  | getConversation
  | listConversations
  | searchSkills
  | loadSkill
  | saveSkill
  deriving DecidableEq, Repr

namespace BuiltinCapability

def toolId : BuiltinCapability → String
  | brainQuery => "brain-query"
  | subscribeEvents => "subscribe-events"
  | unsubscribeEvents => "unsubscribe-events"
  | delegateTask => "delegate-task"
  | scheduleWake => "schedule-wake"
  | sendNotification => "send-notification"
  | getConversation => "get-conversation"
  | listConversations => "list-conversations"
  | searchSkills => "search-skills"
  | loadSkill => "load-skill"
  | saveSkill => "save-skill"

/-- The built-in capability a call names. -/
def ofToolId : String → Option BuiltinCapability
  | "brain-query" => some brainQuery
  | "subscribe-events" => some subscribeEvents
  | "unsubscribe-events" => some unsubscribeEvents
  | "delegate-task" => some delegateTask
  | "schedule-wake" => some scheduleWake
  | "send-notification" => some sendNotification
  | "get-conversation" => some getConversation
  | "list-conversations" => some listConversations
  | "search-skills" => some searchSkills
  | "load-skill" => some loadSkill
  | "save-skill" => some saveSkill
  | _ => none

def summary : BuiltinCapability → String
  | brainQuery => "Query the knowledge graph using AQL"
  | subscribeEvents => "Subscribe to NATS event patterns for consciousness"
  | unsubscribeEvents => "Stop watching for NATS events"
  | delegateTask => "Delegate a task to another agent"
  | scheduleWake => "Schedule a self-wake timer for future processing"
  | sendNotification => "Send a proactive message to the user"
  | getConversation => "Load a conversation thread by ID"
  | listConversations => "List recent conversations"
  | searchSkills => "Search for behavioral skills by semantic query"
  | loadSkill => "Load a specific skill into conversation context"
  | saveSkill => "Save learned behavior as a reusable skill"

/-- `builtin_tool_schemas`: the parameters of a tool. -/
def parameters : BuiltinCapability → Parameters
  | brainQuery => {
      properties := [
        ⟨"aql", .string, some "AQL query string"⟩,
        ⟨"bind_vars", .object, none⟩,
        ⟨"limit", .integer, none⟩,
        ⟨"query_type", .enum ["aql", "get_facts", "get_context"], none⟩]
      required := ["query_type"] }
  | subscribeEvents => {
      properties := [
        ⟨"duration_seconds", .integer, some "Optional auto-expiry in seconds"⟩,
        ⟨"subjects", .strings, some "NATS subject patterns to subscribe to"⟩]
      required := ["subjects"] }
  | unsubscribeEvents => {
      properties := [⟨"subjects", .strings, none⟩]
      required := ["subjects"] }
  | delegateTask => {
      properties := [
        ⟨"context", .object, some "Additional context"⟩,
        ⟨"message", .string, some "Task description for the target agent"⟩,
        ⟨"to_agent_id", .string, some "Target agent ID"⟩]
      required := ["to_agent_id", "message"] }
  | scheduleWake => {
      properties := [
        ⟨"context", .object, some "Context to include when waking up"⟩,
        ⟨"delay_seconds", .integer, some "Seconds until wake-up"⟩,
        ⟨"reason", .string, some "Why you are scheduling this"⟩]
      required := ["delay_seconds", "reason"] }
  | sendNotification => {
      properties := [
        ⟨"channel", .string, some "Channel platform (e.g., telegram, cli)"⟩,
        ⟨"chat_id", .string, some "Chat/conversation ID on the platform"⟩,
        ⟨"text", .string, some "Message text"⟩]
      required := ["channel", "chat_id", "text"] }
  | getConversation => {
      properties := [
        ⟨"conversation_id", .string, none⟩,
        ⟨"max_messages", .integer, some "Maximum recent messages to return (0 = all)"⟩]
      required := ["conversation_id"] }
  | listConversations => {
      properties := [
        ⟨"limit", .integer, some "Max results (default 20)"⟩,
        ⟨"platform", .string, some "Filter by platform"⟩]
      required := [] }
  | searchSkills => {
      properties := [
        ⟨"limit", .integer, some "Max results (default 5)"⟩,
        ⟨"query", .string, some "Natural language query to find relevant skills"⟩]
      required := ["query"] }
  | loadSkill => {
      properties := [⟨"skill_id", .string, some "Skill ID to load"⟩]
      required := ["skill_id"] }
  | saveSkill => {
      properties := [
        ⟨"description", .string, some "What triggers this skill (used for semantic search)"⟩,
        ⟨"snippet", .string,
          some "The behavioral instruction to inject when this skill is active"⟩,
        ⟨"tags", .strings, some "Tags for categorization"⟩]
      required := ["description", "snippet"] }

/-- What `register_builtin_capabilities` registers. -/
def register (capability : BuiltinCapability) : ToolRegisterPayload where
  toolId := capability.toolId
  pluginId := "consciousness"
  name := capability.toolId
  summaryMd := capability.summary
  manualMd := ""
  parameters := capability.parameters.toValue
  callSubject := "capability.call.consciousness"
  kind := "tool"

end BuiltinCapability

/-- A registration as it is sent over the bus. -/
def ToolRegisterPayload.toValue (payload : ToolRegisterPayload) : Value := payload.entry.toValue

@[simp]
theorem ToolRegisterPayload.fromValue_toValue (payload : ToolRegisterPayload) :
    ToolRegisterPayload.fromValue payload.toValue = some payload := rfl

/-- A capability the kernel registers: the registry in its own table, the consciousness service by a
message. -/
inductive KernelCapability
  | registry (capability : MetaCapability)
  | consciousness (capability : BuiltinCapability)
  deriving DecidableEq, Repr

namespace KernelCapability

def payload : KernelCapability → ToolRegisterPayload
  | registry capability => capability.payload
  | consciousness capability => capability.register

def toolId (capability : KernelCapability) : String := capability.payload.toolId

def parameters : KernelCapability → Parameters
  | registry capability => capability.parameters
  | consciousness capability => capability.parameters

/-- The registry registers a capability of its own, or one it is told of. -/
def registerIn (tools : ToolTable) : KernelCapability → ToolTable
  | registry capability => (registerCapability tools capability.payload true).1
  | consciousness capability =>
      match ToolRegisterPayload.fromValue capability.register.toValue with
      | some payload => (registerCapability tools payload true).1
      | none => tools

/-- The table after registrations in some order. -/
def registerAll (registered : List KernelCapability) : ToolTable :=
  registered.foldl registerIn .empty

end KernelCapability

end Seidrum.Kernel
