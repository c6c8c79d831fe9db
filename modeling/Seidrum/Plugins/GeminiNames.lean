import Seidrum.Foundation.Renaming
import Seidrum.Plugins.ToolLoop

/-!
# Names of tools at the Google provider

Tools are declared with their hyphens written as underscores.  A call of the model is dispatched with
all underscores written as hyphens, and answered under that name.  In the history the calls have the
declared names, and the results are named after the identifiers of their calls.
-/

namespace Seidrum.Plugins

open EventBus (Value)
open Foundation Kernel

structure GeminiFunctionCall where
  name : String
  args : Value

structure GeminiFunctionResponse where
  name : String
  response : Value

structure GeminiPart where
  text : Option String
  functionCall : Option GeminiFunctionCall
  functionResponse : Option GeminiFunctionResponse

namespace GeminiPart

def textPart (text : String) : GeminiPart := ⟨some text, none, none⟩

def functionCallPart (name : String) (args : Value) : GeminiPart := ⟨none, some ⟨name, args⟩, none⟩

def functionResponsePart (name : String) (response : Value) : GeminiPart :=
  ⟨none, none, some ⟨name, response⟩⟩

end GeminiPart

structure GeminiContent where
  role : String
  parts : List GeminiPart

def GeminiContent.functionCalls (content : GeminiContent) : List GeminiFunctionCall :=
  content.parts.filterMap (·.functionCall)

def GeminiContent.functionResponses (content : GeminiContent) : List GeminiFunctionResponse :=
  content.parts.filterMap (·.functionResponse)

structure GeminiFunctionDeclaration where
  name : String
  description : String
  parameters : Value

structure GeminiToolDeclaration where
  functionDeclarations : List GeminiFunctionDeclaration

structure GeminiRequest where
  contents : List GeminiContent
  systemInstruction : Option GeminiPart
  tools : Option (List GeminiToolDeclaration)

def sanitizeToolName (name : String) : String := String.ofList (replaceLetter '-' '_' name.toList)

def unsanitizeToolName (name : String) : String := String.ofList (replaceLetter '_' '-' name.toList)

def toolResponse (result : String) (isError : Bool) : Value :=
  .object [("is_error", .bool isError), ("result", .string result)]

/-- A call of the history. -/
def callPart (call : UnifiedToolCall) : GeminiPart :=
  .functionCallPart (sanitizeToolName call.name) call.arguments

/-- A result of the history. -/
def resultPart (result : UnifiedToolResult) : GeminiPart :=
  .functionResponsePart (sanitizeToolName result.toolCallId)
    (toolResponse result.content result.isError)

def geminiParts (message : UnifiedMessage) : List GeminiPart :=
  ((message.content.filter (· ≠ "")).map GeminiPart.textPart).toList ++
    (message.toolCalls.getD []).map callPart ++ (message.toolResults.getD []).map resultPart

def unifiedToGeminiContents (messages : List UnifiedMessage) : List GeminiContent :=
  messages.filterMap fun message ↦
    if (geminiParts message).isEmpty then none
    else some ⟨if message.role = "assistant" then "model" else message.role, geminiParts message⟩

def functionDeclaration (tool : ToolSchema) : GeminiFunctionDeclaration where
  name := sanitizeToolName tool.name
  description := tool.description
  parameters := tool.parameters

def unifiedToGeminiTools (tools : List ToolSchema) : List GeminiToolDeclaration :=
  if tools.isEmpty then [] else [⟨tools.map functionDeclaration⟩]

/-- The calls of a reply, under new identifiers. -/
def geminiFunctionCallsToToolCalls (generateCallId : ℕ → String) (content : GeminiContent) :
    List UnifiedToolCall :=
  content.functionCalls.zipIdx.map fun (call, i) ↦
    ⟨"call_" ++ generateCallId i, unsanitizeToolName call.name, call.args⟩

/-- The message that sends the results of the calls back. -/
def answerContent (toJson : Value → String) (results : List (UnifiedToolCall × ToolCallResponse)) :
    GeminiContent where
  role := "user"
  parts := results.map fun (call, response) ↦
    .functionResponsePart call.name (toolResponse (toJson response.result) response.isError)

def geminiDialect (toJson : Value → String) (generateCallId : ℕ → String) :
    Dialect GeminiContent GeminiContent where
  toolCalls := geminiFunctionCallsToToolCalls generateCallId
  append := fun reply results ↦ [reply, answerContent toJson results]

def geminiRequest (request : UnifiedLlmRequest) (round : Round GeminiContent GeminiContent) :
    GeminiRequest where
  contents := round.sent
  systemInstruction := request.systemPrompt.map GeminiPart.textPart
  tools := if request.tools.isEmpty then none else some (unifiedToGeminiTools request.tools)

def GeminiRequest.declaredNames (request : GeminiRequest) : List String :=
  ((request.tools.getD []).flatMap (·.functionDeclarations)).map (·.name)

theorem declaredNames_geminiRequest (request : UnifiedLlmRequest)
    (round : Round GeminiContent GeminiContent) :
    (geminiRequest request round).declaredNames =
      request.tools.map fun tool ↦ sanitizeToolName tool.name := by
  rw [geminiRequest, GeminiRequest.declaredNames, unifiedToGeminiTools]
  by_cases hnone : request.tools.isEmpty
  · simp [List.isEmpty_iff.mp hnone]
  · simp [hnone, functionDeclaration]

/-- Two names that differ only where both have a hyphen or an underscore. -/
def SameButHyphens (first second : String) : Prop := AlikeUpTo '-' '_' first.toList second.toList

theorem sanitizeToolName_eq_iff {first second : String} :
    sanitizeToolName first = sanitizeToolName second ↔ SameButHyphens first second := by
  rw [sanitizeToolName, sanitizeToolName, String.ofList_inj]
  exact replaceLetter_eq_iff

theorem unsanitizeToolName_eq_self_iff {name : String} :
    unsanitizeToolName name = name ↔ '_' ∉ name.toList := by
  rw [unsanitizeToolName, ← String.toList_inj, String.toList_ofList]
  exact replaceLetter_eq_self_iff (by decide)

theorem unsanitize_sanitize_iff {name : String} :
    unsanitizeToolName (sanitizeToolName name) = name ↔ '_' ∉ name.toList := by
  rw [unsanitizeToolName, sanitizeToolName, ← String.toList_inj, String.toList_ofList,
    String.toList_ofList]
  exact replaceLetter_replaceLetter_eq_iff (by decide)

theorem underscore_mem_sanitize_iff {name : String} :
    '_' ∈ (sanitizeToolName name).toList ↔ '-' ∈ name.toList ∨ '_' ∈ name.toList := by
  rw [sanitizeToolName, String.toList_ofList]
  exact mem_replaceLetter_iff

/-! ## Calls and their names through the loop -/

section Loop

variable (toJson : Value → String) (generateCallId : ℕ → String) (request : UnifiedLlmRequest)
  (maxToolRounds : ℕ) (turns : List (ModelTurn GeminiContent))

/-- The requests sent for a request to the provider. -/
def geminiRounds : List (Round GeminiContent GeminiContent) :=
  (geminiDialect toJson generateCallId).rounds maxToolRounds
    (unifiedToGeminiContents request.messages) turns

def historyCalls (messages : List UnifiedMessage) : List UnifiedToolCall :=
  messages.flatMap fun message ↦ message.toolCalls.getD []

def historyResults (messages : List UnifiedMessage) : List UnifiedToolResult :=
  messages.flatMap fun message ↦ message.toolResults.getD []

/-- The declared names are distinct, every call of a declared tool is dispatched to that tool, and
every response of a function has the name of the call it answers. -/
structure NamesKept : Prop where
  distinct : ∀ round ∈ geminiRounds toJson generateCallId request maxToolRounds turns,
    (geminiRequest request round).declaredNames.Nodup
  dispatched : ∀ round ∈ geminiRounds toJson generateCallId request maxToolRounds turns,
    ∀ turn ∈ round.executed, List.Forall₂
      (fun call dispatch ↦ ∀ tool ∈ request.tools, (functionDeclaration tool).name = call.name →
        dispatch.toolId = tool.name)
      turn.reply.functionCalls
      ((geminiDialect toJson generateCallId).dispatched request.correlationId turn)
  answered : ∀ round ∈ geminiRounds toJson generateCallId request maxToolRounds turns,
    ∀ turn ∈ round.executed,
      (((geminiDialect toJson generateCallId).appended turn).flatMap (·.functionResponses)).map
          (·.name) =
        (turn.reply.functionResponses.map (·.name)) ++ turn.reply.functionCalls.map (·.name)
  recorded : ∀ call ∈ historyCalls request.messages, ∀ result ∈ historyResults request.messages,
    result.toolCallId = call.id →
      (resultPart result).functionResponse.map (·.name) = (callPart call).functionCall.map (·.name)

/-- No two tools have the same name but for hyphens, no executed call has an underscore in its name,
and the calls of the history that have results are named by their identifiers, but for hyphens. -/
structure PlainNames : Prop where
  offered : ∀ first ∈ request.tools, ∀ second ∈ request.tools,
    SameButHyphens first.name second.name → first.name = second.name
  called : ∀ turn ∈ (geminiDialect toJson generateCallId).executedTurns maxToolRounds turns,
    ∀ call ∈ turn.reply.functionCalls, '_' ∉ call.name.toList
  recorded : ∀ call ∈ historyCalls request.messages, ∀ result ∈ historyResults request.messages,
    result.toolCallId = call.id → SameButHyphens call.id call.name

variable {toJson generateCallId request maxToolRounds turns}

theorem declaredNames_nodup_iff (hids : (request.tools.map (·.name)).Nodup)
    (round : Round GeminiContent GeminiContent) :
    (geminiRequest request round).declaredNames.Nodup ↔ ∀ first ∈ request.tools,
      ∀ second ∈ request.tools, SameButHyphens first.name second.name → first.name = second.name := by
  have hnames : (geminiRequest request round).declaredNames =
      (request.tools.map (·.name)).map sanitizeToolName := by
    rw [declaredNames_geminiRequest, List.map_map]
    rfl
  rw [hnames, List.nodup_map_iff_inj_on hids]
  simp only [List.forall_mem_map, sanitizeToolName_eq_iff]

theorem toolCalls_names (content : GeminiContent) :
    (geminiFunctionCallsToToolCalls generateCallId content).map (·.name) =
      content.functionCalls.map fun call ↦ unsanitizeToolName call.name := by
  rw [geminiFunctionCallsToToolCalls, List.map_map]
  have hfst := congrArg (List.map fun call : GeminiFunctionCall ↦ unsanitizeToolName call.name)
    (List.zipIdx_map_fst 0 content.functionCalls)
  rw [List.map_map] at hfst
  exact hfst

theorem functionResponses_answerContent (results : List (UnifiedToolCall × ToolCallResponse)) :
    (answerContent toJson results).functionResponses.map (·.name) =
      (results.map Prod.fst).map (·.name) := by
  rw [GeminiContent.functionResponses, answerContent, List.filterMap_map, List.map_map]
  induction results with
  | nil => rfl
  | cons result rest ih => exact congrArg _ ih

/-- What comes back for a turn are the names of its calls, with hyphens. -/
theorem responses_appended (turn : ModelTurn GeminiContent) :
    (((geminiDialect toJson generateCallId).appended turn).flatMap (·.functionResponses)).map
        (·.name) =
      (turn.reply.functionResponses.map (·.name)) ++
        turn.reply.functionCalls.map fun call ↦ unsanitizeToolName call.name := by
  have happended : (geminiDialect toJson generateCallId).appended turn =
      [turn.reply, answerContent toJson
        (turn.results (geminiFunctionCallsToToolCalls generateCallId turn.reply))] := rfl
  rw [happended, List.flatMap_cons, List.flatMap_singleton, List.map_append,
    functionResponses_answerContent, ModelTurn.map_fst_results, toolCalls_names]

theorem forall_map_eq_self_iff {calls : List GeminiFunctionCall} :
    (calls.map fun call ↦ unsanitizeToolName call.name) = calls.map (·.name) ↔
      ∀ call ∈ calls, '_' ∉ call.name.toList := by
  rw [List.map_inj_left]
  simp only [unsanitizeToolName_eq_self_iff]

/-- A call without an underscore is dispatched to the tool it names. -/
theorem dispatched_of_plain {turn : ModelTurn GeminiContent}
    (h : ∀ call ∈ turn.reply.functionCalls, '_' ∉ call.name.toList) :
    List.Forall₂ (fun call dispatch ↦ ∀ tool ∈ request.tools,
        (functionDeclaration tool).name = call.name → dispatch.toolId = tool.name)
      turn.reply.functionCalls
      ((geminiDialect toJson generateCallId).dispatched request.correlationId turn) := by
  have hdispatched : (geminiDialect toJson generateCallId).dispatched request.correlationId turn =
      turn.reply.functionCalls.zipIdx.map fun entry ↦ toolCallToDispatchRequest
        ⟨"call_" ++ generateCallId entry.2, unsanitizeToolName entry.1.name, entry.1.args⟩
        request.correlationId := by
    rw [Dialect.dispatched]
    exact List.map_map
  rw [hdispatched, List.forall₂_map_right_iff]
  nth_rewrite 1 [← List.zipIdx_map_fst 0 turn.reply.functionCalls]
  rw [List.forall₂_map_left_iff, List.forall₂_same]
  rintro ⟨call, i⟩ hentry tool - hname
  have hcall : call ∈ turn.reply.functionCalls := by
    rw [← List.zipIdx_map_fst 0 turn.reply.functionCalls]
    exact List.mem_map_of_mem hentry
  change sanitizeToolName tool.name = call.name at hname
  have hplain : '_' ∉ (sanitizeToolName tool.name).toList := by
    rw [hname]
    exact h call hcall
  have hneither := not_or.mp (underscore_mem_sanitize_iff.not.mp hplain)
  change unsanitizeToolName call.name = tool.name
  rw [← hname]
  exact unsanitize_sanitize_iff.mpr hneither.2

/-- Names are kept exactly if they are plain. -/
theorem namesKept_iff (hids : (request.tools.map (·.name)).Nodup) :
    NamesKept toJson generateCallId request maxToolRounds turns ↔
      PlainNames toJson generateCallId request maxToolRounds turns := by
  have hexecuted : ∀ turn,
      turn ∈ (geminiDialect toJson generateCallId).executedTurns maxToolRounds turns ↔
        ∃ round ∈ geminiRounds toJson generateCallId request maxToolRounds turns,
          turn ∈ round.executed := by
    intro turn
    rw [← Dialect.executed_toolLoop maxToolRounds [] (unifiedToGeminiContents request.messages) turns,
      List.mem_filterMap]
    rfl
  have hrecorded : (∀ call ∈ historyCalls request.messages,
      ∀ result ∈ historyResults request.messages, result.toolCallId = call.id →
        (resultPart result).functionResponse.map (·.name) =
          (callPart call).functionCall.map (·.name)) ↔
      ∀ call ∈ historyCalls request.messages, ∀ result ∈ historyResults request.messages,
        result.toolCallId = call.id → SameButHyphens call.id call.name := by
    refine forall₂_congr fun call _ ↦ forall₂_congr fun result _ ↦ forall_congr' fun hid ↦ ?_
    rw [← sanitizeToolName_eq_iff, ← hid]
    exact Option.some_inj
  constructor
  · rintro ⟨hdistinct, -, hanswered, hhistory⟩
    refine ⟨?_, fun turn hturn ↦ ?_, hrecorded.mp hhistory⟩
    · obtain ⟨executed, hround⟩ : ∃ executed, ⟨[], unifiedToGeminiContents request.messages,
          executed⟩ ∈ geminiRounds toJson generateCallId request maxToolRounds turns :=
        Dialect.first_round _ _ _
      exact (declaredNames_nodup_iff hids _).mp (hdistinct _ hround)
    · obtain ⟨round, hround, hmem⟩ := (hexecuted turn).mp hturn
      have hsame := hanswered round hround turn hmem
      rw [responses_appended] at hsame
      exact forall_map_eq_self_iff.mp (List.append_cancel_left hsame)
  · rintro ⟨hoffered, hcalled, hhistory⟩
    refine ⟨fun round _ ↦ (declaredNames_nodup_iff hids round).mpr hoffered,
      fun round hround turn hturn ↦ ?_, fun round hround turn hturn ↦ ?_, hrecorded.mpr hhistory⟩
    · exact dispatched_of_plain (hcalled turn ((hexecuted turn).mpr ⟨round, hround, hturn⟩))
    · rw [responses_appended, forall_map_eq_self_iff.mpr
        (hcalled turn ((hexecuted turn).mpr ⟨round, hround, hturn⟩))]

end Loop

def toolRequest (name : String) : UnifiedLlmRequest where
  agentId := "assistant"
  messages := [⟨"user", some "hello", none, none⟩]
  systemPrompt := none
  tools := [⟨name, "a tool", .object []⟩]
  routingStrategy := "best-first"
  modelPreferences := []
  correlationId := none
  scope := none

def callingTurn (name : String) : ModelTurn GeminiContent where
  reply := ⟨"model", [.functionCallPart name (.object [])]⟩
  outcome _ := .received ⟨name, .string "done", false⟩

theorem namesKept_plain :
    NamesKept (fun _ ↦ "\"done\"") (fun _ ↦ "1") (toolRequest "search") 10 [callingTurn "search"] :=
  (namesKept_iff (by decide)).mpr
    ⟨by simp [toolRequest], by decide +kernel, by simp [toolRequest, historyCalls]⟩

/-- The response to a call of the declared name `brain_query` comes back as `brain-query`. -/
theorem hyphen_not_kept :
    (functionDeclaration ⟨"brain-query", "a tool", .object []⟩).name = "brain_query" ∧
      ¬NamesKept (fun _ ↦ "\"done\"") (fun _ ↦ "1") (toolRequest "brain-query") 10
        [callingTurn "brain_query"] := by
  refine ⟨by decide +kernel, fun hkept ↦ ?_⟩
  have hsame := hkept.answered
    ⟨[], [⟨"user", [.textPart "hello"]⟩], some (callingTurn "brain_query")⟩
    (List.mem_cons_self) (callingTurn "brain_query") rfl
  exact absurd hsame (by decide +kernel)

end Seidrum.Plugins
