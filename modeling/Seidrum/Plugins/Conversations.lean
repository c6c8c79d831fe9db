import Seidrum.Foundation.Exchange
import Seidrum.Plugins.Messages

/-!
# Conversations and how an API states them

A conversation has texts, calls of tools and results of the calls.  An API states it in messages of its
own, which are faithful to a request when they have the system prompt, the same texts, calls and results
in the same order, roles the API knows and the results of all calls directly after the calls.
-/

namespace Seidrum.Plugins

open EventBus (Value)
open Foundation Kernel

inductive Item (Call Result : Type)
  | text (content : String)
  | call (call : Call)
  | result (result : Result)

namespace Item

variable {Call Result Call' Result' : Type}

def map (call : Call → Call') (result : Result → Result') : Item Call Result → Item Call' Result'
  | .text content => .text content
  | .call item => .call (call item)
  | .result item => .result (result item)

def isResult : Item Call Result → Bool
  | .result _ => true
  | _ => false

end Item

namespace UnifiedMessage

variable (message : UnifiedMessage)

def text : Option String := message.content.filter (· ≠ "")

def calls : List UnifiedToolCall := message.toolCalls.getD []

def results : List UnifiedToolResult := message.toolResults.getD []

def callIds : List String := message.calls.map (·.id)

def resultIds : List String := message.results.map (·.toolCallId)

def items : List (Item UnifiedToolCall UnifiedToolResult) :=
  message.text.toList.map .text ++ message.calls.map .call ++ message.results.map .result

/-- A message as the results it holds, if any, and then its calls. -/
def exchangeParts : List (Passage String) :=
  (if message.results = [] then [.other] else resultParts message.resultIds) ++
    callsPart message.callIds

end UnifiedMessage

/-- The roles the providers share. -/
def sharedRoles : List String := ["user", "assistant", "tool"]

theorem mem_chat_iff {role : String} (h : role ∈ sharedRoles) :
    role ∈ ["user", "assistant"] ↔ role ≠ "tool" := by
  simp only [sharedRoles, List.mem_cons, List.not_mem_nil, or_false] at h ⊢
  constructor
  · rintro hchat rfl
    rcases hchat with h | h <;> exact absurd h (by decide)
  · tauto

/-- The messages have the shared roles, and every message with calls is directly followed by messages
that hold exactly one result for each of its calls; there are no other results. -/
structure WellFormed (messages : List UnifiedMessage) : Prop where
  roles : ∀ message ∈ messages, message.role ∈ sharedRoles
  answered : Answered [] (messages.flatMap (·.exchangeParts))

theorem answered_result_cons {parts : List (Passage String)} {ids : List String} (hids : ids ≠ []) :
    ¬Answered [] (resultParts ids ++ parts) := by
  cases ids with
  | nil => exact absurd rfl hids
  | cons id ids => exact fun h ↦ absurd h.1 List.not_mem_nil

theorem resultIds_eq_nil_iff {message : UnifiedMessage} :
    message.resultIds = [] ↔ message.results = [] := List.map_eq_nil_iff

/-- Where messages with calls hold results themselves, there are neither calls nor results. -/
theorem no_calls_of_own_results {messages : List UnifiedMessage}
    (h : Answered [] (messages.flatMap (·.exchangeParts)))
    (hown : ∀ message ∈ messages, message.calls ≠ [] → message.results ≠ []) :
    ∀ message ∈ messages, message.calls = [] ∧ message.results = [] := by
  induction messages with
  | nil => exact fun message hmem ↦ absurd hmem List.not_mem_nil
  | cons first rest ih =>
    rw [List.flatMap_cons, UnifiedMessage.exchangeParts, List.append_assoc] at h
    by_cases hresults : first.results = []
    · have hcalls : first.calls = [] := by
        by_contra hsome
        exact hown first List.mem_cons_self hsome hresults
      have hnone : callsPart first.callIds = [] := by
        rw [UnifiedMessage.callIds, hcalls, List.map_nil, callsPart_nil]
      rw [if_pos hresults, hnone] at h
      rw [List.forall_mem_cons]
      exact ⟨⟨hcalls, hresults⟩,
        ih h.2 fun message hmem ↦ hown message (List.mem_cons_of_mem _ hmem)⟩
    · rw [if_neg hresults] at h
      exact absurd h (answered_result_cons (resultIds_eq_nil_iff.not.mpr hresults))

/-- The roles an API has, and what its messages say. -/
structure ApiForm (Message Call Result ι : Type) where
  roles : List String
  role : Message → String
  items : Message → List (Item Call Result)
  parts : Message → List (Passage ι)

variable {Message Call Result ι : Type} [DecidableEq ι]

/-- The messages, with the system prompts given beside or among them, are faithful to a request: they
have its prompt and what is expected, in roles of the API, and all calls are answered. -/
structure ApiForm.Faithful (form : ApiForm Message Call Result ι) (prompt : Option String)
    (prompts : List String) (expected : List (Item Call Result)) (messages : List Message) : Prop where
  system : ∀ text ∈ prompt, text ∈ prompts
  items : messages.flatMap form.items = expected
  roles : ∀ message ∈ messages, form.role message ∈ form.roles
  answered : Answered [] (messages.flatMap form.parts)

/-- An API that has results in messages of their own, with the role "tool", and every other message of
the conversation in one of its own. -/
structure ChatForm (Message Call Result ι : Type) extends ApiForm Message Call Result ι where
  base : UnifiedMessage → Message
  resultMessage : UnifiedToolResult → Message
  viewCall : UnifiedToolCall → Call
  viewResult : UnifiedToolResult → Result
  callId : UnifiedToolCall → ι
  resultId : UnifiedToolResult → ι
  shared_roles : sharedRoles ⊆ roles
  role_base : ∀ message, role (base message) = message.role
  role_result : ∀ result, role (resultMessage result) = "tool"
  items_base : ∀ message, message.role ∈ ["user", "assistant"] → items (base message) =
    message.text.toList.map .text ++ message.calls.map fun call ↦ .call (viewCall call)
  items_tool : ∀ message, message.role = "tool" → ∃ result, items (base message) = [.result result]
  items_result : ∀ result, items (resultMessage result) = [.result (viewResult result)]
  parts_base : ∀ message, message.role ∈ ["user", "assistant"] →
    parts (base message) = exchange (message.calls.map callId) []
  parts_result : ∀ result, parts (resultMessage result) = [.result (some (resultId result))]

namespace ChatForm

variable (form : ChatForm Message Call Result ι)

def translate (messages : List UnifiedMessage) : List Message :=
  messages.flatMap fun message ↦ form.base message :: message.results.map form.resultMessage

/-- What a conversation says, in the form of the API. -/
def expected (messages : List UnifiedMessage) : List (Item Call Result) :=
  (messages.flatMap (·.items)).map (Item.map form.viewCall form.viewResult)

variable {form}

omit [DecidableEq ι] in
theorem items_results (results : List UnifiedToolResult) :
    (results.map form.resultMessage).flatMap form.items =
      results.map fun result ↦ .result (form.viewResult result) := by
  induction results with
  | nil => rfl
  | cons result rest ih =>
    rw [List.map_cons, List.flatMap_cons, form.items_result, ih]
    rfl

omit [DecidableEq ι] in
theorem parts_results (results : List UnifiedToolResult) :
    (results.map form.resultMessage).flatMap form.parts = resultParts (results.map form.resultId) := by
  induction results with
  | nil => rfl
  | cons result rest ih =>
    rw [List.map_cons, List.flatMap_cons, form.parts_result, ih]
    rfl

omit [DecidableEq ι] in
theorem expected_cons (message : UnifiedMessage) (rest : List UnifiedMessage) :
    form.expected (message :: rest) = message.text.toList.map .text ++
      (message.calls.map fun call ↦ .call (form.viewCall call)) ++
      (message.results.map fun result ↦ .result (form.viewResult result)) ++ form.expected rest := by
  rw [expected, List.flatMap_cons, List.map_append, ← expected, UnifiedMessage.items, List.map_append,
    List.map_append, List.map_map, List.map_map, List.map_map]
  rfl

omit [DecidableEq ι] in
theorem items_translate_cons (message : UnifiedMessage) (rest : List UnifiedMessage) :
    (form.translate (message :: rest)).flatMap form.items = form.items (form.base message) ++
      (message.results.map fun result ↦ .result (form.viewResult result)) ++
      (form.translate rest).flatMap form.items := by
  rw [translate, List.flatMap_cons, List.flatMap_append, List.flatMap_cons, items_results, ← translate]

omit [DecidableEq ι] in
/-- A message with the role of a result is one result too many. -/
theorem countP_items_translate {messages : List UnifiedMessage}
    (hroles : ∀ message ∈ messages, message.role ∈ sharedRoles) :
    ((form.translate messages).flatMap form.items).countP Item.isResult =
      (form.expected messages).countP Item.isResult + messages.countP (·.role = "tool") := by
  induction messages with
  | nil => rfl
  | cons message rest ih =>
    have hrest := ih fun other hother ↦ hroles other (List.mem_cons_of_mem _ hother)
    have htexts : (message.text.toList.map .text : List (Item Call Result)).countP
        Item.isResult = 0 := by
      rw [List.countP_map]
      exact List.countP_eq_zero.mpr fun _ _ ↦ Bool.false_ne_true
    have hcalls : ((message.calls.map fun call ↦ .call (form.viewCall call)) :
        List (Item Call Result)).countP Item.isResult = 0 := by
      rw [List.countP_map]
      exact List.countP_eq_zero.mpr fun _ _ ↦ Bool.false_ne_true
    rw [items_translate_cons, expected_cons]
    simp only [List.countP_append, List.countP_cons, htexts, hcalls, hrest]
    by_cases htool : message.role = "tool"
    · obtain ⟨result, hitems⟩ := form.items_tool message htool
      rw [hitems]
      simp only [htool, List.countP_singleton, Item.isResult]
      simp only [decide_true, if_true]
      omega
    · have hchat := (mem_chat_iff (hroles message List.mem_cons_self)).mpr htool
      rw [form.items_base message hchat, List.countP_append, htexts, hcalls]
      simp only [htool, decide_false, Bool.false_eq_true, if_false]
      omega

omit [DecidableEq ι] in
/-- Messages that say what the conversation says have none with the role of a result. -/
theorem not_tool_of_items {messages : List UnifiedMessage}
    (hroles : ∀ message ∈ messages, message.role ∈ sharedRoles)
    (hitems : (form.translate messages).flatMap form.items = form.expected messages) :
    ∀ message ∈ messages, message.role ∈ ["user", "assistant"] := by
  have hcount := congrArg (List.countP Item.isResult) hitems
  rw [countP_items_translate hroles] at hcount
  have hnone : messages.countP (·.role = "tool") = 0 := by omega
  intro message hmem
  refine (mem_chat_iff (hroles message hmem)).mpr fun htool ↦ ?_
  exact List.countP_eq_zero.mp hnone message hmem (decide_eq_true htool)

omit [DecidableEq ι] in
theorem items_translate {messages : List UnifiedMessage}
    (hchat : ∀ message ∈ messages, message.role ∈ ["user", "assistant"]) :
    (form.translate messages).flatMap form.items = form.expected messages := by
  induction messages with
  | nil => rfl
  | cons message rest ih =>
    rw [items_translate_cons, expected_cons, form.items_base message (hchat message List.mem_cons_self),
      ih fun other hother ↦ hchat other (List.mem_cons_of_mem _ hother)]

omit [DecidableEq ι] in
theorem role_translate {messages : List UnifiedMessage}
    (hroles : ∀ message ∈ messages, message.role ∈ sharedRoles) :
    ∀ sent ∈ form.translate messages, form.role sent ∈ sharedRoles := by
  intro sent hsent
  obtain ⟨message, hmessage, hmem⟩ := List.mem_flatMap.mp hsent
  rcases List.mem_cons.mp hmem with rfl | hresult
  · rw [form.role_base]
    exact hroles message hmessage
  · obtain ⟨result, -, rfl⟩ := List.mem_map.mp hresult
    rw [form.role_result]
    decide

/-- Translated messages are answered exactly if each holds the results of its own calls. -/
theorem answered_translate_iff {messages : List UnifiedMessage}
    (hchat : ∀ message ∈ messages, message.role ∈ ["user", "assistant"]) {rest : List (Passage ι)}
    (hopens : Opens rest) :
    Answered [] ((form.translate messages).flatMap form.parts ++ rest) ↔
      (∀ message ∈ messages,
        (message.results.map form.resultId).Perm (message.calls.map form.callId)) ∧
      Answered [] rest := by
  have hparts : (form.translate messages).flatMap form.parts = messages.flatMap fun message ↦
      (form.base message :: message.results.map form.resultMessage).flatMap form.parts := by
    rw [translate, List.flatMap_assoc]
  rw [hparts]
  refine answered_flatMap_iff (fun message hmem ↦ ?_) hopens
  rw [List.flatMap_cons, form.parts_base message (hchat message hmem), parts_results, exchange,
    exchange, resultParts_nil, List.append_nil]

variable (form) in
/-- The messages of a conversation are faithful to it, and so are those with others that are faithful,
exactly if the conversation has neither messages of the role "tool" nor calls. -/
theorem faithful_translate_iff {messages : List UnifiedMessage} (hform : WellFormed messages) :
    ((form.translate messages).flatMap form.items = form.expected messages ∧
        Answered [] ((form.translate messages).flatMap form.parts)) ↔
      ∀ message ∈ messages, message.role ≠ "tool" ∧ message.calls = [] := by
  constructor
  · rintro ⟨hitems, hanswered⟩ message hmem
    have hchat := not_tool_of_items hform.roles hitems
    rw [← List.append_nil ((form.translate messages).flatMap form.parts),
      answered_translate_iff hchat opens_nil] at hanswered
    have hnone := no_calls_of_own_results hform.answered fun other hother hcalls hresults ↦ by
      have hperm := hanswered.1 other hother
      rw [hresults, List.map_nil, List.nil_perm, List.map_eq_nil_iff] at hperm
      exact hcalls hperm
    exact ⟨(mem_chat_iff (hform.roles message hmem)).mp (hchat message hmem), (hnone message hmem).1⟩
  · intro hplain
    have hchat : ∀ message ∈ messages, message.role ∈ ["user", "assistant"] := fun message hmem ↦
      (mem_chat_iff (hform.roles message hmem)).mpr (hplain message hmem).1
    have hnone := no_calls_of_own_results hform.answered fun message hmem hcalls ↦
      absurd (hplain message hmem).2 hcalls
    refine ⟨items_translate hchat, ?_⟩
    rw [← List.append_nil ((form.translate messages).flatMap form.parts),
      answered_translate_iff hchat opens_nil]
    refine ⟨fun message hmem ↦ ?_, rfl⟩
    rw [(hnone message hmem).1, (hnone message hmem).2]
    rfl

end ChatForm

end Seidrum.Plugins
