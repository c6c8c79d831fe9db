import Seidrum.Plugins.ScopePropagation

/-!
# The tool loop of a provider

A provider sends the messages of a request to its API.  While the reply has tool calls and rounds are
left, it dispatches the calls one after the other, appends the reply and the results to the messages
and sends them again.  What a reply and its results look like is a matter of the API.
-/

namespace Seidrum.Plugins

open EventBus (Value)
open Foundation Kernel

/-- What comes of the dispatch of a call. -/
inductive DispatchOutcome
  | received (response : ToolCallResponse)
  | unreadable (error : String)
  | failed (error : String)
  | timedOut

def DispatchOutcome.toolResult (name : String) : DispatchOutcome → ToolCallResponse
  | received response => response
  | unreadable error => .error name ("Failed to parse response: " ++ error)
  | failed error => .error name ("Tool dispatch failed: " ++ error)
  | timedOut => .error name "Tool call timed out"

/-- A reply of the model, and what comes of its calls, by their position. -/
structure ModelTurn (Reply : Type) where
  reply : Reply
  outcome : ℕ → DispatchOutcome

variable {Message Reply : Type}

/-- The calls with their results. -/
def ModelTurn.results (turn : ModelTurn Reply) (calls : List UnifiedToolCall) :
    List (UnifiedToolCall × ToolCallResponse) :=
  calls.zipIdx.map fun (call, i) ↦ (call, (turn.outcome i).toolResult call.name)

@[simp]
theorem ModelTurn.map_fst_results (turn : ModelTurn Reply) (calls : List UnifiedToolCall) :
    (turn.results calls).map Prod.fst = calls := by
  rw [results, List.map_map]
  exact List.zipIdx_map_fst 0 calls

/-- How a provider reads the calls of a reply, and what it appends for the reply and their results. -/
structure Dialect (Message Reply : Type) where
  toolCalls : Reply → List UnifiedToolCall
  append : Reply → List (UnifiedToolCall × ToolCallResponse) → List Message

/-- A request to the API: the turns answered before it, the messages sent, and the turn that came of
it, if its calls were executed. -/
structure Round (Message Reply : Type) where
  earlier : List (ModelTurn Reply)
  sent : List Message
  executed : Option (ModelTurn Reply)

namespace Dialect

variable (dialect : Dialect Message Reply)

/-- The messages a turn adds. -/
def appended (turn : ModelTurn Reply) : List Message :=
  dialect.append turn.reply (turn.results (dialect.toolCalls turn.reply))

def dispatched (correlationId : Option String) (turn : ModelTurn Reply) : List ToolCallRequest :=
  (dialect.toolCalls turn.reply).map (toolCallToDispatchRequest · correlationId)

/-- The requests of the loop, given the turns of the model; a reply that is missing or cannot be read
ends the loop. -/
def toolLoop : ℕ → List (ModelTurn Reply) → List Message → List (ModelTurn Reply) →
    List (Round Message Reply)
  | _, earlier, messages, [] => [⟨earlier, messages, none⟩]
  | 0, earlier, messages, _ :: _ => [⟨earlier, messages, none⟩]
  | left + 1, earlier, messages, turn :: rest =>
      if (dialect.toolCalls turn.reply).isEmpty then [⟨earlier, messages, none⟩]
      else
        ⟨earlier, messages, some turn⟩ ::
          toolLoop left (earlier ++ [turn]) (messages ++ dialect.appended turn) rest

/-- The requests for a list of messages. -/
def rounds (maxToolRounds : ℕ) (messages : List Message) (turns : List (ModelTurn Reply)) :
    List (Round Message Reply) :=
  dialect.toolLoop maxToolRounds [] messages turns

/-- The turns whose calls are executed. -/
def executedTurns (maxToolRounds : ℕ) (turns : List (ModelTurn Reply)) : List (ModelTurn Reply) :=
  (turns.takeWhile fun turn ↦ !(dialect.toolCalls turn.reply).isEmpty).take maxToolRounds

variable {dialect}

theorem executed_toolLoop (maxToolRounds : ℕ) (earlier : List (ModelTurn Reply))
    (messages : List Message) (turns : List (ModelTurn Reply)) :
    (dialect.toolLoop maxToolRounds earlier messages turns).filterMap (·.executed) =
      dialect.executedTurns maxToolRounds turns := by
  unfold executedTurns
  fun_induction dialect.toolLoop maxToolRounds earlier messages turns with
  | case1 | case2 => simp
  | case3 left earlier messages turn rest hnone => simp [hnone]
  | case4 left earlier messages turn rest hsome ih => simp [hsome, ih]

theorem first_round (maxToolRounds : ℕ) (messages : List Message) (turns : List (ModelTurn Reply)) :
    ∃ executed, ⟨[], messages, executed⟩ ∈ dialect.rounds maxToolRounds messages turns := by
  unfold rounds
  fun_cases dialect.toolLoop maxToolRounds [] messages turns with
  | case1 | case2 | case3 => exact ⟨none, List.mem_singleton_self _⟩
  | case4 => exact ⟨_, List.mem_cons_self⟩

variable {maxToolRounds : ℕ} {messages : List Message} {turns : List (ModelTurn Reply)}
  {round : Round Message Reply}

theorem sent_toolLoop {earlier : List (ModelTurn Reply)}
    (h : round ∈ dialect.toolLoop maxToolRounds earlier messages turns) :
    ∃ done, round.earlier = earlier ++ done ∧ round.sent = messages ++ done.flatMap dialect.appended ∧
      ∀ turn ∈ done, turn ∈ turns ∧ dialect.toolCalls turn.reply ≠ [] := by
  fun_induction dialect.toolLoop maxToolRounds earlier messages turns with
  | case1 | case2 | case3 left earlier messages turn rest hnone =>
    obtain rfl := List.mem_singleton.mp h
    exact ⟨[], by simp⟩
  | case4 left earlier messages turn rest hsome ih =>
    rcases List.mem_cons.mp h with rfl | hlater
    · exact ⟨[], by simp⟩
    · obtain ⟨done, hearlier, hsent, hdone⟩ := ih hlater
      refine ⟨turn :: done, ?_, ?_, ?_⟩
      · rw [hearlier, List.append_assoc, List.singleton_append]
      · rw [hsent, List.append_assoc, List.flatMap_cons]
      · intro other hother
        rcases List.mem_cons.mp hother with rfl | hrest
        · exact ⟨List.mem_cons_self, by simpa using hsome⟩
        · exact ⟨List.mem_cons_of_mem _ (hdone other hrest).1, (hdone other hrest).2⟩

theorem sent_rounds (h : round ∈ dialect.rounds maxToolRounds messages turns) :
    round.sent = messages ++ round.earlier.flatMap dialect.appended ∧
      ∀ turn ∈ round.earlier, turn ∈ turns ∧ dialect.toolCalls turn.reply ≠ [] := by
  obtain ⟨done, hearlier, hsent, hdone⟩ := sent_toolLoop h
  obtain rfl : round.earlier = done := hearlier
  exact ⟨hsent, hdone⟩

/-- The later request was sent for the results of the calls in the reply to the earlier one. -/
def Continues (dialect : Dialect Message Reply) (round later : Round Message Reply) : Prop :=
  ∃ turn ∈ round.executed, later.earlier = round.earlier ++ [turn] ∧
    later.sent = round.sent ++ dialect.appended turn

theorem continues_toolLoop (dialect : Dialect Message Reply) (left : ℕ) (earlier : List (ModelTurn Reply))
    (messages : List Message) (turns : List (ModelTurn Reply)) : ∃ executed later,
      dialect.toolLoop left earlier messages turns = ⟨earlier, messages, executed⟩ :: later ∧
        later.length ≤ left ∧ (⟨earlier, messages, executed⟩ :: later).IsChain dialect.Continues := by
  fun_induction dialect.toolLoop left earlier messages turns with
  | case1 | case2 | case3 => exact ⟨none, [], rfl, Nat.zero_le _, List.IsChain.singleton _⟩
  | case4 left earlier messages turn rest hsome ih =>
    obtain ⟨executed, later, heq, hlength, hchain⟩ := ih
    rw [heq]
    refine ⟨some turn, _, rfl, Nat.succ_le_succ hlength, List.isChain_cons_cons.mpr ⟨?_, hchain⟩⟩
    exact ⟨turn, rfl, rfl, rfl⟩

/-- The loop sends at most one request more than it may execute rounds of calls, the first one with the messages
of the conversation and each later one with what the reply before it has led to; the calls of the replies are
executed once and in their order. -/
theorem rounds_continue (maxToolRounds : ℕ) (messages : List Message) (turns : List (ModelTurn Reply)) :
    (dialect.rounds maxToolRounds messages turns).length ≤ maxToolRounds + 1 ∧
      ((dialect.rounds maxToolRounds messages turns).head?.map (·.sent)) = some messages ∧
      (dialect.rounds maxToolRounds messages turns).IsChain dialect.Continues ∧
      (dialect.rounds maxToolRounds messages turns).filterMap (·.executed) =
        dialect.executedTurns maxToolRounds turns := by
  obtain ⟨executed, later, heq, hlength, hchain⟩ := dialect.continues_toolLoop maxToolRounds [] messages turns
  refine ⟨?_, ?_, ?_, executed_toolLoop maxToolRounds [] messages turns⟩
  all_goals rw [rounds, heq]
  · exact Nat.succ_le_succ hlength
  · rfl
  · exact hchain

end Dialect

end Seidrum.Plugins
