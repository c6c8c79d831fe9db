import Seidrum.EventBus.Reentrance

/-!
# What an interceptor that passes leaves behind

An interceptor works on a buffer that holds the payload, and the dispatch goes on with that buffer before it
looks at the result.  So the result `Pass` keeps the payload for the subscribers that follow if the buffer
was left alone, or if nobody follows.

A dispatch is followed through any sequence of its own steps.  What happens between them on the bus is left
open: each step is taken on a bus of its own.
-/

namespace Seidrum.EventBus

open Foundation

namespace Dispatch

variable (config : Config)

/-- The subscriber that the next step attempts, with the payload it is handed. -/
def handing (d : Dispatch) : List (String × Payload) :=
  match d.stage with
  | .chain (entry :: _) _ => [(entry.id, d.current)]
  | .fanOut ((id, _) :: _) => [(id, d.current)]
  | _ => []

/-- What a dispatch hands out in a sequence of its steps. -/
def handed : Dispatch → List (DispatchInput × Bus) → List (String × Payload)
  | _, [] => []
  | d, (input, bus) :: rest => d.handing ++ handed (d.step config input bus).2 rest

/-- A dispatch after a sequence of its steps. -/
def after (d : Dispatch) (turns : List (DispatchInput × Bus)) : Dispatch :=
  turns.foldl (fun d turn ↦ (d.step config turn.1 turn.2).2) d

/-- The dispatch goes on with another payload. -/
def withPayload (payload : Payload) (d : Dispatch) : Dispatch := { d with current := payload }

/-- After a step everybody is handed what they would be if the payload were as it was before. -/
def Unchanged (input : DispatchInput) (bus : Bus) (d : Dispatch) : Prop :=
  ∀ turns, handed config (d.step config input bus).2 turns =
    handed config ((d.step config input bus).2.withPayload d.current) turns

end Dispatch

/-- Nobody is left to be handed the event. -/
def Stage.Served : Stage → Prop
  | .chain todo async => todo = [] ∧ async = []
  | .fanOut todo => todo = []
  | .record _ next => next.Served
  | .close _ | .returned => True
  | .resolve | .mark _ | .snapshot _ _ => False

namespace Dispatch

variable {config : Config} {d : Dispatch} {input : DispatchInput} {bus : Bus}

theorem handing_of_served (h : d.stage.Served) : d.handing = [] := by
  unfold handing
  cases hstage : d.stage with
  | chain todo async =>
    rw [hstage] at h
    obtain ⟨rfl, -⟩ := h
    rfl
  | fanOut todo =>
    rw [hstage] at h
    obtain rfl : todo = [] := h
    rfl
  | _ => rfl

theorem served_step (h : d.stage.Served) : (d.step config input bus).2.stage.Served := by
  cases hstage : d.stage with
  | chain todo async =>
    rw [hstage] at h
    obtain ⟨rfl, rfl⟩ := h
    simp only [step, hstage]
    rfl
  | fanOut todo =>
    rw [hstage] at h
    obtain rfl : todo = [] := h
    simp only [step, hstage]
    trivial
  | record report next =>
    rw [hstage] at h
    simp only [step, hstage]
    exact h
  | close status | returned =>
    simp only [step, hstage]
    trivial
  | _ =>
    rw [hstage] at h
    exact h.elim

theorem handed_of_served (h : d.stage.Served) (turns : List (DispatchInput × Bus)) :
    handed config d turns = [] := by
  induction turns generalizing d with
  | nil => rfl
  | cons turn rest ih => rw [handed, handing_of_served h, ih (served_step h), List.append_nil]

theorem step_completed (config : Config) (bus : Bus) {entry : SyncEntry} {todo : List SyncEntry}
    {async : List SubscriptionEntry}
    (hstage : d.stage = .chain (entry :: todo) async) (hinterceptor : entry.interceptor = true)
    {buffer : Payload} (hpass : input.outcome = .completed .pass buffer) :
    ∃ report, (d.step config input bus).2 =
      { d with current := buffer, stage := .record report (.chain todo async) } := by
  refine ⟨reportOf config input entry.id
    (bus.interceptorResult entry.timeout (.completed .pass buffer)), ?_⟩
  simp [step, hstage, Bus.syncAttempt, hinterceptor, hpass, Bus.interceptorResult, finishAttempt]

/-- The subscribers after an interceptor that passes are handed the payload as it was before exactly if the
interceptor has left its buffer alone, or nobody comes after it. -/
theorem pass_unchanged_iff {entry : SyncEntry} {todo : List SyncEntry} {async : List SubscriptionEntry}
    (hstage : d.stage = .chain (entry :: todo) async) (hinterceptor : entry.interceptor = true)
    {buffer : Payload} (hpass : input.outcome = .completed .pass buffer) (bus : Bus) :
    d.Unchanged config input bus ↔ buffer = d.current ∨ todo = [] ∧ async = [] := by
  obtain ⟨report, hstep⟩ := step_completed config bus hstage hinterceptor hpass
  unfold Unchanged
  rw [hstep]
  constructor
  · intro h
    cases todo with
    | cons next rest =>
      have hnext := h [(input, bus), (input, bus)]
      simp [handed, handing, step, withPayload] at hnext
      exact .inl hnext
    | nil =>
      cases async with
      | cons next rest =>
        have hnext := h [(input, bus), (input, bus), (input, bus)]
        simp [handed, handing, step, withPayload] at hnext
        exact .inl hnext
      | nil => exact .inr ⟨rfl, rfl⟩
  · rintro (rfl | ⟨rfl, rfl⟩) turns
    · rfl
    · rw [handed_of_served (by exact ⟨rfl, rfl⟩), handed_of_served (by exact ⟨rfl, rfl⟩)]

/-- An interceptor passes, and another one and an async subscriber come after it: they are handed the
payload as it was if the buffer is as it was, and not if it is uppercased. -/
theorem pass_unchanged_iff_followed :
    let d : Dispatch :=
      { seq := 1, subject := "a", payload := [97], replySubject := none, isReply := false,
        current := [97], anyFailed := false
        stage := .chain [⟨"i", 5000, true, false⟩, ⟨"j", 5000, true, false⟩]
          [⟨"s", "a", 10, .async, .inProcess, 5000, none⟩] }
    d.Unchanged (.plain 5) ⟨.completed .pass [97], 0, true⟩ (.onStore .empty 0) ∧
      ¬d.Unchanged (.plain 5) ⟨.completed .pass [65], 0, true⟩ (.onStore .empty 0) := by
  intro d
  constructor
  · exact (pass_unchanged_iff rfl rfl rfl _).mpr (.inl rfl)
  · intro h
    have hkept := (pass_unchanged_iff rfl rfl rfl _).mp h
    simp [d] at hkept

end Dispatch

namespace System

variable {config : Config} {i : ℕ} {system next : System} {d : Dispatch}

/-- What a dispatch hands out in a step of the bus. -/
def handingBy (i : ℕ) (system : System) : Label → List (String × Payload)
  | .dispatch j _ => if j = i then (system.dispatches[i]?.map Dispatch.handing).getD [] else []
  | _ => []

/-- What a dispatch hands out in a run. -/
def handedBy (config : Config) (i : ℕ) : System → List Label → List (String × Payload)
  | _, [] => []
  | system, label :: rest =>
      system.handingBy i label ++
        ((step config system label).map fun next ↦ handedBy config i next rest).getD []

/-- An interceptor changes its buffer and passes; the async subscriber gets what it has made of the
event. -/
theorem pass_changes_payload :
    ∃ system, Steps.execute (step (.plain 5)) (build .empty 0)
        ([.intercept "i" "a" 1 none, .inProcess "s" "a" .async 10, .publishByte "a" 1] ++
          List.replicate 3 (.turn 0 .timedOut)) = some system ∧
      ∃ d, system.dispatches[0]? = some d ∧ d.current = [1] ∧
        handedBy (.plain 5) 0 system (List.replicate 4 (.turn 0 (.completed .pass [2]))) =
          [("i", [1]), ("s", [2])] ∧
        ¬d.Unchanged (.plain 5) ⟨.completed .pass [2], 0, true⟩ system.bus := by
  have hexecute : ∃ system ∈ Steps.execute (step (.plain 5)) (build .empty 0)
        ([.intercept "i" "a" 1 none, .inProcess "s" "a" .async 10, .publishByte "a" 1] ++
          List.replicate 3 (.turn 0 .timedOut)),
      ∃ d ∈ system.dispatches[0]?, d.current = [1] ∧
        handedBy (.plain 5) 0 system (List.replicate 4 (.turn 0 (.completed .pass [2]))) =
          [("i", [1]), ("s", [2])] ∧
        (d.step (.plain 5) ⟨.completed .pass [2], 0, true⟩ system.bus).2.handed (.plain 5)
            (List.replicate 3 (⟨.timedOut, 0, true⟩, system.bus)) ≠
          ((d.step (.plain 5) ⟨.completed .pass [2], 0, true⟩ system.bus).2.withPayload
            d.current).handed (.plain 5) (List.replicate 3 (⟨.timedOut, 0, true⟩, system.bus)) := by
    decide +kernel
  obtain ⟨system, hsystem, d, hat, hcurrent, hhanded, hne⟩ := hexecute
  exact ⟨system, hsystem, d, hat, hcurrent, hhanded, fun h ↦ hne (h _)⟩

end System

end Seidrum.EventBus
