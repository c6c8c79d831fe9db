import Seidrum.Kernel.RuntimeSubscriptions

/-!
# The cap on runtime subscriptions

The service handles one call after the other, and an agent has at most twenty subscriptions.  The cap
counts the entries of the agent's table, where a task that ends by itself stays listed.  The expiry is
computed from any number of seconds, and one that cannot be represented ends the service.  An abort
takes effect where the task next suspends, so a task that runs meanwhile may still forward an event.
-/

namespace Seidrum.Kernel

open EventBus Client Foundation

/-- Where the task of a subscription stands in its loop. -/
inductive TaskPoint
  | subscribing
  /-- about to compare its expiry with the time -/
  | checking
  | waiting
  | forwarding (message : WsMessage)

inductive TaskProgress
  | suspended (point : TaskPoint)
  | running (point : TaskPoint) (aborted : Bool)
  | ended

/-- What the scheduler and the bus do to a task. -/
inductive TaskLabel
  | poll
  | suspend
  | subscribe (ok : Bool)
  | check (now : ℤ)
  /-- a timeout, a closed subscription or a message -/
  | receive (answer : Option (Option WsMessage))
  | forward (ok : Bool)

namespace TaskProgress

def isRunning : TaskProgress → Bool
  | .running _ _ => true
  | _ => false

def isEnded : TaskProgress → Bool
  | .ended => true
  | _ => false

/-- A suspended task is not polled again; a running one goes on to its next suspension. -/
def abort : TaskProgress → TaskProgress
  | .suspended _ => .ended
  | .running point _ => .running point true
  | .ended => .ended

def step (expiry : Option ℤ) : TaskProgress → TaskLabel → Option TaskProgress
  | .suspended point, .poll => some (.running point false)
  | .running .checking _, .suspend => none
  | .running point aborted, .suspend => some (if aborted then .ended else .suspended point)
  | .running .subscribing aborted, .subscribe ok =>
      some (if ok then .running .checking aborted else .ended)
  | .running .checking aborted, .check now =>
      some (if ∃ time ∈ expiry, time < now then .ended else .running .waiting aborted)
  | .running .waiting aborted, .receive none => some (.running .checking aborted)
  | .running .waiting _, .receive (some none) => some .ended
  | .running .waiting aborted, .receive (some (some message)) =>
      some (.running (.forwarding message) aborted)
  | .running (.forwarding _) aborted, .forward _ => some (.running .checking aborted)
  | _, _ => none

variable {progress : TaskProgress}

theorem isEnded_abort (h : progress.isRunning = false) : progress.abort.isEnded = true := by
  cases progress with
  | suspended | ended => rfl
  | running => cases h

theorem step_isEnded {expiry : Option ℤ} (h : progress.isEnded = true) (label : TaskLabel) :
    progress.step expiry label = none := by
  cases progress with
  | suspended | running => cases h
  | ended => rfl

end TaskProgress

/-- Whether the table of an agent has an entry for a task. -/
inductive TaskEntry
  | spawned
  | listed
  | removed
deriving DecidableEq

/-- The task of a runtime subscription; times are in nanoseconds. -/
structure SubscriptionTask where
  agentId : String
  pattern : String
  expiry : Option ℤ
  progress : TaskProgress
  entry : TaskEntry

namespace SubscriptionTask

/-- The task runs on, and its time is not over. -/
def Live (now : ℤ) (task : SubscriptionTask) : Prop :=
  task.progress.isEnded = false ∧ ¬ ∃ time ∈ task.expiry, time < now

instance (now : ℤ) (task : SubscriptionTask) : Decidable (task.Live now) :=
  inferInstanceAs (Decidable (_ ∧ _))

/-- The entries of the agent's table with one of these patterns. -/
def Matches (agentId : String) (subjects : List String) (task : SubscriptionTask) : Prop :=
  task.entry = .listed ∧ task.agentId = agentId ∧ task.pattern ∈ subjects

instance (agentId : String) (subjects : List String) (task : SubscriptionTask) :
    Decidable (task.Matches agentId subjects) := inferInstanceAs (Decidable (_ ∧ _ ∧ _))

def list (task : SubscriptionTask) : SubscriptionTask :=
  if task.entry = .spawned then { task with entry := .listed } else task

/-- Abort the task and take its entry out of the table, if it matches. -/
def unsubscribe (agentId : String) (subjects : List String) (task : SubscriptionTask) :
    SubscriptionTask :=
  if task.Matches agentId subjects then
    { task with progress := task.progress.abort, entry := .removed }
  else task

end SubscriptionTask

/-- How instants are added and written, and how payloads are read. -/
structure SubscriptionEnv where
  json : SerdeJson
  /-- A number of seconds after an instant, if it can be represented. -/
  plusSeconds : ℤ → ℤ → Option ℤ
  rfc3339 : ℤ → String

/-- What the service is at: a call for which it spawns the tasks of the remaining subjects, or
nothing, or it has panicked. -/
inductive ServiceLoop
  | idle
  | spawning (agentId : String) (args : SubscribeEventsRequest) (expiry : Option ℤ)
      (remaining : List String)
  | panicked

structure SubscriptionService where
  loop : ServiceLoop
  tasks : List SubscriptionTask
  /-- The number of calls received. -/
  calls : ℕ
  responses : List ToolCallResponse
  forwarded : List ConsciousnessEvent

inductive ServiceLabel
  | subscribeEvents (agentId : String) (args : SubscribeEventsRequest) (now : ℤ)
  | unsubscribeEvents (agentId : String) (subjects : List String)
  | spawn
  /-- the table is extended and the call answered -/
  | extend
  | task (t : ℕ) (label : TaskLabel)

/-- The steps that handle a call which has been received. -/
def ServiceLabel.IsHandler : ServiceLabel → Prop
  | .spawn | .extend => True
  | _ => False

/-- What `handle_subscribe_events` does before it spawns a task. -/
inductive SubscribeVerdict
  | refused (response : ToolCallResponse)
  | panicked
  | accepted (expiry : Option ℤ)

def tooMany : ToolCallResponse :=
  .error subscribeEventsTool "Maximum 20 runtime subscriptions per agent"

namespace SubscriptionService

variable (env : SubscriptionEnv)

/-- The expiry after a number of seconds, read as a signed one. -/
def expiresAfter (now : ℤ) (durationSeconds : ℕ) : Option ℤ :=
  env.plusSeconds now (BitVec.ofNat 64 durationSeconds).toInt

def verdict (args : SubscribeEventsRequest) (currentCount : ℕ) (now : ℤ) : SubscribeVerdict :=
  match args.subjects.find? isDenied with
  | some subject =>
      .refused (.error subscribeEventsTool ("Cannot subscribe to internal subject: " ++ subject))
  | none =>
      if maxRuntimeSubscriptions < currentCount + args.subjects.length then .refused tooMany
      else
        match args.durationSeconds with
        | none => .accepted none
        | some durationSeconds =>
            match expiresAfter env now durationSeconds with
            | none => .panicked
            | some expiry => .accepted (some expiry)

/-- The answer to a call whose subjects are subscribed to. -/
def subscribed (args : SubscribeEventsRequest) (expiry : Option ℤ) : ToolCallResponse where
  toolId := subscribeEventsTool
  result := .object
    [("count", .ofNat args.subjects.length),
      ("expires_at", (expiry.map fun time ↦ Value.string (env.rfc3339 time)).getD .null),
      ("subscribed", .array (args.subjects.map .string))]
  isError := false

def unsubscribed (removed : ℕ) : ToolCallResponse where
  toolId := "unsubscribe-events"
  result := .object [("removed", .ofNat removed)]
  isError := false

/-- The entries in the table of an agent. -/
def listed (agentId : String) (state : SubscriptionService) : ℕ :=
  state.tasks.countP fun task ↦ task.entry = .listed ∧ task.agentId = agentId

/-- The entries in the table of an agent whose tasks have ended or expired. -/
def stale (agentId : String) (now : ℤ) (state : SubscriptionService) : ℕ :=
  state.tasks.countP fun task ↦
    (task.entry = .listed ∧ task.agentId = agentId) ∧ ¬ task.Live now

def live (agentId : String) (now : ℤ) (state : SubscriptionService) : ℕ :=
  state.tasks.countP fun task ↦ task.agentId = agentId ∧ task.Live now

def answer (state : SubscriptionService) (response : ToolCallResponse) : SubscriptionService :=
  { state with loop := .idle, responses := state.responses ++ [response] }

/-- Take a call out of the subscription. -/
def receive (state : SubscriptionService) : SubscriptionService :=
  { state with calls := state.calls + 1 }

def step : Steps SubscriptionService ServiceLabel
  | state, .subscribeEvents agentId args now =>
      match state.loop with
      | .idle =>
          some (match verdict env args (state.listed agentId) now with
            | .refused response => state.receive.answer response
            | .panicked => { state.receive with loop := .panicked }
            | .accepted expiry =>
                { state.receive with loop := .spawning agentId args expiry args.subjects })
      | _ => none
  | state, .unsubscribeEvents agentId subjects =>
      match state.loop with
      | .idle =>
          let removed := state.tasks.countP fun task ↦ task.Matches agentId subjects
          some ({ state.receive with
            tasks := state.tasks.map (SubscriptionTask.unsubscribe agentId subjects) }.answer
              (unsubscribed removed))
      | _ => none
  | state, .spawn =>
      match state.loop with
      | .spawning agentId args expiry (pattern :: remaining) =>
          some { state with
            loop := .spawning agentId args expiry remaining
            tasks := state.tasks ++ [⟨agentId, pattern, expiry, .suspended .subscribing, .spawned⟩] }
      | _ => none
  | state, .extend =>
      match state.loop with
      | .spawning _ args expiry [] =>
          some ({ state with tasks := state.tasks.map SubscriptionTask.list }.answer
            (subscribed env args expiry))
      | _ => none
  | state, .task t label =>
      state.tasks[t]?.bind fun task ↦
        (task.progress.step task.expiry label).map fun progress ↦
          { state with
            tasks := state.tasks.set t { task with progress }
            forwarded := state.forwarded ++ match task.progress, label with
              | .running (.forwarding message) _, .forward true =>
                  [subscribedEvent env.json task.agentId message]
              | _, _ => [] }

def start : SubscriptionService := ⟨.idle, [], 0, [], []⟩

/-! ## What the cap promises -/

/-- Entries of ended and expired tasks do not decide about the cap, an expiry that is computed can be
represented, and no task that is aborted is running. -/
def Orderly (state : SubscriptionService) : ServiceLabel → Prop
  | .subscribeEvents agentId args now =>
      let count := state.listed agentId + args.subjects.length
      (∃ subject ∈ args.subjects, isDenied subject = true) ∨
        maxRuntimeSubscriptions + state.stale agentId now < count ∨
        (count ≤ maxRuntimeSubscriptions ∧
          ∀ durationSeconds ∈ args.durationSeconds, (expiresAfter env now durationSeconds).isSome)
  | .unsubscribeEvents agentId subjects =>
      ∀ task ∈ state.tasks, task.Matches agentId subjects → task.progress.isRunning = false
  | _ => True

instance (state : SubscriptionService) (label : ServiceLabel) : Decidable (Orderly env state label) := by
  cases label <;> unfold Orderly <;> infer_instance

/-- What holds in every state that steps under a condition reach. -/
structure KeepsCap (guard : SubscriptionService → ServiceLabel → Prop)
    (state : SubscriptionService) : Prop where
  /-- The handler's own steps lead to an answer of every call. -/
  answers : ∃ labels next, (∀ label ∈ labels, label.IsHandler) ∧
    Steps.execute (step env) state labels = some next ∧
    next.loop = .idle ∧ next.responses.length = next.calls
  capped : ∀ agentId now, state.live agentId now ≤ maxRuntimeSubscriptions
  refuses : ∀ agentId args now next, guard state (.subscribeEvents agentId args now) →
    step env state (.subscribeEvents agentId args now) = some next →
    next.responses = state.responses ++ [tooMany] →
    maxRuntimeSubscriptions < state.live agentId now + args.subjects.length
  silences : ∀ agentId subjects next later, guard state (.unsubscribeEvents agentId subjects) →
    step env state (.unsubscribeEvents agentId subjects) = some next →
    Steps.Reach (step env) guard next later →
    ∀ t, ∀ task ∈ next.tasks[t]?, task.agentId = agentId → task.pattern ∈ subjects →
    ∀ ok, step env later (.task t (.forward ok)) = none

variable {env : SubscriptionEnv} {state next : SubscriptionService} {label : ServiceLabel} {α : Type*}
  {p : α → Bool}

/-- Elements of one kind are each of one of two others. -/
theorem countP_le_add {q r : α → Bool} (h : ∀ x, p x = true → q x = true ∨ r x = true) (xs : List α) :
    xs.countP p ≤ xs.countP q + xs.countP r := by
  induction xs with
  | nil => exact Nat.le_refl 0
  | cons x xs ih =>
    simp only [List.countP_cons]
    have hone := h x
    by_cases hp : p x = true
    · rcases hone hp with hq | hr
      · rw [if_pos hp, if_pos hq]
        omega
      · rw [if_pos hp, if_pos hr]
        omega
    · rw [if_neg hp]
      omega

theorem countP_set_of_eq {xs : List α} {t : ℕ} {x y : α} (hat : xs[t]? = some x) (h : p y = p x) :
    (xs.set t y).countP p = xs.countP p := by
  obtain ⟨hlt, rfl⟩ := List.getElem?_eq_some_iff.mp hat
  have hpos : p xs[t] = true → 0 < xs.countP p := fun hx ↦
    List.countP_pos_iff.mpr ⟨xs[t], List.getElem_mem hlt, hx⟩
  rw [List.countP_set hlt, h]
  split_ifs with hx
  · have := hpos hx
    omega
  · rfl

theorem listed_le (agentId : String) (now : ℤ) (state : SubscriptionService) :
    state.listed agentId ≤ state.live agentId now + state.stale agentId now := by
  refine countP_le_add (fun task htask ↦ ?_) state.tasks
  by_cases hlive : task.Live now <;> simp_all

/-- The entries an agent has, or is about to have. -/
def held (agentId : String) (state : SubscriptionService) : ℕ :=
  state.tasks.countP fun task ↦ task.entry ≠ .removed ∧ task.agentId = agentId

end SubscriptionService

namespace ServiceLoop

/-- The tasks of an agent that are still to be spawned. -/
def missing (agentId : String) : ServiceLoop → ℕ
  | .spawning other _ _ remaining => if other = agentId then remaining.length else 0
  | _ => 0

/-- The calls that have no response. -/
def unanswered : ServiceLoop → ℕ
  | .idle => 0
  | _ => 1

end ServiceLoop

namespace SubscriptionService

variable {env : SubscriptionEnv} {state next : SubscriptionService} {label : ServiceLabel}

/-- What orderly steps keep. -/
structure Kept (state : SubscriptionService) : Prop where
  running : state.loop ≠ .panicked
  answered : state.responses.length + state.loop.unanswered = state.calls
  removed : ∀ task ∈ state.tasks, task.entry = .removed → task.progress.isEnded = true
  /-- Only a call that is being handled has tasks without an entry. -/
  spawned : ∀ task ∈ state.tasks, task.entry = .spawned →
    ∃ args expiry remaining, state.loop = .spawning task.agentId args expiry remaining
  room : ∀ agentId, state.held agentId + state.loop.missing agentId ≤ maxRuntimeSubscriptions

theorem kept_start : Kept start where
  running := ServiceLoop.noConfusion
  answered := rfl
  removed := by simp [start]
  spawned := by simp [start]
  room := by simp [start, held, ServiceLoop.missing]

theorem Kept.live_le (h : Kept state) (agentId : String) (now : ℤ) :
    state.live agentId now ≤ maxRuntimeSubscriptions := by
  have hheld : state.live agentId now ≤ state.held agentId := by
    refine List.countP_mono_left fun task htask hlive ↦ ?_
    obtain ⟨hagent, hlive, -⟩ := of_decide_eq_true hlive
    refine decide_eq_true ⟨fun hentry ↦ ?_, hagent⟩
    rw [h.removed task htask hentry] at hlive
    cases hlive
  have hroom := h.room agentId
  omega

theorem Kept.entry_ne_spawned (h : Kept state) (hloop : state.loop = .idle) {task : SubscriptionTask}
    (htask : task ∈ state.tasks) : task.entry ≠ .spawned := by
  intro hentry
  obtain ⟨_, _, _, hspawning⟩ := h.spawned task htask hentry
  rw [hloop] at hspawning
  cases hspawning

theorem Kept.held_le (h : Kept state) (hloop : state.loop = .idle) (agentId : String) :
    state.held agentId ≤ state.listed agentId := by
  refine List.countP_mono_left fun task htask hheld ↦ ?_
  obtain ⟨hentry, hagent⟩ := of_decide_eq_true hheld
  refine decide_eq_true ⟨?_, hagent⟩
  cases hkind : task.entry with
  | listed => rfl
  | removed => exact absurd hkind hentry
  | spawned => exact absurd hkind (h.entry_ne_spawned hloop htask)

/-- What a handler may do to the tasks: end them, and give or take their entries. -/
theorem Kept.answer (h : Kept state) {change : SubscriptionTask → SubscriptionTask}
    {response : ToolCallResponse} {calls : ℕ} (hcalls : calls = state.responses.length + 1)
    (hagent : ∀ task, (change task).agentId = task.agentId)
    (hspawned : ∀ task ∈ state.tasks, (change task).entry ≠ .spawned)
    (hremoved : ∀ task ∈ state.tasks, (change task).entry = .removed →
      (change task).progress.isEnded = true)
    (hkept : ∀ task, task.entry = .removed → (change task).entry = .removed) :
    Kept (SubscriptionService.answer
      { state with tasks := state.tasks.map change, calls := calls } response) where
  running := ServiceLoop.noConfusion
  answered := by
    simp only [SubscriptionService.answer, List.length_append, List.length_singleton,
      ServiceLoop.unanswered, hcalls]
  removed task htask hentry := by
    obtain ⟨before, hbefore, rfl⟩ := List.mem_map.mp htask
    exact hremoved before hbefore hentry
  spawned task htask hentry := by
    obtain ⟨before, hbefore, rfl⟩ := List.mem_map.mp htask
    exact absurd hentry (hspawned before hbefore)
  room agentId := by
    have hroom := h.room agentId
    have hheld : (state.tasks.map change).countP
        (fun task ↦ task.entry ≠ .removed ∧ task.agentId = agentId) ≤ state.held agentId := by
      rw [List.countP_map]
      refine List.countP_mono_left fun task _ hchanged ↦ ?_
      obtain ⟨hentry, hsame⟩ := of_decide_eq_true hchanged
      exact decide_eq_true ⟨fun hold ↦ hentry (hkept task hold), (hagent task).symm.trans hsame⟩
    simp only [SubscriptionService.answer, held, ServiceLoop.missing]
    omega

theorem denied_ne (subject : String) :
    ToolCallResponse.error subscribeEventsTool ("Cannot subscribe to internal subject: " ++ subject) ≠
      tooMany := by
  intro hsame
  have hresult := congrArg ToolCallResponse.result hsame
  simp only [tooMany, ToolCallResponse.error, Value.object.injEq, List.cons.injEq, Prod.mk.injEq,
    Value.string.injEq, and_true, true_and] at hresult
  have hfirst := congrArg (fun text : String ↦ text.toList.head?) hresult
  simp at hfirst

variable {args : SubscribeEventsRequest} {agentId : String} {now : ℤ} {subjects : List String} {t : ℕ}
  {taskLabel : TaskLabel}

/-- What a call for subscriptions does. -/
theorem subscribe_cases (hguard : Orderly env state (.subscribeEvents agentId args now))
    (hstep : step env state (.subscribeEvents agentId args now) = some next) :
    state.loop = .idle ∧
      ((∃ response, next = state.receive.answer response ∧
          (response = tooMany → maxRuntimeSubscriptions + state.stale agentId now <
            state.listed agentId + args.subjects.length)) ∨
        ∃ expiry, state.listed agentId + args.subjects.length ≤ maxRuntimeSubscriptions ∧
          next = { state.receive with loop := .spawning agentId args expiry args.subjects }) := by
  simp only [step] at hstep
  split at hstep
  · rename_i hloop
    refine ⟨hloop, ?_⟩
    cases hstep
    cases hfind : args.subjects.find? isDenied with
    | some subject =>
      exact .inl ⟨_, by simp only [verdict, hfind], fun hsame ↦ absurd hsame (denied_ne subject)⟩
    | none =>
      have hallowed : ¬ ∃ subject ∈ args.subjects, isDenied subject = true := by
        simpa using hfind
      have hcount := hguard.resolve_left hallowed
      by_cases hcap : maxRuntimeSubscriptions < state.listed agentId + args.subjects.length
      · refine .inl ⟨tooMany, by simp only [verdict, hfind, if_pos hcap], fun _ ↦ ?_⟩
        exact hcount.resolve_right fun h ↦ absurd h.1 (Nat.not_le.mpr hcap)
      · have hroom := Nat.not_lt.mp hcap
        have hexpiry := (hcount.resolve_left fun h ↦ hcap (by omega)).2
        refine .inr ?_
        cases hduration : args.durationSeconds with
        | none => exact ⟨none, hroom, by simp only [verdict, hfind, if_neg hcap, hduration]⟩
        | some durationSeconds =>
          obtain ⟨expiry, hsome⟩ := Option.isSome_iff_exists.mp (hexpiry durationSeconds hduration)
          exact ⟨some expiry, hroom,
            by simp only [verdict, hfind, if_neg hcap, hduration, hsome]⟩
  · cases hstep

theorem Kept.subscribe (h : Kept state) (hguard : Orderly env state (.subscribeEvents agentId args now))
    (hstep : step env state (.subscribeEvents agentId args now) = some next) : Kept next := by
  obtain ⟨hloop, hcases⟩ := subscribe_cases hguard hstep
  have hanswered := h.answered
  rw [hloop, ServiceLoop.unanswered] at hanswered
  rcases hcases with ⟨response, rfl, -⟩ | ⟨expiry, hcount, rfl⟩
  · refine { running := ServiceLoop.noConfusion, answered := ?_, removed := h.removed,
             spawned := ?_, room := ?_ }
    · simp only [SubscriptionService.answer, receive, ServiceLoop.unanswered, List.length_append,
        List.length_singleton]
      omega
    · exact fun _ htask hentry ↦ absurd hentry (h.entry_ne_spawned hloop htask)
    · intro other
      exact (Nat.le_add_right _ _).trans (h.room other)
  · refine { running := ServiceLoop.noConfusion, answered := ?_, removed := h.removed,
             spawned := ?_, room := ?_ }
    · simp only [receive, ServiceLoop.unanswered]
      omega
    · exact fun _ htask hentry ↦ absurd hentry (h.entry_ne_spawned hloop htask)
    · intro other
      have hroom := h.room other
      have hheld := h.held_le hloop other
      simp only [ServiceLoop.missing]
      split_ifs with hother
      · subst hother
        exact (Nat.add_le_add_right hheld _).trans hcount
      · exact (Nat.le_add_right _ _).trans hroom

theorem Kept.unsubscribe (h : Kept state) (hguard : Orderly env state (.unsubscribeEvents agentId subjects))
    (hstep : step env state (.unsubscribeEvents agentId subjects) = some next) :
    Kept next ∧ state.loop = .idle ∧
      next.tasks = state.tasks.map (SubscriptionTask.unsubscribe agentId subjects) := by
  simp only [step] at hstep
  split at hstep
  · rename_i hloop
    cases hstep
    refine ⟨?_, hloop, rfl⟩
    have hanswered := h.answered
    rw [hloop, ServiceLoop.unanswered] at hanswered
    refine h.answer (congrArg (· + 1) hanswered.symm) (fun task ↦ ?_) (fun task htask ↦ ?_)
      (fun task htask hentry ↦ ?_) fun task hentry ↦ ?_
    · unfold SubscriptionTask.unsubscribe
      split_ifs <;> rfl
    · unfold SubscriptionTask.unsubscribe
      split_ifs
      · exact TaskEntry.noConfusion
      · exact h.entry_ne_spawned hloop htask
    · unfold SubscriptionTask.unsubscribe at hentry ⊢
      split_ifs at hentry ⊢ with hmatches
      · exact TaskProgress.isEnded_abort (hguard task htask hmatches)
      · exact h.removed task htask hentry
    · unfold SubscriptionTask.unsubscribe
      split_ifs
      · rfl
      · exact hentry
  · cases hstep

theorem Kept.spawn (h : Kept state) (hstep : step env state .spawn = some next) : Kept next := by
  simp only [step] at hstep
  split at hstep
  · rename_i agentId args expiry pattern remaining hloop
    cases hstep
    have hanswered := h.answered
    rw [hloop] at hanswered
    refine { running := ServiceLoop.noConfusion, answered := hanswered, removed := ?_,
             spawned := ?_, room := ?_ }
    · intro task htask hentry
      obtain hold | rfl := mem_of_concat htask
      · exact h.removed task hold hentry
      · cases hentry
    · intro task htask hentry
      obtain hold | rfl := mem_of_concat htask
      · obtain ⟨_, _, _, hspawning⟩ := h.spawned task hold hentry
        rw [hloop] at hspawning
        obtain ⟨rfl, -, -, -⟩ := ServiceLoop.spawning.inj hspawning
        exact ⟨args, expiry, remaining, rfl⟩
      · exact ⟨args, expiry, remaining, rfl⟩
    · intro other
      have hroom := h.room other
      simp only [hloop, held, ServiceLoop.missing] at hroom ⊢
      have hnew : List.countP
          (fun task : SubscriptionTask ↦ decide (task.entry ≠ .removed ∧ task.agentId = other))
          [⟨agentId, pattern, expiry, .suspended .subscribing, .spawned⟩] =
          if agentId = other then 1 else 0 := by
        simp [List.countP_singleton]
      rw [List.countP_append, hnew]
      split_ifs at hroom ⊢
      · rw [List.length_cons] at hroom
        omega
      · exact hroom
  · cases hstep

theorem Kept.extend (h : Kept state) (hstep : step env state .extend = some next) : Kept next := by
  simp only [step] at hstep
  split at hstep
  · rename_i agentId args expiry hloop
    cases hstep
    have hanswered := h.answered
    rw [hloop] at hanswered
    refine h.answer hanswered.symm (fun task ↦ ?_) (fun task _ ↦ ?_) (fun task htask hentry ↦ ?_)
      fun task hentry ↦ ?_
    · unfold SubscriptionTask.list
      split_ifs <;> rfl
    · unfold SubscriptionTask.list
      split_ifs with hspawned
      · exact TaskEntry.noConfusion
      · exact hspawned
    · unfold SubscriptionTask.list at hentry ⊢
      split_ifs at hentry ⊢
      exact h.removed task htask hentry
    · unfold SubscriptionTask.list
      rw [if_neg (by simp [hentry])]
      exact hentry
  · cases hstep

theorem task_cases (hstep : step env state (.task t taskLabel) = some next) :
    ∃ task progress forwarded, state.tasks[t]? = some task ∧
      task.progress.step task.expiry taskLabel = some progress ∧
      next = { state with tasks := state.tasks.set t { task with progress }, forwarded } := by
  obtain ⟨task, hat, hmap⟩ := Option.bind_eq_some_iff.mp hstep
  obtain ⟨progress, hprogress, rfl⟩ := Option.map_eq_some_iff.mp hmap
  exact ⟨task, progress, _, hat, hprogress, rfl⟩

theorem Kept.task (h : Kept state) (hstep : step env state (.task t taskLabel) = some next) : Kept next := by
  obtain ⟨task, progress, forwarded, hat, hprogress, rfl⟩ := task_cases hstep
  have hmem := List.mem_of_getElem? hat
  refine { running := h.running, answered := h.answered, removed := ?_, spawned := ?_, room := ?_ }
  · intro other hother hentry
    rcases List.mem_or_eq_of_mem_set hother with hold | rfl
    · exact h.removed other hold hentry
    · have hended := h.removed task hmem hentry
      rw [TaskProgress.step_isEnded hended] at hprogress
      cases hprogress
  · intro other hother hentry
    rcases List.mem_or_eq_of_mem_set hother with hold | rfl
    · exact h.spawned other hold hentry
    · exact h.spawned task hmem hentry
  · intro agentId
    have hheld := countP_set_of_eq (y := { task with progress }) hat
      (p := fun task ↦ decide (task.entry ≠ .removed ∧ task.agentId = agentId)) rfl
    have hroom := h.room agentId
    simp only [held] at hroom ⊢
    rw [hheld]
    exact hroom

theorem Kept.step (h : Kept state) (hguard : Orderly env state label)
    (hstep : SubscriptionService.step env state label = some next) : Kept next := by
  cases label with
  | subscribeEvents agentId args now => exact h.subscribe hguard hstep
  | unsubscribeEvents agentId subjects => exact (h.unsubscribe hguard hstep).1
  | spawn => exact h.spawn hstep
  | extend => exact h.extend hstep
  | task t taskLabel => exact h.task hstep

/-- The task at a position has ended. -/
def EndedAt (t : ℕ) (state : SubscriptionService) : Prop :=
  ∃ task ∈ state.tasks[t]?, task.progress.isEnded = true

/-- A task that has ended stays so. -/
theorem EndedAt.step (h : EndedAt t state) (hstep : SubscriptionService.step env state label = some next) :
    EndedAt t next := by
  obtain ⟨task, hat, hended⟩ := h
  rw [Option.mem_def] at hat
  cases label with
  | subscribeEvents agentId args now =>
    simp only [SubscriptionService.step] at hstep
    split at hstep
    · cases hstep
      refine ⟨task, ?_, hended⟩
      split <;> exact hat
    · cases hstep
  | unsubscribeEvents agentId subjects =>
    simp only [SubscriptionService.step] at hstep
    split at hstep
    · cases hstep
      refine ⟨task.unsubscribe agentId subjects, ?_, ?_⟩
      · simp [SubscriptionService.answer, hat]
      · unfold SubscriptionTask.unsubscribe
        split_ifs
        · cases hprogress : task.progress with
          | suspended | ended => rfl
          | running => rw [hprogress] at hended; cases hended
        · exact hended
    · cases hstep
  | spawn =>
    simp only [SubscriptionService.step] at hstep
    split at hstep
    · cases hstep
      refine ⟨task, ?_, hended⟩
      simp only
      rw [List.getElem?_append_left (List.getElem?_eq_some_iff.mp hat).1]
      exact hat
    · cases hstep
  | extend =>
    simp only [SubscriptionService.step] at hstep
    split at hstep
    · cases hstep
      refine ⟨task.list, by simp [SubscriptionService.answer, hat], ?_⟩
      unfold SubscriptionTask.list
      split_ifs <;> exact hended
    · cases hstep
  | task u taskLabel =>
    obtain ⟨other, progress, forwarded, hother, hprogress, rfl⟩ := task_cases hstep
    refine ⟨task, ?_, hended⟩
    by_cases hsame : u = t
    · subst hsame
      obtain rfl := Option.some.inj (hat.symm.trans hother)
      rw [TaskProgress.step_isEnded hended] at hprogress
      cases hprogress
    · simp only
      rw [List.getElem?_set_ne hsame]
      exact hat

theorem EndedAt.silent (h : EndedAt t state) (taskLabel : TaskLabel) :
    SubscriptionService.step env state (.task t taskLabel) = none := by
  obtain ⟨task, hat, hended⟩ := h
  rw [Option.mem_def] at hat
  simp [SubscriptionService.step, hat, TaskProgress.step_isEnded hended]

/-- The handler spawns what is missing, and answers. -/
theorem answers_of_spawning (env : SubscriptionEnv) {expiry : Option ℤ} {remaining : List String}
    (hloop : state.loop = .spawning agentId args expiry remaining) :
    ∃ labels next, (∀ label ∈ labels, label.IsHandler) ∧
      Steps.execute (step env) state labels = some next ∧ next.loop = .idle ∧
      next.responses.length = state.responses.length + 1 ∧ next.calls = state.calls := by
  induction remaining generalizing state with
  | nil =>
    have hextend : step env state .extend =
        some ({ state with tasks := state.tasks.map SubscriptionTask.list }.answer
          (subscribed env args expiry)) := by
      simp only [step, hloop]
    refine ⟨[.extend], { state with tasks := state.tasks.map SubscriptionTask.list }.answer
        (subscribed env args expiry), ?_, ?_, rfl, List.length_append, rfl⟩
    · exact List.forall_mem_singleton.mpr trivial
    · rw [Steps.execute, hextend, Option.bind_some, Steps.execute]
  | cons pattern remaining ih =>
    have hspawn : step env state .spawn = some { state with
        loop := .spawning agentId args expiry remaining
        tasks := state.tasks ++ [⟨agentId, pattern, expiry, .suspended .subscribing, .spawned⟩] } := by
      simp only [step, hloop]
    have hnext : SubscriptionService.loop { state with
        loop := .spawning agentId args expiry remaining
        tasks := state.tasks ++ [⟨agentId, pattern, expiry, .suspended .subscribing, .spawned⟩] } =
        .spawning agentId args expiry remaining := rfl
    obtain ⟨labels, next, hhandler, hexecute, hidle, hresponses, hcalls⟩ := ih hnext
    refine ⟨.spawn :: labels, next, ?_, ?_, hidle, hresponses, hcalls⟩
    · exact List.forall_mem_cons.mpr ⟨trivial, hhandler⟩
    · rw [Steps.execute, hspawn, Option.bind_some]
      exact hexecute

theorem Kept.answers (h : Kept state) : ∃ labels next, (∀ label ∈ labels, label.IsHandler) ∧
    Steps.execute (SubscriptionService.step env) state labels = some next ∧
    next.loop = .idle ∧ next.responses.length = next.calls := by
  have hanswered := h.answered
  cases hloop : state.loop with
  | idle =>
    rw [hloop] at hanswered
    exact ⟨[], state, by simp, rfl, hloop, hanswered⟩
  | spawning agentId args expiry remaining =>
    rw [hloop] at hanswered
    obtain ⟨labels, next, hhandler, hexecute, hidle, hresponses, hcalls⟩ :=
      answers_of_spawning env hloop
    exact ⟨labels, next, hhandler, hexecute, hidle, by rw [hresponses, hcalls, ← hanswered]; rfl⟩
  | panicked => exact absurd hloop h.running

/-- A refusal for the cap is one of too many live subscriptions. -/
theorem refuses_of_orderly (hguard : Orderly env state (.subscribeEvents agentId args now))
    (hstep : step env state (.subscribeEvents agentId args now) = some next)
    (hrefused : next.responses = state.responses ++ [tooMany]) :
    maxRuntimeSubscriptions < state.live agentId now + args.subjects.length := by
  have hlisted := listed_le agentId now state
  obtain ⟨-, ⟨response, rfl, hcount⟩ | ⟨expiry, -, rfl⟩⟩ := subscribe_cases hguard hstep
  · have hsame : response = tooMany := List.singleton_inj.mp (List.append_cancel_left hrefused)
    have := hcount hsame
    omega
  · have hlength := congrArg List.length hrefused
    simp [receive] at hlength

/-- The tasks of an agent that match what it unsubscribes from have ended. -/
theorem Kept.ended_of_unsubscribe (h : Kept state)
    (hguard : Orderly env state (.unsubscribeEvents agentId subjects))
    (hstep : SubscriptionService.step env state (.unsubscribeEvents agentId subjects) = some next)
    {task : SubscriptionTask} (htask : task ∈ next.tasks) (hagent : task.agentId = agentId)
    (hpattern : task.pattern ∈ subjects) : task.progress.isEnded = true := by
  obtain ⟨hkept, hloop, htasks⟩ := h.unsubscribe hguard hstep
  rw [htasks] at htask
  obtain ⟨before, hbefore, rfl⟩ := List.mem_map.mp htask
  unfold SubscriptionTask.unsubscribe at hagent hpattern ⊢
  split_ifs at hagent hpattern ⊢ with hmatches
  · exact TaskProgress.isEnded_abort (hguard before hbefore hmatches)
  · cases hentry : before.entry with
    | listed => exact absurd ⟨hentry, hagent, hpattern⟩ hmatches
    | removed => exact h.removed before hbefore hentry
    | spawned => exact absurd hentry (h.entry_ne_spawned hloop hbefore)

/-- While entries of ended tasks do not decide about the cap, expiries can be represented, and no
task is aborted while it runs, every call is answered, no agent has more than twenty live
subscriptions, the cap refuses only what exceeds it, and what is unsubscribed forwards nothing. -/
theorem keepsCap_of_reach (hreach : Steps.Reach (step env) (Orderly env) start state) :
    KeepsCap env (Orderly env) state := by
  have hkept : Kept state :=
    hreach.invariant kept_start fun _ _ _ h hguard hstep ↦ h.step hguard hstep
  refine { answers := hkept.answers, capped := hkept.live_le, refuses := ?_, silences := ?_ }
  · intro agentId args now next hguard hstep hrefused
    exact refuses_of_orderly hguard hstep hrefused
  · intro agentId subjects next later hguard hstep hlater t task hat hagent hpattern ok
    have hended := hkept.ended_of_unsubscribe hguard hstep (List.mem_of_getElem? hat) hagent hpattern
    have hlast : EndedAt t later := hlater.invariant ⟨task, hat, hended⟩ fun _ _ _ hend _ hnext ↦
      hend.step hnext
    exact hlast.silent _

/-- Instants of the years from -262143 to 262142, and payloads that are not JSON. -/
def yearsEnv : SubscriptionEnv where
  json := ⟨fun _ ↦ none, fun _ ↦ ""⟩
  plusSeconds now seconds :=
    let time := now + seconds * 1000000000
    if -8334601315200000000000 ≤ time ∧ time < 8210266876800000000000 then some time else none
  rfc3339 _ := ""

/-- An agent subscribes for a minute, an event is forwarded, and the agent unsubscribes. -/
def minuteRun : List ServiceLabel :=
  [.subscribeEvents "ada" ⟨["deploy.*"], some 60⟩ 0, .spawn, .extend,
    .task 0 .poll, .task 0 (.subscribe true), .task 0 (.check 1), .task 0 .suspend, .task 0 .poll,
    .task 0 (.receive (some (some ⟨"deploy.staging", [], none⟩))), .task 0 (.forward true),
    .task 0 (.check 2), .task 0 .suspend, .unsubscribeEvents "ada" ["deploy.*"]]

theorem keepsCap_of_reach_minute : ∃ state,
    Steps.execute (step yearsEnv) start minuteRun = some state ∧
      state.responses = [subscribed yearsEnv ⟨["deploy.*"], some 60⟩ (some 60000000000),
        unsubscribed 1] ∧
      state.forwarded.length = 1 ∧ KeepsCap yearsEnv (Orderly yearsEnv) state := by
  have hguard : Steps.Guarded (step yearsEnv) (Orderly yearsEnv) start minuteRun := by
    decide +kernel
  obtain ⟨state, hstate, hresponses, hforwarded⟩ : ∃ state ∈
      Steps.execute (step yearsEnv) start minuteRun,
      state.responses = [subscribed yearsEnv ⟨["deploy.*"], some 60⟩ (some 60000000000),
        unsubscribed 1] ∧ state.forwarded.length = 1 := ⟨_, rfl, rfl, rfl⟩
  exact ⟨state, hstate, hresponses, hforwarded,
    keepsCap_of_reach (Steps.reach_of_execute hguard hstate)⟩

/-- A duration of 9223372036854775807 seconds ends the service without an answer. -/
theorem keepsCap_panics :
    ¬ ∀ state, Steps.Reach (step yearsEnv) (fun _ _ ↦ True) start state →
      KeepsCap yearsEnv (fun _ _ ↦ True) state := by
  intro hall
  let panicked : SubscriptionService := ⟨.panicked, [], 1, [], []⟩
  have hstep : step yearsEnv start
      (.subscribeEvents "ada" ⟨["deploy.*"], some 9223372036854775807⟩ 0) = some panicked := rfl
  obtain ⟨labels, next, hhandler, hexecute, hidle, -⟩ :=
    (hall panicked (.next .init trivial hstep)).answers
  cases labels with
  | nil =>
    cases hexecute
    cases hidle
  | cons label rest =>
    have hlabel := hhandler label List.mem_cons_self
    cases label with
    | spawn | extend => cases hexecute
    | subscribeEvents | unsubscribeEvents | task => exact hlabel

end SubscriptionService

end Seidrum.Kernel
