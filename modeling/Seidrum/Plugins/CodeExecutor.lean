import Seidrum.EventBus.Dispatch.Filter

/-!
# The code executor

Code is started under `unshare --net`, or without it if that cannot be spawned.  Whether the isolation
failed is inferred from the exit code and the error text, which the code itself may produce: then it is
started again, without isolation.  Waiting goes on until the process has ended and nobody holds its output
open; it is given up after the timeout, which leaves the process running.
-/

namespace Seidrum.Plugins

open EventBus (EventFilter.containsSubstring)

structure CodeExecuteRequest where
  language : String
  code : String
  timeoutSeconds : ℕ

structure CodeExecuteResponse where
  stdout : String
  stderr : String
  exitCode : ℤ
  timedOut : Bool
  deriving DecidableEq, Repr

/-- Maximum allowed timeout for code execution. -/
def maxTimeoutSeconds : ℕ := 30

/-- The response to a request for which nothing was waited for. -/
def CodeExecuteResponse.refusal (stderr : String) : CodeExecuteResponse := ⟨"", stderr, -1, false⟩

/-- The program for a language and its arguments. -/
def interpreter (request : CodeExecuteRequest) : Option (String × List String) :=
  match request.language with
  | "python" => some ("python3", ["-c", request.code])
  | "bash" => some ("bash", ["-c", request.code])
  | "javascript" => some ("node", ["-e", request.code])
  | _ => none

/-- What a process does: how long it runs, if it ends, and what it leaves.  Reading its output may fail
before it ends. -/
structure Behaviour where
  runtimeMs : Option ℕ
  /-- when the last process that writes to its output has closed it -/
  outputClosedMs : Option ℕ
  stdout : String
  stderr : String
  /-- none for a process ended by a signal -/
  exitCode : Option ℤ
  waitFailure : Option (ℕ × String)

/-- The outcome of waiting for a process with a timeout. -/
inductive Waited
  | completed
  | failed (error : String)
  | elapsed
  deriving DecidableEq

namespace Behaviour

/-- Wait for the output of a process, for a number of milliseconds at most. -/
def waited (behaviour : Behaviour) (limitMs : ℕ) : Waited × ℕ :=
  let untilEnd : Waited × ℕ :=
    match behaviour.runtimeMs, behaviour.outputClosedMs with
    | some runtime, some closed =>
        if max runtime closed ≤ limitMs then (.completed, max runtime closed) else (.elapsed, limitMs)
    | _, _ => (.elapsed, limitMs)
  match behaviour.waitFailure with
  | some (after, error) => if after < untilEnd.2 then (.failed error, after) else untilEnd
  | none => untilEnd

/-- `run_child_with_timeout`, with the time it takes. -/
def runChildWithTimeout (behaviour : Behaviour) (timeoutSecs : ℕ) : CodeExecuteResponse × ℕ :=
  let waited := behaviour.waited (timeoutSecs * 1000)
  let response : CodeExecuteResponse :=
    match waited.1 with
    | .completed => ⟨behaviour.stdout, behaviour.stderr, behaviour.exitCode.getD (-1), false⟩
    | .failed error => .refusal ("Process error: " ++ error)
    | .elapsed => ⟨"", "Execution timed out after " ++ timeoutSecs.repr ++ "s", -1, true⟩
  (response, waited.2)

end Behaviour

/-- A process the executor started.  One that was started under `unshare` runs the code only if the
isolation was set up, and then in it. -/
structure Process where
  isolated : Bool
  runsCode : Bool
  startedAt : ℕ
  behaviour : Behaviour

/-- A process that has not ended by a time; being given up does not end it. -/
def Process.RunningAt (now : ℕ) (process : Process) : Prop :=
  ∀ runtime ∈ process.behaviour.runtimeMs, now < process.startedAt + runtime

/-- The time since the request in milliseconds, and the processes started so far. -/
structure Execution where
  now : ℕ
  processes : List Process

/-- The outcomes of the two spawns.  `unshare` itself may fail before it starts the code. -/
structure SpawnOutcomes where
  unshare : Option (Bool × Behaviour)
  plain : Option Behaviour

namespace Execution

/-- Start a process and wait for it. -/
def run (execution : Execution) (timeoutSecs : ℕ) (isolated runsCode : Bool) (behaviour : Behaviour) :
    CodeExecuteResponse × Execution :=
  let result := behaviour.runChildWithTimeout timeoutSecs
  (result.1,
    { now := execution.now + result.2
      processes := execution.processes ++ [⟨isolated, runsCode, execution.now, behaviour⟩] })

/-- Start the code without isolation. -/
def runPlain (execution : Execution) (timeoutSecs : ℕ) (plain : Option Behaviour) :
    Except String CodeExecuteResponse × Execution :=
  match plain with
  | none => (.error "Failed to spawn subprocess", execution)
  | some behaviour =>
      let (response, execution) := execution.run timeoutSecs false true behaviour
      (.ok response, execution)

end Execution

/-- The exit code and the error text that count as a failure of the isolation. -/
def looksRefused (response : CodeExecuteResponse) : Bool :=
  response.exitCode ≠ 0 &&
    (EventFilter.containsSubstring response.stderr "unshare" ||
      EventFilter.containsSubstring response.stderr "Operation not permitted")

def tryExecuteWithIsolation (outcomes : SpawnOutcomes) (timeoutSecs : ℕ) :
    Except String CodeExecuteResponse × Execution :=
  match outcomes.unshare with
  | none => Execution.runPlain ⟨0, []⟩ timeoutSecs outcomes.plain
  | some (runsCode, behaviour) =>
      let (response, execution) := Execution.run ⟨0, []⟩ timeoutSecs true runsCode behaviour
      if looksRefused response then execution.runPlain timeoutSecs outcomes.plain
      else (.ok response, execution)

/-- `spawns` gives the outcomes of the spawns for a program and its arguments. -/
def executeCode (spawns : String → List String → SpawnOutcomes) (request : CodeExecuteRequest) :
    CodeExecuteResponse × Execution :=
  let timeoutSecs := min request.timeoutSeconds maxTimeoutSeconds
  match interpreter request with
  | none =>
      (.refusal ("Unsupported language: " ++ request.language ++
        ". Supported: python, bash, javascript"), ⟨0, []⟩)
  | some (program, args) =>
      match tryExecuteWithIsolation (spawns program args) timeoutSecs with
      | (.ok response, execution) => (response, execution)
      | (.error error, execution) => (.refusal ("Execution error: " ++ error), execution)

/-- The code is started at most once, not outside the isolation if it is started in it, and nothing is left
running. -/
structure Execution.Confined (execution : Execution) : Prop where
  isolated : (∃ process ∈ execution.processes, process.runsCode ∧ process.isolated) →
    ∀ process ∈ execution.processes, process.runsCode → process.isolated
  once : (execution.processes.countP Process.runsCode) ≤ 1
  ended : ∀ process ∈ execution.processes, ¬process.RunningAt execution.now

/-- The process ends within a time. -/
def Behaviour.EndsBy (behaviour : Behaviour) (timeMs : ℕ) : Prop :=
  ∃ runtime ∈ behaviour.runtimeMs, runtime ≤ timeMs

/-- The process ends while it is waited for; its output may be closed later. -/
def Behaviour.EndsWithin (behaviour : Behaviour) (timeoutSecs : ℕ) : Prop :=
  behaviour.EndsBy (behaviour.runChildWithTimeout timeoutSecs).2

/-- Every process that is spawned ends while it is waited for, and code that ran under `unshare` did not
leave an exit code and a text that look like a failure of the isolation, unless the code cannot be
started again. -/
def SpawnOutcomes.Harmless (outcomes : SpawnOutcomes) (timeoutSecs : ℕ) : Prop :=
  match outcomes.unshare with
  | none => ∀ plain ∈ outcomes.plain, plain.EndsWithin timeoutSecs
  | some (runsCode, behaviour) =>
      if looksRefused (behaviour.runChildWithTimeout timeoutSecs).1 then
        match outcomes.plain with
        | none => behaviour.EndsWithin timeoutSecs
        | some plain => runsCode = false ∧ plain.EndsWithin timeoutSecs ∧
            -- a process whose output could not be read may end while the other one is waited for
            behaviour.EndsBy ((behaviour.runChildWithTimeout timeoutSecs).2 +
              (plain.runChildWithTimeout timeoutSecs).2)
      else behaviour.EndsWithin timeoutSecs

section

variable {behaviour : Behaviour} {timeoutSecs : ℕ}

theorem not_runningAt_iff (process : Process) (elapsed : ℕ) :
    ¬process.RunningAt (process.startedAt + elapsed) ↔ process.behaviour.EndsBy elapsed := by
  simp [Process.RunningAt, Behaviour.EndsBy]

theorem confined_nil (now : ℕ) : Execution.Confined ⟨now, []⟩ := ⟨by simp, by simp, by simp⟩

/-- One process: nothing is started again, and all depends on its end. -/
theorem confined_singleton_iff (isolated runsCode : Bool) :
    (Execution.run ⟨0, []⟩ timeoutSecs isolated runsCode behaviour).2.Confined ↔
      behaviour.EndsWithin timeoutSecs := by
  have hended := not_runningAt_iff ⟨isolated, runsCode, 0, behaviour⟩
    (behaviour.runChildWithTimeout timeoutSecs).2
  rw [Behaviour.EndsWithin, ← hended]
  constructor
  · exact fun h ↦ h.ended _ (List.mem_singleton_self _)
  · intro h
    refine ⟨?_, ?_, by simpa [Execution.run] using h⟩
    · rintro ⟨process, hprocess, -, hisolated⟩ other hother -
      obtain rfl := List.mem_singleton.mp hprocess
      obtain rfl := List.mem_singleton.mp hother
      exact hisolated
    · exact List.countP_le_length

/-- A second process outside the isolation is harmless only if the first one did not run the code. -/
theorem confined_pair_iff (runsCode : Bool) {plain : Behaviour} :
    ((Execution.run ⟨0, []⟩ timeoutSecs true runsCode behaviour).2.run timeoutSecs false true
      plain).2.Confined ↔
      runsCode = false ∧ plain.EndsWithin timeoutSecs ∧
        behaviour.EndsBy ((behaviour.runChildWithTimeout timeoutSecs).2 +
          (plain.runChildWithTimeout timeoutSecs).2) := by
  have hfirst := not_runningAt_iff ⟨true, runsCode, 0, behaviour⟩
    ((behaviour.runChildWithTimeout timeoutSecs).2 + (plain.runChildWithTimeout timeoutSecs).2)
  have hsecond := not_runningAt_iff
    ⟨false, true, (behaviour.runChildWithTimeout timeoutSecs).2, plain⟩
    (plain.runChildWithTimeout timeoutSecs).2
  rw [Behaviour.EndsWithin, ← hfirst, ← hsecond]
  constructor
  · intro h
    have hended := h.ended
    have honce := h.once
    simp only [Execution.run, Nat.zero_add, List.nil_append, List.singleton_append,
      List.forall_mem_cons] at hended honce ⊢
    refine ⟨?_, hended.2.1, hended.1⟩
    cases runsCode with
    | false => rfl
    | true => simp at honce
  · rintro ⟨rfl, hplain, hbehaviour⟩
    refine ⟨?_, ?_, ?_⟩
    · simp [Execution.run]
    · simp [Execution.run]
    · simp only [Execution.run, Nat.zero_add, List.nil_append, List.singleton_append,
        List.forall_mem_cons] at hplain hbehaviour ⊢
      exact ⟨hbehaviour, hplain, by simp⟩

theorem confined_tryExecute_iff (outcomes : SpawnOutcomes) (timeoutSecs : ℕ) :
    (tryExecuteWithIsolation outcomes timeoutSecs).2.Confined ↔ outcomes.Harmless timeoutSecs := by
  obtain ⟨unshare, plain⟩ := outcomes
  unfold tryExecuteWithIsolation SpawnOutcomes.Harmless
  cases unshare with
  | none =>
    cases plain with
    | none => exact iff_of_true (confined_nil 0) nofun
    | some plain =>
      refine (confined_singleton_iff false true).trans ?_
      simp
  | some isolated =>
    obtain ⟨runsCode, behaviour⟩ := isolated
    by_cases hrefused : looksRefused (behaviour.runChildWithTimeout timeoutSecs).1
    · cases plain with
      | none =>
        simp only [Execution.run, hrefused, if_true, Execution.runPlain]
        exact confined_singleton_iff true runsCode
      | some plain =>
        simp only [Execution.run, hrefused, if_true, Execution.runPlain]
        exact confined_pair_iff runsCode
    · simp only [Execution.run, hrefused, if_false, Bool.false_eq_true]
      exact confined_singleton_iff true runsCode

end

/-- Code is run once and stays isolated, with nothing left running, exactly if what the spawned processes
do is harmless. -/
theorem confined_iff (spawns : String → List String → SpawnOutcomes) (request : CodeExecuteRequest) :
    (executeCode spawns request).2.Confined ↔
      ∀ command ∈ interpreter request, (spawns command.1 command.2).Harmless
        (min request.timeoutSeconds maxTimeoutSeconds) := by
  unfold executeCode
  cases interpreter request with
  | none => exact iff_of_true (confined_nil 0) nofun
  | some command =>
    have htried := confined_tryExecute_iff (spawns command.1 command.2)
      (min request.timeoutSeconds maxTimeoutSeconds)
    simp only [Option.mem_def, Option.some.injEq, forall_eq', ← htried]
    cases tryExecuteWithIsolation (spawns command.1 command.2)
      (min request.timeoutSeconds maxTimeoutSeconds) with
    | mk result execution => cases result <;> rfl

/-- Code that reports an error about `unshare`. -/
def scriptedFailure : Behaviour := ⟨some 20, some 20, "", "unshare is not a function", some 1, none⟩

/-- The code is started under `unshare`, fails with this text, and is started again outside. -/
theorem confined_false :
    ¬∀ (spawns : String → List String → SpawnOutcomes) (request : CodeExecuteRequest),
      (executeCode spawns request).2.Confined := by
  intro hall
  have honce := (hall (fun _ _ ↦ ⟨some (true, scriptedFailure), some scriptedFailure⟩)
    ⟨"javascript", "throw new TypeError('unshare is not a function')", 10⟩).once
  exact absurd honce (by decide +kernel)

end Seidrum.Plugins
