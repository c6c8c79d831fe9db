import Seidrum.Agent.Jobs
import Seidrum.Agent.TurnNumbers

/-!
# What a call on jobs has done

What a call has done is read off its operations: the run it stored, and the records it appended.  A
forced run keeps to its run: its records go to the run's session, and where its counts of the session
tell nothing but its own records, these are numbered from the start of the run to its end.
-/

namespace Seidrum.Agent

open Seidrum.Foundation

variable {Value Bytes : Type}

/-- The record an operation appended. -/
def appendedBy : (op : JobOp Value) → JobAnswer Value op → Option (StoredTurnRecord Value)
  | .turn (.append record), .ok () => some record
  | _, _ => none

/-- The run an operation stored. -/
def storedBy : (op : JobOp Value) → JobAnswer Value op → Option JobRunRecord
  | .putJobRun run, .ok () => some run
  | _, _ => none

/-- The session an operation read, and the number of its records. -/
def countedBy : (op : JobOp Value) → JobAnswer Value op → Option (String × ℕ)
  | .turn (.records sessionId), .ok records => some (sessionId, records.length)
  | _, _ => none

/-- Whether an operation was a call of the store that failed. -/
def failedBy : (op : JobOp Value) → JobAnswer Value op → Bool
  | .turn (.records _), .error _ | .turn (.append _), .error _ | .putJobDefinition _, .error _
  | .jobDefinition _, .error _ | .putJobRun _, .error _ => true
  | _, _ => false

/-- A count of a session, beside the number of its records that the call had appended itself. -/
structure SessionCount where
  sessionId : String
  told : ℕ
  own : ℕ

/-- The ids a call drew, the counts it was told, the run as it last stored it and whether it stored it
as running, the records it appended, and whether its last operation was a store call that failed. -/
structure JobView (Value : Type) where
  ids : List String
  counts : List SessionCount
  run : Option JobRunRecord
  ran : Bool
  appended : List (StoredTurnRecord Value)
  lastFailed : Bool

namespace JobView

def empty : JobView Value := ⟨[], [], none, false, [], false⟩

/-- The records a call appended to a session. -/
def own (view : JobView Value) (sessionId : String) : List (StoredTurnRecord Value) :=
  view.appended.filter fun record ↦ record.sessionId = sessionId

def after (view : JobView Value) (op : JobOp Value) (answer : JobAnswer Value op) : JobView Value where
  ids := (drawnBy op answer).elim view.ids (· :: view.ids)
  counts := (countedBy op answer).elim view.counts fun (sessionId, told) ↦
    ⟨sessionId, told, (view.own sessionId).length⟩ :: view.counts
  run := (storedBy op answer).or view.run
  ran := (storedBy op answer).elim view.ran fun run ↦ view.ran || run.status = .running
  appended := (appendedBy op answer).elim view.appended fun record ↦ view.appended ++ [record]
  lastFailed := failedBy op answer

theorem after_appended (view : JobView Value) (op : JobOp Value) (answer : JobAnswer Value op) :
    (view.after op answer).appended = view.appended ++ (appendedBy op answer).toList := by
  change (appendedBy op answer).elim _ _ = _
  cases appendedBy op answer with
  | none => exact (List.append_nil _).symm
  | some record => rfl

def ofEvents (events : List (Performed (JobAnswer Value))) : JobView Value :=
  events.foldl (fun view event ↦ view.after event.op event.answer) empty

/-- The counts of a session told the call's own records and no others. -/
def Exact (view : JobView Value) (sessionId : String) : Prop :=
  ∀ count ∈ view.counts, count.sessionId = sessionId → count.told = count.own

/-- The call has stored the run, and its records are the run's. -/
structure Holds (view : JobView Value) (run : JobRunRecord) : Prop where
  stored : view.run = some run
  runId : run.runId ∈ view.ids
  session : ∀ record ∈ view.appended, record.sessionId = run.sessionId
  started : view.Exact run.sessionId → run.startedSequence = 1
  numbered : view.Exact run.sessionId →
    view.appended.map StoredTurnRecord.sequence = List.range' 1 view.appended.length

/-- What a call has stored of a run tells where the run's records are. -/
structure Tells (view : JobView Value) (run : JobRunRecord) : Prop where
  holds : view.Holds run
  trace : run.traceSessionId = run.sessionId
  completed : view.Exact run.sessionId →
    ∀ completed ∈ run.completedSequence, completed = view.appended.length

def Sound (view : JobView Value) : Prop := ∀ run ∈ view.run, view.Tells run

/-- A run that has ended either way. -/
def Terminal (run : JobRunRecord) : Prop := run.status = .succeeded ∨ run.status = .failed

/-- A run that was running has ended exactly if the last store call did not fail. -/
def Ended (view : JobView Value) : Prop :=
  view.ran = true → ∀ run ∈ view.run, Terminal run ↔ view.lastFailed = false

end JobView

/-- Every call keeps to its run; only runs whose id it drew are stored. -/
def running : Protocol (JobAnswer Value) (JobView Value) where
  allowed view op := view.Sound ∧ ∀ run, op = .putJobRun run → run.runId ∈ view.ids
  after := JobView.after

/-! ## One call -/

section Call

variable {view : JobView Value} {run : JobRunRecord} {sequence : ℕ}

theorem JobView.sound_of_none (h : view.run = none) : view.Sound := by
  intro run hrun
  rw [h] at hrun
  cases hrun

theorem JobView.ended_of_none (h : view.run = none) : view.Ended := by
  intro _ run hrun
  rw [h] at hrun
  cases hrun

/-- What is known of a call that ended. -/
def Settles (view : JobView Value) : Prop := view.Sound ∧ view.Ended

theorem settles_of_none (h : view.run = none) : Settles view :=
  ⟨JobView.sound_of_none h, JobView.ended_of_none h⟩

/-- A run in its turn, whose next record has a number. -/
structure Taking (run : JobRunRecord) (view : JobView Value) (sequence : ℕ) : Prop where
  holds : view.Holds run
  next : view.Exact run.sessionId → sequence = view.appended.length + 1

theorem JobView.Holds.sound (h : view.Holds run) (htrace : run.traceSessionId = run.sessionId)
    (hcompleted : run.completedSequence = none) : view.Sound := by
  intro other hother
  obtain rfl : run = other := Option.some.inj (h.stored.symm.trans hother)
  exact ⟨h, htrace, fun _ completed hmem ↦ by rw [hcompleted] at hmem; cases hmem⟩

/-- Nothing but an append, a count or a write of the run touches what is held of it. -/
theorem JobView.Holds.of_eq {other : JobView Value} (h : view.Holds run)
    (hrun : other.run = view.run) (hids : ∀ id ∈ view.ids, id ∈ other.ids)
    (happended : other.appended = view.appended) (hcounts : ∀ count ∈ view.counts, count ∈ other.counts) :
    other.Holds run := by
  have hexact : other.Exact run.sessionId → view.Exact run.sessionId :=
    fun hother count hmem ↦ hother count (hcounts count hmem)
  constructor
  · exact hrun.trans h.stored
  · exact hids _ h.runId
  · rw [happended]
    exact h.session
  · exact fun hother ↦ h.started (hexact hother)
  · rw [happended]
    exact fun hother ↦ h.numbered (hexact hother)

theorem JobView.Holds.own_eq (h : view.Holds run) : view.own run.sessionId = view.appended := by
  apply List.filter_eq_self.mpr
  intro record hmem
  exact decide_eq_true (h.session record hmem)

theorem Taking.append (h : Taking run view sequence) {record : StoredTurnRecord Value}
    (hsession : record.sessionId = run.sessionId) (hsequence : record.sequence = sequence) :
    Taking run (view.after (.turn (.append record)) (.ok ())) (sequence + 1) := by
  have hlength : (view.after (.turn (.append record)) (.ok ())).appended.length =
      view.appended.length + 1 := List.length_append
  refine ⟨⟨h.holds.stored, h.holds.runId, ?_, h.holds.started, ?_⟩, ?_⟩
  · intro other hmem
    rcases List.mem_append.mp hmem with hold | hnew
    · exact h.holds.session other hold
    · rw [List.mem_singleton.mp hnew]
      exact hsession
  · intro hexact
    rw [hlength, List.range'_1_concat, ← h.holds.numbered hexact, Nat.add_comm 1]
    rw [← h.next hexact, ← hsequence]
    exact List.map_append
  · intro hexact
    rw [hlength, h.next hexact]

variable {input : TurnInput} {runtime : AgentRuntime}

/-- The turn of a run counts on for as long as the run is held. -/
theorem countingOn_running (htrace : run.traceSessionId = run.sessionId)
    (hcompleted : run.completedSequence = none) (hinput : input.sessionId = run.sessionId) :
    CountingOn ((running : Protocol (JobAnswer Value) _).comap JobOp.turn) input (Taking run) where
  append h hsession hsequence := by
    refine ⟨⟨h.holds.sound htrace hcompleted, fun _ hput ↦ by cases hput⟩, ?_, fun error ↦ ?_⟩
    · exact h.append (hsession.trans hinput) hsequence
    · exact ⟨h.holds.of_eq rfl (fun _ ↦ id) rfl fun _ ↦ id, h.next⟩
  recordId h := by
    refine ⟨⟨h.holds.sound htrace hcompleted, fun _ hput ↦ by cases hput⟩, fun drawn ↦ ?_⟩
    exact ⟨h.holds.of_eq rfl (fun _ ↦ List.mem_cons_of_mem _) rfl fun _ ↦ id, h.next⟩
  complete request h := by
    refine ⟨⟨h.holds.sound htrace hcompleted, fun _ hput ↦ by cases hput⟩, fun response ↦ ?_⟩
    exact ⟨h.holds.of_eq rfl (fun _ ↦ id) rfl fun _ ↦ id, h.next⟩
  execute call h := by
    refine ⟨⟨h.holds.sound htrace hcompleted, fun _ hput ↦ by cases hput⟩, fun outcome ↦ ?_⟩
    exact ⟨h.holds.of_eq rfl (fun _ ↦ id) rfl fun _ ↦ id, h.next⟩

theorem JobView.Holds.counted (h : view.Holds run) (records : List (StoredTurnRecord Value)) :
    let next := view.after (.turn (.records run.sessionId)) (.ok records)
    next.Holds run ∧ (next.Exact run.sessionId → records.length = view.appended.length) := by
  refine ⟨h.of_eq rfl (fun _ ↦ id) rfl fun _ ↦ List.mem_cons_of_mem _, fun hexact ↦ ?_⟩
  have htold : records.length = (view.own run.sessionId).length :=
    hexact _ List.mem_cons_self rfl
  rw [htold, h.own_eq]

/-- The turn of a run leaves the run as it was stored. -/
theorem follows_jobTurn (h : view.Holds run) (htrace : run.traceSessionId = run.sessionId)
    (hcompleted : run.completedSequence = none) (hinput : input.sessionId = run.sessionId) :
    (jobTurn runtime input : JobM Value _).run.Follows running
      (fun view result ↦ ∃ outcome, result = .ok outcome ∧ view.Holds run) view := by
  apply Program.Follows.liftExcept
  apply Program.Follows.embed
  have hcounting : CountingOn ((running : Protocol (JobAnswer Value) _).comap JobOp.turn) input
    (Taking run) := countingOn_running htrace hcompleted hinput
  have hturn : (runtime.runTurn input : TurnM Value _).run.Follows
      ((running : Protocol (JobAnswer Value) _).comap JobOp.turn) (fun view _ ↦ view.Holds run) view := by
    apply hcounting.follows_runTurn
    · rintro view ⟨sequence, htaking⟩
      exact htaking.holds
    · exact ⟨h.sound htrace hcompleted, fun _ hput ↦ by cases hput⟩
    · intro records
      rw [hinput]
      obtain ⟨hholds, hlength⟩ := h.counted records
      exact ⟨hholds, fun hexact ↦ congrArg (· + 1) (hlength hexact)⟩
    · intro error
      exact h.of_eq rfl (fun _ ↦ id) rfl fun _ ↦ id
  exact Program.Follows.mono (fun view result hholds ↦ ⟨result, rfl, hholds⟩) hturn

/-- A run is held again when it is stored once more. -/
theorem JobView.Holds.put (h : view.Holds run) {next : JobRunRecord} (hid : next.runId = run.runId)
    (hsession : next.sessionId = run.sessionId)
    (hstarted : next.startedSequence = run.startedSequence) :
    (view.after (.putJobRun next) (.ok ())).Holds next := by
  constructor
  · rfl
  · rw [hid]
    exact h.runId
  · rw [hsession]
    exact h.session
  · rw [hsession, hstarted]
    exact h.started
  · rw [hsession]
    exact h.numbered

theorem JobRunRecord.finished_terminal (run : JobRunRecord) (completed : ℕ)
    (result : Except RuntimeError TurnOutput) : JobView.Terminal (run.finished completed result) := by
  cases result with
  | ok output => exact .inl rfl
  | error error => exact .inr rfl

theorem JobRunRecord.finished_eq (run : JobRunRecord) (completed : ℕ)
    (result : Except RuntimeError TurnOutput) :
    (run.finished completed result).runId = run.runId ∧
      (run.finished completed result).sessionId = run.sessionId ∧
      (run.finished completed result).startedSequence = run.startedSequence ∧
      (run.finished completed result).traceSessionId = run.traceSessionId ∧
      (run.finished completed result).completedSequence = some completed := by
  cases result <;> exact ⟨rfl, rfl, rfl, rfl, rfl⟩

/-- A run that was left running: the call ended on a failed store call. -/
theorem JobView.Holds.settles_failed (h : view.Holds run) (hrunning : run.status = .running)
    (htrace : run.traceSessionId = run.sessionId) (hcompleted : run.completedSequence = none)
    (hfailed : view.lastFailed = true) : Settles view := by
  refine ⟨h.sound htrace hcompleted, fun _ other hother ↦ ?_⟩
  obtain rfl : run = other := Option.some.inj (h.stored.symm.trans hother)
  rw [hfailed]
  constructor
  · rintro (hsucceeded | hfailed)
    · exact absurd (hrunning.symm.trans hsucceeded) (by decide)
    · exact absurd (hrunning.symm.trans hfailed) (by decide)
  · exact fun hok ↦ absurd hok (by decide)

/-- The last write of a run. -/
theorem JobView.Holds.follows_finish (h : view.Holds run) (hrunning : run.status = .running)
    (htrace : run.traceSessionId = run.sessionId) (hcompleted : run.completedSequence = none)
    (result : Except RuntimeError TurnOutput) :
    (do
      let completedSequence := (← inTurn (records run.sessionId)).length
      let run := run.finished completedSequence result
      putJobRun run
      return run : JobM Value JobRunRecord).run.Follows running (fun view _ ↦ Settles view) view := by
  apply Program.Follows.bindExcept
  refine Program.Follows.embed (Program.Follows.ask ?_ fun answer ↦ ?_)
  · exact ⟨h.sound htrace hcompleted, fun _ hput ↦ by cases hput⟩
  cases answer with
  | error error =>
    have hholds : (view.after (.turn (.records run.sessionId)) (.error error)).Holds run :=
      h.of_eq rfl (fun _ ↦ id) rfl fun _ ↦ id
    exact hholds.settles_failed hrunning htrace hcompleted rfl
  | ok records =>
    obtain ⟨hholds, hlength⟩ := h.counted records
    obtain ⟨hid, hsession, hstarted, hsame, hdone⟩ := run.finished_eq records.length result
    apply Program.Follows.bindExcept
    refine Program.Follows.ask ⟨hholds.sound htrace hcompleted, ?_⟩ fun answer ↦ ?_
    · intro next hput
      obtain rfl := JobOp.putJobRun.inj hput
      rw [hid]
      exact hholds.runId
    cases answer with
    | error error =>
      apply JobView.Holds.settles_failed _ hrunning htrace hcompleted rfl
      exact hholds.of_eq rfl (fun _ ↦ id) rfl fun _ ↦ id
    | ok stored =>
      have hput := hholds.put hid hsession hstarted
      constructor
      · intro other hother
        cases hother
        refine ⟨hput, hsame.trans (htrace.trans hsession.symm), fun hexact completed hmem ↦ ?_⟩
        rw [hdone] at hmem
        cases hmem
        rw [hsession] at hexact
        exact hlength hexact
      · intro _ other hother
        cases hother
        exact iff_of_true (run.finished_terminal records.length result) rfl

/-- A run that is queued keeps to the protocol. -/
theorem follows_runQueued {definition : JobDefinition Value} (hnone : view.run = none)
    (hran : view.ran = false) (happended : view.appended = []) (hid : run.runId ∈ view.ids)
    (hqueued : run.status = .queued) (hstarted : view.Exact run.sessionId → run.startedSequence = 1)
    (htrace : run.traceSessionId = run.sessionId) (hcompleted : run.completedSequence = none) :
    (runQueued runtime definition run).run.Follows running (fun view _ ↦ Settles view) view := by
  apply Program.Follows.bindExcept
  refine Program.Follows.ask ⟨JobView.sound_of_none hnone, ?_⟩ fun answer ↦ ?_
  · intro next hput
    obtain rfl := JobOp.putJobRun.inj hput
    exact hid
  cases answer with
  | error error => exact settles_of_none hnone
  | ok stored =>
    have hholds : (view.after (.putJobRun run) (.ok ())).Holds run := by
      refine ⟨rfl, hid, fun record hmem ↦ ?_, hstarted, fun _ ↦ ?_⟩
      · have hnew : record ∈ view.appended := hmem
        rw [happended] at hnew
        cases hnew
      · have hempty : (view.after (.putJobRun run) (.ok ())).appended = [] := happended
        rw [hempty]
        rfl
    have hwaits : (view.after (.putJobRun run) (.ok ())).ran = false := by
      change (view.ran || decide (run.status = .running)) = false
      rw [hran, hqueued]
      rfl
    apply Program.Follows.bindExcept
    refine Program.Follows.ask ⟨hholds.sound htrace hcompleted, ?_⟩ fun answer ↦ ?_
    · intro next hput
      obtain rfl := JobOp.putJobRun.inj hput
      exact hid
    cases answer with
    | error error =>
      refine ⟨JobView.Holds.sound (hholds.of_eq rfl (fun _ ↦ id) rfl fun _ ↦ id) htrace hcompleted, ?_⟩
      exact fun hran ↦ absurd (hwaits.symm.trans hran) Bool.noConfusion
    | ok stored =>
      let next : JobRunRecord := { run with status := .running }
      have hput := hholds.put (show next.runId = run.runId from rfl) rfl rfl
      apply Program.Follows.bindExcept
      apply Program.Follows.mono _ (follows_jobTurn hput htrace hcompleted rfl)
      rintro view result ⟨outcome, rfl, hholds⟩
      exact hholds.follows_finish rfl htrace hcompleted outcome

theorem follows_forceRunJob (runtime : AgentRuntime) (jobId : String) :
    (forceRunJob runtime jobId : JobM Value _).run.Follows running (fun view _ ↦ Settles view)
      .empty := by
  have hsound : (JobView.empty : JobView Value).Sound := JobView.sound_of_none rfl
  apply Program.Follows.bindExcept
  refine Program.Follows.ask ⟨hsound, fun _ hput ↦ by cases hput⟩ fun answer ↦ ?_
  cases answer with
  | error error => exact settles_of_none rfl
  | ok definition =>
    cases definition with
    | none => exact settles_of_none rfl
    | some definition =>
      dsimp only
      split_ifs
      · apply Program.Follows.bindExcept
        refine Program.Follows.embed (Program.Follows.liftExcept (Program.Follows.ask ?_ fun id ↦ ?_))
        · exact ⟨JobView.sound_of_none rfl, fun _ hput ↦ by cases hput⟩
        · apply Program.Follows.bindExcept
          refine Program.Follows.embed (Program.Follows.ask ?_ fun answer ↦ ?_)
          · exact ⟨JobView.sound_of_none rfl, fun _ hput ↦ by cases hput⟩
          cases answer with
          | error error => exact settles_of_none rfl
          | ok records =>
            apply follows_runQueued rfl rfl rfl List.mem_cons_self rfl _ rfl rfl
            intro hexact
            exact congrArg (· + 1) (hexact _ List.mem_cons_self rfl)
      · exact settles_of_none rfl

/-- A turn on its own stores no run. -/
theorem follows_aloneTurn (runtime : AgentRuntime) (input : TurnInput) :
    (inTurn (runtime.runTurn input) : JobM Value _).run.Follows running
      (fun view _ ↦ Settles view) .empty := by
  have hcounting : CountingOn ((running : Protocol (JobAnswer Value) _).comap JobOp.turn) input
      fun view _ ↦ view.run = none := by
    have hsound : ∀ view : JobView Value, view.run = none →
        view.Sound := fun _ ↦ JobView.sound_of_none
    constructor
    · exact fun hnone _ _ ↦ ⟨⟨hsound _ hnone, fun _ hput ↦ by cases hput⟩, hnone, fun _ ↦ hnone⟩
    · exact fun hnone ↦ ⟨⟨hsound _ hnone, fun _ hput ↦ by cases hput⟩, fun _ ↦ hnone⟩
    all_goals exact fun _ hnone ↦ ⟨⟨hsound _ hnone, fun _ hput ↦ by cases hput⟩, fun _ ↦ hnone⟩
  apply Program.Follows.embed
  apply hcounting.follows_runTurn
  · rintro view ⟨-, hnone⟩
    exact settles_of_none hnone
  · exact ⟨JobView.sound_of_none rfl, fun _ hput ↦ by cases hput⟩
  · exact fun _ ↦ rfl
  · exact fun _ ↦ settles_of_none rfl

/-- Every call keeps to the protocol. -/
theorem follows_job (call : JobCall Value) :
    (job call).run.Follows running (fun view _ ↦ Settles view) .empty := by
  cases call with
  | putJobDefinition definition =>
    apply Program.Follows.bindExcept
    refine Program.Follows.ask ⟨JobView.sound_of_none rfl, fun _ hput ↦ by cases hput⟩ fun answer ↦ ?_
    cases answer <;> exact settles_of_none rfl
  | runTurn runtime input =>
    apply Program.Follows.bindExcept
    apply Program.Follows.mono _ (follows_aloneTurn runtime input)
    intro view result hsettles
    cases result <;> exact hsettles
  | forceRunJob runtime jobId =>
    apply Program.Follows.bindExcept
    apply Program.Follows.mono _ (follows_forceRunJob runtime jobId)
    intro view result hsettles
    cases result <;> exact hsettles

end Call

end Seidrum.Agent
