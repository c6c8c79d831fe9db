import Seidrum.Foundation.Transition

/-!
# Supervision of plugin processes

The daemon's loop waits for a monitor pass or a command, whichever comes first.  A pass sleeps, looks at
each process in turn and respawns those that have exited, each after a delay.  A command is taken while
the pass sleeps or waits out such a delay, and the rest of the pass is dropped.
-/

namespace Seidrum.Daemon

open Foundation

/-- A second, in nanoseconds. -/
def second : ℕ := 1000000000

def maxRestarts : ℕ := 5

def backoffWindow : ℕ := 300 * second

/-- A child process, which may have exited without that having been observed. -/
structure Child where
  exited : Bool
  deriving DecidableEq, Repr

/-- A managed process.  The last field records that the last attempt to spawn it has left it without a
child. -/
structure ManagedProcess where
  name : String
  child : Option Child
  restartCount : ℕ
  firstRestartAt : Option ℕ
  lastSpawnFailed : Bool
  deriving DecidableEq, Repr

/-- How a spawn ends; it may fail when the child runs already. -/
inductive SpawnResult
  | spawned
  | failed
  | failedLate
  deriving DecidableEq, Repr

namespace ManagedProcess

/-- A process that has just been spawned for the first time. -/
def spawnedNew (name : String) : ManagedProcess := ⟨name, some ⟨false⟩, 0, none, false⟩

def spawn (result : SpawnResult) (proc : ManagedProcess) : ManagedProcess :=
  match result with
  | .spawned | .failedLate => { proc with child := some ⟨false⟩, lastSpawnFailed := false }
  | .failed => { proc with lastSpawnFailed := true }

/-- The count starts again when the window has passed. -/
def resetAfterWindow (now : ℕ) (proc : ManagedProcess) : ManagedProcess :=
  match proc.firstRestartAt with
  | some first =>
      if backoffWindow < now - first then { proc with restartCount := 0, firstRestartAt := none }
      else proc
  | none => proc

/-- Whether a restart is left. -/
def shouldRestart (now : ℕ) (proc : ManagedProcess) : Bool × ManagedProcess :=
  let proc := proc.resetAfterWindow now
  if maxRestarts ≤ proc.restartCount then (false, proc)
  else (true, { proc with firstRestartAt := some (proc.firstRestartAt.getD now) })

def backoffDelay (proc : ManagedProcess) : ℕ := (1 <<< min proc.restartCount 4) * second

end ManagedProcess

inductive Phase
  /-- a new iteration is about to start -/
  | head
  /-- the pass sleeps before it looks at the processes -/
  | asleep (time : ℕ)
  | examining (index : ℕ)
  /-- a process is respawned after its delay -/
  | backoff (index time : ℕ)
  deriving DecidableEq, Repr

structure Supervisor where
  now : ℕ
  processes : List ManagedProcess
  /-- the plugins with a stop marker -/
  stopped : List String
  phase : Phase
  deriving DecidableEq, Repr

/-- How a start request ends: it is refused before it does anything, the settings file cannot be loaded
after the marker was removed, or the spawn is tried. -/
inductive StartOutcome
  | refused
  | envFailed
  | tried (result : SpawnResult)
  deriving DecidableEq, Repr

/-- How a stop request ends: no process is named in a PID file, or that process is gone, or it is
stopped. -/
inductive StopOutcome
  | unknown
  | stale
  | stopped
  deriving DecidableEq, Repr

inductive SupervisorLabel
  | enter
  | wake
  | examine (waitFailed : Bool)
  | respawn (result : SpawnResult)
  | start (name : String) (outcome : StartOutcome)
  | stop (name : String) (outcome : StopOutcome)
  /-- a stream of commands has ended -/
  | closed
  | exit (index : ℕ)
  | advance (duration : ℕ)
  /-- other programs write and remove stop markers -/
  | mark (name : String)
  | unmark (name : String)
  deriving DecidableEq, Repr

/-- Replace the first process of a name, or add one. -/
def replaceOrPush (proc : ManagedProcess) (processes : List ManagedProcess) : List ManagedProcess :=
  match processes.findIdx? fun other ↦ other.name = proc.name with
  | some index => processes.set index proc
  | none => processes ++ [proc]

def markFailed (name : String) (processes : List ManagedProcess) : List ManagedProcess :=
  processes.map fun proc ↦ if proc.name = name then { proc with lastSpawnFailed := true } else proc

def removeMarker (name : String) (stopped : List String) : List String :=
  stopped.filter fun other ↦ other ≠ name

/-- The effect of a start request. -/
def handleStart (name : String) (outcome : StartOutcome) (state : Supervisor) : Supervisor :=
  match outcome with
  | .refused => state
  | .envFailed => { state with stopped := removeMarker name state.stopped }
  | .tried .spawned =>
      { state with
        processes := replaceOrPush (.spawnedNew name) state.processes
        stopped := removeMarker name state.stopped }
  | .tried _ =>
      { state with
        processes := markFailed name state.processes
        stopped := removeMarker name state.stopped }

/-- The effect of a stop request. -/
def handleStop (name : String) (outcome : StopOutcome) (state : Supervisor) : Supervisor :=
  let processes := state.processes.filter fun proc ↦ proc.name ≠ name
  match outcome with
  | .unknown => state
  | .stale => { state with processes := processes }
  | .stopped => { state with processes := processes, stopped := name :: state.stopped }

/-- What the pass makes of a process that has exited. -/
def handleExit (index : ℕ) (proc : ManagedProcess) (state : Supervisor) : Supervisor :=
  let proc := { proc with child := none, lastSpawnFailed := false }
  if proc.name ∈ state.stopped then
    { state with processes := state.processes.set index proc, phase := .examining (index + 1) }
  else
    match proc.shouldRestart state.now with
    | (true, proc) =>
        let proc := { proc with restartCount := proc.restartCount + 1 }
        { state with
          processes := state.processes.set index proc
          phase := .backoff index (state.now + proc.backoffDelay) }
    | (false, proc) =>
        { state with processes := state.processes.set index proc, phase := .examining (index + 1) }

/-- The loop is at a point where it waits. -/
def Supervisor.waiting (state : Supervisor) : Bool :=
  match state.phase with
  | .asleep _ | .backoff _ _ => true
  | .head | .examining _ => false

/-- A command is taken, and the rest of the pass is dropped. -/
def Supervisor.take (handled : Supervisor) (state : Supervisor) : Option Supervisor :=
  if state.waiting then some { handled with phase := .head } else none

/-- A new iteration starts a pass, which sleeps first. -/
def enter (state : Supervisor) : Option Supervisor :=
  match state.phase with
  | .head => some { state with phase := .asleep (state.now + second) }
  | _ => none

def wake (state : Supervisor) : Option Supervisor :=
  match state.phase with
  | .asleep time => if time ≤ state.now then some { state with phase := .examining 0 } else none
  | _ => none

/-- Look at the next process; asking for its status may fail. -/
def examine (waitFailed : Bool) (state : Supervisor) : Option Supervisor :=
  match state.phase with
  | .examining index =>
      match state.processes[index]? with
      | none => some { state with phase := .head }
      | some proc =>
          if proc.child = some ⟨true⟩ ∧ waitFailed = false then some (handleExit index proc state)
          else some { state with phase := .examining (index + 1) }
  | _ => none

/-- Respawn a process after its delay; a spawn removes the stop marker. -/
def respawn (result : SpawnResult) (state : Supervisor) : Option Supervisor :=
  match state.phase with
  | .backoff index time =>
      match state.processes[index]? with
      | none => none
      | some proc =>
          if time ≤ state.now then
            some { state with
              processes := state.processes.set index (proc.spawn result)
              stopped := if result = .spawned then removeMarker proc.name state.stopped
                else state.stopped
              phase := .examining (index + 1) }
          else none
  | _ => none

def exitChild (index : ℕ) (state : Supervisor) : Option Supervisor :=
  match state.processes[index]? with
  | none => none
  | some proc =>
      match proc.child with
      | none => none
      | some _ =>
          some { state with processes := state.processes.set index { proc with child := some ⟨true⟩ } }

def supervisorStep : Steps Supervisor SupervisorLabel
  | state, .enter => enter state
  | state, .wake => wake state
  | state, .examine waitFailed => examine waitFailed state
  | state, .respawn result => respawn result state
  | state, .start name outcome => (handleStart name outcome state).take state
  | state, .stop name outcome => (handleStop name outcome state).take state
  | state, .closed => state.take state
  | state, .exit index => exitChild index state
  | state, .advance duration => some { state with now := state.now + duration }
  | state, .mark name => some { state with stopped := name :: state.stopped }
  | state, .unmark name => some { state with stopped := removeMarker name state.stopped }

/-! ## No process is lost -/

/-- A process has a child, or its last spawn has failed, or its restarts are used up. -/
def ManagedProcess.Settled (proc : ManagedProcess) : Prop :=
  proc.child.isSome ∨ proc.lastSpawnFailed = true ∨ maxRestarts ≤ proc.restartCount

namespace Supervisor

/-- A process is settled or has a stop marker. -/
def Excused (state : Supervisor) (proc : ManagedProcess) : Prop :=
  proc.Settled ∨ proc.name ∈ state.stopped

/-- No process is lost. -/
def Tended (state : Supervisor) : Prop := ∀ proc ∈ state.processes, state.Excused proc

/-- The process waits for its restart. -/
def AwaitsRestart (state : Supervisor) (index : ℕ) : Prop := ∃ time, state.phase = .backoff index time

/-- No process is lost but the one that waits for its restart. -/
def Supported (state : Supervisor) : Prop :=
  ∀ index proc, state.processes[index]? = some proc → state.Excused proc ∨ state.AwaitsRestart index

end Supervisor

namespace SupervisorLabel

/-- The step takes a command, and the rest of the pass is dropped. -/
def DropsPass : SupervisorLabel → Prop
  | start _ _ | stop _ _ | closed => True
  | _ => False

/-- The step removes the stop marker of a plugin. -/
def Unmarks (state : Supervisor) (name : String) : SupervisorLabel → Prop
  | start other outcome => other = name ∧ outcome ≠ .refused
  | respawn result => result = .spawned ∧
      ∃ index proc, state.AwaitsRestart index ∧ state.processes[index]? = some proc ∧ proc.name = name
  | unmark other => other = name
  | _ => False

/-- The step spawns a process, or tries to, or removes it. -/
def Handles (state : Supervisor) (index : ℕ) (proc : ManagedProcess) : SupervisorLabel → Prop
  | start name (.tried .spawned) =>
      state.processes.findIdx? (fun other ↦ other.name = name) = some index
  | start name (.tried _) => proc.name = name
  | stop name outcome => proc.name = name ∧ outcome ≠ .unknown
  | respawn _ => state.AwaitsRestart index
  | _ => False

/-- A command that is taken while a process waits for its restart handles that process, or it is excused;
and a stop marker is removed of a process only if the step handles it, or it is settled, or it goes on
waiting for its restart. -/
def Careful (state : Supervisor) (label : SupervisorLabel) : Prop :=
  (label.DropsPass → ∀ index proc, state.AwaitsRestart index → state.processes[index]? = some proc →
    label.Handles state index proc ∨ state.Excused proc) ∧
  ∀ index proc, state.processes[index]? = some proc → label.Unmarks state proc.name →
    label.Handles state index proc ∨ proc.Settled ∨ ¬label.DropsPass ∧ state.AwaitsRestart index

end SupervisorLabel

section Steps

variable {state state' : Supervisor} {proc new : ManagedProcess} {index : ℕ} {name : String}
  {stopped : List String} {processes : List ManagedProcess} {label : SupervisorLabel} {result : SpawnResult}

theorem mem_removeMarker {other : String} :
    other ∈ removeMarker name stopped ↔ other ∈ stopped ∧ other ≠ name := by
  rw [removeMarker, List.mem_filter, decide_eq_true_eq]

theorem supported_of_tended (h : state.Tended) : state.Supported :=
  fun _ _ hproc ↦ .inl (h _ (List.mem_of_getElem? hproc))

theorem tended_of_supported (h : state.Supported) (hphase : ∀ index, ¬state.AwaitsRestart index) :
    state.Tended := by
  intro proc hmem
  obtain ⟨index, hproc⟩ := List.mem_iff_getElem?.mp hmem
  exact (h index proc hproc).resolve_right (hphase index)

theorem maxRestarts_le_of_shouldRestart {now : ℕ} (h : (proc.shouldRestart now).1 = false) :
    maxRestarts ≤ (proc.shouldRestart now).2.restartCount := by
  unfold ManagedProcess.shouldRestart at h ⊢
  simp only at h ⊢
  split_ifs at h ⊢ with hmax
  exact hmax

theorem settled_spawn (result : SpawnResult) (proc : ManagedProcess) : (proc.spawn result).Settled := by
  cases result with
  | spawned => exact .inl rfl
  | failed => exact .inr (.inl rfl)
  | failedLate => exact .inl rfl

/-- What is set in a list is what was set, or it was there at another place. -/
theorem getElem?_set_cases {other : ℕ} (h : (processes.set index new)[other]? = some proc) :
    proc = new ∧ other = index ∨ processes[other]? = some proc ∧ other ≠ index := by
  by_cases hother : other = index
  · subst hother
    rw [List.getElem?_set_self'] at h
    obtain ⟨_, _, heq⟩ := Option.map_eq_some_iff.mp h
    exact .inl ⟨heq.symm, rfl⟩
  · rw [List.getElem?_set_ne (Ne.symm hother)] at h
    exact .inr ⟨h, hother⟩

/-- Replacing a process by one that is excused, or that waits for its restart, loses none. -/
theorem supported_set {phase : Phase} (h : state.Supported)
    (hnew : ({ state with stopped := stopped, phase := phase } : Supervisor).Excused new ∨
      ({ state with phase := phase } : Supervisor).AwaitsRestart index)
    (hstopped : ∀ other proc, state.processes[other]? = some proc → other ≠ index →
      proc.name ∈ state.stopped → proc.Settled ∨ proc.name ∈ stopped)
    (hphase : ∀ other, other ≠ index → state.AwaitsRestart other →
      ({ state with phase := phase } : Supervisor).AwaitsRestart other) :
    ({ state with
      processes := state.processes.set index new, stopped := stopped, phase := phase } :
        Supervisor).Supported := by
  intro other proc hproc
  rcases getElem?_set_cases hproc with ⟨rfl, rfl⟩ | ⟨hold, hother⟩
  · exact hnew
  · rcases h other proc hold with (hsettled | hmarked) | hawaits
    · exact .inl (.inl hsettled)
    · exact .inl (hstopped other proc hold hother hmarked)
    · exact .inr (hphase other hother hawaits)

theorem supported_handleExit (h : state.Supported) (hphase : state.phase = .examining index) :
    (handleExit index proc state).Supported := by
  have hawaits : ∀ other, ¬state.AwaitsRestart other := by
    rintro other ⟨time, htime⟩
    rw [hphase] at htime
    cases htime
  unfold handleExit
  simp only
  split_ifs with hmarked
  · exact supported_set h (.inl (.inr hmarked)) (fun _ _ _ _ ↦ .inr)
      fun other _ hother ↦ absurd hother (hawaits other)
  · split
    · exact supported_set h (.inr ⟨_, rfl⟩) (fun _ _ _ _ ↦ .inr)
        fun other _ hother ↦ absurd hother (hawaits other)
    · rename_i found hrestart
      have hmax := maxRestarts_le_of_shouldRestart (congrArg Prod.fst hrestart)
      rw [hrestart] at hmax
      exact supported_set h (.inl (.inl (.inr (.inr hmax)))) (fun _ _ _ _ ↦ .inr)
        fun other _ hother ↦ absurd hother (hawaits other)

/-- A careful command finds every process handled, or excused by something that it leaves. -/
theorem kept_of_careful (h : state.Supported) (hcareful : label.Careful state) (hdrops : label.DropsPass)
    (hproc : state.processes[index]? = some proc) :
    label.Handles state index proc ∨ proc.Settled ∨
      proc.name ∈ state.stopped ∧ ¬label.Unmarks state proc.name := by
  have hexcused : label.Handles state index proc ∨ state.Excused proc := by
    rcases h index proc hproc with hexcused | hawaits
    · exact .inr hexcused
    · exact hcareful.1 hdrops index proc hawaits hproc
  rcases hexcused with hhandles | hsettled | hmarked
  · exact .inl hhandles
  · exact .inr (.inl hsettled)
  · by_cases hunmarks : label.Unmarks state proc.name
    · rcases hcareful.2 index proc hproc hunmarks with hhandles | hsettled | ⟨hnot, -⟩
      · exact .inl hhandles
      · exact .inr (.inl hsettled)
      · exact absurd hdrops hnot
    · exact .inr (.inr ⟨hmarked, hunmarks⟩)

theorem mem_replaceOrPush (h : proc ∈ replaceOrPush new processes) :
    proc = new ∨ ∃ index, processes[index]? = some proc ∧
      processes.findIdx? (fun other ↦ other.name = new.name) ≠ some index := by
  unfold replaceOrPush at h
  split at h
  · rename_i first hfirst
    obtain ⟨index, hindex⟩ := List.mem_iff_getElem?.mp h
    rcases getElem?_set_cases hindex with ⟨rfl, -⟩ | ⟨hold, hne⟩
    · exact .inl rfl
    · exact .inr ⟨index, hold, fun heq ↦ hne (Option.some.inj (heq.symm.trans hfirst))⟩
  · rename_i hnone
    rcases List.mem_append.mp h with hold | hnew
    · obtain ⟨index, hindex⟩ := List.mem_iff_getElem?.mp hold
      exact .inr ⟨index, hindex, by simp [hnone]⟩
    · exact .inl (List.mem_singleton.mp hnew)

theorem mem_markFailed (h : proc ∈ markFailed name processes) :
    proc.Settled ∨ proc ∈ processes ∧ proc.name ≠ name := by
  obtain ⟨old, hold, rfl⟩ := List.mem_map.mp h
  split_ifs with hname
  · exact .inl (.inr (.inl rfl))
  · exact .inr ⟨hold, hname⟩

/-- A careful start request leaves no process behind. -/
theorem tended_start {outcome : StartOutcome} (h : state.Supported)
    (hcareful : (SupervisorLabel.start name outcome).Careful state) :
    (handleStart name outcome state).Tended := by
  have hkept : ∀ (index : ℕ) (proc : ManagedProcess), state.processes[index]? = some proc →
      (SupervisorLabel.start name outcome).Handles state index proc ∨ proc.Settled ∨
        proc.name ∈ state.stopped ∧ (outcome ≠ .refused → proc.name ∈ removeMarker name state.stopped) := by
    intro index proc hproc
    rcases kept_of_careful h hcareful trivial hproc with hhandles | hsettled | ⟨hmarked, hunmarks⟩
    · exact .inl hhandles
    · exact .inr (.inl hsettled)
    · refine .inr (.inr ⟨hmarked, fun hrefused ↦ mem_removeMarker.mpr ⟨hmarked, fun heq ↦ ?_⟩⟩)
      exact hunmarks ⟨heq.symm, hrefused⟩
  have hfailed : ∀ proc, proc ∈ markFailed name state.processes →
      (∀ index (proc : ManagedProcess),
        (SupervisorLabel.start name outcome).Handles state index proc → proc.name = name) →
      outcome ≠ .refused → proc.Settled ∨ proc.name ∈ removeMarker name state.stopped := by
    intro proc hmem hhandles hrefused
    rcases mem_markFailed hmem with hsettled | ⟨hold, hname⟩
    · exact .inl hsettled
    · obtain ⟨index, hproc⟩ := List.mem_iff_getElem?.mp hold
      rcases hkept index proc hproc with hhandled | hsettled | ⟨-, hmarked⟩
      · exact absurd (hhandles index proc hhandled) hname
      · exact .inl hsettled
      · exact .inr (hmarked hrefused)
  intro proc hmem
  match outcome with
  | .refused =>
    obtain ⟨index, hproc⟩ := List.mem_iff_getElem?.mp hmem
    rcases hkept index proc hproc with hhandles | hsettled | ⟨hmarked, -⟩
    · exact hhandles.elim
    · exact .inl hsettled
    · exact .inr hmarked
  | .envFailed =>
    obtain ⟨index, hproc⟩ := List.mem_iff_getElem?.mp hmem
    rcases hkept index proc hproc with hhandles | hsettled | ⟨-, hmarked⟩
    · exact hhandles.elim
    · exact .inl hsettled
    · exact .inr (hmarked StartOutcome.noConfusion)
  | .tried .spawned =>
    rcases mem_replaceOrPush hmem with rfl | ⟨index, hproc, hother⟩
    · exact .inl (.inl rfl)
    · rcases hkept index proc hproc with hhandles | hsettled | ⟨-, hmarked⟩
      · exact absurd hhandles hother
      · exact .inl hsettled
      · exact .inr (hmarked StartOutcome.noConfusion)
  | .tried .failed | .tried .failedLate =>
    exact hfailed proc hmem (fun _ _ hname ↦ hname) StartOutcome.noConfusion

/-- So does a careful stop request. -/
theorem tended_stop {outcome : StopOutcome} (h : state.Supported)
    (hcareful : (SupervisorLabel.stop name outcome).Careful state) :
    (handleStop name outcome state).Tended := by
  have hkept : ∀ (index : ℕ) (proc : ManagedProcess), state.processes[index]? = some proc →
      proc.name = name ∧ outcome ≠ .unknown ∨ state.Excused proc := by
    intro index proc hproc
    rcases kept_of_careful h hcareful trivial hproc with hhandles | hsettled | ⟨hmarked, -⟩
    · exact .inl hhandles
    · exact .inr (.inl hsettled)
    · exact .inr (.inr hmarked)
  have hothers : ∀ proc ∈ state.processes.filter (fun proc ↦ proc.name ≠ name), state.Excused proc := by
    intro proc hmem
    obtain ⟨hold, hname⟩ := List.mem_filter.mp hmem
    obtain ⟨index, hproc⟩ := List.mem_iff_getElem?.mp hold
    exact (hkept index proc hproc).resolve_left fun hhandles ↦ of_decide_eq_true hname hhandles.1
  match outcome with
  | .unknown =>
    intro proc hmem
    obtain ⟨index, hproc⟩ := List.mem_iff_getElem?.mp hmem
    exact (hkept index proc hproc).resolve_left fun hhandles ↦ hhandles.2 rfl
  | .stale => exact hothers
  | .stopped =>
    intro proc hmem
    exact (hothers proc hmem).imp_right (List.mem_cons_of_mem _)

theorem tended_closed (h : state.Supported) (hcareful : SupervisorLabel.closed.Careful state) :
    state.Tended := by
  intro proc hmem
  obtain ⟨index, hproc⟩ := List.mem_iff_getElem?.mp hmem
  rcases kept_of_careful h hcareful trivial hproc with hhandles | hsettled | ⟨hmarked, -⟩
  · exact hhandles.elim
  · exact .inl hsettled
  · exact .inr hmarked

theorem supported_take {handled : Supervisor} (h : handled.Tended)
    (hstep : handled.take state = some state') : state'.Supported := by
  unfold Supervisor.take at hstep
  split_ifs at hstep
  cases hstep
  exact supported_of_tended h

theorem tended_of_phase (h : state.Supported) (hphase : ∀ index time, state.phase ≠ .backoff index time) :
    state.Tended :=
  tended_of_supported h fun index ⟨time, htime⟩ ↦ hphase index time htime

theorem supported_examine {waitFailed : Bool} (h : state.Supported)
    (hstep : examine waitFailed state = some state') : state'.Supported := by
  unfold examine at hstep
  split at hstep
  · rename_i index hphase
    have htended := tended_of_phase h (by simp [hphase])
    split at hstep
    · cases hstep
      exact supported_of_tended htended
    · split_ifs at hstep
      · cases hstep
        exact supported_handleExit h hphase
      · cases hstep
        exact supported_of_tended htended
  · cases hstep

/-- A respawn leaves the process with a child or with a failed spawn. -/
theorem supported_respawn (h : state.Supported) (hcareful : (SupervisorLabel.respawn result).Careful state)
    (hstep : respawn result state = some state') : state'.Supported := by
  unfold respawn at hstep
  split at hstep
  · rename_i index time hphase
    split at hstep
    · cases hstep
    · rename_i proc hproc
      have htime : time ≤ state.now := by
        by_contra hlate
        rw [if_neg hlate] at hstep
        cases hstep
      rw [if_pos htime] at hstep
      cases hstep
      have hawaits : ∀ other, state.AwaitsRestart other → other = index := by
        rintro other ⟨_, hother⟩
        rw [hphase] at hother
        exact (Phase.backoff.inj hother).1.symm
      refine supported_set h (.inl (.inl (settled_spawn result proc))) ?_
        fun other hne hother ↦ absurd (hawaits other hother) hne
      intro other found hfound hne hmarked
      split_ifs with hspawned
      · by_cases hname : found.name = proc.name
        · have hunmarks : (SupervisorLabel.respawn result).Unmarks state found.name :=
            ⟨hspawned, index, proc, ⟨time, hphase⟩, hproc, hname.symm⟩
          rcases hcareful.2 other found hfound hunmarks with hhandles | hsettled | ⟨-, hother⟩
          · exact absurd (hawaits other hhandles) hne
          · exact .inl hsettled
          · exact absurd (hawaits other hother) hne
        · exact .inr (mem_removeMarker.mpr ⟨hmarked, hname⟩)
      · exact .inr hmarked
  · cases hstep

theorem supported_exitChild (h : state.Supported) (hstep : exitChild index state = some state') :
    state'.Supported := by
  unfold exitChild at hstep
  split at hstep
  · cases hstep
  · split at hstep
    · cases hstep
    · cases hstep
      exact supported_set h (.inl (.inl (.inl rfl))) (fun _ _ _ _ ↦ .inr) fun _ _ hother ↦ hother

/-- Careful steps lose no process but the one that waits for its restart. -/
theorem Supervisor.Supported.step (h : state.Supported) (hcareful : label.Careful state)
    (hstep : supervisorStep state label = some state') : state'.Supported := by
  cases label with
  | enter =>
    simp only [supervisorStep, enter] at hstep
    split at hstep
    · rename_i hphase
      cases hstep
      have htended := tended_of_phase h (by simp [hphase])
      exact supported_of_tended htended
    · cases hstep
  | wake =>
    simp only [supervisorStep, wake] at hstep
    split at hstep
    · rename_i time hphase
      split_ifs at hstep
      cases hstep
      have htended := tended_of_phase h (by simp [hphase])
      exact supported_of_tended htended
    · cases hstep
  | examine waitFailed => exact supported_examine h hstep
  | respawn result => exact supported_respawn h hcareful hstep
  | start name outcome => exact supported_take (tended_start h hcareful) hstep
  | stop name outcome => exact supported_take (tended_stop h hcareful) hstep
  | closed => exact supported_take (tended_closed h hcareful) hstep
  | exit index => exact supported_exitChild h hstep
  | advance duration =>
    cases hstep
    exact h
  | mark name =>
    cases hstep
    intro index proc hproc
    exact (h index proc hproc).imp_left (Or.imp_right (List.mem_cons_of_mem _))
  | unmark name =>
    cases hstep
    intro index proc hproc
    rcases h index proc hproc with (hsettled | hmarked) | hawaits
    · exact .inl (.inl hsettled)
    · by_cases hname : proc.name = name
      · rcases hcareful.2 index proc hproc hname.symm with hhandles | hsettled | ⟨-, hawaits⟩
        · exact hhandles.elim
        · exact .inl (.inl hsettled)
        · exact .inr hawaits
      · exact .inl (.inr (mem_removeMarker.mpr ⟨hmarked, hname⟩))
    · exact .inr hawaits

/-- The loop is about to start, and each process has been spawned. -/
def Supervisor.Launched (state : Supervisor) : Prop :=
  state.phase = .head ∧ ∀ proc ∈ state.processes, proc.child.isSome

/-- In every run of careful steps, whenever the loop is about to start a new iteration, every process
without a child has a failed last spawn, or a stop marker, or no restart left. -/
theorem tended_of_careful {launched : Supervisor} (hlaunched : launched.Launched)
    (hreach : Steps.Reach supervisorStep (fun state label ↦ label.Careful state) launched state)
    (hhead : state.phase = .head) : state.Tended := by
  have hinit : launched.Supported :=
    supported_of_tended fun proc hmem ↦ .inl (.inl (hlaunched.2 proc hmem))
  have hsupported : state.Supported :=
    hreach.invariant hinit fun _ _ _ hbefore hcareful hstep ↦ hbefore.step hcareful hstep
  exact tended_of_phase hsupported (by simp [hhead])

theorem careful_of_quiet (hdrops : ¬label.DropsPass) (hunmarks : ∀ name, ¬label.Unmarks state name) :
    label.Careful state :=
  ⟨fun h ↦ absurd h hdrops, fun _ proc _ h ↦ absurd h (hunmarks proc.name)⟩

theorem careful_respawn (hlength : state.processes.length = 1) (hawaits : state.AwaitsRestart 0) :
    (SupervisorLabel.respawn result).Careful state := by
  refine ⟨False.elim, fun index proc hproc _ ↦ .inl ?_⟩
  have hindex : index < state.processes.length := (List.getElem?_eq_some_iff.mp hproc).1
  obtain rfl : index = 0 := by omega
  exact hawaits

/-- One plugin, whose process has exited. -/
def crashed : Supervisor := ⟨0, [⟨"bot", some ⟨true⟩, 0, none, false⟩], [], .head⟩

/-- The process is found and respawned after two seconds. -/
theorem tended_of_careful_respawned :
    ∃ waiting ∈ Steps.execute supervisorStep crashed [.enter, .advance second, .wake, .examine false,
        .advance (2 * second)],
      ∃ state ∈ Steps.execute supervisorStep waiting [.respawn .spawned, .examine false],
        state.Tended := by
  have hexecute : ∃ waiting ∈ Steps.execute supervisorStep crashed [.enter, .advance second, .wake,
      .examine false, .advance (2 * second)],
      (waiting.processes.length = 1 ∧ waiting.phase = .backoff 0 (3 * second)) ∧
        ∃ state ∈ Steps.execute supervisorStep waiting [.respawn .spawned, .examine false],
          state.phase = .head := by
    decide +kernel
  obtain ⟨waiting, hwaiting, ⟨hlength, hphase⟩, state, hstate, hhead⟩ := hexecute
  have hpass : Steps.Reach supervisorStep (fun state label ↦ label.Careful state) crashed waiting := by
    refine Steps.reach_of_execute (Steps.guarded_of_mem ?_ crashed) hwaiting
    simp only [List.forall_mem_cons]
    exact ⟨fun _ ↦ careful_of_quiet id fun _ ↦ id, fun _ ↦ careful_of_quiet id fun _ ↦ id,
      fun _ ↦ careful_of_quiet id fun _ ↦ id, fun _ ↦ careful_of_quiet id fun _ ↦ id,
      fun _ ↦ careful_of_quiet id fun _ ↦ id, fun _ hmem ↦ absurd hmem List.not_mem_nil⟩
  have hrespawn : Steps.Guarded supervisorStep (fun state label ↦ label.Careful state) waiting
      [.respawn .spawned, .examine false] :=
    ⟨careful_respawn hlength ⟨_, hphase⟩, fun _ _ ↦ ⟨careful_of_quiet id fun _ ↦ id, fun _ _ ↦ trivial⟩⟩
  have hreach := hpass.trans (Steps.reach_of_execute hrespawn hstate)
  exact ⟨waiting, hwaiting, state, hstate, tended_of_careful ⟨rfl, by decide⟩ hreach hhead⟩

/-- A command that arrives during the delay leaves the process without a child, although four restarts
remain. -/
theorem command_loses_process :
    ∃ state ∈ Steps.execute supervisorStep crashed [.enter, .advance second, .wake, .examine false,
        .start "other" .refused],
      state.phase = .head ∧ ∃ proc ∈ state.processes,
        proc.child = none ∧ proc.lastSpawnFailed = false ∧ proc.name ∉ state.stopped ∧
          proc.restartCount < maxRestarts := by
  decide +kernel

end Steps

end Seidrum.Daemon
