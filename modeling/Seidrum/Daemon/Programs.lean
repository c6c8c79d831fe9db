import Mathlib.Data.Int.Notation
import Mathlib.Logic.Function.Basic
import Seidrum.Daemon.Supervision

/-!
# Programs that start and stop plugins

Daemons and invocations of `start_plugin` and `stop_plugin` run side by side on one host.  They share the
PID files, the stop markers and the processes; each step of a program makes at most one access to these.
A spawn, with the PID file it writes and the marker it removes, is one step, which fails without effect
or not at all.  A step takes a flag for what the host decides: whether a PID belongs to a process of
somebody else, whether a write or a wait fails, whether a restart is left.
-/

namespace Seidrum.Daemon.Programs

open Foundation

/-- What a read of a PID file gives. -/
inductive PidFile
  | missing
  /-- the text is not a number -/
  | invalid
  | pid (pid : ℤ)
  deriving DecidableEq, Repr

/-- A live process of a plugin, or of the kernel. -/
structure Process where
  pid : ℤ
  name : String
  deriving DecidableEq, Repr

/-- A process that a daemon manages.  Its child may have exited without the daemon having waited for it. -/
structure Entry where
  name : String
  child : Option ℤ
  deriving DecidableEq, Repr

inductive Command
  | start (name : String)
  | stop (name : String)
  deriving DecidableEq, Repr

/-- Where the handling of a command stands. -/
inductive CommandPhase
  /-- `start_plugin` removes the stop marker before it looks at the PID file -/
  | unmarking
  | reading
  | found (content : PidFile)
  /-- `handle_plugin_start` removes the stop marker after it has looked at the PID file -/
  | clearing
  | spawning
  | marking (pid : ℤ)
  | terminating (pid : ℤ)
  | polling (pid : ℤ) (left : ℕ)
  | removing
  /-- the command has ended; a daemon drops its processes of the name, or keeps them -/
  | over (dropped : Bool)
  deriving DecidableEq, Repr

/-- Where a daemon stands. -/
inductive DaemonPhase
  | reading
  | found (content : PidFile)
  | stale
  | writing
  | kernel
  | loading
  | launching (names : List String)
  | unstopped (name : String) (rest : List String)
  /-- the loop waits for a pass or a command -/
  | waiting
  | examining (index : ℕ)
  | observed (index : ℕ)
  | unlinked (index : ℕ)
  /-- a process is respawned after its delay -/
  | backoff (index : ℕ)
  | handling (command : Command) (phase : CommandPhase)
  deriving DecidableEq, Repr

inductive Program
  | daemon (pid : ℤ) (phase : DaemonPhase) (entries : List Entry)
  | shell (command : Command) (phase : CommandPhase)
  | ended
  deriving DecidableEq, Repr

structure Host where
  programs : List Program
  running : List Process
  pidFile : String → PidFile
  /-- the plugins with a stop marker -/
  stopped : List String

/-- The daemon's own PID file is that of a plugin of this name. -/
def daemonName : String := "seidrum"

def kernelName : String := "kernel"

/-- A host on which nothing runs, with whatever files are left on it. -/
def Host.idle (pidFile : String → PidFile) (stopped : List String) : Host := ⟨[], [], pidFile, stopped⟩

/-- A PID is that of a daemon or of a child that the daemon has not waited for. -/
def Program.holdsPid (pid : ℤ) : Program → Bool
  | .daemon own _ entries => own = pid || entries.any fun entry ↦ entry.child = some pid
  | .shell _ _ | .ended => false

namespace Host

def runs (host : Host) (pid : ℤ) : Bool := host.running.any fun process ↦ process.pid = pid

def taken (host : Host) (pid : ℤ) : Bool := host.runs pid || host.programs.any (Program.holdsPid pid)

/-- A process has the PID; the flag tells whether one does that is none of the programs' own. -/
def isProcessAlive (host : Host) (foreign : Bool) (pid : ℤ) : Bool :=
  0 < pid && (host.taken pid || foreign)

/-- The check that a start makes of what it has read. -/
def alreadyRunning (host : Host) (foreign : Bool) : PidFile → Bool
  | .pid pid => host.isProcessAlive foreign pid
  | .missing | .invalid => false

end Host

/-- The access a step makes to what the programs share. -/
inductive Access
  | quiet
  /-- writing that the file is missing removes it -/
  | write (name : String) (content : PidFile)
  | mark (name : String)
  | unmark (name : String)
  | kill (pid : ℤ)
  deriving DecidableEq, Repr

def startPlugin (host : Host) (name : String) (flag : Bool) :
    CommandPhase → Option (CommandPhase × Access)
  | .unmarking => some (.reading, .unmark name)
  | .reading => some (.found (host.pidFile name), .quiet)
  | .found content =>
      some (if host.alreadyRunning flag content then .over false else .spawning, .quiet)
  | _ => none

/-- The flag may also stand for a settings file that cannot be loaded once the marker is removed. -/
def handlePluginStart (host : Host) (name : String) (flag : Bool) :
    CommandPhase → Option (CommandPhase × Access)
  | .reading => some (.found (host.pidFile name), .quiet)
  | .found content =>
      some (if host.alreadyRunning flag content then .over false else .clearing, .quiet)
  | .clearing => some (if flag then .over false else .spawning, .unmark name)
  | _ => none

/-- `stop_plugin`, and `handle_plugin_stop` on the bus, which goes on when the marker cannot be written.
A process that gets a SIGTERM may exit at any later step. -/
def stopPlugin (host : Host) (bus : Bool) (name : String) (flag : Bool) :
    CommandPhase → Option (CommandPhase × Access)
  | .reading => some (.found (host.pidFile name), .quiet)
  | .found (.pid pid) =>
      some (if host.isProcessAlive flag pid then .marking pid else .removing, .quiet)
  | .found _ => some (.over false, .quiet)
  | .marking pid =>
      if flag then some (if bus then .terminating pid else .over false, .quiet)
      else some (.terminating pid, .mark name)
  | .terminating pid => some (.polling pid 10, .quiet)
  | .polling pid 0 => some (.removing, .kill pid)
  | .polling pid (left + 1) =>
      some (if host.isProcessAlive flag pid then .polling pid left else .removing, .quiet)
  | .removing => some (.over true, .write name .missing)
  | _ => none

/-- A step of a command, from the bus or from a shell. -/
def commandStep (host : Host) (bus : Bool) (flag : Bool) :
    Command → CommandPhase → Option (CommandPhase × Access)
  | .start name => if bus then handlePluginStart host name flag else startPlugin host name flag
  | .stop name => stopPlugin host bus name flag

/-- The child has exited, which `try_wait` reports. -/
def Entry.exited (host : Host) (entry : Entry) : Bool :=
  match entry.child with
  | some pid => !host.runs pid
  | none => false

/-- Replace the first process of a name, or add one. -/
def Entry.replaceOrPush (entry : Entry) (entries : List Entry) : List Entry :=
  match entries.findIdx? fun other ↦ other.name = entry.name with
  | some index => entries.set index entry
  | none => entries ++ [entry]

/-- A step of the daemon's command; when it is over the loop waits again. -/
def handlingStep (host : Host) (pid : ℤ) (entries : List Entry) (flag : Bool) (command : Command)
    (phase : CommandPhase) : Option (Program × Access) := do
  let (next, access) ← commandStep host true flag command phase
  match command, next with
  | .stop name, .over true =>
      some (.daemon pid .waiting (entries.filter fun entry ↦ entry.name ≠ name), access)
  | _, .over _ => some (.daemon pid .waiting entries, access)
  | _, _ => some (.daemon pid (.handling command next) entries, access)

/-- The start-up, a pass of the monitor, and the commands in between. -/
def daemonStep (host : Host) (pid : ℤ) (entries : List Entry) (flag : Bool) :
    DaemonPhase → Option (Program × Access)
  | .reading => some (.daemon pid (.found (host.pidFile daemonName)) entries, .quiet)
  | .found content =>
      if host.alreadyRunning flag content then some (.ended, .quiet)
      else some (.daemon pid (if content = .missing then .writing else .stale) entries, .quiet)
  | .stale => some (.daemon pid .writing entries, .write daemonName .missing)
  | .writing =>
      if flag then some (.ended, .quiet)
      else some (.daemon pid .kernel entries, .write daemonName (.pid pid))
  | .launching [] => some (.daemon pid .waiting entries, .quiet)
  | .launching (name :: rest) =>
      some (.daemon pid (if name ∈ host.stopped then .launching rest else .unstopped name rest) entries,
        .quiet)
  | .waiting => some (.daemon pid (.examining 0) entries, .quiet)
  | .examining index =>
      match entries[index]? with
      | none => some (.daemon pid .waiting entries, .quiet)
      | some entry =>
          if entry.exited host ∧ flag = false then
            some (.daemon pid (.observed index) (entries.set index { entry with child := none }), .quiet)
          else some (.daemon pid (.examining (index + 1)) entries, .quiet)
  | .observed index =>
      entries[index]?.map fun entry ↦
        (.daemon pid (.unlinked index) entries, .write entry.name .missing)
  | .unlinked index =>
      entries[index]?.map fun entry ↦
        (.daemon pid
          (if entry.name ∈ host.stopped ∨ flag = true then .examining (index + 1) else .backoff index)
          entries, .quiet)
  | .handling command phase => handlingStep host pid entries flag command phase
  | .kernel | .loading | .unstopped _ _ | .backoff _ => none

def programStep (host : Host) (flag : Bool) : Program → Option (Program × Access)
  | .daemon pid phase entries => daemonStep host pid entries flag phase
  | .shell command phase =>
      (commandStep host false flag command phase).map fun (next, access) ↦ (.shell command next, access)
  | .ended => none

namespace Program

/-- The plugin that the program is about to spawn. -/
def spawning : Program → Option String
  | .daemon _ .kernel _ => some kernelName
  | .daemon _ (.unstopped name _) _ => some name
  | .daemon _ (.backoff index) entries => entries[index]?.map Entry.name
  | .daemon _ (.handling (.start name) .spawning) _ => some name
  | .shell (.start name) .spawning => some name
  | _ => none

/-- The program after a spawn, which has given a child or has failed. -/
def spawned (child : Option ℤ) : Program → Program
  | .daemon pid .kernel entries =>
      if child.isSome then .daemon pid .loading (entries ++ [⟨kernelName, child⟩]) else .ended
  | .daemon pid (.unstopped name rest) entries =>
      .daemon pid (.launching rest) (if child.isSome then entries ++ [⟨name, child⟩] else entries)
  | .daemon pid (.backoff index) entries =>
      .daemon pid (.examining (index + 1))
        (if child.isSome then entries.modify index fun entry ↦ { entry with child := child } else entries)
  | .daemon pid (.handling (.start name) .spawning) entries =>
      .daemon pid .waiting
        (if child.isSome then Entry.replaceOrPush ⟨name, child⟩ entries else entries)
  | .shell (.start name) .spawning => .shell (.start name) (.over false)
  | program => program

/-- The plugins to start are loaded. -/
def loaded (names : List String) : Program → Option Program
  | .daemon pid .loading entries => some (.daemon pid (.launching names) entries)
  | _ => none

/-- A command from the bus is taken where the loop waits, and the rest of a pass is dropped. -/
def taking (phase : DaemonPhase) : Program → Option Program
  | .daemon pid .waiting entries | .daemon pid (.backoff _) entries => some (.daemon pid phase entries)
  | _ => none

/-- A program is killed when its PID is. -/
def killed (pid : ℤ) : Program → Program
  | .daemon own phase entries => if own = pid then .ended else .daemon own phase entries
  | program => program

end Program

namespace Host

def setProgram (host : Host) (index : ℕ) (program : Program) : Host :=
  { host with programs := host.programs.set index program }

def perform (host : Host) : Access → Host
  | .quiet => host
  | .write name content => { host with pidFile := Function.update host.pidFile name content }
  | .mark name => { host with stopped := name :: host.stopped }
  | .unmark name => { host with stopped := removeMarker name host.stopped }
  | .kill pid =>
      { host with
        running := host.running.filter fun process ↦ process.pid ≠ pid
        programs := host.programs.map (Program.killed pid) }

/-- A process is spawned: its PID file is written and its stop marker removed. -/
def spawn (host : Host) (process : Process) : Host :=
  { host with
    running := process :: host.running
    pidFile := Function.update host.pidFile process.name (.pid process.pid)
    stopped := removeMarker process.name host.stopped }

section PidFiles

variable {host : Host} {name other : String} {content : PidFile} {process : Process}

@[simp]
theorem pidFile_write_self : (host.perform (.write name content)).pidFile name = content := by
  simp only [perform, Function.update_self]

theorem pidFile_write_of_ne (h : other ≠ name) :
    (host.perform (.write name content)).pidFile other = host.pidFile other := by
  simp only [perform, Function.update_of_ne h]

@[simp]
theorem pidFile_spawn_self : (host.spawn process).pidFile process.name = .pid process.pid := by
  simp only [spawn, Function.update_self]

theorem pidFile_spawn_of_ne (h : other ≠ process.name) :
    (host.spawn process).pidFile other = host.pidFile other := by
  simp only [spawn, Function.update_of_ne h]

end PidFiles

/-- A PID that a new process can get. -/
def fresh (host : Host) (pid : ℤ) : Bool := 0 < pid && !host.taken pid

end Host

inductive HostLabel
  /-- a daemon is started -/
  | launch (pid : ℤ)
  /-- a shell starts or stops a plugin -/
  | invoke (command : Command)
  | act (index : ℕ) (flag : Bool)
  /-- the settings name the plugins to start, or they cannot be loaded and the daemon ends -/
  | load (index : ℕ) (names : Option (List String))
  | spawn (index : ℕ) (child : Option ℤ)
  | take (index : ℕ) (command : Command)
  /-- a command is taken that is refused before it looks at a PID file -/
  | refuse (index : ℕ)
  | exit (pid : ℤ)
  | abort (index : ℕ)
  deriving DecidableEq, Repr

/-- The first thing a command from a shell does. -/
def Command.invoked : Command → Program
  | .start name => .shell (.start name) .unmarking
  | .stop name => .shell (.stop name) .reading

/-- A program takes a step. -/
def act (host : Host) (index : ℕ) (flag : Bool) : Option Host := do
  let program ← host.programs[index]?
  let (next, access) ← programStep host flag program
  some ((host.setProgram index next).perform access)

/-- A daemon loads its settings. -/
def load (host : Host) (index : ℕ) (names : Option (List String)) : Option Host := do
  let program ← host.programs[index]?
  let next ← program.loaded (names.getD [])
  some (host.setProgram index (if names.isSome then next else .ended))

/-- A program spawns a process, or fails to. -/
def spawnBy (host : Host) (index : ℕ) (child : Option ℤ) : Option Host := do
  let program ← host.programs[index]?
  let name ← program.spawning
  match child with
  | none => some (host.setProgram index (program.spawned none))
  | some pid =>
      if host.fresh pid then
        some ((host.setProgram index (program.spawned (some pid))).spawn ⟨pid, name⟩)
      else none

/-- A daemon takes a command from the bus. -/
def take (host : Host) (index : ℕ) (phase : DaemonPhase) : Option Host := do
  let program ← host.programs[index]?
  let next ← program.taking phase
  some (host.setProgram index next)

def hostStep : Steps Host HostLabel
  | host, .launch pid =>
      if host.fresh pid then some { host with programs := host.programs ++ [.daemon pid .reading []] }
      else none
  | host, .invoke command => some { host with programs := host.programs ++ [command.invoked] }
  | host, .act index flag => act host index flag
  | host, .load index names => load host index names
  | host, .spawn index child => spawnBy host index child
  | host, .take index command => take host index (.handling command .reading)
  | host, .refuse index => take host index .waiting
  | host, .exit pid =>
      some { host with running := host.running.filter fun process ↦ process.pid ≠ pid }
  | host, .abort index => some (host.setProgram index .ended)

end Seidrum.Daemon.Programs
