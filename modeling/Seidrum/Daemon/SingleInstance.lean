import Seidrum.Daemon.Programs

/-!
# One daemon, and one process of a plugin

A start reads a PID file, checks that no live process is named in it, and writes its own, each in a step
of its own; the monitor and the start-up spawn without looking at the PID file, and a PID file is removed
whatever it holds.  In a run whose steps are not disturbed by this, one daemon is past its check and each
plugin has at most one process, which its PID file names.
-/

namespace Seidrum.Daemon.Programs

open Foundation

namespace Command

/-- What a start has read and is about to check. -/
def checking : Command → CommandPhase → Option (String × PidFile)
  | .start name, .found content => some (name, content)
  | _, _ => none

/-- The start has passed its check and is still to spawn the plugin. -/
def cleared : Command → CommandPhase → Option String
  | .start name, .clearing | .start name, .spawning => some name
  | _, _ => none

/-- The PID file that the stop is about to remove. -/
def removing : Command → CommandPhase → Option String
  | .stop name, .removing => some name
  | _, _ => none

end Command

namespace Program

/-- The daemon is past its start-up check. -/
def pastCheck : Program → Bool
  | .daemon _ .reading _ | .daemon _ (.found _) _ => false
  | .daemon _ _ _ => true
  | .shell _ _ | .ended => false

/-- The PID file that the program has read and is about to check, and what it has read. -/
def checking : Program → Option (String × PidFile)
  | .daemon _ (.found content) _ => some (daemonName, content)
  | .daemon _ (.handling command phase) _ => command.checking phase
  | .shell command phase => command.checking phase
  | _ => none

/-- The program has passed the check of a PID file and is still to write it. -/
def cleared : Program → Option String
  | .daemon _ .stale _ | .daemon _ .writing _ => some daemonName
  | .daemon _ (.handling command phase) _ => command.cleared phase
  | .shell command phase => command.cleared phase
  | _ => none

/-- The PID file of a plugin that the program is about to remove. -/
def removing : Program → Option String
  | .daemon _ (.observed index) entries => entries[index]?.map Entry.name
  | .daemon _ (.handling command phase) _ => command.removing phase
  | .shell command phase => command.removing phase
  | _ => none

def own : Program → Option ℤ
  | .daemon pid _ _ => some pid
  | .shell _ _ | .ended => none

def written : Program → Option ℤ
  | .daemon _ .reading _ | .daemon _ (.found _) _ | .daemon _ .stale _ | .daemon _ .writing _ => none
  | .daemon pid _ _ => some pid
  | .shell _ _ | .ended => none

/-- The program has passed the check of a PID file and has not given it up since. -/
def Claims (program : Program) (name : String) : Prop :=
  program.cleared = some name ∨ name = daemonName ∧ program.written.isSome

/-- A program claims no more than another. -/
structure Within (next prev : Program) : Prop where
  cleared : ∀ name, next.cleared = some name → prev.cleared = some name
  written : ∀ pid, next.written = some pid → prev.written = some pid
  own : ∀ pid, next.own = some pid → prev.own = some pid

/-- A program passes the check of a PID file. -/
structure Clears (next prev : Program) (name : String) : Prop where
  cleared : next.cleared = some name
  written : next.written = prev.written
  own : next.own = prev.own

/-- A daemon that has passed its check removes its PID file or writes it. -/
structure Settles (next prev : Program) (content : PidFile) : Prop where
  cleared_prev : prev.cleared = some daemonName
  written_prev : prev.written = none
  cleared : ∀ name, next.cleared = some name → prev.cleared = some name
  written : ∀ pid, next.written = some pid → content = .pid pid
  own : next.own = prev.own

end Program

/-- The access leaves the PID files as they are. -/
def Access.Sparing : Access → Prop
  | .write _ _ => False
  | _ => True

namespace Host

/-- No other program has passed the check of a PID file and is still to write it. -/
def Unclaimed (host : Host) (index : ℕ) (name : String) : Prop :=
  ∀ other ∈ host.programs.eraseIdx index, other.cleared ≠ some name

instance (host : Host) (index : ℕ) (name : String) : Decidable (host.Unclaimed index name) := by
  unfold Host.Unclaimed
  infer_instance

/-- The PID file of a plugin names none of its processes. -/
def NamesNone (host : Host) (name : String) : Prop :=
  ∀ process ∈ host.running, process.name = name → host.pidFile name ≠ .pid process.pid

instance (host : Host) (name : String) : Decidable (host.NamesNone name) := by
  unfold Host.NamesNone
  infer_instance

/-- A check is passed while no other program has passed it, of a file that has not been rewritten. -/
def CheckInTime (host : Host) (index : ℕ) (flag : Bool) (program : Program) : Prop :=
  ∀ check ∈ program.checking, host.alreadyRunning flag check.2 = false →
    host.Unclaimed index check.1 ∧
      (host.pidFile check.1 = check.2 ∨ host.pidFile check.1 = .missing)

instance (host : Host) (index : ℕ) (flag : Bool) (program : Program) :
    Decidable (host.CheckInTime index flag program) := by
  unfold Host.CheckInTime
  infer_instance

/-- The PID file of a plugin is removed while it names none of its processes. -/
def RemovalInTime (host : Host) (program : Program) : Prop :=
  ∀ name ∈ program.removing, name ≠ daemonName ∧ host.NamesNone name

instance (host : Host) (program : Program) : Decidable (host.RemovalInTime program) := by
  unfold Host.RemovalInTime
  infer_instance

/-- A plugin that is spawned without a check would pass it, and no other program has passed it. -/
def SpawnInTime (host : Host) (index : ℕ) (program : Program) : Prop :=
  ∀ name ∈ program.spawning, name ≠ daemonName ∧
    (program.cleared = none → host.Unclaimed index name ∧ host.NamesNone name)

instance (host : Host) (index : ℕ) (program : Program) : Decidable (host.SpawnInTime index program) := by
  unfold Host.SpawnInTime
  infer_instance

end Host

namespace HostLabel

/-- What a step does about a PID file still agrees with what the file holds. -/
def Undisturbed (host : Host) : HostLabel → Prop
  | .act index flag => ∀ program ∈ host.programs[index]?,
      host.CheckInTime index flag program ∧ host.RemovalInTime program
  | .spawn index (some _) => ∀ program ∈ host.programs[index]?, host.SpawnInTime index program
  | _ => True

instance (host : Host) (label : HostLabel) : Decidable (label.Undisturbed host) := by
  unfold HostLabel.Undisturbed
  split <;> infer_instance

end HostLabel

/-- One daemon is past its check, and a plugin has at most one process, which its PID file names. -/
structure Host.Single (host : Host) : Prop where
  daemon : ∀ (i j : ℕ) (a b : Program), host.programs[i]? = some a → host.programs[j]? = some b →
    a.pastCheck → b.pastCheck → i = j
  plugin : (host.running.map Process.name).Nodup
  named : ∀ process ∈ host.running, host.pidFile process.name = .pid process.pid

/-! ## What a step of a program does -/

section Steps

variable {host : Host} {bus flag : Bool} {command : Command} {phase next : CommandPhase}
  {access : Access} {prev program : Program} {name : String}

namespace Program

theorem Within.refl (program : Program) : program.Within program :=
  ⟨fun _ h ↦ h, fun _ h ↦ h, fun _ h ↦ h⟩

theorem Within.of_eq (hcleared : program.cleared = none) (hwritten : program.written = prev.written)
    (hown : program.own = prev.own) : program.Within prev where
  cleared _ h := nomatch hcleared.symm.trans h
  written _ h := hwritten ▸ h
  own _ h := hown ▸ h

theorem Within.claims (h : program.Within prev) (hclaims : program.Claims name) : prev.Claims name := by
  rcases hclaims with hcleared | ⟨hname, hwritten⟩
  · exact .inl (h.cleared name hcleared)
  · obtain ⟨pid, hpid⟩ := Option.isSome_iff_exists.mp hwritten
    exact .inr ⟨hname, Option.isSome_iff_exists.mpr ⟨pid, h.written pid hpid⟩⟩

theorem within_ended (prev : Program) : ended.Within prev where
  cleared _ h := nomatch h
  written _ h := nomatch h
  own _ h := nomatch h

/-- A daemon past its check claims the daemon's PID file. -/
theorem claims_of_pastCheck (h : program.pastCheck = true) : program.Claims daemonName := by
  cases program with
  | daemon pid phase entries =>
    cases phase with
    | reading | found content => exact absurd h Bool.false_ne_true
    | stale | writing => exact .inl rfl
    | _ => exact .inr ⟨rfl, rfl⟩
  | shell command phase | ended => exact absurd h Bool.false_ne_true

theorem own_of_written {pid : ℤ} (h : program.written = some pid) : program.own = some pid := by
  cases program with
  | daemon own phase entries => cases phase <;> first | exact h | exact nomatch h
  | shell command phase | ended => exact nomatch h

end Program

/-- What a step of a command does about PID files: nothing, or it passes a check, or it removes one. -/
inductive CommandMove (host : Host) (flag : Bool) (command : Command) (phase next : CommandPhase)
    (access : Access) : Prop
  | quiet (hcleared : ∀ name, command.cleared next = some name → command.cleared phase = some name)
      (hsparing : access.Sparing)
  | passes (name : String) (content : PidFile) (hchecking : command.checking phase = some (name, content))
      (hcheck : host.alreadyRunning flag content = false) (hcleared : command.cleared next = some name)
      (haccess : access = .quiet)
  | removes (name : String) (hremoving : command.removing phase = some name) (hnext : next = .over true)
      (haccess : access = .write name .missing)

theorem startPlugin_move (h : startPlugin host name flag phase = some (next, access)) :
    CommandMove host flag (.start name) phase next access := by
  cases phase with
  | unmarking | reading =>
    cases h
    exact .quiet (fun _ h ↦ nomatch h) trivial
  | found content =>
    cases h
    split_ifs with hcheck
    · exact .quiet (fun _ h ↦ nomatch h) trivial
    · exact .passes name content rfl (Bool.not_eq_true _ ▸ hcheck) rfl rfl
  | _ => exact nomatch h

theorem handlePluginStart_move (h : handlePluginStart host name flag phase = some (next, access)) :
    CommandMove host flag (.start name) phase next access := by
  cases phase with
  | reading =>
    cases h
    exact .quiet (fun _ h ↦ nomatch h) trivial
  | found content =>
    cases h
    split_ifs with hcheck
    · exact .quiet (fun _ h ↦ nomatch h) trivial
    · exact .passes name content rfl (Bool.not_eq_true _ ▸ hcheck) rfl rfl
  | clearing =>
    cases h
    refine .quiet (fun other hother ↦ ?_) trivial
    split_ifs at hother
    · exact nomatch hother
    · exact hother
  | _ => exact nomatch h

theorem cleared_stop (phase : CommandPhase) : (Command.stop name).cleared phase = none := by
  cases phase <;> rfl

theorem stopPlugin_move (h : stopPlugin host bus name flag phase = some (next, access)) :
    CommandMove host flag (.stop name) phase next access := by
  have hquiet (hsparing : access.Sparing) : CommandMove host flag (.stop name) phase next access :=
    .quiet (fun _ hcleared ↦ nomatch (cleared_stop next).symm.trans hcleared) hsparing
  cases phase with
  | removing =>
    cases h
    exact .removes name rfl rfl rfl
  | found content =>
    cases content <;> obtain ⟨rfl, rfl⟩ := Prod.mk.inj (Option.some.inj h) <;> exact hquiet trivial
  | marking pid =>
    unfold stopPlugin at h
    split_ifs at h <;> obtain ⟨rfl, rfl⟩ := Prod.mk.inj (Option.some.inj h) <;> exact hquiet trivial
  | polling pid left =>
    cases left <;> obtain ⟨rfl, rfl⟩ := Prod.mk.inj (Option.some.inj h) <;> exact hquiet trivial
  | reading | terminating pid =>
    cases h
    exact hquiet trivial
  | _ => exact nomatch h

theorem commandStep_move (h : commandStep host bus flag command phase = some (next, access)) :
    CommandMove host flag command phase next access := by
  cases command with
  | start name =>
    cases bus with
    | true => exact handlePluginStart_move h
    | false => exact startPlugin_move h
  | stop name => exact stopPlugin_move h

/-- What a step of a program does about PID files: nothing, or it passes a check, or it removes the PID file
of a plugin, or a daemon that has passed its check removes or writes its own. -/
inductive ProgramMove (host : Host) (flag : Bool) (prev program : Program) (access : Access) : Prop
  | quiet (hwithin : program.Within prev) (hsparing : access.Sparing)
  | passes (name : String) (content : PidFile) (hchecking : prev.checking = some (name, content))
      (hcheck : host.alreadyRunning flag content = false) (hclears : program.Clears prev name)
      (haccess : access = .quiet)
  | removes (name : String) (hremoving : prev.removing = some name) (hwithin : program.Within prev)
      (haccess : access = .write name .missing)
  | settles (content : PidFile) (hsettles : program.Settles prev content)
      (haccess : access = .write daemonName content)

variable {pid : ℤ} {entries : List Entry}

theorem handlingStep_move
    (h : handlingStep host pid entries flag command phase = some (program, access)) :
    ProgramMove host flag (.daemon pid (.handling command phase) entries) program access := by
  obtain ⟨⟨next, taken⟩, hstep, h⟩ := Option.bind_eq_some_iff.mp h
  have hmove := commandStep_move hstep
  have hover (kept : List Entry) (hnext : ∃ dropped, next = .over dropped)
      (h : (Program.daemon pid .waiting kept, taken) = (program, access)) :
      ProgramMove host flag (.daemon pid (.handling command phase) entries) program access := by
    cases h
    cases hmove with
    | quiet _ hsparing => exact .quiet (.of_eq rfl rfl rfl) hsparing
    | passes name content _ _ hcleared =>
      obtain ⟨dropped, rfl⟩ := hnext
      cases command <;> exact nomatch hcleared
    | removes name hremoving _ haccess => exact .removes name hremoving (.of_eq rfl rfl rfl) haccess
  simp only at h
  split at h
  · exact hover _ ⟨true, rfl⟩ (Option.some.inj h)
  · exact hover _ ⟨_, rfl⟩ (Option.some.inj h)
  next hopen _ =>
    cases h
    cases hmove with
    | quiet hcleared hsparing => exact .quiet ⟨hcleared, fun _ h ↦ h, fun _ h ↦ h⟩ hsparing
    | passes name content hchecking hcheck hcleared haccess =>
      exact .passes name content hchecking hcheck ⟨hcleared, rfl, rfl⟩ haccess
    | removes name _ hnext => exact (hopen true hnext).elim

theorem daemonStep_move {phase : DaemonPhase}
    (h : daemonStep host pid entries flag phase = some (program, access)) :
    ProgramMove host flag (.daemon pid phase entries) program access := by
  cases phase with
  | reading | waiting =>
    cases h
    exact .quiet (.of_eq rfl rfl rfl) trivial
  | found content =>
    simp only [daemonStep] at h
    split_ifs at h with hcheck
    · cases h
      exact .quiet (Program.within_ended _) trivial
    all_goals
      cases h
      exact .passes daemonName content rfl (Bool.not_eq_true _ ▸ hcheck) ⟨rfl, rfl, rfl⟩ rfl
  | stale =>
    cases h
    exact .settles .missing ⟨rfl, rfl, fun _ h ↦ h, (fun _ h ↦ nomatch h), rfl⟩ rfl
  | writing =>
    simp only [daemonStep] at h
    split_ifs at h
    · cases h
      exact .quiet (Program.within_ended _) trivial
    · cases h
      exact .settles (.pid pid)
        ⟨rfl, rfl, (fun _ h ↦ nomatch h), fun _ h ↦ congrArg PidFile.pid (Option.some.inj h), rfl⟩ rfl
  | launching names =>
    cases names with
    | nil =>
      cases h
      exact .quiet (.of_eq rfl rfl rfl) trivial
    | cons name rest =>
      cases h
      refine .quiet ?_ trivial
      split_ifs <;> exact .of_eq rfl rfl rfl
  | examining index =>
    simp only [daemonStep] at h
    split at h
    · cases h
      exact .quiet (.of_eq rfl rfl rfl) trivial
    · split_ifs at h <;> obtain ⟨rfl, rfl⟩ := Prod.mk.inj (Option.some.inj h) <;>
        exact .quiet (.of_eq rfl rfl rfl) trivial
  | observed index =>
    obtain ⟨entry, hentry, hnext⟩ := Option.map_eq_some_iff.mp h
    cases hnext
    exact .removes entry.name (congrArg (Option.map Entry.name) hentry) (.of_eq rfl rfl rfl) rfl
  | unlinked index =>
    obtain ⟨entry, _, hnext⟩ := Option.map_eq_some_iff.mp h
    cases hnext
    refine .quiet ?_ trivial
    split_ifs <;> exact .of_eq rfl rfl rfl
  | handling command phase => exact handlingStep_move h
  | _ => exact nomatch h

theorem programStep_move (h : programStep host flag prev = some (program, access)) :
    ProgramMove host flag prev program access := by
  cases prev with
  | daemon pid phase entries => exact daemonStep_move h
  | shell command phase =>
    obtain ⟨⟨next, taken⟩, hstep, h⟩ := Option.map_eq_some_iff.mp h
    cases h
    cases commandStep_move hstep with
    | quiet hcleared hsparing => exact .quiet ⟨hcleared, fun _ h ↦ h, fun _ h ↦ h⟩ hsparing
    | passes name content hchecking hcheck hcleared haccess =>
      exact .passes name content hchecking hcheck ⟨hcleared, rfl, rfl⟩ haccess
    | removes name hremoving hnext haccess =>
      refine .removes name hremoving ⟨fun other hother ↦ ?_, fun _ h ↦ h, fun _ h ↦ h⟩ haccess
      rw [hnext] at hother
      cases command <;> exact nomatch hother
  | ended => exact nomatch h

/-- A spawn ends what the program claims but for the PID of a daemon. -/
theorem within_spawned (h : prev.spawning = some name) (child : Option ℤ) :
    (prev.spawned child).Within prev ∧ (prev.spawned child).cleared = none := by
  cases prev with
  | daemon pid phase entries =>
    cases phase with
    | kernel =>
      simp only [Program.spawned]
      split_ifs
      · exact ⟨.of_eq rfl rfl rfl, rfl⟩
      · exact ⟨Program.within_ended _, rfl⟩
    | unstopped name rest | backoff index => exact ⟨.of_eq rfl rfl rfl, rfl⟩
    | handling command phase =>
      cases command with
      | start name => cases phase <;> first | exact ⟨.of_eq rfl rfl rfl, rfl⟩ | exact nomatch h
      | stop name => cases phase <;> exact nomatch h
    | _ => exact nomatch h
  | shell command phase =>
    cases command with
    | start name => cases phase <;> first | exact ⟨.of_eq rfl rfl rfl, rfl⟩ | exact nomatch h
    | stop name => cases phase <;> exact nomatch h
  | ended => exact nomatch h

/-- A program that spawns has passed the check of that plugin, or of none. -/
theorem cleared_of_spawning (h : prev.spawning = some name) :
    prev.cleared = some name ∨ prev.cleared = none := by
  cases prev with
  | daemon pid phase entries =>
    cases phase with
    | handling command phase =>
      cases command with
      | start name => cases phase <;> first | exact .inl h | exact nomatch h
      | stop name => cases phase <;> exact nomatch h
    | stale | writing => exact nomatch h
    | _ => exact .inr rfl
  | shell command phase =>
    cases command with
    | start name => cases phase <;> first | exact .inl h | exact nomatch h
    | stop name => cases phase <;> exact nomatch h
  | ended => exact nomatch h

theorem within_loaded {names : List String} (h : prev.loaded names = some program) :
    program.Within prev := by
  cases prev with
  | daemon pid phase entries =>
    cases phase with
    | loading =>
      cases h
      exact .of_eq rfl rfl rfl
    | _ => exact nomatch h
  | _ => exact nomatch h

/-- The handling of a command starts without a claim. -/
theorem within_taking {phase : DaemonPhase}
    (hphase : ∀ pid entries, (Program.daemon pid phase entries).cleared = none ∧
      (Program.daemon pid phase entries).written = some pid)
    (h : prev.taking phase = some program) : program.Within prev := by
  cases prev with
  | daemon pid before entries =>
    cases before with
    | waiting | backoff index =>
      cases h
      exact .of_eq (hphase pid entries).1 (hphase pid entries).2 rfl
    | _ => exact nomatch h
  | _ => exact nomatch h

theorem within_killed (pid : ℤ) (prev : Program) : (prev.killed pid).Within prev := by
  cases prev with
  | daemon own phase entries =>
    simp only [Program.killed]
    split_ifs
    · exact Program.within_ended _
    · exact .refl _
  | _ => exact .refl _

end Steps

/-! ## Claims and processes agree with the PID files -/

namespace Host

/-- A PID file is claimed by one program; what one has cleared has no process, and what one has written
and what runs is named in the PID file. -/
structure Orderly (host : Host) : Prop where
  positive : ∀ program ∈ host.programs, ∀ pid, program.own = some pid → 0 < pid
  alone : ∀ (i j : ℕ) (a b : Program) (name : String), host.programs[i]? = some a →
    host.programs[j]? = some b → a.Claims name → b.Claims name → i = j
  written : ∀ program ∈ host.programs, ∀ pid, program.written = some pid →
    host.pidFile daemonName = .pid pid
  clear : ∀ program ∈ host.programs, ∀ name, program.cleared = some name →
    ∀ process ∈ host.running, process.name ≠ name
  named : ∀ process ∈ host.running, host.pidFile process.name = .pid process.pid ∧
    0 < process.pid ∧ process.name ≠ daemonName
  plugin : (host.running.map Process.name).Nodup

variable {host next : Host} {index : ℕ} {prev program : Program} {name : String} {flag : Bool}

theorem Orderly.single (h : host.Orderly) : host.Single where
  daemon i j a b ha hb hpast hpast' :=
    h.alone i j a b daemonName ha hb (Program.claims_of_pastCheck hpast)
      (Program.claims_of_pastCheck hpast')
  plugin := h.plugin
  named process hmem := (h.named process hmem).1

theorem orderly_idle (pidFile : String → PidFile) (stopped : List String) :
    (idle pidFile stopped).Orderly where
  positive _ hmem := nomatch hmem
  alone _ _ _ _ _ ha := nomatch ha
  written _ hmem := nomatch hmem
  clear _ hmem := nomatch hmem
  named _ hmem := nomatch hmem
  plugin := List.nodup_nil

/-- Each program claims no more than the one in its place did, and no process is new. -/
structure Below (next host : Host) : Prop where
  programs : ∀ (index : ℕ) (program : Program), next.programs[index]? = some program →
    (∃ prev, host.programs[index]? = some prev ∧ program.Within prev) ∨
    program.cleared = none ∧ program.written = none ∧ ∀ pid, program.own = some pid → 0 < pid
  running : next.running.Sublist host.running
  pidFile : next.pidFile = host.pidFile

theorem Below.orderly (hbelow : next.Below host) (h : host.Orderly) : next.Orderly where
  positive program hmem pid hown := by
    obtain ⟨index, hprogram⟩ := List.mem_iff_getElem?.mp hmem
    rcases hbelow.programs index program hprogram with ⟨prev, hprev, hwithin⟩ | ⟨_, _, hpositive⟩
    · exact h.positive prev (List.mem_of_getElem? hprev) pid (hwithin.own pid hown)
    · exact hpositive pid hown
  alone i j a b name ha hb hclaims hclaims' := by
    have hprev (k : ℕ) (c : Program) (hc : next.programs[k]? = some c) (hclaims : c.Claims name) :
        ∃ prev, host.programs[k]? = some prev ∧ prev.Claims name := by
      rcases hbelow.programs k c hc with ⟨prev, hprev, hwithin⟩ | ⟨hcleared, hwritten, _⟩
      · exact ⟨prev, hprev, hwithin.claims hclaims⟩
      · rcases hclaims with hsome | ⟨_, hsome⟩
        · exact nomatch hcleared.symm.trans hsome
        · rw [hwritten] at hsome
          exact nomatch hsome
    obtain ⟨a', ha', hclaimsa⟩ := hprev i a ha hclaims
    obtain ⟨b', hb', hclaimsb⟩ := hprev j b hb hclaims'
    exact h.alone i j a' b' name ha' hb' hclaimsa hclaimsb
  written program hmem pid hwritten := by
    obtain ⟨index, hprogram⟩ := List.mem_iff_getElem?.mp hmem
    rw [hbelow.pidFile]
    rcases hbelow.programs index program hprogram with ⟨prev, hprev, hwithin⟩ | ⟨_, hnone, _⟩
    · exact h.written prev (List.mem_of_getElem? hprev) pid (hwithin.written pid hwritten)
    · exact nomatch hnone.symm.trans hwritten
  clear program hmem name hcleared process hprocess := by
    obtain ⟨index, hprogram⟩ := List.mem_iff_getElem?.mp hmem
    rcases hbelow.programs index program hprogram with ⟨prev, hprev, hwithin⟩ | ⟨hnone, _, _⟩
    · exact h.clear prev (List.mem_of_getElem? hprev) name (hwithin.cleared name hcleared) process
        (hbelow.running.subset hprocess)
    · exact nomatch hnone.symm.trans hcleared
  named process hmem := by
    rw [hbelow.pidFile]
    exact h.named process (hbelow.running.subset hmem)
  plugin := h.plugin.sublist (hbelow.running.map Process.name)

variable {i : ℕ} {content : PidFile} {process : Process}

theorem getElem?_setProgram (h : (host.setProgram index program).programs[i]? = some prev) :
    i = index ∧ prev = program ∨ i ≠ index ∧ host.programs[i]? = some prev := by
  rw [setProgram, List.getElem?_set] at h
  split_ifs at h with hindex
  · exact .inl ⟨hindex.symm, (Option.some.inj h).symm⟩
  · exact .inr ⟨Ne.symm hindex, h⟩

theorem mem_setProgram (h : prev ∈ (host.setProgram index program).programs) :
    prev = program ∨ prev ∈ host.programs :=
  (List.mem_or_eq_of_mem_set h).symm

theorem below_setProgram (hprev : host.programs[index]? = some prev) (hwithin : program.Within prev) :
    (host.setProgram index program).Below host where
  programs i other hother := by
    rcases getElem?_setProgram hother with ⟨rfl, rfl⟩ | ⟨_, hsame⟩
    · exact .inl ⟨prev, hprev, hwithin⟩
    · exact .inl ⟨other, hsame, .refl other⟩
  running := List.Sublist.refl _
  pidFile := rfl

/-- An access that leaves the PID files as they are gives no claim and no process. -/
theorem below_perform {access : Access} (h : access.Sparing) (host : Host) :
    (host.perform access).Below host := by
  have hprograms (i : ℕ) (other : Program) (hother : host.programs[i]? = some other) :
      (∃ prev, host.programs[i]? = some prev ∧ other.Within prev) ∨
      other.cleared = none ∧ other.written = none ∧ ∀ pid, other.own = some pid → 0 < pid :=
    .inl ⟨other, hother, .refl other⟩
  cases access with
  | write name content => exact h.elim
  | kill pid =>
    refine ⟨fun i other hother ↦ .inl ?_, List.filter_sublist, rfl⟩
    obtain ⟨prev, hprev, rfl⟩ := Option.map_eq_some_iff.mp ((List.getElem?_map).symm.trans hother)
    exact ⟨prev, hprev, within_killed pid prev⟩
  | quiet | mark name | unmark name => exact ⟨hprograms, List.Sublist.refl _, rfl⟩

theorem below_exit (pid : ℤ) (host : Host) :
    Below { host with running := host.running.filter fun process ↦ process.pid ≠ pid } host where
  programs _ other hother := .inl ⟨other, hother, .refl other⟩
  running := List.filter_sublist
  pidFile := rfl

theorem below_abort (index : ℕ) (host : Host) : (host.setProgram index .ended).Below host where
  programs _ other hother := by
    rcases getElem?_setProgram hother with ⟨rfl, rfl⟩ | ⟨_, hsame⟩
    · exact .inr ⟨rfl, rfl, fun _ hown ↦ nomatch hown⟩
    · exact .inl ⟨other, hsame, .refl other⟩
  running := List.Sublist.refl _
  pidFile := rfl

/-- A new program claims nothing. -/
theorem below_append (hcleared : program.cleared = none) (hwritten : program.written = none)
    (hown : ∀ pid, program.own = some pid → 0 < pid) (host : Host) :
    Below { host with programs := host.programs ++ [program] } host where
  programs i other hother := by
    rw [List.getElem?_append] at hother
    split_ifs at hother
    · exact .inl ⟨other, hother, .refl other⟩
    · obtain rfl := List.mem_singleton.mp (List.mem_of_getElem? hother)
      exact .inr ⟨hcleared, hwritten, hown⟩
  running := List.Sublist.refl _
  pidFile := rfl

/-- A program passes the check of a PID file that nobody claims and for which nothing runs. -/
theorem Orderly.pass (h : host.Orderly) (hprev : host.programs[index]? = some prev)
    (hclears : program.Clears prev name)
    (hothers : ∀ i other, host.programs[i]? = some other → i ≠ index → ¬other.Claims name)
    (hfree : ∀ process ∈ host.running, process.name ≠ name) :
    (host.setProgram index program).Orderly := by
  have hprevMem : prev ∈ host.programs := List.mem_of_getElem? hprev
  -- what the program claims it has claimed before, or it is the file whose check it passes
  have hclaims {other : String} (hother : program.Claims other) : other = name ∨ prev.Claims other := by
    rcases hother with hcleared | ⟨hdaemon, hwritten⟩
    · exact .inl (Option.some.inj (hcleared.symm.trans hclears.cleared))
    · exact .inr (.inr ⟨hdaemon, hclears.written ▸ hwritten⟩)
  have hnew {i : ℕ} {a : Program} {other : String} (ha : host.programs[i]? = some a) (hi : i ≠ index)
      (haclaims : a.Claims other) : ¬program.Claims other := by
    intro hprogram
    rcases hclaims hprogram with rfl | hbefore
    · exact hothers i a ha hi haclaims
    · exact hi (h.alone i index a prev other ha hprev haclaims hbefore)
  refine ⟨?_, ?_, ?_, ?_, h.named, h.plugin⟩
  · intro other hother pid hown
    rcases mem_setProgram hother with rfl | hother
    · exact h.positive prev hprevMem pid (hclears.own ▸ hown)
    · exact h.positive other hother pid hown
  · intro i j a b other ha hb haclaims hbclaims
    rcases getElem?_setProgram ha with ⟨rfl, rfl⟩ | ⟨hi, hold⟩ <;>
      rcases getElem?_setProgram hb with ⟨rfl, rfl⟩ | ⟨hj, hold'⟩
    · rfl
    · exact absurd haclaims (hnew hold' hj hbclaims)
    · exact absurd hbclaims (hnew hold hi haclaims)
    · exact h.alone i j a b other hold hold' haclaims hbclaims
  · intro other hother pid hwritten
    rcases mem_setProgram hother with rfl | hother
    · exact h.written prev hprevMem pid (hclears.written ▸ hwritten)
    · exact h.written other hother pid hwritten
  · intro other hother cleared hcleared
    rcases mem_setProgram hother with rfl | hother
    · obtain rfl := Option.some.inj (hcleared.symm.trans hclears.cleared)
      exact hfree
    · exact h.clear other hother cleared hcleared

/-- The PID file of a plugin is removed, for which nothing runs. -/
theorem Orderly.remove (h : host.Orderly) (hname : name ≠ daemonName)
    (hfree : ∀ process ∈ host.running, process.name ≠ name) :
    (host.perform (.write name .missing)).Orderly where
  positive := h.positive
  alone := h.alone
  written other hmem pid hwritten := by
    rw [pidFile_write_of_ne hname.symm]
    exact h.written other hmem pid hwritten
  clear := h.clear
  named process hmem := by
    rw [pidFile_write_of_ne (hfree process hmem)]
    exact h.named process hmem
  plugin := h.plugin

/-- A daemon that has passed its check is the only one to use its PID file. -/
theorem Orderly.settle (h : host.Orderly) (hprev : host.programs[index]? = some prev)
    (hsettles : program.Settles prev content) :
    ((host.setProgram index program).perform (.write daemonName content)).Orderly := by
  have hprevMem : prev ∈ host.programs := List.mem_of_getElem? hprev
  have hprevClaims : prev.Claims daemonName := .inl hsettles.cleared_prev
  have hclaims {other : String} (hother : program.Claims other) : prev.Claims other := by
    rcases hother with hcleared | ⟨rfl, _⟩
    · exact .inl (hsettles.cleared other hcleared)
    · exact hprevClaims
  have hback {i : ℕ} {a : Program} {other : String}
      (ha : (host.setProgram index program).programs[i]? = some a) (haclaims : a.Claims other) :
      ∃ before, host.programs[i]? = some before ∧ before.Claims other := by
    rcases getElem?_setProgram ha with ⟨rfl, rfl⟩ | ⟨_, hold⟩
    · exact ⟨prev, hprev, hclaims haclaims⟩
    · exact ⟨a, hold, haclaims⟩
  refine ⟨?_, ?_, ?_, ?_, ?_, h.plugin⟩
  · intro other hother pid hown
    rcases mem_setProgram hother with rfl | hold
    · exact h.positive prev hprevMem pid (hsettles.own ▸ hown)
    · exact h.positive other hold pid hown
  · intro i j a b other ha hb haclaims hbclaims
    obtain ⟨before, hbefore, hbeforeClaims⟩ := hback ha haclaims
    obtain ⟨before', hbefore', hbeforeClaims'⟩ := hback hb hbclaims
    exact h.alone i j before before' other hbefore hbefore' hbeforeClaims hbeforeClaims'
  · intro other hother pid hwritten
    rw [pidFile_write_self]
    obtain ⟨i, hi⟩ := List.mem_iff_getElem?.mp hother
    rcases getElem?_setProgram hi with ⟨rfl, rfl⟩ | ⟨hne, hold⟩
    · exact hsettles.written pid hwritten
    · have hotherClaims : other.Claims daemonName :=
        .inr ⟨rfl, Option.isSome_iff_exists.mpr ⟨pid, hwritten⟩⟩
      exact absurd (h.alone i index other prev daemonName hold hprev hotherClaims hprevClaims) hne
  · intro other hother name hcleared
    rcases mem_setProgram hother with rfl | hold
    · exact h.clear prev hprevMem name (hsettles.cleared name hcleared)
    · exact h.clear other hold name hcleared
  · intro process hmem
    obtain ⟨hfile, hpid, hname⟩ := h.named process hmem
    rw [pidFile_write_of_ne hname]
    exact ⟨hfile, hpid, hname⟩

/-- A plugin is spawned for which nothing runs and whose PID file nobody claims. -/
theorem Orderly.spawn (h : host.Orderly) (hpid : 0 < process.pid) (hname : process.name ≠ daemonName)
    (hcleared : ∀ program ∈ host.programs, program.cleared ≠ some process.name)
    (hfree : ∀ other ∈ host.running, other.name ≠ process.name) : (host.spawn process).Orderly where
  positive := h.positive
  alone := h.alone
  written other hmem own hwritten := by
    rw [pidFile_spawn_of_ne hname.symm]
    exact h.written other hmem own hwritten
  clear other hmem cleared hsome process hprocess := by
    rcases List.mem_cons.mp hprocess with rfl | hprocess
    · rintro rfl
      exact hcleared other hmem hsome
    · exact h.clear other hmem cleared hsome process hprocess
  named process hmem := by
    rcases List.mem_cons.mp hmem with rfl | hmem
    · exact ⟨pidFile_spawn_self, hpid, hname⟩
    · rw [pidFile_spawn_of_ne (hfree process hmem)]
      exact h.named process hmem
  plugin := by
    rw [Host.spawn, List.map_cons, List.nodup_cons]
    refine ⟨fun hmem ↦ ?_, h.plugin⟩
    obtain ⟨other, hother, hsame⟩ := List.mem_map.mp hmem
    exact hfree other hother hsame

/-! ## Undisturbed steps -/

theorem isProcessAlive_of_running (hmem : process ∈ host.running) (hpid : 0 < process.pid) :
    host.isProcessAlive flag process.pid = true := by
  have hruns : host.runs process.pid = true :=
    List.any_eq_true.mpr ⟨process, hmem, decide_eq_true rfl⟩
  simp only [isProcessAlive, taken, hruns, hpid, decide_true, Bool.true_or, Bool.and_true]

theorem isProcessAlive_of_own {pid : ℤ} (hmem : program ∈ host.programs) (hown : program.own = some pid)
    (hpid : 0 < pid) : host.isProcessAlive flag pid = true := by
  have hholds : program.holdsPid pid = true := by
    cases program with
    | daemon own phase entries =>
      cases hown
      simp only [Program.holdsPid, decide_true, Bool.true_or]
    | _ => exact nomatch hown
  have hany : host.programs.any (Program.holdsPid pid) = true :=
    List.any_eq_true.mpr ⟨program, hmem, hholds⟩
  simp only [isProcessAlive, taken, hany, hpid, decide_true, Bool.true_or, Bool.or_true, Bool.and_true]

theorem Unclaimed.not_cleared (h : host.Unclaimed index name) {other : Program}
    (hother : host.programs[i]? = some other) (hne : i ≠ index) : other.cleared ≠ some name :=
  h other (List.mem_eraseIdx_iff_getElem?.mpr ⟨i, hne, hother⟩)

section

variable (h : host.Orderly)
include h

/-- What passes a check in time is claimed by nobody else, and nothing runs for it. -/
theorem Orderly.free_of_check (hunclaimed : host.Unclaimed index name)
    (hkept : host.pidFile name = content ∨ host.pidFile name = .missing)
    (hcheck : host.alreadyRunning flag content = false) :
    (∀ i other, host.programs[i]? = some other → i ≠ index → ¬other.Claims name) ∧
      ∀ process ∈ host.running, process.name ≠ name := by
  have hdead {pid : ℤ} (hfile : host.pidFile name = .pid pid) :
      host.isProcessAlive flag pid = false := by
    rcases hkept with hsame | hmissing
    · rw [← hsame, hfile] at hcheck
      exact hcheck
    · exact nomatch hmissing.symm.trans hfile
  constructor
  · rintro i other hother hne (hcleared | ⟨rfl, hwritten⟩)
    · exact hunclaimed.not_cleared hother hne hcleared
    · obtain ⟨pid, hpid⟩ := Option.isSome_iff_exists.mp hwritten
      have hmem : other ∈ host.programs := List.mem_of_getElem? hother
      have hown : other.own = some pid := Program.own_of_written hpid
      have halive : host.isProcessAlive flag pid = true :=
        isProcessAlive_of_own hmem hown (h.positive other hmem pid hown)
      exact absurd (hdead (h.written other hmem pid hpid)) (Bool.eq_false_iff.not_left.mpr halive)
  · rintro process hmem rfl
    obtain ⟨hfile, hpid, _⟩ := h.named process hmem
    have halive : host.isProcessAlive flag process.pid = true := isProcessAlive_of_running hmem hpid
    exact Bool.false_ne_true ((hdead hfile).symm.trans halive)

theorem Orderly.free_of_namesNone (hnone : host.NamesNone name) :
    ∀ process ∈ host.running, process.name ≠ name := by
  rintro process hmem rfl
  exact hnone process hmem rfl (h.named process hmem).1

theorem orderly_act
    (hguard : ∀ program ∈ host.programs[index]?,
      host.CheckInTime index flag program ∧ host.RemovalInTime program)
    (hstep : act host index flag = some next) : next.Orderly := by
  obtain ⟨prev, hprev, hstep⟩ := Option.bind_eq_some_iff.mp hstep
  obtain ⟨⟨program, access⟩, hprogram, hnext⟩ := Option.bind_eq_some_iff.mp hstep
  cases hnext
  obtain ⟨hcheckInTime, hremoval⟩ := hguard prev hprev
  cases programStep_move hprogram with
  | quiet hwithin hsparing =>
    exact (below_perform hsparing _).orderly ((below_setProgram hprev hwithin).orderly h)
  | passes name content hchecking hcheck hclears haccess =>
    obtain ⟨hunclaimed, hkept⟩ := hcheckInTime (name, content) hchecking hcheck
    obtain ⟨hothers, hfree⟩ := h.free_of_check hunclaimed hkept hcheck
    rw [haccess]
    exact h.pass hprev hclears hothers hfree
  | removes name hremoving hwithin haccess =>
    obtain ⟨hname, hnone⟩ := hremoval name hremoving
    rw [haccess]
    exact ((below_setProgram hprev hwithin).orderly h).remove hname (h.free_of_namesNone hnone)
  | settles content hsettles haccess =>
    rw [haccess]
    exact h.settle hprev hsettles

theorem orderly_load {names : Option (List String)} (hstep : load host index names = some next) :
    next.Orderly := by
  obtain ⟨prev, hprev, hstep⟩ := Option.bind_eq_some_iff.mp hstep
  obtain ⟨program, hloaded, hnext⟩ := Option.bind_eq_some_iff.mp hstep
  cases hnext
  refine (below_setProgram hprev ?_).orderly h
  split_ifs
  · exact within_loaded hloaded
  · exact Program.within_ended prev

theorem orderly_take {phase : DaemonPhase}
    (hphase : ∀ pid entries, (Program.daemon pid phase entries).cleared = none ∧
      (Program.daemon pid phase entries).written = some pid) (hstep : take host index phase = some next) :
    next.Orderly := by
  obtain ⟨prev, hprev, hstep⟩ := Option.bind_eq_some_iff.mp hstep
  obtain ⟨program, htaking, hnext⟩ := Option.bind_eq_some_iff.mp hstep
  cases hnext
  exact (below_setProgram hprev (within_taking hphase htaking)).orderly h

/-- A program that spawns is the only one to have cleared the plugin, for which nothing runs: it has passed
the check of it, or the check would pass. -/
theorem Orderly.free_of_spawning (hprev : host.programs[index]? = some prev)
    (hspawning : prev.spawning = some name)
    (hunchecked : prev.cleared = none → host.Unclaimed index name ∧ host.NamesNone name) :
    (∀ i other, host.programs[i]? = some other → i ≠ index → other.cleared ≠ some name) ∧
      ∀ process ∈ host.running, process.name ≠ name := by
  rcases cleared_of_spawning hspawning with hcleared | hcleared
  · refine ⟨fun i other hother hne hsome ↦ hne ?_, h.clear prev (List.mem_of_getElem? hprev) name hcleared⟩
    exact h.alone i index other prev name hother hprev (.inl hsome) (.inl hcleared)
  · obtain ⟨hunclaimed, hnone⟩ := hunchecked hcleared
    exact ⟨fun i other ↦ hunclaimed.not_cleared, h.free_of_namesNone hnone⟩

theorem orderly_spawnBy {child : Option ℤ}
    (hguard : ∀ pid ∈ child, ∀ program ∈ host.programs[index]?, host.SpawnInTime index program)
    (hstep : spawnBy host index child = some next) : next.Orderly := by
  obtain ⟨prev, hprev, hstep⟩ := Option.bind_eq_some_iff.mp hstep
  obtain ⟨name, hspawning, hnext⟩ := Option.bind_eq_some_iff.mp hstep
  obtain ⟨hwithin, hended⟩ := within_spawned hspawning child
  have hset := (below_setProgram hprev hwithin).orderly h
  cases child with
  | none =>
    cases hnext
    exact hset
  | some pid =>
    simp only at hnext
    split_ifs at hnext with hfresh
    cases hnext
    obtain ⟨hname, hunchecked⟩ := hguard pid rfl prev hprev name hspawning
    obtain ⟨hothers, hfree⟩ := h.free_of_spawning hprev hspawning hunchecked
    refine hset.spawn (of_decide_eq_true (Bool.and_eq_true_iff.mp hfresh).1) hname ?_ hfree
    intro other hother hcleared
    obtain ⟨i, hi⟩ := List.mem_iff_getElem?.mp hother
    rcases getElem?_setProgram hi with ⟨rfl, rfl⟩ | ⟨hne, hold⟩
    · exact nomatch hended.symm.trans hcleared
    · exact hothers i other hold hne hcleared

theorem orderly_step {label : HostLabel} (hguard : label.Undisturbed host)
    (hstep : hostStep host label = some next) : next.Orderly := by
  cases label with
  | launch pid =>
    simp only [hostStep] at hstep
    split_ifs at hstep with hfresh
    cases hstep
    refine (below_append rfl rfl ?_ host).orderly h
    rintro own ⟨⟩
    exact of_decide_eq_true (Bool.and_eq_true_iff.mp hfresh).1
  | invoke command =>
    cases hstep
    refine (below_append ?_ ?_ ?_ host).orderly h <;> cases command
    · rfl
    · rfl
    · rfl
    · rfl
    all_goals rintro own ⟨⟩
  | act index flag => exact orderly_act h hguard hstep
  | load index names => exact orderly_load h hstep
  | spawn index child =>
    refine orderly_spawnBy h (fun pid hchild ↦ ?_) hstep
    obtain rfl := hchild
    exact hguard
  | take index command =>
    refine orderly_take h (fun pid entries ↦ ⟨?_, rfl⟩) hstep
    cases command <;> rfl
  | refuse index => exact orderly_take h (fun pid entries ↦ ⟨rfl, rfl⟩) hstep
  | exit pid =>
    cases hstep
    exact (below_exit pid host).orderly h
  | abort index =>
    cases hstep
    exact (below_abort index host).orderly h

end

end Host

/-- From whatever files are left on a host, in every run whose steps are not disturbed one daemon is past
its check and a plugin has at most one process, which its PID file names. -/
theorem single_of_undisturbed (pidFile : String → PidFile) (stopped : List String) {host : Host}
    (hreach : Steps.Reach hostStep (fun host label ↦ label.Undisturbed host) (.idle pidFile stopped) host) :
    host.Single :=
  (hreach.invariant (Host.orderly_idle pidFile stopped)
    fun _ _ _ h hguard hstep ↦ Host.orderly_step h hguard hstep).single

/-- A daemon starts the kernel and a plugin, which is started a second time, exits and is respawned. -/
def respawnRun : List HostLabel :=
  [.launch 1, .act 0 false, .act 0 false, .act 0 false, .spawn 0 (some 11),
    .load 0 (some ["telegram"]), .act 0 false, .spawn 0 (some 12), .act 0 false,
    .invoke (.start "telegram"), .act 1 false, .act 1 false, .act 1 false,
    .exit 12, .act 0 false, .act 0 false, .act 0 false, .act 0 false, .act 0 false, .spawn 0 (some 13)]

theorem single_of_undisturbed_respawned :
    ∃ host, Steps.Reach hostStep (fun host label ↦ label.Undisturbed host)
        (.idle (fun _ ↦ .missing) []) host ∧
      host.running = [⟨13, "telegram"⟩, ⟨11, kernelName⟩] ∧
      host.pidFile "telegram" = .pid 13 ∧ host.pidFile daemonName = .pid 1 ∧ host.Single := by
  have hexecute : ∃ host ∈ Steps.execute hostStep (.idle (fun _ ↦ .missing) []) respawnRun,
      host.running = [⟨13, "telegram"⟩, ⟨11, kernelName⟩] ∧
        host.pidFile "telegram" = .pid 13 ∧ host.pidFile daemonName = .pid 1 := by
    decide +kernel
  obtain ⟨host, hstate, hrunning, hplugin, hdaemon⟩ := hexecute
  have hguarded : Steps.Guarded hostStep (fun host label ↦ label.Undisturbed host)
      (.idle (fun _ ↦ .missing) []) respawnRun := by
    decide +kernel
  have hreach := Steps.reach_of_execute hguarded hstate
  exact ⟨host, hreach, hrunning, hplugin, hdaemon, single_of_undisturbed _ _ hreach⟩

/-- Two daemons find no PID file before either has written one, and both start a kernel. -/
def overlapRun : List HostLabel :=
  [.launch 1, .launch 2, .act 0 false, .act 1 false, .act 0 false, .act 1 false,
    .act 0 false, .act 1 false, .spawn 0 (some 11), .spawn 1 (some 12)]

theorem overlap_not_single :
    ∃ host, Steps.Reach hostStep (fun _ _ ↦ True) (.idle (fun _ ↦ .missing) []) host ∧
      host.programs.countP Program.pastCheck = 2 ∧
      host.running = [⟨12, kernelName⟩, ⟨11, kernelName⟩] ∧ ¬host.Single := by
  have hexecute : ∃ host ∈ Steps.execute hostStep (.idle (fun _ ↦ .missing) []) overlapRun,
      host.programs.countP Program.pastCheck = 2 ∧
        host.running = [⟨12, kernelName⟩, ⟨11, kernelName⟩] := by
    decide +kernel
  obtain ⟨host, hstate, hpast, hrunning⟩ := hexecute
  have hreach := Steps.reach_of_execute (Steps.guarded_of_forall (fun _ _ ↦ trivial) _ _) hstate
  refine ⟨host, hreach, hpast, hrunning, fun hsingle ↦ ?_⟩
  have hnodup := hsingle.plugin
  simp [hrunning] at hnodup

end Seidrum.Daemon.Programs
