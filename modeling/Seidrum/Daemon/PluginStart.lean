import Seidrum.Daemon.PluginConfig

/-!
# Plugins started with changed settings

A start request makes the daemon load the settings file once more.  What the file gave a variable the
first time is in the environment of the daemon from then on, and a later load takes it for a variable
that was exported by whoever launched the daemon.
-/

namespace Seidrum.Daemon

open Foundation

structure PluginCommandResponse where
  success : Bool
  message : String
  deriving DecidableEq, Repr

/-- What a start request is and meets: the plugin or the reason it cannot be parsed, `plugins.yaml` if
it can be loaded, the live process that the plugin's PID file names, and how the spawn ends. -/
structure PluginStart where
  command : Except String String
  config : Option PluginsConfig
  runningPid : Option ℤ
  spawn : Except String Unit

/-- The checks up to the removal of the stop marker. -/
def checkStart (request : PluginStart) : Except PluginCommandResponse (String × PluginEntry) :=
  match request.command with
  | .error error => .error ⟨false, "Failed to parse command: " ++ error⟩
  | .ok name =>
      match request.config with
      | none => .error ⟨false, "Failed to load plugins.yaml"⟩
      | some config =>
          match config.plugins.get name with
          | none => .error ⟨false, "Plugin '" ++ name ++ "' not found in plugins.yaml"⟩
          | some entry =>
              match request.runningPid with
              | some pid =>
                  .error ⟨false,
                    "Plugin '" ++ name ++ "' is already running (PID " ++ toString pid ++ ")"⟩
              | none => .ok (name, entry)

/-- The response, the environment of the daemon afterwards and the variables given to the plugin if it
has started.  The daemon may panic. -/
def handlePluginStart (request : PluginStart) (file : EnvFile) (env : Env) :
    Option (PluginCommandResponse × Env × Option (Table String String)) :=
  match checkStart request with
  | .error response => some (response, env, none)
  | .ok (name, entry) =>
      match syncProcessEnvFromFile file env with
      | .error .panicked => none
      | .error (.failed error) => some (⟨false, "Failed to load .env: " ++ error⟩, env, none)
      | .ok (_, env) =>
          let given := resolvePluginEnv env entry
          match request.spawn with
          | .error error => some (⟨false, "Failed to start plugin: " ++ error⟩, env, none)
          | .ok () => some (⟨true, "Plugin '" ++ name ++ "' started"⟩, env, some given)

/-- The settings file, the environment of the daemon, and what its loads of the file have read so
far. -/
structure SettingsState where
  file : EnvFile
  env : Env
  reads : List (Table String String)

/-- The daemon is launched with an environment, unless the file cannot be loaded. -/
def launchDaemon (launch : Env) (file : EnvFile) : Option SettingsState :=
  match file.entries, syncProcessEnvFromFile file launch with
  | .ok entries, .ok (_, env) => some ⟨file, env, [entries]⟩
  | _, _ => none

inductive SettingsOp
  | setEnv (key value : String) (writeError : Option String)
  | start (request : PluginStart)

def EnvFile.setEnv (key value : String) (writeError : Option String) (file : EnvFile) : EnvFile :=
  match Daemon.setEnv key value file.text? writeError with
  | (.ok _, some text) => content text
  | _ => file

def readBy (request : PluginStart) (file : EnvFile) : List (Table String String) :=
  match checkStart request, file.entries with
  | .ok _, .ok entries => [entries]
  | _, _ => []

def settingsStep : Steps SettingsState SettingsOp
  | state, .setEnv key value writeError =>
      some { state with file := state.file.setEnv key value writeError }
  | state, .start request =>
      (handlePluginStart request state.file state.env).map fun handled ↦
        { state with env := handled.2.1, reads := state.reads ++ readBy request state.file }

/-- The value an operation has written for a variable. -/
def SettingsOp.written (name : String) : SettingsOp → Option String
  | setEnv key value writeError =>
      match (Daemon.setEnv key value none writeError).1 with
      | .ok _ => if key = name then some value else none
      | .error _ => none
  | start _ => none

/-- The value a file has for a variable. -/
def EnvFile.value? (file : EnvFile) (name : String) : Option String :=
  match file.entries with
  | .ok entries => entries.get name
  | .error _ => none

/-- The value written last: that of the last `set_env`, else the one the file had at the launch. -/
def lastWritten (initial : EnvFile) (ops : List SettingsOp) (name : String) : Option String :=
  (ops.reverse.findSome? (SettingsOp.written name)).or (initial.value? name)

/-- The value the first load that found a variable has read. -/
def firstRead (reads : List (Table String String)) (name : String) : Option String :=
  reads.findSome? fun entries ↦ entries.get name

section

variable {launch env : Env} {file : EnvFile} {state state' : SettingsState} {request : PluginStart}
  {response : PluginCommandResponse} {started : Option (Table String String)}

/-- The environment is the one of the launch, together with the first value read of any other
variable. -/
def FirstReads (launch env : Env) (reads : List (Table String String)) : Prop :=
  ∀ name, env.get name = (launch.get name).or ((firstRead reads name).map .text)

variable {reads : List (Table String String)} {entries : Table String String} {env' : Env}

theorem FirstReads.sync (h : FirstReads launch env reads) (hentries : file.entries = .ok entries) {loaded : ℕ}
    {result : Env} (hsync : syncProcessEnvFromFile file env = .ok (loaded, result)) :
    FirstReads launch result (reads ++ [entries]) := by
  intro name
  rw [get_syncProcessEnv hentries hsync, h name, Option.or_assoc, ← Option.map_or, firstRead,
    firstRead, List.findSome?_append, List.findSome?_singleton]

/-- A start request that does not get to the settings file changes no environment; one that loads it
gives the plugin what is resolved in the environment it leaves. -/
theorem handlePluginStart_cases (h : handlePluginStart request file env = some (response, env', started)) :
    (env' = env ∧ readBy request file = [] ∧ started = none) ∨
      ∃ name entry entries loaded, checkStart request = .ok (name, entry) ∧
        file.entries = .ok entries ∧ syncProcessEnvFromFile file env = .ok (loaded, env') ∧
        ∀ given ∈ started, given = resolvePluginEnv env' entry := by
  unfold handlePluginStart at h
  unfold readBy
  cases hcheck : checkStart request with
  | error refused =>
    rw [hcheck] at h
    obtain ⟨-, rfl, rfl⟩ := h
    exact .inl ⟨rfl, rfl, rfl⟩
  | ok found =>
    obtain ⟨name, entry⟩ := found
    rw [hcheck] at h
    match hsync : syncProcessEnvFromFile file env with
    | .error .panicked =>
      rw [hsync] at h
      cases h
    | .error (.failed message) =>
      rw [hsync] at h
      obtain ⟨-, rfl, rfl⟩ := h
      rw [sync_failed_iff.mp hsync]
      exact .inl ⟨rfl, rfl, rfl⟩
    | .ok (loaded, result) =>
      obtain ⟨entries, hentries⟩ := entries_of_sync hsync
      rw [hsync] at h
      right
      cases hspawn : request.spawn with
      | error error =>
        rw [hspawn] at h
        obtain ⟨-, rfl, rfl⟩ := h
        exact ⟨name, entry, entries, loaded, rfl, hentries, rfl, fun _ hmem ↦ by cases hmem⟩
      | ok spawned =>
        rw [hspawn] at h
        obtain ⟨-, rfl, rfl⟩ := h
        exact ⟨name, entry, entries, loaded, rfl, hentries, rfl, fun _ hmem ↦ by cases hmem; rfl⟩

theorem readBy_of_check {found : String × PluginEntry} (hcheck : checkStart request = .ok found)
    (hentries : file.entries = .ok entries) : readBy request file = [entries] := by
  rw [readBy, hcheck, hentries]

theorem FirstReads.start (h : FirstReads launch env reads)
    (hhandled : handlePluginStart request file env = some (response, env', started)) :
    FirstReads launch env' (reads ++ readBy request file) := by
  rcases handlePluginStart_cases hhandled with
    ⟨rfl, hnone, -⟩ | ⟨name, entry, entries, loaded, hcheck, hentries, hsync, -⟩
  · rwa [hnone, List.append_nil]
  · rw [readBy_of_check hcheck hentries]
    exact h.sync hentries hsync

theorem firstReads_launch (h : launchDaemon launch file = some state) :
    FirstReads launch state.env state.reads := by
  unfold launchDaemon at h
  split at h
  · rename_i entries loaded env hentries hsync
    cases h
    have hnone : FirstReads launch launch [] := fun name ↦ by simp [firstRead]
    exact hnone.sync hentries hsync
  · cases h

theorem FirstReads.step {op : SettingsOp} (h : FirstReads launch state.env state.reads)
    (hstep : settingsStep state op = some state') : FirstReads launch state'.env state'.reads := by
  cases op with
  | setEnv key value writeError =>
    cases hstep
    exact h
  | start request =>
    obtain ⟨handled, hhandled, rfl⟩ := Option.map_eq_some_iff.mp hstep
    exact h.start hhandled

theorem firstReads_run {ops : List SettingsOp} (hlaunch : launchDaemon launch file = some state)
    (hrun : Steps.execute settingsStep state ops = some state') :
    FirstReads launch state'.env state'.reads := by
  have hreach : Steps.Reach settingsStep (fun _ _ ↦ True) state state' :=
    Steps.reach_of_execute (Steps.guarded_of_forall (fun _ _ ↦ trivial) _ _) hrun
  clear hrun
  induction hreach with
  | init => exact firstReads_launch hlaunch
  | next _ _ hstep ih => exact ih.step hstep

/-- After every run, a start request that starts a plugin resolves its entry in an environment where
each variable referred to and not exported at the launch has the value written last exactly if the
first load that found the variable, up to the one the request makes, has read that value. -/
theorem started_reads_written_iff {ops : List SettingsOp} {name : String} {entry : PluginEntry}
    {given : Table String String} (hlaunch : launchDaemon launch file = some state)
    (hrun : Steps.execute settingsStep state ops = some state')
    (hcheck : checkStart request = .ok (name, entry))
    (hstart : handlePluginStart request state'.file state'.env = some (response, env, some given)) :
    (given = resolvePluginEnv env entry ∧ ∀ var ∈ entry.references, launch.get var = none →
        env.var var = lastWritten file ops var) ↔
      ∀ var ∈ entry.references, launch.get var = none →
        firstRead (state'.reads ++ readBy request state'.file) var = lastWritten file ops var := by
  have hgiven : given = resolvePluginEnv env entry := by
    rcases handlePluginStart_cases hstart with
      ⟨-, -, hnone⟩ | ⟨_, _, _, _, hcheck', -, -, hresolve⟩
    · cases hnone
    · rw [hcheck] at hcheck'
      cases hcheck'
      exact hresolve given rfl
  have hvar : ∀ var, launch.get var = none →
      env.var var = firstRead (state'.reads ++ readBy request state'.file) var := by
    intro var hnone
    have hget := (firstReads_run hlaunch hrun).start hstart var
    rw [hnone, Option.none_or] at hget
    rw [Env.var, hget]
    cases firstRead (state'.reads ++ readBy request state'.file) var <;> rfl
  rw [and_iff_right hgiven]
  exact forall₃_congr fun var _ hnone ↦ by rw [hvar var hnone]

/-- An entry with one reference, asked to be started while the plugin is not running. -/
def tokenEntry : PluginEntry := ⟨"bot", true, Table.empty.insert "T" "${TOKEN}", none⟩

def tokenStart : PluginStart :=
  ⟨.ok "bot", some ⟨Table.empty.insert "bot" tokenEntry⟩, none, .ok ()⟩

/-- A variable that is set before the daemon has ever found it is given to the plugin. -/
theorem started_reads_written_new :
    ∃ state ∈ launchDaemon .empty .missing,
      ∃ state' ∈ Steps.execute settingsStep state [.setEnv "TOKEN" "new" none],
        ∃ handled ∈ handlePluginStart tokenStart state'.file state'.env,
          handled.2.1.var "TOKEN" = some "new" := by
  have hruns : ∃ state ∈ launchDaemon .empty .missing,
      ∃ state' ∈ Steps.execute settingsStep state [.setEnv "TOKEN" "new" none],
        ∃ handled ∈ handlePluginStart tokenStart state'.file state'.env,
          handled.2.2.isSome ∧
          ∀ var ∈ tokenEntry.references, (Table.empty : Env).get var = none →
            firstRead (state'.reads ++ readBy tokenStart state'.file) var =
              lastWritten .missing [.setEnv "TOKEN" "new" none] var := by
    decide +kernel
  obtain ⟨state, hstate, state', hstate', ⟨response, env, started⟩, hhandled, hstarted, hfirst⟩ :=
    hruns
  obtain ⟨given, rfl⟩ := Option.isSome_iff_exists.mp hstarted
  have hread := (started_reads_written_iff hstate hstate' rfl hhandled).mpr hfirst
  exact ⟨state, hstate, state', hstate', _, hhandled, hread.2 "TOKEN" (by decide +kernel) rfl⟩

/-- The value of the launch is given after another one was written. -/
theorem started_reads_old :
    ∃ state ∈ launchDaemon .empty (.content "TOKEN=old\n".toList),
      ∃ state' ∈ Steps.execute settingsStep state [.setEnv "TOKEN" "new" none],
        ∃ handled ∈ handlePluginStart tokenStart state'.file state'.env,
          handled.2.2.isSome ∧ "TOKEN" ∈ tokenEntry.references ∧
            handled.2.1.var "TOKEN" = some "old" ∧
            lastWritten (.content "TOKEN=old\n".toList) [.setEnv "TOKEN" "new" none] "TOKEN" =
              some "new" := by
  decide +kernel

end

end Seidrum.Daemon
