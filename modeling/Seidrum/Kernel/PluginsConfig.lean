import Seidrum.Daemon.PluginsYaml

/-!
# The plugins file in the kernel

The kernel has types of its own for the entries of `plugins.yaml`, which do not know the package a
plugin comes from.  A document that the daemon can load is loaded by the kernel as the same entries
without their packages, and so it is written back.
-/

namespace Seidrum.Kernel

open Foundation Daemon Yaml

structure PluginEntry where
  binary : String
  enabled : Bool
  env : Table String String

structure PluginsConfig where
  plugins : Table String PluginEntry

def entryOf (doc : Yaml) : Option PluginEntry := do
  let fields ← readFields doc
  let binary ← required readString "binary" fields
  let enabled ← required readBool "enabled" fields
  let env ← defaulted (readTable readString) .empty "env" fields
  return ⟨binary, enabled, env⟩

def configOf (doc : Yaml) : Option PluginsConfig := do
  let fields ← readFields doc
  let plugins ← required (readTable entryOf) "plugins" fields
  return ⟨plugins⟩

def entryYaml (entry : PluginEntry) : Yaml :=
  ofFields [("binary", ofString entry.binary), ("enabled", ofBool entry.enabled),
    ("env", ofTable ofString entry.env)]

def configYaml (config : PluginsConfig) : Yaml :=
  ofFields [("plugins", ofTable entryYaml config.plugins)]

/-- What the kernel reads of an entry of the daemon. -/
def PluginEntry.ofDaemon (entry : Daemon.PluginEntry) : PluginEntry :=
  ⟨entry.binary, entry.enabled, entry.env⟩

/-- What the daemon reads of an entry of the kernel. -/
def PluginEntry.toDaemon (entry : PluginEntry) : Daemon.PluginEntry :=
  ⟨entry.binary, entry.enabled, entry.env, none⟩

section Types

variable {doc : Yaml}

theorem entryOf_of_daemon {entry : Daemon.PluginEntry} (h : Daemon.entryOf doc = some entry) :
    entryOf doc = some (.ofDaemon entry) := by
  simp only [Daemon.entryOf, Option.bind_eq_bind, Option.bind_eq_some_iff, Option.pure_def,
    Option.some_inj] at h
  obtain ⟨fields, hfields, binary, hbinary, enabled, henabled, env, henv, package, -, rfl⟩ := h
  simp [entryOf, hfields, hbinary, henabled, henv, PluginEntry.ofDaemon]

/-- The kernel writes entries as the daemon writes them that have no package. -/
theorem configYaml_eq (config : PluginsConfig) :
    configYaml config = Daemon.configYaml ⟨config.plugins.mapValues PluginEntry.toDaemon⟩ := by
  rw [configYaml, Daemon.configYaml, ofTable, ofTable, Table.mapValues, List.map_map]
  rfl

end Types

section File

variable {Text : Type*} (yaml : YamlFormat Text)

def loadPluginsConfig : PluginsFile Text → Option PluginsConfig
  | .text content => (yaml.parse content).bind configOf
  | _ => none

def setPluginEnabled (name : String) (enabled saved : Bool) (file : PluginsFile Text) :
    PluginsResult Text :=
  match loadPluginsConfig yaml file with
  | none => (.error .outside, file)
  | some config =>
      match config.plugins.get name with
      | none => (.error (.message ("Plugin '" ++ name ++ "' not found")), file)
      | some entry =>
          let plugins := config.plugins.insert name { entry with enabled := enabled }
          writeDoc yaml saved (configYaml ⟨plugins⟩) file

def enable (plugins : Table String PluginEntry) (name : String) : Table String PluginEntry :=
  match plugins.get name with
  | some entry => plugins.insert name { entry with enabled := true }
  | none => plugins

/-- What a preset says about plugins. -/
structure Preset where
  required : List String
  recommended : List String
  llmProvider : Option String

/-- A file that cannot be loaded counts as empty. -/
def loadOrEmpty (file : PluginsFile Text) : PluginsConfig :=
  (loadPluginsConfig yaml file).getD ⟨.empty⟩

/-- The model provider of a preset is enabled by a second write. -/
def applyPreset (preset : Preset) (includeRecommended savedFirst savedSecond : Bool)
    (file : PluginsFile Text) : PluginsResult Text :=
  let plugins := preset.required.foldl enable (loadOrEmpty yaml file).plugins
  let plugins := if includeRecommended then preset.recommended.foldl enable plugins else plugins
  match writeDoc yaml savedFirst (configYaml ⟨plugins⟩) file with
  | (.error error, file) => (.error error, file)
  | (.ok (), file) =>
      match preset.llmProvider with
      | none => (.ok (), file)
      | some provider => writeDoc yaml savedSecond (configYaml ⟨enable plugins provider⟩) file

structure BundledPlugin where
  name : String
  binary : String
  env : Table String String

/-- Add a plugin of a bundle, disabled, if there is no entry of it; the names of those that were added
are kept. -/
def addBundled (state : Table String PluginEntry × List String) (plugin : BundledPlugin) :
    Table String PluginEntry × List String :=
  match state.1.get plugin.name with
  | some _ => state
  | none => (state.1.insert plugin.name ⟨plugin.binary, false, plugin.env⟩, state.2 ++ [plugin.name])

def installBundle (plugins : List BundledPlugin) (saved : Bool) (file : PluginsFile Text) :
    PluginsResult Text :=
  let added := plugins.foldl addBundled ((loadOrEmpty yaml file).plugins, [])
  if added.2 = [] then (.ok (), file) else writeDoc yaml saved (configYaml ⟨added.1⟩) file

section

variable {plugins : Table String PluginEntry} {names : List String} {name : String}
  {entry : PluginEntry}

theorem get_enable : (enable plugins name).get = fun other ↦
    (plugins.get other).map fun entry ↦ if other = name then { entry with enabled := true } else entry := by
  funext other
  unfold enable
  cases hentry : plugins.get name with
  | none =>
    by_cases hother : other = name
    · rw [hother, hentry, Option.map_none]
    · simp [hother]
  | some entry =>
    rw [Table.get_insert]
    by_cases hother : other = name
    · simp [hother, hentry]
    · simp [hother]

/-- Enabling several plugins enables the entries of their names. -/
theorem get_foldl_enable (other : String) : (names.foldl enable plugins).get other =
    (plugins.get other).map fun entry ↦
      if other ∈ names then { entry with enabled := true } else entry := by
  induction names generalizing plugins with
  | nil => simp
  | cons first rest ih =>
    rw [List.foldl_cons, ih, get_enable, Option.map_map]
    congr 1
    funext entry
    by_cases hfirst : other = first <;> by_cases hrest : other ∈ rest <;> simp [hfirst, hrest]

end

section

variable {plugins : List BundledPlugin} {state : Table String PluginEntry × List String}

/-- The entries of a file are kept when plugins of a bundle are added. -/
theorem get_foldl_addBundled {name : String} {entry : PluginEntry} (h : state.1.get name = some entry) :
    (plugins.foldl addBundled state).1.get name = some entry := by
  induction plugins generalizing state with
  | nil => exact h
  | cons plugin rest ih =>
    apply ih
    unfold addBundled
    split
    · exact h
    · rename_i hnone
      have hne : name ≠ plugin.name := fun heq ↦ by rw [heq, hnone] at h; cases h
      rw [Table.get_insert, if_neg hne]
      exact h

/-- Nothing is added exactly if there is an entry of every plugin. -/
theorem foldl_addBundled_nil_iff (hnil : state.2 = []) :
    (plugins.foldl addBundled state).2 = [] ↔ ∀ plugin ∈ plugins, state.1.get plugin.name ≠ none := by
  have hgrows : ∀ (plugins : List BundledPlugin) (state : Table String PluginEntry × List String),
      state.2 ≠ [] → (plugins.foldl addBundled state).2 ≠ [] := by
    intro plugins
    induction plugins with
    | nil => exact fun _ h ↦ h
    | cons plugin rest ih =>
      intro state h
      apply ih
      unfold addBundled
      split
      · exact h
      · exact List.append_ne_nil_of_left_ne_nil h _
  induction plugins generalizing state with
  | nil => exact iff_of_true hnil fun _ hmem ↦ absurd hmem List.not_mem_nil
  | cons plugin rest ih =>
    rw [List.foldl_cons, List.forall_mem_cons]
    cases hentry : state.1.get plugin.name with
    | some entry =>
      have hsame : addBundled state plugin = state := by rw [addBundled, hentry]
      have hrest := ih hnil
      rw [hsame, and_iff_right (Option.some_ne_none entry)]
      exact hrest
    | none =>
      refine iff_of_false (hgrows rest _ ?_) fun h ↦ h.1 rfl
      rw [addBundled, hentry]
      simp

end

end File

end Seidrum.Kernel
