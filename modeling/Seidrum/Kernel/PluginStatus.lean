import Seidrum.Kernel.PluginLookup
import Seidrum.Kernel.PluginsConfig

/-!
# The status of plugins

The management API lists the plugins of `plugins.yaml` and asks the registry over the bus which of them
are running.  The registry tells its queries apart by the field `query_type`, and answers with an object.
The API names its query in the field `type`, and reads an array of names.
-/

namespace Seidrum.Kernel

open EventBus (Value)
open Foundation Daemon

/-- Query types that can be sent to `registry.query`. -/
inductive RegistryQuery
  | getPlugin (pluginId : String)
  | listPlugins
  | getConsumers (eventType : String)
  | getProducers (eventType : String)
  | getConfigSchema (pluginId : String)
  deriving DecidableEq, Repr

/-- The variant is told by the field `query_type`, next to the fields of the variant. -/
def RegistryQuery.fromValue (value : Value) : Option RegistryQuery := do
  let text (field : String) := (value.get field).bind Value.asStr
  match ← text "query_type" with
  | "get_plugin" => (text "plugin_id").map .getPlugin
  | "list_plugins" => some .listPlugins
  | "get_consumers" => (text "event_type").map .getConsumers
  | "get_producers" => (text "event_type").map .getProducers
  | "get_config_schema" => (text "plugin_id").map .getConfigSchema
  | _ => none

def texts (items : List String) : Value := .array (items.map .string)

/-- A schema is written if there is one. -/
def PluginRegister.toValue (plugin : PluginRegister) : Value :=
  .object ((plugin.configSchema.toList.map fun schema ↦ ("config_schema", schema)) ++
    [("consumed_event_types", texts plugin.consumedEventTypes),
      ("consumes", texts plugin.consumes),
      ("description", .string plugin.description),
      ("health_subject", .string plugin.healthSubject),
      ("id", .string plugin.id),
      ("name", .string plugin.name),
      ("produced_event_types", texts plugin.producedEventTypes),
      ("produces", texts plugin.produces),
      ("version", .string plugin.version)])

structure RegistryQueryResponse where
  success : Bool
  plugin : Option PluginRegister := none
  plugins : Option (List PluginRegister) := none
  pluginIds : Option (List String) := none
  configSchema : Option Value := none
  error : Option String := none

/-- Only what there is is written. -/
def RegistryQueryResponse.toValue (response : RegistryQueryResponse) : Value :=
  .object ((response.configSchema.toList.map fun schema ↦ ("config_schema", schema)) ++
    (response.error.toList.map fun error ↦ ("error", .string error)) ++
    (response.plugin.toList.map fun plugin ↦ ("plugin", plugin.toValue)) ++
    (response.pluginIds.toList.map fun ids ↦ ("plugin_ids", texts ids)) ++
    (response.plugins.toList.map fun plugins ↦
      ("plugins", .array (plugins.map PluginRegister.toValue))) ++
    [("success", .bool response.success)])

def handleQuery (plugins : PluginTable) : RegistryQuery → RegistryQueryResponse
  | .getPlugin pluginId =>
      { success := (plugins.lookup pluginId).isSome, plugin := plugins.lookup pluginId }
  | .listPlugins => { success := true, plugins := some (plugins.entries.map Sigma.snd) }
  | .getConsumers eventType =>
      { success := true, pluginIds := some (getConsumers plugins eventType) }
  | .getProducers eventType =>
      { success := true, pluginIds := some (getProducers plugins eventType) }
  | .getConfigSchema pluginId =>
      { success := (plugins.lookup pluginId).isSome
        configSchema := (plugins.lookup pluginId).bind PluginRegister.configSchema
        error := match plugins.lookup pluginId with
          | some _ => none
          | none => some ("Plugin '" ++ pluginId ++ "' not found") }

/-- The answer to a message on `registry.query`; `error` is what one that cannot be read is reported as. -/
def answerQuery (error : String) (plugins : PluginTable) (message : Value) : RegistryQueryResponse :=
  match RegistryQuery.fromValue message with
  | some query => handleQuery plugins query
  | none => { success := false, error := some ("invalid query: " ++ error) }

/-- The query of the API. -/
def pluginsRequest : Value := .object [("type", .string "list_plugins")]

/-- The outcome of a request with a timeout. -/
inductive RegistryReply
  | answered (reply : Value)
  | failed
  | timedOut

/-- A set of names is read from an array of texts. -/
def namesFromValue : Value → Option (List String)
  | .array items => items.mapM Value.asStr
  | _ => none

/-- The running plugins; every failure is an empty set. -/
def queryRunningPlugins : RegistryReply → List String
  | .answered reply => (namesFromValue reply).getD []
  | .failed => []
  | .timedOut => []

structure PluginListItem where
  name : String
  binary : String
  enabled : Bool
  running : Bool
  envVars : ℕ
  deriving DecidableEq, Repr

def PluginListItem.ofEntry (runningPlugins : List String) (entry : String × PluginEntry) :
    PluginListItem where
  name := entry.1
  binary := entry.2.binary
  enabled := entry.2.enabled
  running := entry.1 ∈ runningPlugins
  envVars := entry.2.env.entries.length

section

variable {Text : Type*} (yaml : YamlFormat Text)

/-- The configured plugins with their status; there is no list if the file cannot be loaded. -/
def listPlugins (file : PluginsFile Text) (reply : RegistryReply) : Option (List PluginListItem) :=
  (loadPluginsConfig yaml file).map fun config ↦
    config.plugins.entries.map (PluginListItem.ofEntry (queryRunningPlugins reply))

/-- What is reported about the plugins of a file once the registry has answered the query of the API: each
of them once, and running exactly if it is in the registry. -/
def StatusTrue (error : String) (plugins : PluginTable) (file : PluginsFile Text) : Prop :=
  ∀ config, loadPluginsConfig yaml file = some config →
    ∃ items, listPlugins yaml file (.answered (answerQuery error plugins pluginsRequest).toValue) =
        some items ∧
      items.map PluginListItem.name = config.plugins.keys ∧
      ∀ item ∈ items, item.running = true ↔ item.name ∈ plugins

end

/-- No answer of the registry is read as a set of names, not even the list of its plugins. -/
theorem queryRunningPlugins_toValue (response : RegistryQueryResponse) :
    queryRunningPlugins (.answered response.toValue) = [] := rfl

section

variable {Text : Type*} {yaml : YamlFormat Text} {error : String} {plugins : PluginTable}
  {file : PluginsFile Text} {config : PluginsConfig}

/-- After any answer, every configured plugin is listed as not running. -/
theorem listPlugins_answered (hload : loadPluginsConfig yaml file = some config)
    (response : RegistryQueryResponse) : listPlugins yaml file (.answered response.toValue) =
      some (config.plugins.entries.map (PluginListItem.ofEntry [])) := by
  rw [listPlugins, hload, queryRunningPlugins_toValue, Option.map_some]

theorem names_listed (config : PluginsConfig) :
    (config.plugins.entries.map (PluginListItem.ofEntry [])).map PluginListItem.name =
      config.plugins.keys := by
  rw [List.map_map]
  rfl

theorem running_listed {item : PluginListItem}
    (hitem : item ∈ config.plugins.entries.map (PluginListItem.ofEntry [])) : item.running = false := by
  obtain ⟨entry, -, rfl⟩ := List.mem_map.mp hitem
  simp [PluginListItem.ofEntry]

theorem StatusTrue.not_mem (h : StatusTrue yaml error plugins file)
    (hload : loadPluginsConfig yaml file = some config) {name : String}
    (hname : name ∈ config.plugins.keys) : name ∉ plugins := by
  obtain ⟨items, hlist, -, hrunning⟩ := h config hload
  obtain rfl := Option.some.inj ((listPlugins_answered hload _).symm.trans hlist)
  rw [← names_listed] at hname
  obtain ⟨item, hitem, rfl⟩ := List.mem_map.mp hname
  intro hregistered
  have hreported := (hrunning item hitem).mpr hregistered
  rw [running_listed hitem] at hreported
  cases hreported

end

/-- The status is true exactly if no configured plugin is in the registry: none is reported as running. -/
theorem status_true_iff {Text : Type*} (yaml : YamlFormat Text) (error : String)
    (plugins : PluginTable) (file : PluginsFile Text) : StatusTrue yaml error plugins file ↔
      ∀ config, loadPluginsConfig yaml file = some config →
        ∀ name ∈ config.plugins.keys, name ∉ plugins := by
  constructor
  · exact fun h config hload name hname ↦ h.not_mem hload hname
  · intro hnone config hload
    refine ⟨_, listPlugins_answered hload _, names_listed config, fun item hitem ↦ ?_⟩
    have hname : item.name ∈ config.plugins.keys :=
      names_listed config ▸ List.mem_map_of_mem hitem
    exact iff_of_false (by simp [running_listed hitem]) (hnone config hload item.name hname)

/-- A plugin that is configured and running. -/
def telegramPlugin : PluginRegister where
  id := "telegram"
  name := "Telegram"
  version := "0.1.0"
  description := "Telegram channel"
  consumes := ["channel.telegram.outbound"]
  produces := ["channel.telegram.inbound"]
  healthSubject := "plugin.telegram.health"
  consumedEventTypes := []
  producedEventTypes := []
  configSchema := none

def telegramYaml : Yaml :=
  configYaml ⟨Table.empty.insert "telegram" ⟨"seidrum-telegram", true, .empty⟩⟩

/-- The plugin is registered, and reported as not running. -/
theorem status_true_false :
    ¬∀ (yaml : YamlFormat (Option Yaml)) (error : String) (plugins : PluginTable)
      (file : PluginsFile (Option Yaml)), StatusTrue yaml error plugins file := by
  intro hall
  have htrue := hall ⟨id, some, fun _ ↦ rfl⟩ "missing field `query_type`"
    (registerPlugin ∅ telegramPlugin) (.text (some telegramYaml))
  have hkeys : (loadPluginsConfig ⟨id, some, fun _ ↦ rfl⟩ (.text (some telegramYaml))).map
      (fun config ↦ config.plugins.keys) = some ["telegram"] := by
    decide +kernel
  obtain ⟨config, hload, hconfig⟩ := Option.map_eq_some_iff.mp hkeys
  have hname : "telegram" ∈ config.plugins.keys := hconfig ▸ List.mem_singleton_self _
  exact htrue.not_mem hload hname (by decide)

end Seidrum.Kernel
