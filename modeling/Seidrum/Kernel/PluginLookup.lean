import Seidrum.Kernel.EventPatterns
import Seidrum.Kernel.PublishOrder

/-!
# Consumers and producers of an event type

The registry lists the plugins that consume or produce an event type by comparing the type with the
subjects they declare.  Plugins declare patterns, and subscribe to them: a plugin that declares a pattern
with a wildcard is reached by events for which the registry does not list it.
-/

namespace Seidrum.Kernel

open EventBus Foundation

/-- The plugins that declare the event type among some of their subjects. -/
def declaring (declared : PluginRegister → List String) (plugins : PluginTable) (eventType : String) :
    List String :=
  (plugins.entries.filter fun plugin ↦ eventType ∈ declared plugin.2).map fun plugin ↦ plugin.2.id

def getConsumers (plugins : PluginTable) (eventType : String) : List String :=
  declaring PluginRegister.consumes plugins eventType

def getProducers (plugins : PluginTable) (eventType : String) : List String :=
  declaring PluginRegister.produces plugins eventType

/-- The registry after some messages. -/
def registered (messages : List RegistryMessage) : PluginTable :=
  messages.foldl Registries.handlePlugin ∅

def subscriptionTo (pattern : String) : SubscriptionEntry where
  id := "plugin"
  subjectPattern := pattern
  priority := 0
  mode := .async
  channel := .inProcess
  timeout := 0
  filter := none

/-- The list names each of the registered plugins once of which a declared subject, subscribed to beside
other subscriptions, receives events on the subject. -/
def ListsReached (declared : PluginRegister → List String) (plugins : PluginTable) (ops : List IndexOp)
    (eventType : String) (listed : List String) : Prop :=
  listed.Nodup ∧ ∀ pluginId, pluginId ∈ listed ↔
    ∃ plugin ∈ plugins.lookup pluginId, ∃ pattern ∈ declared plugin,
      Receives ops (subscriptionTo pattern) eventType

/-- No token is a wildcard. -/
def Concrete (subject : String) : Prop := "*" ∉ tokens subject ∧ ">" ∉ tokens subject

instance : DecidablePred Concrete := fun _ ↦ inferInstanceAs (Decidable (_ ∧ _))

/-- A pattern with a wildcard that the bus accepts stands for the event type. -/
def WildlyReached (declared : List String) (eventType : String) : Prop :=
  ∃ pattern ∈ declared, ¬Concrete pattern ∧ validatePattern (tokens pattern) = .ok () ∧
    patternMatches (tokens pattern) (tokens eventType) = true

/-- A plugin that declares the event type itself declares it so that the bus accepts it, or is reached by
a wildcard too; other plugins are not reached by a wildcard. -/
def DeclaresReached (declared : List String) (eventType : String) : Prop :=
  if eventType ∈ declared then
    validatePattern (tokens eventType) = .ok () ∨ WildlyReached declared eventType
  else ¬WildlyReached declared eventType

section

variable {plugins : PluginTable} {eventType : String} {declared : PluginRegister → List String}

/-- A pattern that stands for a concrete event type is the type itself or has a wildcard. -/
theorem reached_iff (hconcrete : Concrete eventType) (subjects : List String) :
    (∃ pattern ∈ subjects, validatePattern (tokens pattern) = .ok () ∧
      patternMatches (tokens pattern) (tokens eventType) = true) ↔
    (eventType ∈ subjects ∧ validatePattern (tokens eventType) = .ok ()) ∨
      WildlyReached subjects eventType := by
  constructor
  · rintro ⟨pattern, hmem, hvalid, hmatches⟩
    by_cases hpattern : Concrete pattern
    · have hsame := eq_of_matches_literal hpattern.1 hpattern.2 hmatches
      obtain rfl := tokens_injective hsame
      exact .inl ⟨hmem, hvalid⟩
    · exact .inr ⟨pattern, hmem, hpattern, hvalid, hmatches⟩
  · rintro (⟨hmem, hvalid⟩ | ⟨pattern, hmem, -, hvalid, hmatches⟩)
    · refine ⟨eventType, hmem, hvalid, (patternMatches_all hconcrete.2 _).mpr ?_⟩
      exact List.forall₂_same.mpr fun _ _ ↦ .inr rfl
    · exact ⟨pattern, hmem, hvalid, hmatches⟩

theorem declaresReached_iff (hconcrete : Concrete eventType) (subjects : List String) :
    (eventType ∈ subjects ↔ ∃ pattern ∈ subjects, validatePattern (tokens pattern) = .ok () ∧
      patternMatches (tokens pattern) (tokens eventType) = true) ↔
    DeclaresReached subjects eventType := by
  rw [reached_iff hconcrete, DeclaresReached]
  split_ifs with hmem
  all_goals simp [hmem]

/-- Every plugin is registered under its own id. -/
theorem id_of_registered {messages : List RegistryMessage} {pluginId : String} {plugin : PluginRegister}
    (h : (registered messages).lookup pluginId = some plugin) : plugin.id = pluginId := by
  unfold registered at h
  induction messages using List.reverseRecOn with
  | nil => cases h
  | append_singleton messages message ih =>
    rw [List.foldl_concat] at h
    cases message with
    | register registration =>
      by_cases hid : pluginId = registration.id
      · rw [hid, Registries.handlePlugin, registerPlugin, AList.lookup_insert] at h
        rw [← Option.some.inj h, hid]
      · rw [Registries.handlePlugin, registerPlugin, AList.lookup_insert_ne hid] at h
        exact ih h
    | deregister other =>
      by_cases hid : pluginId = other
      · rw [hid, Registries.handlePlugin, deregisterPlugin, AList.lookup_erase] at h
        cases h
      · rw [Registries.handlePlugin, deregisterPlugin, AList.lookup_erase_ne hid] at h
        exact ih h
    | capability payload => exact ih h

theorem mem_declaring_iff (messages : List RegistryMessage) (pluginId : String) :
    pluginId ∈ declaring declared (registered messages) eventType ↔
      ∃ plugin ∈ (registered messages).lookup pluginId, eventType ∈ declared plugin := by
  simp only [declaring, List.mem_map, List.mem_filter, decide_eq_true_eq]
  constructor
  · rintro ⟨⟨key, plugin⟩, ⟨hmem, hdeclares⟩, rfl⟩
    have hlookup : (registered messages).lookup key = some plugin := AList.mem_lookup_iff.mpr hmem
    exact ⟨plugin, id_of_registered hlookup ▸ hlookup, hdeclares⟩
  · rintro ⟨plugin, hlookup, hdeclares⟩
    exact ⟨⟨pluginId, plugin⟩, ⟨AList.mem_lookup_iff.mp hlookup, hdeclares⟩, id_of_registered hlookup⟩

theorem nodup_declaring (messages : List RegistryMessage) :
    (declaring declared (registered messages) eventType).Nodup := by
  have hids : (registered messages).entries.map (fun plugin ↦ plugin.2.id) =
      (registered messages).entries.map Sigma.fst :=
    List.map_congr_left fun plugin hmem ↦ id_of_registered (AList.mem_lookup_iff.mpr hmem)
  have hnodup : ((registered messages).entries.map fun plugin ↦ plugin.2.id).Nodup := by
    rw [hids]
    exact (registered messages).nodupKeys
  exact hnodup.sublist (List.filter_sublist.map _)

theorem listsReached_declaring_iff (messages : List RegistryMessage) (ops : List IndexOp)
    (hconcrete : Concrete eventType) :
    ListsReached declared (registered messages) ops eventType
        (declaring declared (registered messages) eventType) ↔
      ∀ pluginId, ∀ plugin ∈ (registered messages).lookup pluginId,
        DeclaresReached (declared plugin) eventType := by
  rw [ListsReached, and_iff_right (nodup_declaring messages)]
  refine forall_congr' fun pluginId ↦ ?_
  rw [mem_declaring_iff]
  cases hlookup : (registered messages).lookup pluginId with
  | none => simp
  | some plugin =>
    simp only [Option.mem_some_iff, exists_eq_left', forall_eq', receives_iff, subscriptionTo]
    exact declaresReached_iff hconcrete (declared plugin)

end

/-- Whatever was registered and deregistered before, and whatever else is subscribed: the lookups agree
with delivery exactly if every plugin that declares a wildcard by which it is reached also declares the
event type itself, and the bus accepts that where no wildcard reaches. -/
theorem lookups_reached_iff (messages : List RegistryMessage) (ops : List IndexOp) (eventType : String)
    (hconcrete : Concrete eventType) :
    (ListsReached PluginRegister.consumes (registered messages) ops eventType
        (getConsumers (registered messages) eventType) ↔
      ∀ pluginId, ∀ plugin ∈ (registered messages).lookup pluginId,
        DeclaresReached plugin.consumes eventType) ∧
    (ListsReached PluginRegister.produces (registered messages) ops eventType
        (getProducers (registered messages) eventType) ↔
      ∀ pluginId, ∀ plugin ∈ (registered messages).lookup pluginId,
        DeclaresReached plugin.produces eventType) :=
  ⟨listsReached_declaring_iff messages ops hconcrete, listsReached_declaring_iff messages ops hconcrete⟩

/-- The plugin that loads the context of inbound messages. -/
def graphContextLoader (consumes : List String) : PluginRegister where
  id := "graph-context-loader"
  name := "Graph Context Loader"
  version := "0.1.0"
  description := "Loads graph context for incoming messages"
  consumes := consumes
  produces := ["agent.context.loaded"]
  healthSubject := "plugin.graph-context-loader.health"
  consumedEventTypes := []
  producedEventTypes := []
  configSchema := none

theorem registered_singleton {registration plugin : PluginRegister} {pluginId : String}
    (h : plugin ∈ (registered [.register registration]).lookup pluginId) : plugin = registration := by
  have hid := id_of_registered h
  by_cases hsame : pluginId = registration.id
  · rw [hsame] at h
    exact (Option.some.inj ((AList.lookup_insert ∅).symm.trans h)).symm
  · have hnone : (registered [.register registration]).lookup pluginId = none :=
      (AList.lookup_insert_ne hsame).trans (AList.lookup_empty pluginId)
    rw [hnone] at h
    cases h

/-- A plugin that declares the event type itself. -/
theorem lookups_reached_iff_telegram :
    ListsReached PluginRegister.consumes
      (registered [.register (graphContextLoader ["channel.telegram.inbound"])]) []
      "channel.telegram.inbound"
      (getConsumers (registered [.register (graphContextLoader ["channel.telegram.inbound"])])
        "channel.telegram.inbound") := by
  refine (lookups_reached_iff _ [] _ (by decide)).1.mpr fun pluginId plugin hplugin ↦ ?_
  have hdeclared : "channel.telegram.inbound" ∈
      (graphContextLoader ["channel.telegram.inbound"]).consumes := List.mem_cons_self
  rw [registered_singleton hplugin, DeclaresReached, if_pos hdeclared]
  exact .inl (by decide)

/-- The context loader receives inbound messages of every channel, and is listed for none. -/
theorem lookups_reached_false :
    Concrete "channel.telegram.inbound" ∧
      ¬ListsReached PluginRegister.consumes
        (registered [.register (graphContextLoader ["channel.*.inbound"])]) []
        "channel.telegram.inbound"
        (getConsumers (registered [.register (graphContextLoader ["channel.*.inbound"])])
          "channel.telegram.inbound") := by
  refine ⟨by decide, fun h ↦ ?_⟩
  have hreached : Receives [] (subscriptionTo "channel.*.inbound") "channel.telegram.inbound" :=
    (receives_iff [] _ _).mpr ⟨by decide, by decide⟩
  have hlisted := (h.2 "graph-context-loader").mpr
    ⟨graphContextLoader ["channel.*.inbound"], AList.lookup_insert ∅, _, List.mem_cons_self, hreached⟩
  exact absurd hlisted (by decide)

end Seidrum.Kernel
