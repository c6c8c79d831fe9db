import Mathlib.Data.List.AList
import Seidrum.Kernel.Events

/-!
# The capability registry

The kernel keeps the registered capabilities in memory by their tool ids.  A registration replaces
the entry of its tool, whoever owned it; the deregistration of a plugin removes the tools it owns.
-/

namespace Seidrum.Kernel

open EventBus (Value)

/-- In-memory representation of a registered capability. -/
structure ToolEntry where
  toolId : String
  pluginId : String
  name : String
  summaryMd : String
  manualMd : String
  parameters : Value
  callSubject : String
  kind : String

def defaultKind : String := "tool"

/-- Registration payload received on `capability.register`. -/
structure ToolRegisterPayload where
  toolId : String
  pluginId : String
  name : String
  summaryMd : String
  manualMd : String
  parameters : Value
  callSubject : String
  kind : String

def ToolRegisterPayload.fromValue (value : Value) : Option ToolRegisterPayload := do
  let toolId ← (← value.get "tool_id").asStr
  let pluginId ← (← value.get "plugin_id").asStr
  let name ← (← value.get "name").asStr
  let summaryMd ← (← value.get "summary_md").asStr
  let manualMd ← (← value.get "manual_md").asStr
  let parameters ← value.get "parameters"
  let callSubject ← (← value.get "call_subject").asStr
  let kind ← match value.get "kind" with
    | some kind => kind.asStr
    | none => some defaultKind
  return { toolId, pluginId, name, summaryMd, manualMd, parameters, callSubject, kind }

def ToolRegisterPayload.entry (payload : ToolRegisterPayload) : ToolEntry where
  toolId := payload.toolId
  pluginId := payload.pluginId
  name := payload.name
  summaryMd := payload.summaryMd
  manualMd := payload.manualMd
  parameters := payload.parameters
  callSubject := payload.callSubject
  kind := payload.kind

/-- The entry as it is published. -/
def ToolEntry.toValue (entry : ToolEntry) : Value :=
  .object [
    ("tool_id", .string entry.toolId),
    ("plugin_id", .string entry.pluginId),
    ("name", .string entry.name),
    ("summary_md", .string entry.summaryMd),
    ("manual_md", .string entry.manualMd),
    ("parameters", entry.parameters),
    ("call_subject", .string entry.callSubject),
    ("kind", .string entry.kind)]

/-- The registered capabilities, each under its own tool id. -/
structure ToolTable where
  entries : AList fun _ : String ↦ ToolEntry
  keyed : ∀ toolId entry, entries.lookup toolId = some entry → entry.toolId = toolId

namespace ToolTable

def empty : ToolTable := ⟨∅, fun _ _ h ↦ by cases h⟩

/-- `handle_describe`: look up a capability by its id. -/
def describe (tools : ToolTable) (toolId : String) : Option ToolEntry := tools.entries.lookup toolId

@[simp]
theorem describe_empty (toolId : String) : empty.describe toolId = none := rfl

theorem toolId_of_describe {tools : ToolTable} {toolId : String} {entry : ToolEntry}
    (h : tools.describe toolId = some entry) : entry.toolId = toolId :=
  tools.keyed toolId entry h

def insert (tools : ToolTable) (entry : ToolEntry) : ToolTable where
  entries := tools.entries.insert entry.toolId entry
  keyed toolId other h := by
    by_cases hid : toolId = entry.toolId
    · subst hid
      rw [AList.lookup_insert] at h
      rw [Option.some.inj h]
    · rw [AList.lookup_insert_ne hid] at h
      exact tools.keyed toolId other h

theorem describe_insert (tools : ToolTable) (entry : ToolEntry) (toolId : String) :
    (tools.insert entry).describe toolId =
      if toolId = entry.toolId then some entry else tools.describe toolId := by
  split_ifs with hid
  · subst hid
    exact AList.lookup_insert tools.entries
  · exact AList.lookup_insert_ne hid

def remove (tools : ToolTable) (toolId : String) : ToolTable where
  entries := tools.entries.erase toolId
  keyed other entry h := by
    by_cases hid : other = toolId
    · subst hid
      rw [AList.lookup_erase] at h
      cases h
    · rw [AList.lookup_erase_ne hid] at h
      exact tools.keyed other entry h

theorem describe_remove (tools : ToolTable) (removed toolId : String) :
    (tools.remove removed).describe toolId =
      if toolId = removed then none else tools.describe toolId := by
  split_ifs with hid
  · subst hid
    exact AList.lookup_erase toolId tools.entries
  · exact AList.lookup_erase_ne hid

theorem describe_foldl_remove (removed : List String) (tools : ToolTable) (toolId : String) :
    (removed.foldl remove tools).describe toolId =
      if toolId ∈ removed then none else tools.describe toolId := by
  induction removed generalizing tools with
  | nil => rfl
  | cons first rest ih =>
    rw [List.foldl_cons, ih, describe_remove]
    by_cases hfirst : toolId = first
    all_goals simp [hfirst]

/-- The ids of the tools a plugin owns. -/
def ownedBy (tools : ToolTable) (pluginId : String) : List String :=
  (tools.entries.entries.filter fun entry ↦ entry.2.pluginId = pluginId).map fun entry ↦ entry.2.toolId

theorem mem_ownedBy {tools : ToolTable} {pluginId toolId : String} :
    toolId ∈ tools.ownedBy pluginId ↔
      ∃ entry, tools.describe toolId = some entry ∧ entry.pluginId = pluginId := by
  constructor
  · intro h
    obtain ⟨⟨key, entry⟩, hmem, rfl⟩ := List.mem_map.mp h
    obtain ⟨hentry, howner⟩ := List.mem_filter.mp hmem
    have hlookup : tools.entries.lookup key = some entry := AList.mem_lookup_iff.mpr hentry
    have hkey : entry.toolId = key := tools.keyed key entry hlookup
    refine ⟨entry, ?_, of_decide_eq_true howner⟩
    exact hkey.symm ▸ hlookup
  · rintro ⟨entry, hentry, howner⟩
    apply List.mem_map.mpr
    refine ⟨⟨toolId, entry⟩, ?_, tools.toolId_of_describe hentry⟩
    exact List.mem_filter.mpr ⟨AList.mem_lookup_iff.mp hentry, decide_eq_true howner⟩

end ToolTable

/-- A message for the bus. -/
structure Notice where
  subject : String
  payload : Value

/-- `register_capability`: persist, cache in memory, publish the entry.  Nothing happens if the
database does not take it. -/
def registerCapability (tools : ToolTable) (payload : ToolRegisterPayload) (stored : Bool) :
    ToolTable × List Notice :=
  if stored then
    (tools.insert payload.entry, [⟨"capability.registered", payload.entry.toValue⟩])
  else (tools, [])

/-- `deregister_by_plugin`: remove all capabilities of a plugin and publish their ids.  What the
database answers is only logged. -/
def deregisterByPlugin (tools : ToolTable) (pluginId : String) : ToolTable × List Notice :=
  let toolIds := tools.ownedBy pluginId
  (toolIds.foldl ToolTable.remove tools, toolIds.map fun toolId ↦
    ⟨"capability.deregistered",
      .object [("plugin_id", .string pluginId), ("tool_id", .string toolId)]⟩)

theorem describe_registerCapability (tools : ToolTable) (payload : ToolRegisterPayload)
    (stored : Bool) (toolId : String) :
    (registerCapability tools payload stored).1.describe toolId =
      if stored = true ∧ toolId = payload.toolId then some payload.entry
      else tools.describe toolId := by
  unfold registerCapability
  cases stored with
  | true =>
    rw [if_pos rfl, ToolTable.describe_insert]
    simp only [true_and]
    rfl
  | false => simp

theorem describe_deregisterByPlugin (tools : ToolTable) (pluginId toolId : String) :
    (deregisterByPlugin tools pluginId).1.describe toolId =
      (tools.describe toolId).filter fun entry ↦ entry.pluginId ≠ pluginId := by
  unfold deregisterByPlugin
  rw [ToolTable.describe_foldl_remove]
  split_ifs with howned
  · obtain ⟨entry, hentry, howner⟩ := ToolTable.mem_ownedBy.mp howned
    simp [Option.filter, hentry, howner]
  · cases hentry : tools.describe toolId with
    | none => rfl
    | some entry =>
      have hother : entry.pluginId ≠ pluginId := fun howner ↦
        howned (ToolTable.mem_ownedBy.mpr ⟨entry, hentry, howner⟩)
      simp [Option.filter, hother]

end Seidrum.Kernel
