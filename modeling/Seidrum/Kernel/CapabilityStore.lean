import Seidrum.Kernel.DatabaseClient
import Seidrum.Kernel.Facts
import Seidrum.Kernel.ToolRegistry

/-!
# Capabilities in the database

The registry keeps its capabilities in memory and in the database.  A registration is stored before it is
cached, a deregistration is dropped from memory before it is removed from the database, and what the
database answers to the removal is only logged.  A restart loads the first batch of what is stored.  So
it yields what was cached as long as removals are made, what is stored is cached and fits in a batch, and
an update leaves what it was given.
-/

namespace Seidrum.Kernel

open EventBus (Value)
open Foundation

/-! ## Documents -/

def textOr (doc : Value) (field default : String) : String :=
  ((doc.get field).bind Value.asStr).getD default

/-- The entry of a document; one without a tool id is passed over. -/
def loadEntry (doc : Value) : Option ToolEntry :=
  let toolId := textOr doc "tool_id" ""
  if toolId = "" then none
  else some {
    toolId := toolId
    pluginId := textOr doc "plugin_id" ""
    name := textOr doc "name" ""
    summaryMd := textOr doc "summary_md" ""
    manualMd := textOr doc "manual_md" ""
    parameters := (doc.get "parameters").getD (.object [])
    callSubject := textOr doc "call_subject" ""
    kind := textOr doc "kind" "tool" }

def loadFromDb (docs : List Value) (tools : ToolTable) : ToolTable :=
  docs.foldl (fun tools doc ↦ ((loadEntry doc).map tools.insert).getD tools) tools

def fieldsOf : Value → List (String × Value)
  | .object fields => fields
  | _ => []

/-- How the database updates an attribute that has a value: objects are merged, a text is replaced. -/
structure AttributeUpdate where
  merge : Value → Value → Value
  merge_text : ∀ old text, merge old (.string text) = .string text

/-- A document after an update by another one. -/
def AttributeUpdate.document (update : AttributeUpdate) (old doc : Value) : Value :=
  .object ((fieldsOf doc).map (fun field ↦
      (field.1, ((old.get field.1).map (update.merge · field.2)).getD field.2)) ++
    (fieldsOf old).filter fun field ↦ (doc.get field.1).isNone)

theorem find?_map_fields (change : String × Value → Value) (fields : List (String × Value))
    (name : String) :
    (fields.map fun field ↦ (field.1, change field)).find? (fun field ↦ field.1 = name) =
      (fields.find? fun field ↦ field.1 = name).map fun field ↦ (field.1, change field) :=
  List.find?_map ..

variable {doc : Value} {entry : ToolEntry}

theorem AttributeUpdate.get_document (update : AttributeUpdate) (old : Value) {new : Value} {name : String}
    (h : doc.get name = some new) :
    (update.document old doc).get name = some (((old.get name).map (update.merge · new)).getD new) := by
  cases doc with
  | object fields =>
    obtain ⟨field, hfield, rfl⟩ := Option.map_eq_some_iff.mp h
    have hname : field.1 = name := by simpa using List.find?_some hfield
    unfold document
    rw [Value.get, fieldsOf, List.find?_append, find?_map_fields, hfield, ← hname]
    rfl
  | _ => cases h

/-- The documents of the capabilities by their tool ids. -/
abbrev CapabilityDocs := AList fun _ : String ↦ Value

namespace CapabilityDocs

def upsert (update : AttributeUpdate) (docs : CapabilityDocs) (entry : ToolEntry) : CapabilityDocs :=
  docs.insert entry.toolId (match docs.lookup entry.toolId with
    | some old => update.document old entry.toValue
    | none => entry.toValue)

/-- The keys of the documents that a plugin owns. -/
def ownedBy (docs : CapabilityDocs) (pluginId : String) : List String :=
  (docs.entries.filter fun entry ↦ (entry.2.get "plugin_id").bind Value.asStr = some pluginId).map (·.1)

def removeOwned (docs : CapabilityDocs) (pluginId : String) : CapabilityDocs :=
  (docs.ownedBy pluginId).foldl (fun docs toolId ↦ docs.erase toolId) docs

def load (docs : CapabilityDocs) : ToolTable := loadFromDb (batch (docs.entries.map (·.2))) .empty

end CapabilityDocs

/-- The document stands for the entry. -/
def Describes (doc : Value) (entry : ToolEntry) : Prop :=
  ∀ name value, entry.toValue.get name = some value → doc.get name = some value

theorem describes_toValue (entry : ToolEntry) : Describes entry.toValue entry := fun _ _ h ↦ h

/-- A document that is updated stands for the new entry, with its parameters merged. -/
theorem describes_update (update : AttributeUpdate) {old : Value} {oldEntry : ToolEntry}
    (hold : Describes old oldEntry) (entry : ToolEntry) :
    Describes (update.document old entry.toValue)
      { entry with parameters := update.merge oldEntry.parameters entry.parameters } := by
  have htext (name old' new : String) (hname : oldEntry.toValue.get name = some (.string old'))
      (hnew : entry.toValue.get name = some (.string new)) :
      (update.document old entry.toValue).get name = some (.string new) := by
    rw [update.get_document old hnew, hold name _ hname]
    simp [update.merge_text]
  have hparameters : (update.document old entry.toValue).get "parameters" =
      some (update.merge oldEntry.parameters entry.parameters) := by
    rw [update.get_document old (show entry.toValue.get "parameters" = some entry.parameters from rfl),
      hold "parameters" oldEntry.parameters rfl]
    rfl
  intro name value h
  obtain ⟨field, hfield, rfl⟩ := Option.map_eq_some_iff.mp h
  obtain rfl : field.1 = name := by simpa using List.find?_some hfield
  have hmem := List.mem_of_find?_eq_some hfield
  simp only [List.mem_cons, List.not_mem_nil, or_false] at hmem
  rcases hmem with rfl | rfl | rfl | rfl | rfl | rfl | rfl | rfl
  · exact htext "tool_id" _ _ rfl rfl
  · exact htext "plugin_id" _ _ rfl rfl
  · exact htext "name" _ _ rfl rfl
  · exact htext "summary_md" _ _ rfl rfl
  · exact htext "manual_md" _ _ rfl rfl
  · exact hparameters
  · exact htext "call_subject" _ _ rfl rfl
  · exact htext "kind" _ _ rfl rfl

theorem loadEntry_of_describes (h : Describes doc entry) :
    loadEntry doc = if entry.toolId = "" then none else some entry := by
  have htext (name default text : String) (hname : entry.toValue.get name = some (.string text)) :
      textOr doc name default = text := by
    rw [textOr, h name _ hname]
    rfl
  have hparameters : doc.get "parameters" = some entry.parameters := h _ _ rfl
  unfold loadEntry
  rw [htext "tool_id" _ _ rfl, htext "plugin_id" _ _ rfl, htext "name" _ _ rfl,
    htext "summary_md" _ _ rfl, htext "manual_md" _ _ rfl, htext "call_subject" _ _ rfl,
    htext "kind" _ _ rfl, hparameters]
  rfl

theorem plugin_of_describes (h : Describes doc entry) :
    doc.get "plugin_id" = some (.string entry.pluginId) := h _ _ rfl

namespace CapabilityDocs

/-- Every document stands for an entry with the tool id of its key, and all of them fit in a batch. -/
structure Keyed (docs : CapabilityDocs) : Prop where
  stands : ∀ toolId, ∀ doc ∈ docs.lookup toolId, ∃ entry, Describes doc entry ∧ entry.toolId = toolId
  fits : docs.keys.length ≤ firstBatch

/-- The documents still fit in a batch when there is one with the key. -/
def RoomFor (docs : CapabilityDocs) (toolId : String) : Prop :=
  toolId ∈ docs ∨ docs.keys.length < firstBatch

theorem describe_loadFromDb {entries : List (Sigma fun _ : String ↦ Value)} (hnodup : entries.NodupKeys)
    (hkeyed : ∀ stored ∈ entries, ∀ entry ∈ loadEntry stored.2, entry.toolId = stored.1)
    (tools : ToolTable) (toolId : String) :
    (loadFromDb (entries.map (·.2)) tools).describe toolId =
      ((entries.dlookup toolId).bind loadEntry).or (tools.describe toolId) := by
  induction entries generalizing tools with
  | nil => rfl
  | cons stored rest ih =>
    obtain ⟨key, doc⟩ := stored
    obtain ⟨hfresh, hnodup⟩ := List.nodupKeys_cons.mp hnodup
    rw [List.map_cons, loadFromDb, List.foldl_cons]
    refine (ih hnodup (fun stored hmem ↦ hkeyed stored (List.mem_cons_of_mem _ hmem)) _).trans ?_
    have hentry := hkeyed _ List.mem_cons_self
    by_cases hsame : toolId = key
    · subst hsame
      rw [List.dlookup_eq_none.mpr hfresh, List.dlookup_cons_eq]
      cases hload : loadEntry doc with
      | none => simp [hload]
      | some entry =>
        have hid : toolId = entry.toolId := (hentry entry hload).symm
        simp [hload, ToolTable.describe_insert, ← hid]
    · rw [List.dlookup_cons_ne _ _ hsame]
      congr 1
      cases hload : loadEntry doc with
      | none => rfl
      | some entry =>
        have hother : toolId ≠ entry.toolId := fun h ↦ hsame (h.trans (hentry entry hload))
        simp [ToolTable.describe_insert, hother]

variable {docs : CapabilityDocs}

theorem describe_load (hkeyed : docs.Keyed) (toolId : String) :
    docs.load.describe toolId = (docs.lookup toolId).bind loadEntry := by
  have hbatch : batch (docs.entries.map (·.2)) = docs.entries.map (·.2) :=
    batch_eq_self (by simpa [AList.keys, List.keys] using hkeyed.fits)
  rw [load, hbatch]
  refine (describe_loadFromDb docs.nodupKeys ?_ .empty toolId).trans ?_
  · intro stored hmem entry hload
    obtain ⟨described, hdescribes, hkey⟩ := hkeyed.stands stored.1 stored.2 (List.mem_dlookup docs.nodupKeys hmem)
    rw [loadEntry_of_describes hdescribes] at hload
    split at hload
    · cases hload
    · rw [← Option.some.inj hload, hkey]
  · rw [ToolTable.describe_empty, Option.or_none]
    rfl

theorem describe_load_empty (hkeyed : docs.Keyed) : docs.load.describe "" = none := by
  rw [describe_load hkeyed]
  cases hdoc : docs.lookup "" with
  | none => rfl
  | some doc =>
    obtain ⟨entry, hdescribes, hempty⟩ := hkeyed.stands "" doc hdoc
    rw [Option.bind_some, loadEntry_of_describes hdescribes, if_pos hempty]

theorem mem_ownedBy {pluginId toolId : String} :
    toolId ∈ docs.ownedBy pluginId ↔
      ∃ doc ∈ docs.lookup toolId, (doc.get "plugin_id").bind Value.asStr = some pluginId := by
  constructor
  · intro h
    obtain ⟨stored, hmem, rfl⟩ := List.mem_map.mp h
    obtain ⟨hstored, howner⟩ := List.mem_filter.mp hmem
    exact ⟨stored.2, AList.mem_lookup_iff.mpr hstored, of_decide_eq_true howner⟩
  · rintro ⟨doc, hdoc, howner⟩
    exact List.mem_map.mpr ⟨⟨toolId, doc⟩, List.mem_filter.mpr
      ⟨AList.mem_lookup_iff.mp hdoc, decide_eq_true howner⟩, rfl⟩

theorem lookup_foldl_erase (removed : List String) (docs : CapabilityDocs) (toolId : String) :
    (removed.foldl (fun docs toolId ↦ AList.erase toolId docs) docs).lookup toolId =
      if toolId ∈ removed then none else docs.lookup toolId := by
  induction removed generalizing docs with
  | nil => rfl
  | cons first rest ih =>
    rw [List.foldl_cons, ih]
    by_cases hfirst : toolId = first
    · subst hfirst
      simp
    · simp [hfirst, AList.lookup_erase_ne hfirst]

theorem length_keys_foldl_erase (removed : List String) (docs : CapabilityDocs) :
    (removed.foldl (fun docs toolId ↦ AList.erase toolId docs) docs).keys.length ≤ docs.keys.length := by
  induction removed generalizing docs with
  | nil => exact le_rfl
  | cons first rest ih =>
    refine (ih (docs.erase first)).trans ?_
    rw [AList.keys_erase]
    exact List.length_erase_le

/-- The documents of other plugins stay. -/
theorem bind_lookup_removeOwned (hkeyed : docs.Keyed) (pluginId toolId : String) :
    ((docs.removeOwned pluginId).lookup toolId).bind loadEntry =
      ((docs.lookup toolId).bind loadEntry).filter fun entry ↦ entry.pluginId ≠ pluginId := by
  rw [removeOwned, lookup_foldl_erase]
  cases hdoc : docs.lookup toolId with
  | none => simp
  | some doc =>
    obtain ⟨entry, hdescribes, -⟩ := hkeyed.stands toolId doc hdoc
    have howned : toolId ∈ docs.ownedBy pluginId ↔ entry.pluginId = pluginId := by
      rw [mem_ownedBy, hdoc]
      simp [plugin_of_describes hdescribes, Value.asStr]
    rw [if_congr howned rfl rfl, Option.bind_some, loadEntry_of_describes hdescribes]
    by_cases hempty : entry.toolId = ""
    · simp [hempty, loadEntry_of_describes hdescribes]
    · by_cases howner : entry.pluginId = pluginId
      · simp [hempty, howner, Option.filter]
      · simp [hempty, howner, loadEntry_of_describes hdescribes, Option.filter]

/-- An entry with its parameters merged into those that are loaded for its tool id. -/
def merged (update : AttributeUpdate) (loaded : Option ToolEntry) (entry : ToolEntry) : ToolEntry :=
  { entry with parameters :=
      (loaded.map fun old ↦ update.merge old.parameters entry.parameters).getD entry.parameters }

variable (update : AttributeUpdate) {docs : CapabilityDocs} {entry : ToolEntry}

theorem merged_eq_iff {loaded : Option ToolEntry} : merged update loaded entry = entry ↔
    ∀ old ∈ loaded, update.merge old.parameters entry.parameters = entry.parameters := by
  cases loaded with
  | none => simp [merged]
  | some old =>
    obtain ⟨toolId, pluginId, name, summaryMd, manualMd, parameters, callSubject, kind⟩ := entry
    simp [merged]

theorem exists_lookup_upsert (hkeyed : docs.Keyed) (hid : entry.toolId ≠ "") :
    ∃ doc, (docs.upsert update entry).lookup entry.toolId = some doc ∧
      Describes doc (merged update (docs.load.describe entry.toolId) entry) := by
  rw [describe_load hkeyed, upsert, AList.lookup_insert]
  cases hold : docs.lookup entry.toolId with
  | none => exact ⟨_, rfl, describes_toValue entry⟩
  | some old =>
    obtain ⟨oldEntry, hdescribes, hkey⟩ := hkeyed.stands entry.toolId old hold
    rw [Option.bind_some, loadEntry_of_describes hdescribes, hkey, if_neg hid]
    exact ⟨_, rfl, describes_update update hdescribes entry⟩

theorem keyed_upsert (hkeyed : docs.Keyed) (hroom : docs.RoomFor entry.toolId) :
    (docs.upsert update entry).Keyed := by
  constructor
  · intro toolId doc hdoc
    by_cases hid : toolId = entry.toolId
    · rw [hid, upsert, AList.lookup_insert] at hdoc
      cases hdoc
      cases hold : docs.lookup entry.toolId with
      | none => exact ⟨entry, describes_toValue entry, hid.symm⟩
      | some old =>
        obtain ⟨oldEntry, hdescribes, -⟩ := hkeyed.stands entry.toolId old hold
        exact ⟨_, describes_update update hdescribes entry, hid.symm⟩
    · rw [upsert, AList.lookup_insert_ne hid] at hdoc
      exact hkeyed.stands toolId doc hdoc
  · rw [upsert, AList.keys_insert, List.length_cons]
    by_cases hmem : entry.toolId ∈ docs.keys
    · rw [List.length_erase_add_one hmem]
      exact hkeyed.fits
    · rw [List.erase_of_not_mem hmem]
      exact hroom.resolve_left fun h ↦ hmem (AList.mem_keys.mp h)

/-- What is loaded after a registration is stored. -/
theorem describe_load_upsert (hkeyed : docs.Keyed) (hroom : docs.RoomFor entry.toolId)
    (toolId : String) :
    (docs.upsert update entry).load.describe toolId =
      if toolId = entry.toolId then
        if entry.toolId = "" then none
        else some (merged update (docs.load.describe entry.toolId) entry)
      else docs.load.describe toolId := by
  rw [describe_load (keyed_upsert update hkeyed hroom), describe_load hkeyed toolId]
  split
  next hid =>
    subst hid
    split
    next hempty =>
      obtain ⟨doc, hdoc⟩ : ∃ doc, (docs.upsert update entry).lookup entry.toolId = some doc :=
        ⟨_, AList.lookup_insert docs⟩
      obtain ⟨stored, hdescribes, hkey⟩ := (keyed_upsert update hkeyed hroom).stands _ doc hdoc
      rw [hdoc, Option.bind_some, loadEntry_of_describes hdescribes, hkey, if_pos hempty]
    next hid =>
      obtain ⟨doc, hdoc, hdescribes⟩ := exists_lookup_upsert update hkeyed hid
      rw [hdoc, Option.bind_some, loadEntry_of_describes hdescribes]
      exact if_neg hid
  next hid => rw [upsert, AList.lookup_insert_ne hid]

theorem keyed_removeOwned (hkeyed : docs.Keyed) (pluginId : String) :
    (docs.removeOwned pluginId).Keyed := by
  constructor
  · intro toolId doc hdoc
    rw [removeOwned, lookup_foldl_erase] at hdoc
    split at hdoc
    · cases hdoc
    · exact hkeyed.stands toolId doc hdoc
  · exact (length_keys_foldl_erase _ docs).trans hkeyed.fits

theorem describe_load_removeOwned (hkeyed : docs.Keyed) (pluginId toolId : String) :
    (docs.removeOwned pluginId).load.describe toolId =
      (docs.load.describe toolId).filter fun entry ↦ entry.pluginId ≠ pluginId := by
  rw [describe_load (keyed_removeOwned hkeyed pluginId), describe_load hkeyed,
    bind_lookup_removeOwned hkeyed]

end CapabilityDocs

/-! ## The registry and its database -/

structure StoredRegistry where
  cache : ToolTable
  docs : CapabilityDocs

inductive CapabilityStep
  | register (payload : ToolRegisterPayload) (outcome : WriteOutcome)
  | deregister (pluginId : String) (outcome : WriteOutcome)
  /-- The service stops and starts again; the database may not answer. -/
  | restart (loaded : Bool)

namespace StoredRegistry

def init : StoredRegistry := ⟨.empty, ∅⟩

variable (update : AttributeUpdate)

def step : Steps StoredRegistry CapabilityStep
  | state, .register payload outcome => some {
      cache := (registerCapability state.cache payload (outcome = .applied)).1
      docs := if outcome.IsApplied then state.docs.upsert update payload.entry else state.docs }
  | state, .deregister pluginId outcome => some {
      cache := (deregisterByPlugin state.cache pluginId).1
      -- nothing is asked of the database if nothing was cached
      docs := if state.cache.ownedBy pluginId ≠ [] ∧ outcome.IsApplied then
        state.docs.removeOwned pluginId else state.docs }
  | state, .restart loaded => some {
      cache := if loaded then state.docs.load else .empty
      docs := state.docs }

/-- A restart would yield the capabilities that are cached. -/
def Reloads (state : StoredRegistry) : Prop :=
  ∀ toolId, state.docs.load.describe toolId = state.cache.describe toolId

/-- A load still finds every document after the step. -/
def RoomFor (state : StoredRegistry) : CapabilityStep → Prop
  | .register payload outcome => outcome.IsApplied → state.docs.RoomFor payload.toolId
  | _ => True

/-- The step leaves cache and database in step. -/
def Keeps (state : StoredRegistry) : CapabilityStep → Prop
  | .register payload .applied => payload.toolId ≠ "" ∧
      ∀ entry ∈ state.cache.describe payload.toolId,
        update.merge entry.parameters payload.parameters = payload.parameters
  | .register payload (.unacknowledged _) => payload.toolId = "" ∨
      ∃ entry ∈ state.cache.describe payload.toolId,
        entry = { payload.entry with parameters := update.merge entry.parameters payload.parameters }
  | .register _ (.refused _) => True
  | .deregister pluginId outcome => state.cache.ownedBy pluginId = [] ∨ outcome.IsApplied
  | .restart loaded => loaded ∨ ∀ toolId, state.cache.describe toolId = none

variable {update : AttributeUpdate} {state next : StoredRegistry} {label : CapabilityStep}

theorem keyed_step (hkeyed : state.docs.Keyed) (hroom : state.RoomFor label)
    (hstep : step update state label = some next) : next.docs.Keyed := by
  cases label with
  | register payload outcome =>
    cases hstep
    dsimp only
    split
    · exact CapabilityDocs.keyed_upsert update hkeyed (hroom ‹_›)
    · exact hkeyed
  | deregister pluginId outcome =>
    cases hstep
    dsimp only
    split
    · exact CapabilityDocs.keyed_removeOwned hkeyed pluginId
    · exact hkeyed
  | restart loaded =>
    cases hstep
    exact hkeyed

theorem reloads_register_iff (hkeyed : state.docs.Keyed) (hreloads : state.Reloads)
    (payload : ToolRegisterPayload) (outcome : WriteOutcome)
    (hroom : state.RoomFor (.register payload outcome))
    (hstep : step update state (.register payload outcome) = some next) :
    next.Reloads ↔ Keeps update state (.register payload outcome) := by
  cases hstep
  have hload (happlied : outcome.IsApplied) (toolId : String) : (state.docs.upsert update payload.entry).load.describe toolId =
      if toolId = payload.toolId then
        if payload.toolId = "" then none
        else some (CapabilityDocs.merged update (state.cache.describe payload.toolId) payload.entry)
      else state.cache.describe toolId := by
    rw [CapabilityDocs.describe_load_upsert update hkeyed (hroom happlied), hreloads, hreloads]
    rfl
  -- only the tool that is registered can differ
  have hdiffer (happlied : outcome.IsApplied) (cached : Option ToolEntry) (describe : String → Option ToolEntry)
      (hdescribe : ∀ toolId, describe toolId =
        if toolId = payload.toolId then cached else state.cache.describe toolId) :
      (∀ toolId, (state.docs.upsert update payload.entry).load.describe toolId = describe toolId) ↔
        (if payload.toolId = "" then none else some (CapabilityDocs.merged update
          (state.cache.describe payload.toolId) payload.entry)) = cached := by
    simp only [hload happlied, hdescribe]
    constructor
    · intro h
      simpa only [if_true] using h payload.toolId
    · intro h toolId
      split
      · exact h
      · rfl
  cases outcome with
  | refused error => exact iff_of_true hreloads trivial
  | applied =>
    refine (hdiffer trivial (some payload.entry) _ fun toolId ↦ ?_).trans ?_
    · rw [describe_registerCapability]
      simp
    · by_cases hempty : payload.toolId = ""
      · simp [Keeps, hempty]
      · rw [if_neg hempty, Option.some.injEq, CapabilityDocs.merged_eq_iff]
        exact (and_iff_right hempty).symm
  | unacknowledged error =>
    refine (hdiffer trivial (state.cache.describe payload.toolId) _ fun toolId ↦ ?_).trans ?_
    · rw [describe_registerCapability]
      by_cases hid : toolId = payload.toolId <;> simp [hid]
    · by_cases hempty : payload.toolId = ""
      · rw [if_pos hempty, hempty, ← hreloads, CapabilityDocs.describe_load_empty hkeyed]
        exact iff_of_true rfl (.inl hempty)
      · rw [if_neg hempty]
        cases hcached : state.cache.describe payload.toolId with
        | none => simp [Keeps, hempty, hcached]
        | some entry =>
          simp only [Keeps, hempty, hcached, false_or, Option.mem_def, Option.some.injEq,
            exists_eq_left']
          exact eq_comm

theorem reloads_deregister_iff (hkeyed : state.docs.Keyed) (hreloads : state.Reloads)
    (pluginId : String) (outcome : WriteOutcome)
    (hstep : step update state (.deregister pluginId outcome) = some next) :
    next.Reloads ↔ Keeps update state (.deregister pluginId outcome) := by
  cases hstep
  have hcache (toolId : String) := describe_deregisterByPlugin state.cache pluginId toolId
  by_cases howned : state.cache.ownedBy pluginId = []
  · -- neither side changes
    refine iff_of_true (fun toolId ↦ ?_) (.inl howned)
    simp only [howned, ne_eq, not_true_eq_false, false_and, if_false]
    rw [hcache, hreloads]
    have hnot : toolId ∉ state.cache.ownedBy pluginId := by simp [howned]
    cases hentry : state.cache.describe toolId with
    | none => rfl
    | some entry =>
      have howner : entry.pluginId ≠ pluginId := fun howner ↦
        hnot (ToolTable.mem_ownedBy.mpr ⟨entry, hentry, howner⟩)
      simp [Option.filter, howner]
  · by_cases happlied : outcome.IsApplied
    · refine iff_of_true (fun toolId ↦ ?_) (.inr happlied)
      simp only [howned, happlied, ne_eq, not_false_eq_true, and_self, if_true]
      rw [CapabilityDocs.describe_load_removeOwned hkeyed, hcache, hreloads]
    · refine iff_of_false (fun hnext ↦ ?_) (not_or.mpr ⟨howned, happlied⟩)
      obtain ⟨toolId, hmem⟩ := List.exists_mem_of_ne_nil _ howned
      obtain ⟨entry, hentry, howner⟩ := ToolTable.mem_ownedBy.mp hmem
      have hback := hnext toolId
      simp only [happlied, and_false, if_false] at hback
      rw [hcache, hreloads, hentry] at hback
      simp [Option.filter, howner] at hback

theorem reloads_restart_iff (hreloads : state.Reloads) (loaded : Bool)
    (hstep : step update state (.restart loaded) = some next) :
    next.Reloads ↔ Keeps update state (.restart loaded) := by
  cases hstep
  cases loaded with
  | true => exact iff_of_true (fun _ ↦ rfl) (.inl rfl)
  | false =>
    have hempty : (∀ toolId, state.docs.load.describe toolId = none) ↔
        ∀ toolId, state.cache.describe toolId = none :=
      forall_congr' fun toolId ↦ by rw [hreloads toolId]
    simpa [Reloads, Keeps] using hempty

theorem reloads_step_iff (hkeyed : state.docs.Keyed) (hreloads : state.Reloads)
    (hroom : state.RoomFor label) (hstep : step update state label = some next) : next.Reloads ↔ Keeps update state label := by
  cases label with
  | register payload outcome => exact reloads_register_iff hkeyed hreloads payload outcome hroom hstep
  | deregister pluginId outcome => exact reloads_deregister_iff hkeyed hreloads pluginId outcome hstep
  | restart loaded => exact reloads_restart_iff hreloads loaded hstep

/-- An update that merges the fields of objects. -/
def mergeFields : AttributeUpdate where
  merge
    | .object old, .object new =>
        .object (new ++ old.filter fun field ↦ ((Value.object new).get field.1).isNone)
    | _, new => new
  merge_text old text := by cases old <;> rfl

def weatherTool : ToolRegisterPayload where
  toolId := "weather"
  pluginId := "weather-plugin"
  name := "Weather"
  summaryMd := "The weather of a place."
  manualMd := ""
  parameters := .object []
  callSubject := "capability.call.weather"
  kind := defaultKind

def weatherState : StoredRegistry :=
  ⟨(registerCapability .empty weatherTool true).1, (∅ : CapabilityDocs).upsert mergeFields weatherTool.entry⟩

end StoredRegistry

end Seidrum.Kernel
