import Seidrum.Kernel.PluginsConfig

/-!
# Operations on the plugins file

Six operations of two programs read the plugins file, change it and write it.  Each names some entries;
what the daemon loads afterwards has the other entries unchanged unless the operation writes through the
types of the kernel, which have no packages, through a generic value, which changes some scalars and keys,
or in place of a file that it could not read.
-/

namespace Seidrum.Daemon

open Foundation Yaml

inductive PluginsOp
  | kernelSetEnabled (name : String) (enabled : Bool)
  | setEnabled (name : String) (enabled : Bool)
  | applyPreset (preset : Kernel.Preset) (includeRecommended : Bool)
  | installBundle (plugins : List Kernel.BundledPlugin)
  | install (names : List String)
  | uninstall (name : String)

section

variable {Text : Type*} (yaml : YamlFormat Text)

/-- The operation when its writes succeed; one that fails lets it report no success. -/
def PluginsOp.run (file : PluginsFile Text) : PluginsOp → PluginsResult Text
  | kernelSetEnabled name enabled => Kernel.setPluginEnabled yaml name enabled true file
  | setEnabled name enabled => Daemon.setEnabled yaml name enabled true file
  | applyPreset preset includeRecommended => Kernel.applyPreset yaml preset includeRecommended true true file
  | installBundle plugins => Kernel.installBundle yaml plugins true file
  | install names => addPlugins yaml names [] file
  | uninstall name => removePluginFromConfig yaml name true file

/-- The plugins a preset names. -/
def presetNames (preset : Kernel.Preset) (includeRecommended : Bool) : List String :=
  preset.required ++ (if includeRecommended then preset.recommended else []) ++
    preset.llmProvider.toList

/-- The entries are the same but for the binary. -/
def PluginEntry.SameBut (entry other : PluginEntry) : Prop :=
  entry.enabled = other.enabled ∧ entry.env = other.env ∧ entry.package = other.package

/-- An entry is unchanged unless the operation names it; then only what the operation is about may have
changed. -/
def PluginsOp.Keeps (name : String) (entry : PluginEntry) (after : Option PluginEntry) :
    PluginsOp → Prop
  | kernelSetEnabled named enabled | setEnabled named enabled =>
      after = some (if name = named then { entry with enabled := enabled } else entry)
  | applyPreset preset includeRecommended =>
      after = some (if name ∈ presetNames preset includeRecommended then { entry with enabled := true }
        else entry)
  | installBundle _ => after = some entry
  | install names =>
      if name ∈ names then ∃ installed, after = some installed ∧ installed.SameBut entry
      else after = some entry
  | uninstall named => name = named ∨ after = some entry

/-- If the operation succeeds, the file can be loaded afterwards and keeps the entries. -/
def PluginsOp.KeepsAll (op : PluginsOp) (content : Text) (config : PluginsConfig) : Prop :=
  (op.run yaml (.text content)).1 = .ok () →
    ∃ after, loadPluginsConfig yaml (op.run yaml (.text content)).2 = some after ∧
      ∀ name entry, config.plugins.get name = some entry → op.Keeps name entry (after.plugins.get name)

/-- What the daemon can load is kept, and a file that cannot be parsed is left alone. -/
def PluginsOp.Intact (op : PluginsOp) (file : PluginsFile Text) : Prop :=
  match file with
  | .missing => True
  | .unreadable => (op.run yaml file).2 = file
  | .text content =>
      match yaml.parse content with
      | none => (op.run yaml file).2 = file
      | some doc => ∀ config, configOf doc = some config → op.KeepsAll yaml content config

/-- No plugin comes from a package. -/
def Unpackaged (config : PluginsConfig) : Prop :=
  ∀ name entry, config.plugins.get name = some entry → entry.package = none

/-- The entries of a generic value, if it has any. -/
def entriesOf : Yaml → List (Scalar × Yaml)
  | mapping root =>
      match root.lookup pluginsKey with
      | some (mapping entries) => entries
      | _ => []
  | _ => []

/-- The entries of the document read as a generic value; there are none if it cannot be. -/
def valueEntries (doc : Yaml) : List (Scalar × Yaml) := (generic doc).elim [] entriesOf

/-- The entry that counts for a name, as the daemon reads it. -/
def entryAt (entries : List (Scalar × Yaml)) (name : String) : Option PluginEntry :=
  (lastOf name entries).bind fun entry ↦ entryOf entry.2

/-- The entry of the string does not count, because that of another key of the same text stands behind
it. -/
def Shadowed (name : String) (entries : List (Scalar × Yaml)) : Prop :=
  .ofString name ∈ entries.map Prod.fst ∧ ∃ last ∈ lastOf name entries, last.1 ≠ .ofString name

instance (name : String) (entries : List (Scalar × Yaml)) : Decidable (Shadowed name entries) :=
  inferInstanceAs (Decidable (_ ∧ _))

/-- The entries of the file, but those of the names, are read the same from entries of a generic value,
all of which can be read. -/
def OthersReread (names : List String) (entries : List (Scalar × Yaml)) (config : PluginsConfig) : Prop :=
  (∀ entry ∈ entries, (∀ name ∈ names, entry.1 ≠ .ofString name) → (entryOf entry.2).isSome) ∧
    ∀ name entry, config.plugins.get name = some entry → name ∉ names → entryAt entries name = some entry

/-- What counts for a plugin that has been added. -/
def addedEntry (entries : List (Scalar × Yaml)) (name : String) : Option PluginEntry :=
  if Shadowed name entries then entryAt entries name else some ⟨name, false, .empty, none⟩

/-- An entry may be replaced if what counts afterwards is the same but for the binary. -/
def Replaceable (entries : List (Scalar × Yaml)) (name : String) (entry : PluginEntry) : Prop :=
  ∃ added, addedEntry entries name = some added ∧ added.SameBut entry

/-- The entries are given by a mapping and not left blank. -/
def PluginsGiven (doc : Yaml) : Prop :=
  ∃ root entries, doc = mapping root ∧ field "plugins" root = some (some (mapping entries))

/-- The condition for a file that the daemon can load. -/
def PluginsOp.Spares (doc : Yaml) (config : PluginsConfig) : PluginsOp → Prop
  | kernelSetEnabled name _ => config.plugins.get name = none ∨ Unpackaged config
  | setEnabled _ _ => True
  | applyPreset _ _ => Unpackaged config
  | installBundle plugins =>
      (∀ plugin ∈ plugins, config.plugins.get plugin.name ≠ none) ∨ Unpackaged config
  | install names =>
      names = [] ∨ OthersReread names (valueEntries doc) config ∧
        ∀ name ∈ names, ∀ entry, config.plugins.get name = some entry →
          Replaceable (valueEntries doc) name entry
  | uninstall name =>
      -- the last entry takes the place of the one that is removed
      generic doc = none ∨ PluginsGiven doc ∧
        OthersReread [name] (swapRemove (.ofString name) (valueEntries doc)) config

/-- The operation does not write in place of a file that it could not parse. -/
def PluginsOp.LeavesUnparsed : PluginsOp → Prop
  | applyPreset _ _ => False
  | installBundle plugins => plugins = []
  | install names => names = []
  | _ => True

/-- The operation does not write in place of a file that is no text. -/
def PluginsOp.LeavesUnreadable : PluginsOp → Prop
  | applyPreset _ _ => False
  | installBundle plugins => plugins = []
  | _ => True

def PluginsOp.Safe (op : PluginsOp) (file : PluginsFile Text) : Prop :=
  match file with
  | .missing => True
  | .unreadable => op.LeavesUnreadable
  | .text content =>
      match yaml.parse content with
      | none => op.LeavesUnparsed
      | some doc => ∀ config, configOf doc = some config → op.Spares doc config

/-- A generic value that has the entries. -/
def Holding (entries : List (Scalar × Yaml)) (doc : Yaml) : Prop :=
  ∃ root, doc = mapping root ∧ doc.IsGeneric ∧ (pluginsKey, mapping entries) ∈ root

section Holding

variable {entries : List (Scalar × Yaml)} {doc : Yaml} {config : PluginsConfig}

theorem exists_of_configOf (h : configOf doc = some config) :
    ∃ root node, doc = mapping root ∧ field "plugins" root = some (some node) ∧
      readTable entryOf node = some config.plugins := by
  simp only [configOf, Option.bind_eq_bind, Option.bind_eq_some_iff, Option.pure_def,
    Option.some_inj, required] at h
  obtain ⟨fields, hfields, plugins, ⟨found, hfield, hread⟩, rfl⟩ := h
  obtain ⟨node, rfl, hnode⟩ := hread
  unfold readFields at hfields
  split at hfields
  · cases hfields
    exact ⟨_, node, rfl, hfield, hnode⟩
  · cases hfields
    cases hfield
  · cases hfields

variable {root : List (Scalar × Yaml)}

theorem configOf_eq_of_field {node : Yaml} (h : field "plugins" root = some (some node)) :
    configOf (mapping root) = (readTable entryOf node).map PluginsConfig.mk := by
  cases hread : readTable entryOf node <;> simp [configOf, readFields, required, h, hread]

theorem isWord_plugins : Scalar.IsWord "plugins" := by
  intro kind hfits
  cases kind with
  | string => rfl
  | null => exact absurd hfits (by simp [ScalarKind.Fits])
  | bool value => exact absurd hfits (by cases value <;> simp [ScalarKind.Fits])
  | number printed => exact absurd hfits.1 (by decide +kernel)
  | wide => exact absurd hfits (by unfold ScalarKind.Fits; decide +kernel)

/-- The document can be loaded exactly if every entry can be read, and then it has the entries that
count. -/
theorem configOf_of_holding (h : Holding entries doc) :
    ((configOf doc).isSome ↔ ∀ entry ∈ entries, (entryOf entry.2).isSome) ∧
      ∀ config, configOf doc = some config → ∀ name, config.plugins.get name = entryAt entries name := by
  obtain ⟨root, rfl, hgeneric, hplugins⟩ := h
  obtain ⟨hroot, -⟩ := isGeneric_mapping.mp hgeneric
  rw [configOf_eq_of_field (field_of_mem isWord_plugins hroot hplugins), Option.isSome_map]
  refine ⟨readEntries_isSome_iff, fun config hconfig name ↦ ?_⟩
  obtain ⟨table, htable, rfl⟩ := Option.map_eq_some_iff.mp hconfig
  exact get_readTable htable name

theorem isGeneric_installedEntry (binary : String) : (installedEntry binary).IsGeneric :=
  isGeneric_ofFields (by simp) (by simp [isGeneric_ofString, isGeneric_ofBool])

theorem entryOf_installedEntry (binary : String) :
    entryOf (installedEntry binary) = some ⟨binary, false, .empty, none⟩ := by
  simp [entryOf, installedEntry, required, defaulted, field]

theorem isGeneric_setEntry {key : Scalar} {value : Yaml} (h : (mapping entries).IsGeneric)
    (hkey : key.generic = some key) (hvalue : value.IsGeneric) :
    (mapping (setEntry key value entries)).IsGeneric := by
  obtain ⟨hnodup, hentries⟩ := isGeneric_mapping.mp h
  refine isGeneric_mapping.mpr ⟨nodup_setEntry hnodup, fun entry hmem ↦ ?_⟩
  rcases (mem_setEntry hnodup).mp hmem with rfl | ⟨hold, -⟩
  · exact ⟨hkey, hvalue⟩
  · exact hentries entry hold

/-- Replacing the entries of a generic value. -/
theorem holding_setPlugins (hroot : (mapping root).IsGeneric) (hentries : (mapping entries).IsGeneric) :
    Holding entries (mapping (setEntry pluginsKey (mapping entries) root)) :=
  ⟨_, rfl, isGeneric_setEntry hroot rfl hentries,
    (mem_setEntry (isGeneric_mapping.mp hroot).1).mpr (.inl rfl)⟩

theorem Holding.isGeneric (h : Holding entries doc) : doc.IsGeneric ∧ (mapping entries).IsGeneric := by
  obtain ⟨root, rfl, hgeneric, hplugins⟩ := h
  exact ⟨hgeneric, ((isGeneric_mapping.mp hgeneric).2 _ hplugins).2⟩

theorem withPlugin_of_holding (h : Holding entries doc) (name : String) :
    ∃ doc', withPlugin name name doc = .ok doc' ∧
      Holding (setEntry (.ofString name) (installedEntry name) entries) doc' := by
  have hentries := h.isGeneric.2
  obtain ⟨root, rfl, hgeneric, hplugins⟩ := h
  refine ⟨_, ?_, holding_setPlugins hgeneric
    (isGeneric_setEntry hentries rfl (isGeneric_installedEntry name))⟩
  rw [withPlugin, lookup_of_mem (isGeneric_mapping.mp hgeneric).1 hplugins]
  rfl

theorem withPlugin_nil (name : String) :
    ∃ doc', withPlugin name name (mapping []) = .ok doc' ∧
      Holding (setEntry (.ofString name) (installedEntry name) []) doc' :=
  ⟨_, rfl, holding_setPlugins rfl (isGeneric_setEntry rfl rfl (isGeneric_installedEntry name))⟩

theorem withoutPlugin_of_holding (h : Holding entries doc) (name : String) :
    Holding (swapRemove (.ofString name) entries) (withoutPlugin name doc) := by
  obtain ⟨hnodup, hnodes⟩ := isGeneric_mapping.mp h.isGeneric.2
  obtain ⟨root, rfl, hgeneric, hplugins⟩ := h
  rw [withoutPlugin, lookup_of_mem (isGeneric_mapping.mp hgeneric).1 hplugins]
  refine holding_setPlugins hgeneric (isGeneric_mapping.mpr ⟨nodup_swapRemove hnodup, fun entry hmem ↦ ?_⟩)
  exact hnodes entry ((mem_swapRemove hnodup).mp hmem).1

/-- The value of a document that the daemon can load has entries, or a null for a blank. -/
theorem holding_of_configOf {value : Yaml} (hconfig : configOf doc = some config)
    (hvalue : generic doc = some value) :
    PluginsGiven doc ∧ Holding (valueEntries doc) value ∨
      ¬PluginsGiven doc ∧ config.plugins = .empty ∧ valueEntries doc = [] ∧ value.IsGeneric ∧
        ∃ root blank, value = mapping root ∧ (pluginsKey, scalar blank) ∈ root ∧ blank.text = "null" := by
  obtain ⟨root, node, rfl, hfield, hread⟩ := exists_of_configOf hconfig
  obtain ⟨root', hroot', hnodup, rfl⟩ := generic_mapping_eq_some_iff.mp hvalue
  obtain ⟨node', hnode', hmem⟩ : ∃ node', generic node = some node' ∧ (pluginsKey, node') ∈ root' :=
    field_generic isWord_plugins hroot' hfield
  have hgeneric := generic_generic hvalue
  have hentries : valueEntries (mapping root) = entriesOf (mapping root') := by rw [valueEntries, hvalue]; rfl
  rw [entriesOf, lookup_of_mem hnodup hmem] at hentries
  unfold readTable at hread
  split at hread
  · obtain ⟨entries', -, -, rfl⟩ := generic_mapping_eq_some_iff.mp hnode'
    rw [hentries]
    exact .inl ⟨⟨root, _, rfl, hfield⟩, root', rfl, hgeneric, hmem⟩
  · obtain rfl := Option.some.inj hnode'
    refine .inr ⟨?_, (Option.some.inj hread).symm, hentries, hgeneric, root', _, rfl, hmem, rfl⟩
    rintro ⟨_, _, heq, hmapping⟩
    obtain rfl := mapping.inj heq
    cases hfield.symm.trans hmapping
  · cases hread

end Holding

/-! ## Packages -/

section Packages

variable {entries : List (Scalar × Yaml)} {doc : Yaml} {config : PluginsConfig} {content : Text}

theorem load_print (h : doc.IsGeneric) :
    loadPluginsConfig yaml (.text (yaml.print doc)) = configOf doc := by
  rw [loadPluginsConfig, yaml.parse_print h]
  rfl

/-- The entries when plugins have been added. -/
def withPlugins (names : List String) (entries : List (Scalar × Yaml)) : List (Scalar × Yaml) :=
  names.foldl (fun entries name ↦ setEntry (.ofString name) (installedEntry name) entries) entries

theorem filter_withPlugins (names : List String) (name : String) :
    (withPlugins names entries).filter (fun entry ↦ entry.1.text = name) =
      if name ∈ names then
        setEntry (.ofString name) (installedEntry name) (entries.filter fun entry ↦ entry.1.text = name)
      else entries.filter fun entry ↦ entry.1.text = name := by
  induction names generalizing entries with
  | nil => simp [withPlugins]
  | cons first rest ih =>
    rw [withPlugins, List.foldl_cons, ← withPlugins, ih, filter_setEntry, Scalar.text_ofString]
    by_cases hfirst : first = name
    · subst hfirst
      simp [setEntry_setEntry]
    · simp [hfirst, Ne.symm hfirst]

/-- All can be read when plugins have been added exactly if those that were not replaced can. -/
theorem readable_withPlugins_iff (hnodup : (entries.map Prod.fst).Nodup) (names : List String) :
    (∀ entry ∈ withPlugins names entries, (entryOf entry.2).isSome) ↔
      ∀ entry ∈ entries, (∀ name ∈ names, entry.1 ≠ .ofString name) → (entryOf entry.2).isSome := by
  induction names generalizing entries with
  | nil => simp [withPlugins]
  | cons first rest ih =>
    rw [withPlugins, List.foldl_cons, ← withPlugins, ih (nodup_setEntry hnodup)]
    constructor
    · intro h entry hmem hnames
      obtain ⟨hfirst, hrest⟩ := List.forall_mem_cons.mp hnames
      exact h entry ((mem_setEntry hnodup).mpr (.inr ⟨hmem, hfirst⟩)) hrest
    · intro h entry hmem hrest
      rcases (mem_setEntry hnodup).mp hmem with rfl | ⟨hold, hfirst⟩
      · rw [entryOf_installedEntry]
        rfl
      · exact h entry hold (List.forall_mem_cons.mpr ⟨hfirst, hrest⟩)

section

variable {names : List String} {name : String}

theorem entryAt_of_not_mem (hname : name ∉ names) :
    entryAt (withPlugins names entries) name = entryAt entries name := by
  rw [entryAt, lastOf, filter_withPlugins, if_neg hname]
  rfl

/-- The entry that counts for a plugin that was added. -/
theorem entryAt_of_mem (hnodup : (entries.map Prod.fst).Nodup) (hname : name ∈ names) :
    entryAt (withPlugins names entries) name = addedEntry entries name := by
  have hmem : .ofString name ∈ (entries.filter fun entry ↦ entry.1.text = name).map Prod.fst ↔
      .ofString name ∈ entries.map Prod.fst := by
    refine ⟨fun h ↦ (List.filter_sublist.map Prod.fst).subset h, fun h ↦ ?_⟩
    obtain ⟨entry, hentry, heq⟩ := List.mem_map.mp h
    refine List.mem_map.mpr ⟨entry, List.mem_filter.mpr ⟨hentry, decide_eq_true ?_⟩, heq⟩
    rw [heq, Scalar.text_ofString]
  have hlast : (setEntry (.ofString name) (installedEntry name)
      (entries.filter fun entry ↦ entry.1.text = name)).getLast? = _ :=
    getLast?_setEntry (hnodup.sublist (List.filter_sublist.map Prod.fst))
  simp only [hmem] at hlast
  rw [entryAt, lastOf, filter_withPlugins, if_pos hname, hlast, addedEntry]
  by_cases h : Shadowed name entries
  · rw [if_pos h]
    exact congrArg (Option.bind · _) (if_pos h)
  · rw [if_neg h, ← entryOf_installedEntry name]
    exact congrArg (Option.bind · _) (if_neg h)

end

/-- The first of the plugins is written, and the others are added to what was written. -/
theorem addPlugins_cons {name : String} {rest : List String} {doc' : Yaml}
    (h : withPlugin name name ((parseValue yaml content).getD (mapping [])) = .ok doc') :
    addPlugins yaml (name :: rest) [] (.text content) = addPlugins yaml rest [] (.text (yaml.print doc')) := by
  simp only [addPlugins, addPluginToConfig, h]
  rfl

/-- Adding plugins to a generic value, one after another. -/
theorem addPlugins_of_holding (names : List String) (h : Holding entries doc) :
    ∃ doc', addPlugins yaml names [] (.text (yaml.print doc)) = (.ok (), .text (yaml.print doc')) ∧
      Holding (withPlugins names entries) doc' := by
  induction names generalizing entries doc with
  | nil => exact ⟨doc, rfl, h⟩
  | cons name rest ih =>
    obtain ⟨doc', hwith, hdoc'⟩ := withPlugin_of_holding h name
    have hvalue : parseValue yaml (yaml.print doc) = some doc := by
      rw [parseValue, yaml.parse_print h.isGeneric.1]
      exact h.isGeneric.1
    rw [addPlugins_cons yaml (by rw [hvalue]; exact hwith)]
    exact ih hdoc'

theorem nodup_valueEntries (hconfig : configOf doc = some config) :
    ((valueEntries doc).map Prod.fst).Nodup := by
  cases hvalue : generic doc with
  | none =>
    rw [valueEntries, hvalue]
    exact List.nodup_nil
  | some value =>
    rcases holding_of_configOf hconfig hvalue with ⟨-, h⟩ | ⟨-, -, h, -⟩
    · exact (isGeneric_mapping.mp h.isGeneric.2).1
    · rw [h]
      exact List.nodup_nil

/-- The first plugin is added to the entries that were read, unless they were left blank. -/
theorem withPlugin_of_configOf (hparse : yaml.parse content = some doc)
    (hconfig : configOf doc = some config) (name : String) :
    (∃ doc', withPlugin name name ((parseValue yaml content).getD (mapping [])) = .ok doc' ∧
      Holding (setEntry (.ofString name) (installedEntry name) (valueEntries doc)) doc') ∨
      config.plugins = .empty ∧ valueEntries doc = [] ∧
        ∃ error, withPlugin name name ((parseValue yaml content).getD (mapping [])) = .error error := by
  have hparsed : parseValue yaml content = generic doc := by
    rw [parseValue, hparse]
    rfl
  rw [hparsed]
  cases hvalue : generic doc with
  | none =>
    have hentries : valueEntries doc = [] := by rw [valueEntries, hvalue]; rfl
    rw [hentries]
    exact .inl (withPlugin_nil name)
  | some value =>
    rcases holding_of_configOf hconfig hvalue with ⟨-, h⟩ | ⟨-, hempty, hentries, hgeneric, root, blank, rfl, hmem, -⟩
    · exact .inl (withPlugin_of_holding h name)
    · refine .inr ⟨hempty, hentries, .message "plugins key is not a mapping", ?_⟩
      rw [Option.getD_some, withPlugin, lookup_of_mem (isGeneric_mapping.mp hgeneric).1 hmem]
      rfl

/-- What is left when plugins have been added to a file that the daemon can load. -/
theorem addPlugins_result (hparse : yaml.parse content = some doc) (hconfig : configOf doc = some config)
    {names : List String} (hnames : names ≠ []) :
    (∃ final, addPlugins yaml names [] (.text content) = (.ok (), .text (yaml.print final)) ∧
      Holding (withPlugins names (valueEntries doc)) final) ∨
      config.plugins = .empty ∧ valueEntries doc = [] ∧
        (addPlugins yaml names [] (.text content)).1 ≠ .ok () := by
  obtain ⟨name, rest, rfl⟩ := List.exists_cons_of_ne_nil hnames
  rcases withPlugin_of_configOf yaml hparse hconfig name with ⟨doc', hwith, hdoc'⟩ |
    ⟨hempty, hentries, error, herror⟩
  · rw [addPlugins_cons yaml hwith]
    exact .inl (addPlugins_of_holding yaml rest hdoc')
  · refine .inr ⟨hempty, hentries, fun hok ↦ ?_⟩
    simp only [addPlugins, addPluginToConfig, herror] at hok
    cases hok

/-- What the daemon loads of a generic value that was written. -/
theorem keeps_iff_of_holding (op : PluginsOp) (config : PluginsConfig) (h : Holding entries doc) :
    (∃ after, loadPluginsConfig yaml (.text (yaml.print doc)) = some after ∧
      ∀ name entry, config.plugins.get name = some entry → op.Keeps name entry (after.plugins.get name)) ↔
      (∀ entry ∈ entries, (entryOf entry.2).isSome) ∧ ∀ name entry,
        config.plugins.get name = some entry → op.Keeps name entry (entryAt entries name) := by
  obtain ⟨hsome, hget⟩ := configOf_of_holding h
  rw [load_print yaml h.isGeneric.1, ← hsome]
  constructor
  · rintro ⟨after, hafter, hkeeps⟩
    refine ⟨Option.isSome_iff_exists.mpr ⟨after, hafter⟩, fun name entry hentry ↦ ?_⟩
    rw [← hget after hafter]
    exact hkeeps name entry hentry
  · rintro ⟨hloads, hkeeps⟩
    obtain ⟨after, hafter⟩ := Option.isSome_iff_exists.mp hloads
    refine ⟨after, hafter, fun name entry hentry ↦ ?_⟩
    rw [hget after hafter]
    exact hkeeps name entry hentry

/-- What is kept when plugins have been added. -/
theorem withPlugins_keeps_iff (hnodup : (entries.map Prod.fst).Nodup) (names : List String) :
    ((∀ entry ∈ withPlugins names entries, (entryOf entry.2).isSome) ∧
      ∀ name entry, config.plugins.get name = some entry →
        (PluginsOp.install names).Keeps name entry (entryAt (withPlugins names entries) name)) ↔
      OthersReread names entries config ∧ ∀ name ∈ names, ∀ entry,
        config.plugins.get name = some entry → Replaceable entries name entry := by
  rw [readable_withPlugins_iff hnodup, OthersReread, and_assoc]
  refine and_congr_right fun _ ↦ ⟨fun h ↦ ⟨fun name entry hentry hname ↦ ?_, fun name hname entry hentry ↦ ?_⟩,
    fun h name entry hentry ↦ ?_⟩
  · have hkept := h name entry hentry
    rwa [PluginsOp.Keeps, if_neg hname, entryAt_of_not_mem hname] at hkept
  · have hkept := h name entry hentry
    rwa [PluginsOp.Keeps, if_pos hname, entryAt_of_mem hnodup hname] at hkept
  · rw [PluginsOp.Keeps]
    split_ifs with hname
    · rw [entryAt_of_mem hnodup hname]
      exact h.2 name hname entry hentry
    · rw [entryAt_of_not_mem hname]
      exact h.1 name entry hentry hname

theorem keepsAll_iff_of_run {op : PluginsOp} {file : PluginsFile Text}
    (hrun : op.run yaml (.text content) = (.ok (), file)) :
    op.KeepsAll yaml content config ↔ ∃ after, loadPluginsConfig yaml file = some after ∧
      ∀ name entry, config.plugins.get name = some entry → op.Keeps name entry (after.plugins.get name) := by
  rw [PluginsOp.KeepsAll, hrun]
  exact forall_prop_of_true rfl

/-- An operation that writes what the daemon can load. -/
theorem keepsAll_iff_of_load {op : PluginsOp} {file : PluginsFile Text} {after : PluginsConfig}
    (hrun : op.run yaml (.text content) = (.ok (), file)) (hload : loadPluginsConfig yaml file = some after) :
    op.KeepsAll yaml content config ↔ ∀ name entry, config.plugins.get name = some entry →
      op.Keeps name entry (after.plugins.get name) := by
  rw [keepsAll_iff_of_run yaml hrun, hload]
  simp

theorem load_of_parse (hparse : yaml.parse content = some doc) (hconfig : configOf doc = some config) :
    loadPluginsConfig yaml (.text content) = some config := by
  rw [loadPluginsConfig, hparse]
  exact hconfig

/-- Installing a package keeps the entries of a file that the daemon can load exactly if it adds no
plugin, or the other entries survive as generic values and those it replaces are like new ones. -/
theorem keepsAll_install_iff (hparse : yaml.parse content = some doc)
    (hconfig : configOf doc = some config) (names : List String) :
    (PluginsOp.install names).KeepsAll yaml content config ↔
      (PluginsOp.install names).Spares doc config := by
  rw [PluginsOp.Spares]
  by_cases hnames : names = []
  · have hrun : (PluginsOp.install names).run yaml (.text content) = (.ok (), .text content) := by
      rw [PluginsOp.run, hnames, addPlugins]
    rw [keepsAll_iff_of_load yaml hrun (load_of_parse yaml hparse hconfig)]
    refine iff_of_true (fun name entry hentry ↦ ?_) (.inl hnames)
    rw [PluginsOp.Keeps, if_neg (by rw [hnames]; exact List.not_mem_nil)]
    exact hentry
  · rw [or_iff_right hnames, ← withPlugins_keeps_iff (nodup_valueEntries hconfig)]
    rcases addPlugins_result yaml hparse hconfig hnames with ⟨final, hrun, hfinal⟩ | ⟨hempty, hentries, hfails⟩
    · have hrun' : (PluginsOp.install names).run yaml (.text content) = _ := hrun
      rw [keepsAll_iff_of_run yaml hrun']
      exact keeps_iff_of_holding yaml (.install names) config hfinal
    · have hnil : (([] : List (Scalar × Yaml)).map Prod.fst).Nodup := List.nodup_nil
      rw [hentries, readable_withPlugins_iff hnil, hempty]
      refine iff_of_true (fun hok ↦ absurd hok hfails) ⟨fun _ hmem ↦ absurd hmem List.not_mem_nil, ?_⟩
      exact fun _ _ hentry ↦ by cases hentry

/-- What is kept when a plugin has been removed. -/
theorem withoutPlugin_keeps_iff (hnodup : (entries.map Prod.fst).Nodup) (name : String) :
    ((∀ entry ∈ swapRemove (.ofString name) entries, (entryOf entry.2).isSome) ∧
      ∀ other entry, config.plugins.get other = some entry →
        (PluginsOp.uninstall name).Keeps other entry
          (entryAt (swapRemove (.ofString name) entries) other)) ↔
      OthersReread [name] (swapRemove (.ofString name) entries) config := by
  have hkey : ∀ entry ∈ swapRemove (.ofString name) entries, ∀ other ∈ [name], entry.1 ≠ .ofString other := by
    intro entry hmem other hother
    rw [List.mem_singleton.mp hother]
    exact ((mem_swapRemove hnodup).mp hmem).2
  refine and_congr (forall₂_congr fun entry hmem ↦ ?_) (forall₃_congr fun other entry _ ↦ ?_)
  · exact ⟨fun h _ ↦ h, fun h ↦ h (hkey entry hmem)⟩
  · rw [PluginsOp.Keeps, List.mem_singleton]
    exact or_iff_not_imp_left

theorem keepsAll_uninstall_iff (hparse : yaml.parse content = some doc)
    (hconfig : configOf doc = some config) (name : String) :
    (PluginsOp.uninstall name).KeepsAll yaml content config ↔
      (PluginsOp.uninstall name).Spares doc config := by
  have hread : parseValue yaml content = generic doc := by
    rw [parseValue, hparse]
    rfl
  rw [PluginsOp.Spares]
  cases hvalue : generic doc with
  | none =>
    refine iff_of_true (fun hok ↦ ?_) (.inl rfl)
    rw [PluginsOp.run, removePluginFromConfig, hread, hvalue] at hok
    cases hok
  | some value =>
    have hrun : (PluginsOp.uninstall name).run yaml (.text content) =
        (.ok (), .text (yaml.print (withoutPlugin name value))) := by
      rw [PluginsOp.run, removePluginFromConfig, hread, hvalue]
      rfl
    rw [or_iff_right (Option.some_ne_none value), keepsAll_iff_of_run yaml hrun,
      ← withoutPlugin_keeps_iff (nodup_valueEntries hconfig)]
    rcases holding_of_configOf hconfig hvalue with ⟨hgiven, hholding⟩ |
      ⟨hblank, -, -, hgeneric, root, blank, rfl, hmem, htext⟩
    · rw [and_iff_right hgiven]
      exact keeps_iff_of_holding yaml (.uninstall name) config (withoutPlugin_of_holding hholding name)
    -- a blank is printed as a null, which is not read as a table
    · have hnodup := (isGeneric_mapping.mp hgeneric).1
      have hsame : withoutPlugin name (mapping root) = mapping root := by
        rw [withoutPlugin, lookup_of_mem hnodup hmem]
      refine iff_of_false ?_ fun h ↦ hblank h.1
      rintro ⟨after, hafter, -⟩
      rw [hsame, load_print yaml hgeneric, configOf_eq_of_field (field_of_mem isWord_plugins hnodup hmem)]
        at hafter
      obtain ⟨text, kind, fits⟩ := blank
      obtain rfl : text = "null" := htext
      cases hafter

end Packages

/-! ## Writing by types -/

section Types

variable {doc : Yaml} {config : PluginsConfig} {content : Text}

theorem kernelLoad_of_parse (hparse : yaml.parse content = some doc)
    (hconfig : configOf doc = some config) :
    Kernel.loadPluginsConfig yaml (.text content) =
      some ⟨config.plugins.mapValues Kernel.PluginEntry.ofDaemon⟩ := by
  obtain ⟨root, node, rfl, hfield, hread⟩ := exists_of_configOf hconfig
  have htable := readTable_map Kernel.entryOf_of_daemon hread
  rw [Kernel.loadPluginsConfig, hparse]
  simp [Kernel.configOf, readFields, required, hfield, htable]

theorem load_configYaml (config : PluginsConfig) :
    loadPluginsConfig yaml (.text (yaml.print (configYaml config))) = some config := by
  rw [load_print yaml (isGeneric_configYaml config), configOf_configYaml]

theorem load_kernelYaml (plugins : Table String Kernel.PluginEntry) :
    loadPluginsConfig yaml (.text (yaml.print (Kernel.configYaml ⟨plugins⟩))) =
      some ⟨plugins.mapValues Kernel.PluginEntry.toDaemon⟩ := by
  rw [Kernel.configYaml_eq, load_configYaml]

theorem toDaemon_eq_iff (entry : PluginEntry) (enabled : Bool) :
    Kernel.PluginEntry.toDaemon { Kernel.PluginEntry.ofDaemon entry with enabled := enabled } =
      { entry with enabled := enabled } ↔ entry.package = none := by
  rw [Kernel.PluginEntry.toDaemon, PluginEntry.mk.injEq]
  simp [Kernel.PluginEntry.ofDaemon, eq_comm]

/-- Entries that go through the kernel, some of them with another `enabled`, are kept exactly if there
are no packages. -/
theorem keepsAll_iff_of_kernel {op : PluginsOp} {plugins : Table String Kernel.PluginEntry}
    (hrun : op.run yaml (.text content) = (.ok (), .text (yaml.print (Kernel.configYaml ⟨plugins⟩))))
    (named : String → Prop) [DecidablePred named] (enabled : Bool)
    (hplugins : ∀ name entry, config.plugins.get name = some entry → plugins.get name =
      some (if named name then { Kernel.PluginEntry.ofDaemon entry with enabled := enabled }
        else Kernel.PluginEntry.ofDaemon entry))
    (hkeeps : ∀ name entry after, op.Keeps name entry after ↔
      after = some (if named name then { entry with enabled := enabled } else entry)) :
    op.KeepsAll yaml content config ↔ Unpackaged config := by
  rw [keepsAll_iff_of_load yaml hrun (load_kernelYaml yaml plugins)]
  refine forall₃_congr fun name entry hentry ↦ ?_
  rw [hkeeps, Table.get_mapValues, hplugins name entry hentry, Option.map_some, Option.some_inj]
  split_ifs
  · exact toDaemon_eq_iff entry enabled
  · exact toDaemon_eq_iff entry entry.enabled

/-- A preset that is applied writes what was loaded with the plugins enabled that it names. -/
theorem run_applyPreset (preset : Kernel.Preset) (includeRecommended : Bool) (file : PluginsFile Text) :
    (PluginsOp.applyPreset preset includeRecommended).run yaml file =
      (.ok (), .text (yaml.print (Kernel.configYaml
        ⟨(presetNames preset includeRecommended).foldl Kernel.enable (Kernel.loadOrEmpty yaml file).plugins⟩))) := by
  obtain ⟨required, recommended, provider⟩ := preset
  rw [presetNames, List.foldl_append, List.foldl_append]
  cases includeRecommended <;> cases provider <;> rfl

variable (hparse : yaml.parse content = some doc) (hconfig : configOf doc = some config)
include hparse hconfig

theorem keepsAll_setEnabled (name : String) (enabled : Bool) :
    (PluginsOp.setEnabled name enabled).KeepsAll yaml content config := by
  have hload := load_of_parse yaml hparse hconfig
  cases hentry : config.plugins.get name with
  | none =>
    intro hok
    simp only [PluginsOp.run, setEnabled, hload, hentry] at hok
    cases hok
  | some entry =>
    have hrun : (PluginsOp.setEnabled name enabled).run yaml (.text content) = (.ok (), .text (yaml.print
        (configYaml ⟨config.plugins.insert name { entry with enabled := enabled }⟩))) := by
      simp only [PluginsOp.run, setEnabled, hload, hentry]
      rfl
    refine (keepsAll_iff_of_load yaml hrun (load_configYaml yaml _)).mpr fun other kept hkept ↦ ?_
    rw [PluginsOp.Keeps, Table.get_insert]
    split_ifs with hother
    · rw [hother, hentry] at hkept
      rw [Option.some.inj hkept]
    · exact hkept

theorem keepsAll_kernelSetEnabled_iff (name : String) (enabled : Bool) :
    (PluginsOp.kernelSetEnabled name enabled).KeepsAll yaml content config ↔
      (PluginsOp.kernelSetEnabled name enabled).Spares doc config := by
  have hload := kernelLoad_of_parse yaml hparse hconfig
  rw [PluginsOp.Spares]
  cases hentry : config.plugins.get name with
  | none =>
    refine iff_of_true (fun hok ↦ ?_) (.inl rfl)
    simp only [PluginsOp.run, Kernel.setPluginEnabled, hload, Table.get_mapValues, hentry,
      Option.map_none] at hok
    cases hok
  | some entry =>
    rw [or_iff_right (Option.some_ne_none entry)]
    let plugins := (config.plugins.mapValues Kernel.PluginEntry.ofDaemon).insert name
      { Kernel.PluginEntry.ofDaemon entry with enabled := enabled }
    have hrun : (PluginsOp.kernelSetEnabled name enabled).run yaml (.text content) =
        (.ok (), .text (yaml.print (Kernel.configYaml ⟨plugins⟩))) := by
      simp only [PluginsOp.run, Kernel.setPluginEnabled, hload, Table.get_mapValues, hentry,
        Option.map_some]
      rfl
    refine keepsAll_iff_of_kernel yaml hrun (· = name) enabled (fun other kept hkept ↦ ?_) fun _ _ _ ↦ Iff.rfl
    rw [Table.get_insert, Table.get_mapValues, hkept]
    split_ifs with hother
    · rw [hother, hentry] at hkept
      rw [Option.some.inj hkept]
    · rfl

theorem loadOrEmpty_of_parse :
    Kernel.loadOrEmpty yaml (.text content) =
      ⟨config.plugins.mapValues Kernel.PluginEntry.ofDaemon⟩ := by
  rw [Kernel.loadOrEmpty, kernelLoad_of_parse yaml hparse hconfig]
  rfl

theorem keepsAll_applyPreset_iff (preset : Kernel.Preset) (includeRecommended : Bool) :
    (PluginsOp.applyPreset preset includeRecommended).KeepsAll yaml content config ↔
      (PluginsOp.applyPreset preset includeRecommended).Spares doc config := by
  refine keepsAll_iff_of_kernel yaml (run_applyPreset yaml preset includeRecommended _)
    (· ∈ presetNames preset includeRecommended) true (fun other kept hkept ↦ ?_) fun _ _ _ ↦ Iff.rfl
  rw [loadOrEmpty_of_parse yaml hparse hconfig, Kernel.get_foldl_enable, Table.get_mapValues, hkept]
  rfl

theorem keepsAll_installBundle_iff (plugins : List Kernel.BundledPlugin) :
    (PluginsOp.installBundle plugins).KeepsAll yaml content config ↔
      (PluginsOp.installBundle plugins).Spares doc config := by
  let added := plugins.foldl Kernel.addBundled (config.plugins.mapValues Kernel.PluginEntry.ofDaemon, [])
  have hnil : added.2 = [] ↔ ∀ plugin ∈ plugins, config.plugins.get plugin.name ≠ none := by
    refine (Kernel.foldl_addBundled_nil_iff rfl).trans (forall₂_congr fun plugin _ ↦ ?_)
    rw [Table.get_mapValues, ne_eq, Option.map_eq_none_iff]
  have hrun : (PluginsOp.installBundle plugins).run yaml (.text content) =
      if added.2 = [] then (.ok (), .text content)
      else (.ok (), .text (yaml.print (Kernel.configYaml ⟨added.1⟩))) := by
    rw [PluginsOp.run, Kernel.installBundle, loadOrEmpty_of_parse yaml hparse hconfig]
    rfl
  rw [PluginsOp.Spares, ← hnil]
  by_cases hempty : added.2 = []
  · rw [if_pos hempty] at hrun
    rw [keepsAll_iff_of_load yaml hrun (load_of_parse yaml hparse hconfig)]
    exact iff_of_true (fun _ _ h ↦ h) (.inl hempty)
  · rw [if_neg hempty] at hrun
    rw [or_iff_right hempty]
    refine keepsAll_iff_of_kernel yaml hrun (fun _ ↦ False) true (fun other kept hkept ↦ ?_) fun _ _ _ ↦ Iff.rfl
    apply Kernel.get_foldl_addBundled
    rw [Table.get_mapValues, hkept]
    rfl

theorem keepsAll_iff (op : PluginsOp) : op.KeepsAll yaml content config ↔ op.Spares doc config := by
  cases op with
  | kernelSetEnabled name enabled => exact keepsAll_kernelSetEnabled_iff yaml hparse hconfig name enabled
  | setEnabled name enabled =>
    exact iff_of_true (keepsAll_setEnabled yaml hparse hconfig name enabled) trivial
  | applyPreset preset includeRecommended =>
    exact keepsAll_applyPreset_iff yaml hparse hconfig preset includeRecommended
  | installBundle plugins => exact keepsAll_installBundle_iff yaml hparse hconfig plugins
  | install names => exact keepsAll_install_iff yaml hparse hconfig names
  | uninstall name => exact keepsAll_uninstall_iff yaml hparse hconfig name

end Types

section All

variable {content : Text} {file : PluginsFile Text}

theorem applyPreset_changes (hwritten : ∀ doc : Yaml, doc.IsGeneric → .text (yaml.print doc) ≠ file)
    (preset : Kernel.Preset) (includeRecommended : Bool) :
    ((PluginsOp.applyPreset preset includeRecommended).run yaml file).2 ≠ file := by
  rw [run_applyPreset]
  exact hwritten _ (Kernel.configYaml_eq _ ▸ isGeneric_configYaml _)

/-- A bundle with plugins is written in place of a file that could not be loaded. -/
theorem installBundle_unchanged_iff (hload : Kernel.loadPluginsConfig yaml file = none)
    (hwritten : ∀ doc : Yaml, doc.IsGeneric → .text (yaml.print doc) ≠ file)
    (plugins : List Kernel.BundledPlugin) :
    ((PluginsOp.installBundle plugins).run yaml file).2 = file ↔ plugins = [] := by
  have hnil : (plugins.foldl Kernel.addBundled (.empty, [])).2 = [] ↔ plugins = [] :=
    (Kernel.foldl_addBundled_nil_iff rfl).trans
    ⟨fun h ↦ List.eq_nil_iff_forall_not_mem.mpr fun plugin hmem ↦ h plugin hmem rfl,
      fun h plugin hmem ↦ absurd (h ▸ hmem) List.not_mem_nil⟩
  rw [PluginsOp.run, Kernel.installBundle, Kernel.loadOrEmpty, hload, ← hnil]
  simp only [Option.getD_none]
  split_ifs with hempty
  · exact iff_of_true rfl hempty
  · exact iff_of_false (hwritten _ (Kernel.configYaml_eq _ ▸ isGeneric_configYaml _)) hempty

theorem unparsed_iff (hparse : yaml.parse content = none) (op : PluginsOp) :
    (op.run yaml (.text content)).2 = .text content ↔ op.LeavesUnparsed := by
  have hwritten : ∀ doc : Yaml, doc.IsGeneric → PluginsFile.text (yaml.print doc) ≠ .text content := by
    intro doc hdoc heq
    rw [PluginsFile.text.injEq] at heq
    have hprint := yaml.parse_print hdoc
    rw [heq, hparse] at hprint
    cases hprint
  have hvalue : parseValue yaml content = none := by rw [parseValue, hparse]; rfl
  have hload : loadPluginsConfig yaml (.text content) = none := by rw [loadPluginsConfig, hparse]; rfl
  have hkernel : Kernel.loadPluginsConfig yaml (.text content) = none := by
    rw [Kernel.loadPluginsConfig, hparse]
    rfl
  cases op with
  | kernelSetEnabled name enabled =>
    refine iff_of_true ?_ trivial
    rw [PluginsOp.run, Kernel.setPluginEnabled, hkernel]
  | setEnabled name enabled =>
    refine iff_of_true ?_ trivial
    rw [PluginsOp.run, setEnabled, hload]
  | applyPreset preset includeRecommended =>
    exact iff_of_false (applyPreset_changes yaml hwritten preset includeRecommended) id
  | installBundle plugins => exact installBundle_unchanged_iff yaml hkernel hwritten plugins
  | install names =>
    rw [PluginsOp.run, PluginsOp.LeavesUnparsed]
    cases names with
    | nil => exact iff_of_true rfl rfl
    | cons name rest =>
      refine iff_of_false ?_ (List.cons_ne_nil _ _)
      obtain ⟨doc', hwith, hdoc'⟩ := withPlugin_nil name
      obtain ⟨final, hfile, hholding⟩ := addPlugins_of_holding yaml rest hdoc'
      rw [addPlugins_cons yaml (by rw [hvalue]; exact hwith), hfile]
      exact hwritten final hholding.isGeneric.1
  | uninstall name =>
    refine iff_of_true ?_ trivial
    rw [PluginsOp.run, removePluginFromConfig, hvalue]

theorem unreadable_iff (op : PluginsOp) :
    (op.run yaml .unreadable).2 = .unreadable ↔ op.LeavesUnreadable := by
  have hwritten : ∀ doc : Yaml, doc.IsGeneric → PluginsFile.text (yaml.print doc) ≠ .unreadable :=
    fun _ _ h ↦ by cases h
  cases op with
  | kernelSetEnabled name enabled | setEnabled name enabled | uninstall name => exact iff_of_true rfl trivial
  | applyPreset preset includeRecommended =>
    exact iff_of_false (applyPreset_changes yaml hwritten preset includeRecommended) id
  | installBundle plugins => exact installBundle_unchanged_iff yaml rfl hwritten plugins
  | install names =>
    refine iff_of_true ?_ trivial
    rw [PluginsOp.run]
    cases names <;> rfl

/-- An operation leaves an unparseable file alone and keeps the entries of a file that the daemon can load
exactly if it is safe for the file. -/
theorem intact_iff_safe (op : PluginsOp) (file : PluginsFile Text) :
    op.Intact yaml file ↔ op.Safe yaml file := by
  unfold PluginsOp.Intact PluginsOp.Safe
  cases file with
  | missing => exact Iff.rfl
  | unreadable => exact unreadable_iff yaml op
  | text content =>
    simp only
    cases hparse : yaml.parse content with
    | none => exact unparsed_iff yaml hparse op
    | some doc => exact forall₂_congr fun config hconfig ↦ keepsAll_iff yaml hparse hconfig op

/-- A reader of documents themselves, with one text that is no document. -/
def documentFormat : YamlFormat (Option Yaml) := ⟨id, some, fun _ ↦ rfl⟩

/-- A plugin that was installed from a package. -/
def packagedEntry : PluginEntry := ⟨"bot", false, .empty, some ⟨"bot", "1.0", "hub"⟩⟩

def packagedConfig : PluginsConfig := ⟨Table.empty.insert "bot" packagedEntry⟩

/-- The kernel enables the plugin and loses its package. -/
theorem kernelSetEnabled_not_intact :
    ¬(PluginsOp.kernelSetEnabled "bot" true).Intact documentFormat
      (.text (some (configYaml packagedConfig))) := by
  have hrun : ((PluginsOp.kernelSetEnabled "bot" true).run documentFormat
      (.text (some (configYaml packagedConfig)))).1 = .ok () := by decide +kernel
  have hafter : (loadPluginsConfig documentFormat
      ((PluginsOp.kernelSetEnabled "bot" true).run documentFormat
        (.text (some (configYaml packagedConfig)))).2).map
      (fun config ↦ (config.plugins.get "bot").map PluginEntry.package) = some (some none) := by
    decide +kernel
  intro h
  obtain ⟨after, hload, hkeeps⟩ := h packagedConfig (configOf_configYaml packagedConfig) hrun
  have hkept : after.plugins.get "bot" = some { packagedEntry with enabled := true } :=
    hkeeps "bot" packagedEntry rfl
  rw [hload, Option.map_some, hkept] at hafter
  cases hafter

end All

end

end Seidrum.Daemon
