import Seidrum.Daemon.PluginConfig
import Seidrum.Foundation.Yaml

/-!
# The plugins file of the daemon

The daemon reads and writes `plugins.yaml` by the types of its configuration.  Installing and
uninstalling a package edits the document as a generic value instead, so that what such a reading
changes in the other entries is written with the edit.
-/

namespace Seidrum.Daemon

open Foundation

open Yaml

def packageOf (doc : Yaml) : Option PluginPackageRef := do
  let fields ← readFields doc
  let name ← required readString "name" fields
  let version ← required readString "version" fields
  let source ← required readString "source" fields
  return ⟨name, version, source⟩

def entryOf (doc : Yaml) : Option PluginEntry := do
  let fields ← readFields doc
  let binary ← required readString "binary" fields
  let enabled ← required readBool "enabled" fields
  let env ← defaulted (readTable readString) .empty "env" fields
  let package ← defaulted (readOption packageOf) none "package" fields
  return ⟨binary, enabled, env, package⟩

def configOf (doc : Yaml) : Option PluginsConfig := do
  let fields ← readFields doc
  let plugins ← required (readTable entryOf) "plugins" fields
  return ⟨plugins⟩

def packageYaml (package : PluginPackageRef) : Yaml :=
  ofFields [("name", ofString package.name), ("version", ofString package.version),
    ("source", ofString package.source)]

/-- A missing package is not written. -/
def entryYaml (entry : PluginEntry) : Yaml :=
  ofFields ([("binary", ofString entry.binary), ("enabled", ofBool entry.enabled),
      ("env", ofTable ofString entry.env)] ++
    entry.package.toList.map fun package ↦ ("package", packageYaml package))

def configYaml (config : PluginsConfig) : Yaml :=
  ofFields [("plugins", ofTable entryYaml config.plugins)]

section Types

variable {doc : Yaml}

@[simp]
theorem readTable_readString_ofTable (table : Table String String) :
    readTable readString (ofTable ofString table) = some table := by
  rw [readTable_ofTable (f := id) readString_ofString, Table.mapValues_eq_self fun _ _ ↦ rfl]

theorem packageOf_packageYaml (package : PluginPackageRef) :
    packageOf (packageYaml package) = some package := by
  simp [packageOf, packageYaml, required, field]

theorem readOption_packageYaml (package : PluginPackageRef) :
    readOption packageOf (packageYaml package) = some (some package) := by
  have hpackage := packageOf_packageYaml package
  unfold packageYaml ofFields at hpackage ⊢
  rw [readOption, hpackage]
  · rfl
  · exact fun _ _ h ↦ by cases h

theorem entryOf_entryYaml (entry : PluginEntry) : entryOf (entryYaml entry) = some entry := by
  obtain ⟨binary, enabled, env, package⟩ := entry
  cases package with
  | none => simp [entryOf, entryYaml, required, defaulted, field]
  | some package => simp [entryOf, entryYaml, required, defaulted, field, readOption_packageYaml]

theorem isGeneric_packageYaml (package : PluginPackageRef) : (packageYaml package).IsGeneric :=
  isGeneric_ofFields (by simp) (by simp [isGeneric_ofString])

theorem isGeneric_entryYaml (entry : PluginEntry) : (entryYaml entry).IsGeneric := by
  obtain ⟨binary, enabled, env, package⟩ := entry
  refine isGeneric_ofFields ?_ ?_
  · cases package with
    | none | some package => simp
  · cases package with
    | none =>
      simp [isGeneric_ofString, isGeneric_ofBool, isGeneric_ofTable isGeneric_ofString]
    | some package =>
      simp [isGeneric_ofString, isGeneric_ofBool, isGeneric_ofTable isGeneric_ofString,
        isGeneric_packageYaml]

theorem isGeneric_configYaml (config : PluginsConfig) : (configYaml config).IsGeneric :=
  isGeneric_ofFields (by simp) (by simp [isGeneric_ofTable isGeneric_entryYaml])

theorem configOf_configYaml (config : PluginsConfig) : configOf (configYaml config) = some config := by
  have htable : readTable entryOf (ofTable entryYaml config.plugins) = some config.plugins := by
    rw [readTable_ofTable (f := id) entryOf_entryYaml, Table.mapValues_eq_self fun _ _ ↦ rfl]
  simp [configOf, configYaml, required, field, htable]

end Types

/-- The plugins file; a file that is no text is unreadable. -/
inductive PluginsFile (Text : Type*)
  | missing
  | unreadable
  | text (content : Text)

/-- Why an operation fails: for a reason of its own, or because of something that it uses. -/
inductive PluginsError
  | message (text : String)
  | outside
  deriving DecidableEq, Repr

section File

variable {Text : Type*} (yaml : YamlFormat Text)

abbrev PluginsResult (Text : Type*) := Except PluginsError Unit × PluginsFile Text

/-- Write a document, unless that fails. -/
def writeDoc (saved : Bool) (doc : Yaml) (file : PluginsFile Text) : PluginsResult Text :=
  if saved then (.ok (), .text (yaml.print doc)) else (.error .outside, file)

def loadPluginsConfig : PluginsFile Text → Option PluginsConfig
  | .text content => (yaml.parse content).bind configOf
  | _ => none

def setEnabled (name : String) (enabled saved : Bool) (file : PluginsFile Text) :
    PluginsResult Text :=
  match loadPluginsConfig yaml file with
  | none => (.error .outside, file)
  | some config =>
      match config.plugins.get name with
      | none => (.error (.message ("Plugin '" ++ name ++ "' not found in plugins.yaml")), file)
      | some entry =>
          let plugins := config.plugins.insert name { entry with enabled := enabled }
          writeDoc yaml saved (configYaml ⟨plugins⟩) file

/-- The entry of a plugin that was installed. -/
def installedEntry (binary : String) : Yaml :=
  ofFields [("enabled", ofBool false), ("binary", ofString binary)]

def pluginsKey : Scalar := .ofString "plugins"

/-- The document with the entry of an installed plugin. -/
def withPlugin (name binary : String) : Yaml → Except PluginsError Yaml
  | mapping root =>
      match (root.lookup pluginsKey).getD (mapping []) with
      | mapping entries =>
          let entries := setEntry (.ofString name) (installedEntry binary) entries
          .ok (mapping (setEntry pluginsKey (mapping entries) root))
      | _ => .error (.message "plugins key is not a mapping")
  | _ => .error (.message "plugins.yaml root is not a mapping")

/-- The document without the entry of a plugin. -/
def withoutPlugin (name : String) (doc : Yaml) : Yaml :=
  match doc with
  | mapping root =>
      match root.lookup pluginsKey with
      | some (mapping entries) =>
          mapping (setEntry pluginsKey (mapping (swapRemove (.ofString name) entries)) root)
      | _ => doc
  | _ => doc

def parseValue (content : Text) : Option Yaml := (yaml.parse content).bind generic

def addPluginToConfig (name binary : String) (saved : Bool) (file : PluginsFile Text) :
    PluginsResult Text :=
  let add (doc : Yaml) : PluginsResult Text :=
    match withPlugin name binary doc with
    | .error error => (.error error, file)
    | .ok doc => writeDoc yaml saved doc file
  match file with
  | .missing => add (mapping [])
  | .unreadable => (.error .outside, file)
  | .text content => add ((parseValue yaml content).getD (mapping []))

def removePluginFromConfig (name : String) (saved : Bool) (file : PluginsFile Text) :
    PluginsResult Text :=
  match file with
  | .missing => (.ok (), file)
  | .unreadable => (.error .outside, file)
  | .text content =>
      match parseValue yaml content with
      | none => (.error .outside, file)
      | some doc => writeDoc yaml saved (withoutPlugin name doc) file

/-- Add the plugin of a package, or those of a bundle one after another; the writes fail as the list says. -/
def addPlugins : List String → List Bool → PluginsFile Text → PluginsResult Text
  | [], _, file => (.ok (), file)
  | name :: rest, saves, file =>
      match addPluginToConfig yaml name name (saves.headD true) file with
      | (.ok (), file) => addPlugins rest saves.tail file
      | (.error error, file) => (.error error, file)

end File

end Seidrum.Daemon
