import Seidrum.EventBus.Transport.RemotePattern
import Seidrum.Foundation.Files
import Seidrum.Kernel.PluginsConfig

/-!
# Imports of preset bundles

A bundle brings a preset and, for it, agents, prompts and entries of `plugins.yaml`.  The names of the
agents and the prompts are checked, each when it is its turn, and files of these names are left alone.
The file of the preset is named by an id which is not checked, and is written over what is there.  When
a step fails, the files that were written before stay.
-/

namespace Seidrum.Kernel

open Foundation Files

structure ManagementState where
  configDir : Path
  agentsDir : Path

def ManagementState.presetsDir (state : ManagementState) : Path := state.configDir ++ ["presets"]

/-- The prompts are kept beside the configuration. -/
def ManagementState.promptsDir (state : ManagementState) : Path :=
  state.configDir.dropLast ++ ["prompts"]

/-- The directories and files that are managed. -/
structure Places where
  agents : Path
  prompts : Path
  presets : Path
  bin : Path
  pluginsYaml : Path
  installedYaml : Path

/-- The places the kernel uses beside those of a home directory of the daemon. -/
def ManagementState.places (state : ManagementState) (home : Path) : Places where
  agents := state.agentsDir
  prompts := state.promptsDir
  presets := state.presetsDir
  bin := home ++ ["bin"]
  pluginsYaml := state.configDir ++ ["plugins.yaml"]
  installedYaml := home ++ ["installed.yaml"]

/-- The path lies directly in one of the directories. -/
def LiesIn (dirs : List Path) (path : Path) : Prop := path ≠ [] ∧ path.dropLast ∈ dirs

/-- The path is one that may be written or removed. -/
def Places.Allows (places : Places) (path : Path) : Prop :=
  LiesIn [places.agents, places.prompts, places.presets, places.bin] path ∨
    path = places.pluginsYaml ∨ path = places.installedYaml

def Places.Holds {Content : Type*} (places : Places) (disk : Disk Content) (path : Path) : Prop :=
  disk.isFile path ∧ LiesIn [places.agents, places.prompts, places.presets] path ∧
    path ≠ places.pluginsYaml

/-- Only managed files are written, no file of an agent, a prompt or a preset is written over, and what
fails has written nothing. -/
structure Contained {Content ε : Type*} (places : Places) (disk : Disk Content)
    (effect : Effect Content ε) : Prop where
  allowed : ∀ path, effect.touched path → places.Allows path
  kept : ∀ path, places.Holds disk path → effect.touched path = false
  clean : effect.error ≠ none → effect.Untouched

namespace Bundles

structure ImportBundleRequest (Text : Type*) where
  source : String
  presetYaml : Text
  agents : Table String Text
  prompts : Table String Text
  url : String

structure PresetBundle where
  agents : List String
  prompts : List String
  plugins : List BundledPlugin

/-- A preset with its bundle; the other fields are only written again. -/
structure Preset (Other : Type*) where
  id : String
  bundle : Option PresetBundle
  other : Other

/-- A reader and a writer of the files of presets. -/
structure PresetFormat (Text Other : Type*) where
  parse : Text → Except String (Preset Other)
  print : Preset Other → Except String Text

/-- An HTTP status and a text. -/
abbrev ApiError := ℕ × String

def sanitizeFilename (name : String) : Except ApiError String :=
  if ['.', '.'] <:+: name.toList ∨ '/' ∈ name.toList ∨ '\\' ∈ name.toList ∨
      name.toList.head? = some '.' then
    .error (400, "Invalid filename: " ++ name)
  else .ok name

section

variable {Text Content Other : Type*} (coding : Coding Text Content) (yaml : YamlFormat Text)
  (format : PresetFormat Text Other)

/-- Write a file of the bundle unless there is one of its name. -/
def installFile (kind : String) (dir : Path) (name : String) (text : Text) : Command Content :=
  fun disk ↦
    match sanitizeFilename name with
    | .error error => .error error.2
    | .ok safeName =>
        .ok (if disk.has dir safeName then none
          else some (.write dir safeName (coding.encode text)
            ("Failed to write " ++ kind ++ " file " ++ name ++ ": ")))

/-- The files of a list for which the request has a content. -/
def installFiles (kind : String) (dir : Path) (names : List String) (contents : Table String Text) :
    List (Command Content) :=
  names.filterMap fun name ↦ (contents.get name).map (installFile coding kind dir name)

def createDirIfMissing (dir : Path) : Command Content :=
  fun disk ↦ .ok (if (disk dir).isSome then none else some (.makeDir dir))

def pluginsFile (disk : Disk Content) (path : Path) : Daemon.PluginsFile Text :=
  match disk path with
  | none => .missing
  | some (.file content) =>
      match coding.decode content with
      | some text => .text text
      | none => .unreadable
  | some .dir => .unreadable

/-- Add the plugins of the bundle that have no entry. -/
def addPlugins (configDir : Path) (plugins : List BundledPlugin) : Command Content :=
  fun disk ↦
    let config := loadOrEmpty yaml (pluginsFile coding disk (configDir ++ ["plugins.yaml"]))
    let added := plugins.foldl addBundled (config.plugins, [])
    .ok (if added.2 = [] then none
      else some (.write configDir "plugins.yaml" (coding.encode (yaml.print (configYaml ⟨added.1⟩))) ""))

def savePreset (presetsDir : Path) (preset : Preset Other) : Command Content :=
  fun _ ↦ (format.print preset).map fun text ↦
    some (.write presetsDir (preset.id ++ ".yaml") (coding.encode text) "")

def installBundle (state : ManagementState) (preset : Preset Other)
    (agents prompts : Table String Text) : List (Command Content) :=
  (match preset.bundle with
    | none => []
    | some bundle =>
        installFiles coding "agent" state.agentsDir bundle.agents agents ++
          createDirIfMissing state.promptsDir ::
            installFiles coding "prompt" state.promptsDir bundle.prompts prompts ++
          [addPlugins coding yaml state.configDir bundle.plugins]) ++
    [createDirIfMissing state.presetsDir, savePreset coding format state.presetsDir preset]

def importInline (state : ManagementState) (request : ImportBundleRequest Text)
    (os : ℕ → Reply Content) (disk : Disk Content) : Effect Content ApiError :=
  match format.parse request.presetYaml with
  | .error error => .failed disk (400, "Invalid preset YAML: " ++ error)
  | .ok preset =>
      if preset.id = "" then .failed disk (400, "Preset must have an id")
      else
        let commands := installBundle coding yaml format state preset request.agents request.prompts
        (runAll commands os disk).mapError fun error ↦ (500, "Failed to install bundle: " ++ error)

def importPreset (state : ManagementState) (request : ImportBundleRequest Text)
    (os : ℕ → Reply Content) (disk : Disk Content) : Effect Content ApiError :=
  if request.source = "inline" then importInline coding yaml format state request os disk
  else if request.source = "url" then
    if request.url.toList.all EventBus.isWhitespace then
      .failed disk (400, "URL import requires a non-empty url field.")
    else
      .failed disk (501, "URL import is not yet implemented for '" ++ request.url ++
        "'. Use inline import with preset YAML.")
  else .failed disk (400, "Unknown import source: " ++ request.source)

/-- The preset of a request that is not refused at once. -/
def importedPreset (request : ImportBundleRequest Text) : Option (Preset Other) :=
  if request.source = "inline" then (format.parse request.presetYaml).toOption.filter (·.id ≠ "")
  else none

/-- The file of a preset. -/
def presetPath (state : ManagementState) (preset : Preset Other) : Path :=
  resolve state.presetsDir (preset.id ++ ".yaml")

/-- The request is refused; or a step fails before anything was written; or no step fails, and the id of
the preset leads to a file that may be written and is not there. -/
def ImportSafe (state : ManagementState) (home : Path) (request : ImportBundleRequest Text)
    (os : ℕ → Reply Content) (disk : Disk Content) : Prop :=
  ∀ preset, importedPreset format request = some preset →
    let commands := installBundle coding yaml format state preset request.agents request.prompts
    FailsFirst commands os disk ∨
      GoesThrough commands os disk ∧ (state.places home).Allows (presetPath state preset) ∧
        ¬(state.places home).Holds disk (presetPath state preset)

section

variable {kind name : String} {dir path : Path} {text : Text} {reply : Reply Content}
  {disk : Disk Content} {action : Action Content} {state : ManagementState} {preset : Preset Other} {home : Path}
  {agents prompts : Table String Text}

theorem not_mem_of_sanitizeFilename {safeName : String} (h : sanitizeFilename name = .ok safeName) :
    safeName = name ∧ '/' ∉ name.toList := by
  unfold sanitizeFilename at h
  split at h
  · cases h
  · rename_i hsafe
    exact ⟨(Except.ok.inj h).symm, fun hslash ↦ hsafe (.inr (.inl hslash))⟩

/-- A file of a bundle is written where nothing is. -/
theorem installFile_eq (h : installFile coding kind dir name text disk = .ok (some action)) :
    disk.has dir name = false ∧ '/' ∉ name.toList ∧
      action = .write dir name (coding.encode text)
        ("Failed to write " ++ kind ++ " file " ++ name ++ ": ") := by
  unfold installFile at h
  split at h
  · cases h
  · rename_i safeName hsafe
    obtain ⟨rfl, hslash⟩ := not_mem_of_sanitizeFilename hsafe
    have haction := Option.ite_none_left_eq_some.mp (Except.ok.inj h)
    exact ⟨Bool.eq_false_iff.mpr haction.1, hslash, (Option.some.inj haction.2).symm⟩

theorem liesIn_append (dir : Path) (name : String) : LiesIn [dir] (dir ++ [name]) :=
  ⟨by simp, by simp⟩

theorem touches_installFile (h : (installFile coding kind dir name text).Touches reply disk path) :
    LiesIn [dir] path ∧ disk path = none := by
  obtain ⟨action, haction, htouches⟩ := Command.touches_iff.mp h
  obtain ⟨hmissing, hslash, rfl⟩ := installFile_eq coding haction
  obtain ⟨⟨hfile, -⟩, -, rfl⟩ := htouches
  refine ⟨?_, Disk.eq_none_of_has hmissing hfile⟩
  rw [resolve_of_not_mem hslash hfile]
  exact liesIn_append dir name

theorem createDirIfMissing_eq (h : createDirIfMissing dir disk = .ok (some action)) :
    action = .makeDir dir := by
  have haction := Option.ite_none_left_eq_some.mp (Except.ok.inj h)
  exact (Option.some.inj haction.2).symm

theorem addPlugins_eq {plugins : List BundledPlugin}
    (h : addPlugins coding yaml dir plugins disk = .ok (some action)) :
    ∃ content, action = .write dir "plugins.yaml" content "" := by
  have haction := Option.ite_none_left_eq_some.mp (Except.ok.inj h)
  exact ⟨_, (Option.some.inj haction.2).symm⟩

theorem savePreset_eq (h : savePreset coding format dir preset disk = .ok (some action)) :
    ∃ content, action = .write dir (preset.id ++ ".yaml") content "" := by
  unfold savePreset at h
  cases htext : format.print preset with
  | error error => rw [htext] at h; cases h
  | ok text =>
    rw [htext] at h
    exact ⟨_, (Option.some.inj (Except.ok.inj h)).symm⟩

theorem resolve_pluginsYaml (dir : Path) : resolve dir "plugins.yaml" = dir ++ ["plugins.yaml"] :=
  resolve_of_not_mem (by decide) (by decide +kernel)

variable {command : Command Content}

theorem mem_installFiles {names : List String} {contents : Table String Text}
    (h : command ∈ installFiles coding kind dir names contents) :
    ∃ name text, command = installFile coding kind dir name text := by
  obtain ⟨name, -, hcommand⟩ := List.mem_filterMap.mp h
  obtain ⟨text, -, rfl⟩ := Option.map_eq_some_iff.mp hcommand
  exact ⟨name, text, rfl⟩

/-- The forms of the commands of an import. -/
inductive IsStep (state : ManagementState) (preset : Preset Other) : Command Content → Prop
  | agent (name : String) (text : Text) :
      IsStep state preset (installFile coding "agent" state.agentsDir name text)
  | prompt (name : String) (text : Text) :
      IsStep state preset (installFile coding "prompt" state.promptsDir name text)
  | dir (dir : Path) : IsStep state preset (createDirIfMissing dir)
  | plugins (plugins : List BundledPlugin) :
      IsStep state preset (addPlugins coding yaml state.configDir plugins)
  | preset : IsStep state preset (savePreset coding format state.presetsDir preset)

theorem isStep_of_mem (h : command ∈ installBundle coding yaml format state preset agents prompts) :
    IsStep coding yaml format state preset command := by
  unfold installBundle at h
  rcases List.mem_append.mp h with h | h
  · cases hbundle : preset.bundle with
    | none => rw [hbundle] at h; cases h
    | some bundle =>
      rw [hbundle] at h
      simp only [List.append_assoc, List.mem_append, List.cons_append, List.mem_cons,
        List.not_mem_nil, or_false] at h
      rcases h with h | rfl | h | rfl
      · obtain ⟨name, text, rfl⟩ := mem_installFiles coding h
        exact .agent name text
      · exact .dir _
      · obtain ⟨name, text, rfl⟩ := mem_installFiles coding h
        exact .prompt name text
      · exact .plugins bundle.plugins
  · rcases List.mem_pair.mp h with rfl | rfl
    · exact .dir _
    · exact .preset

/-- No step of an import removes a file. -/
theorem IsStep.keeps (h : IsStep coding yaml format state preset command)
    (haction : command disk = .ok (some action)) : action.Keeps := by
  cases h with
  | agent name text | prompt name text => rw [(installFile_eq coding haction).2.2]; trivial
  | dir dir => rw [createDirIfMissing_eq haction]; trivial
  | plugins plugins =>
    obtain ⟨content, rfl⟩ := addPlugins_eq coding yaml haction
    trivial
  | preset =>
    obtain ⟨content, rfl⟩ := savePreset_eq coding format haction
    trivial

/-- A step writes the preset, or a managed file that is new or the plugins file. -/
theorem IsStep.touches (h : IsStep coding yaml format state preset command)
    (htouches : command.Touches reply disk path) :
    path = presetPath state preset ∨
      (state.places home).Allows path ∧ (disk path = none ∨ path = (state.places home).pluginsYaml) := by
  cases h with
  | agent name text =>
    obtain ⟨⟨hne, hlies⟩, hnone⟩ := touches_installFile coding htouches
    refine .inr ⟨.inl ⟨hne, ?_⟩, .inl hnone⟩
    rw [List.mem_singleton.mp hlies]
    exact List.mem_cons_self
  | prompt name text =>
    obtain ⟨⟨hne, hlies⟩, hnone⟩ := touches_installFile coding htouches
    refine .inr ⟨.inl ⟨hne, ?_⟩, .inl hnone⟩
    rw [List.mem_singleton.mp hlies]
    exact List.mem_cons_of_mem _ List.mem_cons_self
  | dir dir =>
    obtain ⟨action, haction, haction'⟩ := Command.touches_iff.mp htouches
    rw [createDirIfMissing_eq haction] at haction'
    exact haction'.elim
  | plugins plugins =>
    obtain ⟨action, haction, haction'⟩ := Command.touches_iff.mp htouches
    obtain ⟨content, rfl⟩ := addPlugins_eq coding yaml haction
    have hpath : path = (state.places home).pluginsYaml :=
      haction'.2.2.trans (resolve_pluginsYaml state.configDir)
    exact .inr ⟨.inr (.inl hpath), .inr hpath⟩
  | preset =>
    obtain ⟨action, haction, haction'⟩ := Command.touches_iff.mp htouches
    obtain ⟨content, rfl⟩ := savePreset_eq coding format haction
    exact .inl haction'.2.2

variable {request : ImportBundleRequest Text} {os : ℕ → Reply Content}

theorem importPreset_of_none (h : importedPreset format request = none) :
    ∃ error, importPreset coding yaml format state request os disk = .failed disk error := by
  unfold importedPreset at h
  unfold importPreset
  split at h
  · rename_i hsource
    rw [if_pos hsource, importInline]
    cases hparse : format.parse request.presetYaml with
    | error error => exact ⟨_, rfl⟩
    | ok preset =>
      rw [hparse] at h
      have hid : preset.id = "" := by
        by_contra hne
        simp [Except.toOption, hne] at h
      exact ⟨_, if_pos hid⟩
  · rename_i hsource
    rw [if_neg hsource]
    split
    · split <;> exact ⟨_, rfl⟩
    · exact ⟨_, rfl⟩

theorem importPreset_of_some (h : importedPreset format request = some preset) :
    importPreset coding yaml format state request os disk =
      (runAll (installBundle coding yaml format state preset request.agents request.prompts) os
        disk).mapError fun error ↦ (500, "Failed to install bundle: " ++ error) := by
  unfold importedPreset at h
  obtain ⟨hsource, h⟩ := Option.ite_none_right_eq_some.mp h
  obtain ⟨hparse, hid⟩ := Option.filter_eq_some_iff.mp h
  rw [importPreset, if_pos hsource, importInline]
  cases hparsed : format.parse request.presetYaml with
  | error error => rw [hparsed] at hparse; cases hparse
  | ok parsed =>
    rw [hparsed] at hparse
    cases hparse
    exact if_neg (of_decide_eq_true hid)

/-- An import writes the preset, or managed files of which none was there but the plugins file. -/
theorem touched_installBundle
    (h : (runAll (installBundle coding yaml format state preset agents prompts) os disk).touched path) :
    path = presetPath state preset ∨
      (state.places home).Allows path ∧ (disk path = none ∨ path = (state.places home).pluginsYaml) := by
  have hkeeps : ∀ command ∈ installBundle coding yaml format state preset agents prompts,
      ∀ (reply : Reply Content) (disk' : Disk Content), (∀ path, disk path ≠ none → disk' path ≠ none) →
        (∀ path, disk path ≠ none → (command.perform reply disk').disk path ≠ none) ∧
          ∀ path, command.Touches reply disk' path → path = presetPath state preset ∨
            (state.places home).Allows path ∧
              (disk path = none ∨ path = (state.places home).pluginsYaml) := by
    intro command hmem reply disk' hinit
    have hstep := isStep_of_mem coding yaml format hmem
    refine ⟨fun path hpath ↦ ?_, fun path htouches ↦ ?_⟩
    · exact Command.perform_ne_none (fun action ↦ hstep.keeps coding yaml format) (hinit path hpath)
    · refine (hstep.touches coding yaml format htouches).imp_right (And.imp_right (Or.imp_left ?_))
      exact fun hnone ↦ by_contra fun hne ↦ hinit path hne hnone
  exact (runAll_keeps hkeeps fun _ h ↦ h).2 path h

/-- An import that goes through writes the preset. -/
theorem touched_presetPath
    (h : GoesThrough (installBundle coding yaml format state preset agents prompts) os disk) :
    (runAll (installBundle coding yaml format state preset agents prompts) os disk).touched
      (presetPath state preset) := by
  obtain ⟨first, hfirst⟩ : ∃ first, installBundle coding yaml format state preset agents prompts =
      first ++ [savePreset coding format state.presetsDir preset] :=
    ⟨_, (List.append_assoc _ [createDirIfMissing state.presetsDir] _).symm⟩
  rw [hfirst] at h ⊢
  obtain ⟨hbefore, hsave, -⟩ := goesThrough_append.mp h
  refine touched_append_right hbefore (touched_cons (Command.touches_iff.mpr ?_))
  rw [Command.Succeeds, savePreset] at hsave
  cases htext : format.print preset with
  | error error => rw [htext] at hsave; exact hsave.elim
  | ok text =>
    rw [htext] at hsave
    have hcommand : savePreset coding format state.presetsDir preset (runAll first os disk).disk =
        .ok (some (.write state.presetsDir (preset.id ++ ".yaml") (coding.encode text) "")) := by
      rw [savePreset, htext]
      rfl
    refine ⟨_, hcommand, hsave.1, fun error hrefused ↦ ?_, rfl⟩
    cases hsave.2.symm.trans hrefused

/-- An import is contained exactly if it is safe for the disk and what the operating system replies. -/
theorem importPreset_contained_iff :
    Contained (state.places home) disk (importPreset coding yaml format state request os disk) ↔
      ImportSafe coding yaml format state home request os disk := by
  unfold ImportSafe
  cases hpreset : importedPreset format request with
  | none =>
    obtain ⟨error, herror⟩ := importPreset_of_none coding yaml format hpreset
    rw [herror]
    refine iff_of_true ⟨fun _ h ↦ ?_, fun _ _ ↦ rfl, fun _ _ ↦ rfl⟩ fun _ h ↦ ?_
    · cases h
    · cases h
  | some preset =>
    rw [importPreset_of_some coding yaml format hpreset]
    set commands := installBundle coding yaml format state preset request.agents request.prompts
    set effect := runAll commands os disk
    simp only [Option.some.injEq, forall_eq']
    constructor
    · intro h
      have hclean : effect.error ≠ none → effect.Untouched :=
        fun hne ↦ h.clean fun hnone ↦ hne (Option.map_eq_none_iff.mp hnone)
      refine (error_untouched_iff.mp hclean).imp_right fun hthrough ↦ ⟨hthrough, ?_⟩
      have htouched := touched_presetPath coding yaml format hthrough
      refine ⟨h.allowed _ htouched, fun hholds ↦ ?_⟩
      exact Bool.false_ne_true ((h.kept _ hholds).symm.trans htouched)
    · rintro (hfails | ⟨hthrough, hallowed, hnew⟩)
      · have huntouched := (failsFirst_iff.mp hfails).2
        refine ⟨fun path h ↦ ?_, fun path _ ↦ huntouched path, fun _ ↦ huntouched⟩
        exact absurd ((huntouched path).symm.trans h) Bool.false_ne_true
      · refine ⟨fun path h ↦ ?_, fun path hholds ↦ ?_, fun hne ↦ ?_⟩
        · rcases touched_installBundle coding yaml format h with rfl | ⟨hallows, -⟩
          · exact hallowed
          · exact hallows
        · by_contra htouched
          rcases touched_installBundle coding yaml format (Bool.not_eq_false _ ▸ htouched) with
            rfl | ⟨-, hnone | hplugins⟩
          · exact hnew hholds
          · have hfile := hholds.1
            rw [Disk.isFile, hnone] at hfile
            cases hfile
          · exact hholds.2.2 hplugins
        · exact absurd (Option.map_eq_none_iff.mpr (goesThrough_iff.mp hthrough)) hne

end

end

end Bundles

end Seidrum.Kernel
