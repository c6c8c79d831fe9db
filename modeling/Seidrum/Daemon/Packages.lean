import Seidrum.Kernel.BundleImport

/-!
# Packages

Installing a package writes files that are named by its manifest, and uninstalling one removes files that
are named by the package.  A plugin is downloaded to a directory of its own first and unpacked there.  No
name is checked: a package stays in the managed directories exactly if its name does, and a plugin only
if it is refused before it is downloaded.
-/

namespace Seidrum.Daemon

open Foundation Files Yaml

structure SeidrumPaths where
  configDir : Path
  seidrumHome : Path

namespace SeidrumPaths

variable (paths : SeidrumPaths)

def managedBinDir : Path := paths.seidrumHome ++ ["bin"]

def agentsDir : Path := paths.configDir ++ ["agents"]

def promptsDir : Path := paths.agentsDir.dropLast ++ ["prompts"]

def tempDir : Path := paths.seidrumHome ++ ["temp"]

def extractDir : Path := paths.tempDir ++ ["extract"]

def pluginsYaml : Path := paths.configDir ++ ["plugins.yaml"]

def installedYaml : Path := paths.seidrumHome ++ ["installed.yaml"]

def places : Kernel.Places where
  agents := paths.agentsDir
  prompts := paths.promptsDir
  presets := paths.configDir ++ ["presets"]
  bin := paths.managedBinDir
  pluginsYaml := paths.pluginsYaml
  installedYaml := paths.installedYaml

end SeidrumPaths

namespace Packages

inductive PackageKind
  | plugin
  | agent
  | bundle
  deriving DecidableEq, Repr

structure PackageArtifact where
  target : String
  url : String
  sha256 : String

structure PackageManifest where
  name : String
  version : String
  description : Option String
  artifacts : List PackageArtifact

structure InstalledPackage where
  name : String
  version : String
  kind : PackageKind
  installedAt : String
  source : String

structure InstalledPackagesRegistry where
  packages : List InstalledPackage

namespace InstalledPackagesRegistry

def find (registry : InstalledPackagesRegistry) (name : String) : Option InstalledPackage :=
  registry.packages.find? (·.name = name)

def add (registry : InstalledPackagesRegistry) (package : InstalledPackage) :
    InstalledPackagesRegistry :=
  ⟨registry.packages.filter (·.name ≠ package.name) ++ [package]⟩

def remove (registry : InstalledPackagesRegistry) (name : String) : InstalledPackagesRegistry :=
  ⟨registry.packages.filter (·.name ≠ name)⟩

end InstalledPackagesRegistry

def kindYaml : PackageKind → Yaml
  | .plugin => ofString "plugin"
  | .agent => ofString "agent"
  | .bundle => ofString "bundle"

def kindOf (doc : Yaml) : Option PackageKind :=
  (readString doc).bind fun text ↦
    if text = "plugin" then some .plugin
    else if text = "agent" then some .agent
    else if text = "bundle" then some .bundle
    else none

def installedYaml (package : InstalledPackage) : Yaml :=
  ofFields [("name", ofString package.name), ("version", ofString package.version),
    ("kind", kindYaml package.kind), ("installed_at", ofString package.installedAt),
    ("source", ofString package.source)]

def installedOf (doc : Yaml) : Option InstalledPackage := do
  let fields ← readFields doc
  let name ← required readString "name" fields
  let version ← required readString "version" fields
  let kind ← required kindOf "kind" fields
  let installedAt ← required readString "installed_at" fields
  let source ← required readString "source" fields
  return ⟨name, version, kind, installedAt, source⟩

def registryYaml (registry : InstalledPackagesRegistry) : Yaml :=
  ofFields [("packages", sequence (registry.packages.map installedYaml))]

def registryOf (doc : Yaml) : Option InstalledPackagesRegistry := do
  let fields ← readFields doc
  let packages ← required (readList installedOf) "packages" fields
  return ⟨packages⟩

theorem kindOf_kindYaml (kind : PackageKind) : kindOf (kindYaml kind) = some kind := by
  cases kind <;> rfl

theorem installedOf_installedYaml (package : InstalledPackage) :
    installedOf (installedYaml package) = some package := by
  simp [installedOf, installedYaml, required, field, kindOf_kindYaml]

theorem registryOf_registryYaml (registry : InstalledPackagesRegistry) :
    registryOf (registryYaml registry) = some registry := by
  have hlist := readList_map installedOf_installedYaml registry.packages
  simp [registryOf, registryYaml, required, field, hlist]

theorem isGeneric_registryYaml (registry : InstalledPackagesRegistry) :
    (registryYaml registry).IsGeneric := by
  have hkind (kind : PackageKind) : (kindYaml kind).IsGeneric := by cases kind <;> rfl
  have hpackage (package : InstalledPackage) : (installedYaml package).IsGeneric :=
    isGeneric_ofFields (by simp) (by simp [isGeneric_ofString, hkind])
  refine isGeneric_ofFields (by simp) ?_
  simp only [List.mem_singleton, forall_eq]
  refine isGeneric_sequence fun item hmem ↦ ?_
  obtain ⟨package, -, rfl⟩ := List.mem_map.mp hmem
  exact hpackage package

/-- The beginnings of addresses in private ranges. -/
def privateRanges : List String :=
  ["10.", "172.16.", "172.17.", "172.18.", "172.19.", "172.20.", "172.21.", "172.22.", "172.23.",
    "172.24.", "172.25.", "172.26.", "172.27.", "172.28.", "172.29.", "172.30.", "172.31.", "192.168.",
    "169.254."]

def contains (text part : String) : Bool := part.toList <:+: text.toList

def validateArtifactUrl (url : String) : Except String Unit :=
  if ["https://", "http://localhost", "http://127.0.0.1"].all fun start ↦
      !start.toList.isPrefixOf url.toList then
    .error ("Artifact URL must use https:// or be localhost for development: " ++ url)
  else if privateRanges.any (contains url) && !contains url "localhost" && !contains url "127.0.0.1" then
    .error ("Artifact URL uses private/internal IP range, which is not allowed: " ++ url)
  else .ok ()

/-- The last part of a URL, by which its archive is kept. -/
def artifactName (url : String) : String := (components url).getLastD "package.tar.gz"

def isAsciiHexdigit (c : Char) : Bool :=
  c.isDigit || ('a' ≤ c && c ≤ 'f') || ('A' ≤ c && c ≤ 'F')

def checkSha256Format (expected : String) : Except String Unit :=
  if expected = "" then .error "SHA-256 hash cannot be empty"
  else if expected.utf8ByteSize ≠ 64 then
    .error ("Invalid SHA-256 format: expected 64 hex characters, got " ++ toString expected.utf8ByteSize)
  else if expected.toList.all isAsciiHexdigit then .ok ()
  else .error "SHA-256 hash contains invalid characters: must be hex digits only"

/-- A file of an archive, by its place below the directory it is unpacked to. -/
structure Entry (Content : Type*) where
  dir : Path
  name : String
  content : Content

/-- What an operation meets: the replies of the operating system, what the network sends, and what
libraries and the user say of it. -/
structure Environment (Content : Type*) where
  os : ℕ → Reply Content
  downloaded : Content
  sha256 : Content → String
  /-- The files of an archive, and what is wrong with it after them. -/
  unpack : Content → List (Entry Content) × Option String
  /-- The files on the disk in the order in which directories list them. -/
  listing : List Path
  proceed : Bool
  installedAt : String
  source : String
  libraryError : String

/-! ## Operations -/

section

variable {Text Content : Type*} (coding : Coding Text Content) (yaml : YamlFormat Text)
  (literal : String → Text) (target : String) (paths : SeidrumPaths) (env : Environment Content)

def readText (disk : Disk Content) (path : Path) : Except String Text :=
  match disk path with
  | some (.file content) =>
      match coding.decode content with
      | some text => .ok text
      | none => .error env.libraryError
  | _ => .error env.libraryError

/-- Write the plugins file as an edit leaves it. -/
def editPlugins (edit : PluginsFile Text → PluginsResult Text) : Command Content :=
  fun disk ↦
    match edit (Kernel.Bundles.pluginsFile coding disk paths.pluginsYaml) with
    | (.ok (), .text content) =>
        .ok (some (.write paths.configDir "plugins.yaml" (coding.encode content) ""))
    | (.ok (), _) => .ok none
    | (.error (.message text), _) => .error text
    | (.error .outside, _) => .error env.libraryError

def saveRegistry (registry : InstalledPackagesRegistry) : Action Content :=
  .write paths.seidrumHome "installed.yaml" (coding.encode (yaml.print (registryYaml registry))) ""

/-- The packages that are recorded; a registry that cannot be parsed counts as empty. -/
def recordedPackages (disk : Disk Content) : Except String InstalledPackagesRegistry :=
  if (disk paths.installedYaml).isSome then
    (readText coding env disk paths.installedYaml).map fun text ↦
      ((yaml.parse text).bind registryOf).getD ⟨[]⟩
  else .ok ⟨[]⟩

def recordPackage (kind : PackageKind) (manifest : PackageManifest) : Command Content :=
  fun disk ↦
    let package := ⟨manifest.name, manifest.version, kind, env.installedAt, env.source⟩
    (recordedPackages coding yaml paths env disk).map fun registry ↦
      some (saveRegistry coding yaml paths (registry.add package))

/-- Compare the checksum of a file. -/
def verifySha256 (expected : String) (path : Path) : Command Content :=
  fun disk ↦
    match checkSha256Format expected, disk path with
    | .error error, _ => .error error
    | .ok (), some (.file content) =>
        if env.sha256 content = expected then .ok none else .error "SHA-256 verification failed"
    | .ok (), _ => .error env.libraryError

def extractTarGz : List (Command Content) :=
  let archive := env.unpack env.downloaded
  archive.1.map (fun entry ↦
      Command.act (.write (paths.extractDir ++ entry.dir) entry.name entry.content "")) ++
    archive.2.toList.map Command.fail

/-- The first unpacked file with the name of the plugin in its own. -/
def findExecutable (name : String) (disk : Disk Content) : Except String Content :=
  let found := env.listing.find? fun path ↦
    paths.extractDir.isPrefixOf path && disk.isFile path && contains (path.getLastD "") name
  match found.bind disk with
  | some (.file content) => .ok content
  | _ => .error ("Could not find executable for plugin " ++ name)

def installPlugin (manifest : PackageManifest) : List (Command Content) :=
  Command.act (.makeDir paths.tempDir) ::
    match manifest.artifacts.find? (·.target = target) with
    | none =>
        [Command.fail ("No artifact found for target " ++ target ++ ". Available targets: " ++
          ", ".intercalate (manifest.artifacts.map fun artifact ↦
            artifact.target ++ " (" ++ artifact.url ++ ")"))]
    | some artifact =>
        [Command.check (validateArtifactUrl artifact.url),
          Command.act .call,
          Command.act (.write paths.tempDir (artifactName artifact.url) env.downloaded ""),
          verifySha256 env artifact.sha256 (resolve paths.tempDir (artifactName artifact.url)),
          Command.act (.makeDir paths.extractDir)] ++
        extractTarGz paths env ++
        [fun disk ↦ (findExecutable paths env manifest.name disk).map fun _ ↦ none,
          Command.act (.makeDir paths.managedBinDir),
          fun disk ↦ (findExecutable paths env manifest.name disk).map fun content ↦
            some (.write paths.managedBinDir manifest.name content ""),
          Command.act .call,
          editPlugins coding paths env (addPluginToConfig yaml manifest.name manifest.name true),
          Command.act (.discard paths.extractDir),
          Command.act (.discard (resolve paths.tempDir (artifactName artifact.url)))]

def agentYaml (manifest : PackageManifest) : String :=
  "agent:\n  id: " ++ manifest.name ++ "\n  description: " ++ manifest.description.getD "" ++
    "\n  enabled: false\n  scope: \"default\"\n  subscribe:\n    - \"channel.*.inbound\"\n" ++
    "  prompt: \"prompts/" ++ manifest.name ++ ".md\"\n  tools: []\n"

def promptText (manifest : PackageManifest) : String :=
  "# " ++ manifest.name ++ "\n\n" ++ manifest.description.getD "" ++
    "\n\nYou are a helpful AI assistant.\n"

def installAgent (manifest : PackageManifest) : List (Command Content) :=
  [Command.act (.makeDir paths.agentsDir),
    Command.act (.write paths.agentsDir (manifest.name ++ ".yaml")
      (coding.encode (literal (agentYaml manifest))) ""),
    Command.act (.makeDir paths.promptsDir),
    fun disk ↦ .ok (if disk.has paths.promptsDir (manifest.name ++ ".md") then none
      else some (.write paths.promptsDir (manifest.name ++ ".md")
        (coding.encode (literal (promptText manifest))) ""))]

/-- Install a package of one of the two kinds, if the user wants that. -/
def install (commands : List (Command Content)) (kind : PackageKind) (manifest : PackageManifest)
    (disk : Disk Content) : Effect Content String :=
  if env.proceed then
    runAll (commands ++ [recordPackage coding yaml paths env kind manifest]) env.os disk
  else .quiet disk

/-- The package of the name and the registry it is in. -/
def lookUp (name : String) (disk : Disk Content) : Except String InstalledPackagesRegistry :=
  if (disk paths.installedYaml).isSome then
    (readText coding env disk paths.installedYaml).bind fun text ↦
      match (yaml.parse text).bind registryOf with
      | none => .error env.libraryError
      | some registry =>
          if (registry.find name).isSome then .ok registry
          else .error ("Package " ++ name ++ " not installed")
  else .error "No packages installed yet"

/-- What is removed and written when a package is uninstalled; below an agents directory that is a file
there is nothing. -/
def uninstallCommands (name : String) (registry : InstalledPackagesRegistry) : List (Command Content) :=
  [fun disk ↦ .ok (if disk.has paths.managedBinDir name then some (.remove paths.managedBinDir name)
      else none),
    editPlugins coding paths env (removePluginFromConfig yaml name true),
    fun disk ↦ .ok (if disk.isDir paths.agentsDir && disk.has paths.agentsDir (name ++ ".yaml") then
      some (.remove paths.agentsDir (name ++ ".yaml")) else none),
    Command.act (saveRegistry coding yaml paths (registry.remove name))]

def uninstall (name : String) (disk : Disk Content) : Effect Content String :=
  match lookUp coding yaml paths env name disk with
  | .error error => .failed disk error
  | .ok registry =>
      if env.proceed then runAll (uninstallCommands coding yaml paths env name registry) env.os disk
      else .quiet disk

/-- A name of a file leads to a path that may be written or removed. -/
def Confined (places : Kernel.Places) (dir : Path) (name : String) : Prop :=
  isFileName name → places.Allows (resolve dir name)

/-- The plugin is refused before it is downloaded; or its archive is kept in a managed place and refused
for the form of its checksum. -/
def PluginSafe (manifest : PackageManifest) : Prop :=
  ∀ artifact, manifest.artifacts.find? (·.target = target) = some artifact →
    validateArtifactUrl artifact.url = .ok () → isFileName (artifactName artifact.url) →
      paths.places.Allows (resolve paths.tempDir (artifactName artifact.url)) ∧
        checkSha256Format artifact.sha256 ≠ .ok ()

def AgentSafe (manifest : PackageManifest) : Prop :=
  Confined paths.places paths.agentsDir (manifest.name ++ ".yaml") ∧
    Confined paths.places paths.promptsDir (manifest.name ++ ".md")

/-- Where the name leads to the directory of the agents itself, the removal of the binary fails. -/
def UninstallSafe (name : String) : Prop :=
  Confined paths.places paths.managedBinDir name ∧
    (resolve paths.managedBinDir name = paths.agentsDir ∨
      Confined paths.places paths.agentsDir (name ++ ".yaml"))

/-- All that is written or removed may be. -/
def Allowed (effect : Effect Content String) : Prop :=
  ∀ path, effect.touched path → paths.places.Allows path

theorem isExtension_yaml : IsExtension ".yaml" := ⟨by decide, by decide, by decide⟩

theorem isExtension_md : IsExtension ".md" := ⟨by decide, by decide, by decide⟩

section

variable {coding yaml literal target paths env}
variable {reply : Reply Content} {disk : Disk Content} {path : Path} {kind : PackageKind}
  {manifest : PackageManifest} {registry : InstalledPackagesRegistry} {name : String}
  {commands : List (Command Content)}

theorem allows_pluginsYaml : paths.places.Allows (resolve paths.configDir "plugins.yaml") :=
  .inr (.inl (Kernel.Bundles.resolve_pluginsYaml paths.configDir))

theorem allows_installedYaml : paths.places.Allows (resolve paths.seidrumHome "installed.yaml") :=
  .inr (.inr (resolve_of_not_mem (by decide) (by decide +kernel)))

variable {action : Action Content} {os : ℕ → Reply Content} {command : Command Content} {expected : String}
  {first second : Path} {word word' : String} {dir : Path}

theorem editPlugins_eq {edit : PluginsFile Text → PluginsResult Text}
    (h : editPlugins coding paths env edit disk = .ok (some action)) :
    ∃ content, action = .write paths.configDir "plugins.yaml" content "" := by
  unfold editPlugins at h
  split at h
  · exact ⟨_, (Option.some.inj (Except.ok.inj h)).symm⟩
  all_goals cases h

theorem allows_of_saveRegistry
    (h : (saveRegistry coding yaml paths registry).Touches reply disk path) :
    paths.places.Allows path := by
  rw [h.2.2]
  exact allows_installedYaml

theorem allows_of_recordPackage
    (h : (recordPackage coding yaml paths env kind manifest).Touches reply disk path) :
    paths.places.Allows path := by
  obtain ⟨action, haction, htouches⟩ := Command.touches_iff.mp h
  unfold recordPackage at haction
  cases hrecorded : recordedPackages coding yaml paths env disk with
  | error error => rw [hrecorded] at haction; cases haction
  | ok registry =>
    rw [hrecorded] at haction
    obtain rfl := Option.some.inj (Except.ok.inj haction)
    exact allows_of_saveRegistry htouches

theorem allowed_runAll
    (h : ∀ command ∈ commands, ∀ reply disk path, command.Touches reply disk path → paths.places.Allows path) :
    Allowed paths (runAll commands os disk) :=
  (runAll_keeps (I := fun _ ↦ True)
    (fun command hmem reply disk _ ↦ ⟨trivial, h command hmem reply disk⟩) trivial).2

theorem allowed_install (h : Allowed paths
    (runAll (commands ++ [recordPackage coding yaml paths env kind manifest]) env.os disk)) :
    Allowed paths (install coding yaml paths env commands kind manifest disk) := by
  unfold install
  split
  · exact h
  · exact fun _ htouched ↦ by cases htouched

/-- An operating system that refuses nothing, and a network that sends what is wanted. -/
def obliging (content : Content) (checksum : String) : Environment Content where
  os _ := .done
  downloaded := content
  sha256 _ := checksum
  unpack _ := ([⟨["x"], "x", content⟩], none)
  listing := []
  proceed := true
  installedAt := ""
  source := ""
  libraryError := ""

/-- A disk with some directories only. -/
def dirsOnly (dirs : List Path) : Disk Content := fun path ↦ if path ∈ dirs then some .dir else none

variable {dirs : List Path}

theorem dirsOnly_of_mem (h : path ∈ dirs) : (dirsOnly dirs : Disk Content) path = some .dir :=
  if_pos h

theorem dirsOnly_of_not_mem (h : path ∉ dirs) : (dirsOnly dirs : Disk Content) path = none :=
  if_neg h

theorem allowed_installAgent (h : AgentSafe paths manifest) :
    Allowed paths (install coding yaml paths env (installAgent coding literal paths manifest) .agent
      manifest disk) := by
  refine allowed_install (allowed_runAll fun command hmem reply disk path htouches ↦ ?_)
  simp only [installAgent, List.cons_append, List.nil_append, List.mem_cons, List.not_mem_nil,
    or_false] at hmem
  rcases hmem with rfl | rfl | rfl | rfl | rfl
  · exact htouches.elim
  · rw [htouches.2.2]
    exact h.1 htouches.1.1
  · exact htouches.elim
  · obtain ⟨action, haction, htouches⟩ := Command.touches_iff.mp htouches
    obtain rfl := Option.some.inj (Option.ite_none_left_eq_some.mp (Except.ok.inj haction)).2
    rw [htouches.2.2]
    exact h.2 htouches.1.1
  · exact allows_of_recordPackage htouches

variable (coding yaml literal paths) in
/-- The files of an agent with the name are written where they are missing. -/
theorem touched_installAgent (haccepted : isAccepted manifest.name) (content : Content) :
    let effect := install coding yaml paths (obliging content "")
      (installAgent coding literal paths manifest) .agent manifest
      (dirsOnly [paths.agentsDir, paths.promptsDir])
    effect.touched (resolve paths.agentsDir (manifest.name ++ ".yaml")) ∧
      effect.touched (resolve paths.promptsDir (manifest.name ++ ".md")) := by
  have hfile : isFileName (manifest.name ++ ".yaml") := by
    rw [isFileName_append isExtension_yaml, haccepted]
  have hprompt : isFileName (manifest.name ++ ".md") := by
    rw [isFileName_append isExtension_md, haccepted]
  set agent := resolve paths.agentsDir (manifest.name ++ ".yaml") with hagent
  set prompt := resolve paths.promptsDir (manifest.name ++ ".md") with hpromptPath
  have hends {path : Path} {word : String} (h : path.getLast? = some word) :
      (path = agent → ".yaml".toList <:+ word.toList) ∧ (path = prompt → ".md".toList <:+ word.toList) :=
    ⟨fun heq ↦ suffix_of_resolve isExtension_yaml haccepted (heq ▸ h),
      fun heq ↦ suffix_of_resolve isExtension_md haccepted (heq ▸ h)⟩
  have hagents : paths.agentsDir.getLast? = some "agents" := List.getLast?_concat
  have hprompts : paths.promptsDir.getLast? = some "prompts" := List.getLast?_concat
  have hagent₁ : paths.agentsDir ≠ agent := fun h ↦ absurd ((hends hagents).1 h) (by decide)
  have hagent₂ : paths.promptsDir ≠ agent := fun h ↦ absurd ((hends hprompts).1 h) (by decide)
  have hprompt₁ : paths.agentsDir ≠ prompt := fun h ↦ absurd ((hends hagents).2 h) (by decide)
  have hprompt₂ : paths.promptsDir ≠ prompt := fun h ↦ absurd ((hends hprompts).2 h) (by decide)
  have hne : prompt ≠ agent := by
    intro heq
    obtain ⟨stem, hstem⟩ := exists_getLast?_components isExtension_md manifest.name
    have hlast := (getLast?_resolve paths.promptsDir hprompt).trans hstem
    have hboth := List.suffix_or_suffix_of_suffix ((hends hlast).1 heq) ((hends hlast).2 rfl)
    exact absurd hboth (by decide)
  set dirs := [paths.agentsDir, paths.promptsDir]
  have hagentFree : (dirsOnly dirs : Disk Content) agent = none :=
    dirsOnly_of_not_mem (by simp [dirs, hagent₁.symm, hagent₂.symm])
  have hpromptFree : (dirsOnly dirs : Disk Content) prompt = none :=
    dirsOnly_of_not_mem (by simp [dirs, hprompt₁.symm, hprompt₂.symm])
  have hwrite : isFileName (manifest.name ++ ".yaml") ∧
      (dirsOnly dirs : Disk Content).isDir agent = false :=
    ⟨hfile, by rw [Disk.isDir, hagentFree, Option.any_none]⟩
  have hfirst : (dirsOnly dirs : Disk Content) paths.agentsDir = some .dir :=
    dirsOnly_of_mem List.mem_cons_self
  simp only [install, obliging, if_true, installAgent, List.cons_append, List.nil_append]
  constructor
  · refine touched_cons_of_quiet (Command.perform_makeDir hfirst) ?_
    exact touched_cons ⟨hwrite, by simp, rfl⟩
  · refine touched_cons_of_quiet (Command.perform_makeDir hfirst) ?_
    refine touched_cons_of_write rfl hwrite ?_
    set disk := (dirsOnly dirs : Disk Content).put agent
      (some (.file (coding.encode (literal (agentYaml manifest)))))
    have hput {path : Path} (hpath : path ≠ agent) : disk path = (dirsOnly dirs : Disk Content) path :=
      Function.update_of_ne hpath _ _
    have hdir : disk paths.promptsDir = some .dir := by
      rw [hput hagent₂]
      exact dirsOnly_of_mem (List.mem_cons_of_mem _ List.mem_cons_self)
    have hmissing : disk prompt = none := by rw [hput hne, hpromptFree]
    have hhas : disk.has paths.promptsDir (manifest.name ++ ".md") = false :=
      (if_pos hprompt).trans (congrArg Option.isSome hmissing)
    refine touched_cons_of_quiet (Command.perform_makeDir hdir) ?_
    refine touched_cons (Command.touches_iff.mpr ?_)
    exact ⟨_, congrArg _ (if_neg (Bool.eq_false_iff.mp hhas)),
      ⟨hprompt, congrArg (Option.any Node.isDir) hmissing⟩, by simp, rfl⟩

theorem allowed_installAgent_iff : (∀ env disk, Allowed paths (install coding yaml paths env
    (installAgent coding literal paths manifest) .agent manifest disk)) ↔ AgentSafe paths manifest := by
  refine ⟨fun h ↦ ?_, fun h env disk ↦ allowed_installAgent h⟩
  by_cases haccepted : isAccepted manifest.name
  · have htouched := touched_installAgent coding yaml literal paths haccepted
      (coding.encode (literal ""))
    exact ⟨fun _ ↦ h _ _ _ htouched.1, fun _ ↦ h _ _ _ htouched.2⟩
  · refine ⟨fun hfile ↦ absurd ?_ haccepted, fun hfile ↦ absurd ?_ haccepted⟩
    · rwa [isFileName_append isExtension_yaml] at hfile
    · rwa [isFileName_append isExtension_md] at hfile

/-! ## Plugins -/

theorem not_mem_artifactName (url : String) : '/' ∉ (artifactName url).toList := by
  have hne : components url ≠ [] := by simp [components]
  rw [artifactName, List.getLastD_eq_getLast?, List.getLast?_eq_getLast_of_ne_nil hne, Option.getD_some]
  exact not_mem_of_mem_components (List.getLast_mem hne)

theorem allowed_of_fails {rest : List (Command Content)} (before : List (Command Content))
    (hfails : ∀ reply disk, ¬command.Succeeds reply disk)
    (h : ∀ first ∈ before ++ [command], ∀ reply disk path, first.Touches reply disk path →
      paths.places.Allows path) : Allowed paths (runAll (before ++ command :: rest) os disk) := by
  rw [runAll_of_fails hfails]
  exact allowed_runAll h

theorem verifySha256_eq {action : Option (Action Content)}
    (h : verifySha256 env expected path disk = .ok action) :
    checkSha256Format expected = .ok () ∧ action = none := by
  unfold verifySha256 at h
  split at h
  · cases h
  · rename_i hformat hnode
    split at h
    · exact ⟨hformat, (Except.ok.inj h).symm⟩
    · cases h
  · cases h

theorem allowed_installPlugin (h : PluginSafe target paths manifest) :
    Allowed paths (install coding yaml paths env (installPlugin coding yaml target paths env manifest)
      .plugin manifest disk) := by
  refine allowed_install ?_
  unfold installPlugin
  cases hfind : manifest.artifacts.find? (·.target = target) with
  | none =>
    refine allowed_of_fails [Command.act (.makeDir paths.tempDir)] (fun _ _ ↦ id) ?_
    simp only [List.cons_append, List.nil_append, List.mem_cons, List.not_mem_nil, or_false]
    rintro first (rfl | rfl) reply disk path htouches
    all_goals exact htouches.elim
  | some artifact =>
    by_cases hurl : validateArtifactUrl artifact.url = .ok ()
    · by_cases hfile : isFileName (artifactName artifact.url)
      · obtain ⟨hallows, hsha⟩ := h artifact hfind hurl hfile
        refine allowed_of_fails [Command.act (.makeDir paths.tempDir),
          Command.check (validateArtifactUrl artifact.url), Command.act .call,
          Command.act (.write paths.tempDir (artifactName artifact.url) env.downloaded "")] ?_ ?_
        · intro reply disk hsucceeds
          unfold Command.Succeeds at hsucceeds
          split at hsucceeds
          · exact hsucceeds
          · rename_i hverify
            exact hsha (verifySha256_eq hverify).1
          · rename_i action hverify
            exact hsha (verifySha256_eq hverify).1
        · simp only [List.cons_append, List.nil_append, List.mem_cons, List.not_mem_nil, or_false]
          rintro first (rfl | rfl | rfl | rfl | rfl) reply disk path htouches
          · exact htouches.elim
          · exact (Command.not_touches_check _ htouches).elim
          · exact htouches.elim
          · rw [htouches.2.2]
            exact hallows
          · obtain ⟨action, hverify, -⟩ := Command.touches_iff.mp htouches
            cases (verifySha256_eq hverify).2
      · refine allowed_of_fails [Command.act (.makeDir paths.tempDir),
          Command.check (validateArtifactUrl artifact.url), Command.act .call]
          (fun reply disk hsucceeds ↦ hfile hsucceeds.1.1) ?_
        simp only [List.cons_append, List.nil_append, List.mem_cons, List.not_mem_nil, or_false]
        rintro first (rfl | rfl | rfl | rfl) reply disk path htouches
        · exact htouches.elim
        · exact (Command.not_touches_check _ htouches).elim
        · exact htouches.elim
        · exact absurd htouches.1.1 hfile
    · refine allowed_of_fails [Command.act (.makeDir paths.tempDir)]
        (fun reply disk hsucceeds ↦ hurl (Command.succeeds_check hsucceeds)) ?_
      simp only [List.cons_append, List.nil_append, List.mem_cons, List.not_mem_nil, or_false]
      rintro first (rfl | rfl) reply disk path htouches
      · exact htouches.elim
      · exact (Command.not_touches_check _ htouches).elim

theorem verifySha256_of_eq {content : Content} (hformat : checkSha256Format expected = .ok ())
    (hnode : disk path = some (.file content)) (hsum : env.sha256 content = expected) :
    verifySha256 env expected path disk = .ok none := by
  rw [verifySha256, hformat, hnode]
  exact if_pos hsum

variable (coding yaml paths) in
/-- The archive of a plugin is written where it is missing, and unpacked if its checksum can be right. -/
theorem touched_installPlugin {artifact : PackageArtifact}
    (hfind : manifest.artifacts.find? (·.target = target) = some artifact)
    (hurl : validateArtifactUrl artifact.url = .ok ())
    (hfile : isFileName (artifactName artifact.url)) (content : Content)
    (htemp : paths.tempDir ∈ dirs)
    (hfree : resolve paths.tempDir (artifactName artifact.url) ∉ dirs) :
    let effect := install coding yaml paths (obliging content artifact.sha256)
      (installPlugin coding yaml target paths (obliging content artifact.sha256) manifest) .plugin
      manifest (dirsOnly dirs)
    effect.touched (resolve paths.tempDir (artifactName artifact.url)) ∧
      (checkSha256Format artifact.sha256 = .ok () → paths.extractDir ∈ dirs →
        paths.extractDir ++ ["x", "x"] ∉ dirs →
        resolve paths.tempDir (artifactName artifact.url) ≠ paths.extractDir ++ ["x", "x"] →
          effect.touched (paths.extractDir ++ ["x", "x"])) := by
  have htemp' : (dirsOnly dirs : Disk Content) paths.tempDir = some .dir := dirsOnly_of_mem htemp
  have hwrite : isFileName (artifactName artifact.url) ∧ (dirsOnly dirs : Disk Content).isDir
      (resolve paths.tempDir (artifactName artifact.url)) = false :=
    ⟨hfile, congrArg (Option.any Node.isDir) (dirsOnly_of_not_mem hfree)⟩
  simp only [install, obliging, if_true, installPlugin, hfind, hurl, extractTarGz, List.map_cons,
    List.map_nil, Option.toList_none, List.cons_append, List.nil_append, List.append_nil]
  constructor
  · refine touched_cons_of_quiet (Command.perform_makeDir htemp') ?_
    refine touched_cons_of_quiet rfl (touched_cons_of_quiet rfl ?_)
    exact touched_cons ⟨hwrite, nofun, rfl⟩
  · intro hformat hextract hentry hne
    have hentryPath : resolve (paths.extractDir ++ ["x"]) "x" = paths.extractDir ++ ["x", "x"] := by
      rw [resolve_of_not_mem (by decide) (by decide), List.append_assoc]
      rfl
    refine touched_cons_of_quiet (Command.perform_makeDir htemp') ?_
    refine touched_cons_of_quiet rfl (touched_cons_of_quiet rfl ?_)
    refine touched_cons_of_write rfl hwrite ?_
    set archive := resolve paths.tempDir (artifactName artifact.url)
    set disk := (dirsOnly dirs : Disk Content).put archive (some (.file content))
    have hput {path : Path} (hpath : path ≠ archive) : disk path = (dirsOnly dirs : Disk Content) path :=
      Function.update_of_ne hpath _ _
    have hnode : disk archive = some (.file content) := Function.update_self ..
    have hextract' : disk paths.extractDir = some .dir := by
      rw [hput fun heq ↦ hfree (heq ▸ hextract)]
      exact dirsOnly_of_mem hextract
    have hnew : disk.isDir (resolve (paths.extractDir ++ ["x"]) "x") = false := by
      rw [hentryPath, Disk.isDir, hput hne.symm, dirsOnly_of_not_mem hentry]
      rfl
    refine touched_cons_of_quiet (Command.perform_of_none (verifySha256_of_eq hformat hnode rfl)) ?_
    refine touched_cons_of_quiet (Command.perform_makeDir hextract') ?_
    exact touched_cons ⟨⟨by decide, hnew⟩, nofun, hentryPath.symm⟩

theorem concat_inj (h : first ++ [word] = second ++ [word']) : word = word' :=
  List.singleton_inj.mp (List.append_inj' h rfl).2

theorem concat_ne (h : word ≠ word') : first ++ [word] ≠ second ++ [word'] :=
  fun heq ↦ h (concat_inj heq)

/-- A path below a directory is allowed for the name of the directory or for its own. -/
theorem mem_of_allows {last : String} (h : paths.places.Allows (dir ++ [word] ++ [last])) :
    word ∈ ["agents", "prompts", "presets", "bin"] ∨ last ∈ ["plugins.yaml", "installed.yaml"] := by
  rcases h with ⟨-, hdir⟩ | hpath | hpath
  · rw [List.dropLast_concat] at hdir
    simp only [List.mem_cons, List.not_mem_nil, or_false] at hdir
    rcases hdir with hdir | hdir | hdir | hdir
    all_goals exact .inl (by simp [concat_inj hdir])
  all_goals exact .inr (by simp [concat_inj hpath])

variable (coding) in
theorem allowed_installPlugin_iff : (∀ env disk, Allowed paths (install coding yaml paths env
    (installPlugin coding yaml target paths env manifest) .plugin manifest disk)) ↔
      PluginSafe target paths manifest := by
  refine ⟨fun h artifact hfind hurl hfile ↦ ?_, fun h env disk ↦ allowed_installPlugin h⟩
  have hpath : resolve paths.tempDir (artifactName artifact.url) =
      paths.tempDir ++ [artifactName artifact.url] :=
    resolve_of_not_mem (not_mem_artifactName artifact.url) hfile
  set content := coding.encode (yaml.print (mapping []))
  have hallows : paths.places.Allows (resolve paths.tempDir (artifactName artifact.url)) := by
    have hfree : resolve paths.tempDir (artifactName artifact.url) ∉ [paths.tempDir] := by
      rw [hpath, List.mem_singleton]
      simp
    exact h _ _ _ (touched_installPlugin coding yaml paths hfind hurl hfile content
      List.mem_cons_self hfree).1
  refine ⟨hallows, fun hformat ↦ ?_⟩
  have hname : artifactName artifact.url ∈ ["plugins.yaml", "installed.yaml"] := by
    rw [hpath] at hallows
    exact (mem_of_allows hallows).resolve_left (by decide)
  have hne : artifactName artifact.url ≠ "extract" := fun heq ↦ absurd (heq ▸ hname) (by decide)
  have hlength : paths.extractDir.length = paths.tempDir.length + 1 := List.length_append
  have hfree : resolve paths.tempDir (artifactName artifact.url) ∉
      [paths.tempDir, paths.extractDir] := by
    rw [hpath, SeidrumPaths.extractDir]
    simpa using hne
  have hlonger {path : Path} (h : path.length ≤ paths.extractDir.length) :
      path ≠ paths.extractDir ++ ["x", "x"] := by
    rintro rfl
    simp [List.length_append] at h
  have hentry : paths.extractDir ++ ["x", "x"] ∉ [paths.tempDir, paths.extractDir] := by
    simp only [List.mem_cons, List.not_mem_nil, or_false, not_or]
    exact ⟨(hlonger (by omega)).symm, (hlonger le_rfl).symm⟩
  have hapart : resolve paths.tempDir (artifactName artifact.url) ≠ paths.extractDir ++ ["x", "x"] := by
    rw [hpath]
    exact hlonger (by rw [hlength, List.length_append]; rfl)
  have htouched := (touched_installPlugin coding yaml paths hfind hurl hfile content
    List.mem_cons_self hfree).2 hformat (List.mem_cons_of_mem _ List.mem_cons_self) hentry hapart
  have hallowed : paths.places.Allows (paths.extractDir ++ ["x"] ++ ["x"]) := by
    rw [List.append_assoc]
    exact h _ _ _ htouched
  rcases mem_of_allows hallowed with hmem | hmem
  all_goals exact absurd hmem (by decide)

theorem removeIf_eq {wanted : Bool}
    (h : (.ok (if wanted then some (.remove dir name) else none) :
      Except String (Option (Action Content))) = .ok (some action)) :
    wanted = true ∧ action = .remove dir name := by
  have haction := Option.ite_none_right_eq_some.mp (Except.ok.inj h)
  exact ⟨haction.1, (Option.some.inj haction.2).symm⟩

/-- The commands ask for allowed writes and removals, and for that of the file of an agent. -/
theorem uninstallCommands_eq (hmem : command ∈ uninstallCommands coding yaml paths env name registry)
    (haction : command disk = .ok (some action)) :
    action = .remove paths.managedBinDir name ∨
      (∃ content, action = .write paths.configDir "plugins.yaml" content "") ∨
      (disk.isDir paths.agentsDir ∧ action = .remove paths.agentsDir (name ++ ".yaml")) ∨
      ∃ content, action = .write paths.seidrumHome "installed.yaml" content "" := by
  simp only [uninstallCommands, List.mem_cons, List.not_mem_nil, or_false] at hmem
  rcases hmem with rfl | rfl | rfl | rfl
  · exact .inl (removeIf_eq haction).2
  · exact .inr (.inl (editPlugins_eq haction))
  · obtain ⟨hwanted, hremove⟩ := removeIf_eq haction
    exact .inr (.inr (.inl ⟨(Bool.and_eq_true_iff.mp hwanted).1, hremove⟩))
  · exact .inr (.inr (.inr ⟨_, (Option.some.inj (Except.ok.inj haction)).symm⟩))

theorem allows_of_uninstallCommands (hmem : command ∈ uninstallCommands coding yaml paths env name registry)
    (hbin : Confined paths.places paths.managedBinDir name)
    (hagents : disk.isDir paths.agentsDir → Confined paths.places paths.agentsDir (name ++ ".yaml"))
    (h : command.Touches reply disk path) : paths.places.Allows path := by
  obtain ⟨action, haction, htouches⟩ := Command.touches_iff.mp h
  rcases uninstallCommands_eq hmem haction with rfl | ⟨content, rfl⟩ | ⟨hdir, rfl⟩ | ⟨content, rfl⟩
  · rw [htouches.2.2]
    exact hbin htouches.1.1
  · rw [htouches.2.2]
    exact allows_pluginsYaml
  · rw [htouches.2.2]
    exact hagents hdir htouches.1.1
  · rw [htouches.2.2]
    exact allows_installedYaml

theorem allowed_uninstallCommands (h : UninstallSafe paths name) :
    Allowed paths (runAll (uninstallCommands coding yaml paths env name registry) os disk) := by
  by_cases hagents : Confined paths.places paths.agentsDir (name ++ ".yaml")
  · exact allowed_runAll fun command hmem reply disk path ↦
      allows_of_uninstallCommands hmem h.1 fun _ ↦ hagents
  by_cases hdir : disk.isDir paths.agentsDir
  · -- the directory is taken for the binary, which fails before anything is written
    have hplace := h.2.resolve_right hagents
    have haccepted : isAccepted name := by
      by_contra hne
      exact hagents fun hfile ↦ absurd (by rwa [isFileName_append isExtension_yaml] at hfile) hne
    have hhas : disk.has paths.managedBinDir name := by
      rw [Disk.has, hplace, haccepted, hdir]
      split
      · exact Option.isSome_of_any hdir
      · rfl
    have hfile : disk.isFile (resolve paths.managedBinDir name) = false := by
      rw [hplace, Disk.isFile_of_isDir hdir]
    have hfails : FailsFirst (uninstallCommands coding yaml paths env name registry) os disk := by
      refine ⟨fun path htouches ↦ ?_, .inl fun hsucceeds ↦ ?_⟩
      · obtain ⟨action, haction, htouches⟩ := Command.touches_iff.mp htouches
        obtain ⟨-, rfl⟩ := removeIf_eq haction
        exact Bool.false_ne_true (hfile.symm.trans htouches.1.2)
      · rw [Command.Succeeds, hhas, if_pos rfl] at hsucceeds
        exact Bool.false_ne_true (hfile.symm.trans hsucceeds.1.2)
    exact fun path htouched ↦ absurd ((failsFirst_iff.mp hfails).2 path) (by simp [htouched])
  · refine (runAll_keeps (I := fun disk ↦ disk.isDir paths.agentsDir = false)
      (fun command hmem reply disk hinit ↦ ⟨?_, fun path ↦ ?_⟩) (Bool.eq_false_iff.mpr hdir)).2
    · refine Command.perform_isDir (fun action haction dir ↦ ?_) hinit
      rcases uninstallCommands_eq hmem haction with rfl | ⟨content, rfl⟩ | ⟨hdir, rfl⟩ | ⟨content, rfl⟩
      all_goals simp
    · refine allows_of_uninstallCommands hmem h.1 fun hdir ↦ ?_
      rw [hinit] at hdir
      cases hdir

/-! ### A name that leads elsewhere -/

/-- A registry with a package of the name. -/
def registryWith (name : String) : InstalledPackagesRegistry := ⟨[⟨name, "", .agent, "", ""⟩]⟩

variable (coding yaml paths) in
/-- A disk with some directories, a registry with the package and no plugins file; everything else is a
file. -/
def registered (name : String) (dirs : List Path) : Disk Content := fun path ↦
  if path ∈ dirs then some .dir
  else if path = paths.pluginsYaml then none
  else some (.file (coding.encode (yaml.print (registryYaml (registryWith name)))))

theorem registered_of_mem (h : path ∈ dirs) :
    registered coding yaml paths name dirs path = some .dir :=
  if_pos h

theorem isFile_registered (hdir : path ∉ dirs) (hplugins : path ≠ paths.pluginsYaml) :
    (registered coding yaml paths name dirs).isFile path := by
  rw [Disk.isFile, registered, if_neg hdir, if_neg hplugins]
  rfl

theorem not_isDir_registered (hdir : path ∉ dirs) :
    (registered coding yaml paths name dirs).isDir path = false := by
  rw [Disk.isDir, registered, if_neg hdir]
  split <;> rfl

variable (coding yaml paths) in
theorem uninstall_registered (hdirs : paths.installedYaml ∉ dirs) (content : Content) :
    uninstall coding yaml paths (obliging content "") name (registered coding yaml paths name dirs) =
      runAll (uninstallCommands coding yaml paths (obliging content "") name (registryWith name))
        (fun _ ↦ .done) (registered coding yaml paths name dirs) := by
  have hne : paths.installedYaml ≠ paths.pluginsYaml := concat_ne (by decide)
  have hnode : registered coding yaml paths name dirs paths.installedYaml =
      some (.file (coding.encode (yaml.print (registryYaml (registryWith name))))) := by
    rw [registered, if_neg hdirs, if_neg hne]
  have hlookUp : lookUp coding yaml paths (obliging content "") name
      (registered coding yaml paths name dirs) = .ok (registryWith name) := by
    have hparse := yaml.parse_print (isGeneric_registryYaml (registryWith name))
    have hfind : ((registryWith name).find name).isSome := by
      simp [InstalledPackagesRegistry.find, registryWith]
    simp [lookUp, readText, hnode, coding.decode_encode, hparse, Except.bind, hfind,
      registryOf_registryYaml]
  rw [uninstall, hlookUp]
  rfl

/-- What an uninstall removes after the binary has been dealt with. -/
theorem touched_agentFile (hos : ∀ number, os number = .done) (hdir : disk.isDir paths.agentsDir)
    (hplugins : disk paths.pluginsYaml = none) (hname : isFileName (name ++ ".yaml"))
    (hfile : disk.isFile (resolve paths.agentsDir (name ++ ".yaml"))) :
    (runAll (uninstallCommands coding yaml paths env name registry).tail os disk).touched
      (resolve paths.agentsDir (name ++ ".yaml")) := by
  have hedit : editPlugins coding paths env (removePluginFromConfig yaml name true) disk = .ok none := by
    simp [editPlugins, Kernel.Bundles.pluginsFile, hplugins, removePluginFromConfig]
  have hhas : disk.has paths.agentsDir (name ++ ".yaml") := by
    rw [Disk.has, if_pos hname]
    exact Option.isSome_of_any hfile
  refine touched_cons_of_quiet (Command.perform_of_none hedit) ?_
  refine touched_cons (Command.touches_iff.mpr ⟨_, congrArg _ (if_pos ?_), ⟨hname, hfile⟩, hos _, rfl⟩)
  rw [hdir, hhas]
  rfl

theorem registered_pluginsYaml (hdirs : paths.pluginsYaml ∉ dirs) :
    registered coding yaml paths name dirs paths.pluginsYaml = none :=
  (if_neg hdirs).trans (if_pos rfl)

variable (coding yaml paths) in
/-- What an uninstall of the package does to this disk. -/
def uninstallRegistered (name : String) (dirs : List Path) : Effect Content String :=
  runAll (uninstallCommands coding yaml paths (obliging (coding.encode (yaml.print (mapping []))) "")
    name (registryWith name)) (fun _ ↦ .done) (registered coding yaml paths name dirs)

theorem allowed_uninstallRegistered
    (h : ∀ env disk, Allowed paths (uninstall coding yaml paths env name disk))
    (hdirs : paths.installedYaml ∉ dirs) :
    Allowed paths (uninstallRegistered coding yaml paths name dirs) := by
  rw [uninstallRegistered, ← uninstall_registered coding yaml paths hdirs]
  exact h _ _

/-- The binary is removed wherever its name leads. -/
theorem confined_bin_of_allowed (h : Allowed paths (uninstallRegistered coding yaml paths name [])) :
    Confined paths.places paths.managedBinDir name := by
  intro hname
  by_contra hnot
  have hfile : (registered coding yaml paths name []).isFile (resolve paths.managedBinDir name) :=
    isFile_registered List.not_mem_nil fun heq ↦ hnot (.inr (.inl heq))
  have hhas : (registered coding yaml paths name []).has paths.managedBinDir name := by
    rw [Disk.has, if_pos hname]
    exact Option.isSome_of_any hfile
  refine hnot (h _ (touched_cons (Command.touches_iff.mpr ?_)))
  exact ⟨_, congrArg _ (if_pos hhas), ⟨hname, hfile⟩, rfl, rfl⟩

/-- A binary that is there is a file. -/
theorem isFile_of_has_registered (hdir : resolve paths.managedBinDir name ∉ dirs)
    (hplugins : paths.pluginsYaml ∉ dirs)
    (hhas : (registered coding yaml paths name dirs).has paths.managedBinDir name) :
    isFileName name ∧
      (registered coding yaml paths name dirs).isFile (resolve paths.managedBinDir name) := by
  rw [Disk.has] at hhas
  split at hhas
  · rename_i hname
    refine ⟨hname, isFile_registered hdir fun heq ↦ ?_⟩
    rw [heq, registered_pluginsYaml hplugins] at hhas
    cases hhas
  · have hnone : (registered coding yaml paths name dirs).isDir (resolve paths.managedBinDir name) = false :=
      not_isDir_registered hdir
    rw [hnone, Bool.and_false] at hhas
    cases hhas

/-- The file of an agent is removed wherever its name leads, unless its directory is in the way of the
binary. -/
theorem confined_agentFile_of_allowed
    (h : Allowed paths (uninstallRegistered coding yaml paths name [paths.agentsDir]))
    (hbin : Confined paths.places paths.managedBinDir name)
    (hplace : resolve paths.managedBinDir name ≠ paths.agentsDir) :
    Confined paths.places paths.agentsDir (name ++ ".yaml") := by
  intro hname
  by_contra hnot
  set disk := registered coding yaml paths name [paths.agentsDir]
  set agent := resolve paths.agentsDir (name ++ ".yaml") with hagent
  have hpluginsDir : paths.pluginsYaml ∉ [paths.agentsDir] :=
    fun hmem ↦ concat_ne (by decide) (List.mem_singleton.mp hmem)
  have hplugins : disk paths.pluginsYaml = none := registered_pluginsYaml hpluginsDir
  have hdir : disk.isDir paths.agentsDir :=
    congrArg (Option.any Node.isDir) (registered_of_mem List.mem_cons_self)
  have hfile : disk.isFile agent := by
    have haccepted : isAccepted name := by rwa [isFileName_append isExtension_yaml] at hname
    have hagents : paths.agentsDir.getLast? = some "agents" := List.getLast?_concat
    have hne : agent ≠ paths.agentsDir := fun heq ↦
      absurd (suffix_of_resolve isExtension_yaml haccepted (heq ▸ hagents)) (by decide)
    exact isFile_registered (by simpa using hne) fun heq ↦ hnot (.inr (.inl heq))
  refine hnot (h _ ?_)
  by_cases hhas : disk.has paths.managedBinDir name
  · -- the binary is removed first, which leaves the file of the agent
    obtain ⟨hname', hfile'⟩ := isFile_of_has_registered (by simpa using hplace) hpluginsDir hhas
    have hapart : resolve paths.managedBinDir name ≠ agent := fun heq ↦ hnot (heq ▸ hbin hname')
    have hput {path : Path} (hpath : path ≠ resolve paths.managedBinDir name) :
        disk.put (resolve paths.managedBinDir name) none path = disk path :=
      Function.update_of_ne hpath _ _
    refine touched_cons_of_remove (congrArg _ (if_pos hhas)) rfl ⟨hname', hfile'⟩ ?_
    refine touched_agentFile (fun _ ↦ rfl) ?_ ?_ hname ?_
    · rwa [Disk.isDir, hput (Ne.symm hplace)]
    · by_cases heq : paths.pluginsYaml = resolve paths.managedBinDir name
      · rw [← heq]
        exact Function.update_self ..
      · rw [hput heq, hplugins]
    · rwa [Disk.isFile, hput hapart.symm]
  · refine touched_cons_of_quiet (Command.perform_of_none (congrArg _ (if_neg hhas))) ?_
    exact touched_agentFile (fun _ ↦ rfl) hdir hplugins hname hfile

variable (coding) in
theorem allowed_uninstall_iff : (∀ env disk, Allowed paths (uninstall coding yaml paths env name disk)) ↔
    UninstallSafe paths name := by
  constructor
  · intro h
    have hbin := confined_bin_of_allowed (allowed_uninstallRegistered h List.not_mem_nil)
    refine ⟨hbin, or_iff_not_imp_left.mpr fun hplace ↦ ?_⟩
    have hinstalled : paths.installedYaml ∉ [paths.agentsDir] :=
      fun hmem ↦ concat_ne (by decide) (List.mem_singleton.mp hmem)
    exact confined_agentFile_of_allowed (allowed_uninstallRegistered h hinstalled) hbin hplace
  · intro h env disk
    unfold uninstall
    split
    · exact fun _ htouched ↦ by cases htouched
    · split
      · exact allowed_uninstallCommands h
      · exact fun _ htouched ↦ by cases htouched

end

/-- An import of a bundle, on a disk and with what the operating system replies; or an operation on a
package, on any disk and whatever it meets. -/
inductive Operation (Text Content : Type*)
  | importPreset (state : Kernel.ManagementState) (request : Kernel.Bundles.ImportBundleRequest Text)
      (os : ℕ → Reply Content) (disk : Disk Content)
  | installPlugin (manifest : PackageManifest)
  | installAgent (manifest : PackageManifest)
  | uninstall (name : String)

variable {Other : Type*} (format : Kernel.Bundles.PresetFormat Text Other)

/-- The operation writes and removes managed files only; an import overwrites no file of an agent, a
prompt or a preset, and leaves all files alone if it fails. -/
def Operation.Contained : Operation Text Content → Prop
  | importPreset state request os disk =>
      Kernel.Contained (state.places paths.seidrumHome) disk
        (Kernel.Bundles.importPreset coding yaml format state request os disk)
  | installPlugin manifest => ∀ env disk, Allowed paths (install coding yaml paths env
      (Packages.installPlugin coding yaml target paths env manifest) .plugin manifest disk)
  | installAgent manifest => ∀ env disk, Allowed paths (install coding yaml paths env
      (Packages.installAgent coding literal paths manifest) .agent manifest disk)
  | uninstall name => ∀ env disk, Allowed paths (Packages.uninstall coding yaml paths env name disk)

def Operation.Safe : Operation Text Content → Prop
  | importPreset state request os disk =>
      Kernel.Bundles.ImportSafe coding yaml format state paths.seidrumHome request os disk
  | installPlugin manifest => PluginSafe target paths manifest
  | installAgent manifest => AgentSafe paths manifest
  | uninstall name => UninstallSafe paths name

/-- An operation is contained exactly if it is safe. -/
theorem Operation.contained_iff_safe (op : Operation Text Content) :
    op.Contained coding yaml literal target paths format ↔
      op.Safe coding yaml target paths format := by
  cases op with
  | importPreset state request os disk =>
    exact Kernel.Bundles.importPreset_contained_iff coding yaml format
  | installPlugin manifest => exact allowed_installPlugin_iff coding
  | installAgent manifest => exact allowed_installAgent_iff
  | uninstall name => exact allowed_uninstall_iff coding

end

/-- Files that hold documents. -/
def documents : Coding Yaml Yaml := ⟨id, some, fun _ ↦ rfl⟩

def documentYaml : YamlFormat Yaml := ⟨some, id, fun _ ↦ rfl⟩

/-- A reader of the id of a preset and the agents of its bundle; the document is kept to be written. -/
def presetFormat : Kernel.Bundles.PresetFormat Yaml Yaml where
  parse doc :=
    let preset : Option (Kernel.Bundles.Preset Yaml) := do
      let fields ← (readFields doc).bind (required readFields "preset")
      let id ← required readString "id" fields
      let bundle ← required readFields "bundle" fields
      let agents ← required (readList readString) "agents" bundle
      return ⟨id, some ⟨agents, [], []⟩, doc⟩
    match preset with
    | some preset => .ok preset
    | none => .error "missing field"
  print preset := .ok preset.other

def presetRequest (id : String) (agents : List String) : Kernel.Bundles.ImportBundleRequest Yaml where
  source := "inline"
  presetYaml := ofFields [("preset", ofFields [("id", ofString id), ("name", ofString "Chat"),
    ("description", ofString "A chat."), ("plugins", ofFields [("required", sequence [])]),
    ("agents", ofFields [("required", sequence [])]),
    ("bundle", ofFields [("agents", sequence (agents.map ofString))])])]
  agents := agents.foldl (fun table name ↦ table.insert name (mapping [])) .empty
  prompts := .empty
  url := ""

def etcState : Kernel.ManagementState := ⟨["etc", "seidrum"], ["etc", "seidrum", "agents"]⟩

def etcPaths : SeidrumPaths := ⟨["etc", "seidrum"], ["home", ".seidrum"]⟩

def etcDisk : Disk Yaml := dirsOnly [["etc"], ["etc", "seidrum"], ["etc", "seidrum", "agents"]]

/-- The id of a preset leads out of the configuration; and an agent is written before the name of the
next one is refused. -/
theorem importPreset_not_contained :
    ¬(Operation.importPreset etcState (presetRequest "../../evil" []) (fun _ ↦ .done) etcDisk).Contained
        documents documentYaml ofString "x86_64-unknown-linux-gnu" etcPaths presetFormat ∧
      ¬(Operation.importPreset etcState (presetRequest "chat" ["a.yaml", "../b.yaml"]) (fun _ ↦ .done)
        etcDisk).Contained documents documentYaml ofString "x86_64-unknown-linux-gnu" etcPaths
        presetFormat := by
  constructor
  · intro h
    have htouched : (Kernel.Bundles.importPreset documents documentYaml presetFormat etcState
        (presetRequest "../../evil" []) (fun _ ↦ .done) etcDisk).touched ["etc", "evil.yaml"] := by
      decide +kernel
    have hallows := h.allowed _ htouched
    simp [Kernel.Places.Allows, Kernel.LiesIn, Kernel.ManagementState.places, etcState, etcPaths,
      Kernel.ManagementState.promptsDir, Kernel.ManagementState.presetsDir] at hallows
  · intro h
    have herror : (Kernel.Bundles.importPreset documents documentYaml presetFormat etcState
        (presetRequest "chat" ["a.yaml", "../b.yaml"]) (fun _ ↦ .done) etcDisk).error =
          some (500, "Failed to install bundle: Invalid filename: ../b.yaml") := by
      decide +kernel
    have htouched : (Kernel.Bundles.importPreset documents documentYaml presetFormat etcState
        (presetRequest "chat" ["a.yaml", "../b.yaml"]) (fun _ ↦ .done) etcDisk).touched
          ["etc", "seidrum", "agents", "a.yaml"] := by
      decide +kernel
    have huntouched := h.clean (by rw [herror]; simp) ["etc", "seidrum", "agents", "a.yaml"]
    exact Bool.false_ne_true (huntouched.symm.trans htouched)

end Packages

end Seidrum.Daemon
