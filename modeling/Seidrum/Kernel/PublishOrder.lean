import Mathlib.Data.List.DropRight
import Seidrum.Foundation.Overtaking
import Seidrum.Foundation.Transition
import Seidrum.Kernel.ToolRegistry

/-!
# Registries and the order of publication

The plugin registry and the capability registry each read several subjects, and take the next message
from whichever is ready.  The registries follow the order in which a plugin's messages were published
as long as no registration of the plugin and its deregistration overtake each other.
-/

namespace Seidrum.Kernel

open EventBus (Value)
open Foundation

structure PluginRegister where
  id : String
  name : String
  version : String
  description : String
  consumes : List String
  produces : List String
  healthSubject : String
  consumedEventTypes : List String
  producedEventTypes : List String
  configSchema : Option Value

/-- The registered plugins by their ids. -/
abbrev PluginTable := AList fun _ : String ↦ PluginRegister

/-- Register a plugin. Overwrites any previous registration with the same id. -/
def registerPlugin (plugins : PluginTable) (registration : PluginRegister) : PluginTable :=
  plugins.insert registration.id registration

/-- Remove a plugin from the registry. -/
def deregisterPlugin (plugins : PluginTable) (pluginId : String) : PluginTable := plugins.erase pluginId

inductive RegistryMessage
  | register (registration : PluginRegister)
  | deregister (pluginId : String)
  | capability (payload : ToolRegisterPayload)

namespace RegistryMessage

def subject : RegistryMessage → String
  | register _ => "plugin.register"
  | deregister _ => "plugin.deregister"
  | capability _ => "capability.register"

/-- The messages of one subject. -/
def isOn (subject : String) (message : RegistryMessage) : Bool := message.subject = subject

def pluginId : RegistryMessage → String
  | register registration => registration.id
  | deregister pluginId => pluginId
  | capability payload => payload.pluginId

def isDeregister : RegistryMessage → Bool
  | deregister _ => true
  | _ => false

/-- A deregistration of a plugin, and a registration of the plugin or of a capability of it. -/
def Conflicts (first second : RegistryMessage) : Prop :=
  first.pluginId = second.pluginId ∧ first.isDeregister ≠ second.isDeregister

instance (first second : RegistryMessage) : Decidable (first.Conflicts second) :=
  inferInstanceAs (Decidable (_ ∧ _))

end RegistryMessage

/-- The subjects the plugin registry subscribes to. -/
def pluginSubjects : List String := ["plugin.register", "plugin.deregister"]

/-- The subjects the capability registry subscribes to. -/
def toolSubjects : List String := ["capability.register", "plugin.deregister"]

/-- The two registries, and what each of them has not yet taken of what was published, in the order of
publication. -/
structure Registries where
  plugins : PluginTable
  tools : ToolTable
  atPlugins : List RegistryMessage
  atTools : List RegistryMessage
  published : List RegistryMessage

inductive RegistryStep
  | publish (message : RegistryMessage)
  | takePlugin (subject : String)
  | takeTool (subject : String) (stored : Bool)

namespace Registries

def init (plugins : PluginTable) (tools : ToolTable) : Registries := ⟨plugins, tools, [], [], []⟩

def handlePlugin (plugins : PluginTable) : RegistryMessage → PluginTable
  | .register registration => registerPlugin plugins registration
  | .deregister pluginId => deregisterPlugin plugins pluginId
  | .capability _ => plugins

/-- `stored` tells whether the database takes a registration. -/
def handleTool (tools : ToolTable) (stored : Bool) : RegistryMessage → ToolTable
  | .register _ => tools
  | .deregister pluginId => (deregisterByPlugin tools pluginId).1
  | .capability payload => (registerCapability tools payload stored).1

/-- A subscription receives what is published on its subjects. -/
def receive (subjects : List String) (waiting : List RegistryMessage) (message : RegistryMessage) :
    List RegistryMessage :=
  if message.subject ∈ subjects then waiting ++ [message] else waiting

def step : Steps Registries RegistryStep
  | state, .publish message =>
      some { state with
        atPlugins := receive pluginSubjects state.atPlugins message
        atTools := receive toolSubjects state.atTools message
        published := state.published ++ [message] }
  | state, .takePlugin subject =>
      (state.atPlugins.find? (RegistryMessage.isOn subject)).map fun message ↦
        { state with
          plugins := handlePlugin state.plugins message
          atPlugins := state.atPlugins.eraseP (RegistryMessage.isOn subject) }
  | state, .takeTool subject stored =>
      (state.atTools.find? (RegistryMessage.isOn subject)).map fun message ↦
        { state with
          tools := handleTool state.tools stored message
          atTools := state.atTools.eraseP (RegistryMessage.isOn subject) }

/-- A message that registers or deregisters a plugin. -/
def concerns (pluginId : String) (message : RegistryMessage) : Bool :=
  message.pluginId = pluginId ∧ message.subject ∈ pluginSubjects

/-- The last message that registers or deregisters a plugin is a registration. -/
def lastRegisters (pluginId : String) (published : List RegistryMessage) : Bool :=
  match (published.filter (concerns pluginId)).getLast? with
  | some (.register _) => true
  | _ => false

def capabilityOf (pluginId : String) : RegistryMessage → Option ToolRegisterPayload
  | .capability payload => if payload.pluginId = pluginId then some payload else none
  | _ => none

/-- A message that is not the deregistration of a plugin. -/
def keeps (pluginId : String) (message : RegistryMessage) : Bool :=
  !(message.isDeregister && message.pluginId = pluginId)

/-- The capabilities of a plugin registered after its last deregistration, in order. -/
def sinceDeregister (pluginId : String) (published : List RegistryMessage) :
    List ToolRegisterPayload :=
  (published.rtakeWhile (keeps pluginId)).filterMap (capabilityOf pluginId)

/-- What a list of registrations says of a tool. -/
def lastOf (toolId : String) (payloads : List ToolRegisterPayload) : Option ToolEntry :=
  (payloads.filter fun payload ↦ payload.toolId = toolId).getLast?.map ToolRegisterPayload.entry

/-- All capabilities the messages register. -/
def capabilities (published : List RegistryMessage) : List ToolRegisterPayload :=
  published.filterMap fun message ↦
    match message with
    | .capability payload => some payload
    | _ => none

/-- No other plugin registers a tool of the plugin. -/
def OwnTools (pluginId : String) (published : List RegistryMessage) : Prop :=
  ∀ payload ∈ capabilities published, payload.pluginId = pluginId →
    ∀ other ∈ capabilities published, other.toolId = payload.toolId → other.pluginId = pluginId

instance (pluginId : String) (published : List RegistryMessage) :
    Decidable (OwnTools pluginId published) :=
  inferInstanceAs (Decidable (∀ payload ∈ capabilities published, _))

/-- All messages are processed. -/
def Settled (state : Registries) : Prop := state.atPlugins.isEmpty ∧ state.atTools.isEmpty

instance (state : Registries) : Decidable state.Settled := inferInstanceAs (Decidable (_ ∧ _))

/-- The plugin is registered iff its last message was a registration, and its registered capabilities
are those registered after its last deregistration. -/
structure FollowsPublication (state : Registries) (pluginId : String) : Prop where
  plugins : (state.plugins.lookup pluginId).isSome = lastRegisters pluginId state.published
  tools : ∀ toolId, ((state.tools.describe toolId).filter fun entry ↦ entry.pluginId = pluginId) =
    lastOf toolId (sinceDeregister pluginId state.published)

/-- Nothing conflicts with the next message of a subject among what it overtakes. -/
def TakesInOrder (subject : String) (waiting : List RegistryMessage) : Prop :=
  ∀ message ∈ waiting.find? (RegistryMessage.isOn subject),
    ∀ older ∈ overtaken (RegistryMessage.isOn subject) waiting, ¬message.Conflicts older

instance (subject : String) (waiting : List RegistryMessage) :
    Decidable (TakesInOrder subject waiting) :=
  inferInstanceAs (Decidable (∀ message ∈ waiting.find? (RegistryMessage.isOn subject), _))

/-- No message overtakes one it conflicts with, and the database takes every registration. -/
def KeepsOrder (state : Registries) : RegistryStep → Prop
  | .publish _ => True
  | .takePlugin subject => TakesInOrder subject state.atPlugins
  | .takeTool subject stored => stored = true ∧ TakesInOrder subject state.atTools

instance (state : Registries) (label : RegistryStep) : Decidable (state.KeepsOrder label) := by
  cases label <;> unfold KeepsOrder <;> infer_instance

abbrev PluginMap := String → Option PluginRegister
abbrev ToolMap := String → Option ToolEntry

def applyPlugin (map : PluginMap) : RegistryMessage → PluginMap
  | .register registration => Function.update map registration.id (some registration)
  | .deregister pluginId => Function.update map pluginId none
  | .capability _ => map

def applyTool (map : ToolMap) : RegistryMessage → ToolMap
  | .register _ => map
  | .deregister pluginId => fun toolId ↦ (map toolId).filter fun entry ↦ entry.pluginId ≠ pluginId
  | .capability payload => Function.update map payload.toolId (some payload.entry)

def pluginMap (plugins : PluginTable) : PluginMap := fun pluginId ↦ plugins.lookup pluginId

theorem pluginMap_handlePlugin (plugins : PluginTable) (message : RegistryMessage) :
    pluginMap (handlePlugin plugins message) = applyPlugin (pluginMap plugins) message := by
  funext other
  cases message with
  | register registration =>
    simp only [pluginMap, handlePlugin, registerPlugin, applyPlugin]
    by_cases hother : other = registration.id
    · rw [hother, AList.lookup_insert, Function.update_self]
    · rw [AList.lookup_insert_ne hother, Function.update_of_ne hother, pluginMap]
  | deregister pluginId =>
    simp only [pluginMap, handlePlugin, deregisterPlugin, applyPlugin]
    by_cases hother : other = pluginId
    · rw [hother, AList.lookup_erase, Function.update_self]
    · rw [AList.lookup_erase_ne hother, Function.update_of_ne hother, pluginMap]
  | capability payload => rfl

theorem describe_handleTool (tools : ToolTable) (message : RegistryMessage) :
    (handleTool tools true message).describe = applyTool tools.describe message := by
  funext toolId
  cases message with
  | register registration => rfl
  | deregister pluginId => exact describe_deregisterByPlugin tools pluginId toolId
  | capability payload =>
    unfold handleTool
    rw [describe_registerCapability]
    by_cases htool : toolId = payload.toolId
    all_goals simp [applyTool, htool]

variable {message older : RegistryMessage} {payload : ToolRegisterPayload} {pluginId : String}
  {plugins : PluginMap} {tools : ToolMap} {state : Registries} {published : List RegistryMessage}

theorem subject_ne_of_overtaken {subject : String} {waiting : List RegistryMessage}
    (hmessage : message ∈ waiting.find? (RegistryMessage.isOn subject))
    (holder : older ∈ overtaken (RegistryMessage.isOn subject) waiting) :
    older.subject ≠ message.subject := by
  have hisOn : RegistryMessage.isOn subject message = true := List.find?_some hmessage
  have hon : message.subject = subject := of_decide_eq_true hisOn
  have hoff : RegistryMessage.isOn subject older = false := queue_eq_false_of_mem_overtaken holder
  rw [hon]
  exact of_decide_eq_false hoff

theorem applyPlugin_comm (hsubject : older.subject ≠ message.subject) (hconflicts : ¬message.Conflicts older)
    (map : PluginMap) :
    applyPlugin (applyPlugin map message) older = applyPlugin (applyPlugin map older) message := by
  cases message with
  | capability payload => rfl
  | register registration =>
    cases older with
    | capability payload => rfl
    | register other => exact absurd rfl hsubject
    | deregister pluginId =>
      have hne : registration.id ≠ pluginId := fun h ↦ hconflicts ⟨h, Bool.false_ne_true⟩
      exact Function.update_comm hne _ _ map
  | deregister pluginId =>
    cases older with
    | capability payload => rfl
    | deregister other => exact absurd rfl hsubject
    | register registration =>
      have hne : pluginId ≠ registration.id := fun h ↦ hconflicts ⟨h, Bool.false_ne_true.symm⟩
      exact Function.update_comm hne _ _ map

theorem applyTool_capability_comm (hne : payload.pluginId ≠ pluginId) (map : ToolMap) :
    applyTool (applyTool map (.capability payload)) (.deregister pluginId) =
      applyTool (applyTool map (.deregister pluginId)) (.capability payload) := by
  funext toolId
  by_cases htool : toolId = payload.toolId
  · have hkept : payload.entry.pluginId ≠ pluginId := hne
    simp [applyTool, htool, Option.filter, hkept]
  · simp [applyTool, htool]

theorem applyTool_comm (hsubject : older.subject ≠ message.subject) (hconflicts : ¬message.Conflicts older)
    (map : ToolMap) : applyTool (applyTool map message) older = applyTool (applyTool map older) message := by
  cases message with
  | register registration => rfl
  | capability payload =>
    cases older with
    | register registration => rfl
    | capability other => exact absurd rfl hsubject
    | deregister pluginId =>
      exact applyTool_capability_comm (fun h ↦ hconflicts ⟨h, Bool.false_ne_true⟩) map
  | deregister pluginId =>
    cases older with
    | register registration => rfl
    | deregister other => exact absurd rfl hsubject
    | capability payload =>
      have hne : payload.pluginId ≠ pluginId := fun h ↦ hconflicts ⟨h.symm, Bool.false_ne_true.symm⟩
      exact (applyTool_capability_comm hne map).symm

/-- With what still waits, the registries amount to what was published. -/
structure Owing (plugins : PluginMap) (tools : ToolMap) (state : Registries) : Prop where
  plugins : state.atPlugins.foldl applyPlugin (pluginMap state.plugins) =
    state.published.foldl applyPlugin plugins
  tools : state.atTools.foldl applyTool state.tools.describe = state.published.foldl applyTool tools

theorem foldl_receive {σ : Type} {apply : σ → RegistryMessage → σ} {subjects : List String}
    (hother : ∀ (s : σ) (message : RegistryMessage), message.subject ∉ subjects → apply s message = s)
    (waiting : List RegistryMessage) (message : RegistryMessage) (s : σ) :
    (receive subjects waiting message).foldl apply s = apply (waiting.foldl apply s) message := by
  unfold receive
  split_ifs with hsubject
  · rw [List.foldl_concat]
  · rw [hother _ message hsubject]

theorem applyPlugin_of_not_mem (map : PluginMap) (message : RegistryMessage)
    (h : message.subject ∉ pluginSubjects) : applyPlugin map message = map := by
  cases message with
  | register registration => exact absurd (by decide : "plugin.register" ∈ pluginSubjects) h
  | deregister pluginId => exact absurd (by decide : "plugin.deregister" ∈ pluginSubjects) h
  | capability payload => rfl

theorem applyTool_of_not_mem (map : ToolMap) (message : RegistryMessage)
    (h : message.subject ∉ toolSubjects) : applyTool map message = map := by
  cases message with
  | register registration => rfl
  | deregister pluginId => exact absurd (by decide : "plugin.deregister" ∈ toolSubjects) h
  | capability payload => exact absurd (by decide : "capability.register" ∈ toolSubjects) h

theorem owing_step {next : Registries} {label : RegistryStep} (h : Owing plugins tools state)
    (hkeeps : state.KeepsOrder label) (hstep : step state label = some next) : Owing plugins tools next := by
  cases label with
  | publish message =>
    cases hstep
    constructor
    · rw [foldl_receive applyPlugin_of_not_mem, h.plugins, List.foldl_concat]
    · rw [foldl_receive applyTool_of_not_mem, h.tools, List.foldl_concat]
  | takePlugin subject =>
    obtain ⟨message, hmessage, rfl⟩ := Option.map_eq_some_iff.mp hstep
    refine ⟨?_, h.tools⟩
    calc
      (state.atPlugins.eraseP (RegistryMessage.isOn subject)).foldl applyPlugin
          (pluginMap (handlePlugin state.plugins message)) =
        (state.atPlugins.eraseP (RegistryMessage.isOn subject)).foldl applyPlugin
          (applyPlugin (pluginMap state.plugins) message) := by
        rw [pluginMap_handlePlugin]
      _ = state.atPlugins.foldl applyPlugin (pluginMap state.plugins) :=
        foldl_eraseP hmessage (fun older holder map ↦ applyPlugin_comm
          (subject_ne_of_overtaken hmessage holder) (hkeeps message hmessage older holder) map) _
      _ = state.published.foldl applyPlugin plugins := h.plugins
  | takeTool subject stored =>
    obtain ⟨message, hmessage, rfl⟩ := Option.map_eq_some_iff.mp hstep
    obtain ⟨rfl, horder⟩ := hkeeps
    refine ⟨h.plugins, ?_⟩
    calc
      (state.atTools.eraseP (RegistryMessage.isOn subject)).foldl applyTool
          (handleTool state.tools true message).describe =
        (state.atTools.eraseP (RegistryMessage.isOn subject)).foldl applyTool
          (applyTool state.tools.describe message) := by
        rw [describe_handleTool]
      _ = state.atTools.foldl applyTool state.tools.describe :=
        foldl_eraseP hmessage (fun older holder map ↦ applyTool_comm
          (subject_ne_of_overtaken hmessage holder) (horder message hmessage older holder) map) _
      _ = state.published.foldl applyTool tools := h.tools

theorem owing_of_reach {plugins : PluginTable} {tools : ToolTable}
    (hreach : Steps.Reach step KeepsOrder (init plugins tools) state) :
    Owing (pluginMap plugins) tools.describe state :=
  hreach.invariant ⟨rfl, rfl⟩ fun _ _ _ hbefore hkeeps hstep ↦ owing_step hbefore hkeeps hstep

/-! ## Messages applied as published -/

theorem lastRegisters_concat (pluginId : String) (published : List RegistryMessage)
    (message : RegistryMessage) :
    lastRegisters pluginId (published ++ [message]) =
      if message.pluginId = pluginId ∧ message.subject ∈ pluginSubjects then !message.isDeregister
      else lastRegisters pluginId published := by
  unfold lastRegisters
  rw [List.filter_append]
  split_ifs with hlast
  · have hconcerns : concerns pluginId message = true := decide_eq_true hlast
    rw [List.filter_cons_of_pos hconcerns, List.filter_nil, List.getLast?_concat]
    cases message with
    | register registration | deregister other => rfl
    | capability payload => exact absurd hlast.2 (by decide : "capability.register" ∉ pluginSubjects)
  · have hother : ¬concerns pluginId message = true := mt of_decide_eq_true hlast
    rw [List.filter_cons_of_neg hother, List.filter_nil, List.append_nil]

theorem isSome_foldl_applyPlugin (hnone : plugins pluginId = none) (published : List RegistryMessage) :
    (published.foldl applyPlugin plugins pluginId).isSome = lastRegisters pluginId published := by
  induction published using List.reverseRecOn with
  | nil => simp [hnone, lastRegisters]
  | append_singleton published message ih =>
    rw [List.foldl_concat, lastRegisters_concat, ← ih]
    cases message with
    | capability payload =>
      have hother : "capability.register" ∉ pluginSubjects := by decide
      rw [if_neg fun h ↦ hother h.2]
      rfl
    | register registration =>
      have hsubject : "plugin.register" ∈ pluginSubjects := by decide
      by_cases hid : pluginId = registration.id
      · rw [if_pos ⟨hid.symm, hsubject⟩, hid]
        simp [applyPlugin, RegistryMessage.isDeregister]
      · rw [if_neg fun h ↦ hid h.1.symm, applyPlugin, Function.update_of_ne hid]
    | deregister other =>
      have hsubject : "plugin.deregister" ∈ pluginSubjects := by decide
      by_cases hid : pluginId = other
      · rw [if_pos ⟨hid.symm, hsubject⟩, hid]
        simp [applyPlugin, RegistryMessage.isDeregister]
      · rw [if_neg fun h ↦ hid h.1.symm, applyPlugin, Function.update_of_ne hid]

theorem lastOf_concat (toolId : String) (payloads : List ToolRegisterPayload)
    (payload : ToolRegisterPayload) :
    lastOf toolId (payloads ++ [payload]) =
      if payload.toolId = toolId then some payload.entry else lastOf toolId payloads := by
  unfold lastOf
  rw [List.filter_append]
  by_cases htool : payload.toolId = toolId
  all_goals simp [htool]

theorem sinceDeregister_concat (pluginId : String) (published : List RegistryMessage)
    (message : RegistryMessage) :
    sinceDeregister pluginId (published ++ [message]) =
      if keeps pluginId message then
        sinceDeregister pluginId published ++ (capabilityOf pluginId message).toList
      else [] := by
  unfold sinceDeregister
  rw [List.rtakeWhile_concat]
  split_ifs with hkeeps
  · rw [List.filterMap_append]
    cases h : capabilityOf pluginId message <;> simp [h]
  · rfl

theorem mem_of_sinceDeregister (h : payload ∈ sinceDeregister pluginId published) :
    payload ∈ capabilities published ∧ payload.pluginId = pluginId := by
  obtain ⟨message, hmem, hcapability⟩ := List.mem_filterMap.mp h
  have hpublished : message ∈ published := (List.rtakeWhile_suffix _ _).subset hmem
  cases message with
  | register registration | deregister other => cases hcapability
  | capability other =>
    simp only [capabilityOf] at hcapability
    split_ifs at hcapability with howner
    cases hcapability
    exact ⟨List.mem_filterMap.mpr ⟨_, hpublished, rfl⟩, howner⟩

theorem capabilities_append (first second : List RegistryMessage) :
    capabilities (first ++ second) = capabilities first ++ capabilities second :=
  List.filterMap_append

/-- A tool that another plugin registers is none of the plugin's. -/
theorem lastOf_eq_none_of_ownTools {other : ToolRegisterPayload}
    (hown : OwnTools pluginId (published ++ [.capability other])) (hother : other.pluginId ≠ pluginId) :
    lastOf other.toolId (sinceDeregister pluginId published) = none := by
  have hnone : (sinceDeregister pluginId published).filter (fun payload ↦ payload.toolId = other.toolId) =
      [] := by
    apply List.filter_eq_nil_iff.mpr
    intro payload hmem htool
    obtain ⟨hpublished, howner⟩ := mem_of_sinceDeregister hmem
    rw [OwnTools, capabilities_append] at hown
    exact hother (hown payload (List.mem_append_left _ hpublished) howner other
      (List.mem_append_right _ (List.mem_singleton.mpr rfl)) (of_decide_eq_true htool).symm)
  rw [lastOf, hnone]
  rfl

/-- What a plugin owns of what another deregistration leaves. -/
theorem filter_filter_owner (registered : Option ToolEntry) (removed pluginId : String) :
    ((registered.filter fun entry ↦ entry.pluginId ≠ removed).filter fun entry ↦
        entry.pluginId = pluginId) =
      if removed = pluginId then none else registered.filter fun entry ↦ entry.pluginId = pluginId := by
  cases registered with
  | none => simp
  | some entry =>
    by_cases howner : entry.pluginId = pluginId
    · subst howner
      by_cases hremoved : removed = entry.pluginId
      · simp [Option.filter, hremoved]
      · simp [Option.filter, hremoved, Ne.symm hremoved]
    · by_cases hremoved : entry.pluginId = removed
      · simp [Option.filter, hremoved, hremoved ▸ howner]
      · simp [Option.filter, hremoved, howner]

theorem filter_foldl_applyTool (hnone : ∀ toolId, ∀ entry ∈ tools toolId, entry.pluginId ≠ pluginId)
    (hown : OwnTools pluginId published) (toolId : String) :
    ((published.foldl applyTool tools toolId).filter fun entry ↦ entry.pluginId = pluginId) =
      lastOf toolId (sinceDeregister pluginId published) := by
  induction published using List.reverseRecOn with
  | nil =>
    apply Option.filter_eq_none_iff.mpr
    intro entry hentry
    simpa using hnone toolId entry hentry
  | append_singleton published message ih =>
    have hbefore : OwnTools pluginId published := fun payload hpayload howner other hother ↦
      hown payload (capabilities_append published _ ▸ List.mem_append_left _ hpayload) howner other
        (capabilities_append published _ ▸ List.mem_append_left _ hother)
    have hold := ih hbefore
    rw [List.foldl_concat, sinceDeregister_concat]
    cases message with
    | register registration =>
      rw [if_pos (by rfl)]
      simpa [applyTool, capabilityOf] using hold
    | deregister other =>
      rw [applyTool, filter_filter_owner, hold]
      by_cases hid : other = pluginId
      · rw [if_pos hid, if_neg (by simp [keeps, RegistryMessage.isDeregister, RegistryMessage.pluginId, hid])]
        rfl
      · rw [if_neg hid, if_pos (by simp [keeps, RegistryMessage.pluginId, hid])]
        simp [capabilityOf]
    | capability payload =>
      rw [if_pos (by rfl), applyTool]
      by_cases howner : payload.pluginId = pluginId
      · have hcapability : capabilityOf pluginId (.capability payload) = some payload := if_pos howner
        rw [hcapability, Option.toList_some, lastOf_concat, ← hold]
        by_cases htool : payload.toolId = toolId
        · subst htool
          have hentry : payload.entry.pluginId = pluginId := howner
          simp [Option.filter, hentry]
        · rw [Function.update_of_ne (Ne.symm htool), if_neg htool]
      · have hcapability : capabilityOf pluginId (.capability payload) = none := if_neg howner
        rw [hcapability, Option.toList_none, List.append_nil]
        by_cases htool : toolId = payload.toolId
        · subst htool
          have hentry : payload.entry.pluginId ≠ pluginId := howner
          rw [lastOf_eq_none_of_ownTools hown howner, Function.update_self]
          simp [Option.filter, hentry]
        · rw [Function.update_of_ne htool, hold]

/-- As long as no registration of a plugin and its deregistration overtake each other, the registries
follow the order of publication. -/
theorem registries_follow_publication {plugins : PluginTable} {tools : ToolTable} {state : Registries}
    {pluginId : String} (hplugin : plugins.lookup pluginId = none)
    (htools : ∀ toolId, ∀ entry ∈ tools.describe toolId, entry.pluginId ≠ pluginId)
    (hreach : Steps.Reach step KeepsOrder (init plugins tools) state)
    (hown : OwnTools pluginId state.published) (hsettled : state.Settled) :
    FollowsPublication state pluginId := by
  have howing := owing_of_reach hreach
  have hplugins : pluginMap state.plugins = state.published.foldl applyPlugin (pluginMap plugins) := by
    rw [← howing.plugins, List.isEmpty_iff.mp hsettled.1, List.foldl_nil]
  have hdescribe : state.tools.describe = state.published.foldl applyTool tools.describe := by
    rw [← howing.tools, List.isEmpty_iff.mp hsettled.2, List.foldl_nil]
  constructor
  · have hnone : pluginMap plugins pluginId = none := hplugin
    rw [← isSome_foldl_applyPlugin hnone, ← hplugins, pluginMap]
  · intro toolId
    rw [hdescribe]
    exact filter_foldl_applyTool htools hown toolId

/-- A plugin, and a tool of it. -/
def calendarPlugin : PluginRegister where
  id := "calendar"
  name := "Calendar"
  version := "0.1.0"
  description := ""
  consumes := []
  produces := []
  healthSubject := "plugin.calendar.health"
  consumedEventTypes := []
  producedEventTypes := []
  configSchema := none

def calendarTool : ToolRegisterPayload where
  toolId := "create-event"
  pluginId := "calendar"
  name := "Create event"
  summaryMd := ""
  manualMd := ""
  parameters := .object []
  callSubject := "capability.call.calendar"
  kind := defaultKind

/-- The plugin starts, and restarts at once. -/
def restart : List RegistryStep :=
  [.publish (.register calendarPlugin), .publish (.capability calendarTool),
    .takePlugin "plugin.register", .takeTool "capability.register" true,
    .publish (.deregister "calendar"), .publish (.register calendarPlugin),
    .publish (.capability calendarTool)]

theorem registries_follow_publication_restart :
    ∃ state, Steps.execute step (init ∅ .empty) (restart ++
        [.takePlugin "plugin.deregister", .takePlugin "plugin.register",
          .takeTool "plugin.deregister" true, .takeTool "capability.register" true]) = some state ∧
      FollowsPublication state "calendar" := by
  have hrun : ∃ state ∈ Steps.execute step (init ∅ .empty) (restart ++
        [.takePlugin "plugin.deregister", .takePlugin "plugin.register",
          .takeTool "plugin.deregister" true, .takeTool "capability.register" true]),
      OwnTools "calendar" state.published ∧ state.Settled := by
    decide +kernel
  obtain ⟨state, hstate, hown, hsettled⟩ := hrun
  exact ⟨state, hstate, registries_follow_publication rfl (fun _ _ hentry ↦ by cases hentry)
    (Steps.reach_of_execute (by decide +kernel) hstate) hown hsettled⟩

/-- The registrations are taken before the deregistration that was published first. -/
theorem exists_restart_lost :
    ∃ state, Steps.Reach step (fun _ _ ↦ True) (init ∅ .empty) state ∧
      OwnTools "calendar" state.published ∧ state.Settled ∧ ¬FollowsPublication state "calendar" := by
  have hrun : ∃ state ∈ Steps.execute step (init ∅ .empty) (restart ++
        [.takePlugin "plugin.register", .takePlugin "plugin.deregister",
          .takeTool "capability.register" true, .takeTool "plugin.deregister" true]),
      OwnTools "calendar" state.published ∧ state.Settled ∧
        (state.plugins.lookup "calendar").isSome ≠ lastRegisters "calendar" state.published := by
    decide +kernel
  obtain ⟨state, hstate, hown, hsettled, hlost⟩ := hrun
  exact ⟨state, Steps.reach_of_execute (Steps.guarded_of_forall (fun _ _ ↦ trivial) _ _) hstate, hown,
    hsettled, fun hfollows ↦ hlost hfollows.plugins⟩

end Registries

end Seidrum.Kernel
