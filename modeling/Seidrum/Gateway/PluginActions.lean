import Seidrum.Gateway.Ownership
import Seidrum.Gateway.PendingRequests
import Seidrum.Kernel.ToolRegistry

/-!
# What external plugins do in their names

An external plugin registers at the gateway under an identifier of its own choice, which becomes part of the
subjects whose calls are forwarded to it.  What it registers as capabilities is passed on to the kernel as
it is, and the kernel's registry takes the owner and the tool from there.  Only what it publishes is held
against a list of subjects.  So a plugin acts as itself as long as identifiers have no wildcards and
registrations name their senders and no tools of others.
-/

namespace Seidrum.Gateway

open EventBus (Value eq_of_matches_literal patternMatches tokens)
open Foundation Kernel

/-! ## What is sent and forwarded -/

def blockedPrefixes : List String :=
  ["brain.user.", "brain.apikey.", "plugin.register", "plugin.deregister", "storage.",
    "capability.register", "trace."]

/-- Subjects that external plugins are allowed to publish to. -/
def isSubjectAllowed (subject : String) : Bool :=
  blockedPrefixes.all fun start ↦ ¬(start.toList <+: subject.toList ∨ subject = start)

/-- A registration of a capability on its way to the kernel, and the plugin whose socket sent it. -/
structure SentCapability where
  sender : String
  capability : Value

/-- What a listener has received on a subject and has yet to send to its plugin. -/
structure HeardMessage where
  pluginId : String
  isHealthCheck : Bool
  subject : String
  message : ServerMessage

/-- A call or a health check sent to a socket, and what the socket is registered as. -/
structure ForwardedMessage where
  registeredAs : Option String
  isHealthCheck : Bool
  subject : String
  deriving DecidableEq, Repr

/-- An entry made for a plugin: what stood there before, and which plugins were registered. -/
structure RegistryChange where
  sender : String
  entry : ToolEntry
  before : Option ToolEntry
  registered : List String

/-- The gateway, the capabilities on their way, the kernel's registry and the plugins registered there.  What
was forwarded, changed and published is history. -/
structure ActingState where
  gateway : GatewayState
  sending : AList fun _ : ℕ ↦ HeardMessage
  capabilities : List SentCapability
  tools : ToolTable
  plugins : List String
  forwarded : List ForwardedMessage
  changes : List RegistryChange
  published : List String

inductive ActingLabel
  | gateway (label : GatewayLabel)
  | registerCapability (id : ℕ) (capability : Value) (result : Except String Unit)
  | publish (id : ℕ) (subject : String) (envelope : Value) (sent : Bool)
  /-- A message on a subject reaches the subscription of a listener. -/
  | hear (task : ℕ) (subject : String) (reply : Option String) (request : Option Value)
    (requestId : String)
  | send (task : ℕ)
  /-- The registry takes the next registration that came from a socket. -/
  | handleCapability (stored : Bool)
  /-- The registry takes a registration of somebody else. -/
  | handleOther (payload : ToolRegisterPayload) (stored : Bool)
  | registerPlugin (pluginId : String)
  | deregisterPlugin (pluginId : String)

/-- The bus takes a registration. -/
def GatewayLabel.Published : GatewayLabel → Prop
  | .publishRegister _ (.error _) => False
  | _ => True

instance (label : GatewayLabel) : Decidable label.Published := by
  induction label using GatewayLabel.casesOn with
  | publishRegister _ result =>
    induction result using Except.casesOn <;> dsimp only [GatewayLabel.Published] <;> infer_instance
  | _ => exact isTrue trivial

namespace ActingState

/-- The registry with its built-in tools, and no socket yet. -/
def init (tools : ToolTable) (plugins : List String) : ActingState :=
  ⟨.init, ∅, [], tools, plugins, [], [], []⟩

def say (state : ActingState) (id : ℕ) (message : ServerMessage) : ActingState :=
  { state with gateway := state.gateway.setSocket id ((state.gateway.sockets id).say message) }

/-- A message of a plugin is on the bus; the registry is subscribed to one subject. -/
def emit (state : ActingState) (sender subject : String) (payload : Value) : ActingState :=
  if patternMatches (tokens "capability.register") (tokens subject) then
    { state with capabilities := state.capabilities ++ [⟨sender, payload⟩] }
  else state

/-- The registry takes a registration; an entry it makes is remembered. -/
def take (state : ActingState) (sent : SentCapability) (stored : Bool) : ActingState :=
  match ToolRegisterPayload.fromValue sent.capability with
  | none => state
  | some payload =>
      if stored then
        { state with
          tools := (Kernel.registerCapability state.tools payload true).1
          changes := state.changes ++
            [⟨sent.sender, payload.entry, state.tools.describe payload.toolId, state.plugins⟩] }
      else state

/-- What a listener makes of a message. -/
def heard (state : ActingState) (task : ℕ) (listener : ListenerTask) (subject : String)
    (reply : Option String) (request : Option Value) (requestId : String) : ActingState :=
  match listener.listener, reply, request with
  | .capabilityCalls, some _, some request =>
      { state with
        sending := state.sending.insert task
          ⟨listener.pluginId, false, subject, .capabilityCall requestId request⟩ }
  | .healthChecks, some _, _ =>
      { state with
        sending := state.sending.insert task
          ⟨listener.pluginId, true, subject, .healthCheck requestId⟩ }
  | _, _, _ => state

def forward (state : ActingState) (heard : HeardMessage) : ActingState :=
  match state.gateway.connections.getSender heard.pluginId with
  | none => state
  | some id =>
      { state.say id heard.message with
        forwarded := state.forwarded ++
          [⟨(state.gateway.sockets id).pluginId, heard.isHealthCheck, heard.subject⟩] }

def step : Steps ActingState ActingLabel
  | state, .gateway label =>
      (state.gateway.step label).map fun gateway ↦ { state with gateway := gateway }
  | state, .registerCapability id capability result =>
      if (state.gateway.sockets id).phase = .reading then
        match (state.gateway.sockets id).pluginId, result with
        | none, _ => some (state.say id (.error "Must register before registering capabilities."))
        | some pluginId, .ok () => some (state.emit pluginId "capability.register" capability)
        | some _, .error error =>
            some (state.say id (.error ("Failed to publish capability.register: " ++ error)))
      else none
  | state, .publish id subject envelope sent =>
      if (state.gateway.sockets id).phase = .reading then
        match (state.gateway.sockets id).pluginId with
        | none => some state
        | some pluginId =>
            if isSubjectAllowed subject = true ∧ sent = true then
              some { state.emit pluginId subject envelope with
                published := state.published ++ [subject] }
            else some state
      else none
  | state, .hear task subject reply request requestId =>
      if (state.sending.lookup task).isSome then none
      else (state.gateway.tasks.lookup task).bind fun listener ↦
        if patternMatches (tokens (listener.listener.subject listener.pluginId)) (tokens subject) then
          some (state.heard task listener subject reply request requestId)
        else none
  | state, .send task =>
      (state.sending.lookup task).map fun heard ↦
        { state.forward heard with sending := state.sending.erase task }
  | state, .handleCapability stored =>
      match state.capabilities with
      | [] => none
      | sent :: rest => some { state.take sent stored with capabilities := rest }
  | state, .handleOther payload stored =>
      some { state with tools := (Kernel.registerCapability state.tools payload stored).1 }
  | state, .registerPlugin pluginId => some { state with plugins := pluginId :: state.plugins }
  | state, .deregisterPlugin pluginId =>
      some { state with
        tools := (deregisterByPlugin state.tools pluginId).1
        plugins := state.plugins.filter (· ≠ pluginId) }

/-- The kind of listener that forwards calls or health checks. -/
def forwarder (isHealthCheck : Bool) : Listener := if isHealthCheck then .healthChecks else .capabilityCalls

/-- Entries made for a plugin are its own and were no other plugin's; what is forwarded to its socket was
published on its own subjects; and nothing is published on a blocked subject. -/
structure OnlyAsThemselves (state : ActingState) : Prop where
  changes : ∀ change ∈ state.changes, change.entry.pluginId = change.sender ∧
    ∀ before ∈ change.before, before.pluginId = change.sender ∨ before.pluginId ∉ change.registered
  forwarded : ∀ message ∈ state.forwarded, ∀ pluginId ∈ message.registeredAs,
    message.subject = (forwarder message.isHealthCheck).subject pluginId
  published : ∀ subject ∈ state.published, ∀ start ∈ blockedPrefixes, ¬start.toList <+: subject.toList

/-- No part of the identifier is a wildcard. -/
def Literal (pluginId : String) : Prop := "*" ∉ tokens pluginId ∧ ">" ∉ tokens pluginId

instance (pluginId : String) : Decidable (Literal pluginId) := inferInstanceAs (Decidable (_ ∧ _))

/-- Only literal identifiers are registered. -/
def RegistersLiteral : GatewayLabel → Prop
  | .register _ pluginId => Literal pluginId
  | _ => True

instance (label : GatewayLabel) : Decidable (RegistersLiteral label) := by
  induction label using GatewayLabel.casesOn <;> dsimp only [RegistersLiteral] <;> infer_instance

/-- The bus takes the registrations of plugins; identifiers are literal; capabilities are registered in the
name of the plugin; and their tools are not another plugin's when the registry takes them. -/
def Honest (state : ActingState) : ActingLabel → Prop
  | .gateway label => label.Published ∧ RegistersLiteral label
  | .registerCapability id capability _ => ∀ pluginId ∈ (state.gateway.sockets id).pluginId,
      ∀ payload ∈ ToolRegisterPayload.fromValue capability, payload.pluginId = pluginId
  | .handleCapability _ => ∀ sent ∈ state.capabilities.head?,
      ∀ payload ∈ ToolRegisterPayload.fromValue sent.capability,
        ∀ entry ∈ state.tools.describe payload.toolId,
          entry.pluginId = sent.sender ∨ entry.pluginId ∉ state.plugins
  | _ => True

instance (state : ActingState) (label : ActingLabel) : Decidable (state.Honest label) := by
  cases label <;> unfold Honest <;> infer_instance

end ActingState

section

open EventBus (tokens_append tokens_injective)

theorem tokens_subject (isHealthCheck : Bool) (pluginId : String) :
    ∃ before after, tokens ((ActingState.forwarder isHealthCheck).subject pluginId) =
        before ++ tokens pluginId ++ after ∧
      "*" ∉ before ++ after ∧ ">" ∉ before ++ after := by
  cases isHealthCheck with
  | false =>
    refine ⟨["capability", "call"], [], ?_, by decide, by decide⟩
    rw [List.append_nil]
    exact tokens_append "capability.call" pluginId
  | true =>
    refine ⟨["plugin"], ["health"], ?_, by decide, by decide⟩
    have hhealth := tokens_append ("plugin" ++ "." ++ pluginId) "health"
    rw [tokens_append "plugin" pluginId] at hhealth
    rw [← show tokens "plugin" = ["plugin"] by decide, ← show tokens "health" = ["health"] by decide,
      ← hhealth]
    simp only [String.append_assoc]
    rfl

/-- What is heard for a literal identifier was published on its own subject. -/
theorem subject_eq_of_matches {pluginId : String} (hliteral : ActingState.Literal pluginId)
    {isHealthCheck : Bool} {subject : String}
    (h : patternMatches (tokens ((ActingState.forwarder isHealthCheck).subject pluginId))
      (tokens subject) = true) :
    subject = (ActingState.forwarder isHealthCheck).subject pluginId := by
  obtain ⟨before, after, htokens, hany, hrest⟩ := tokens_subject isHealthCheck pluginId
  have hfree {wildcard : String} (houter : wildcard ∉ before ++ after)
      (hinner : wildcard ∉ tokens pluginId) :
      wildcard ∉ tokens ((ActingState.forwarder isHealthCheck).subject pluginId) := by
    rw [htokens]
    simp only [List.mem_append] at houter ⊢
    tauto
  have heq := eq_of_matches_literal (hfree hany hliteral.1) (hfree hrest hliteral.2) h
  exact (tokens_injective heq).symm

end

/-! ## Identifiers in use -/

/-- The identifier a task works with. -/
def Phase.pluginId : Phase → Option String
  | .checked pluginId | .inserted pluginId | .listening pluginId _ _ | .adding pluginId _ _ _
  | .removing pluginId => some pluginId
  | .absent | .reading | .aborting _ | .closed => none

/-- The socket is registered under an identifier, or is about to be. -/
def Socket.Enters (socket : Socket) (pluginId : String) : Prop :=
  socket.phase = .inserted pluginId ∨ socket.pluginId = some pluginId

/-- All identifiers of sockets and listeners meet a condition, and what is in the table under an identifier
belongs to a socket that is registered under it. -/
structure GatewayState.Named (P : String → Prop) (state : GatewayState) : Prop where
  consistent : ∀ id, (state.sockets id).Consistent
  phases : ∀ id, ∀ pluginId ∈ (state.sockets id).phase.pluginId, P pluginId
  registered : ∀ id, ∀ pluginId ∈ (state.sockets id).pluginId, P pluginId
  listeners : ∀ task, ∀ listener ∈ state.tasks.lookup task, P listener.pluginId
  entered : ∀ pluginId id, state.connections.getSender pluginId = some id →
    (state.sockets id).Enters pluginId

section

variable {P : String → Prop} {state next : GatewayState} {label : GatewayLabel}

theorem GatewayState.Named.setSocket (h : state.Named P) (id : ℕ) (socket : Socket)
    (hconsistent : socket.Consistent) (hphase : ∀ pluginId ∈ socket.phase.pluginId, P pluginId)
    (hregistered : ∀ pluginId ∈ socket.pluginId, P pluginId)
    (henters : ∀ pluginId, (state.sockets id).Enters pluginId → socket.Enters pluginId) :
    (state.setSocket id socket).Named P := by
  have hsockets (other : ℕ) : (state.setSocket id socket).sockets other =
      if other = id then socket else state.sockets other :=
    Function.update_apply state.sockets id socket other
  refine ⟨fun other ↦ ?_, fun other ↦ ?_, fun other ↦ ?_, h.listeners, fun pluginId other hsender ↦ ?_⟩
  · rw [hsockets]
    split_ifs
    · exact hconsistent
    · exact h.consistent other
  · rw [hsockets]
    split_ifs
    · exact hphase
    · exact h.phases other
  · rw [hsockets]
    split_ifs
    · exact hregistered
    · exact h.registered other
  · have hentered := h.entered pluginId other hsender
    rw [hsockets]
    split_ifs with hother
    · subst hother
      exact henters pluginId hentered
    · exact hentered

theorem GatewayState.Named.say (h : state.Named P) (id : ℕ) (message : ServerMessage) :
    (state.setSocket id ((state.sockets id).say message)).Named P :=
  h.setSocket id _ (h.consistent id) (h.phases id) (h.registered id) fun _ hentered ↦ hentered

variable {pluginId : String} {id : ℕ}

theorem Socket.Enters.keep {socket : Socket} {phase : Phase} (h : socket.Enters pluginId)
    (hphase : socket.phase ≠ .inserted pluginId) : Socket.Enters { socket with phase := phase } pluginId :=
  .inr (h.resolve_left hphase)

theorem GatewayState.Named.leave (h : state.Named P) (hreading : (state.sockets id).phase = .reading) :
    (state.leave id).Named P := by
  have henters (phase : Phase) (pluginId : String) (hentered : (state.sockets id).Enters pluginId) :
      Socket.Enters { state.sockets id with phase := phase } pluginId :=
    hentered.keep (by rw [hreading]; simp)
  unfold GatewayState.leave
  split
  · rename_i pluginId hregistered
    refine h.setSocket id _ hregistered ?_ (h.registered id) (henters _)
    intro other hother
    cases hother
    exact h.registered id pluginId hregistered
  · exact h.setSocket id _ trivial (fun _ hnone ↦ by cases hnone) (h.registered id) (henters _)

theorem GatewayState.Named.of_tasks (h : state.Named P) {tasks : AList fun _ : ℕ ↦ ListenerTask}
    (htasks : ∀ task, ∀ listener ∈ tasks.lookup task, P listener.pluginId) {connections : Connections}
    (hconnections : ∀ pluginId id, connections.getSender pluginId = some id →
      state.connections.getSender pluginId = some id) (nextTask : ℕ) :
    GatewayState.Named P { state with tasks := tasks, connections := connections, nextTask := nextTask } :=
  ⟨h.consistent, h.phases, h.registered, htasks, fun pluginId id hsender ↦
    h.entered pluginId id (hconnections pluginId id hsender)⟩

/-- New identifiers come from registrations. -/
theorem GatewayState.Named.step (h : state.Named P)
    (hlabel : ∀ id pluginId, label = .register id pluginId → P pluginId) (hpublished : label.Published)
    (hstep : state.step label = some next) : next.Named P := by
  have hnone (pluginId : String) (hmem : pluginId ∈ (none : Option String)) : P pluginId := by cases hmem
  have hone {pluginId : String} (hid : P pluginId) : ∀ other ∈ some pluginId, P other := by
    intro other hother
    cases hother
    exact hid
  have hin {id : ℕ} {phase : Phase} {pluginId : String} (heq : (state.sockets id).phase = phase)
      (hid : phase.pluginId = some pluginId) : P pluginId :=
    h.phases id pluginId (by rw [heq, hid]; rfl)
  have hconsistent {id : ℕ} {phase : Phase} (heq : (state.sockets id).phase = phase) :
      Socket.Consistent ⟨phase, (state.sockets id).pluginId, []⟩ := by
    have hid := h.consistent id
    rw [Socket.Consistent, heq] at hid
    exact hid
  have henters {id : ℕ} {phase : Phase} (heq : (state.sockets id).phase = phase)
      (hphase : ∀ pluginId, phase ≠ .inserted pluginId) (next : Phase) (pluginId : String)
      (hentered : (state.sockets id).Enters pluginId) :
      Socket.Enters { state.sockets id with phase := next } pluginId :=
    hentered.keep (by rw [heq]; exact hphase pluginId)
  cases GatewayState.change_of_step hstep with
  | accept heq =>
    refine h.setSocket _ _ trivial hnone hnone fun pluginId hentered ↦ ?_
    rcases hentered with hphase | hid
    · rw [heq] at hphase
      cases hphase
    · have hregistered : (state.sockets _).pluginId = none := hconsistent heq
      rw [hregistered] at hid
      cases hid
  | refuse message _ => exact h.say _ message
  | check heq hregistered _ =>
    exact h.setSocket _ _ hregistered (hone (hlabel _ _ rfl)) (h.registered _) (henters heq (by simp) _)
  | @insertConnection id pluginId heq =>
    have hsocket := h.setSocket id { state.sockets id with phase := .inserted pluginId } (hconsistent heq)
      (hone (hin heq rfl)) (h.registered id) (henters heq (by simp) _)
    refine ⟨hsocket.consistent, hsocket.phases, hsocket.registered, hsocket.listeners, ?_⟩
    intro other sender hsender
    by_cases hother : other = pluginId
    · subst hother
      rw [getSender_insertNew] at hsender
      cases hsender
      left
      simp [GatewayState.setSocket]
    · rw [Connections.getSender, lookup_insertNew_of_ne hother] at hsender
      exact hsocket.entered other sender hsender
  | published heq =>
    refine h.setSocket _ _ rfl (hone (hin heq rfl)) (hone (hin heq rfl)) fun other hentered ↦ .inr ?_
    rcases hentered with hphase | hid
    · rw [heq] at hphase
      obtain rfl := Phase.inserted.inj hphase
      rfl
    · have hregistered : (state.sockets _).pluginId = none := hconsistent heq
      rw [hregistered] at hid
      cases hid
  | unpublished _ => exact hpublished.elim
  | subscribe heq hregistered =>
    exact h.setSocket _ _ hregistered (hone (h.registered _ _ hregistered)) (h.registered _)
      (henters heq (by simp) _)
  | ignore _ _ => exact h
  | @spawnListener id pluginId listener rest registering heq =>
    refine (h.setSocket id { state.sockets id with
      phase := .adding pluginId state.nextTask rest registering } (hconsistent heq) (hone (hin heq rfl))
      (h.registered id) (henters heq (by simp) _)).of_tasks ?_ (fun _ _ hsender ↦ hsender) _
    intro task spawned hspawned
    by_cases htask : task = state.nextTask
    · subst htask
      rw [AList.lookup_insert] at hspawned
      cases hspawned
      exact hin heq rfl
    · rw [AList.lookup_insert_ne htask] at hspawned
      exact h.listeners task spawned hspawned
  | @addSubscription id pluginId task rest registering heq =>
    refine (h.setSocket id { state.sockets id with phase := .listening pluginId rest registering }
      (hconsistent heq) (hone (hin heq rfl)) (h.registered id) (henters heq (by simp) _)).of_tasks
      h.listeners (fun other sender hsender ↦ ?_) _
    rwa [getSender_addSubscription] at hsender
  | finishListening heq _ =>
    refine h.setSocket _ _ trivial hnone (h.registered _) fun pluginId hentered ↦ ?_
    exact henters heq (by simp) _ pluginId hentered
  | leave _ heq => exact h.leave heq
  | @removeConnection id pluginId heq =>
    refine (h.setSocket id { state.sockets id with
      phase := .aborting (state.connections.subscriptionsOf pluginId) } trivial hnone
      (h.registered id) (henters heq (by simp) _)).of_tasks h.listeners (fun other sender hsender ↦ ?_) _
    by_cases hother : other = pluginId
    · subst hother
      rw [Connections.getSender, AList.lookup_erase] at hsender
      cases hsender
    · rwa [Connections.getSender, AList.lookup_erase_ne hother] at hsender
  | @abortListeners id handles heq =>
    exact (h.setSocket id { state.sockets id with phase := .closed } trivial hnone (h.registered id)
      (henters heq (by simp) _)).of_tasks
      (fun task listener hlistener ↦ h.listeners task listener (lookup_foldl_erase hlistener).1)
      (fun _ _ hsender ↦ hsender) _
  | @listenerEnds ended _ =>
    refine h.of_tasks (fun task listener hlistener ↦ ?_) (fun _ _ hsender ↦ hsender) _
    have hne : task ≠ ended := by
      rintro rfl
      rw [AList.lookup_erase] at hlistener
      cases hlistener
    rw [AList.lookup_erase_ne hne] at hlistener
    exact h.listeners task listener hlistener

theorem GatewayState.Named.registered_of_sender (h : state.Named P) {registered : String}
    (hsender : state.connections.getSender pluginId = some id)
    (hregistered : (state.sockets id).pluginId = some registered) : registered = pluginId := by
  rcases h.entered pluginId id hsender with hphase | hid
  · have hconsistent := h.consistent id
    rw [Socket.Consistent, hphase] at hconsistent
    rw [hconsistent] at hregistered
    cases hregistered
  · exact Option.some.inj (hregistered.symm.trans hid)

end

/-! ## What plugins are held to -/

variable {subject : String}

theorem not_prefix_of_isSubjectAllowed (h : isSubjectAllowed subject = true) :
    ∀ start ∈ blockedPrefixes, ¬start.toList <+: subject.toList := by
  intro start hstart hpre
  have hallowed := List.all_eq_true.mp h start hstart
  simp [hpre] at hallowed

theorem not_matches_of_isSubjectAllowed (h : isSubjectAllowed subject = true) :
    patternMatches (tokens "capability.register") (tokens subject) = false := by
  cases hmatches : patternMatches (tokens "capability.register") (tokens subject) with
  | false => rfl
  | true =>
    have htokens := eq_of_matches_literal (by decide) (by decide) hmatches
    obtain rfl := EventBus.tokens_injective htokens
    exact absurd h (by decide)

namespace ActingState

variable {state next : ActingState} {label : ActingLabel}

/-- What keeps plugins to themselves: identifiers are literal, what waits to be forwarded was published for
its plugin, and registrations on their way name their senders. -/
structure Sound (state : ActingState) : Prop where
  gateway : state.gateway.Named Literal
  sending : ∀ task, ∀ heard ∈ state.sending.lookup task,
    heard.subject = (forwarder heard.isHealthCheck).subject heard.pluginId
  capabilities : ∀ sent ∈ state.capabilities, ∀ payload ∈ ToolRegisterPayload.fromValue sent.capability,
    payload.pluginId = sent.sender
  only : OnlyAsThemselves state

theorem sound_init (tools : ToolTable) (plugins : List String) : Sound (init tools plugins) := by
  refine ⟨⟨fun _ ↦ rfl, ?_, ?_, ?_, ?_⟩, ?_, ?_, ⟨?_, ?_, ?_⟩⟩
  · exact fun id pluginId hmem ↦ by cases hmem
  · exact fun id pluginId hmem ↦ by cases hmem
  · exact fun task listener hmem ↦ by cases hmem
  · exact fun pluginId id hmem ↦ by cases hmem
  · exact fun task heard hmem ↦ by cases hmem
  · exact fun sent hmem ↦ absurd hmem List.not_mem_nil
  · exact fun change hmem ↦ absurd hmem List.not_mem_nil
  · exact fun message hmem ↦ absurd hmem List.not_mem_nil
  · exact fun subject hmem ↦ absurd hmem List.not_mem_nil

theorem Sound.say (h : state.Sound) (id : ℕ) (message : ServerMessage) : (state.say id message).Sound where
  gateway := h.gateway.say id message
  sending := h.sending
  capabilities := h.capabilities
  only := ⟨h.only.changes, h.only.forwarded, h.only.published⟩

variable {subject : String} {task : ℕ}

theorem Sound.emit (h : state.Sound) {sender : String} {payload : Value}
    (hpayload : ∀ read ∈ ToolRegisterPayload.fromValue payload, read.pluginId = sender) :
    (state.emit sender subject payload).Sound := by
  unfold ActingState.emit
  split_ifs
  · refine ⟨h.gateway, h.sending, ?_, ⟨h.only.changes, h.only.forwarded, h.only.published⟩⟩
    intro sent hsent
    obtain hold | rfl := mem_of_concat hsent
    · exact h.capabilities sent hold
    · exact hpayload
  · exact h

theorem Sound.publish (h : state.Sound) {id : ℕ} {envelope : Value} {sent : Bool}
    (hstep : step state (.publish id subject envelope sent) = some next) : next.Sound := by
  simp only [step] at hstep
  obtain ⟨-, hstep⟩ := Option.ite_none_right_eq_some.mp hstep
  split at hstep
  · cases hstep
    exact h
  · split_ifs at hstep with hallowed
    · cases hstep
      rw [ActingState.emit, not_matches_of_isSubjectAllowed hallowed.1]
      refine ⟨h.gateway, h.sending, h.capabilities, h.only.changes, h.only.forwarded, ?_⟩
      intro published hpublished
      obtain hold | rfl := mem_of_concat hpublished
      · exact h.only.published published hold
      · exact not_prefix_of_isSubjectAllowed hallowed.1
    · cases hstep
      exact h

/-- Something to be forwarded that was published for its plugin. -/
theorem Sound.addSending (h : state.Sound) {heard : HeardMessage}
    (hsubject : heard.subject = (forwarder heard.isHealthCheck).subject heard.pluginId) :
    Sound { state with sending := state.sending.insert task heard } := by
  refine ⟨h.gateway, ?_, h.capabilities,
    ⟨h.only.changes, h.only.forwarded, h.only.published⟩⟩
  intro other found hfound
  by_cases hother : other = task
  · subst hother
    rw [AList.lookup_insert] at hfound
    cases hfound
    exact hsubject
  · rw [AList.lookup_insert_ne hother] at hfound
    exact h.sending other found hfound

theorem Sound.hear (h : state.Sound) {requestId : String} {reply : Option String} {request : Option Value}
    (hstep : step state (.hear task subject reply request requestId) = some next) : next.Sound := by
  obtain ⟨-, hstep⟩ := Option.ite_none_left_eq_some.mp hstep
  obtain ⟨⟨owner, pluginId, kind⟩, hlistener, hstep⟩ := Option.bind_eq_some_iff.mp hstep
  obtain ⟨hmatches, hstep⟩ := Option.ite_none_right_eq_some.mp hstep
  cases hstep
  have hliteral := h.gateway.listeners task _ hlistener
  cases kind with
  | events pattern => exact h
  | capabilityCalls =>
    cases reply with
    | none => exact h
    | some reply =>
      cases request with
      | none => exact h
      | some request =>
        have hsubject : subject = (forwarder false).subject pluginId :=
          subject_eq_of_matches hliteral hmatches
        exact h.addSending hsubject
  | healthChecks =>
    cases reply with
    | none => exact h
    | some reply =>
      have hsubject : subject = (forwarder true).subject pluginId :=
        subject_eq_of_matches hliteral hmatches
      exact h.addSending hsubject

theorem Sound.send (h : state.Sound) (hstep : step state (.send task) = some next) : next.Sound := by
  obtain ⟨heard, hheard, rfl⟩ := Option.map_eq_some_iff.mp hstep
  have hrest (other : ℕ) (found : HeardMessage)
      (hfound : found ∈ (state.sending.erase task).lookup other) : found ∈ state.sending.lookup other := by
    by_cases hother : other = task
    · subst hother
      rw [AList.lookup_erase] at hfound
      cases hfound
    · rwa [AList.lookup_erase_ne hother] at hfound
  unfold forward
  cases hsender : state.gateway.connections.getSender heard.pluginId with
  | none =>
    exact ⟨h.gateway, fun other found hfound ↦ h.sending other found (hrest other found hfound),
      h.capabilities, ⟨h.only.changes, h.only.forwarded, h.only.published⟩⟩
  | some id =>
    have hsaid := h.say id heard.message
    refine ⟨hsaid.gateway,
      fun other found hfound ↦ h.sending other found (hrest other found hfound), h.capabilities,
      h.only.changes, ?_, h.only.published⟩
    intro message hmessage
    obtain hold | rfl := mem_of_concat hmessage
    · exact h.only.forwarded message hold
    · intro pluginId hregistered
      obtain rfl := h.gateway.registered_of_sender hsender hregistered
      exact h.sending task heard hheard

theorem Sound.handleCapability (h : state.Sound) {stored : Bool}
    (hhonest : state.Honest (.handleCapability stored))
    (hstep : step state (.handleCapability stored) = some next) : next.Sound := by
  simp only [step] at hstep
  split at hstep
  · cases hstep
  · rename_i sent rest hqueue
    cases hstep
    have hsent : sent ∈ state.capabilities := hqueue ▸ List.mem_cons_self
    have hrest : ∀ other ∈ rest, other ∈ state.capabilities :=
      fun other hother ↦ hqueue ▸ List.mem_cons_of_mem _ hother
    have hsame : Sound { state with capabilities := rest } :=
      ⟨h.gateway, h.sending, fun other hother ↦ h.capabilities other (hrest other hother),
        ⟨h.only.changes, h.only.forwarded, h.only.published⟩⟩
    unfold ActingState.take
    split
    · exact hsame
    · rename_i payload hpayload
      split_ifs
      · refine ⟨hsame.gateway, hsame.sending, hsame.capabilities, ?_, hsame.only.forwarded,
          hsame.only.published⟩
        intro change hchange
        obtain hold | rfl := mem_of_concat hchange
        · exact h.only.changes change hold
        · refine ⟨h.capabilities sent hsent payload hpayload, fun before hbefore ↦ ?_⟩
          have hhead : sent ∈ state.capabilities.head? := by rw [hqueue]; rfl
          exact hhonest sent hhead payload hpayload before hbefore
      · exact hsame

theorem Sound.step (h : state.Sound) (hhonest : state.Honest label)
    (hstep : ActingState.step state label = some next) : next.Sound := by
  cases label with
  | gateway label =>
    obtain ⟨gateway, hgateway, rfl⟩ := Option.map_eq_some_iff.mp hstep
    have hnamed : gateway.Named Literal := by
      refine h.gateway.step ?_ hhonest.1 hgateway
      rintro id pluginId rfl
      exact hhonest.2
    exact ⟨hnamed, h.sending, h.capabilities, ⟨h.only.changes, h.only.forwarded, h.only.published⟩⟩
  | registerCapability id capability result =>
    simp only [ActingState.step] at hstep
    split_ifs at hstep with hreading
    split at hstep
    · cases hstep
      exact h.say id _
    · rename_i pluginId hregistered
      cases hstep
      exact h.emit (hhonest pluginId hregistered)
    · cases hstep
      exact h.say id _
  | publish id subject envelope sent => exact h.publish hstep
  | hear task subject reply request requestId => exact h.hear hstep
  | send task => exact h.send hstep
  | handleCapability stored => exact h.handleCapability hhonest hstep
  | handleOther payload stored | registerPlugin pluginId | deregisterPlugin pluginId =>
    cases hstep
    exact ⟨h.gateway, h.sending, h.capabilities,
      ⟨h.only.changes, h.only.forwarded, h.only.published⟩⟩

/-- In a run whose steps are all honest, plugins act only as themselves. -/
theorem onlyAsThemselves_of_honest {tools : ToolTable} {plugins : List String}
    (hreach : Steps.Reach step Honest (init tools plugins) state) : OnlyAsThemselves state :=
  (hreach.invariant (sound_init tools plugins) fun _ _ _ hbefore hhonest hstep ↦
    hbefore.step hhonest hstep).only

/-- The registration of a tool, as a plugin sends it. -/
def sampleCapability (toolId pluginId : String) : Value :=
  .object [("call_subject", .string ("capability.call." ++ pluginId)), ("manual_md", .string ""),
    ("name", .string toolId), ("parameters", .object []), ("plugin_id", .string pluginId),
    ("summary_md", .string ""), ("tool_id", .string toolId)]

def joins (id : ℕ) (pluginId : String) : List ActingLabel :=
  [.accept id, .register id pluginId, .insertConnection id, .publishRegister id (.ok ()),
    .spawnListener id, .addSubscription id, .spawnListener id, .addSubscription id,
    .finishListening id].map ActingLabel.gateway

/-- A plugin registers a tool of its own, is called, and publishes an event. -/
theorem onlyAsThemselves_notes :
    ∃ state ∈ Steps.execute step (init .empty ["kernel"]) (joins 0 "notes" ++
        [.registerCapability 0 (sampleCapability "take-note" "notes") (.ok ()), .handleCapability true,
          .hear 0 "capability.call.notes" (some "reply") (some .null) "r1", .send 0,
          .publish 0 "notes.saved" .null true]),
      state.changes.length = 1 ∧ state.forwarded = [⟨some "notes", false, "capability.call.notes"⟩] ∧
        state.published = ["notes.saved"] ∧ OnlyAsThemselves state := by
  have hrun : ∃ state ∈ Steps.execute step (init .empty ["kernel"]) (joins 0 "notes" ++
        [.registerCapability 0 (sampleCapability "take-note" "notes") (.ok ()), .handleCapability true,
          .hear 0 "capability.call.notes" (some "reply") (some .null) "r1", .send 0,
          .publish 0 "notes.saved" .null true]),
      state.changes.length = 1 ∧ state.forwarded = [⟨some "notes", false, "capability.call.notes"⟩] ∧
        state.published = ["notes.saved"] := by
    decide +kernel
  obtain ⟨state, hstate, hchanges, hforwarded, hpublished⟩ := hrun
  exact ⟨state, hstate, hchanges, hforwarded, hpublished,
    onlyAsThemselves_of_honest (Steps.reach_of_execute (by decide +kernel) hstate)⟩

/-- A plugin takes over a tool of another one in a third one's name, and a plugin named `*` is sent the calls
of others. -/
theorem exists_impersonation :
    (∃ state, Steps.Reach step (fun _ _ ↦ True) (init .empty ["calendar"]) state ∧
      ¬OnlyAsThemselves state ∧ ∃ change ∈ state.changes, change.sender = "notes" ∧
        change.entry.pluginId = "kernel" ∧
        change.before.map ToolEntry.pluginId = some "calendar") ∧
    ∃ state, Steps.Reach step (fun _ _ ↦ True) (init .empty ["calendar"]) state ∧
      ¬OnlyAsThemselves state ∧
      ⟨some "*", false, "capability.call.calendar"⟩ ∈ state.forwarded := by
  have htaken : ∃ state ∈ Steps.execute step (init .empty ["calendar"]) (joins 0 "notes" ++
        [.handleOther ⟨"add-event", "calendar", "", "", "", .object [], "capability.call.calendar", "tool"⟩
            true,
          .registerCapability 0 (sampleCapability "add-event" "kernel") (.ok ()), .handleCapability true]),
      ∃ change ∈ state.changes, change.sender = "notes" ∧ change.entry.pluginId = "kernel" ∧
        change.before.map ToolEntry.pluginId = some "calendar" := by
    decide +kernel
  have hcalled : ∃ state ∈ Steps.execute step (init .empty ["calendar"]) (joins 0 "*" ++
        [.hear 0 "capability.call.calendar" (some "reply") (some .null) "r1", .send 0]),
      ⟨some "*", false, "capability.call.calendar"⟩ ∈ state.forwarded := by
    decide +kernel
  constructor
  · obtain ⟨state, hstate, change, hchange, hsender, hentry, hbefore⟩ := htaken
    refine ⟨state, Steps.reach_of_execute (Steps.guarded_of_forall (fun _ _ ↦ trivial) _ _) hstate,
      fun honly ↦ ?_, change, hchange, hsender, hentry, hbefore⟩
    have hown := (honly.changes change hchange).1
    simp [hsender, hentry] at hown
  · obtain ⟨state, hstate, hmem⟩ := hcalled
    refine ⟨state, Steps.reach_of_execute (Steps.guarded_of_forall (fun _ _ ↦ trivial) _ _) hstate,
      fun honly ↦ ?_, hmem⟩
    have hown := honly.forwarded _ hmem "*" rfl
    exact absurd hown (by decide)

end ActingState

end Seidrum.Gateway
