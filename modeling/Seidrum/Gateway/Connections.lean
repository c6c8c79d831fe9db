import Mathlib.Data.List.AList
import Seidrum.Foundation.Transition
import Seidrum.Kernel.Events

/-!
# Connections of external plugins

An external plugin talks to the gateway over a socket.  The task that serves a socket registers the
plugin in a table shared by all sockets, and spawns listeners on the bus on the plugin's behalf.  The
task looks into the table, changes it, calls the bus and spawns listeners in separate steps, between
which the tasks of other sockets run.
-/

namespace Seidrum.Gateway

open EventBus (Value)
open Foundation

/-- An active connection: the socket it sends to and the handles of the listeners spawned for it. -/
structure ExternalPluginConnection where
  sender : ℕ
  subscriptions : List ℕ
  deriving DecidableEq, Repr

abbrev Connections := AList fun _ : String ↦ ExternalPluginConnection

def Connections.insertNew (connections : Connections) (pluginId : String) (sender : ℕ) :
    Connections :=
  connections.insert pluginId ⟨sender, []⟩

/-- A handle is added to an existing connection, and dropped if there is none. -/
def Connections.addSubscription (connections : Connections) (pluginId : String) (handle : ℕ) :
    Connections :=
  match connections.lookup pluginId with
  | some conn =>
      connections.insert pluginId { conn with subscriptions := conn.subscriptions ++ [handle] }
  | none => connections

def Connections.getSender (connections : Connections) (pluginId : String) : Option ℕ :=
  (connections.lookup pluginId).map (·.sender)

/-- The handles that go with a connection. -/
def Connections.subscriptionsOf (connections : Connections) (pluginId : String) : List ℕ :=
  ((connections.lookup pluginId).map (·.subscriptions)).getD []

inductive ServerMessage
  | registered (pluginId : String)
  | capabilityCall (requestId : String) (request : Value)
  | healthCheck (requestId : String)
  | error (message : String)

/-- What a listener forwards to a plugin. -/
inductive Listener
  | capabilityCalls
  | healthChecks
  | events (subject : String)
  deriving DecidableEq, Repr

def Listener.subject (pluginId : String) : Listener → String
  | capabilityCalls => "capability.call." ++ pluginId
  | healthChecks => "plugin." ++ pluginId ++ ".health"
  | events subject => subject

/-- Where the task of a socket stands. -/
inductive Phase
  /-- No such socket yet. -/
  | absent
  /-- The next message is awaited. -/
  | reading
  /-- No connection was found under the identifier. -/
  | checked (pluginId : String)
  /-- The connection is in the table, and its registration not yet published. -/
  | inserted (pluginId : String)
  /-- Listeners are yet to be spawned, for a registration or a subscription. -/
  | listening (pluginId : String) (listeners : List Listener) (registering : Bool)
  /-- A listener is spawned and its handle in hand. -/
  | adding (pluginId : String) (task : ℕ) (listeners : List Listener) (registering : Bool)
  /-- The registration is to be given up. -/
  | removing (pluginId : String)
  /-- The connection is out of the table, and its listeners still run. -/
  | aborting (handles : List ℕ)
  | closed
  deriving DecidableEq, Repr

/-- The state of a socket's task: its local variable and the messages it has sent. -/
structure Socket where
  phase : Phase
  pluginId : Option String
  sent : List ServerMessage

def Socket.say (socket : Socket) (message : ServerMessage) : Socket :=
  { socket with sent := socket.sent ++ [message] }

/-- A listener, with the socket on whose behalf it was spawned. -/
structure ListenerTask where
  owner : ℕ
  pluginId : String
  listener : Listener
  deriving DecidableEq, Repr

structure GatewayState where
  sockets : ℕ → Socket
  connections : Connections
  tasks : AList fun _ : ℕ ↦ ListenerTask
  nextTask : ℕ

def GatewayState.init : GatewayState := ⟨fun _ ↦ ⟨.absent, none, []⟩, ∅, ∅, 0⟩

def GatewayState.setSocket (state : GatewayState) (id : ℕ) (socket : Socket) : GatewayState :=
  { state with sockets := Function.update state.sockets id socket }

/-- The steps of the tasks.  A label names the socket whose task takes the step, and what it reads or
what the bus answers. -/
inductive GatewayLabel
  | accept (id : ℕ)
  | register (id : ℕ) (pluginId : String)
  | insertConnection (id : ℕ)
  | publishRegister (id : ℕ) (result : Except String Unit)
  | subscribe (id : ℕ) (subjects : List String)
  | spawnListener (id : ℕ)
  | addSubscription (id : ℕ)
  | finishListening (id : ℕ)
  | deregister (id : ℕ)
  | disconnect (id : ℕ)
  | removeConnection (id : ℕ)
  | abortListeners (id : ℕ)
  /-- A listener ends by itself: its subscription failed or was closed. -/
  | listenerEnds (task : ℕ)

/-- The socket whose task takes the step. -/
def GatewayLabel.socket : GatewayLabel → Option ℕ
  | accept id | register id _ | insertConnection id | publishRegister id _ | subscribe id _
  | spawnListener id | addSubscription id | finishListening id | deregister id | disconnect id
  | removeConnection id | abortListeners id => some id
  | listenerEnds _ => none

/-- The loop over the messages ends, by a message or because the socket is closed. -/
def GatewayState.leave (state : GatewayState) (id : ℕ) : GatewayState :=
  match (state.sockets id).pluginId with
  | some pluginId => state.setSocket id { state.sockets id with phase := .removing pluginId }
  | none => state.setSocket id { state.sockets id with phase := .closed }

def GatewayState.step : Steps GatewayState GatewayLabel
  | state, .accept id =>
      match (state.sockets id).phase with
      | .absent => some (state.setSocket id ⟨.reading, none, []⟩)
      | _ => none
  | state, .register id pluginId =>
      match (state.sockets id).phase, (state.sockets id).pluginId with
      | .reading, some _ =>
          some (state.setSocket id ((state.sockets id).say
            (.error "Already registered. Send deregister first.")))
      | .reading, none =>
          if (state.connections.lookup pluginId).isSome then
            some (state.setSocket id ((state.sockets id).say
              (.error ("Plugin '" ++ pluginId ++ "' is already connected"))))
          else some (state.setSocket id { state.sockets id with phase := .checked pluginId })
      | _, _ => none
  | state, .insertConnection id =>
      match (state.sockets id).phase with
      | .checked pluginId =>
          some { state.setSocket id { state.sockets id with phase := .inserted pluginId } with
            connections := state.connections.insertNew pluginId id }
      | _ => none
  | state, .publishRegister id result =>
      match (state.sockets id).phase, result with
      | .inserted pluginId, .ok () =>
          some (state.setSocket id { state.sockets id with
            phase := .listening pluginId [.capabilityCalls, .healthChecks] true
            pluginId := some pluginId })
      | .inserted _, .error error =>
          some (state.setSocket id ({ state.sockets id with phase := .reading }.say
            (.error ("Failed to publish plugin.register: " ++ error))))
      | _, _ => none
  | state, .subscribe id subjects =>
      match (state.sockets id).phase, (state.sockets id).pluginId with
      | .reading, some pluginId =>
          some (state.setSocket id { state.sockets id with
            phase := .listening pluginId (subjects.map .events) false })
      | .reading, none => some state
      | _, _ => none
  | state, .spawnListener id =>
      match (state.sockets id).phase with
      | .listening pluginId (listener :: rest) registering =>
          some { state.setSocket id { state.sockets id with
              phase := .adding pluginId state.nextTask rest registering } with
            tasks := state.tasks.insert state.nextTask ⟨id, pluginId, listener⟩
            nextTask := state.nextTask + 1 }
      | _ => none
  | state, .addSubscription id =>
      match (state.sockets id).phase with
      | .adding pluginId task rest registering =>
          some { state.setSocket id { state.sockets id with
              phase := .listening pluginId rest registering } with
            connections := state.connections.addSubscription pluginId task }
      | _ => none
  | state, .finishListening id =>
      match (state.sockets id).phase with
      | .listening pluginId [] true =>
          some (state.setSocket id ({ state.sockets id with phase := .reading }.say
            (.registered pluginId)))
      | .listening _ [] false =>
          some (state.setSocket id { state.sockets id with phase := .reading })
      | _ => none
  | state, .deregister id | state, .disconnect id =>
      match (state.sockets id).phase with
      | .reading => some (state.leave id)
      | _ => none
  | state, .removeConnection id =>
      match (state.sockets id).phase with
      | .removing pluginId =>
          some { state.setSocket id { state.sockets id with
              phase := .aborting (state.connections.subscriptionsOf pluginId) } with
            connections := state.connections.erase pluginId }
      | _ => none
  | state, .abortListeners id =>
      match (state.sockets id).phase with
      | .aborting handles =>
          some { state.setSocket id { state.sockets id with phase := .closed } with
            tasks := handles.foldl (fun tasks handle ↦ tasks.erase handle) state.tasks }
      | _ => none
  | state, .listenerEnds task =>
      if (state.tasks.lookup task).isSome then some { state with tasks := state.tasks.erase task }
      else none

/-- What the label of a step does to a state. -/
inductive GatewayState.Change (state : GatewayState) : GatewayLabel → GatewayState → Prop
  | accept {id : ℕ} (hphase : (state.sockets id).phase = .absent) :
      Change state (.accept id) (state.setSocket id ⟨.reading, none, []⟩)
  | refuse {id : ℕ} {pluginId : String} (message : ServerMessage)
      (hphase : (state.sockets id).phase = .reading) :
      Change state (.register id pluginId) (state.setSocket id ((state.sockets id).say message))
  | check {id : ℕ} {pluginId : String} (hphase : (state.sockets id).phase = .reading)
      (hplugin : (state.sockets id).pluginId = none)
      (hfree : state.connections.lookup pluginId = none) :
      Change state (.register id pluginId)
        (state.setSocket id { state.sockets id with phase := .checked pluginId })
  | insertConnection {id : ℕ} {pluginId : String}
      (hphase : (state.sockets id).phase = .checked pluginId) :
      Change state (.insertConnection id)
        { state.setSocket id { state.sockets id with phase := .inserted pluginId } with
          connections := state.connections.insertNew pluginId id }
  | published {id : ℕ} {pluginId : String} (hphase : (state.sockets id).phase = .inserted pluginId) :
      Change state (.publishRegister id (.ok ()))
        (state.setSocket id { state.sockets id with
          phase := .listening pluginId [.capabilityCalls, .healthChecks] true
          pluginId := some pluginId })
  | unpublished {id : ℕ} {pluginId error : String}
      (hphase : (state.sockets id).phase = .inserted pluginId) :
      Change state (.publishRegister id (.error error))
        (state.setSocket id ({ state.sockets id with phase := .reading }.say
          (.error ("Failed to publish plugin.register: " ++ error))))
  | subscribe {id : ℕ} {subjects : List String} {pluginId : String}
      (hphase : (state.sockets id).phase = .reading)
      (hplugin : (state.sockets id).pluginId = some pluginId) :
      Change state (.subscribe id subjects)
        (state.setSocket id { state.sockets id with
          phase := .listening pluginId (subjects.map .events) false })
  | ignore {id : ℕ} {subjects : List String} (hphase : (state.sockets id).phase = .reading)
      (hplugin : (state.sockets id).pluginId = none) : Change state (.subscribe id subjects) state
  | spawnListener {id : ℕ} {pluginId : String} {listener : Listener} {rest : List Listener}
      {registering : Bool}
      (hphase : (state.sockets id).phase = .listening pluginId (listener :: rest) registering) :
      Change state (.spawnListener id)
        { state.setSocket id { state.sockets id with
            phase := .adding pluginId state.nextTask rest registering } with
          tasks := state.tasks.insert state.nextTask ⟨id, pluginId, listener⟩
          nextTask := state.nextTask + 1 }
  | addSubscription {id : ℕ} {pluginId : String} {task : ℕ} {rest : List Listener}
      {registering : Bool} (hphase : (state.sockets id).phase = .adding pluginId task rest registering) :
      Change state (.addSubscription id)
        { state.setSocket id { state.sockets id with
            phase := .listening pluginId rest registering } with
          connections := state.connections.addSubscription pluginId task }
  | finishListening {id : ℕ} {pluginId : String} {registering : Bool} {sent : List ServerMessage}
      (hphase : (state.sockets id).phase = .listening pluginId [] registering)
      (hsent : sent = (state.sockets id).sent ++ if registering then [.registered pluginId] else []) :
      Change state (.finishListening id)
        (state.setSocket id { state.sockets id with phase := .reading, sent := sent })
  | leave {id : ℕ} {label : GatewayLabel} (hlabel : label = .deregister id ∨ label = .disconnect id)
      (hphase : (state.sockets id).phase = .reading) : Change state label (state.leave id)
  | removeConnection {id : ℕ} {pluginId : String}
      (hphase : (state.sockets id).phase = .removing pluginId) :
      Change state (.removeConnection id)
        { state.setSocket id { state.sockets id with
            phase := .aborting (state.connections.subscriptionsOf pluginId) } with
          connections := state.connections.erase pluginId }
  | abortListeners {id : ℕ} {handles : List ℕ} (hphase : (state.sockets id).phase = .aborting handles) :
      Change state (.abortListeners id)
        { state.setSocket id { state.sockets id with phase := .closed } with
          tasks := handles.foldl (fun tasks handle ↦ tasks.erase handle) state.tasks }
  | listenerEnds {task : ℕ} (hrunning : (state.tasks.lookup task).isSome) :
      Change state (.listenerEnds task) { state with tasks := state.tasks.erase task }

theorem GatewayState.change_of_step {state next : GatewayState} {label : GatewayLabel}
    (hstep : state.step label = some next) : state.Change label next := by
  cases label with
  | accept id =>
    simp only [step] at hstep
    split at hstep
    next hphase => exact Option.some.inj hstep ▸ .accept hphase
    next => cases hstep
  | register id pluginId =>
    simp only [step] at hstep
    split at hstep
    next hphase _ => exact Option.some.inj hstep ▸ .refuse _ hphase
    next hphase hplugin =>
      split_ifs at hstep with hconn
      · exact Option.some.inj hstep ▸ .refuse _ hphase
      · exact Option.some.inj hstep ▸ .check hphase hplugin (Option.not_isSome_iff_eq_none.mp hconn)
    next => cases hstep
  | insertConnection id =>
    simp only [step] at hstep
    split at hstep
    next hphase => exact Option.some.inj hstep ▸ .insertConnection hphase
    next => cases hstep
  | publishRegister id result =>
    simp only [step] at hstep
    split at hstep
    next hphase => exact Option.some.inj hstep ▸ .published hphase
    next hphase => exact Option.some.inj hstep ▸ .unpublished hphase
    next => cases hstep
  | subscribe id subjects =>
    simp only [step] at hstep
    split at hstep
    next hphase hplugin => exact Option.some.inj hstep ▸ .subscribe hphase hplugin
    next hphase hplugin => exact Option.some.inj hstep ▸ .ignore hphase hplugin
    next => cases hstep
  | spawnListener id =>
    simp only [step] at hstep
    split at hstep
    next hphase => exact Option.some.inj hstep ▸ .spawnListener hphase
    next => cases hstep
  | addSubscription id =>
    simp only [step] at hstep
    split at hstep
    next hphase => exact Option.some.inj hstep ▸ .addSubscription hphase
    next => cases hstep
  | finishListening id =>
    simp only [step] at hstep
    split at hstep
    next hphase => exact Option.some.inj hstep ▸ .finishListening hphase rfl
    next hphase => exact Option.some.inj hstep ▸ .finishListening hphase (List.append_nil _).symm
    next => cases hstep
  | deregister id =>
    simp only [step] at hstep
    split at hstep
    next hphase => exact Option.some.inj hstep ▸ .leave (.inl rfl) hphase
    next => cases hstep
  | disconnect id =>
    simp only [step] at hstep
    split at hstep
    next hphase => exact Option.some.inj hstep ▸ .leave (.inr rfl) hphase
    next => cases hstep
  | removeConnection id =>
    simp only [step] at hstep
    split at hstep
    next hphase => exact Option.some.inj hstep ▸ .removeConnection hphase
    next => cases hstep
  | abortListeners id =>
    simp only [step] at hstep
    split at hstep
    next hphase => exact Option.some.inj hstep ▸ .abortListeners hphase
    next => cases hstep
  | listenerEnds task =>
    simp only [step] at hstep
    split_ifs at hstep with hrunning
    exact Option.some.inj hstep ▸ .listenerEnds hrunning

end Seidrum.Gateway
