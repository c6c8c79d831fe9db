import Seidrum.Gateway.Connections

/-!
# Who owns a registration

As long as nobody else inserts a connection between a socket's look into the table and its own
insertion, and registrations are published, the table and the sockets agree on who owns what: a
connection is in the table under an identifier exactly while its socket holds that identifier.
Every running listener is then within reach of the socket it was spawned for.
-/

namespace Seidrum.Gateway

open Foundation

/-- The identifier under which a socket has a connection in the table. -/
def Socket.holds (socket : Socket) : Option String :=
  match socket.phase with
  | .inserted pluginId | .listening pluginId _ _ | .adding pluginId _ _ _ | .removing pluginId =>
      some pluginId
  | .reading => socket.pluginId
  | .absent | .checked _ | .aborting _ | .closed => none

/-- The handles a task has in its local variables. -/
def Socket.inHand (socket : Socket) : List ℕ :=
  match socket.phase with
  | .adding _ task _ _ => [task]
  | .aborting handles => handles
  | _ => []

/-- The local variable agrees with where the task stands. -/
def Socket.Consistent (socket : Socket) : Prop :=
  match socket.phase with
  | .listening pluginId _ _ | .adding pluginId _ _ _ | .removing pluginId =>
      socket.pluginId = some pluginId
  | .absent | .checked _ | .inserted _ => socket.pluginId = none
  | .reading | .aborting _ | .closed => True

/-- The listeners a socket can abort. -/
def GatewayState.handles (state : GatewayState) (id : ℕ) : List ℕ :=
  ((state.sockets id).holds.map state.connections.subscriptionsOf).getD [] ++
    (state.sockets id).inHand

/-- The socket is open and has the identifier registered. -/
def GatewayState.Owns (state : GatewayState) (id : ℕ) (pluginId : String) : Prop :=
  (state.sockets id).holds = some pluginId

/-- No connection is inserted over another one, and registrations are published. -/
def GatewayState.Alone (state : GatewayState) : GatewayLabel → Prop
  | .insertConnection id =>
      match (state.sockets id).phase with
      | .checked pluginId => state.connections.lookup pluginId = none
      | _ => True
  | .publishRegister _ (.error _) => False
  | _ => True

instance (state : GatewayState) (label : GatewayLabel) : Decidable (state.Alone label) := by
  unfold GatewayState.Alone
  split
  · split <;> infer_instance
  · infer_instance
  · infer_instance

/-- The table and the sockets agree, and every listener is within reach of its socket. -/
structure GatewayState.Sound (state : GatewayState) : Prop where
  consistent : ∀ id, (state.sockets id).Consistent
  owned : ∀ pluginId id, state.connections.getSender pluginId = some id ↔ state.Owns id pluginId
  accounted : ∀ handle task, state.tasks.lookup handle = some task →
    handle ∈ state.handles task.owner

section

variable {connections : Connections} {pluginId other : String} {sender handle : ℕ}

theorem getSender_insertNew :
    (connections.insertNew pluginId sender).getSender pluginId = some sender := by
  simp [Connections.insertNew, Connections.getSender]

theorem lookup_insertNew_of_ne (h : other ≠ pluginId) :
    (connections.insertNew pluginId sender).lookup other = connections.lookup other :=
  AList.lookup_insert_ne h

theorem lookup_addSubscription_of_ne (h : other ≠ pluginId) :
    (connections.addSubscription pluginId handle).lookup other = connections.lookup other := by
  unfold Connections.addSubscription
  split
  · exact AList.lookup_insert_ne h
  · rfl

theorem getSender_addSubscription :
    (connections.addSubscription pluginId handle).getSender other = connections.getSender other := by
  unfold Connections.addSubscription Connections.getSender
  cases hconn : connections.lookup pluginId with
  | none => rfl
  | some conn =>
    by_cases h : other = pluginId
    · subst h
      simp [hconn]
    · simp [AList.lookup_insert_ne h]

theorem subscriptionsOf_addSubscription (hsender : connections.getSender pluginId = some sender) :
    (connections.addSubscription pluginId handle).subscriptionsOf pluginId =
      connections.subscriptionsOf pluginId ++ [handle] := by
  obtain ⟨conn, hconn, -⟩ := Option.map_eq_some_iff.mp hsender
  simp [Connections.addSubscription, Connections.subscriptionsOf, hconn]

theorem subset_subscriptionsOf_addSubscription :
    connections.subscriptionsOf other ⊆
      (connections.addSubscription pluginId handle).subscriptionsOf other := by
  by_cases h : other = pluginId
  · subst h
    unfold Connections.addSubscription Connections.subscriptionsOf
    cases hconn : connections.lookup other <;> simp [hconn]
  · rw [Connections.subscriptionsOf, Connections.subscriptionsOf, lookup_addSubscription_of_ne h]
    exact List.Subset.refl _

end

theorem append_subset_append {first first' second second' : List ℕ} (hfirst : first ⊆ first')
    (hsecond : second ⊆ second') : first ++ second ⊆ first' ++ second' :=
  List.append_subset.mpr ⟨List.subset_append_of_subset_left _ hfirst,
    List.subset_append_of_subset_right _ hsecond⟩

/-! ## Steps that leave the owners as they are -/

section

variable {state next : GatewayState} {label : GatewayLabel} {id : ℕ} {socket : Socket}

/-- A step that changes one socket, which goes on holding what it held. -/
theorem GatewayState.Sound.of_socket (h : state.Sound)
    (hsockets : next.sockets = Function.update state.sockets id socket)
    (hconsistent : socket.Consistent) (hholds : socket.holds = (state.sockets id).holds)
    (hsenders : ∀ pluginId,
      next.connections.getSender pluginId = state.connections.getSender pluginId)
    (haccounted : ∀ handle task, next.tasks.lookup handle = some task →
      handle ∈ next.handles task.owner) : next.Sound where
  consistent other := by
    rw [hsockets, Function.update_apply]
    split_ifs
    · exact hconsistent
    · exact h.consistent other
  owned pluginId other := by
    rw [hsenders, h.owned, GatewayState.Owns, GatewayState.Owns, hsockets, Function.update_apply]
    split_ifs with hother
    · rw [hother, hholds]
    · rfl
  accounted := haccounted

theorem GatewayState.handles_self (hsockets : next.sockets = Function.update state.sockets id socket) :
    next.handles id =
      (socket.holds.map next.connections.subscriptionsOf).getD [] ++ socket.inHand := by
  rw [GatewayState.handles, hsockets, Function.update_self]

/-- A socket that takes no part in a step keeps its handles if its connection does. -/
theorem GatewayState.handles_subset_of_ne
    (hsockets : next.sockets = Function.update state.sockets id socket) {other : ℕ}
    (hother : other ≠ id)
    (hsubs : ∀ pluginId, state.Owns other pluginId →
      state.connections.subscriptionsOf pluginId ⊆ next.connections.subscriptionsOf pluginId) :
    state.handles other ⊆ next.handles other := by
  rw [GatewayState.handles, GatewayState.handles, hsockets, Function.update_of_ne hother]
  refine append_subset_append ?_ (List.Subset.refl _)
  cases hholds : (state.sockets other).holds with
  | none => exact List.Subset.refl _
  | some pluginId => exact hsubs pluginId hholds

variable {handle : ℕ} {task : ListenerTask} {pluginId : String} {registering : Bool} {rest : List Listener}

section

variable (h : state.Sound)
include h

/-- Listeners stay within reach when neither the socket nor the others lose a handle. -/
theorem GatewayState.Sound.accounted_of_subset
    (hsockets : next.sockets = Function.update state.sockets id socket)
    (hself : state.handles id ⊆ next.handles id)
    (hsubs : ∀ other pluginId, other ≠ id → state.Owns other pluginId →
      state.connections.subscriptionsOf pluginId ⊆ next.connections.subscriptionsOf pluginId)
    (htask : state.tasks.lookup handle = some task) : handle ∈ next.handles task.owner := by
  have hmem := h.accounted handle task htask
  by_cases howner : task.owner = id
  · rw [howner] at hmem ⊢
    exact hself hmem
  · exact GatewayState.handles_subset_of_ne hsockets howner (hsubs task.owner · howner) hmem

/-- A step of which only the socket itself takes notice. -/
theorem GatewayState.Sound.setSocket (hconsistent : socket.Consistent)
    (hholds : socket.holds = (state.sockets id).holds) (hinHand : (state.sockets id).inHand ⊆ socket.inHand) :
    (state.setSocket id socket).Sound := by
  have hsockets : (state.setSocket id socket).sockets =
      Function.update state.sockets id socket := rfl
  have hself : state.handles id ⊆ (state.setSocket id socket).handles id := by
    rw [GatewayState.handles_self hsockets, hholds]
    exact append_subset_append (List.Subset.refl _) hinHand
  exact h.of_socket hsockets hconsistent hholds (fun _ ↦ rfl) fun _ _ htask ↦
    h.accounted_of_subset hsockets hself (fun _ _ _ _ ↦ List.Subset.refl _) htask

theorem GatewayState.Sound.leave (hphase : (state.sockets id).phase = .reading) : (state.leave id).Sound := by
  have hholds : (state.sockets id).holds = (state.sockets id).pluginId := by
    rw [Socket.holds, hphase]
  have hinHand : (state.sockets id).inHand = [] := by rw [Socket.inHand, hphase]
  unfold GatewayState.leave
  split
  next pluginId hplugin =>
    refine h.setSocket hplugin ?_ ?_
    · rw [hholds, hplugin]
      rfl
    · rw [hinHand]
      exact List.nil_subset _
  next hplugin =>
    refine h.setSocket trivial ?_ ?_
    · rw [hholds, hplugin]
      rfl
    · rw [hinHand]
      exact List.nil_subset _

theorem GatewayState.Sound.accept (hphase : (state.sockets id).phase = .absent) :
    (state.setSocket id ⟨.reading, none, []⟩).Sound := by
  refine h.setSocket trivial ?_ ?_
  · rw [Socket.holds, Socket.holds, hphase]
  · rw [Socket.inHand, hphase]
    exact List.nil_subset _

theorem GatewayState.Sound.refuse (message : ServerMessage) :
    (state.setSocket id ((state.sockets id).say message)).Sound :=
  h.setSocket (h.consistent id) rfl (List.Subset.refl _)

theorem GatewayState.Sound.check (hphase : (state.sockets id).phase = .reading)
    (hplugin : (state.sockets id).pluginId = none) :
    (state.setSocket id { state.sockets id with phase := .checked pluginId }).Sound := by
  refine h.setSocket hplugin ?_ ?_
  · rw [Socket.holds, Socket.holds, hphase, hplugin]
  · rw [Socket.inHand, hphase]
    exact List.nil_subset _

theorem GatewayState.Sound.published (hphase : (state.sockets id).phase = .inserted pluginId) :
    (state.setSocket id { state.sockets id with
      phase := .listening pluginId [.capabilityCalls, .healthChecks] true
      pluginId := some pluginId }).Sound := by
  refine h.setSocket rfl ?_ ?_
  · rw [Socket.holds, Socket.holds, hphase]
  · rw [Socket.inHand, hphase]
    exact List.nil_subset _

theorem GatewayState.Sound.subscribe {listeners : List Listener}
    (hphase : (state.sockets id).phase = .reading) (hplugin : (state.sockets id).pluginId = some pluginId) :
    (state.setSocket id { state.sockets id with
      phase := .listening pluginId listeners false }).Sound := by
  refine h.setSocket hplugin ?_ ?_
  · rw [Socket.holds, Socket.holds, hphase, hplugin]
  · rw [Socket.inHand, hphase]
    exact List.nil_subset _

theorem GatewayState.Sound.finishListening
    (hphase : (state.sockets id).phase = .listening pluginId [] registering) (sent : List ServerMessage) :
    (state.setSocket id { state.sockets id with phase := .reading, sent := sent }).Sound := by
  have hconsistent := h.consistent id
  rw [Socket.Consistent, hphase] at hconsistent
  refine h.setSocket trivial ?_ ?_
  · rw [Socket.holds, Socket.holds, hphase]
    exact hconsistent
  · rw [Socket.inHand, hphase]
    exact List.nil_subset _

/-- A new listener is in the hand of the task that spawned it. -/
theorem GatewayState.Sound.spawnListener {listener : Listener}
    (hphase : (state.sockets id).phase = .listening pluginId (listener :: rest) registering)
    (hnext : { state.setSocket id { state.sockets id with
        phase := .adding pluginId state.nextTask rest registering } with
      tasks := state.tasks.insert state.nextTask ⟨id, pluginId, listener⟩
      nextTask := state.nextTask + 1 } = next) : next.Sound := by
  have hconsistent := h.consistent id
  rw [Socket.Consistent, hphase] at hconsistent
  have hholds : (state.sockets id).holds = some pluginId := by rw [Socket.holds, hphase]
  have hinHand : (state.sockets id).inHand = [] := by rw [Socket.inHand, hphase]
  have hsockets : next.sockets = Function.update state.sockets id { state.sockets id with
      phase := .adding pluginId state.nextTask rest registering } := by rw [← hnext]; rfl
  have hself := GatewayState.handles_self hsockets
  have hconnections : next.connections = state.connections := by rw [← hnext]; rfl
  refine h.of_socket hsockets hconsistent hholds.symm (fun _ ↦ by rw [hconnections])
    fun handle task htask ↦ ?_
  rw [← hnext] at htask
  by_cases hnew : handle = state.nextTask
  · subst hnew
    rw [AList.lookup_insert] at htask
    cases htask
    rw [hself]
    exact List.mem_concat_self
  · rw [AList.lookup_insert_ne hnew] at htask
    refine h.accounted_of_subset hsockets ?_ (fun _ _ _ _ ↦ ?_) htask
    · rw [hself, GatewayState.handles, hinHand, hholds, hconnections]
      exact append_subset_append (List.Subset.refl _) (List.nil_subset _)
    · rw [hconnections]
      exact List.Subset.refl _

/-- The handle goes from the task's hand to the connection, which the socket still has. -/
theorem GatewayState.Sound.addSubscription {added : ℕ}
    (hphase : (state.sockets id).phase = .adding pluginId added rest registering)
    (hnext : { state.setSocket id { state.sockets id with
        phase := .listening pluginId rest registering } with
      connections := state.connections.addSubscription pluginId added } = next) : next.Sound := by
  have hconsistent := h.consistent id
  rw [Socket.Consistent, hphase] at hconsistent
  have hholds : (state.sockets id).holds = some pluginId := by rw [Socket.holds, hphase]
  have hinHand : (state.sockets id).inHand = [added] := by rw [Socket.inHand, hphase]
  have hsender := (h.owned pluginId id).mpr hholds
  have hsockets : next.sockets = Function.update state.sockets id { state.sockets id with
      phase := .listening pluginId rest registering } := by rw [← hnext]; rfl
  have hself := GatewayState.handles_self hsockets
  have hconnections :
      next.connections = state.connections.addSubscription pluginId added := by rw [← hnext]
  refine h.of_socket hsockets hconsistent hholds.symm
    (fun _ ↦ by rw [hconnections, getSender_addSubscription]) fun handle task htask ↦ ?_
  rw [← hnext] at htask
  refine h.accounted_of_subset hsockets ?_ (fun _ _ _ _ ↦ ?_) htask
  · have hsubs : (state.connections.addSubscription pluginId added).subscriptionsOf pluginId =
        state.connections.subscriptionsOf pluginId ++ [added] :=
      subscriptionsOf_addSubscription hsender
    rw [hself, GatewayState.handles, hinHand, hholds, hconnections]
    simp [Socket.holds, Socket.inHand, hsubs]
  · rw [hconnections]
    exact subset_subscriptionsOf_addSubscription

/-- A step that changes the entry of one identifier, which belongs to no other socket. -/
theorem GatewayState.Sound.of_entry (pluginId : String)
    (hsockets : next.sockets = Function.update state.sockets id socket) (hconsistent : socket.Consistent)
    (hothers : ∀ other, other ≠ pluginId → next.connections.lookup other = state.connections.lookup other)
    (hholds : ∀ other, other ≠ pluginId → (socket.holds = some other ↔ (state.sockets id).holds = some other))
    (hsole : ∀ other, other ≠ id → ¬state.Owns other pluginId)
    (hentry : next.connections.getSender pluginId = if socket.holds = some pluginId then some id else none)
    (htasks : next.tasks = state.tasks) (hself : state.handles id ⊆ next.handles id) :
    next.Sound where
  consistent other := by
    rw [hsockets, Function.update_apply]
    split_ifs
    · exact hconsistent
    · exact h.consistent other
  owned otherId other := by
    rw [GatewayState.Owns, hsockets, Function.update_apply]
    by_cases hid : otherId = pluginId
    · subst hid
      rw [hentry]
      split_ifs with hself heq heq
      · simp [heq, hself]
      · simp only [Option.some.injEq]
        exact ⟨fun hsame ↦ absurd hsame.symm heq, fun howns ↦ absurd howns (hsole other heq)⟩
      · simp [hself]
      · simp only [false_iff]
        exact hsole other heq
    · rw [Connections.getSender, hothers otherId hid, ← Connections.getSender, h.owned]
      split_ifs with heq
      · rw [hholds otherId hid, heq, GatewayState.Owns]
      · rfl
  accounted handle task htask := by
    rw [htasks] at htask
    refine h.accounted_of_subset hsockets hself (fun other otherId hne howns ↦ ?_) htask
    have hid : otherId ≠ pluginId := fun heq ↦ hsole other hne (heq ▸ howns)
    rw [Connections.subscriptionsOf, Connections.subscriptionsOf, hothers otherId hid]
    exact List.Subset.refl _

theorem GatewayState.Sound.not_owns_of_lookup (hfree : state.connections.lookup pluginId = none) (other : ℕ) :
    ¬state.Owns other pluginId := by
  rw [← h.owned, Connections.getSender, hfree]
  simp

theorem GatewayState.Sound.insertConnection (hphase : (state.sockets id).phase = .checked pluginId)
    (hfree : state.connections.lookup pluginId = none)
    (hnext : { state.setSocket id { state.sockets id with phase := .inserted pluginId } with
      connections := state.connections.insertNew pluginId id } = next) : next.Sound := by
  have hconsistent := h.consistent id
  rw [Socket.Consistent, hphase] at hconsistent
  have hholds : (state.sockets id).holds = none := by rw [Socket.holds, hphase]
  have hinHand : (state.sockets id).inHand = [] := by rw [Socket.inHand, hphase]
  have hsockets : next.sockets = Function.update state.sockets id { state.sockets id with
      phase := .inserted pluginId } := by rw [← hnext]; rfl
  have hconnections : next.connections = state.connections.insertNew pluginId id := by
    rw [← hnext]
  refine h.of_entry pluginId hsockets hconsistent (fun other hne ↦ ?_)
    (fun other hne ↦ ?_) (fun other _ ↦ h.not_owns_of_lookup hfree other) ?_ ?_ ?_
  · rw [hconnections, lookup_insertNew_of_ne hne]
  · rw [hholds]
    simp [Socket.holds, Ne.symm hne]
  · rw [hconnections, getSender_insertNew]
    exact (if_pos rfl).symm
  · rw [← hnext]
    rfl
  · rw [GatewayState.handles, hholds, hinHand]
    exact List.nil_subset _

/-- The listeners of a connection taken out of the table are in its socket's hand. -/
theorem GatewayState.Sound.removeConnection (hphase : (state.sockets id).phase = .removing pluginId)
    (hnext : { state.setSocket id { state.sockets id with
        phase := .aborting (state.connections.subscriptionsOf pluginId) } with
      connections := state.connections.erase pluginId } = next) : next.Sound := by
  have hholds : (state.sockets id).holds = some pluginId := by rw [Socket.holds, hphase]
  have hinHand : (state.sockets id).inHand = [] := by rw [Socket.inHand, hphase]
  have hsender := (h.owned pluginId id).mpr hholds
  have hsockets : next.sockets = Function.update state.sockets id { state.sockets id with
      phase := .aborting (state.connections.subscriptionsOf pluginId) } := by rw [← hnext]; rfl
  have hself := GatewayState.handles_self hsockets
  have hconnections : next.connections = state.connections.erase pluginId := by rw [← hnext]
  refine h.of_entry pluginId hsockets trivial (fun other hne ↦ ?_)
    (fun other hne ↦ ?_) (fun other hne howns ↦ ?_) ?_ ?_ ?_
  · rw [hconnections, AList.lookup_erase_ne hne]
  · rw [hholds]
    simp [Socket.holds, Ne.symm hne]
  · rw [← h.owned, hsender] at howns
    exact hne (Option.some.inj howns).symm
  · rw [hconnections, Connections.getSender, AList.lookup_erase]
    rfl
  · rw [← hnext]
    rfl
  · rw [hself, GatewayState.handles, hholds, hinHand]
    simp [Socket.holds, Socket.inHand]

end

theorem lookup_foldl_erase {tasks : AList fun _ : ℕ ↦ ListenerTask} {handles : List ℕ}
    (h : (handles.foldl (fun tasks handle ↦ tasks.erase handle) tasks).lookup handle = some task) :
    tasks.lookup handle = some task ∧ handle ∉ handles := by
  induction handles generalizing tasks with
  | nil => exact ⟨h, List.not_mem_nil⟩
  | cons first rest ih =>
    obtain ⟨hlookup, hrest⟩ := ih h
    have hne : handle ≠ first := by
      rintro rfl
      rw [AList.lookup_erase] at hlookup
      cases hlookup
    rw [AList.lookup_erase_ne hne] at hlookup
    exact ⟨hlookup, List.not_mem_cons_of_ne_of_not_mem hne hrest⟩

/-- The listeners in the hand of a leaving task are aborted. -/
theorem GatewayState.Sound.abortListeners (h : state.Sound) {aborted : List ℕ}
    (hphase : (state.sockets id).phase = .aborting aborted)
    (hnext : { state.setSocket id { state.sockets id with phase := .closed } with
      tasks := aborted.foldl (fun tasks handle ↦ tasks.erase handle) state.tasks } = next) :
    next.Sound := by
  have hholds : (state.sockets id).holds = none := by rw [Socket.holds, hphase]
  have hhandles : state.handles id = aborted := by
    rw [GatewayState.handles, hholds, Socket.inHand, hphase]
    rfl
  have hsockets : next.sockets = Function.update state.sockets id { state.sockets id with
      phase := .closed } := by rw [← hnext]; rfl
  have hconnections : next.connections = state.connections := by rw [← hnext]; rfl
  refine h.of_socket hsockets trivial hholds.symm (fun _ ↦ by rw [hconnections])
    fun handle task htask ↦ ?_
  rw [← hnext] at htask
  obtain ⟨hlookup, hkept⟩ := lookup_foldl_erase htask
  have hmem := h.accounted handle task hlookup
  have howner : task.owner ≠ id := by
    rintro howner
    rw [howner, hhandles] at hmem
    exact hkept hmem
  refine GatewayState.handles_subset_of_ne hsockets howner (fun _ _ ↦ ?_) hmem
  rw [hconnections]
  exact List.Subset.refl _

theorem GatewayState.Sound.listenerEnds (h : state.Sound) (ended : ℕ) :
    GatewayState.Sound { state with tasks := state.tasks.erase ended } := by
  refine ⟨h.consistent, h.owned, fun handle task htask ↦ ?_⟩
  have hne : handle ≠ ended := by
    rintro rfl
    rw [AList.lookup_erase] at htask
    cases htask
  rw [AList.lookup_erase_ne hne] at htask
  exact h.accounted handle task htask

theorem GatewayState.Sound.step (h : state.Sound) (halone : state.Alone label)
    (hstep : state.step label = some next) : next.Sound := by
  cases GatewayState.change_of_step hstep with
  | accept hphase => exact h.accept hphase
  | refuse message _ => exact h.refuse message
  | check hphase hplugin _ => exact h.check hphase hplugin
  | insertConnection hphase =>
    refine h.insertConnection hphase ?_ rfl
    simpa only [GatewayState.Alone, hphase] using halone
  | published hphase => exact h.published hphase
  | unpublished _ => exact halone.elim
  | subscribe hphase hplugin => exact h.subscribe hphase hplugin
  | ignore => exact h
  | spawnListener hphase => exact h.spawnListener hphase rfl
  | addSubscription hphase => exact h.addSubscription hphase rfl
  | finishListening hphase _ => exact h.finishListening hphase _
  | leave _ hphase => exact h.leave hphase
  | removeConnection hphase => exact h.removeConnection hphase rfl
  | abortListeners hphase => exact h.abortListeners hphase rfl
  | listenerEnds _ => exact h.listenerEnds _

theorem sound_init : GatewayState.init.Sound where
  consistent _ := rfl
  owned := by simp [GatewayState.init, Connections.getSender, GatewayState.Owns, Socket.holds]
  accounted := by simp [GatewayState.init]

theorem sound_of_reach (hreach : Steps.Reach GatewayState.step GatewayState.Alone .init state) :
    state.Sound := by
  induction hreach with
  | init => exact sound_init
  | next _ halone hstep ih => exact ih.step halone hstep

/-- The table changes only by three steps, each at the identifier of the socket that takes it. -/
theorem connections_of_step (hstep : state.step label = some next) :
    next.connections = state.connections ∨
      ∃ id pluginId, label.socket = some id ∧
        (((state.sockets id).phase = .checked pluginId ∧ label = .insertConnection id) ∨
          state.Owns id pluginId) ∧
        ∀ other, other ≠ pluginId →
          next.connections.lookup other = state.connections.lookup other := by
  cases GatewayState.change_of_step hstep with
  | accept _ | refuse _ _ | check _ _ _ | published _ | unpublished _ | subscribe _ _ | ignore _ _
  | spawnListener _ | finishListening _ _ | abortListeners _ | listenerEnds _ =>
    exact .inl rfl
  | leave _ _ =>
    left
    unfold GatewayState.leave
    split <;> rfl
  | @insertConnection id pluginId hphase =>
    exact .inr ⟨id, pluginId, rfl, .inl ⟨hphase, rfl⟩, fun other hne ↦ lookup_insertNew_of_ne hne⟩
  | @addSubscription id pluginId task rest registering hphase =>
    have howns : state.Owns id pluginId := by rw [GatewayState.Owns, Socket.holds, hphase]
    exact .inr ⟨id, pluginId, rfl, .inr howns, fun other hne ↦ lookup_addSubscription_of_ne hne⟩
  | @removeConnection id pluginId hphase =>
    have howns : state.Owns id pluginId := by rw [GatewayState.Owns, Socket.holds, hphase]
    exact .inr ⟨id, pluginId, rfl, .inr howns, fun other hne ↦ AList.lookup_erase_ne hne⟩

/-- A connection that goes or changes does so by its own socket, which owns it. -/
theorem GatewayState.Sound.socket_of_changed (h : state.Sound) (halone : state.Alone label)
    (hstep : state.step label = some next) {conn : ExternalPluginConnection}
    (hconn : state.connections.lookup pluginId = some conn)
    (hchanged : next.connections.lookup pluginId ≠ some conn) :
    label.socket = some conn.sender ∧ state.Owns conn.sender pluginId := by
  have howner : state.Owns conn.sender pluginId :=
    (h.owned pluginId conn.sender).mp (by rw [Connections.getSender, hconn]; rfl)
  refine ⟨?_, howner⟩
  obtain hsame | ⟨id, changed, hsocket, hcause, hothers⟩ := connections_of_step hstep
  · rw [hsame] at hchanged
    exact absurd hconn hchanged
  · by_cases hid : pluginId = changed
    · subst hid
      obtain ⟨hphase, rfl⟩ | howns := hcause
      · have hfree : state.connections.lookup pluginId = none := by
          simpa only [GatewayState.Alone, hphase] using halone
        rw [hfree] at hconn
        cases hconn
      · rw [← h.owned, Connections.getSender, hconn] at howns
        rw [hsocket, ← Option.some.inj howns]
    · rw [hothers pluginId hid] at hchanged
      exact absurd hconn hchanged

/-- One owner for an identifier, nothing left of a closed socket, and no change of a registration but
by its owner. -/
structure GatewayState.Orderly (state : GatewayState) : Prop where
  oneOwner : ∀ pluginId id id', state.Owns id pluginId → state.Owns id' pluginId → id = id'
  connectionGone : ∀ pluginId conn, state.connections.lookup pluginId = some conn →
    (state.sockets conn.sender).phase ≠ .closed
  listenersGone : ∀ handle task, state.tasks.lookup handle = some task →
    (state.sockets task.owner).phase ≠ .closed
  changedByOwner : ∀ label next, state.Alone label → state.step label = some next →
    ∀ pluginId conn, state.connections.lookup pluginId = some conn →
      next.connections.lookup pluginId ≠ some conn →
      label.socket = some conn.sender ∧ state.Owns conn.sender pluginId

/-- As long as nobody inserts over another one's connection, and registrations are published. -/
theorem orderly_of_alone (hreach : Steps.Reach GatewayState.step GatewayState.Alone .init state) :
    state.Orderly := by
  have h := sound_of_reach hreach
  constructor
  · intro pluginId id id' howns howns'
    rw [← h.owned] at howns howns'
    rw [howns] at howns'
    exact Option.some.inj howns'
  · intro pluginId conn hconn hclosed
    have howns : state.Owns conn.sender pluginId :=
      (h.owned pluginId conn.sender).mp (by rw [Connections.getSender, hconn]; rfl)
    rw [GatewayState.Owns, Socket.holds, hclosed] at howns
    cases howns
  · intro handle task htask hclosed
    have hmem := h.accounted handle task htask
    rw [GatewayState.handles, Socket.holds, Socket.inHand, hclosed] at hmem
    cases hmem
  · intro label next halone hstep pluginId conn hconn hchanged
    exact h.socket_of_changed halone hstep hconn hchanged

end

/-- A plugin registers, subscribes and leaves, and its identifier is free again. -/
theorem orderly_of_alone_left :
    ∃ state ∈ Steps.execute GatewayState.step .init [.accept 0, .register 0 "notes",
        .insertConnection 0, .publishRegister 0 (.ok ()), .spawnListener 0, .addSubscription 0,
        .spawnListener 0, .addSubscription 0, .finishListening 0, .disconnect 0,
        .removeConnection 0, .abortListeners 0, .accept 1, .register 1 "notes",
        .insertConnection 1],
      state.Owns 1 "notes" ∧ state.Orderly := by
  have hrun : ∃ state ∈ Steps.execute GatewayState.step .init [.accept 0, .register 0 "notes",
        .insertConnection 0, .publishRegister 0 (.ok ()), .spawnListener 0, .addSubscription 0,
        .spawnListener 0, .addSubscription 0, .finishListening 0, .disconnect 0,
        .removeConnection 0, .abortListeners 0, .accept 1, .register 1 "notes",
        .insertConnection 1], (state.sockets 1).holds = some "notes" := by
    decide +kernel
  obtain ⟨state, hstate, hholds⟩ := hrun
  exact ⟨state, hstate, hholds, orderly_of_alone
    (Steps.reach_of_execute (by decide +kernel) hstate)⟩

/-- Two sockets that look before either inserts both own the identifier; a connection whose
registration is not published stays when its socket is closed. -/
theorem registration_disorderly :
    (∃ state, Steps.Reach GatewayState.step (fun _ _ ↦ True) .init state ∧
      state.Owns 0 "notes" ∧ state.Owns 1 "notes") ∧
    ∃ state, Steps.Reach GatewayState.step (fun _ _ ↦ True) .init state ∧
      (state.sockets 0).phase = .closed ∧ state.connections.getSender "notes" = some 0 := by
  have hraced : ∃ state ∈ Steps.execute GatewayState.step .init [.accept 0, .accept 1,
      .register 0 "notes", .register 1 "notes", .insertConnection 0, .insertConnection 1],
      (state.sockets 0).holds = some "notes" ∧ (state.sockets 1).holds = some "notes" := by
    decide +kernel
  have hleaked : ∃ state ∈ Steps.execute GatewayState.step .init [.accept 0,
      .register 0 "notes", .insertConnection 0, .publishRegister 0 (.error "bus closed"),
      .disconnect 0], (state.sockets 0).phase = .closed ∧
        state.connections.getSender "notes" = some 0 := by
    decide +kernel
  obtain ⟨raced, hraced, hboth⟩ := hraced
  obtain ⟨leaked, hleaked, hleft⟩ := hleaked
  exact ⟨⟨raced, Steps.reach_of_execute (Steps.guarded_of_forall (fun _ _ ↦ trivial) _ _) hraced,
    hboth⟩, leaked,
    Steps.reach_of_execute (Steps.guarded_of_forall (fun _ _ ↦ trivial) _ _) hleaked, hleft⟩

end Seidrum.Gateway
