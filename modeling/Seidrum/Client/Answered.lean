import Seidrum.Client.Identifiers

/-!
# Calls that wait for ever

A call waits until its sender is used or dropped.  The senders are with the client until an answer
comes or the manager fails them all, which it does once after each connection; a command that gets
lost at another time leaves its sender behind.
-/

namespace Seidrum.Client

open Seidrum.Foundation Seidrum.EventBus

namespace Session

/-- The operations the client sends. -/
def isOwn : ClientOperation → Bool
  | .publish .. | .subscribe .. | .unsubscribe .. | .request .. => true
  | _ => false

theorem isOwn_operation (env : SessionEnv) (cid : String) (call : ClientCall) :
    isOwn (call.operation env cid) = true := by
  cases call <;> rfl

/-- Something is still on its way that will use a sender or drop it. -/
inductive Awaited (env : SessionEnv) (state : Session) (cid : String) : Prop
  | inserted {c : ℕ} {call : Call} (at_c : state.calls[c]? = some call)
      (stage : call.stage = .inserted) (cid_eq : call.cid = cid)
  | queued {operation : ClientOperation} (mem : operation ∈ state.queue)
      (asks : operation.correlationId = some cid)
  | sent {operation : ClientOperation} (mem : operation ∈ state.toServer)
      (asks : operation.correlationId = some cid)
  | answered {message : ServerMessage} {reply : PendingReply} (mem : message ∈ state.toClient)
      (answers : Answers env message cid reply)
  | failing (manager : state.manager = .dropped ∨ state.manager = .failing)

/-- Every sender that is waited on will be used or dropped. -/
structure Answerable (env : SessionEnv) (state : Session) : Prop where
  identified : Identified state
  own : ∀ operation ∈ state.queue ++ state.toServer, isOwn operation = true
  awaited : ∀ cid ∈ state.pending, Awaited env state cid

/-- No operation that is waited on is refused by the server, or lost by the manager. -/
def Answering (env : SessionEnv) (state : Session) : SessionLabel → Prop
  | .serve bus => ∀ operation ∈ state.toServer.head?, ∀ cid ∈ operation.correlationId,
      cid ∈ state.pending → state.connection.accepts env.base64 bus operation = true
  | .discard => ∀ operation ∈ state.queue.head?, ∀ cid ∈ operation.correlationId,
      cid ∉ state.pending
  | .exit => ∀ operation ∈ state.queue, ∀ cid ∈ operation.correlationId, cid ∉ state.pending
  | _ => True

instance (env : SessionEnv) (state : Session) (label : SessionLabel) :
    Decidable (Answering env state label) := by
  cases label <;> unfold Answering <;> infer_instance

/-- No frame is in flight, no command is queued, and no call can go on by itself. -/
@[mk_iff]
structure Quiescent (state : Session) : Prop where
  manager : state.manager = .connecting ∨ state.manager = .backingOff ∨
    state.manager = .running [] ∨ state.manager = .exited
  queue : state.queue = []
  toServer : state.toServer = []
  toClient : state.toClient = []
  idle : ∀ call ∈ state.calls,
    call.stage.isReturned = true ∨ call.stage = .waiting ∧ call.cid ∈ state.pending

variable {env : SessionEnv} {state next : Session} {label : SessionLabel} {message : ServerMessage}
  {cid : String}

theorem Answers.cid_unique {other : String} {reply otherReply : PendingReply}
    (h : Answers env message cid reply) (hother : Answers env message other otherReply) :
    cid = other := by
  cases h <;> cases hother <;> rfl

/-- An accepted operation of the client that carries a generated id is answered under it. -/
theorem answers_of_accepted {connection : Connection} {bus : BusAnswers}
    {operation : ClientOperation} (haccepts : connection.accepts env.base64 bus operation = true)
    (hown : isOwn operation = true) (hcid : operation.correlationId = some cid)
    (hulid : isUlid cid = true) :
    ∃ message ∈ ((connection.handleOperation env.base64 operation).run bus).messages,
      ∃ reply, Answers env message cid reply := by
  cases Connection.outcome env.base64 bus connection operation with
  | refused hrefused => simp [haccepts] at hrefused
  | answered _ hanswer heq =>
    refine ⟨_, by rw [heq]; exact List.mem_singleton_self _, ?_⟩
    cases hanswer with
    | published =>
      obtain rfl := hcid
      exact ⟨_, .published⟩
    | subscribed _ =>
      obtain rfl := hcid
      exact ⟨_, .subscribed (resubscribeTarget_of_isUlid hulid)⟩
    | replied =>
      obtain rfl := hcid
      exact ⟨_, .replyResult⟩
    | unreplied =>
      obtain rfl := hcid
      exact ⟨_, .error⟩
    | channelRegistered | interceptorRegistered => simp [isOwn] at hown

/-! ## One step -/

theorem own_change (h : ∀ operation ∈ state.queue ++ state.toServer, isOwn operation = true)
    (hchange : Change env state label next) :
    ∀ operation ∈ next.queue ++ next.toServer, isOwn operation = true := by
  have hqueue : ∀ operation ∈ state.queue, isOwn operation = true :=
    fun operation hmem ↦ h operation (List.mem_append_left _ hmem)
  have hsent : ∀ operation ∈ state.toServer, isOwn operation = true :=
    fun operation hmem ↦ h operation (List.mem_append_right _ hmem)
  have happend {queue toServer : List ClientOperation}
      (hleft : ∀ operation ∈ queue, isOwn operation = true)
      (hright : ∀ operation ∈ toServer, isOwn operation = true) :
      ∀ operation ∈ queue ++ toServer, isOwn operation = true :=
    fun operation hmem ↦ (List.mem_append.mp hmem).elim (hleft operation) (hright operation)
  have hsnoc {operations : List ClientOperation} {operation : ClientOperation}
      (hbefore : ∀ operation ∈ operations, isOwn operation = true)
      (hnew : isOwn operation = true) :
      ∀ other ∈ operations ++ [operation], isOwn other = true :=
    happend hbefore fun _ hmem ↦ List.mem_singleton.mp hmem ▸ hnew
  cases hchange with
  | enqueue at_c stage running => exact happend (hsnoc hqueue (isOwn_operation _ _ _)) hsent
  | sendUnsubscribe at_i running => exact happend (hsnoc hqueue rfl) hsent
  | discard manager queue =>
    exact happend (fun other hmem ↦ hqueue other (queue ▸ List.mem_cons_of_mem _ hmem)) hsent
  | exit manager => exact hsent
  | resubscribe manager fresh => exact happend hqueue (hsnoc hsent rfl)
  | send manager queue =>
    refine happend (fun other hmem ↦ hqueue other (queue ▸ List.mem_cons_of_mem _ hmem))
      (hsnoc hsent (hqueue _ (queue ▸ List.mem_cons_self)))
  | read manager toClient received => cases received <;> exact h
  | disconnect up => exact happend hqueue fun _ hmem ↦ absurd hmem List.not_mem_nil
  | serve up toServer short fresh =>
    exact happend hqueue fun other hmem ↦ hsent other (toServer ▸ List.mem_cons_of_mem _ hmem)
  | _ => exact h

/-- What is on its way stays on its way while nothing is taken from it. -/
theorem Awaited.kept (h : Awaited env state cid)
    (hcalls : ∀ (c : ℕ) (call : Call), state.calls[c]? = some call → call.stage = .inserted →
      call.cid = cid → next.calls[c]? = some call) (hqueue : state.queue ⊆ next.queue)
    (hsent : state.toServer ⊆ next.toServer) (hclient : state.toClient ⊆ next.toClient)
    (hmanager : state.manager = .dropped ∨ state.manager = .failing →
      next.manager = .dropped ∨ next.manager = .failing) : Awaited env next cid := by
  cases h with
  | inserted at_c stage cid_eq => exact .inserted (hcalls _ _ at_c stage cid_eq) stage cid_eq
  | queued mem asks => exact .queued (hqueue mem) asks
  | sent mem asks => exact .sent (hsent mem) asks
  | answered mem answers => exact .answered (hclient mem) answers
  | failing manager => exact .failing (hmanager manager)

/-- A call that has not just put its sender with the others takes its next stage. -/
theorem inserted_setStage {c : ℕ} {call : Call} {stage : CallStage}
    (hat : state.calls[c]? = some call) (hother : call.stage = .inserted → call.cid ≠ cid) :
    ∀ (i : ℕ) (other : Call), state.calls[i]? = some other → other.stage = .inserted →
      other.cid = cid → (state.setStage c stage).calls[i]? = some other := by
  intro i other hi hstage hcid
  have hne : c ≠ i := by
    rintro rfl
    obtain rfl := Option.some.inj (hat.symm.trans hi)
    exact hother hstage hcid
  rw [getElem?_setStage_ne hne, hi]

/-- An answer that is read is the end of the sender it is for. -/
theorem awaited_received {rest : List ServerMessage} (hclient : state.toClient = message :: rest)
    (h : ∀ cid ∈ state.pending, Awaited env state cid) (hup : state.manager = .running [])
    (hreceived : Received env { state with toClient := rest } message next) :
    ∀ cid ∈ next.pending, Awaited env next cid := by
  -- what is awaited otherwise than by the message still is
  have hkept {cid : String} {after : Session} (hawaited : Awaited env state cid)
      (hother : ∀ reply, ¬Answers env message cid reply) (hcalls : after.calls = state.calls)
      (hqueue : after.queue = state.queue) (hsent : after.toServer = state.toServer)
      (hafter : after.toClient = rest) : Awaited env after cid := by
    cases hawaited with
    | inserted at_c stage cid_eq => exact .inserted (hcalls ▸ at_c) stage cid_eq
    | queued mem asks => exact .queued (hqueue ▸ mem) asks
    | sent mem asks => exact .sent (hsent ▸ mem) asks
    | answered mem answers =>
      rcases List.mem_cons.mp (hclient ▸ mem) with rfl | hrest
      · exact absurd answers (hother _)
      · exact .answered (hafter ▸ hrest) answers
    | failing manager => simp [hup] at manager
  intro cid hmem
  cases hreceived with
  | answered answers waits =>
    obtain ⟨hbefore, hne⟩ := List.mem_filter.mp hmem
    refine hkept (h cid hbefore) (fun reply hanswers ↦ ?_) rfl rfl rfl rfl
    simp [answers.cid_unique hanswers] at hne
  | unexpected answers gone =>
    refine hkept (h cid hmem) (fun reply hanswers ↦ ?_) rfl rfl rfl rfl
    exact gone (answers.cid_unique hanswers ▸ hmem)
  | bound message_eq target =>
    refine hkept (h cid hmem) (fun reply hanswers ↦ ?_) rfl rfl rfl rfl
    subst message_eq
    cases hanswers with
    | subscribed foreign => simp [target] at foreign
  | handed message_eq sender | lost message_eq sender =>
    exact hkept (h cid hmem) (fun _ hanswers ↦ by subst message_eq; cases hanswers) rfl rfl rfl rfl
  | ignored quiet unaddressed other => exact hkept (h cid hmem) (quiet cid) rfl rfl rfl rfl

theorem awaited_change (h : Answerable env state) (hguard : Answering env state label)
    (hchange : Change env state label next) : ∀ cid ∈ next.pending, Awaited env next cid := by
  intro cid hmem
  cases hchange with
  | call fresh =>
    refine (h.awaited cid hmem).kept (fun c call hat _ _ ↦ ?_) (List.Subset.refl _)
      (List.Subset.refl _) (List.Subset.refl _) id
    obtain ⟨hlt, _⟩ := List.getElem?_eq_some_iff.mp hat
    exact (List.getElem?_append_left hlt).trans hat
  | insertPending at_c stage =>
    rcases List.mem_cons.mp hmem with rfl | hbefore
    · exact .inserted (getElem?_setStage_self at_c) rfl rfl
    · exact (h.awaited cid hbefore).kept
        (inserted_setStage at_c fun hinserted ↦ by simp [stage] at hinserted)
        (List.Subset.refl _) (List.Subset.refl _) (List.Subset.refl _) id
  | enqueueRefused at_c stage exited failed =>
    obtain ⟨hbefore, hne⟩ := List.mem_filter.mp hmem
    exact (h.awaited cid hbefore).kept
      (inserted_setStage at_c fun _ heq ↦ by simp [heq] at hne)
      (List.Subset.refl _) (List.Subset.refl _) (List.Subset.refl _) id
  | @enqueue c call at_c stage running =>
    by_cases hcid : call.cid = cid
    · subst hcid
      exact .queued (List.mem_concat_self)
        (correlationId_operation env call.cid call.call)
    · exact (h.awaited cid hmem).kept (inserted_setStage at_c fun _ ↦ hcid)
        (List.subset_append_left _ _) (List.Subset.refl _) (List.Subset.refl _) id
  | wake at_c stage told | wakeLost at_c stage untold gone failed
  | register at_c stage subscribes =>
    exact (h.awaited cid hmem).kept
      (inserted_setStage at_c fun hinserted ↦ by simp [stage] at hinserted)
      (List.Subset.refl _) (List.Subset.refl _) (List.Subset.refl _) id
  | sendUnsubscribe at_i running =>
    exact (h.awaited cid hmem).kept (fun _ _ hat _ _ ↦ hat) (List.subset_append_left _ _)
      (List.Subset.refl _) (List.Subset.refl _) id
  | discard manager queue =>
    -- the command that is lost was not waited on
    cases h.awaited cid hmem with
    | inserted at_c stage cid_eq => exact .inserted at_c stage cid_eq
    | queued mem asks =>
      rcases List.mem_cons.mp (queue ▸ mem) with rfl | hrest
      · exact absurd hmem (hguard _ (by rw [queue]; rfl) cid asks)
      · exact .queued hrest asks
    | sent mem asks => exact .sent mem asks
    | answered mem answers => exact .answered mem answers
    | failing failing => simp [manager] at failing
  | exit manager =>
    cases h.awaited cid hmem with
    | inserted at_c stage cid_eq => exact .inserted at_c stage cid_eq
    | queued mem asks => exact absurd hmem (hguard _ mem cid asks)
    | sent mem asks => exact .sent mem asks
    | answered mem answers => exact .answered mem answers
    | failing failing => simp [manager] at failing
  | giveUp manager | failPending manager => exact absurd hmem List.not_mem_nil
  | resubscribe manager fresh =>
    exact (h.awaited cid hmem).kept (fun _ _ hat _ _ ↦ hat) (List.Subset.refl _)
      (List.subset_append_left _ _) (List.Subset.refl _) (by simp [manager])
  | send manager queue =>
    cases h.awaited cid hmem with
    | inserted at_c stage cid_eq => exact .inserted at_c stage cid_eq
    | queued mem asks =>
      rcases List.mem_cons.mp (queue ▸ mem) with rfl | hrest
      · exact .sent (List.mem_concat_self) asks
      · exact .queued hrest asks
    | sent mem asks => exact .sent (List.mem_append_left _ mem) asks
    | answered mem answers => exact .answered mem answers
    | failing failing => simp [manager] at failing
  | read manager toClient received =>
    exact awaited_received toClient h.awaited manager received cid hmem
  | disconnect up => exact .failing (.inl rfl)
  | markDown manager => exact .failing (.inr rfl)
  | serve up toServer short fresh =>
    cases h.awaited cid hmem with
    | inserted at_c stage cid_eq => exact .inserted at_c stage cid_eq
    | queued mem asks => exact .queued mem asks
    | sent mem asks =>
      rcases List.mem_cons.mp (toServer ▸ mem) with rfl | hrest
      · -- the frame being served is answered
        have haccepts := hguard _ (by rw [toServer]; rfl) cid asks hmem
        have hown := h.own _ (List.mem_append_right _ mem)
        have hcid := h.identified.generated cid
          (List.mem_append_left _ (h.identified.pending cid hmem))
        obtain ⟨message, hmessage, reply, hanswers⟩ :=
          answers_of_accepted haccepts hown asks hcid.1
        refine .answered (List.mem_append_right _ ?_) hanswers
        rw [served, Connection.serveFrame, if_neg (not_lt.mpr short)]
        exact hmessage
      · exact .sent hrest asks
    | answered mem answers => exact .answered (List.mem_append_left _ mem) answers
    | failing failing => exact .failing failing
  | event up issued =>
    exact (h.awaited cid hmem).kept (fun _ _ hat _ _ ↦ hat) (List.Subset.refl _)
      (List.Subset.refl _) (List.subset_append_left _ _) id
  | connect manager | connectFails manager | backoffOver manager | snapshot manager
  | clearIds manager =>
    exact (h.awaited cid hmem).kept (fun _ _ hat _ _ ↦ hat) (List.Subset.refl _)
      (List.Subset.refl _) (List.Subset.refl _) (by simp [manager])
  | _ =>
    exact (h.awaited cid hmem).kept (fun _ _ hat _ _ ↦ hat) (List.Subset.refl _)
      (List.Subset.refl _) (List.Subset.refl _) id

theorem Answerable.change (h : Answerable env state) (hguard : Answering env state label)
    (hchange : Change env state label next) : Answerable env next where
  identified := h.identified.change hchange
  own := own_change h.own hchange
  awaited := awaited_change h hguard hchange

theorem answerable_start (env : SessionEnv) : Answerable env (start env) where
  identified := identified_start env
  own _ hmem := absurd hmem List.not_mem_nil
  awaited _ hmem := absurd hmem List.not_mem_nil

theorem answerable_of_reach (h : Steps.Reach (step env) (Answering env) (start env) state) :
    Answerable env state :=
  h.invariant (answerable_start env) fun _ _ _ hinv hguard hstep ↦
    hinv.change hguard (change_of_step hstep)

/-- Nothing is on its way in a quiescent state. -/
theorem Quiescent.not_awaited (h : Quiescent state) (cid : String) : ¬Awaited env state cid := by
  intro hawaited
  cases hawaited with
  | inserted at_c stage cid_eq =>
    rcases h.idle _ (List.mem_of_getElem? at_c) with hreturned | ⟨hwaiting, _⟩
    · simp [stage, CallStage.isReturned] at hreturned
    · simp [stage] at hwaiting
  | queued mem asks => simp [h.queue] at mem
  | sent mem asks => simp [h.toServer] at mem
  | answered mem answers => simp [h.toClient] at mem
  | failing manager => rcases manager with hmanager | hmanager <;> simpa [hmanager] using h.manager

instance (state : Session) : Decidable (Quiescent state) := decidable_of_iff' _ (quiescent_iff state)

/-- An operation is answered under its correlation id exactly once if and only if it is accepted;
and when no operation that is waited on is refused or lost, a client at rest waits for nothing. -/
theorem every_call_answered (base64 : Base64) (env : SessionEnv) :
    (∀ (connection : Connection) (before after : List (BusAnswers × Frame))
        (bus : BusAnswers) (frame : Frame) (operation : ClientOperation) (cid : String),
        frame.operation = .ok operation → operation.correlationId = some cid →
        (∀ other ∈ before ++ after, ¬Connection.Asks cid other.2) →
        (Connection.echoes cid ((Connection.serve base64).outputs connection
            (before ++ (bus, frame) :: after)).flatten = 1 ↔
          frame.length ≤ maxFrameSize ∧
            ((Connection.serve base64).run connection before).accepts base64 bus operation =
              true)) ∧
      ∀ state : Session,
        Steps.Reach (step env) (Answering env) (start env) state → Quiescent state →
        state.pending = [] ∧ ∀ call ∈ state.calls, call.stage.isReturned = true := by
  refine ⟨fun connection before after bus frame operation cid hoperation hcid halone ↦
    Connection.echoes_outputs_eq_one_iff hoperation hcid halone, fun state hreach hquiet ↦ ?_⟩
  have hinv := answerable_of_reach hreach
  have hpending : state.pending = [] :=
    List.eq_nil_iff_forall_not_mem.mpr fun cid hmem ↦
      hquiet.not_awaited cid (hinv.awaited cid hmem)
  refine ⟨hpending, fun call hmem ↦ ?_⟩
  rcases hquiet.idle call hmem with hreturned | ⟨_, hwaits⟩
  · exact hreturned
  · rw [hpending] at hwaits
    exact absurd hwaits List.not_mem_nil

/-- Operations are short. -/
def shortFrames : SessionEnv where
  base64 := nineBase64
  frameLength _ := 100
  requestTimeoutMs := 5000
  authOpen := false
  devMode := false

/-- A bus that takes everything, and gives out this id. -/
def takes (id : String) : BusAnswers
  | .publish .. => .ok (1 : ℕ)
  | .subscribe .. | .intercept .. => .ok id
  | .unsubscribe _ | .registerChannelType _ => .ok ()
  | .request .. => .ok ([9] : Payload)

def refusesEmpty (id : String) : BusAnswers
  | .publish "" _ => .error (.invalidSubject "subject must not be empty")
  | call => takes id call

/-- A publish on a subject, up to the manager handing it to the server. -/
def publishing (c : ℕ) (subject : String) (cid stableId : Char) : List SessionLabel :=
  [.call (.publishBytes subject [9]) (ulidOf cid) (ulidOf stableId), .insertPending c, .enqueue c,
    .send]

/-- A publish is answered; the next is cut off by the end of the connection. -/
def answeredThenCut : List SessionLabel :=
  [.connect, .snapshot []] ++ publishing 0 "a" '0' '1' ++
  [.serve (takes "S"), .read, .wake 0] ++ publishing 1 "a" '2' '3' ++
  [.disconnect, .markDown, .failPending, .clearIds, .wake 1]

theorem every_call_answered_publish :
    (Connection.echoes "c" ((Connection.serve nineBase64).outputs (.new false false)
        [(takes "S", ⟨100, .ok (.publish "a" "CQ==" (some "c"))⟩)]).flatten = 1 ↔
      (100 : ℕ) ≤ maxFrameSize ∧
        (Connection.new false false).accepts nineBase64 (takes "S")
          (.publish "a" "CQ==" (some "c")) = true) ∧
      ∃ state ∈ Steps.execute (step shortFrames) (start shortFrames) answeredThenCut,
        Quiescent state ∧ state.calls.length = 2 ∧ state.pending = [] ∧
          ∀ call ∈ state.calls, call.stage.isReturned = true := by
  constructor
  · exact (every_call_answered nineBase64 shortFrames).1 (.new false false) [] [] (takes "S")
      ⟨100, .ok (.publish "a" "CQ==" (some "c"))⟩ (.publish "a" "CQ==" (some "c")) "c" rfl rfl
      fun _ hother ↦ absurd hother List.not_mem_nil
  · have hexecute : ∃ state ∈ Steps.execute (step shortFrames) (start shortFrames) answeredThenCut,
        Quiescent state ∧ state.calls.length = 2 := by decide +kernel
    obtain ⟨state, hstate, hquiet, hcalls⟩ := hexecute
    exact ⟨state, hstate, hquiet, hcalls, (every_call_answered nineBase64 shortFrames).2 state
      (Steps.reach_of_execute (by decide +kernel) hstate) hquiet⟩

/-- The connection is lost after a call saw it, and the command ends the wait before the next
attempt; the client connects again. -/
def lostCommand : List SessionLabel :=
  [.connect, .snapshot [], .call (.publishBytes "a" [9]) (ulidOf '0') (ulidOf '1'), .disconnect,
    .markDown, .failPending, .insertPending 0, .clearIds, .enqueue 0, .connectFails false,
    .discard, .connect, .snapshot []]

/-- A publish that the bus refuses is answered without its correlation id, and the caller waits for
ever; so does one whose command was lost between two connections. -/
theorem refused_publish_unanswered :
    Connection.echoes "c" ((Connection.serve nineBase64).outputs (.new false false)
        [(refusesEmpty "S", ⟨100, .ok (.publish "" "CQ==" (some "c"))⟩)]).flatten = 0 ∧
      (∃ state ∈ Steps.execute (step shortFrames) (start shortFrames)
          ([.connect, .snapshot []] ++ publishing 0 "" '0' '1' ++
            [.serve (refusesEmpty "S"), .read]),
        Quiescent state ∧ state.pending = [ulidOf '0'] ∧
          ∃ call ∈ state.calls[0]?, call.stage = .waiting) ∧
      ∃ state ∈ Steps.execute (step shortFrames) (start shortFrames) lostCommand,
        Quiescent state ∧ state.pending = [ulidOf '0'] ∧
          ∃ call ∈ state.calls[0]?, call.stage = .waiting := by
  decide +kernel

end Session

end Seidrum.Client
