import Seidrum.Client.Answered
import Seidrum.EventBus.RequestReply.Reserved

/-!
# Replying through a client

A subscriber that is sent a reply subject answers by publishing on it.  A client calls the bus in
its own process, or sends the operation over a WebSocket; both ways end in the `publish` of the bus,
which refuses reserved subjects.  The bus and a WebSocket client are composed into one system, in
which serving a frame makes the call on the bus and an event is forwarded off its channel.
-/

namespace Seidrum.EventBus

namespace Exchange

/-- Every request waits on a reply subject. -/
theorem Change.replies {config : Config} {state next : Exchange} {label : ExchangeLabel}
    (hchange : Change config state label next)
    (h : ∀ request ∈ state.requests, isReplySubject request.replySubject = true) :
    ∀ request ∈ next.requests, isReplySubject request.replySubject = true := by
  intro request hmem
  obtain ⟨r, hr⟩ := List.mem_iff_getElem?.mp hmem
  cases hchange.requestAfter hr with
  | kept before => exact h request (List.mem_of_getElem? before)
  | moved label_eq before =>
    have hbefore := h _ (List.mem_of_getElem? before)
    exact hbefore
  | new label_eq fresh => exact isReplySubject_replySubjectOf _

end Exchange

end Seidrum.EventBus

namespace Seidrum.Client

open Seidrum.Foundation Seidrum.EventBus

/-- Publish bytes on a bus in the same process. -/
def publishInProcess (intercepting : Option String) (subject : String) (payload : Payload)
    (storeError : Option StorageError) (bus : Exchange) : Except String Unit × Exchange :=
  match bus.publish intercepting subject payload storeError with
  | (.error error, bus) => (.error ("publish failed: " ++ error.message), bus)
  | (.ok _, bus) => (.ok (), bus)

/-- Reply to a captured reply subject, in the same process. -/
def replyInProcess (intercepting : Option String) (replySubject : String) (payload : Payload)
    (storeError : Option StorageError) (bus : Exchange) : Except String Unit × Exchange :=
  publishInProcess intercepting replySubject payload storeError bus

/-- Reply to a captured reply subject, over a WebSocket. -/
def ClientCall.replyTo (replySubject : String) (payload : Payload) : ClientCall :=
  .publishBytes replySubject payload

namespace Session

variable {env : SessionEnv} {state next : Session} {label : SessionLabel}

/-- Nothing answers a correlation id, and whatever is sent under it will be refused. -/
structure Mute (state : Session) (cid : String) : Prop where
  untold : ∀ reply, (cid, reply) ∉ state.replies
  unanswered : ∀ message ∈ state.toClient, message.correlationId ≠ some cid
  refused : ∀ operation ∈ state.queue ++ state.toServer, operation.correlationId = some cid →
    ∃ subject payload cid, operation = .publish subject payload cid ∧
      isReplySubject subject = true

/-- The server takes no publish on a reply subject. -/
def RefusesReplies (env : SessionEnv) (state : Session) : SessionLabel → Prop
  | .serve bus => ∀ operation ∈ state.toServer.head?, ∀ subject payload cid,
      operation = .publish subject payload cid → isReplySubject subject = true →
      state.connection.accepts env.base64 bus operation = false
  | _ => True

variable {cid : String}

theorem Answers.correlationId_eq {message : ServerMessage} {reply : PendingReply}
    (h : Answers env message cid reply) : message.correlationId = some cid := by
  cases h <;> rfl

theorem Mute.kept (h : Mute state cid) (hreplies : next.replies = state.replies)
    (hclient : next.toClient ⊆ state.toClient)
    (hsent : next.queue ++ next.toServer ⊆ state.queue ++ state.toServer) : Mute next cid where
  untold := hreplies ▸ h.untold
  unanswered message hmem := h.unanswered message (hclient hmem)
  refused operation hmem := h.refused operation (hsent hmem)

/-- A reply stays without an answer: its operation is the only one under its correlation id, and is
refused. -/
theorem Mute.change {call : Call} {replySubject : String} {payload : Payload}
    (h : Mute state call.cid) (hids : Identified state) (hcall : call ∈ state.calls)
    (hreplies : call.call = .replyTo replySubject payload)
    (hsubject : isReplySubject replySubject = true) (hguard : RefusesReplies env state label)
    (hchange : Change env state label next) : Mute next call.cid := by
  have hulid : isUlid call.cid = true :=
    (hids.generated _ (List.mem_append_left _ (List.mem_map_of_mem hcall))).1
  cases hchange with
  | @enqueue c other at_c stage running =>
    refine ⟨h.untold, h.unanswered, fun operation hmem hcid ↦ ?_⟩
    rcases List.mem_append.mp hmem with hqueue | hsent
    · obtain hbefore | rfl := mem_of_concat hqueue
      · exact h.refused operation (List.mem_append_left _ hbefore) hcid
      · rw [correlationId_operation] at hcid
        obtain rfl := hids.eq_of_cid hcall (List.mem_of_getElem? at_c) (Option.some.inj hcid).symm
        rw [hreplies]
        exact ⟨_, _, _, rfl, hsubject⟩
    · exact h.refused operation (List.mem_append_right _ hsent) hcid
  | sendUnsubscribe at_i running =>
    refine ⟨h.untold, h.unanswered, fun operation hmem hcid ↦ ?_⟩
    simp only [List.append_assoc, List.mem_append, List.mem_singleton] at hmem
    rcases hmem with hbefore | rfl | hsent
    · exact h.refused operation (List.mem_append_left _ hbefore) hcid
    · simp [ClientOperation.correlationId] at hcid
    · exact h.refused operation (List.mem_append_right _ hsent) hcid
  | discard manager queue =>
    refine h.kept rfl (List.Subset.refl _) ?_
    rw [queue]
    exact List.subset_cons_self _ _
  | exit manager => exact h.kept rfl (List.Subset.refl _) (List.subset_append_right _ _)
  | resubscribe manager fresh =>
    refine ⟨h.untold, h.unanswered, fun operation hmem hcid ↦ ?_⟩
    simp only [List.mem_append, List.mem_singleton] at hmem
    rcases hmem with hbefore | hsent | rfl
    · exact h.refused operation (List.mem_append_left _ hbefore) hcid
    · exact h.refused operation (List.mem_append_right _ hsent) hcid
    · simp [← Option.some.inj hcid, not_isUlid_resubscribeCid] at hulid
  | send manager queue =>
    refine h.kept rfl (List.Subset.refl _) fun operation hmem ↦ ?_
    rw [queue]
    simp only [List.mem_append, List.mem_cons] at hmem ⊢
    tauto
  | @read head rest _ manager toClient received =>
    have hrest : ∀ message ∈ rest, message.correlationId ≠ some call.cid :=
      fun message hmem ↦ h.unanswered message (toClient ▸ List.mem_cons_of_mem _ hmem)
    cases received with
    | answered answers waits =>
      refine ⟨fun reply hmem ↦ ?_, hrest, h.refused⟩
      rcases List.mem_cons.mp hmem with heq | hbefore
      · have hhead := h.unanswered _ (toClient ▸ List.mem_cons_self)
        rw [answers.correlationId_eq] at hhead
        exact hhead (congrArg some (Prod.mk.inj heq).1.symm)
      · exact h.untold reply hbefore
    | _ => exact ⟨h.untold, hrest, h.refused⟩
  | disconnect up =>
    refine h.kept rfl (List.nil_subset _) ?_
    rw [List.append_nil]
    exact List.subset_append_left _ _
  | @serve bus operation rest up toServer short fresh =>
    refine ⟨h.untold, fun message hmem hcid ↦ ?_, fun other hmem ↦ h.refused other ?_⟩
    · rcases List.mem_append.mp hmem with hbefore | hnew
      · exact h.unanswered message hbefore hcid
      · have hhead : operation ∈ state.queue ++ state.toServer :=
          List.mem_append_right _ (toServer ▸ List.mem_cons_self)
        obtain ⟨subject, payload, cid, rfl, hreserved⟩ :=
          h.refused operation hhead (correlationId_of_mem_served hnew hcid)
        have hrefused := hguard _ (by rw [toServer]; rfl) subject payload cid rfl hreserved
        rw [served, Connection.serveFrame, if_neg (not_lt.mpr short)] at hnew
        cases Connection.outcome env.base64 bus state.connection (.publish subject payload cid) with
        | answered haccepts => simp [hrefused] at haccepts
        | refused _ hsilent => simp [hsilent.correlationId_eq hnew] at hcid
    · rw [toServer]
      simp only [List.mem_append, List.mem_cons] at hmem ⊢
      tauto
  | event up issued =>
    refine ⟨h.untold, fun message hmem ↦ ?_, h.refused⟩
    obtain hbefore | rfl := mem_of_concat hmem
    · exact h.unanswered message hbefore
    · exact Option.some_ne_none _ |>.symm
  | _ => exact h.kept rfl (List.Subset.refl _) (List.Subset.refl _)

/-- No reply has succeeded, and none will be told anything. -/
def RepliesMute (state : Session) : Prop :=
  ∀ call ∈ state.calls, ∀ replySubject payload, call.call = .replyTo replySubject payload →
    isReplySubject replySubject = true →
    Mute state call.cid ∧ ∀ bytes, call.stage ≠ .returned (.ok bytes)

/-- A new call is not mentioned yet. -/
theorem mute_of_fresh {call : ClientCall} {stableId : String} (hids : Identified state)
    (hfresh : state.freshIds [cid, stableId] = true) :
    Mute (state.startCall call cid stableId) cid := by
  simp only [freshIds, List.all_cons, Bool.and_eq_true, decide_eq_true_eq] at hfresh
  have hnew : cid ∉ state.mentioned := fun hmem ↦
    hfresh.1.1.2 (hids.mentioned cid hmem hfresh.1.1.1)
  rw [mem_mentioned] at hnew
  push Not at hnew
  obtain ⟨hoperations, hmessages, _, _, hreplies⟩ := hnew
  exact ⟨fun reply hmem ↦ hreplies _ hmem rfl, hmessages, fun operation hmem hcid ↦
    absurd hcid (hoperations operation hmem)⟩

theorem RepliesMute.change (h : RepliesMute state) (hids : Identified state)
    (hguard : RefusesReplies env state label) (hchange : Change env state label next) :
    RepliesMute next := by
  intro call hmem replySubject payload hcall hsubject
  -- what becomes of a reply that was there before
  have hkept {old : Call} {c : ℕ} (hat : state.calls[c]? = some old)
      (hold : old.call = .replyTo replySubject payload) :
      Mute next old.cid ∧ Mute state old.cid := by
    have hmute := (h old (List.mem_of_getElem? hat) replySubject payload hold hsubject).1
    exact ⟨hmute.change hids (List.mem_of_getElem? hat) hold hsubject hguard hchange, hmute⟩
  cases hchange.callAfter hmem with
  | kept before =>
    obtain ⟨hmute, hstage⟩ := h call before replySubject payload hcall hsubject
    exact ⟨hmute.change hids before hcall hsubject hguard hchange, hstage⟩
  | new label_eq fresh call_eq =>
    subst label_eq call_eq
    cases hchange
    refine ⟨mute_of_fresh hids fresh, fun bytes ↦ ?_⟩
    dsimp only
    split_ifs <;> simp
  | inserted before stage call_eq | enqueued before stage call_eq =>
    subst call_eq
    exact ⟨(hkept before hcall).1, by simp⟩
  | told before stage told call_eq =>
    subst call_eq
    obtain ⟨l₁, l₂, heq, _⟩ := List.lookup_eq_some_iff.mp told
    exact absurd (heq ▸ List.mem_append_right _ List.mem_cons_self) ((hkept before hcall).2.untold _)
  | failed before stage isError call_eq =>
    subst call_eq
    refine ⟨(hkept before hcall).1, fun bytes heq ↦ ?_⟩
    obtain rfl := CallStage.returned.inj heq
    simp [Except.isOk, Except.toBool] at isError
  | registered before label_eq stage subscribes call_eq =>
    subst call_eq
    simp [subscribes, ClientCall.replyTo] at hcall

end Session

structure Hub where
  exchange : Exchange
  session : Session

/-- Who moves next. -/
inductive HubLabel
  | bus (label : ExchangeLabel)
  | client (label : SessionLabel)
  /-- the server handles the next frame, and the bus answers -/
  | serve (input : CallInput) (bus : BusAnswers)
  /-- a forwarder sends the next event of its subscription -/
  | forward (subscriptionId : String)

namespace Hub

/-- The steps a client takes by itself. -/
def isClientLabel : SessionLabel → Bool
  | .serve _ | .event .. => false
  | _ => true

/-- What is known of an answer when the call is made: a publish fails exactly if it is refused, and a
subscription gets the id it is made under. -/
def answersAs (input : CallInput) (exchange : Exchange) (bus : BusAnswers) : BusCall → Bool
  | .publish subject payload =>
      match (exchange.publish none subject payload input.storeError).1 with
      | .error error => decide (bus (.publish subject payload) = .error error)
      | .ok _ => (bus (.publish subject payload)).isOk
  | .subscribe pattern priority =>
      match bus (.subscribe pattern priority) with
      | .error _ => true
      | .ok id => decide (id = input.id)
  | _ => true

/-- The step of the bus that a call starts with. -/
def called (config : Config) (input : CallInput) (exchange : Exchange) (call : BusCall) :
    Option Exchange :=
  match call.label input with
  | some label => Exchange.step config exchange label
  | none => some exchange

def start (env : SessionEnv) (store : InMemoryEventStore) (clock : ℕ) : Hub :=
  ⟨.build store clock, .start env⟩

def step (config : Config) (env : SessionEnv) : Steps Hub HubLabel := fun hub label ↦
  match label with
  | .bus label => (Exchange.step config hub.exchange label).map ({ hub with exchange := · })
  | .client label =>
      if isClientLabel label then
        (Session.step env hub.session label).map ({ hub with session := · })
      else none
  | .serve input bus => hub.session.toServer.head?.bind fun operation ↦
      match (hub.session.connection.handleOperation env.base64 operation).call with
      | none => (Session.step env hub.session (.serve bus)).map ({ hub with session := · })
      | some call =>
          if answersAs input hub.exchange bus call then
            (called config input hub.exchange call).bind fun exchange ↦
              (Session.step env hub.session (.serve bus)).map fun session ↦ ⟨exchange, session⟩
          else none
  | .forward id => (hub.exchange.core.bus.channels id).queue.head?.bind fun event ↦
      (Exchange.step config hub.exchange (.core (.receive id))).bind fun exchange ↦
        (Session.step env hub.session (.event id event.subject (env.base64.encode event.payload)
          event.replySubject)).map fun session ↦ ⟨exchange, session⟩

variable {config : Config} {env : SessionEnv} {hub next : Hub} {label : HubLabel}

/-- What a step does to the bus is a step of the bus. -/
theorem exchange_of_step (h : step config env hub label = some next) :
    next.exchange = hub.exchange ∨
      ∃ label, Exchange.step config hub.exchange label = some next.exchange := by
  cases label with
  | bus label =>
    obtain ⟨exchange, hexchange, rfl⟩ := Option.map_eq_some_iff.mp h
    exact .inr ⟨label, hexchange⟩
  | client label =>
    simp only [step] at h
    split_ifs at h
    obtain ⟨session, _, rfl⟩ := Option.map_eq_some_iff.mp h
    exact .inl rfl
  | serve input bus =>
    obtain ⟨operation, _, hserve⟩ := Option.bind_eq_some_iff.mp h
    split at hserve
    · obtain ⟨session, _, rfl⟩ := Option.map_eq_some_iff.mp hserve
      exact .inl rfl
    · rename_i call _
      split_ifs at hserve
      obtain ⟨exchange, hcalled, hserved⟩ := Option.bind_eq_some_iff.mp hserve
      obtain ⟨session, _, rfl⟩ := Option.map_eq_some_iff.mp hserved
      unfold called at hcalled
      split at hcalled
      · exact .inr ⟨_, hcalled⟩
      · exact .inl (Option.some.inj hcalled).symm
  | forward id =>
    obtain ⟨event, _, hforward⟩ := Option.bind_eq_some_iff.mp h
    obtain ⟨exchange, hexchange, hforwarded⟩ := Option.bind_eq_some_iff.mp hforward
    obtain ⟨session, _, rfl⟩ := Option.map_eq_some_iff.mp hforwarded
    exact .inr ⟨_, hexchange⟩

/-- A step of the client or of its connection, as it can be in the composed system: the server takes
no publish on a reply subject, and an event that is sent waited on its channel. -/
structure Joined (env : SessionEnv) (hub : Hub) (label : SessionLabel) : Prop where
  refuses : Session.RefusesReplies env hub.session label
  event : ∀ id subject payload replySubject, label = .event id subject payload replySubject →
    ∃ event ∈ (hub.exchange.core.bus.channels id).queue,
      event.subject = subject ∧ event.replySubject = replySubject

theorem refuses_of_answersAs {input : CallInput} {bus : BusAnswers} {operation : ClientOperation}
    {call : BusCall}
    (hcall : (hub.session.connection.handleOperation env.base64 operation).call = some call)
    (hanswers : answersAs input hub.exchange bus call = true) {subject payload : String}
    {cid : Option String} (hoperation : operation = .publish subject payload cid)
    (hsubject : isReplySubject subject = true) :
    hub.session.connection.accepts env.base64 bus operation = false := by
  subst hoperation
  simp only [Connection.handleOperation] at hcall
  simp only [Connection.accepts]
  cases hdecoded : validateAndDecodePayload env.base64 payload with
  | error error => rfl
  | ok decoded =>
    simp only [hdecoded, Handling.call, Option.some.injEq] at hcall
    subst hcall
    obtain ⟨error, hpublish⟩ := Exchange.publish_reserved hsubject none decoded input.storeError
      hub.exchange
    simp only [answersAs, hpublish, decide_eq_true_eq] at hanswers
    simp only [hanswers]
    rfl

theorem session_of_step (h : step config env hub label = some next) :
    next.session = hub.session ∨ ∃ label, Joined env hub label ∧
      Session.step env hub.session label = some next.session := by
  cases label with
  | bus label =>
    obtain ⟨exchange, _, rfl⟩ := Option.map_eq_some_iff.mp h
    exact .inl rfl
  | client label =>
    simp only [step] at h
    split_ifs at h with hlabel
    obtain ⟨session, hsession, rfl⟩ := Option.map_eq_some_iff.mp h
    refine .inr ⟨label, ⟨?_, ?_⟩, hsession⟩
    · cases label with
      | serve => simp [isClientLabel] at hlabel
      | _ => trivial
    · rintro id subject payload replySubject rfl
      simp [isClientLabel] at hlabel
  | serve input bus =>
    obtain ⟨operation, hhead, hserve⟩ := Option.bind_eq_some_iff.mp h
    split at hserve
    · rename_i hcall
      obtain ⟨session, hsession, rfl⟩ := Option.map_eq_some_iff.mp hserve
      refine .inr ⟨.serve bus, ⟨?_, nofun⟩, hsession⟩
      rintro other hother subject payload cid rfl hsubject
      obtain rfl := Option.some.inj (hhead.symm.trans hother)
      -- no call is made for a payload that does not decode
      simp only [Connection.handleOperation] at hcall
      simp only [Connection.accepts]
      split at hcall
      · rename_i hdecoded
        simp [hdecoded]
      · simp [Handling.call] at hcall
    · rename_i call hcall
      split_ifs at hserve with hanswers
      obtain ⟨exchange, _, hserved⟩ := Option.bind_eq_some_iff.mp hserve
      obtain ⟨session, hsession, rfl⟩ := Option.map_eq_some_iff.mp hserved
      refine .inr ⟨.serve bus, ⟨?_, nofun⟩, hsession⟩
      intro other hother subject payload cid hoperation hsubject
      obtain rfl := Option.some.inj (hhead.symm.trans hother)
      exact refuses_of_answersAs hcall hanswers hoperation hsubject
  | forward id =>
    obtain ⟨event, hhead, hforward⟩ := Option.bind_eq_some_iff.mp h
    obtain ⟨exchange, _, hforwarded⟩ := Option.bind_eq_some_iff.mp hforward
    obtain ⟨session, hsession, rfl⟩ := Option.map_eq_some_iff.mp hforwarded
    refine .inr ⟨.event id event.subject (env.base64.encode event.payload) event.replySubject,
      ⟨trivial, ?_⟩, hsession⟩
    rintro id' subject payload replySubject heq
    obtain ⟨rfl, rfl, _, rfl⟩ := SessionLabel.event.inj heq
    exact ⟨event, List.mem_of_head? hhead, rfl, rfl⟩

/-! ## Whole runs -/

/-- What is known of a bus with its client: messages with a reply subject belong to requests, and no
reply over the WebSocket succeeds. -/
structure Heard (hub : Hub) : Prop where
  traced : hub.exchange.Traced
  replySubjects : ∀ request ∈ hub.exchange.requests, isReplySubject request.replySubject = true
  identified : hub.session.Identified
  mute : hub.session.RepliesMute
  carried : ∀ subject payload replySubject id,
    .event subject payload replySubject id ∈ hub.session.toClient →
    hub.exchange.Asked subject replySubject
  handed : ∀ entry ∈ hub.session.handed, hub.exchange.Asked entry.2.subject entry.2.reply

theorem heard_start (env : SessionEnv) (store : InMemoryEventStore) (clock : ℕ) :
    Heard (start env store clock) where
  traced := Exchange.traced_build store clock
  replySubjects := fun _ hmem ↦ absurd hmem List.not_mem_nil
  identified := Session.identified_start env
  mute := fun _ hmem ↦ absurd hmem List.not_mem_nil
  carried := fun _ _ _ _ hmem ↦ absurd hmem List.not_mem_nil
  handed := fun _ hmem ↦ absurd hmem List.not_mem_nil

end Hub

variable {env : SessionEnv} {state next : Session} {label : SessionLabel}

/-- An event under way was under way before, or has just been sent. -/
theorem Session.Change.event_of_mem (hchange : Session.Change env state label next)
    {subject payload id : String} {replySubject : Option String}
    (hmem : .event subject payload replySubject id ∈ next.toClient) :
    .event subject payload replySubject id ∈ state.toClient ∨
      label = .event id subject payload replySubject := by
  cases hchange with
  | read manager toClient received =>
    left
    rw [toClient]
    cases received <;> exact List.mem_cons_of_mem _ hmem
  | disconnect up => exact absurd hmem List.not_mem_nil
  | @serve bus operation rest up toServer short fresh =>
    left
    rcases List.mem_append.mp hmem with hbefore | hnew
    · exact hbefore
    · rw [Session.served, Connection.serveFrame, if_neg (not_lt.mpr short)] at hnew
      cases Connection.outcome env.base64 bus state.connection operation with
      | answered _ answer heq =>
        simp only [heq, List.mem_singleton] at hnew
        cases hnew ▸ answer
      | refused _ silent => obtain ⟨text, heq⟩ := silent _ hnew; cases heq
  | event up issued =>
    rcases List.mem_append.mp hmem with hbefore | hnew
    · exact .inl hbefore
    · right
      obtain ⟨rfl, rfl, rfl, rfl⟩ := ServerMessage.event.inj (List.mem_singleton.mp hnew)
      rfl
  | _ => exact .inl hmem

/-- What a receiver was handed it had before, or came in an event. -/
theorem Session.Change.handed_of_mem (hchange : Session.Change env state label next)
    {entry : String × WsMessage} (hmem : entry ∈ next.handed) :
    entry ∈ state.handed ∨ ∃ payload id,
      .event entry.2.subject payload entry.2.reply id ∈ state.toClient := by
  cases hchange with
  | read manager toClient received =>
    cases received with
    | @handed subject payload subscriptionId stableId replySubject message_eq sender =>
      obtain hbefore | rfl := mem_of_concat hmem
      · exact .inl hbefore
      · refine .inr ⟨payload, subscriptionId, ?_⟩
        rw [toClient, message_eq]
        exact List.mem_cons_self
    | _ => exact .inl hmem
  | _ => exact .inl hmem

namespace Hub

variable {config : Config} {env : SessionEnv} {hub next : Hub} {label : HubLabel}

theorem Heard.step (h : Heard hub) (hstep : step config env hub label = some next) :
    Heard next := by
  have hasked {subject : String} {replySubject : Option String}
      (hbefore : hub.exchange.Asked subject replySubject) :
      next.exchange.Asked subject replySubject := by
    rcases exchange_of_step hstep with heq | ⟨label, hexchange⟩
    · exact heq ▸ hbefore
    · exact (Exchange.change_of_step hexchange).asked hbefore
  have hexchange : next.exchange.Traced ∧
      ∀ request ∈ next.exchange.requests, isReplySubject request.replySubject = true := by
    rcases exchange_of_step hstep with heq | ⟨label, hexchange⟩
    · exact heq ▸ ⟨h.traced, h.replySubjects⟩
    · have hchange := Exchange.change_of_step hexchange
      exact ⟨h.traced.step hchange, hchange.replies h.replySubjects⟩
  rcases session_of_step hstep with heq | ⟨label, hjoined, hsession⟩
  · constructor
    · exact hexchange.1
    · exact hexchange.2
    · exact heq ▸ h.identified
    · exact heq ▸ h.mute
    · exact fun subject payload replySubject id hmem ↦
        hasked (h.carried subject payload replySubject id (heq ▸ hmem))
    · exact fun entry hmem ↦ hasked (h.handed entry (heq ▸ hmem))
  · have hchange := Session.change_of_step hsession
    constructor
    · exact hexchange.1
    · exact hexchange.2
    · exact h.identified.change hchange
    · exact h.mute.change h.identified hjoined.refuses hchange
    · intro subject payload replySubject id hmem
      rcases hchange.event_of_mem hmem with hbefore | rfl
      · exact hasked (h.carried subject payload replySubject id hbefore)
      · obtain ⟨event, hevent, rfl, rfl⟩ := hjoined.event id subject payload replySubject rfl
        exact hasked (h.traced.addressed.queued id event hevent)
    · intro entry hmem
      rcases hchange.handed_of_mem hmem with hbefore | ⟨payload, id, hevent⟩
      · exact hasked (h.handed entry hbefore)
      · exact hasked (h.carried _ _ _ _ hevent)

theorem heard_of_reach {store : InMemoryEventStore} {clock : ℕ}
    (h : Steps.Reach (Hub.step config env) (fun _ _ ↦ True) (start env store clock) hub) :
    Heard hub :=
  h.invariant (heard_start env store clock) fun _ _ _ hinv _ hstep ↦ hinv.step hstep

/-- Serving a publish on a reply subject leaves the bus as it is. -/
theorem exchange_of_serve_reply {input : CallInput} {bus : BusAnswers} {subject payload : String}
    {cid : Option String} {rest : List ClientOperation} (hsubject : isReplySubject subject = true)
    (htoServer : hub.session.toServer = .publish subject payload cid :: rest)
    (hstep : step config env hub (.serve input bus) = some next) :
    next.exchange = hub.exchange := by
  obtain ⟨operation, hhead, hserve⟩ := Option.bind_eq_some_iff.mp hstep
  rw [htoServer] at hhead
  cases hhead
  split at hserve
  · obtain ⟨session, _, rfl⟩ := Option.map_eq_some_iff.mp hserve
    rfl
  · rename_i call hcall
    split_ifs at hserve
    obtain ⟨exchange, hcalled, hserved⟩ := Option.bind_eq_some_iff.mp hserve
    obtain ⟨session, _, rfl⟩ := Option.map_eq_some_iff.mp hserved
    simp only [Connection.handleOperation] at hcall
    split at hcall
    · simp [Handling.call] at hcall
    · rename_i decoded _
      simp only [Handling.call, Option.some.injEq] at hcall
      subst hcall
      simp only [called, BusCall.label, Exchange.step_publish] at hcalled
      obtain ⟨error, hpublish⟩ := Exchange.publish_reserved hsubject none decoded input.storeError
        hub.exchange
      rw [hpublish] at hcalled
      exact (Option.some.inj hcalled).symm

/-- Messages with a reply subject belong to requests; but replying on the reply subject of a request
fails in the same process, never succeeds over a WebSocket, and does nothing on the bus. -/
theorem reply_to_never_succeeds {store : InMemoryEventStore} {clock : ℕ}
    (hreach : Steps.Reach (step config env) (fun _ _ ↦ True) (start env store clock) hub) :
    (∀ id, ∀ event ∈ (hub.exchange.core.bus.channels id).queue,
        hub.exchange.Asked event.subject event.replySubject) ∧
      (∀ entry ∈ hub.session.handed, hub.exchange.Asked entry.2.subject entry.2.reply) ∧
      ∀ request ∈ hub.exchange.requests,
        (∀ intercepting payload storeError, ∃ error,
          replyInProcess intercepting request.replySubject payload storeError hub.exchange =
            (.error error, hub.exchange)) ∧
        ∀ call ∈ hub.session.calls, ∀ payload,
          call.call = .replyTo request.replySubject payload →
          (∀ bytes, call.stage ≠ .returned (.ok bytes)) ∧
            ∀ input bus rest next,
              hub.session.toServer = call.call.operation env call.cid :: rest →
              step config env hub (.serve input bus) = some next →
              next.exchange = hub.exchange := by
  have hheard := heard_of_reach hreach
  refine ⟨hheard.traced.addressed.queued, hheard.handed, fun request hrequest ↦ ?_⟩
  have hsubject := hheard.replySubjects request hrequest
  constructor
  · intro intercepting payload storeError
    obtain ⟨error, hpublish⟩ := Exchange.publish_reserved hsubject intercepting payload storeError
      hub.exchange
    exact ⟨"publish failed: " ++ error.message,
      by simp only [replyInProcess, publishInProcess, hpublish]⟩
  · intro call hcall payload hreplies
    refine ⟨(hheard.mute call hcall _ payload hreplies hsubject).2, ?_⟩
    intro input bus rest next htoServer hstep
    rw [hreplies] at htoServer
    exact exchange_of_serve_reply hsubject htoServer hstep

open Session (takes shortFrames)

/-- A bus that refuses what `publish` refuses, and gives out this id. -/
def reserving (id : String) : BusAnswers
  | .publish subject payload => (Exchange.checkReserved subject).bind fun _ ↦
      takes id (.publish subject payload)
  | call => takes id call

/-- What the calls on the bus are given. -/
def fixedInput : CallInput := ⟨ulidOf 'Z', ulidOf 'S', 0, none⟩

/-- A client subscribes to `a`, and is sent a request on it. -/
def requested : List HubLabel :=
  [.client .connect, .client (.snapshot []),
    .client (.call (.subscribe "a") (ulidOf '0') (ulidOf '1')), .client (.insertPending 0),
    .client (.enqueue 0), .client .send, .serve fixedInput (reserving (ulidOf 'S')), .client .read,
    .client (.wake 0), .client (.register 0),
    .bus (.request ⟨none, "a", [9]⟩ (ulidOf 'A') (ulidOf 'B')),
    .bus (.ofRequest 0 (.publish none))] ++
  List.replicate 7 (.bus (.core (.turn 0 .panicked))) ++
  [.bus (.ofRequest 0 .published), .forward (ulidOf 'S'), .client .read]

/-- The client replies; the request waits until it times out. -/
def repliedTo : List HubLabel :=
  requested ++
  [.client (.call (.replyTo (replySubjectOf (ulidOf 'A')) [9]) (ulidOf '2') (ulidOf '3')),
    .client (.insertPending 1), .client (.enqueue 1), .client .send,
    .serve fixedInput (reserving (ulidOf 'S')), .client .read, .bus (.ofRequest 0 .timeout),
    .bus (.ofRequest 0 .dropReceiver), .bus (.ofRequest 0 .cleanUp)]

theorem reply_to_never_succeeds_requested :
    ∃ hub ∈ Steps.execute (step (.plain 5) shortFrames) (start shortFrames .empty 0) repliedTo,
      ∃ request ∈ hub.exchange.requests, ∃ call ∈ hub.session.calls,
        call.call = .replyTo request.replySubject [9] ∧
          ∀ bytes, call.stage ≠ .returned (.ok bytes) := by
  have hexecute : ∃ hub ∈ Steps.execute (step (.plain 5) shortFrames) (start shortFrames .empty 0)
      repliedTo, ∃ request ∈ hub.exchange.requests, ∃ call ∈ hub.session.calls,
        call.call = .replyTo request.replySubject [9] := by decide +kernel
  obtain ⟨hub, hhub, request, hrequest, call, hcall, hreplies⟩ := hexecute
  have hnever := (reply_to_never_succeeds (Steps.reach_of_execute (by decide +kernel) hhub)).2.2
    request hrequest
  exact ⟨hub, hhub, request, hrequest, call, hcall, hreplies, (hnever.2 call hcall [9] hreplies).1⟩

/-- The client received the request with its reply subject while the request was waiting.  Replying
in the same process fails; the reply over the WebSocket is never answered, and the request times
out. -/
theorem reply_to_request_refused :
    (∃ hub ∈ Steps.execute (step (.plain 5) shortFrames) (start shortFrames .empty 0) requested,
      hub.session.handed =
          [(ulidOf '1', ⟨"a", [9], some (replySubjectOf (ulidOf 'A'))⟩)] ∧
        (∃ request ∈ hub.exchange.requests[0]?,
          request.replySubject = replySubjectOf (ulidOf 'A') ∧ request.stage.isOver = false) ∧
        (replyInProcess none (replySubjectOf (ulidOf 'A')) [9] none hub.exchange).1.isOk = false) ∧
      ∃ hub ∈ Steps.execute (step (.plain 5) shortFrames) (start shortFrames .empty 0) repliedTo,
        hub.session.Quiescent ∧
          (∃ call ∈ hub.session.calls[1]?,
            call.call = .replyTo (replySubjectOf (ulidOf 'A')) [9] ∧ call.stage = .waiting) ∧
          ∃ request ∈ hub.exchange.requests[0]?,
            request.stage.isOver = true ∧ request.stage.answer = none := by
  decide +kernel

end Hub

end Seidrum.Client
