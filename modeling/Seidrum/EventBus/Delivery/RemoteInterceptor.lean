import Mathlib.Data.List.AList
import Seidrum.EventBus.Transport.ConnectionLoop

/-!
# Calls of a remote interceptor

The proxy of an interceptor at the other end of a WebSocket keeps the sending end of a one-shot channel
for each call in flight, in a table under the request id of the call.  An entry leaves the table when a
result with its id comes in, when all calls are cancelled, or by the guard of its call, which every
early end of the call drops.  If the lock of the table is taken at that moment, the guard leaves the
removal to a task of its own.

The dispatch engine may abort a call wherever it waits: for the lock, for room on the outbound queue, or
for the reply.
-/

namespace Seidrum.EventBus

open Foundation

/-- The decision in a result; a payload that is not base64 makes the result void. -/
def WireInterceptAction.decode (base64 : Base64) : WireInterceptAction → Option WsInterceptAction
  | .pass => some .pass
  | .drop => some .drop
  | .modify payload => match base64.decode payload with
      | .ok bytes => some (.modify bytes)
      | .error _ => none

/-- A decision, with the reason why the server made it where it did. -/
structure WsInterceptReply where
  action : WsInterceptAction
  error : Option String
  deriving DecidableEq, Repr

/-- The one-shot channel of a call.  A reply comes with the position of the result it was made from
among those received, or with none if the call was cancelled. -/
inductive ReplyChannel
  | empty
  | sent (reply : WsInterceptReply) (message : Option ℕ)
  | closed
  deriving DecidableEq, Repr

inductive ProxyPhase
  /-- It waits for the lock of the table. -/
  | entering
  /-- It is in the table and its guard is armed; its frame waits for room on the queue. -/
  | sending
  | waiting
  | ended (outcome : InterceptOutcome)
  deriving DecidableEq, Repr

def ProxyPhase.isOver : ProxyPhase → Bool
  | ended _ => true
  | _ => false

structure ProxyCall where
  payload : Payload
  phase : ProxyPhase
  channel : ReplyChannel
  deriving DecidableEq, Repr

/-- Send a reply to a call, unless it has dropped its end of the channel. -/
def ProxyCall.signal (reply : WsInterceptReply) (message : Option ℕ) (call : ProxyCall) : ProxyCall :=
  if call.phase.isOver then call else { call with channel := .sent reply message }

/-- A proxy with its calls; `messages` and `consumed` are the history. -/
structure WsRemoteInterceptor where
  calls : List ProxyCall
  /-- The call whose channel is kept under a request id. -/
  pendingReplies : AList fun _ : String ↦ ℕ
  /-- What tasks spawned by guards have yet to remove. -/
  removals : List String
  /-- The results received, with the request ids in them. -/
  messages : List (String × WsInterceptAction)
  /-- Which result was read by which call. -/
  consumed : List (ℕ × ℕ)

namespace WsRemoteInterceptor

def init : WsRemoteInterceptor := ⟨[], ∅, [], [], []⟩

def setCall (c : ℕ) (call : ProxyCall) (proxy : WsRemoteInterceptor) : WsRemoteInterceptor :=
  { proxy with calls := proxy.calls.set c call }

def finish (c : ℕ) (call : ProxyCall) (outcome : InterceptOutcome) (proxy : WsRemoteInterceptor) :
    WsRemoteInterceptor :=
  proxy.setCall c { call with phase := .ended outcome }

/-- Drop an armed guard. -/
def dropGuard (requestId : String) (contended : Bool) (proxy : WsRemoteInterceptor) :
    WsRemoteInterceptor :=
  if contended then { proxy with removals := proxy.removals ++ [requestId] }
  else { proxy with pendingReplies := proxy.pendingReplies.erase requestId }

@[simp]
theorem calls_dropGuard (requestId : String) (contended : Bool) (proxy : WsRemoteInterceptor) :
    (proxy.dropGuard requestId contended).calls = proxy.calls := by
  cases contended <;> rfl

@[simp]
theorem length_setCall (c : ℕ) (call : ProxyCall) (proxy : WsRemoteInterceptor) :
    (proxy.setCall c call).calls.length = proxy.calls.length := List.length_set

@[simp]
theorem length_finish (c : ℕ) (call : ProxyCall) (outcome : InterceptOutcome)
    (proxy : WsRemoteInterceptor) :
    (proxy.finish c call outcome).calls.length = proxy.calls.length := List.length_set

/-- What a call does next; where it drops its guard, whether somebody holds the lock. -/
inductive ProxyMove
  | enter
  /-- The queue takes the frame, or is closed. -/
  | send (accepted contended : Bool)
  | resume (contended : Bool)
  | timeout (contended : Bool)
  | abort (contended : Bool)
  deriving DecidableEq, Repr

def callStep (requestId : String) (c : ℕ) (call : ProxyCall) (proxy : WsRemoteInterceptor) :
    ProxyMove → Option WsRemoteInterceptor
  | .enter =>
      if call.phase = .entering then
        if maxPendingIntercepts ≤ proxy.pendingReplies.keys.length then
          some (proxy.finish c call (.completed .pass call.payload))
        else some ({ proxy with pendingReplies := proxy.pendingReplies.insert requestId c }.setCall c
          { call with phase := .sending })
      else none
  | .send accepted contended =>
      if call.phase = .sending then
        if accepted then some (proxy.setCall c { call with phase := .waiting })
        else some ((proxy.dropGuard requestId contended).finish c call (.completed .pass call.payload))
      else none
  | .resume contended =>
      if call.phase = .waiting then
        match call.channel with
        | .empty => none
        | .sent reply message =>
            -- the guard is disarmed
            some { proxy.finish c call (reply.action.outcome call.payload) with
              consumed := proxy.consumed ++ message.toList.map (·, c) }
        | .closed =>
            some ((proxy.dropGuard requestId contended).finish c call (.completed .pass call.payload))
      else none
  | .timeout contended =>
      if call.phase = .waiting then
        some ((proxy.dropGuard requestId contended).finish c call (.completed .pass call.payload))
      else none
  | .abort contended =>
      match call.phase with
      | .entering => some (proxy.finish c call .cancelled)
      | .sending | .waiting => some ((proxy.dropGuard requestId contended).finish c call .cancelled)
      | .ended _ => none

/-- A decoded result comes in. -/
def interceptResult (requestId : String) (action : WsInterceptAction) (proxy : WsRemoteInterceptor) :
    WsRemoteInterceptor :=
  let received := { proxy with messages := proxy.messages ++ [(requestId, action)] }
  match proxy.pendingReplies.lookup requestId with
  | some c =>
      { received with
        pendingReplies := proxy.pendingReplies.erase requestId
        calls := proxy.calls.modify c
          (ProxyCall.signal ⟨action, none⟩ (some proxy.messages.length)) }
  | none => received

def cancelAll (reason : String) (proxy : WsRemoteInterceptor) : WsRemoteInterceptor :=
  { proxy with
    pendingReplies := ∅
    calls := proxy.pendingReplies.entries.foldl
      (fun calls entry ↦ calls.modify entry.2 (ProxyCall.signal ⟨.pass, some reason⟩ none))
      proxy.calls }

inductive ProxyLabel
  /-- A dispatch calls the proxy. -/
  | intercept (payload : Payload)
  | ofCall (c : ℕ) (move : ProxyMove)
  | interceptResult (requestId : String) (action : WireInterceptAction)
  | cancelAll (reason : String)
  /-- The task a guard spawned gets the lock. -/
  | remove (requestId : String)
  deriving DecidableEq, Repr

/-- A step of the proxy and the parties around it; call number `c` draws the request id `ulid c`. -/
def step (base64 : Base64) (ulid : ℕ → String) : Steps WsRemoteInterceptor ProxyLabel
  | proxy, .intercept payload =>
      some { proxy with calls := proxy.calls ++ [⟨payload, .entering, .empty⟩] }
  | proxy, .ofCall c move => proxy.calls[c]?.bind fun call ↦ proxy.callStep (ulid c) c call move
  | proxy, .interceptResult requestId action =>
      match action.decode base64 with
      | some action => some (proxy.interceptResult requestId action)
      | none => some proxy
  | proxy, .cancelAll reason => some (proxy.cancelAll reason)
  | proxy, .remove requestId =>
      if requestId ∈ proxy.removals then
        some { proxy with
          pendingReplies := proxy.pendingReplies.erase requestId
          removals := proxy.removals.erase requestId }
      else none

/-! ## What holds of the calls -/

variable {ulid : ℕ → String} {proxy : WsRemoteInterceptor} {c m : ℕ} {call call' : ProxyCall}
  {requestId : String}

/-- The request ids drawn so far are distinct. -/
def Fresh (ulid : ℕ → String) (proxy : WsRemoteInterceptor) : Prop :=
  ((List.range proxy.calls.length).map ulid).Nodup

theorem Fresh.eq_of_id {c' : ℕ} (hulid : proxy.Fresh ulid) (hat : proxy.calls[c]? = some call)
    (hat' : proxy.calls[c']? = some call') (hid : ulid c = ulid c') : c = c' := by
  have hmem {c : ℕ} {call : ProxyCall} (hat : proxy.calls[c]? = some call) :
      c ∈ List.range proxy.calls.length :=
    List.mem_range.mpr (List.getElem?_eq_some_iff.mp hat).1
  exact List.inj_on_of_nodup_map hulid (hmem hat) (hmem hat') hid

variable {next : WsRemoteInterceptor}

theorem Fresh.before (hulid : next.Fresh ulid) (hlength : proxy.calls.length ≤ next.calls.length) :
    proxy.Fresh ulid :=
  hulid.sublist ((List.range_sublist.mpr hlength).map ulid)

/-- What a call was sent comes from a result with its request id or is a cancellation, and what it
returned was read from there or is pass. -/
structure CallSound (ulid : ℕ → String) (messages : List (String × WsInterceptAction))
    (consumed : List (ℕ × ℕ)) (c : ℕ) (call : ProxyCall) : Prop where
  entering : call.phase = .entering → call.channel = .empty
  replied : ∀ reply m, call.channel = .sent reply (some m) →
    messages[m]? = some (ulid c, reply.action)
  cancelled : ∀ reply, call.channel = .sent reply none → reply.action = .pass
  decided : ∀ outcome, call.phase = .ended outcome →
    outcome = .cancelled ∨ outcome = .completed .pass call.payload ∨
      ∃ reply m, call.channel = .sent reply (some m) ∧ (m, c) ∈ consumed ∧
        outcome = reply.action.outcome call.payload

/-- A call may be in the table: it got there, nothing was sent to it, and if it is over its removal is
on the way. -/
structure Listed (removals : List String) (requestId : String) (call : ProxyCall) : Prop where
  empty : call.channel = .empty
  entered : call.phase ≠ .entering
  removed : call.phase.isOver → requestId ∈ removals

structure Sound (ulid : ℕ → String) (proxy : WsRemoteInterceptor) : Prop where
  calls : ∀ c call, proxy.calls[c]? = some call →
    CallSound ulid proxy.messages proxy.consumed c call
  pending : ∀ requestId c, proxy.pendingReplies.lookup requestId = some c →
    requestId = ulid c ∧ ∃ call, proxy.calls[c]? = some call ∧
      Listed proxy.removals requestId call
  consumed : ∀ m c, (m, c) ∈ proxy.consumed → ∃ call reply, proxy.calls[c]? = some call ∧
    call.phase.isOver ∧ call.channel = .sent reply (some m)
  messagesOnce : (proxy.consumed.map Prod.fst).Nodup
  callsOnce : (proxy.consumed.map Prod.snd).Nodup
  capped : proxy.pendingReplies.keys.length ≤ maxPendingIntercepts

theorem sound_init (ulid : ℕ → String) : init.Sound ulid where
  calls := fun _ _ hat ↦ by simp [init] at hat
  pending := fun _ _ hlookup ↦ by simp [init] at hlookup
  consumed := fun _ _ hmem ↦ absurd hmem List.not_mem_nil
  messagesOnce := List.nodup_nil
  callsOnce := List.nodup_nil
  capped := Nat.zero_le _

variable {messages : List (String × WsInterceptAction)} {consumed : List (ℕ × ℕ)}

/-- More results and more that was read. -/
theorem CallSound.extend (h : CallSound ulid messages consumed c call)
    (moreMessages : List (String × WsInterceptAction)) (moreConsumed : List (ℕ × ℕ)) :
    CallSound ulid (messages ++ moreMessages) (consumed ++ moreConsumed) c call where
  entering := h.entering
  replied := by
    intro reply m hchannel
    have hat := h.replied reply m hchannel
    rw [List.getElem?_append_left (List.getElem?_eq_some_iff.mp hat).1, hat]
  cancelled := h.cancelled
  decided := by
    intro outcome hover
    refine (h.decided outcome hover).imp_right (Or.imp_right ?_)
    rintro ⟨reply, m, hchannel, hmem, houtcome⟩
    exact ⟨reply, m, hchannel, List.mem_append_left _ hmem, houtcome⟩

theorem CallSound.finish (h : CallSound ulid messages consumed c call) {outcome : InterceptOutcome}
    (houtcome : outcome = .cancelled ∨ outcome = .completed .pass call.payload) :
    CallSound ulid messages consumed c { call with phase := .ended outcome } where
  entering := fun hphase ↦ ProxyPhase.noConfusion hphase
  replied := h.replied
  cancelled := h.cancelled
  decided := by
    rintro _ ⟨⟩
    exact houtcome.imp_right .inl

/-- A call that got into the table is sent a reply of its own, or its cancellation. -/
theorem CallSound.signal (h : CallSound ulid messages consumed c call)
    (hentered : call.phase ≠ .entering) {reply : WsInterceptReply} {message : Option ℕ}
    (hreply : ∀ m, message = some m → messages[m]? = some (ulid c, reply.action))
    (hcancel : message = none → reply.action = .pass) :
    CallSound ulid messages consumed c (call.signal reply message) := by
  unfold ProxyCall.signal
  split_ifs with hover
  · exact h
  · exact {
      entering := fun hphase ↦ absurd hphase hentered
      replied := by
        rintro _ m ⟨⟩
        exact hreply m rfl
      cancelled := by
        rintro _ ⟨⟩
        exact hcancel rfl
      decided := by
        intro outcome hphase
        change call.phase = .ended outcome at hphase
        rw [hphase] at hover
        exact absurd rfl hover }

namespace Sound

theorem not_consumed (h : proxy.Sound ulid) (hat : proxy.calls[c]? = some call)
    (hopen : call.phase.isOver = false) (m : ℕ) : (m, c) ∉ proxy.consumed := by
  intro hmem
  obtain ⟨call', -, hat', hover, -⟩ := h.consumed m c hmem
  obtain rfl := Option.some.inj (hat.symm.trans hat')
  rw [hopen] at hover
  exact Bool.false_ne_true hover

theorem listed (h : proxy.Sound ulid) (hat : proxy.calls[c]? = some call)
    (hlookup : proxy.pendingReplies.lookup requestId = some c) :
    Listed proxy.removals requestId call := by
  obtain ⟨-, call', hat', hlisted⟩ := h.pending requestId c hlookup
  obtain rfl := Option.some.inj (hat.symm.trans hat')
  exact hlisted

theorem setCall (h : proxy.Sound ulid) (hat : proxy.calls[c]? = some call)
    (hopen : call.phase.isOver = false)
    (hcall : CallSound ulid proxy.messages proxy.consumed c call')
    (hlisted : proxy.pendingReplies.lookup (ulid c) = some c → Listed proxy.removals (ulid c) call') :
    (proxy.setCall c call').Sound ulid where
  calls := by
    intro c' other hat'
    rcases at_of_set hat' with ⟨rfl, rfl⟩ | ⟨-, hbefore⟩
    · exact hcall
    · exact h.calls c' other hbefore
  pending := by
    intro requestId c' hlookup
    obtain ⟨rfl, other, hother, hlisted'⟩ := h.pending requestId c' hlookup
    by_cases hc : c' = c
    · subst hc
      exact ⟨rfl, call', at_set_self hat _, hlisted hlookup⟩
    · exact ⟨rfl, other, at_set_of_ne hother hc _, hlisted'⟩
  consumed := by
    intro m c' hmem
    obtain ⟨other, reply, hother, hover, hchannel⟩ := h.consumed m c' hmem
    have hc : c' ≠ c := by
      rintro rfl
      exact h.not_consumed hat hopen m hmem
    exact ⟨other, reply, at_set_of_ne hother hc _, hover, hchannel⟩
  messagesOnce := h.messagesOnce
  callsOnce := h.callsOnce
  capped := h.capped

/-- Taking an entry out of the table. -/
theorem erase (h : proxy.Sound ulid) (requestId : String) :
    { proxy with pendingReplies := proxy.pendingReplies.erase requestId }.Sound ulid where
  calls := h.calls
  pending := by
    intro other c hlookup
    by_cases hother : other = requestId
    · rw [hother, AList.lookup_erase] at hlookup
      cases hlookup
    · rw [AList.lookup_erase_ne hother] at hlookup
      exact h.pending other c hlookup
  consumed := h.consumed
  messagesOnce := h.messagesOnce
  callsOnce := h.callsOnce
  capped := by
    have hkeys : (proxy.pendingReplies.erase requestId).keys.length ≤
        proxy.pendingReplies.keys.length := by
      rw [AList.keys_erase]
      exact List.length_erase_le
    exact hkeys.trans h.capped

theorem dropGuard (h : proxy.Sound ulid) (requestId : String) (contended : Bool) :
    (proxy.dropGuard requestId contended).Sound ulid := by
  cases contended with
  | false => exact h.erase requestId
  | true =>
    exact { h with
      pending := by
        intro other c hlookup
        obtain ⟨hid, call, hat, hlisted⟩ := h.pending other c hlookup
        exact ⟨hid, call, hat, hlisted.empty, hlisted.entered,
          fun hover ↦ List.mem_append_left _ (hlisted.removed hover)⟩ }

theorem removed_dropGuard (contended : Bool)
    (hlookup : (proxy.dropGuard requestId contended).pendingReplies.lookup requestId = some c) :
    requestId ∈ (proxy.dropGuard requestId contended).removals := by
  cases contended with
  | false =>
    have hnone := AList.lookup_erase requestId proxy.pendingReplies
    exact absurd (hnone.symm.trans hlookup) (Option.some_ne_none c).symm
  | true => exact List.mem_concat_self

/-- A call that ends early drops its guard. -/
theorem giveUp (h : proxy.Sound ulid) (hat : proxy.calls[c]? = some call)
    (hopen : call.phase.isOver = false) (contended : Bool) {outcome : InterceptOutcome}
    (houtcome : outcome = .cancelled ∨ outcome = .completed .pass call.payload) :
    ((proxy.dropGuard (ulid c) contended).finish c call outcome).Sound ulid := by
  have hdropped := h.dropGuard (ulid c) contended
  have hat' : (proxy.dropGuard (ulid c) contended).calls[c]? = some call := by
    cases contended <;> exact hat
  refine hdropped.setCall hat' hopen ((hdropped.calls c call hat').finish houtcome) fun hlookup ↦ ?_
  have hlisted := hdropped.listed hat' hlookup
  exact ⟨hlisted.empty, fun hphase ↦ ProxyPhase.noConfusion hphase,
    fun _ ↦ removed_dropGuard contended hlookup⟩

theorem enter (h : proxy.Sound ulid) (hat : proxy.calls[c]? = some call)
    (hphase : call.phase = .entering)
    (hroom : proxy.pendingReplies.keys.length < maxPendingIntercepts) :
    ({ proxy with pendingReplies := proxy.pendingReplies.insert (ulid c) c }.setCall c
      { call with phase := .sending }).Sound ulid := by
  have hopen : call.phase.isOver = false := by rw [hphase]; rfl
  have hcall := h.calls c call hat
  have hcall := h.calls c call hat
  have hset : (proxy.setCall c { call with phase := .sending }).Sound ulid := by
    refine h.setCall hat hopen ⟨fun hsending ↦ ProxyPhase.noConfusion hsending, hcall.replied,
      hcall.cancelled, fun outcome hover ↦ ProxyPhase.noConfusion hover⟩ fun hlookup ↦ ?_
    exact absurd hphase (h.listed hat hlookup).entered
  exact { hset with
    pending := by
      intro requestId c' hlookup
      by_cases hid : requestId = ulid c
      · subst hid
        obtain rfl := Option.some.inj ((AList.lookup_insert _).symm.trans hlookup)
        exact ⟨rfl, _, at_set_self hat _, hcall.entering hphase,
          fun hsending ↦ ProxyPhase.noConfusion hsending,
          fun hover ↦ absurd hover Bool.false_ne_true⟩
      · exact hset.pending requestId c' ((AList.lookup_insert_ne hid).symm.trans hlookup)
    capped := by
      change (proxy.pendingReplies.insert (ulid c) c).keys.length ≤ maxPendingIntercepts
      rw [AList.keys_insert, List.length_cons]
      have herase : (proxy.pendingReplies.keys.erase (ulid c)).length ≤
          proxy.pendingReplies.keys.length := List.length_erase_le
      omega }

variable {reply : WsInterceptReply}

section

variable (h : proxy.Sound ulid)
include h

/-- What is in a channel was not read by another call: the result has the request id of the call. -/
theorem not_read (hulid : proxy.Fresh ulid) (hat : proxy.calls[c]? = some call)
    (hopen : call.phase.isOver = false) (hchannel : call.channel = .sent reply (some m)) (c' : ℕ) :
    (m, c') ∉ proxy.consumed := by
  intro hmem
  obtain ⟨other, reply', hother, -, hchannel'⟩ := h.consumed m c' hmem
  have hmessage := (h.calls c call hat).replied reply m hchannel
  have hmessage' := (h.calls c' other hother).replied reply' m hchannel'
  have hid : ulid c = ulid c' :=
    congrArg Prod.fst (Option.some.inj (hmessage.symm.trans hmessage'))
  exact h.not_consumed hat hopen m (hulid.eq_of_id hat hother hid ▸ hmem)

theorem read (hulid : proxy.Fresh ulid) (hat : proxy.calls[c]? = some call)
    (hopen : call.phase.isOver = false) (hchannel : call.channel = .sent reply (some m)) :
    { proxy.finish c call (reply.action.outcome call.payload) with
      consumed := proxy.consumed ++ [(m, c)] }.Sound ulid := by
  have hcall := h.calls c call hat
  refine ⟨?_, ?_, ?_, ?_, ?_, h.capped⟩
  · intro c' other hat'
    rcases at_of_set hat' with ⟨rfl, rfl⟩ | ⟨-, hbefore⟩
    · refine ⟨fun hphase ↦ ProxyPhase.noConfusion hphase, hcall.replied, hcall.cancelled, ?_⟩
      rintro _ ⟨⟩
      exact .inr (.inr ⟨reply, m, hchannel, List.mem_concat_self, rfl⟩)
    · have hmore := (h.calls c' other hbefore).extend [] [(m, c)]
      rw [List.append_nil] at hmore
      exact hmore
  · intro requestId c' hlookup
    obtain ⟨hid, other, hother, hlisted⟩ := h.pending requestId c' hlookup
    have hc : c' ≠ c := by
      rintro rfl
      obtain rfl := Option.some.inj (hat.symm.trans hother)
      exact ReplyChannel.noConfusion (hlisted.empty.symm.trans hchannel)
    exact ⟨hid, other, at_set_of_ne hother hc _, hlisted⟩
  · intro m' c' hmem
    rcases List.mem_append.mp hmem with hbefore | hnew
    · obtain ⟨other, reply', hother, hover, hchannel'⟩ := h.consumed m' c' hbefore
      have hc : c' ≠ c := by
        rintro rfl
        exact h.not_consumed hat hopen m' hbefore
      exact ⟨other, reply', at_set_of_ne hother hc _, hover, hchannel'⟩
    · obtain ⟨rfl, rfl⟩ := Prod.mk.inj (List.mem_singleton.mp hnew)
      exact ⟨_, reply, at_set_self hat _, rfl, hchannel⟩
  · rw [List.map_append, List.map_singleton, ← List.concat_eq_append]
    refine h.messagesOnce.concat fun hmem ↦ ?_
    obtain ⟨⟨m', c'⟩, hbefore, rfl⟩ := List.mem_map.mp hmem
    exact h.not_read hulid hat hopen hchannel c' hbefore
  · rw [List.map_append, List.map_singleton, ← List.concat_eq_append]
    refine h.callsOnce.concat fun hmem ↦ ?_
    obtain ⟨⟨m', c'⟩, hbefore, rfl⟩ := List.mem_map.mp hmem
    exact h.not_consumed hat hopen m' hbefore

/-- A call reads its cancellation and passes. -/
theorem readCancelled (hat : proxy.calls[c]? = some call) (hopen : call.phase.isOver = false)
    (hchannel : call.channel = .sent reply none) :
    (proxy.finish c call (reply.action.outcome call.payload)).Sound ulid := by
  have hcall := h.calls c call hat
  have hpass : reply.action.outcome call.payload = .completed .pass call.payload := by
    rw [hcall.cancelled reply hchannel]
    rfl
  refine h.setCall hat hopen (hcall.finish (.inr hpass)) fun hlookup ↦ ?_
  exact ReplyChannel.noConfusion ((h.listed hat hlookup).empty.symm.trans hchannel)

theorem callStep (hulid : proxy.Fresh ulid) (hat : proxy.calls[c]? = some call) {move : ProxyMove}
    (hstep : proxy.callStep (ulid c) c call move = some next) : next.Sound ulid := by
  have hcall := h.calls c call hat
  cases move with
  | enter =>
    simp only [WsRemoteInterceptor.callStep] at hstep
    split_ifs at hstep with hphase hroom
    · cases hstep
      refine h.setCall hat (by rw [hphase]; rfl) (hcall.finish (.inr rfl)) fun hlookup ↦ ?_
      exact absurd hphase (h.listed hat hlookup).entered
    · cases hstep
      exact h.enter hat hphase (not_le.mp hroom)
  | send accepted contended =>
    simp only [WsRemoteInterceptor.callStep] at hstep
    split_ifs at hstep with hphase haccepted
    · cases hstep
      refine h.setCall hat (by rw [hphase]; rfl) ⟨fun hentering ↦ ProxyPhase.noConfusion hentering,
        hcall.replied, hcall.cancelled, fun outcome hover ↦ ProxyPhase.noConfusion hover⟩
        fun hlookup ↦ ?_
      have hlisted := h.listed hat hlookup
      exact ⟨hlisted.empty, fun hentering ↦ ProxyPhase.noConfusion hentering,
        fun hover ↦ absurd hover Bool.false_ne_true⟩
    · cases hstep
      exact h.giveUp hat (by rw [hphase]; rfl) contended (.inr rfl)
  | resume contended =>
    simp only [WsRemoteInterceptor.callStep] at hstep
    split_ifs at hstep with hphase
    have hopen : call.phase.isOver = false := by rw [hphase]; rfl
    cases hchannel : call.channel with
    | empty => rw [hchannel] at hstep; cases hstep
    | sent reply message =>
      rw [hchannel] at hstep
      cases hstep
      cases message with
      | none =>
        rw [Option.toList_none, List.map_nil, List.append_nil]
        exact h.readCancelled hat hopen hchannel
      | some m => exact h.read hulid hat hopen hchannel
    | closed =>
      rw [hchannel] at hstep
      cases hstep
      exact h.giveUp hat hopen contended (.inr rfl)
  | timeout contended =>
    simp only [WsRemoteInterceptor.callStep] at hstep
    split_ifs at hstep with hphase
    cases hstep
    exact h.giveUp hat (by rw [hphase]; rfl) contended (.inr rfl)
  | abort contended =>
    simp only [WsRemoteInterceptor.callStep] at hstep
    cases hphase : call.phase with
    | entering =>
      rw [hphase] at hstep
      cases hstep
      refine h.setCall hat (by rw [hphase]; rfl) (hcall.finish (.inl rfl)) fun hlookup ↦ ?_
      exact absurd hphase (h.listed hat hlookup).entered
    | sending | waiting =>
      rw [hphase] at hstep
      cases hstep
      exact h.giveUp hat (by rw [hphase]; rfl) contended (.inl rfl)
    | ended outcome => rw [hphase] at hstep; cases hstep

theorem intercept (payload : Payload) :
    { proxy with
      calls := proxy.calls ++ [(⟨payload, .entering, .empty⟩ : ProxyCall)] }.Sound ulid where
  calls := by
    intro c call hat
    rcases at_of_concat hat with hbefore | ⟨-, rfl⟩
    · exact h.calls c call hbefore
    · exact {
        entering := fun _ ↦ rfl
        replied := fun _ _ hchannel ↦ ReplyChannel.noConfusion hchannel
        cancelled := fun _ hchannel ↦ ReplyChannel.noConfusion hchannel
        decided := fun _ hphase ↦ ProxyPhase.noConfusion hphase }
  pending := by
    intro requestId c hlookup
    obtain ⟨hid, call, hat, hlisted⟩ := h.pending requestId c hlookup
    exact ⟨hid, call, at_concat hat _, hlisted⟩
  consumed := by
    intro m c hmem
    obtain ⟨call, reply, hat, hread⟩ := h.consumed m c hmem
    exact ⟨call, reply, at_concat hat _, hread⟩
  messagesOnce := h.messagesOnce
  callsOnce := h.callsOnce
  capped := h.capped

theorem receive (requestId : String) (action : WsInterceptAction) :
    { proxy with messages := proxy.messages ++ [(requestId, action)] }.Sound ulid :=
  { h with
    calls := by
      intro c call hat
      have hmore := (h.calls c call hat).extend [(requestId, action)] []
      rw [List.append_nil] at hmore
      exact hmore }

theorem interceptResult (requestId : String) (action : WsInterceptAction) :
    (proxy.interceptResult requestId action).Sound ulid := by
  have hreceived := h.receive requestId action
  unfold WsRemoteInterceptor.interceptResult
  cases hlookup : proxy.pendingReplies.lookup requestId with
  | none => exact hreceived
  | some c =>
    obtain ⟨rfl, call, hat, hlisted⟩ := h.pending requestId c hlookup
    have herased := hreceived.erase (ulid c)
    dsimp only
    rw [modify_eq_set hat]
    cases hover : call.phase.isOver with
    | true =>
      obtain ⟨hc, rfl⟩ := List.getElem?_eq_some_iff.mp hat
      rw [ProxyCall.signal, if_pos hover, List.set_getElem_self]
      exact herased
    | false =>
      have hcall : CallSound ulid _ _ c (call.signal ⟨action, none⟩ (some proxy.messages.length)) :=
        (herased.calls c call hat).signal hlisted.entered
          (by rintro _ ⟨⟩; exact List.getElem?_concat_length) (fun hnone ↦ by cases hnone)
      refine herased.setCall hat hover hcall fun hlookup' ↦ ?_
      exact absurd ((AList.lookup_erase _ _).symm.trans hlookup') (Option.some_ne_none c).symm

theorem cancelAll (reason : String) : (proxy.cancelAll reason).Sound ulid := by
  have hsignal (call : ProxyCall) :
      (call.signal ⟨.pass, some reason⟩ none).signal ⟨.pass, some reason⟩ none =
        call.signal ⟨.pass, some reason⟩ none := by
    unfold ProxyCall.signal
    split_ifs <;> rfl
  have hcalls (c : ℕ) : (proxy.cancelAll reason).calls[c]? =
      if c ∈ proxy.pendingReplies.entries.map Sigma.snd then
        proxy.calls[c]?.map (ProxyCall.signal ⟨.pass, some reason⟩ none)
      else proxy.calls[c]? := by
    rw [← getElem?_foldl_modify hsignal, List.foldl_map]
    rfl
  refine ⟨?_, ?_, ?_, h.messagesOnce, h.callsOnce, Nat.zero_le _⟩
  · intro c call hat
    rw [hcalls] at hat
    split_ifs at hat with hpending
    · obtain ⟨before, hbefore, rfl⟩ := Option.map_eq_some_iff.mp hat
      obtain ⟨⟨requestId, _⟩, hentry, rfl⟩ := List.mem_map.mp hpending
      have hlisted := h.listed hbefore (AList.mem_lookup_iff.mpr hentry)
      exact (h.calls _ before hbefore).signal hlisted.entered
        (fun m hnone ↦ by cases hnone) fun _ ↦ rfl
    · exact h.calls c call hat
  · intro requestId c hlookup
    exact absurd hlookup (by simp [WsRemoteInterceptor.cancelAll])
  · intro m c hmem
    obtain ⟨call, reply, hat, hover, hchannel⟩ := h.consumed m c hmem
    refine ⟨call, reply, ?_, hover, hchannel⟩
    rw [hcalls, hat]
    split_ifs
    · rw [Option.map_some, ProxyCall.signal, if_pos hover]
    · rfl

theorem remove (requestId : String) :
    { proxy with
      pendingReplies := proxy.pendingReplies.erase requestId
      removals := proxy.removals.erase requestId }.Sound ulid :=
  { h.erase requestId with
    pending := by
      intro other c hlookup
      have hother : other ≠ requestId := by
        rintro rfl
        exact Option.some_ne_none c (hlookup.symm.trans (AList.lookup_erase _ _))
      rw [AList.lookup_erase_ne hother] at hlookup
      obtain ⟨hid, call, hat, hlisted⟩ := h.pending other c hlookup
      exact ⟨hid, call, hat, hlisted.empty, hlisted.entered,
        fun hover ↦ (List.mem_erase_of_ne hother).mpr (hlisted.removed hover)⟩ }

end

end Sound

theorem length_callStep {move : ProxyMove}
    (hstep : proxy.callStep requestId c call move = some next) :
    next.calls.length = proxy.calls.length := by
  cases move with
  | enter | send | resume | timeout | abort =>
    grind [callStep, length_setCall, length_finish, calls_dropGuard]

variable {base64 : Base64} {label : ProxyLabel}

/-- Calls are only added. -/
theorem length_calls_le (hstep : step base64 ulid proxy label = some next) :
    proxy.calls.length ≤ next.calls.length := by
  cases label with
  | intercept payload =>
    cases hstep
    rw [List.length_append]
    exact Nat.le_add_right _ _
  | ofCall c move =>
    obtain ⟨call, -, hstep⟩ := Option.bind_eq_some_iff.mp hstep
    exact (length_callStep hstep).ge
  | interceptResult requestId action =>
    simp only [WsRemoteInterceptor.step, interceptResult] at hstep
    split at hstep
    · cases hstep
      split
      · rw [List.length_modify]
      · exact le_rfl
    · exact (Option.some.inj hstep) ▸ le_rfl
  | cancelAll reason =>
    cases hstep
    exact (length_foldl_modify _ _).ge
  | remove requestId =>
    simp only [WsRemoteInterceptor.step] at hstep
    split_ifs at hstep
    exact (Option.some.inj hstep) ▸ le_rfl

theorem Sound.step (h : proxy.Sound ulid) (hulid : proxy.Fresh ulid)
    (hstep : step base64 ulid proxy label = some next) : next.Sound ulid := by
  cases label with
  | intercept payload =>
    cases hstep
    exact h.intercept payload
  | ofCall c move =>
    obtain ⟨call, hat, hstep⟩ := Option.bind_eq_some_iff.mp hstep
    exact h.callStep hulid hat hstep
  | interceptResult requestId action =>
    simp only [WsRemoteInterceptor.step] at hstep
    cases hdecode : action.decode base64 with
    | none =>
      rw [hdecode] at hstep
      cases hstep
      exact h
    | some action =>
      rw [hdecode] at hstep
      cases hstep
      exact h.interceptResult requestId action
  | cancelAll reason =>
    cases hstep
    exact h.cancelAll reason
  | remove requestId =>
    simp only [WsRemoteInterceptor.step] at hstep
    split_ifs at hstep with hmem
    cases hstep
    exact h.remove requestId

theorem sound_of_reach
    (hreach : Steps.Reach (WsRemoteInterceptor.step base64 ulid) (fun _ _ ↦ True) init proxy)
    (hulid : proxy.Fresh ulid) : proxy.Sound ulid := by
  induction hreach with
  | init => exact sound_init ulid
  | next _ _ hstep ih =>
    have hbefore := hulid.before (length_calls_le hstep)
    exact (ih hbefore).step hbefore hstep

/-- A call that returned, returned pass or the decision of a result with its request id, which was read
by it.  No result is read twice, and no call reads two; the table stays within its cap; and a call that
is over is not in the table once the removals of guards have been carried out. -/
theorem calls_isolated {base64 : Base64}
    (hreach : Steps.Reach (step base64 ulid) (fun _ _ ↦ True) init proxy) (hulid : proxy.Fresh ulid) :
    (∀ c call outcome, proxy.calls[c]? = some call → call.phase = .ended outcome →
      outcome = .cancelled ∨ outcome = .completed .pass call.payload ∨
        ∃ m action, proxy.messages[m]? = some (ulid c, action) ∧ (m, c) ∈ proxy.consumed ∧
          outcome = action.outcome call.payload) ∧
      (∀ m c, (m, c) ∈ proxy.consumed →
        ∃ action, proxy.messages[m]? = some (ulid c, action)) ∧
      (proxy.consumed.map Prod.fst).Nodup ∧ (proxy.consumed.map Prod.snd).Nodup ∧
      proxy.pendingReplies.keys.length ≤ maxPendingIntercepts ∧
      ∀ c call, proxy.calls[c]? = some call → call.phase.isOver → ulid c ∉ proxy.removals →
        ulid c ∉ proxy.pendingReplies := by
  have h : proxy.Sound ulid := sound_of_reach hreach hulid
  refine ⟨?_, ?_, h.messagesOnce, h.callsOnce, h.capped, ?_⟩
  · intro c call outcome hat hover
    refine ((h.calls c call hat).decided outcome hover).imp_right (Or.imp_right ?_)
    rintro ⟨reply, m, hchannel, hmem, houtcome⟩
    exact ⟨m, reply.action, (h.calls c call hat).replied reply m hchannel, hmem, houtcome⟩
  · intro m c hmem
    obtain ⟨call, reply, hat, -, hchannel⟩ := h.consumed m c hmem
    exact ⟨reply.action, (h.calls c call hat).replied reply m hchannel⟩
  · intro c call hat hover hremoved hmem
    obtain ⟨c', hlookup⟩ := Option.isSome_iff_exists.mp (AList.lookup_isSome.mpr hmem)
    obtain ⟨hid, call', hat', -⟩ := h.pending (ulid c) c' hlookup
    obtain rfl := hulid.eq_of_id hat hat' hid
    exact hremoved ((h.listed hat hlookup).removed hover)

/-- Two calls in flight: the second is answered by drop, the first times out while somebody holds the
lock and is answered too late. -/
def lateResult : List ProxyLabel :=
  [.intercept [1], .intercept [2], .ofCall 0 .enter, .ofCall 1 .enter, .ofCall 0 (.send true false),
    .ofCall 1 (.send true false), .interceptResult "r1" .drop, .interceptResult "r2" .pass,
    .ofCall 0 (.timeout true), .interceptResult "r0" .drop, .ofCall 1 (.resume false), .remove "r0"]

def numberedId (c : ℕ) : String := "r" ++ toString c

theorem calls_isolated_lateResult :
    ∃ proxy, Steps.execute (step nineBase64 numberedId) init lateResult = some proxy ∧
      proxy.calls.map ProxyCall.phase =
        [.ended (.completed .pass [1]), .ended (.completed .drop [2])] ∧
      proxy.consumed = [(0, 1)] ∧ "r0" ∉ proxy.pendingReplies := by
  have hexecute : ∃ proxy, Steps.execute (step nineBase64 numberedId) init lateResult = some proxy ∧
      proxy.calls = [⟨[1], .ended (.completed .pass [1]), .empty⟩,
        ⟨[2], .ended (.completed .drop [2]), .sent ⟨.drop, none⟩ (some 0)⟩] ∧
      proxy.consumed = [(0, 1)] ∧ proxy.removals = [] := ⟨_, rfl, rfl, rfl, rfl⟩
  obtain ⟨proxy, hexecute, hcalls, hconsumed, hremovals⟩ := hexecute
  have hguarded : Steps.Guarded (step nineBase64 numberedId) (fun _ _ ↦ True) init lateResult :=
    Steps.guarded_of_forall (fun _ _ ↦ trivial) _ _
  have hreach := Steps.reach_of_execute hguarded hexecute
  have hulid : proxy.Fresh numberedId := by
    rw [Fresh, hcalls]
    decide
  obtain ⟨-, -, -, -, -, hremoved⟩ := calls_isolated hreach hulid
  refine ⟨proxy, hexecute, by rw [hcalls]; rfl, hconsumed, ?_⟩
  exact hremoved 0 ⟨[1], .ended (.completed .pass [1]), .empty⟩ (by rw [hcalls]; rfl) rfl
    (by rw [hremovals]; exact List.not_mem_nil)

end WsRemoteInterceptor

end Seidrum.EventBus
