import Seidrum.EventBus.RequestReply.Reserved
import Seidrum.EventBus.Transport.ConnectionLoop

/-!
# A connection that waits for itself

A connection that waits for its publish or for its request neither reads nor sends.  When the
dispatch comes to an interceptor of the same connection, its proxy is called all the same.  The frame
of the call stays on the queue until the call has ended, so a timer ends it, and what the client
decides is not applied.  When the request comes to a subscription of the same connection, the client
is sent it after the request is over.
-/

namespace Seidrum.EventBus

open Seidrum.Foundation

/-! ## What other parties leave alone -/

/-- A dispatch is moved by its own steps only. -/
theorem System.dispatch_kept {config : Config} {system next : System} {label : Label} {i : ℕ}
    {d : Dispatch} (h : System.step config system label = some next)
    (hat : system.dispatches[i]? = some d) (hturn : ∀ input, label ≠ .dispatch i input) :
    next.dispatches[i]? = some d := by
  cases System.change_of_step h with
  | quiet quiet => rw [quiet.dispatches, hat]
  | publish | publishReply => exact at_concat hat _
  | @dispatch j input other at_j running =>
    have hne : j ≠ i := fun heq ↦ hturn input (heq ▸ rfl)
    exact (List.getElem?_set_ne hne).trans hat
  | _ => exact hat

namespace Exchange

variable {config : Config} {state next : Exchange} {label : ExchangeLabel}

/-- A request in the middle of its publish waits for a dispatch that it started. -/
structure Publishing (state : Exchange) : Prop where
  length : state.publishers.length = state.core.dispatches.length
  publisher : ∀ (q : ℕ) (request : Request) (i : ℕ), state.requests[q]? = some request →
    request.stage = .publishing i → state.publishers[i]? = some (.request q)

theorem publishing_build (store : InMemoryEventStore) (clock : ℕ) :
    (build store clock).Publishing :=
  ⟨rfl, fun _ _ _ hat ↦ by simp [build] at hat⟩

variable {i : ℕ} {publisher : Publisher} {r : ℕ} {request : Request} {move : RequestMove} {after : Exchange}

theorem Change.publisher_kept (h : Change config state label next)
    (hat : state.publishers[i]? = some publisher) : next.publishers[i]? = some publisher := by
  cases h.dispatching with
  | keeps follows length publishers => rw [publishers, hat]
  | starts started dispatches publishers =>
    rw [publishers]
    exact at_concat hat _

theorem RequestChange.publishing (h : RequestChange state r request move (.publishing i) after) :
    i = state.core.dispatches.length ∧ after.publishers = state.publishers ++ [.request r] := by
  cases h with
  | publish => exact ⟨rfl, rfl⟩

theorem Publishing.step (h : state.Publishing) (hchange : Change config state label next) :
    next.Publishing where
  length := by
    cases hchange.dispatching with
    | keeps follows length publishers => rw [publishers, length, h.length]
    | starts started dispatches publishers =>
      rw [publishers, dispatches, List.length_append, List.length_append, h.length]
      rfl
  publisher q request i hat hstage := by
    cases hchange.requestAfter hat with
    | kept before => exact hchange.publisher_kept (h.publisher q request i before hstage)
    | moved label_eq before change next_eq =>
      subst hstage
      obtain ⟨rfl, hpublishers⟩ := change.publishing
      rw [next_eq]
      rw [setStage, hpublishers, ← h.length, List.getElem?_concat_length]
    | new => simp at hstage

theorem Change.dispatch_kept (h : Change config state label next) {d : Dispatch}
    (hat : state.core.dispatches[i]? = some d) (hturn : ∀ input, label ≠ .core (.dispatch i input))
    (hdrop : ∀ q request, label = .ofRequest q .drop → state.requests[q]? = some request →
      request.stage ≠ .publishing i) : next.core.dispatches[i]? = some d := by
  cases h with
  | core allowed stepped =>
    exact System.dispatch_kept stepped hat fun input heq ↦ hturn input (congrArg _ heq)
  | publish | replay => exact at_concat hat _
  | @ofRequest q request move stage after at_q change =>
    change after.core.dispatches[i]? = some d
    cases change with
    | publish => exact at_concat hat _
    | drop suspended =>
      change (state.dropDispatch request.stage).core.dispatches[i]? = some d
      unfold dropDispatch
      split
      · rename_i j hstage
        have hne : j ≠ i := fun heq ↦ hdrop q request rfl at_q (heq ▸ hstage)
        exact (List.getElem?_modify_ne _ _ hne).trans hat
      · exact hat
    | _ => exact hat
  | ofServer at_j change => rw [change.dispatches, hat]
  | reply => exact at_concat hat _
  | _ => exact hat

/-- A request is moved by its own steps only. -/
theorem Change.request_unmoved (h : Change config state label next) (hat : state.requests[r]? = some request)
    (hlabel : ∀ move, label ≠ .ofRequest r move) : next.requests[r]? = some request := by
  cases h with
  | request => exact at_concat hat _
  | @ofRequest q before move stage after at_q change =>
    have hne : q ≠ r := fun heq ↦ hlabel move (heq ▸ rfl)
    change (after.requests.modify q _)[r]? = some request
    rw [change.requests]
    exact (List.getElem?_modify_ne _ _ hne).trans hat
  | ofServer at_j change => rw [change.requests, hat]
  | _ => exact hat

/-- A request goes on from its publish when the dispatch has returned. -/
theorem publishing_kept (h : step config state label = some next) (hat : state.requests[r]? = some request)
    (hstage : request.stage = .publishing i)
    (hrunning : ∀ d ∈ state.core.dispatches[i]?, d.stage.isReturned = false)
    (hdrop : label ≠ .ofRequest r .drop) : next.requests[r]? = some request := by
  by_cases hlabel : ∃ move, label = .ofRequest r move
  · obtain ⟨move, rfl⟩ := hlabel
    obtain ⟨other, hother, hstep⟩ := Option.bind_eq_some_iff.mp h
    obtain rfl := Option.some.inj (hat.symm.trans hother)
    rw [hstage] at hstep
    cases move with
    | published =>
      simp only [requestStep] at hstep
      split_ifs at hstep with hreturned
      obtain ⟨d, hd, hd'⟩ := (Option.any_eq_true _ _).mp hreturned
      simp [hrunning d hd] at hd'
    | drop => exact absurd rfl hdrop
    | _ => simp [requestStep] at hstep
  · exact (change_of_step h).request_unmoved hat fun move heq ↦ hlabel ⟨move, heq⟩

theorem RequestChange.not_over {stage : RequestStage} (h : RequestChange state r request move stage after) :
    request.stage.isOver = false := by
  cases h with
  | drop suspended =>
    cases hstage : request.stage with
    | returned | dropped => simp [hstage, RequestStage.isSuspended] at suspended
    | _ => rfl
  | publish stage | refused stage | published stage | receive stage | giveUp stage | dropReceiver stage
  | cleanUp stage => rw [stage]; rfl

/-- A request that is over stays as it is. -/
theorem Change.over_kept (h : Change config state label next) (hat : state.requests[r]? = some request)
    (hover : request.stage.isOver = true) : next.requests[r]? = some request := by
  by_cases hlabel : ∃ move, label = .ofRequest r move
  · obtain ⟨move, rfl⟩ := hlabel
    cases h with
    | refused => exact hat
    | ofRequest at_r change =>
      obtain rfl := Option.some.inj (hat.symm.trans at_r)
      simp [change.not_over] at hover
  · exact h.request_unmoved hat fun move heq ↦ hlabel ⟨move, heq⟩

variable {guard : Exchange → ExchangeLabel → Prop}

theorem publisher_of_reach (h : Steps.Reach (step config) guard state next)
    (hat : state.publishers[i]? = some publisher) : next.publishers[i]? = some publisher :=
  h.invariant hat fun _ _ _ hinv _ hstep ↦ (change_of_step hstep).publisher_kept hinv

theorem asked_of_reach (h : Steps.Reach (step config) guard state next) {subject : String}
    {replySubject : Option String} (hasked : state.Asked subject replySubject) :
    next.Asked subject replySubject :=
  h.invariant hasked fun _ _ _ hinv _ hstep ↦ (change_of_step hstep).asked hinv

/-- Requests stay, keep their reply subjects, and once over stay over. -/
theorem request_of_reach (h : Steps.Reach (step config) guard state next)
    (hat : state.requests[r]? = some request) :
    ∃ after, next.requests[r]? = some after ∧ after.replySubject = request.replySubject ∧
      (request.stage.isOver = true → after.stage.isOver = true) := by
  induction h with
  | init => exact ⟨request, hat, rfl, id⟩
  | next _ _ hstep ih =>
    obtain ⟨before, hbefore, hreply, hover⟩ := ih
    have hchange := change_of_step hstep
    by_cases hbeforeOver : before.stage.isOver = true
    · exact ⟨before, hchange.over_kept hbefore hbeforeOver, hreply, hover⟩
    · obtain ⟨stage, hkept⟩ := hchange.request_kept hbefore
      exact ⟨_, hkept, hreply, fun hrequest ↦ absurd (hover hrequest) hbeforeOver⟩

end Exchange

namespace ConnectionLoop

variable {config : Config} {base64 : Base64} {loop next : ConnectionLoop}

theorem Change.exchange (h : Change config base64 loop next) :
    Steps.Reach (Exchange.step config) (fun _ _ ↦ True) loop.exchange next.exchange := by
  cases h with
  | operate idle operates => exact operates.exchange
  | take queue stepped | bus allowed stepped => exact .next .init trivial stepped
  | ended at_c open_call ends stepped =>
    obtain rfl | hstep := stepped
    · exact .init
    · exact .next .init trivial hstep
  | _ => exact .init

/-- What a step does to what the loop waits for. -/
inductive Awaiting (config : Config) (loop next : ConnectionLoop) : Prop
  | same (awaited : next.awaited = loop.awaited) (requests : next.requests = loop.requests)
      (read : next.read = loop.read) (sent : next.sent = loop.sent)
  | ended (awaited : next.awaited = none) (requests : next.requests = loop.requests)
  | operates (idle : loop.awaited = none) (operates : Operates config loop next)

theorem Change.awaiting (h : Change config base64 loop next) : Awaiting config loop next := by
  cases h with
  | operate idle operates => exact .operates idle operates
  | resume => exact .ended rfl rfl
  | send idle => exact .ended idle rfl
  | _ => exact .same rfl rfl rfl rfl

/-- What is known of the bus, and of the operation that waits for it. -/
structure Serving (loop : ConnectionLoop) : Prop where
  publishing : loop.exchange.Publishing
  traced : loop.exchange.Traced
  answers : ∀ awaited ∈ loop.awaited, awaited.call.Answers
  caller : ∀ awaited ∈ loop.awaited, ∀ i resume, awaited.call = .publish i resume →
    loop.exchange.publishers[i]? = some .caller
  made : ∀ awaited ∈ loop.awaited, ∀ r resume, awaited.call = .request r resume →
    r ∈ loop.requests
  /-- Since the call was made, nothing was read or sent. -/
  still : ∀ awaited ∈ loop.awaited,
    loop.read.length = awaited.read ∧ loop.sent.length = awaited.sent

theorem serving_of_idle (hpublishing : loop.exchange.Publishing) (htraced : loop.exchange.Traced)
    (hidle : loop.awaited = none) : Serving loop where
  publishing := hpublishing
  traced := htraced
  answers := by simp [hidle]
  caller := by simp [hidle]
  made := by simp [hidle]
  still := by simp [hidle]

theorem Serving.step (h : Serving loop) (hchange : Change config base64 loop next) :
    Serving next := by
  have hpublishing : next.exchange.Publishing := hchange.exchange.invariant h.publishing
    fun _ _ _ hinv _ hstep ↦ hinv.step (Exchange.change_of_step hstep)
  have htraced : next.exchange.Traced := hchange.exchange.invariant h.traced
    fun _ _ _ hinv _ hstep ↦ hinv.step (Exchange.change_of_step hstep)
  have hpublisher {i : ℕ} (hat : loop.exchange.publishers[i]? = some .caller) :
      next.exchange.publishers[i]? = some .caller :=
    Exchange.publisher_of_reach hchange.exchange hat
  cases hchange.awaiting with
  | same awaited requests read sent =>
    refine ⟨hpublishing, htraced, ?_, ?_, ?_, ?_⟩
    · rw [awaited]
      exact h.answers
    · rw [awaited]
      exact fun a ha i resume hcall ↦ hpublisher (h.caller a ha i resume hcall)
    · rw [awaited, requests]
      exact h.made
    · rw [awaited, read, sent]
      exact h.still
  | ended awaited requests => exact serving_of_idle hpublishing htraced awaited
  | operates idle operates =>
    cases operates.waits with
    | idle awaited requests => exact serving_of_idle hpublishing htraced awaited
    | publish awaited publishers requests answers =>
      refine ⟨hpublishing, htraced, ?_, ?_, ?_, ?_⟩
      all_goals
        rw [awaited]
        rintro _ ⟨rfl⟩
      · exact answers
      · rintro i resume ⟨rfl, rfl⟩
        rw [publishers, ← h.publishing.length, List.getElem?_concat_length]
      · exact nofun
      · exact ⟨rfl, rfl⟩
    | request awaited requests fresh made answers =>
      refine ⟨hpublishing, htraced, ?_, ?_, ?_, ?_⟩
      all_goals
        rw [awaited]
        rintro _ ⟨rfl⟩
      · exact answers
      · exact nofun
      · rintro r resume ⟨rfl, rfl⟩
        rw [requests]
        exact List.mem_cons_self
      · exact ⟨rfl, rfl⟩

/-! ## Calls that the loop keeps waiting -/

/-- The connection waits for the dispatch that makes a call, and the client was not sent its
frame. -/
structure Stuck (loop : ConnectionLoop) (call : InterceptCall) : Prop where
  reply : call.reply = none
  awaits : loop.awaitsDispatch call.dispatch = true
  at_proxy : (loop.proxyTurn call.dispatch).isSome
  unsent : ∀ subject payload, .intercept call.requestId subject payload ∉ loop.sent

theorem proxyTurn_isSome {i : ℕ} (h : (loop.proxyTurn i).isSome) :
    ∃ d, loop.exchange.core.dispatches[i]? = some d ∧ d.stage.isReturned = false := by
  obtain ⟨turn, hturn⟩ := Option.isSome_iff_exists.mp h
  obtain ⟨d, hat, hrest⟩ := Option.bind_eq_some_iff.mp hturn
  refine ⟨d, hat, ?_⟩
  cases hstage : d.stage with
  | returned => simp [hstage] at hrest
  | _ => rfl

variable {call : InterceptCall} {f : InterceptCall → InterceptCall} {c : ℕ} {message : ServerMessage}
  {subject : String}

theorem Stuck.awaited (h : Stuck loop call) : ∃ awaited ∈ loop.awaited,
    (∃ resume, awaited.call = .publish call.dispatch resume) ∨
      ∃ r resume request, awaited.call = .request r resume ∧
        loop.exchange.requests[r]? = some request ∧ request.stage = .publishing call.dispatch := by
  obtain ⟨⟨awaited, read, sent⟩, hawaited, hcall⟩ := (Option.any_eq_true _ _).mp h.awaits
  refine ⟨_, hawaited, ?_⟩
  cases awaited with
  | publish i resume =>
    obtain rfl := of_decide_eq_true hcall
    exact .inl ⟨resume, rfl⟩
  | request r resume =>
    obtain ⟨request, hrequest, hstage⟩ := (Option.any_eq_true _ _).mp hcall
    split at hstage
    · rename_i hpublishing
      obtain rfl := of_decide_eq_true hstage
      exact .inr ⟨r, resume, request, rfl, hrequest, hpublishing⟩
    · simp at hstage

theorem Stuck.not_idle (h : Stuck loop call) : loop.awaited ≠ none := by
  obtain ⟨awaited, hmem, _⟩ := h.awaited
  rw [Option.mem_def.mp hmem]
  exact nofun

/-- The operation waits for the dispatch, which waits for the call. -/
theorem Stuck.not_returned (h : Stuck loop call) {awaited : Awaited} {reaction : Reaction}
    (hawaited : loop.awaited = some awaited) : ¬ Returned loop.exchange awaited.call reaction := by
  intro hreturned
  obtain ⟨_, hmem, hcall⟩ := h.awaited
  obtain rfl := Option.some.inj (hawaited.symm.trans (Option.mem_def.mp hmem))
  obtain ⟨d, hat, hrunning⟩ := proxyTurn_isSome h.at_proxy
  obtain ⟨resume, heq⟩ | ⟨r, resume, request, heq, hrequest, hstage⟩ := hcall
  · rw [heq] at hreturned
    cases hreturned with
    | publish at_i returned =>
      obtain rfl := Option.some.inj (hat.symm.trans at_i)
      simp [hrunning] at returned
  · rw [heq] at hreturned
    cases hreturned with
    | request at_r stage =>
      obtain rfl := Option.some.inj (hrequest.symm.trans at_r)
      simp [hstage] at stage

/-- Only the call itself moves what it is waited for by. -/
theorem Stuck.bus (h : Stuck loop call) (hserving : Serving loop) {label : ExchangeLabel}
    {exchange : Exchange} (hstep : Exchange.step config loop.exchange label = some exchange)
    (hturn : ∀ input, label ≠ .core (.dispatch call.dispatch input))
    (hdrop : ∀ r, label = .ofRequest r .drop → r ∉ loop.requests) : Stuck { loop with exchange } call := by
  obtain ⟨d, hat, hrunning⟩ := proxyTurn_isSome h.at_proxy
  obtain ⟨awaited, hmem, hcall⟩ := h.awaited
  -- a request that drops this dispatch is not the one that is waited for
  have hspared : ∀ q request, label = .ofRequest q .drop →
      loop.exchange.requests[q]? = some request → request.stage ≠ .publishing call.dispatch := by
    intro q request hlabel hq hstage
    have hpublisher := hserving.publishing.publisher q request _ hq hstage
    obtain ⟨resume, heq⟩ | ⟨r, resume, other, heq, hr, hpublishing⟩ := hcall
    · rw [hserving.caller awaited hmem _ resume heq] at hpublisher
      simp at hpublisher
    · rw [hserving.publishing.publisher r other _ hr hpublishing] at hpublisher
      obtain rfl := Publisher.request.inj (Option.some.inj hpublisher)
      exact hdrop r hlabel (hserving.made awaited hmem r resume heq)
  have hkept := (Exchange.change_of_step hstep).dispatch_kept hat hturn hspared
  refine ⟨h.reply, ?_, ?_, h.unsent⟩
  · obtain ⟨resume, heq⟩ | ⟨r, resume, request, heq, hr, hpublishing⟩ := hcall
    · simp [awaitsDispatch, Option.mem_def.mp hmem, heq]
    · have hrequest := Exchange.publishing_kept hstep hr hpublishing
        (fun other hother ↦ by
          obtain rfl := Option.some.inj (hat.symm.trans (Option.mem_def.mp hother))
          exact hrunning)
        fun hlabel ↦ hdrop r hlabel (hserving.made awaited hmem r resume heq)
      simp [awaitsDispatch, Option.mem_def.mp hmem, heq, hrequest, hpublishing]
  · have hproxy := h.at_proxy
    simp only [proxyTurn, hat, Option.bind_some] at hproxy
    simp only [proxyTurn, hkept, Option.bind_some]
    exact hproxy

/-- Where a call of the state after a step comes from. -/
inductive CallAfter (loop : ConnectionLoop) (c : ℕ) : InterceptCall → Prop
  | kept {call : InterceptCall} (before : loop.calls[c]? = some call) : CallAfter loop c call
  | pushed {call : InterceptCall} (before : loop.calls[c]? = some call) :
      CallAfter loop c { call with pushed := true }
  | signalled {call : InterceptCall} {action : WsInterceptAction}
      (before : loop.calls[c]? = some call) (open_call : call.outcome = none) :
      CallAfter loop c { call with reply := some action }
  | ended {call : InterceptCall} {outcome : InterceptOutcome}
      (before : loop.calls[c]? = some call) (open_call : call.outcome = none)
      (ends : Ends call outcome) : CallAfter loop c { call with outcome := some outcome }
  | new {call : InterceptCall} (at_end : c = loop.calls.length)
      (fresh : ∀ other ∈ loop.calls, other.outcome = none → other.dispatch ≠ call.dispatch)
      (outcome : call.outcome = none) : CallAfter loop c call

theorem callAfter_of_map (hf : Signals f) (hat : (loop.calls.map f)[c]? = some call) :
    CallAfter loop c call := by
  rw [List.getElem?_map] at hat
  obtain ⟨before, hbefore, rfl⟩ := Option.map_eq_some_iff.mp hat
  obtain hkept | ⟨hopen, action, hsignal⟩ := hf before
  · rw [hkept]
    exact .kept hbefore
  · rw [hsignal]
    exact .signalled hbefore hopen

theorem Change.callAfter (h : Change config base64 loop next) (hat : next.calls[c]? = some call) :
    CallAfter loop c call := by
  cases h with
  | operate idle operates =>
    obtain ⟨f, hf, hsignals⟩ := operates.calls
    exact callAfter_of_map hsignals (hf ▸ hat)
  | @resume awaited reaction =>
    obtain ⟨f, hf, hsignals⟩ := route_eq reaction.signal loop.connection loop.calls
    exact callAfter_of_map hsignals (hf ▸ hat)
  | intercept at_proxy fresh own reply outcome =>
    obtain hbefore | ⟨hlast, rfl⟩ := at_of_concat hat
    · exact .kept hbefore
    · exact .new hlast (fun other hmem ↦ (fresh other hmem).2) outcome
  | push at_c =>
    obtain ⟨_, before, hbefore, rfl⟩ | ⟨_, hbefore⟩ := at_of_modify hat
    · exact .pushed hbefore
    · exact .kept hbefore
  | ended at_c open_call ends =>
    obtain ⟨rfl, before, hbefore, rfl⟩ | ⟨_, hbefore⟩ := at_of_modify hat
    · obtain rfl := Option.some.inj (hbefore.symm.trans at_c)
      exact .ended hbefore open_call ends
    · exact .kept hbefore
  | _ => exact .kept hat

/-- No two calls of one dispatch are open. -/
def Alone (loop : ConnectionLoop) : Prop :=
  ∀ (c c' : ℕ) (call call' : InterceptCall), loop.calls[c]? = some call →
    loop.calls[c']? = some call' → call.outcome = none → call'.outcome = none →
    call.dispatch = call'.dispatch → c = c'

/-- An open call was there before, open and made by the same dispatch, or is the only one of its
dispatch. -/
theorem CallAfter.open_before (h : CallAfter loop c call) (hopen : call.outcome = none) :
    (∃ before, loop.calls[c]? = some before ∧ before.outcome = none ∧
        before.dispatch = call.dispatch) ∨
      c = loop.calls.length ∧
        ∀ other ∈ loop.calls, other.outcome = none → other.dispatch ≠ call.dispatch := by
  cases h with
  | kept before | pushed before | signalled before => exact .inl ⟨_, before, hopen, rfl⟩
  | ended before => simp at hopen
  | new at_end fresh => exact .inr ⟨at_end, fresh⟩

theorem Alone.step (h : Alone loop) (hchange : Change config base64 loop next) : Alone next := by
  intro c c' call call' hat hat' hopen hopen' hdispatch
  obtain ⟨before, hbefore, hbeforeOpen, heq⟩ | ⟨hlast, hfresh⟩ :=
    (hchange.callAfter hat).open_before hopen
  · obtain ⟨before', hbefore', hbeforeOpen', heq'⟩ | ⟨_, hfresh'⟩ :=
      (hchange.callAfter hat').open_before hopen'
    · exact h c c' before before' hbefore hbefore' hbeforeOpen hbeforeOpen'
        (heq.trans (hdispatch.trans heq'.symm))
    · exact absurd (heq.trans hdispatch)
        (hfresh' before (List.mem_of_getElem? hbefore) hbeforeOpen)
  · obtain ⟨before', hbefore', hbeforeOpen', heq'⟩ | ⟨hlast', _⟩ :=
      (hchange.callAfter hat').open_before hopen'
    · exact absurd (heq'.trans hdispatch.symm)
        (hfresh before' (List.mem_of_getElem? hbefore') hbeforeOpen')
    · exact hlast.trans hlast'.symm

/-- What may be on the queue, or sent, after a step. -/
inductive Pushed (base64 : Base64) (loop : ConnectionLoop) : ServerMessage → Prop
  | before {message : ServerMessage} (mem : message ∈ loop.forward ++ loop.sent) :
      Pushed base64 loop message
  | event {id : String} {event : DispatchedEvent} (holds : (id, event) ∈ loop.held) :
      Pushed base64 loop
        (.event event.subject (base64.encode event.payload) event.replySubject id)
  | deliver {requestId channelType subject payload : String} :
      Pushed base64 loop (.deliver requestId channelType subject payload)
  | intercept {call : InterceptCall} (mem : call ∈ loop.calls) :
      Pushed base64 loop (.intercept call.requestId call.subject (base64.encode call.payload))

theorem pushed_of_answers {messages : List ServerMessage}
    (hmem : message ∈ loop.forward ++ (loop.sent ++ messages)) (hpushed : message.isPushed = true)
    (hanswers : ∀ message ∈ messages, message.isPushed = false) : Pushed base64 loop message := by
  rw [← List.append_assoc] at hmem
  obtain hbefore | hnew := List.mem_append.mp hmem
  · exact .before hbefore
  · simp [hanswers message hnew] at hpushed

theorem pushed_of_concat {new : ServerMessage} (hmem : message ∈ (loop.forward ++ [new]) ++ loop.sent)
    (hnew : Pushed base64 loop new) : Pushed base64 loop message := by
  simp only [List.append_assoc, List.singleton_append, List.mem_append, List.mem_cons] at hmem
  rcases hmem with hforward | rfl | hsent
  · exact .before (List.mem_append_left _ hforward)
  · exact hnew
  · exact .before (List.mem_append_right _ hsent)

theorem Change.pushed (h : Change config base64 loop next) (hserving : Serving loop)
    (hmem : message ∈ next.forward ++ next.sent) (hpushed : message.isPushed = true) :
    Pushed base64 loop message := by
  cases h with
  | operate idle operates =>
    obtain ⟨messages, hsent, hanswers⟩ := operates.sent
    rw [operates.forward, hsent] at hmem
    exact pushed_of_answers hmem hpushed hanswers
  | @resume awaited reaction waits returned =>
    have hanswers : reaction.Answers := by
      have hcall := hserving.answers awaited (Option.mem_def.mpr waits)
      generalize awaited.call = call at hcall returned
      cases returned with
      | publish | request => exact hcall _
    exact pushed_of_answers hmem hpushed hanswers
  | send idle queue =>
    refine .before ?_
    rw [queue]
    simp only [List.mem_append, List.mem_cons] at hmem ⊢
    tauto
  | forward holds => exact pushed_of_concat hmem (.event holds)
  | deliver => exact pushed_of_concat hmem .deliver
  | push at_c => exact pushed_of_concat hmem (.intercept (List.mem_of_getElem? at_c))
  | _ => exact .before hmem

/-- A step keeps the request ids of the calls. -/
theorem Change.requestIds (h : Change config base64 loop next) (hmem : call ∈ loop.calls) :
    ∃ after ∈ next.calls, after.requestId = call.requestId := by
  have hmap {f : InterceptCall → InterceptCall} (hf : Signals f) :
      ∃ after ∈ loop.calls.map f, after.requestId = call.requestId := by
    refine ⟨f call, List.mem_map_of_mem hmem, ?_⟩
    obtain hkept | ⟨_, action, hsignal⟩ := hf call
    · rw [hkept]
    · rw [hsignal]
  have hmodify {c : ℕ} {f : InterceptCall → InterceptCall}
      (hf : ∀ other, (f other).requestId = other.requestId) :
      ∃ after ∈ loop.calls.modify c f, after.requestId = call.requestId := by
    have hids := map_modify (l := loop.calls) (i := c) hf
    have hid : call.requestId ∈ (loop.calls.modify c f).map (·.requestId) :=
      hids ▸ List.mem_map_of_mem hmem
    exact List.mem_map.mp hid
  cases h with
  | operate idle operates =>
    obtain ⟨f, hf, hsignals⟩ := operates.calls
    exact hf ▸ hmap hsignals
  | @resume awaited reaction =>
    obtain ⟨f, hf, hsignals⟩ := route_eq reaction.signal loop.connection loop.calls
    have hcalls := hmap hsignals
    rw [← hf] at hcalls
    exact hcalls
  | intercept => exact ⟨call, List.mem_append_left _ hmem, rfl⟩
  | push | ended => exact hmodify fun _ ↦ rfl
  | _ => exact ⟨call, hmem, rfl⟩

/-- Every call of the connection's own dispatches waits behind the loop, and ends without the
client. -/
structure Stalled (loop : ConnectionLoop) : Prop where
  alone : Alone loop
  framed : ∀ requestId subject payload,
    .intercept requestId subject payload ∈ loop.forward ++ loop.sent →
    ∃ call ∈ loop.calls, call.requestId = requestId
  stuck : ∀ (c : ℕ) (call : InterceptCall), loop.calls[c]? = some call → call.own = true →
    call.outcome = none → Stuck loop call
  ended : ∀ call ∈ loop.calls, call.own = true → ∀ outcome ∈ call.outcome,
    outcome = .completed .pass call.payload ∨ outcome = .timedOut

theorem stalled_build (store : InMemoryEventStore) (clock : ℕ) (authOpen devMode : Bool) :
    Stalled (build store clock authOpen devMode) where
  alone _ _ _ _ hat := by simp [build] at hat
  framed _ _ _ hmem := absurd hmem List.not_mem_nil
  stuck _ _ hat := by simp [build] at hat
  ended _ hmem := absurd hmem List.not_mem_nil

/-- Where no call is stuck, replies go to calls of other dispatches only. -/
theorem stuck_of_map
    (hstuck : ∀ (c : ℕ) (call : InterceptCall), loop.calls[c]? = some call →
      call.own = true → call.outcome = none → Stuck loop call) (hfree : ∀ call, ¬ Stuck loop call)
    (hf : Signals f) (hat : (loop.calls.map f)[c]? = some call) (hown : call.own = true)
    (hopen : call.outcome = none) : Stuck next call := by
  rw [List.getElem?_map] at hat
  obtain ⟨before, hbefore, rfl⟩ := Option.map_eq_some_iff.mp hat
  obtain hkept | ⟨hbeforeOpen, action, hsignal⟩ := hf before
  · rw [hkept] at hown hopen
    exact absurd (hstuck c before hbefore hown hopen) (hfree before)
  · rw [hsignal] at hown
    exact absurd (hstuck c before hbefore hown hbeforeOpen) (hfree before)

theorem Stalled.stuck_step (h : Stalled loop) (hserving : Serving loop)
    (hchange : Change config base64 loop next) (hat : next.calls[c]? = some call) (hown : call.own = true)
    (hopen : call.outcome = none) : Stuck next call := by
  cases hchange with
  | operate idle operates =>
    obtain ⟨f, hf, hsignals⟩ := operates.calls
    exact stuck_of_map h.stuck (fun _ hstuck ↦ hstuck.not_idle idle) hsignals (hf ▸ hat) hown hopen
  | @resume awaited reaction waits returned =>
    obtain ⟨f, hf, hsignals⟩ := route_eq reaction.signal loop.connection loop.calls
    have hrouted : (route reaction.signal loop.connection loop.calls)[c]? = some call := hat
    rw [hf] at hrouted
    exact stuck_of_map h.stuck (fun _ hstuck ↦ hstuck.not_returned waits returned) hsignals
      hrouted hown hopen
  | send idle | close idle => exact absurd idle (h.stuck c call hat hown hopen).not_idle
  | take queue stepped =>
    have hstuck := (h.stuck c call hat hown hopen).bus hserving stepped nofun nofun
    exact ⟨hstuck.reply, hstuck.awaits, hstuck.at_proxy, hstuck.unsent⟩
  | intercept at_proxy fresh own reply outcome =>
    obtain hbefore | ⟨_, rfl⟩ := at_of_concat hat
    · have hstuck := h.stuck c call hbefore hown hopen
      exact ⟨hstuck.reply, hstuck.awaits, hstuck.at_proxy, hstuck.unsent⟩
    · refine ⟨reply, own.symm.trans hown, at_proxy, fun subject payload hsent ↦ ?_⟩
      obtain ⟨other, hother, hid⟩ :=
        h.framed _ subject payload (List.mem_append_right _ hsent)
      exact (fresh other hother).1 hid
  | push at_c =>
    obtain ⟨_, before, hbefore, rfl⟩ | ⟨_, hbefore⟩ := at_of_modify hat
    · have hstuck := h.stuck c before hbefore hown hopen
      exact ⟨hstuck.reply, hstuck.awaits, hstuck.at_proxy, hstuck.unsent⟩
    · have hstuck := h.stuck c call hbefore hown hopen
      exact ⟨hstuck.reply, hstuck.awaits, hstuck.at_proxy, hstuck.unsent⟩
  | @ended c' ending outcome exchange at_c open_call ends stepped =>
    obtain ⟨_, before, _, rfl⟩ | ⟨hne, hbefore⟩ := at_of_modify hat
    · simp at hopen
    · have hstuck := h.stuck c call hbefore hown hopen
      obtain rfl | hstep := stepped
      · exact ⟨hstuck.reply, hstuck.awaits, hstuck.at_proxy, hstuck.unsent⟩
      · -- the dispatch that goes on is another one
        have hturn : ∀ input, ExchangeLabel.core (.dispatch ending.dispatch ⟨outcome, 0, true⟩) ≠
            .core (.dispatch call.dispatch input) := by
          intro input heq
          obtain ⟨hdispatch, _⟩ := Label.dispatch.inj (ExchangeLabel.core.inj heq)
          exact hne (h.alone c' c ending call at_c hbefore open_call hopen hdispatch)
        have hnext := hstuck.bus hserving hstep hturn nofun
        exact ⟨hnext.reply, hnext.awaits, hnext.at_proxy, hnext.unsent⟩
  | bus allowed stepped =>
    have hstuck := h.stuck c call hat hown hopen
    refine hstuck.bus hserving stepped (fun input heq ↦ ?_) fun r heq ↦ ?_
    · subst heq
      obtain ⟨turn, hturn⟩ := Option.isSome_iff_exists.mp hstuck.at_proxy
      simp [isBusLabel, hturn] at allowed
    · subst heq
      simpa [isBusLabel] using allowed
  | _ =>
    have hstuck := h.stuck c call hat hown hopen
    exact ⟨hstuck.reply, hstuck.awaits, hstuck.at_proxy, hstuck.unsent⟩

theorem Stalled.step (h : Stalled loop) (hserving : Serving loop)
    (hchange : Change config base64 loop next) : Stalled next where
  alone := h.alone.step hchange
  framed requestId subject payload hmem := by
    have hbefore : ∃ call ∈ loop.calls, call.requestId = requestId := by
      cases hchange.pushed hserving hmem rfl with
      | before mem => exact h.framed requestId subject payload mem
      | intercept mem => exact ⟨_, mem, rfl⟩
    obtain ⟨call, hcall, rfl⟩ := hbefore
    exact hchange.requestIds hcall
  stuck _ _ hat hown hopen := h.stuck_step hserving hchange hat hown hopen
  ended call hmem hown outcome houtcome := by
    obtain ⟨c, hat⟩ := List.mem_iff_getElem?.mp hmem
    cases hchange.callAfter hat with
    | kept before => exact h.ended call (List.mem_of_getElem? before) hown outcome houtcome
    | pushed before => exact h.ended _ (List.mem_of_getElem? before) hown outcome houtcome
    | signalled before open_call =>
      rw [open_call] at houtcome
      simp at houtcome
    | ended before open_call ends =>
      obtain rfl := Option.mem_some.mp houtcome
      obtain hpass | htimedOut | ⟨action, hreply, _⟩ := ends
      · exact .inl hpass
      · exact .inr htimedOut
      · have hstuck := h.stuck c _ before hown open_call
        rw [hstuck.reply] at hreply
        simp at hreply
    | new at_end fresh hnone =>
      rw [hnone] at houtcome
      simp at houtcome

/-! ## Requests that the connection would handle itself -/

/-- The events on the way to the client belong to requests; a request of the connection is waited for
or over, and was not sent to its own client while it is waited for. -/
structure Unheard (loop : ConnectionLoop) : Prop where
  held : ∀ entry ∈ loop.held, loop.exchange.Asked entry.2.subject entry.2.replySubject
  carried : ∀ subject payload replySubject id,
    .event subject payload replySubject id ∈ loop.forward ++ loop.sent →
    loop.exchange.Asked subject replySubject
  ended : ∀ r ∈ loop.requests, ∃ request, loop.exchange.requests[r]? = some request ∧
    (request.stage.isOver = true ∨
      ∃ awaited ∈ loop.awaited, ∃ resume, awaited.call = .request r resume)
  unsent : ∀ awaited ∈ loop.awaited, ∀ r resume, awaited.call = .request r resume →
    ∀ request ∈ loop.exchange.requests[r]?, ∀ subject payload id,
      .event subject payload (some request.replySubject) id ∉ loop.sent

theorem unheard_build (store : InMemoryEventStore) (clock : ℕ) (authOpen devMode : Bool) :
    Unheard (build store clock authOpen devMode) where
  held _ hmem := absurd hmem List.not_mem_nil
  carried _ _ _ _ hmem := absurd hmem List.not_mem_nil
  ended _ hmem := absurd hmem List.not_mem_nil
  unsent _ hmem := by simp [build] at hmem

theorem Change.asked (h : Change config base64 loop next) {replySubject : Option String}
    (hasked : loop.exchange.Asked subject replySubject) : next.exchange.Asked subject replySubject :=
  Exchange.asked_of_reach h.exchange hasked

theorem Unheard.held_step (h : Unheard loop) (hserving : Serving loop)
    (hchange : Change config base64 loop next) :
    ∀ entry ∈ next.held, next.exchange.Asked entry.2.subject entry.2.replySubject := by
  intro entry hmem
  apply hchange.asked
  cases hchange with
  | operate idle operates => exact h.held entry (operates.held hmem)
  | take queue stepped =>
    rcases List.mem_cons.mp hmem with rfl | hbefore
    · exact hserving.traced.addressed.queued _ _ queue
    · exact h.held entry hbefore
  | forward holds => exact h.held entry (List.mem_of_mem_filter hmem)
  | _ => exact h.held entry hmem

/-- The reply subject of a new request was not seen before. -/
theorem Unheard.not_sent_of_fresh (h : Unheard loop) {ulid id : String}
    (hfresh : loop.exchange.freshRequest ulid id = true) {payload subscriptionId : String} :
    .event subject payload (some (replySubjectOf ulid)) subscriptionId ∉ loop.sent := by
  intro hsent
  simp only [Exchange.freshRequest, Bool.and_eq_true, decide_eq_true_eq] at hfresh
  obtain ⟨⟨_, htaken⟩, hrequests⟩ := hfresh
  obtain hfound | ⟨request, hmem, hreply, _⟩ :=
    h.carried _ _ _ _ (List.mem_append_right _ hsent) _ rfl
  · exact htaken hfound
  · exact hrequests (hreply ▸ List.mem_map_of_mem hmem)

/-- What holds of the earlier requests while the loop goes on waiting, or has stopped waiting. -/
theorem Unheard.over_step (h : Unheard loop)
    (hchange : Change config base64 loop next) :
    ∀ r ∈ next.requests, ∃ request, next.exchange.requests[r]? = some request ∧
      (request.stage.isOver = true ∨
        ∃ awaited ∈ next.awaited, ∃ resume, awaited.call = .request r resume) := by
  -- a request that was over still is
  have hkept {r : ℕ} {request : Request} (hat : loop.exchange.requests[r]? = some request)
      (hover : request.stage.isOver = true) :
      ∃ after, next.exchange.requests[r]? = some after ∧ (after.stage.isOver = true ∨
        ∃ awaited ∈ next.awaited, ∃ resume, awaited.call = .request r resume) := by
    obtain ⟨after, hafter, _, hstays⟩ := Exchange.request_of_reach hchange.exchange hat
    exact ⟨after, hafter, .inl (hstays hover)⟩
  have hidle (hnone : loop.awaited = none) {r : ℕ} (hmem : r ∈ loop.requests) :
      ∃ request, loop.exchange.requests[r]? = some request ∧ request.stage.isOver = true := by
    obtain ⟨request, hat, hover | ⟨awaited, hawaited, _⟩⟩ := h.ended r hmem
    · exact ⟨request, hat, hover⟩
    · simp [hnone] at hawaited
  have hsame (hawaited : next.awaited = loop.awaited) {r : ℕ} (hmem : r ∈ loop.requests) :
      ∃ request, next.exchange.requests[r]? = some request ∧ (request.stage.isOver = true ∨
        ∃ awaited ∈ next.awaited, ∃ resume, awaited.call = .request r resume) := by
    obtain ⟨request, hat, hover | hwaited⟩ := h.ended r hmem
    · exact hkept hat hover
    · obtain ⟨after, hafter, _⟩ := Exchange.request_of_reach hchange.exchange hat
      exact ⟨after, hafter, .inr (hawaited ▸ hwaited)⟩
  intro r hmem
  cases hchange with
  | operate idle operates =>
    have hold (hbefore : r ∈ loop.requests) := hidle idle hbefore
    cases operates.waits with
    | idle awaited requests | publish awaited publishers requests =>
      obtain ⟨request, hat, hover⟩ := hold (requests ▸ hmem)
      exact hkept hat hover
    | request awaited requests fresh made =>
      rw [requests] at hmem
      rcases List.mem_cons.mp hmem with rfl | hbefore
      · refine ⟨_, by rw [made]; exact List.getElem?_concat_length, .inr ⟨_, awaited, _, rfl⟩⟩
      · obtain ⟨request, hat, hover⟩ := hold hbefore
        exact hkept hat hover
  | @resume awaited reaction waits returned =>
    obtain ⟨request, hat, hover | ⟨other, hother, resume, hcall⟩⟩ := h.ended r hmem
    · exact hkept hat hover
    · obtain rfl := Option.some.inj (waits.symm.trans (Option.mem_def.mp hother))
      rw [hcall] at returned
      cases returned with
      | request at_r stage => exact ⟨_, at_r, .inl (by rw [stage]; rfl)⟩
  | _ => exact hsame rfl hmem

theorem Unheard.step (h : Unheard loop) (hserving : Serving loop)
    (hchange : Change config base64 loop next) : Unheard next where
  held := h.held_step hserving hchange
  carried subject payload replySubject id hmem := by
    apply hchange.asked
    cases hchange.pushed hserving hmem rfl with
    | before mem => exact h.carried subject payload replySubject id mem
    | event holds => exact h.held _ holds
  ended := h.over_step hchange
  unsent := by
    cases hchange.awaiting with
    | same awaited requests read sent =>
      intro a ha r resume hcall request hrequest subject payload id hsent
      rw [awaited] at ha
      rw [sent] at hsent
      obtain ⟨before, hbefore, _⟩ := h.ended r (hserving.made a ha r resume hcall)
      obtain ⟨after, hafter, hreply, _⟩ := Exchange.request_of_reach hchange.exchange hbefore
      obtain rfl := Option.some.inj (hafter.symm.trans (Option.mem_def.mp hrequest))
      rw [hreply] at hsent
      exact h.unsent a ha r resume hcall before hbefore subject payload id hsent
    | ended awaited => simp [awaited]
    | operates idle operates =>
      cases operates.waits with
      | idle awaited => simp [awaited]
      | publish awaited =>
        rw [awaited]
        rintro _ ⟨rfl⟩
        exact nofun
      | request awaited requests fresh made =>
        rw [awaited]
        rintro _ ⟨rfl⟩ r resume ⟨rfl, rfl⟩ request hrequest subject payload id hmem
        rw [made, List.getElem?_concat_length] at hrequest
        obtain rfl := Option.mem_some.mp hrequest
        obtain ⟨messages, hsent, hanswers⟩ := operates.sent
        rw [hsent] at hmem
        rcases List.mem_append.mp hmem with hbefore | hnew
        · exact h.not_sent_of_fresh fresh hbefore
        · simpa [ServerMessage.isPushed] using hanswers _ hnew

theorem stalled_of_reach {store : InMemoryEventStore} {clock : ℕ} {authOpen devMode : Bool}
    (hreach : Steps.Reach (step config base64) (fun _ _ ↦ True)
      (build store clock authOpen devMode) loop) :
    Serving loop ∧ Stalled loop ∧ Unheard loop := by
  induction hreach with
  | init =>
    refine ⟨?_, stalled_build store clock authOpen devMode,
      unheard_build store clock authOpen devMode⟩
    exact serving_of_idle (Exchange.publishing_build store clock)
      (Exchange.traced_build store clock) rfl
  | next _ _ hstep ih =>
    obtain ⟨hserving, hstalled, hunheard⟩ := ih
    have hchange := change_of_step hstep
    exact ⟨hserving.step hchange, hstalled.step hserving hchange, hunheard.step hserving hchange⟩

end ConnectionLoop

/-- The event goes on as the client decided. -/
def InterceptCall.Applies (call : InterceptCall) (action : WsInterceptAction) : Prop :=
  call.outcome = some (action.outcome call.payload)

instance (call : InterceptCall) (action : WsInterceptAction) : Decidable (call.Applies action) :=
  inferInstanceAs (Decidable (_ = _))

namespace ConnectionLoop

variable {config : Config} {base64 : Base64} {loop : ConnectionLoop}

/-- A connection that waits for a call on the bus reads and sends nothing.  When the call dispatches
an event to an interceptor of the same connection, the client gets the frame after the interceptor's
turn is over, and no decision to modify or drop the event is applied; a request that is dispatched to
a subscription of the same connection is sent to the client after it is over. -/
theorem own_decisions_never_apply {store : InMemoryEventStore} {clock : ℕ} {authOpen devMode : Bool}
    (hreach : Steps.Reach (step config base64) (fun _ _ ↦ True)
      (build store clock authOpen devMode) loop) :
    (∀ awaited ∈ loop.awaited,
        loop.read.length = awaited.read ∧ loop.sent.length = awaited.sent) ∧
      (∀ call ∈ loop.calls, call.own = true →
        (call.outcome = none →
          ∀ subject payload, .intercept call.requestId subject payload ∉ loop.sent) ∧
        ∀ action, action ≠ .pass → ¬ call.Applies action) ∧
      ∀ r ∈ loop.requests, ∀ request ∈ loop.exchange.requests[r]?, ∀ subject payload id,
        .event subject payload (some request.replySubject) id ∈ loop.sent →
        request.stage.isOver = true := by
  obtain ⟨hserving, hstalled, hunheard⟩ := stalled_of_reach hreach
  refine ⟨hserving.still, fun call hmem hown ↦ ⟨fun hopen ↦ ?_, fun action hpass happlies ↦ ?_⟩, ?_⟩
  · obtain ⟨c, hat⟩ := List.mem_iff_getElem?.mp hmem
    exact (hstalled.stuck c call hat hown hopen).unsent
  · have hended := hstalled.ended call hmem hown _ happlies
    cases action with
    | pass => exact hpass rfl
    | modify new | drop => simp [WsInterceptAction.outcome] at hended
  · intro r hr request hrequest subject payload id hsent
    obtain ⟨other, hother, hover | ⟨awaited, hawaited, resume, hcall⟩⟩ := hunheard.ended r hr
    · obtain rfl := Option.some.inj (hother.symm.trans (Option.mem_def.mp hrequest))
      exact hover
    · exact absurd hsent
        (hunheard.unsent awaited hawaited r resume hcall request hrequest subject payload id)

/-- The client sends an operation, and the loop handles it. -/
def asks (operation : ClientOperation) (id : Char) : List LoopLabel :=
  [.arrive ⟨0, .ok operation⟩, .handle ⟨ulidOf 'A', ulidOf id, 0, none⟩]

/-- Steps of the first dispatch that call no proxy of the connection. -/
def turns (n : ℕ) : List LoopLabel := List.replicate n (.bus (.core (.turn 0 .panicked)))

/-- A client intercepts `a.b`, subscribes to it and sends a request on it; the proxy gives up, and so
does the request. -/
def askedItself : List LoopLabel :=
  asks (.registerInterceptor "a.b" 0 none none) '1' ++ asks (.subscribe "a.b" 0 none) '2' ++
  asks (.request "a.b" "CQ==" 5 none) 'B' ++ [.bus (.ofRequest 0 (.publish none))] ++ turns 3 ++
  [.intercept 0 (ulidOf 'R'), .ofCall 0 .push, .ofCall 0 .timeout] ++ turns 5 ++
  [.bus (.ofRequest 0 .published), .take (ulidOf '2'), .forward (ulidOf '2'),
    .bus (.ofRequest 0 .timeout), .bus (.ofRequest 0 .dropReceiver), .bus (.ofRequest 0 .cleanUp),
    .resume, .send, .send]

theorem own_decisions_never_apply_askedItself :
    ∃ loop ∈ Steps.execute (step (.plain 5) nineBase64) (build .empty 0 false false) askedItself,
      ∃ call ∈ loop.calls, call.own = true ∧ ¬ call.Applies .drop ∧
        ∃ r ∈ loop.requests, ∃ request ∈ loop.exchange.requests[r]?,
          request.stage.isOver = true := by
  have hexecute : ∃ loop ∈ Steps.execute (step (.plain 5) nineBase64)
      (build .empty 0 false false) askedItself, ∃ call ∈ loop.calls, call.own = true ∧
        ∃ r ∈ loop.requests, ∃ request ∈ loop.exchange.requests[r]?,
          .event "a.b" "CQ==" (some request.replySubject) (ulidOf '2') ∈ loop.sent := by
    decide +kernel
  obtain ⟨loop, hloop, call, hcall, hown, r, hr, request, hrequest, hsent⟩ := hexecute
  obtain ⟨_, hcalls, hrequests⟩ := own_decisions_never_apply (Steps.reach_of_execute
    (Steps.guarded_of_forall (fun _ _ ↦ trivial) _ _) hloop)
  exact ⟨loop, hloop, call, hcall, hown, (hcalls call hcall hown).2 .drop nofun, r, hr, request,
    hrequest, hrequests r hr request hrequest _ _ _ hsent⟩

/-- The client has answered every intercept frame it was sent. -/
def answered (action : WireInterceptAction) (loop : ConnectionLoop) : Bool :=
  loop.sent.all fun message ↦
    match message with
    | .intercept requestId _ _ => (loop.read ++ loop.inbox).any fun frame ↦
        frame.operation = .ok (.interceptResult requestId action)
    | _ => true

/-- A client that answers an intercept frame before anything else happens. -/
def AnswersAtOnce (action : WireInterceptAction) (loop : ConnectionLoop) : LoopLabel → Prop
  | .arrive _ => True
  | _ => loop.answered action = true

instance (action : WireInterceptAction) (loop : ConnectionLoop) (label : LoopLabel) :
    Decidable (AnswersAtOnce action loop label) := by
  cases label <;> unfold AnswersAtOnce <;> infer_instance

/-- A client intercepts `a.b` and publishes on it; it answers the frame as soon as it gets it, which
is after the publish was confirmed. -/
def publishedItself : List LoopLabel :=
  asks (.registerInterceptor "a.b" 0 none none) '1' ++ asks (.publish "a.b" "CQ==" none) '2' ++
  turns 3 ++ [.intercept 0 (ulidOf 'R'), .ofCall 0 .push, .ofCall 0 .timeout] ++ turns 3 ++
  [.resume, .send] ++ asks (.interceptResult (ulidOf 'R') .drop) '3'

/-- The decision of a client that answers every frame at once and drops every event is not applied to
what the client publishes itself. -/
theorem own_publish_not_dropped :
    ¬ ∀ loop, Steps.Reach (step (.plain 5) nineBase64) (AnswersAtOnce .drop)
      (build .empty 0 false false) loop → ∀ call ∈ loop.calls, call.own = true →
      call.outcome.isSome → call.Applies .drop := by
  intro happlies
  have hexecute : ∃ loop ∈ Steps.execute (step (.plain 5) nineBase64)
      (build .empty 0 false false) publishedItself, ∃ call ∈ loop.calls, call.own = true ∧
        call.outcome.isSome ∧ ¬ call.Applies .drop := by
    decide +kernel
  have hguarded : Steps.Guarded (step (.plain 5) nineBase64) (AnswersAtOnce .drop)
      (build .empty 0 false false) publishedItself := by
    decide +kernel
  obtain ⟨loop, hloop, call, hcall, hown, hended, hignored⟩ := hexecute
  exact hignored (happlies loop (Steps.reach_of_execute hguarded hloop) call hcall hown hended)

end ConnectionLoop

end Seidrum.EventBus
