import Seidrum.EventBus.RequestReply.Replies
import Seidrum.EventBus.Transport.Gateway
import Seidrum.EventBus.Transport.Recreation

/-!
# Reply subjects are reserved

A publish on a reply subject is refused, whoever makes it; a request on one is not.  Where no
request names a reply subject, everything dispatched on one is the reply of a handler that received
the request it belongs to, and a request returns what that reply carried, as the interceptors of
reply subjects left it.
-/

namespace Seidrum.EventBus

open Seidrum.Foundation

namespace Exchange

variable {config : Config} {state next : Exchange} {label : ExchangeLabel}
  {P : String → Option String → Prop}

variable {publisher : Publisher} {d : Dispatch} {bus after : Bus} {subject : String} {payload : Payload}
  {replySubject : Option String} {i r : ℕ} {request : Request}

theorem Started.addressed (h : state.Started publisher d) (hstored : state.core.bus.store.Addressed P)
    (hplain : ∀ subject, P subject none)
    (hrequest : ∀ request ∈ state.requests, P request.call.subject (some request.replySubject)) :
    P d.subject d.replySubject := by
  cases h with
  | caller free accepted =>
    obtain ⟨_, hsubject, _, hreply⟩ := Bus.publishEvent_starts accepted
    rw [hsubject, hreply]
    exact hplain _
  | request at_r accepted =>
    obtain ⟨_, hsubject, _, hreply⟩ := Bus.publishEvent_starts accepted
    rw [hsubject, hreply]
    exact hrequest _ (List.mem_of_getElem? at_r)
  | replay requeued => exact (hstored.requeueDeadLettered requeued).2
  | replier at_k accepted published =>
    obtain ⟨_, hsubject, _, hreply⟩ := Bus.publishEvent_starts published
    rw [hsubject, hreply]
    exact hplain _

theorem publishEvent_channels {intercepting : Option String} {storeError : Option StorageError}
    (h : bus.publishEvent intercepting subject payload replySubject storeError = .ok (after, d)) :
    after.channels = bus.channels := by
  obtain ⟨-, _, rfl⟩ | ⟨-, _, rfl⟩ := Bus.publishEvent_ok h <;> rfl

theorem queued_of_channels (h : bus.Queued P) (heq : after.channels = bus.channels) : after.Queued P := by
  unfold Bus.Queued
  rw [heq]
  exact h

theorem queued_rest (h : bus.Queued P) {id : String} {event : DispatchedEvent} {rest : List DispatchedEvent}
    (hqueue : (bus.channels id).queue = event :: rest) :
    (bus.setChannel id { bus.channels id with queue := rest }).Queued P :=
  h.setChannel id fun other hother ↦ h id other (hqueue ▸ List.mem_cons_of_mem _ hother)

theorem queued_empty (h : bus.Queued P) (id : String) {channel : Channel} (hempty : channel.queue = []) :
    (bus.setChannel id channel).Queued P :=
  h.setChannel id fun _ hevent ↦ absurd (hempty ▸ hevent) List.not_mem_nil

theorem Change.queued (hchange : Change config state label next) (h : state.core.Addressed P) :
    next.core.bus.Queued P := by
  have hqueued := h.queued
  cases hchange with
  | core allowed stepped =>
    exact (h.step stepped (keepsDispatches_of_isCoreLabel allowed)).queued
  | publish free accepted => exact queued_of_channels hqueued (publishEvent_channels accepted)
  | request fresh registered | serve fresh subscribed => exact queued_empty hqueued _ rfl
  | ofRequest at_r change =>
    cases change with
    | publish stage accepted => exact queued_of_channels hqueued (publishEvent_channels accepted)
    | receive stage queue => exact queued_rest hqueued queue
    | dropReceiver | cleanUp | drop => exact hqueued.closeChannel _
    | _ => exact hqueued
  | ofServer at_j change =>
    cases change with
    | bridge stage queue =>
      rw [bridgeEvent_core]
      exact queued_rest hqueued queue
    | exit => exact hqueued.closeChannel _
    | _ => exact hqueued
  | reply at_k accepted unsent published =>
    exact queued_of_channels hqueued (publishEvent_channels published)
  | _ => exact hqueued

theorem Change.retry (hchange : Change config state label next) :
    next.core.retry = state.core.retry ∨
      ∃ core, label = .core core ∧ System.step config state.core core = some next.core := by
  cases hchange with
  | core allowed stepped => exact .inr ⟨_, rfl, stepped⟩
  | ofRequest at_r change =>
    left
    cases change with
    | drop => exact (dropDispatch_store _ _).2
    | _ => rfl
  | ofServer at_j change =>
    left
    cases change with
    | bridge => rw [bridgeEvent_core]; rfl
    | _ => rfl
  | _ => exact .inl rfl

/-- What is on its way stays addressed with a property of events without a reply subject and of what
the requests publish. -/
theorem Change.addressed (hchange : Change config state label next) (h : state.core.Addressed P)
    (hplain : ∀ subject, P subject none)
    (hrequest : ∀ request ∈ state.requests, P request.call.subject (some request.replySubject)) :
    next.core.Addressed P where
  stored := hchange.stored h.stored (fun subject _ ↦ hplain subject) fun request hmem _ ↦
    hrequest request hmem
  items := by
    obtain hretry | ⟨core, _, hstep⟩ := hchange.retry
    · rw [hretry]
      exact h.items
    · exact System.items_addressed_of_step h hstep
  dispatched d hd := by
    obtain ⟨before, hbefore, hlater⟩ | ⟨publisher, hstarted⟩ := hchange.later_or_started hd
    · rw [hlater.same.subject, hlater.same.replySubject]
      exact h.dispatched before hbefore
    · exact hstarted.addressed h.stored hplain hrequest
  queued := hchange.queued h

/-- A reply subject is that of a request on the subject, or was found in the store. -/
def Asked (state : Exchange) (subject : String) (replySubject : Option String) : Prop :=
  ∀ reply, replySubject = some reply → reply ∈ state.taken ∨
    ∃ request ∈ state.requests, request.replySubject = reply ∧ request.call.subject = subject

/-- What is on its way, and what handlers were given, goes back to requests. -/
structure Traced (state : Exchange) : Prop where
  addressed : state.core.Addressed state.Asked
  repliers : ∀ replier ∈ state.repliers,
    state.Asked replier.message.subject (some replier.replySubject)

theorem Change.asked (hchange : Change config state label next) (h : state.Asked subject replySubject) :
    next.Asked subject replySubject := by
  intro reply hreply
  obtain htaken | ⟨request, hmem, hrequest, hsubject⟩ := h reply hreply
  · exact .inl (hchange.taken ▸ htaken)
  · obtain ⟨r, hr⟩ := List.mem_iff_getElem?.mp hmem
    obtain ⟨stage, hr'⟩ := hchange.request_kept hr
    exact .inr ⟨_, List.mem_of_getElem? hr', hrequest, hsubject⟩

theorem traced_build (store : InMemoryEventStore) (clock : ℕ) : (build store clock).Traced where
  addressed := by
    refine ⟨fun event hevent reply hreply ↦ .inl ?_, by simp [build, System.build, RetryPhase.items],
      by simp [build, System.build], by simp [build, System.build, Bus.onStore, Bus.Queued, Channel.new]⟩
    apply List.mem_flatMap.mpr
    exact ⟨event, hevent, List.mem_append_left _ (by rw [hreply]; exact List.mem_singleton_self _)⟩
  repliers := by simp [build]

/-- A replier is made for an event taken off the channel of a handler. -/
theorem Change.replier_cases (hchange : Change config state label next) {replier : Replier}
    (hmem : replier ∈ next.repliers) :
    (∃ before ∈ state.repliers, Kept before replier) ∨
      ∃ id, ∃ event ∈ (state.core.bus.channels id).queue,
        event.replySubject = some replier.replySubject ∧ event.subject = replier.message.subject := by
  have hsame {repliers : List Replier} (h : replier ∈ repliers) (heq : repliers = state.repliers) :
      ∃ before ∈ state.repliers, Kept before replier :=
    ⟨replier, heq ▸ h, ⟨rfl, rfl, id, id⟩⟩
  have hmodify {k : ℕ} {f : Replier → Replier} (hf : ∀ before, Kept before (f before))
      (h : replier ∈ state.repliers.modify k f) : ∃ before ∈ state.repliers, Kept before replier := by
    obtain ⟨i, hi⟩ := List.mem_iff_getElem?.mp h
    obtain ⟨_, before, hbefore, rfl⟩ | ⟨_, hold⟩ := at_of_modify hi
    · exact ⟨before, List.mem_of_getElem? hbefore, hf before⟩
    · exact hsame (List.mem_of_getElem? hold) rfl
  have hspent {k : ℕ} (h : replier ∈ state.repliers.modify k ({ · with replied := true })) :
      ∃ before ∈ state.repliers, Kept before replier :=
    hmodify (f := ({ · with replied := true })) (fun _ ↦ ⟨rfl, rfl, fun _ ↦ rfl, id⟩) h
  cases hchange with
  | ofRequest at_r change => exact .inl (hsame hmem change.repliers)
  | @ofServer j server move after at_j change =>
    cases change with
    | @bridge event rest stage queue =>
      unfold bridgeEvent at hmem
      split at hmem
      · exact .inl (hsame hmem rfl)
      · rename_i replySubject hreply
        split_ifs at hmem
        · exact .inl (hsame hmem rfl)
        · obtain hold | hnew := List.mem_append.mp hmem
          · exact .inl (hsame hold rfl)
          · rw [List.mem_singleton.mp hnew]
            exact .inr ⟨server.id, event, queue ▸ List.mem_cons_self, hreply, rfl⟩
    | accept => exact .inl (hmodify (f := ({ · with accepted := true }))
        (fun _ ↦ ⟨rfl, rfl, id, fun _ ↦ rfl⟩) hmem)
    | _ => exact .inl (hsame hmem rfl)
  | replyRefused | reply => exact .inl (hspent hmem)
  | _ => exact .inl (hsame hmem rfl)

theorem Traced.step (h : state.Traced) (hchange : Change config state label next) : next.Traced where
  addressed := by
    apply (hchange.addressed h.addressed (fun _ _ hreply ↦ by cases hreply) ?_).mono
    · exact fun _ _ ↦ hchange.asked
    · rintro request hmem reply ⟨rfl⟩
      exact .inr ⟨request, hmem, rfl, rfl⟩
  repliers replier hmem := by
    apply hchange.asked
    obtain ⟨before, hbefore, hkept⟩ | ⟨id, event, hevent, hreply, hsubject⟩ :=
      hchange.replier_cases hmem
    · rw [hkept.message, hkept.replySubject]
      exact h.repliers before hbefore
    · rw [← hsubject, ← hreply]
      exact h.addressed.queued id event hevent

/-- No request names a reply subject. -/
def AsksElsewhere (state : Exchange) : Prop :=
  ∀ request ∈ state.requests, isReplySubject request.call.subject = false

theorem Change.asksElsewhere (hchange : Change config state label next) (h : state.AsksElsewhere)
    (hlabel : ∀ call ulid id, label = .request call ulid id → isReplySubject call.subject = false) :
    next.AsksElsewhere := by
  intro request hmem
  obtain ⟨r, hr⟩ := List.mem_iff_getElem?.mp hmem
  cases hchange.requestAfter hr with
  | kept before => exact h request (List.mem_of_getElem? before)
  | moved label_eq before =>
    have hbefore := h _ (List.mem_of_getElem? before)
    exact hbefore
  | new label_eq => exact hlabel _ _ _ label_eq

/-- The dispatch is the reply of a handler that received the request its subject belongs to, or one
of an earlier run. -/
def RepliedBy (state : Exchange) (i : ℕ) (subject : String) : Prop :=
  ∃ (k : ℕ) (replier : Replier), state.publishers[i]? = some (.replier k) ∧
    state.repliers[k]? = some replier ∧ replier.accepted = true ∧ replier.replySubject = subject ∧
    (subject ∈ state.taken ∨ ∃ request ∈ state.requests, request.replySubject = subject ∧
      request.call.subject = replier.message.subject)

theorem SentBy.repliedBy (h : state.SentBy i subject) (htraced : state.Traced) (hasks : state.AsksElsewhere)
    (hreply : isReplySubject subject = true) : state.RepliedBy i subject := by
  obtain ⟨k, replier, hat, hk, haccepted, rfl⟩ | ⟨r, request, _, hr, rfl⟩ := h
  · exact ⟨k, replier, hat, hk, haccepted, rfl,
      htraced.repliers replier (List.mem_of_getElem? hk) _ rfl⟩
  · simp [hasks request (List.mem_of_getElem? hr)] at hreply

/-- A step adds no interceptor, or the one it registers. -/
inductive Intercepts (bus next : Bus) (label : ExchangeLabel) : Prop
  | keeps (subset : ∀ id ∈ next.interceptors, id ∈ bus.interceptors)
  | registers {id subjectPattern : String} {priority : ℕ} {timeout : Option ℕ}
      (label_eq : label = .core (.intercept id subjectPattern priority timeout))
      (fresh : id ∉ bus.usedIds)
      (subscribed : bus.index.subscribe
        (Bus.interceptorEntry id subjectPattern priority timeout) = .ok next.index)
      (interceptors : next.interceptors = id :: bus.interceptors)
      (used : id ∈ next.usedIds)

theorem intercepts_of_keepsRegistry (h : bus.KeepsRegistry after) : Intercepts bus after label :=
  .keeps fun _ hid ↦ h.interceptors ▸ hid

theorem intercepts_of_step {system after : System} {label : Label}
    (h : System.step config system label = some after) :
    Intercepts system.bus after.bus (.core label) := by
  by_cases htable : System.keepsTable label = true
  · exact intercepts_of_keepsRegistry (System.keepsRegistry_of_step h htable).1
  cases System.effect_of_step h with
  | intercept fresh subscribed => exact .registers rfl fresh subscribed rfl List.mem_cons_self
  | unsubscribe => exact .keeps fun _ ↦ List.mem_of_mem_filter
  | refused | subscribe | createSubscription => exact .keeps fun _ hid ↦ hid
  | _ => exact absurd rfl htable

theorem Change.intercepts (hchange : Change config state label next) :
    Intercepts state.core.bus next.core.bus label := by
  cases hchange with
  | core allowed stepped => exact intercepts_of_step stepped
  | publish free accepted =>
    exact intercepts_of_keepsRegistry (Bus.publishEvent_keepsRegistry accepted)
  | ofRequest at_r change =>
    cases change with
    | publish stage accepted =>
      exact intercepts_of_keepsRegistry (Bus.publishEvent_keepsRegistry accepted)
    | cleanUp => exact .keeps fun _ ↦ List.mem_of_mem_filter
    | _ => exact .keeps fun _ hid ↦ hid
  | ofServer at_j change =>
    cases change with
    | bridge =>
      rw [bridgeEvent_core]
      exact .keeps fun _ hid ↦ hid
    | cleanUp => exact .keeps fun _ ↦ List.mem_of_mem_filter
    | _ => exact .keeps fun _ hid ↦ hid
  | reply at_k accepted unsent published =>
    exact intercepts_of_keepsRegistry (Bus.publishEvent_keepsRegistry published)
  | _ => exact .keeps fun _ hid ↦ hid

/-- No interceptor is registered on a pattern of reply subjects. -/
def SparesReplies (bus : Bus) : Prop :=
  ∀ entry ∈ bus.index.list none, entry.id ∈ bus.interceptors →
    ∀ subject, isReplySubject subject = true →
      patternMatches (tokens entry.subjectPattern) (tokens subject) = false

/-- Replies are dispatched as they were sent. -/
structure Unaltered (state : Exchange) : Prop where
  used : ∀ id ∈ state.core.bus.interceptors, id ∈ state.core.bus.usedIds
  spares : SparesReplies state.core.bus
  replies : ∀ d ∈ state.core.dispatches, isReplySubject d.subject = true →
    d.Unmodified state.core.bus

theorem unaltered_build (store : InMemoryEventStore) (clock : ℕ) :
    (build store clock).Unaltered where
  used := by simp [build, System.build, Bus.onStore]
  spares := by simp [SparesReplies, build, System.build, Bus.onStore]
  replies := by simp [build, System.build]

theorem Started.current (h : state.Started publisher d) : d.current = d.payload := by
  have hpublish {intercepting : Option String} {subject : String} {payload : Payload}
      {replySubject : Option String} {storeError : Option StorageError} {bus : Bus}
      (haccepted : state.core.bus.publishEvent intercepting subject payload replySubject
        storeError = .ok (bus, d)) : d.current = d.payload := by
    obtain ⟨-, hstarts, _⟩ | ⟨-, hstarts, _⟩ := Bus.publishEvent_ok haccepted
    all_goals rw [hstarts.current, hstarts.payload]
  cases h with
  | caller free accepted | request at_r accepted => exact hpublish accepted
  | replay => rfl
  | replier at_k accepted published => exact hpublish published

/-- The step registers no interceptor on a pattern of reply subjects. -/
def LeavesReplies (label : ExchangeLabel) : Prop :=
  ∀ id subjectPattern priority timeout,
    label = .core (.intercept id subjectPattern priority timeout) →
    ∀ subject, isReplySubject subject = true →
      patternMatches (tokens subjectPattern) (tokens subject) = false

theorem Unaltered.sparesReplies (h : state.Unaltered) (hsound : state.Sound)
    (hchange : Change config state label next) (hlabel : LeavesReplies label) :
    SparesReplies next.core.bus := by
  intro entry hentry hid
  -- an entry with the id of an old interceptor is an old one
  have hold (hinterceptor : entry.id ∈ state.core.bus.interceptors) : ∀ subject,
      isReplySubject subject = true →
        patternMatches (tokens entry.subjectPattern) (tokens subject) = false := by
    obtain hlisted | hfresh := hchange.registering.mem_list hentry
    · exact h.spares entry hlisted hinterceptor
    · exact absurd (h.used entry.id hinterceptor) hfresh
  cases hchange.intercepts with
  | keeps subset => exact hold (subset _ hid)
  | @registers id subjectPattern priority timeout label_eq fresh subscribed interceptors =>
    rw [interceptors] at hid
    obtain heq | hinterceptor := List.mem_cons.mp hid
    · obtain rfl | hlisted := (SubjectIndex.mem_list_subscribe subscribed).mp hentry
      · exact hlabel id subjectPattern priority timeout label_eq
      · exact absurd (heq ▸ hsound.index.used_of_mem_list hlisted) fresh
    · exact hold hinterceptor

theorem Unaltered.step (h : state.Unaltered) (hsound : state.Sound)
    (hchange : Change config state label next) (hlabel : LeavesReplies label) :
    next.Unaltered where
  used id hid := by
    have hold (hinterceptor : id ∈ state.core.bus.interceptors) : id ∈ next.core.bus.usedIds :=
      hchange.registering.registersFresh.used id (h.used id hinterceptor)
    cases hchange.intercepts with
    | keeps subset => exact hold (subset id hid)
    | registers label_eq fresh subscribed interceptors used =>
      rw [interceptors] at hid
      obtain rfl | hinterceptor := List.mem_cons.mp hid
      · exact used
      · exact hold hinterceptor
  spares := h.sparesReplies hsound hchange hlabel
  replies d hd hreply := by
    -- who is registered from now on is not mentioned by any dispatch
    have hnext {id : String} (hused : id ∈ state.core.bus.usedIds)
        (hout : id ∉ state.core.bus.interceptors) : id ∉ next.core.bus.interceptors := by
      intro hid
      cases hchange.intercepts with
      | keeps subset => exact hout (subset id hid)
      | registers label_eq fresh subscribed interceptors =>
        rw [interceptors] at hid
        obtain rfl | hinterceptor := List.mem_cons.mp hid
        · exact fresh hused
        · exact hout hinterceptor
    have hlookup (subject : String) (hsubject : isReplySubject subject = true) :
        ∀ entry ∈ state.core.bus.index.lookup subject,
          entry.id ∉ state.core.bus.interceptors := by
      intro entry hentry hid
      obtain ⟨live, hlive, _⟩ := hsound.index
      obtain ⟨hlisted, hmatches⟩ := hlive.mem_list_of_mem_lookup hentry
      simp [h.spares entry hlisted hid subject hsubject] at hmatches
    obtain ⟨before, hbefore, hlater⟩ | ⟨publisher, hstarted⟩ := hchange.later_or_started hd
    · rw [hlater.same.subject] at hreply
      have hunmodified :=
        hlater.unmodified (h.replies before hbefore hreply) (hlookup before.subject hreply)
      refine ⟨fun id hid ↦ hnext ?_ (hunmodified.pending id hid), hunmodified.todo,
        hunmodified.current⟩
      obtain hold | ⟨entry, hentry, rfl⟩ := hlater.pending id hid
      · exact hsound.pending before hbefore id hold
      · exact hsound.index.used_of_mem_lookup hentry
    · exact ⟨by simp [hstarted.stage, Stage.pendingIds], by simp [hstarted.stage, Stage.syncTodo],
        hstarted.current⟩

/-! ## Every way into the bus -/

/-- A handler that received the request sent the dispatch. -/
def RepliedTo (state : Exchange) (request : Request) (i : ℕ) : Prop :=
  ∃ (k : ℕ) (replier : Replier), state.publishers[i]? = some (.replier k) ∧
    state.repliers[k]? = some replier ∧ replier.accepted = true ∧
    replier.replySubject = request.replySubject ∧ replier.message.subject = request.call.subject

/-- What holds as long as no request names a reply subject. -/
structure Reserved (state : Exchange) : Prop where
  replied : state.Replied
  traced : state.Traced
  elsewhere : state.AsksElsewhere
  untaken : ∀ request ∈ state.requests, request.replySubject ∉ state.taken

theorem reserved_build {store : InMemoryEventStore} (hstore : PersistsNoReply store) (clock : ℕ) :
    (build store clock).Reserved where
  replied := replied_build hstore clock
  traced := traced_build store clock
  elsewhere := by simp [AsksElsewhere, build]
  untaken := by simp [build]

theorem Reserved.step (h : state.Reserved) (hchange : Change config state label next)
    (hlabel : ∀ call ulid id, label = .request call ulid id → isReplySubject call.subject = false) :
    next.Reserved where
  replied := h.replied.step hchange
  traced := h.traced.step hchange
  elsewhere := hchange.asksElsewhere h.elsewhere hlabel
  untaken request hmem := by
    rw [hchange.taken]
    obtain ⟨r, hr⟩ := List.mem_iff_getElem?.mp hmem
    cases hchange.requestAfter hr with
    | kept before => exact h.untaken request (List.mem_of_getElem? before)
    | moved label_eq before =>
      have hbefore := h.untaken _ (List.mem_of_getElem? before)
      exact hbefore
    | new label_eq fresh =>
      simp only [freshRequest, Bool.and_eq_true, decide_eq_true_eq] at fresh
      exact fresh.1.2

theorem Reserved.repliedBy (h : state.Reserved) (hat : state.core.dispatches[i]? = some d)
    (hreply : isReplySubject d.subject = true) : state.RepliedBy i d.subject :=
  (h.replied.attributed.sent i d hat hreply).repliedBy h.traced h.elsewhere hreply

theorem Reserved.repliedTo (h : state.Reserved) (hr : state.requests[r]? = some request)
    (hreplied : state.RepliedBy i request.replySubject) : state.RepliedTo request i := by
  obtain ⟨k, replier, hat, hk, haccepted, hsubject, htaken | ⟨other, hother, heq, hcall⟩⟩ := hreplied
  · exact absurd htaken (h.untaken request (List.mem_of_getElem? hr))
  · obtain ⟨q, hq⟩ := List.mem_iff_getElem?.mp hother
    have hrq : r = q := by
      by_contra hne
      exact ne_of_at h.replied.sound.replySubjects hr hq hne heq.symm
    subst hrq
    obtain rfl := Option.some.inj (hr.symm.trans hq)
    exact ⟨k, replier, hat, hk, haccepted, hsubject, hcall.symm⟩

theorem Reserved.answered (h : state.Reserved) (hr : state.requests[r]? = some request)
    (hanswer : request.stage.answer = some payload) :
    ∃ (i : ℕ) (d : Dispatch), state.core.dispatches[i]? = some d ∧
      d.subject = request.replySubject ∧ d.current = payload ∧ state.RepliedTo request i := by
  obtain ⟨_, i, d, _, _, hat, hsubject, _, hcurrent⟩ := h.replied.delivered hr hanswer
  refine ⟨i, d, hat, hsubject, hcurrent, h.repliedTo hr ?_⟩
  exact hsubject ▸ h.repliedBy hat (hsubject ▸ (h.replied.oneShot r request hr).isReplySubject)

end Exchange

variable {config : Config} {base64 : Base64} {env : UrlEnv}

/-- The subject a request names. -/
def ExchangeLabel.asked : ExchangeLabel → Option String
  | request call _ _ => some call.subject
  | _ => none

/-- No request that gets to the bus names a reply subject. -/
def Entry.AsksElsewhere (base64 : Base64) (env : UrlEnv) (entry : Entry) : Prop :=
  ∀ label ∈ entry.label base64 env, ∀ subject ∈ label.asked, isReplySubject subject = false

instance (entry : Entry) : Decidable (entry.AsksElsewhere base64 env) :=
  inferInstanceAs (Decidable (∀ label ∈ _, ∀ subject ∈ _, _))

/-- The program registers no interceptor on a pattern of reply subjects. -/
def Entry.LeavesReplies : Entry → Prop
  | call label => Exchange.LeavesReplies label
  | _ => True

variable {entry : Entry} {state next : Exchange}

theorem Entry.leavesReplies_label (h : entry.LeavesReplies) {label : ExchangeLabel}
    (hlabel : entry.label base64 env = some label) : Exchange.LeavesReplies label := by
  rintro id pattern priority timeout rfl
  obtain rfl | haccepted := Entry.label_intercept hlabel
  · exact h id pattern priority timeout rfl
  · exact fun _ ↦ not_patternMatches_of_accepted haccepted

theorem Exchange.Reserved.enter (h : state.Reserved) (hentry : entry.AsksElsewhere base64 env)
    (hstep : enter base64 env config state entry = some next) : next.Reserved := by
  obtain rfl | ⟨label, hlabel, hstep⟩ := enter_eq hstep
  · exact h
  · apply h.step (Exchange.change_of_step hstep)
    rintro call ulid id rfl
    exact hentry _ hlabel _ rfl

theorem Exchange.Unaltered.enter (h : state.Unaltered) (hsound : state.Sound) (hentry : entry.LeavesReplies)
    (hstep : enter base64 env config state entry = some next) : next.Unaltered := by
  obtain rfl | ⟨label, hlabel, hstep⟩ := enter_eq hstep
  · exact h
  · exact h.step hsound (Exchange.change_of_step hstep) (Entry.leavesReplies_label hentry hlabel)

/-- Where no request names a reply subject, every dispatch on one was sent by the replier of a
handler that received the request it belongs to, and a request returns what such a dispatch for it
carried.  Where no interceptor is registered on reply subjects either, that is what the handler
sent. -/
theorem reply_subjects_reserved {store : InMemoryEventStore} {clock : ℕ}
    (hstore : Exchange.PersistsNoReply store) :
    (∀ state, Steps.Reach (enter base64 env config)
        (fun _ entry ↦ entry.AsksElsewhere base64 env) (.build store clock) state →
      (∀ (i : ℕ) (d : Dispatch), state.core.dispatches[i]? = some d →
        isReplySubject d.subject = true → state.RepliedBy i d.subject) ∧
      ∀ (r : ℕ) (request : Request) (payload : Payload), state.requests[r]? = some request →
        request.stage.answer = some payload →
        ∃ (i : ℕ) (d : Dispatch), state.core.dispatches[i]? = some d ∧
          d.subject = request.replySubject ∧ d.current = payload ∧ state.RepliedTo request i) ∧
    ∀ state, Steps.Reach (enter base64 env config)
        (fun _ entry ↦ entry.AsksElsewhere base64 env ∧ entry.LeavesReplies)
        (.build store clock) state →
      ∀ (r : ℕ) (request : Request) (payload : Payload), state.requests[r]? = some request →
        request.stage.answer = some payload →
        ∃ (i : ℕ) (d : Dispatch), state.core.dispatches[i]? = some d ∧
          d.subject = request.replySubject ∧ d.payload = payload ∧ state.RepliedTo request i := by
  constructor
  · intro state hreach
    have hreserved : state.Reserved := hreach.invariant (Exchange.reserved_build hstore clock)
      fun _ _ _ h hentry hstep ↦ h.enter hentry hstep
    exact ⟨fun i d ↦ hreserved.repliedBy, fun r request payload ↦ hreserved.answered⟩
  · intro state hreach r request payload hr hanswer
    have hstart : (Exchange.build store clock).Reserved ∧ (Exchange.build store clock).Unaltered :=
      ⟨Exchange.reserved_build hstore clock, Exchange.unaltered_build store clock⟩
    have hboth : state.Reserved ∧ state.Unaltered := hreach.invariant hstart
      fun _ _ _ h hentry hstep ↦ And.intro (h.1.enter hentry.1 hstep)
        (h.2.enter h.1.replied.sound hentry.2 hstep)
    obtain ⟨i, d, hat, hsubject, hcurrent, hreplied⟩ := hboth.1.answered hr hanswer
    have hreply : isReplySubject d.subject = true := by
      rw [hsubject]
      exact (hboth.1.replied.oneShot r request hr).isReplySubject
    have hunmodified := hboth.2.replies d (List.mem_of_getElem? hat) hreply
    exact ⟨i, d, hat, hsubject, hunmodified.current ▸ hcurrent, hreplied⟩

open AppState (everyHostPublic)

/-- A handler answers a request on `a`. -/
def answeredRequest : List Entry :=
  [.call (.serve (ulidOf 'A') "a" 0 5000 none),
    .call (.request ⟨none, "a", [0]⟩ (ulidOf '0') (ulidOf '1')),
    .call (.ofRequest 0 (.publish none))] ++
  List.replicate 7 (.call (.core (.turn 0 .panicked))) ++
  [.call (.ofServer 0 .bridge), .call (.ofServer 0 .forward), .call (.ofServer 0 .accept),
    .call (.reply 0 none [1])] ++
  List.replicate 7 (.call (.core (.turn 1 .panicked))) ++
  [.call (.ofRequest 0 .published), .call (.ofRequest 0 .receive)]

/-- The handler received the request it answers. -/
theorem reply_subjects_reserved_answered :
    ∃ state ∈ Steps.execute (enter nineBase64 everyHostPublic (.plain 5)) (.build .empty 0)
        answeredRequest,
      ∃ request ∈ state.requests[0]?, request.stage.answer = some [1] ∧
        ∃ i, state.RepliedTo request i := by
  have hexecute : ∃ state ∈ Steps.execute (enter nineBase64 everyHostPublic (.plain 5))
      (.build .empty 0) answeredRequest,
      ∃ request ∈ state.requests[0]?, request.stage.answer = some [1] := by decide +kernel
  obtain ⟨state, hstate, request, hrequest, hanswer⟩ := hexecute
  have hstore : Exchange.PersistsNoReply .empty := fun _ hevent ↦ absurd hevent List.not_mem_nil
  obtain ⟨i, _, _, _, _, hreplied⟩ :=
    ((reply_subjects_reserved hstore).1 state
      (Steps.reach_of_execute (by decide +kernel) hstate)).2 0 request [1] hrequest hanswer
  exact ⟨state, hstate, request, hrequest, hanswer, i, hreplied⟩

/-- A client asks on the reply subject of a request that is waiting. -/
def askedOnReply : List Entry :=
  [.call (.request ⟨none, "a", [0]⟩ (ulidOf '0') (ulidOf '1')),
    .call (.ofRequest 0 (.publish none)), .call (.core (.turn 0 .panicked)),
    .call (.core (.turn 0 .panicked)), .call (.ofRequest 0 .published),
    .webSocket (.new false false) (.request (replySubjectOf (ulidOf '0')) "CQ==" 5000 none)
      ⟨ulidOf '2', ulidOf '3', 0, none⟩,
    .call (.ofRequest 1 (.publish none))] ++
  List.replicate 5 (.call (.core (.turn 1 .panicked))) ++
  [.call (.ofRequest 0 .receive)]

/-- The waiting request returns the payload of the client, and there was no handler at all. -/
theorem request_on_reply_subject_injected :
    ∃ state ∈ Steps.execute (enter nineBase64 everyHostPublic (.plain 5)) (.build .empty 0)
        askedOnReply,
      (∃ request ∈ state.requests[0]?, request.stage.answer = some [9]) ∧
        state.servers = [] ∧ state.repliers = [] ∧
        ∃ d ∈ state.core.dispatches[1]?, isReplySubject d.subject = true ∧
          state.publishers[1]? = some (.request 1) := by
  decide +kernel

end Seidrum.EventBus
