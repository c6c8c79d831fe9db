import Seidrum.EventBus.RequestReply.OneShot

/-!
# The reply a request returns

Many requests, handlers and repliers run on one engine.  A request returns what the first reply
delivered to its channel carried; replies on other subjects do not reach it, and no replier
publishes twice.  The first reply delivered need not be the first one published: each reply is
dispatched by the task of its handler, and one task may overtake another.
-/

namespace Seidrum.EventBus

open Seidrum.Foundation

/-- The payload a request is going to return. -/
def RequestStage.answer : RequestStage → Option Payload
  | .received (.ok payload) | .cleaning (.ok payload) | .returned (.ok payload) => some payload
  | _ => none

theorem RequestStage.answer_cleaning (result : Except EventBusError Payload) :
    RequestStage.answer (.cleaning result) = RequestStage.answer (.received result) := by
  cases result <;> rfl

theorem RequestStage.answer_returned (result : Except EventBusError Payload) :
    RequestStage.answer (.returned result) = RequestStage.answer (.cleaning result) := by
  cases result <;> rfl

/-- The request has not looked at its channel yet. -/
def RequestStage.awaits : RequestStage → Bool
  | .registered | .publishing _ | .waiting => true
  | _ => false

namespace Exchange

variable {config : Config} {state next : Exchange} {label : ExchangeLabel}

/-- The dispatch was started by a replier of the subject, or by a request that names it. -/
def SentBy (state : Exchange) (i : ℕ) (subject : String) : Prop :=
  (∃ (k : ℕ) (replier : Replier), state.publishers[i]? = some (.replier k) ∧
      state.repliers[k]? = some replier ∧ replier.accepted = true ∧
      replier.replySubject = subject) ∨
    ∃ (r : ℕ) (request : Request), state.publishers[i]? = some (.request r) ∧
      state.requests[r]? = some request ∧ request.call.subject = subject

/-- Every dispatch on a reply subject was sent by a replier or a request. -/
structure Attributed (state : Exchange) : Prop where
  length : state.publishers.length = state.core.dispatches.length
  sent : ∀ (i : ℕ) (d : Dispatch), state.core.dispatches[i]? = some d →
    isReplySubject d.subject = true → state.SentBy i d.subject

variable {subject : String} {r q : ℕ} {request : Request} {store : InMemoryEventStore}

theorem SentBy.of_change {i : ℕ} (h : state.SentBy i subject)
    (hchange : Change config state label next)
    (hpublisher : ∀ publisher, state.publishers[i]? = some publisher →
      next.publishers[i]? = some publisher) : next.SentBy i subject := by
  obtain ⟨k, replier, hat, hk, haccepted, hsubject⟩ | ⟨r, request, hat, hr, hsubject⟩ := h
  · obtain ⟨replier', hk', hkept⟩ := hchange.replier_kept hk
    exact .inl ⟨k, replier', hpublisher _ hat, hk', hkept.accepted haccepted,
      hkept.replySubject.trans hsubject⟩
  · obtain ⟨stage, hr'⟩ := hchange.request_kept hr
    exact .inr ⟨r, _, hpublisher _ hat, hr', hsubject⟩

theorem Started.sent {publisher : Publisher} {d : Dispatch} (h : state.Started publisher d)
    (hstored : PersistsNoReply state.core.bus.store) (hreply : isReplySubject d.subject = true) :
    (∃ (k : ℕ) (replier : Replier), publisher = .replier k ∧ state.repliers[k]? = some replier ∧
        replier.accepted = true ∧ replier.replySubject = d.subject) ∨
      ∃ (r : ℕ) (request : Request), publisher = .request r ∧
        state.requests[r]? = some request ∧ request.call.subject = d.subject := by
  cases h with
  | caller free accepted =>
    simp [(Bus.publishEvent_starts accepted).2.1, free] at hreply
  | request at_r accepted =>
    exact .inr ⟨_, _, rfl, at_r, (Bus.publishEvent_starts accepted).2.1.symm⟩
  | replay requeued =>
    have hfree := (hstored.requeueDeadLettered requeued).2
    exact absurd hreply (by simp [hfree])
  | replier at_k accepted published =>
    exact .inl ⟨_, _, rfl, at_k, accepted, (Bus.publishEvent_starts published).2.1.symm⟩

theorem Attributed.step (h : state.Attributed) (hsound : state.Sound)
    (hchange : Change config state label next) : next.Attributed := by
  cases hchange.dispatching with
  | keeps follows length publishers =>
    refine ⟨by rw [publishers, length, h.length], fun i d hat hreply ↦ ?_⟩
    obtain ⟨before, hbefore, hlater⟩ | ⟨hlast, _⟩ := follows.origin hat
    · rw [hlater.same.subject] at hreply ⊢
      exact (h.sent i before hbefore hreply).of_change hchange fun _ hp ↦ publishers ▸ hp
    · have hlt := (List.getElem?_eq_some_iff.mp hat).1
      omega
  | @starts publisher d started dispatches publishers =>
    refine ⟨by rw [publishers, dispatches, List.length_append, List.length_append, h.length]; rfl,
      fun i d' hat hreply ↦ ?_⟩
    have hold {i : ℕ} {subject : String} (hsent : state.SentBy i subject) :
        next.SentBy i subject :=
      hsent.of_change hchange fun _ hp ↦ publishers ▸ at_concat hp publisher
    rw [dispatches] at hat
    obtain hbefore | ⟨hlast, rfl⟩ := at_of_concat hat
    · exact hold (h.sent i d' hbefore hreply)
    · have hpublisher : next.publishers[i]? = some publisher := by
        rw [publishers, hlast, ← h.length, List.getElem?_concat_length]
      obtain ⟨k, replier, rfl, hk, haccepted, hsubject⟩ | ⟨r, request, rfl, hr, hsubject⟩ :=
        started.sent hsound.stored hreply
      · obtain ⟨replier', hk', hkept⟩ := hchange.replier_kept hk
        exact .inl ⟨k, replier', hpublisher, hk', hkept.accepted haccepted,
          hkept.replySubject.trans hsubject⟩
      · obtain ⟨stage, hr'⟩ := hchange.request_kept hr
        exact .inr ⟨r, _, hpublisher, hr', hsubject⟩

/-- A replier that published is spent, and published once. -/
def PublishOnce (state : Exchange) : Prop :=
  ∀ k, state.publishers.count (.replier k) ≤ 1 ∧
    (.replier k ∈ state.publishers → ∃ replier, state.repliers[k]? = some replier ∧
      replier.replied = true)

theorem PublishOnce.step (h : state.PublishOnce) (hchange : Change config state label next) :
    next.PublishOnce := by
  have hspent {k : ℕ} (hmem : .replier k ∈ state.publishers) :
      ∃ replier, next.repliers[k]? = some replier ∧ replier.replied = true := by
    obtain ⟨replier, hk, hreplied⟩ := (h k).2 hmem
    obtain ⟨replier', hk', hkept⟩ := hchange.replier_kept hk
    exact ⟨replier', hk', hkept.replied hreplied⟩
  intro k
  cases hchange.dispatching with
  | keeps follows length publishers =>
    rw [publishers]
    exact ⟨(h k).1, hspent⟩
  | @starts publisher d started dispatches publishers spends =>
    rw [publishers]
    by_cases hk : publisher = .replier k
    · obtain ⟨replier, hat, hunsent, hafter⟩ := spends k hk
      have hnew : .replier k ∉ state.publishers := by
        intro hmem
        obtain ⟨other, hat', hreplied⟩ := (h k).2 hmem
        obtain rfl := Option.some.inj (hat.symm.trans hat')
        simp [hunsent] at hreplied
      refine ⟨?_, fun _ ↦ ⟨_, hafter, rfl⟩⟩
      rw [List.count_append, List.count_eq_zero.mpr hnew, hk]
      simp
    · refine ⟨?_, fun hmem ↦ ?_⟩
      · rw [List.count_append, List.count_singleton]
        simpa [hk] using (h k).1
      · obtain hold | hnew := List.mem_append.mp hmem
        · exact hspent hold
        · exact absurd (List.mem_singleton.mp hnew).symm hk

/-- Until a request looks at its channel, what was delivered waits there; the first of it is what
the request returns. -/
structure Served (state : Exchange) (request : Request) : Prop where
  waits : request.stage.awaits = true →
    (state.core.bus.channels request.id).queue.map (·.payload) =
      (deliveries request.id state.core.bus.log).map (·.payload)
  answer : ∀ payload, request.stage.answer = some payload →
    ((deliveries request.id state.core.bus.log).map (·.payload)).head? = some payload

theorem nodup_ids (hsound : state.Sound) : (state.requests.map (·.id)).Nodup :=
  (List.nodup_append.mp hsound.owned).1

theorem ne_of_at {α : Type} {f : Request → α} (hnodup : (state.requests.map f).Nodup)
    {other : Request} (hr : state.requests[r]? = some request)
    (hq : state.requests[q]? = some other) (hne : r ≠ q) : f request ≠ f other := by
  intro heq
  obtain ⟨hlt, rfl⟩ := List.getElem?_eq_some_iff.mp hr
  obtain ⟨hlt', rfl⟩ := List.getElem?_eq_some_iff.mp hq
  have hr' : r < (state.requests.map f).length := by simpa using hlt
  have hq' : q < (state.requests.map f).length := by simpa using hlt'
  have hmapped : (state.requests.map f)[r] = (state.requests.map f)[q] := by simpa using heq
  exact hne (hnodup.getElem_inj_iff.mp hmapped)

/-- A move that is not the request's own leaves its receiver alone. -/
theorem Change.sparesReceiver (hchange : Change config state label next) (hsound : state.Sound)
    (hq : state.requests[q]? = some request) (hlabel : ∀ move, label ≠ .ofRequest q move) :
    next = state ∨ state.SparesReceiver request.id label := by
  have howned : request.id ∈ state.requests.map (·.id) :=
    List.mem_map_of_mem (List.mem_of_getElem? hq)
  cases hchange with
  | refused => exact .inl rfl
  | @core label after allowed stepped =>
    right
    have hne {other : String} (hother : other ∉ state.ownedIds) : other ≠ request.id := by
      rintro rfl
      exact hother (List.mem_append_left _ howned)
    cases label with
    | receive other | closeChannel other => exact hne (by simpa [isCoreLabel] using allowed)
    | _ => trivial
  | @ofRequest r other move stage after at_r change =>
    right
    intro other' hother'
    have hne : r ≠ q := by
      rintro rfl
      exact hlabel move rfl
    exact ne_of_at (nodup_ids hsound) hother' hq hne
  | @ofServer j server move after at_j change =>
    right
    intro server' hserver' heq
    have hserver : server'.id ∈ state.servers.map (·.id) :=
      List.mem_map_of_mem (List.mem_of_getElem? hserver')
    exact (List.nodup_append.mp hsound.owned).2.2 _ howned _ hserver heq.symm
  | _ => exact .inr trivial

/-- Whatever others do, the channel of a request keeps up with its deliveries. -/
theorem Served.step (h : state.Served request)
    (hone : state.OneShot request.id request.replySubject)
    (hchange : Change config state label next) (hspared : state.SparesReceiver request.id label) :
    next.Served request := by
  obtain ⟨hattempts, hchannel⟩ | ⟨attempt, event, hlog, hid, hpayload, _, hqueue⟩ :=
    hone.attempt_cases (hchange.onChannel hone.used hone.unmentioned.items)
  · have hdeliveries : deliveries request.id next.core.bus.log =
        deliveries request.id state.core.bus.log := by
      unfold deliveries
      rw [hattempts]
    constructor
    · rw [hdeliveries, hchannel hspared]
      exact h.waits
    · rw [hdeliveries]
      exact h.answer
  · obtain ⟨hdelivered, hqueue⟩ | ⟨hundelivered, hchannel⟩ := hqueue
    · have hdeliveries := deliveries_delivered hdelivered state.core.bus.log
      rw [hid] at hdeliveries
      constructor
      · intro hawaits
        rw [hlog, hdeliveries, hqueue, List.map_append, List.map_append, h.waits hawaits,
          List.map_singleton, List.map_singleton, hpayload]
      · intro payload hanswer
        rw [hlog, hdeliveries, List.map_append, List.head?_append, h.answer payload hanswer]
        rfl
    · have hdeliveries := deliveries_undelivered hundelivered request.id state.core.bus.log
      constructor
      · rw [hlog, hdeliveries, hchannel]
        exact h.waits
      · rw [hlog, hdeliveries]
        exact h.answer

/-- The request takes the first delivery off its channel. -/
theorem RequestChange.served {move : RequestMove} {stage : RequestStage}
    (hchange : RequestChange state r request move stage next) (h : state.Served request) :
    next.Served { request with stage } := by
  have hattempts := hchange.attempts request.id
  have hdeliveries : deliveries request.id next.core.bus.log =
      deliveries request.id state.core.bus.log := by
    unfold deliveries
    rw [hattempts]
  cases hchange with
  | @publish bus d storeError hstage accepted =>
    refine ⟨fun _ ↦ ?_, by simp [RequestStage.answer]⟩
    have hchannel : bus.channels request.id = state.core.bus.channels request.id :=
      (Bus.publishEvent_untouched accepted).channel
    rw [hdeliveries, ← h.waits (by rw [hstage]; rfl), ← hchannel]
    rfl
  | refused | giveUp | drop => exact ⟨by simp [RequestStage.awaits], by simp [RequestStage.answer]⟩
  | published hstage => exact ⟨fun _ ↦ h.waits (by rw [hstage]; rfl), by simp [RequestStage.answer]⟩
  | @receive event rest hstage hqueue =>
    refine ⟨by simp [RequestStage.awaits], fun payload hanswer ↦ ?_⟩
    cases hanswer
    rw [hdeliveries, ← h.waits (by rw [hstage]; rfl), hqueue]
    rfl
  | dropReceiver hstage =>
    refine ⟨by simp [RequestStage.awaits], fun payload hanswer ↦ ?_⟩
    rw [hdeliveries]
    apply h.answer
    rw [hstage, ← RequestStage.answer_cleaning]
    exact hanswer
  | cleanUp hstage =>
    refine ⟨by simp [RequestStage.awaits], fun payload hanswer ↦ ?_⟩
    rw [hdeliveries]
    apply h.answer
    rw [hstage, ← RequestStage.answer_returned]
    exact hanswer

/-! ## Every run -/

/-- What holds of the requests and their replies. -/
structure Replied (state : Exchange) : Prop where
  sound : state.Sound
  attributed : state.Attributed
  once : state.PublishOnce
  oneShot : ∀ (r : ℕ) (request : Request), state.requests[r]? = some request →
    state.OneShot request.id request.replySubject
  served : ∀ (r : ℕ) (request : Request), state.requests[r]? = some request →
    state.Served request

theorem replied_build (hstore : PersistsNoReply store) (clock : ℕ) :
    (build store clock).Replied where
  sound := sound_build hstore clock
  attributed := ⟨rfl, by simp [build, System.build]⟩
  once k := by simp [build]
  oneShot := by simp [build]
  served := by simp [build]

/-- A fresh one-shot subscription is known to nobody. -/
theorem oneShot_of_registered (h : state.Sound) {ulid id : String} {index : SubjectIndex}
    (hfresh : state.freshRequest ulid id = true)
    (hregistered : state.core.bus.index.subscribe (Bus.oneShotEntry id (replySubjectOf ulid)) =
      .ok index)
    (hcore : next.core = { state.core with bus := { state.core.bus.setChannel id .oneShot with
      index
      senders := id :: state.core.bus.senders
      usedIds := id :: state.core.bus.usedIds } }) :
    next.OneShot id (replySubjectOf ulid) := by
  simp only [freshRequest, Bool.and_eq_true, decide_eq_true_eq] at hfresh
  obtain ⟨⟨⟨⟨⟨hulid, _⟩, hunused⟩, huntaken⟩, _⟩, _⟩ := hfresh
  have hunknown : ¬state.Known id := by
    rintro (hused | htaken)
    · exact hunused hused
    · exact huntaken htaken
  have hpending : ∀ d ∈ state.core.dispatches, id ∉ d.stage.pendingIds :=
    fun d hd hid ↦ hunused (h.pending d hd id hid)
  constructor
  · exact ⟨ulid, hulid, rfl⟩
  · rw [hcore]
    exact List.mem_cons_self
  · intro entry hentry hid
    rw [hcore] at hentry
    obtain rfl | hold := (SubjectIndex.mem_list_subscribe hregistered).mp hentry
    · rfl
    · exact absurd (hid ▸ h.index.used_of_mem_list hold) hunused
  · rw [hcore]
    exact fun d hd hid ↦ absurd hid (hpending d hd)
  · rw [hcore]
    exact fun d hd hid ↦ hpending d hd (d.stage.syncIds_subset id hid)
  · rw [hcore]
    have hmentions : state.core.Mentions (· ≠ id) := h.mentions.mono fun other hother heq ↦
      hunknown (heq ▸ hother)
    exact ⟨hmentions.records, hmentions.items, hmentions.reported⟩
  · rw [hcore]
    change ∀ attempt ∈ attemptsOn id state.core.bus.log, _
    rw [h.attempted id hunknown]
    exact fun _ hattempt ↦ absurd hattempt List.not_mem_nil

theorem Replied.step (h : state.Replied) (hchange : Change config state label next) :
    next.Replied where
  sound := h.sound.step hchange
  attributed := h.attributed.step h.sound hchange
  once := h.once.step hchange
  oneShot r request hr := by
    cases hchange.requestAfter hr with
    | kept before => exact (h.oneShot r request before).step h.sound hchange
    | moved label_eq before => exact (h.oneShot r _ before).step h.sound hchange
    | new label_eq fresh registered core_eq =>
      exact oneShot_of_registered h.sound fresh registered core_eq
  served r request hr := by
    cases hchange.requestAfter hr with
    | kept before spared =>
      have hbefore := h.served r request before
      have hsame (heq : next = state) : next.Served request := heq ▸ hbefore
      obtain heq | hlabel := spared
      · exact hsame heq
      obtain heq | hspares := hchange.sparesReceiver h.sound before hlabel
      · exact hsame heq
      · exact hbefore.step (h.oneShot r request before) hchange hspares
    | moved label_eq before change next_eq =>
      have hserved := change.served (h.served r _ before)
      subst next_eq
      exact ⟨hserved.waits, hserved.answer⟩
    | @new call ulid id index label_eq fresh registered core_eq =>
      simp only [freshRequest, Bool.and_eq_true, decide_eq_true_eq] at fresh
      have hnone : attemptsOn id state.core.bus.log = [] :=
        h.sound.attempted id (not_or.mpr ⟨fresh.1.1.1.2, fresh.1.1.2⟩)
      constructor
      · intro _
        simp [core_eq, Bus.setChannel, Channel.oneShot, deliveries, hnone]
      · simp [RequestStage.answer]

theorem replied_of_reach {guard : Exchange → ExchangeLabel → Prop} {clock : ℕ}
    (hstore : PersistsNoReply store)
    (hreach : Steps.Reach (step config) guard (build store clock) state) : state.Replied :=
  hreach.invariant (replied_build hstore clock) fun _ _ _ h _ hstep ↦ h.step (change_of_step hstep)

/-- The step is one of a reply on the subject: its publish, or a step of its dispatch. -/
def RepliesOn (subject : String) (state : Exchange) : ExchangeLabel → Prop
  | .reply k _ _ => ∃ replier, state.repliers[k]? = some replier ∧ replier.replySubject = subject
  | .core (.dispatch i _) => ∃ d, state.core.dispatches[i]? = some d ∧ d.subject = subject
  | _ => False

/-- A reply leaves the requests on other reply subjects alone. -/
theorem Replied.spares (h : state.Replied) (hchange : Change config state label next)
    (hreply : state.RepliesOn subject label) (hq : state.requests[q]? = some request)
    (hne : request.replySubject ≠ subject) :
    next.requests[q]? = some request ∧
      next.core.bus.channels request.id = state.core.bus.channels request.id ∧
      (next.core.bus.Registered request.id ↔ state.core.bus.Registered request.id) := by
  have hone := h.oneShot q request hq
  have hchannel (hturns : state.SparesTurns request.id label)
      (hreceiver : state.SparesReceiver request.id label) :=
    (hchange.untouched hone.used hone.unmentioned.items hreceiver hturns).channel
  have hregistered (hkeeps : state.core.bus.KeepsRegistry next.core.bus) :
      next.core.bus.Registered request.id ↔ state.core.bus.Registered request.id := by
    rw [Bus.Registered, hkeeps.index, hkeeps.senders, hkeeps.interceptors, Bus.Registered]
  cases label with
  | reply k intercepting payload =>
    refine ⟨?_, hchannel trivial trivial, hregistered ?_⟩
    · cases hchange <;> exact hq
    · cases hchange with
      | refused | replyRefused => exact ⟨rfl, rfl, rfl, rfl⟩
      | reply at_k accepted unsent published => exact Bus.publishEvent_keepsRegistry published
  | core label =>
    cases label with
    | dispatch i input =>
      obtain ⟨d, hat, hsubject⟩ := hreply
      refine ⟨?_, hchannel (fun d' hat' hpending ↦ ?_) trivial, hregistered ?_⟩
      · cases hchange <;> exact hq
      · obtain rfl := Option.some.inj (hat.symm.trans hat')
        exact hne ((hone.turns d (List.mem_of_getElem? hat) hpending).symm.trans hsubject)
      · cases hchange with
        | refused => exact ⟨rfl, rfl, rfl, rfl⟩
        | core allowed stepped => exact (System.keepsRegistry_of_step stepped rfl).1
    | _ => exact hreply.elim
  | _ => exact hreply.elim

/-- What a request returns is the first payload delivered to its channel, which a dispatch on its
reply subject carried. -/
theorem Replied.delivered (h : state.Replied) {payload : Payload}
    (hr : state.requests[r]? = some request) (hanswer : request.stage.answer = some payload) :
    ∃ (attempt : Attempt) (i : ℕ) (d : Dispatch),
      (deliveries request.id state.core.bus.log).head? = some attempt ∧ attempt.payload = payload ∧
      state.core.dispatches[i]? = some d ∧ d.subject = request.replySubject ∧
      d.stage.chainOver = true ∧ d.current = payload := by
  have hhead := (h.served r request hr).answer payload hanswer
  rw [List.head?_map, Option.map_eq_some_iff] at hhead
  obtain ⟨attempt, hattempt, hpayload⟩ := hhead
  have hmem : attempt ∈ attemptsOn request.id state.core.bus.log := by
    have hdelivered := List.mem_of_head? hattempt
    exact List.mem_of_mem_filter (List.mem_reverse.mp hdelivered)
  obtain ⟨i, d, hat, hsubject, hover, hcurrent⟩ := (h.oneShot r request hr).carried attempt hmem
  exact ⟨attempt, i, d, hattempt, hpayload, hat, hsubject, hover, hcurrent.trans hpayload⟩

/-- A request that returns a payload returns that of the first reply delivered to its channel, as
the interceptors of its reply subject left it; no two requests share a reply subject, no replier
publishes twice, and a reply touches nothing of the requests on other subjects, however late it
comes. -/
theorem request_returns_first_delivered {store : InMemoryEventStore} {clock : ℕ}
    (hstore : PersistsNoReply store)
    (hreach : Steps.Reach (step config) (fun _ _ ↦ True) (build store clock) state) :
    (∀ (r : ℕ) (request : Request) (payload : Payload), state.requests[r]? = some request →
      request.stage.answer = some payload →
      ∃ (attempt : Attempt) (i : ℕ) (d : Dispatch),
        (deliveries request.id state.core.bus.log).head? = some attempt ∧
        attempt.payload = payload ∧ state.core.dispatches[i]? = some d ∧
        d.subject = request.replySubject ∧ d.stage.chainOver = true ∧ d.current = payload ∧
        state.SentBy i request.replySubject) ∧
    (state.requests.map (·.replySubject)).Nodup ∧
    (∀ k, state.publishers.count (.replier k) ≤ 1) ∧
    ∀ (label : ExchangeLabel) (next : Exchange) (subject : String),
      step config state label = some next → state.RepliesOn subject label →
      ∀ (q : ℕ) (request : Request), state.requests[q]? = some request →
        request.replySubject ≠ subject →
        next.requests[q]? = some request ∧
          next.core.bus.channels request.id = state.core.bus.channels request.id ∧
          (next.core.bus.Registered request.id ↔ state.core.bus.Registered request.id) := by
  have h := replied_of_reach hstore hreach
  refine ⟨fun r request payload hr hanswer ↦ ?_, h.sound.replySubjects, fun k ↦ (h.once k).1,
    fun label next subject hstep hreply q request hq hne ↦
      h.spares (change_of_step hstep) hreply hq hne⟩
  obtain ⟨attempt, i, d, hattempt, hpayload, hat, hsubject, hover, hcurrent⟩ :=
    h.delivered hr hanswer
  refine ⟨attempt, i, d, hattempt, hpayload, hat, hsubject, hover, hcurrent, ?_⟩
  exact hsubject ▸ h.attributed.sent i d hat (hsubject ▸ (h.oneShot r request hr).isReplySubject)

/-- Two handlers reply to one request, and the dispatch of the second reply overtakes that of the
first. -/
def overtaken : List ExchangeLabel :=
  [.serve (ulidOf 'A') "a" 0 5000 none, .serve (ulidOf 'B') "a" 0 5000 none,
    .request ⟨none, "a", [0]⟩ (ulidOf '0') (ulidOf '1'), .ofRequest 0 (.publish none)] ++
  List.replicate 9 (.core (.turn 0 .panicked)) ++
  [.ofServer 0 .bridge, .ofServer 0 .forward, .ofServer 0 .accept, .ofServer 1 .bridge,
    .ofServer 1 .forward, .ofServer 1 .accept, .reply 0 none [1], .reply 1 none [2]] ++
  List.replicate 5 (.core (.turn 2 .panicked)) ++
  [.ofRequest 0 .published, .ofRequest 0 .receive, .ofRequest 0 .dropReceiver,
    .ofRequest 0 .cleanUp]

/-- The request returns the second reply. -/
theorem request_returns_first_delivered_overtaken :
    ∃ state ∈ Steps.execute (step (.plain 5)) (build .empty 0) overtaken,
      ∃ request ∈ state.requests, request.stage.answer = some [2] ∧
        ∃ attempt ∈ (deliveries request.id state.core.bus.log).head?, attempt.payload = [2] := by
  have hexecute : ∃ state ∈ Steps.execute (step (.plain 5)) (build .empty 0) overtaken,
      ∃ request ∈ state.requests[0]?, request.stage.answer = some [2] := by decide +kernel
  obtain ⟨state, hstate, request, hrequest, hanswer⟩ := hexecute
  have hstore : PersistsNoReply .empty := fun _ hevent ↦ absurd hevent List.not_mem_nil
  obtain ⟨attempt, _, _, hattempt, hpayload, _⟩ :=
    (request_returns_first_delivered hstore
      (Steps.reach_of_execute (by decide +kernel) hstate)).1 0 request [2] hrequest hanswer
  exact ⟨state, hstate, request, List.mem_of_getElem? hrequest, hanswer, attempt, hattempt, hpayload⟩

/-- The first reply published on its reply subject, with no interceptor in the way, was another. -/
theorem overtaken_reply_not_returned :
    ∃ state ∈ Steps.execute (step (.plain 5)) (build .empty 0) overtaken,
      state.core.bus.interceptors = [] ∧ ∃ request ∈ state.requests,
        request.stage.isOver = true ∧ request.stage.answer = some [2] ∧
        (state.core.dispatches.find? fun d ↦ d.subject = request.replySubject).map (·.payload) =
          some [1] := by
  decide +kernel

end Exchange

end Seidrum.EventBus
