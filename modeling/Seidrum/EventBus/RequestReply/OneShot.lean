import Seidrum.EventBus.Ownership
import Seidrum.EventBus.RequestReply.Frame

/-!
# The one-shot subscription of a request

Nobody but the dispatches on its reply subject knows the id of a one-shot subscription, so its
channel holds what those dispatches delivered, in the order of their deliveries, until the request
takes the first of them.
-/

namespace Seidrum.EventBus

open Seidrum.Foundation

/-- The attempts that delivered something to a subscriber, oldest first. -/
def deliveries (id : String) (log : List LogEntry) : List Attempt :=
  ((attemptsOn id log).filter (·.outcome = .delivered)).reverse

variable {attempt : Attempt}

theorem deliveries_delivered (h : attempt.outcome = .delivered) (log : List LogEntry) :
    deliveries attempt.subscriberId (.attempted attempt :: log) =
      deliveries attempt.subscriberId log ++ [attempt] := by
  rw [deliveries, attemptsOn_attempted, if_pos rfl, List.filter_cons_of_pos (by simpa using h),
    List.reverse_cons]
  rfl

theorem deliveries_undelivered (h : attempt.outcome ≠ .delivered) (id : String)
    (log : List LogEntry) : deliveries id (.attempted attempt :: log) = deliveries id log := by
  rw [deliveries, attemptsOn_attempted]
  split_ifs
  · rw [List.filter_cons_of_neg (by simpa using h)]
    rfl
  · rfl

namespace Bus

/-- A send to an asynchronous subscriber puts the event on its channel, or changes nothing. -/
theorem asyncAttempt_cases (id : String) (sender : Bool) (event : DispatchedEvent) (bus : Bus) :
    ((bus.asyncAttempt id sender event).status = .delivered ∧
      ((bus.asyncAttempt id sender event).bus.channels id).queue =
        (bus.channels id).queue ++ [event] ∧
      (bus.asyncAttempt id sender event).bus.log = bus.log) ∨
    ((bus.asyncAttempt id sender event).status = .failed ∧
      (bus.asyncAttempt id sender event).bus = bus) := by
  unfold asyncAttempt sendResult
  split
  · split
    · rename_i channel hsend
      left
      unfold Channel.trySend at hsend
      split_ifs at hsend
      cases hsend
      exact ⟨rfl, by simp [setChannel], rfl⟩
    · exact .inr ⟨rfl, rfl⟩
  · exact .inr ⟨rfl, rfl⟩

end Bus

namespace Dispatch

variable {config : Config} {input : DispatchInput} {bus : Bus} {d : Dispatch} {id : String}
  {result : AttemptResult} {next : Stage}

/-- What a turn on an asynchronous subscriber does to its channel and to the history. -/
theorem Turn.onChannel (h : Turn input bus d id result next) (hasync : id ∉ d.stage.syncIds) :
    d.stage.chainOver = true ∧ ∃ attempt : Attempt,
      attempt.subscriberId = id ∧ attempt.payload = d.current ∧
      (d.finishAttempt config input id result next).1.log = .attempted attempt :: bus.log ∧
      (attempt.outcome = .delivered ∧
          ((d.finishAttempt config input id result next).1.channels id).queue =
            (bus.channels id).queue ++ [d.event] ∨
        attempt.outcome ≠ .delivered ∧
          (d.finishAttempt config input id result next).1.channels id = bus.channels id) := by
  cases h with
  | sync stage => simp [stage, Stage.syncIds] at hasync
  | @async id sender todo stage =>
    refine ⟨by rw [stage]; rfl, d.attemptOf id (bus.asyncAttempt id sender d.event), rfl, rfl, ?_⟩
    obtain ⟨hstatus, hqueue, hlog⟩ | ⟨hstatus, hbus⟩ := bus.asyncAttempt_cases id sender d.event
    · refine ⟨?_, .inl ⟨?_, hqueue⟩⟩
      · simp only [finishAttempt, Bus.note, hlog]
      · simp only [attemptOf, hstatus, AttemptOutcome.ofStatus]
    · refine ⟨?_, .inr ⟨?_, ?_⟩⟩
      · simp only [finishAttempt, Bus.note, hbus]
      · simp [attemptOf, hstatus, AttemptOutcome.ofStatus]
      · simp only [finishAttempt, Bus.note, hbus]

end Dispatch

/-! ## What holds of the bus -/

namespace Bus

variable {bus next : Bus} {entry : SubscriptionEntry}

theorem Registering.distinctIndex (h : bus.Registering next) (hindex : bus.DistinctIndex) :
    next.DistinctIndex := by
  cases h with
  | keeps keeps => exact hindex.of_keeps keeps
  | registers registers =>
    exact hindex.subscribe registers.fresh registers.subscribed rfl registers.usedIds
  | unsubscribe id keeps => exact (hindex.unsubscribe id).of_keeps keeps

/-- An entry that was not registered before is registered under a fresh id. -/
theorem Registering.mem_list (h : bus.Registering next) (hentry : entry ∈ next.index.list none) :
    entry ∈ bus.index.list none ∨ entry.id ∉ bus.usedIds := by
  cases h with
  | keeps keeps => exact .inl (keeps.index ▸ hentry)
  | registers registers =>
    obtain rfl | hold := (SubjectIndex.mem_list_subscribe registers.subscribed).mp hentry
    · exact .inr registers.fresh
    · exact .inl hold
  | unsubscribe id keeps =>
    rw [keeps.index] at hentry
    exact .inl (SubjectIndex.mem_list_unsubscribe.mp hentry).1

theorem DistinctIndex.used_of_mem_lookup (h : bus.DistinctIndex) {subject : String}
    (hmem : entry ∈ bus.index.lookup subject) : entry.id ∈ bus.usedIds := by
  obtain ⟨live, hlive, _, hids⟩ := h
  exact hids entry (hlive.mem_lookup_iff.mp hmem).1

theorem DistinctIndex.used_of_mem_list (h : bus.DistinctIndex) (hmem : entry ∈ bus.index.list none) :
    entry.id ∈ bus.usedIds := by
  obtain ⟨live, hlive, _, hids⟩ := h
  exact hids entry (hlive.walk.mem_iff.mp hmem)

end Bus

namespace Exchange

/-- The id was given out by the bus or found in its store. -/
def Known (state : Exchange) (id : String) : Prop :=
  id ∈ state.core.bus.usedIds ∨ id ∈ state.taken

def PersistsNoReply (store : InMemoryEventStore) : Prop :=
  store.Addressed fun subject _ ↦ isReplySubject subject = false

/-- What holds of the bus, whatever its requests do. -/
structure Sound (state : Exchange) : Prop where
  index : state.core.bus.DistinctIndex
  pending : ∀ d ∈ state.core.dispatches, ∀ id ∈ d.stage.pendingIds, id ∈ state.core.bus.usedIds
  mentions : state.core.Mentions state.Known
  attempted : ∀ id, ¬state.Known id → attemptsOn id state.core.bus.log = []
  stored : PersistsNoReply state.core.bus.store
  ephemeral : ∀ d ∈ state.core.dispatches, isReplySubject d.subject = true → d.isReply = true
  owned : state.ownedIds.Nodup
  ownedUsed : ∀ id ∈ state.ownedIds, id ∈ state.core.bus.usedIds
  replySubjects : (state.requests.map (·.replySubject)).Nodup

variable {config : Config} {state next : Exchange}

theorem sound_build {store : InMemoryEventStore} (hstore : PersistsNoReply store) (clock : ℕ) :
    (build store clock).Sound where
  index := Bus.distinctIndex_onStore store clock
  pending := by simp [build, System.build]
  mentions := by
    refine ⟨fun event hevent record hrecord ↦ .inr ?_, by simp [build, System.build, RetryPhase.items],
      by simp [build, System.build]⟩
    apply List.mem_flatMap.mpr
    exact ⟨event, hevent, List.mem_append_right _ (List.mem_map_of_mem hrecord)⟩
  attempted _ _ := rfl
  stored := hstore
  ephemeral := by simp [build, System.build]
  owned := by simp [build, ownedIds]
  ownedUsed := by simp [build, ownedIds]
  replySubjects := by simp [build]

variable {label : ExchangeLabel}

theorem Change.known (h : Change config state label next) {id : String} (hid : state.Known id) :
    next.Known id :=
  hid.imp (h.registering.registersFresh.used id) fun htaken ↦ h.taken ▸ htaken

theorem Change.pending (hchange : Change config state label next) (h : state.Sound) :
    ∀ d ∈ next.core.dispatches, ∀ id ∈ d.stage.pendingIds,
      id ∈ next.core.bus.usedIds := by
  intro d hd id hid
  apply hchange.registering.registersFresh.used id
  obtain ⟨i, hat⟩ := List.mem_iff_getElem?.mp hd
  obtain ⟨before, hbefore, hlater⟩ | ⟨_, hstage⟩ := hchange.follows.origin hat
  · obtain hold | ⟨entry, hentry, rfl⟩ := hlater.pending id hid
    · exact h.pending before (List.mem_of_getElem? hbefore) id hold
    · exact h.index.used_of_mem_lookup hentry
  · simp [hstage, Stage.pendingIds] at hid

/-- What the store holds stays addressed with a property of the events that are persisted. -/
theorem Change.stored {P : String → Option String → Prop} (hchange : Change config state label next)
    (h : state.core.bus.store.Addressed P)
    (hplain : ∀ subject, isReplySubject subject = false → P subject none)
    (hrequest : ∀ request ∈ state.requests, isReplySubject request.call.subject = false →
      P request.call.subject (some request.replySubject)) : next.core.bus.store.Addressed P := by
  have hpublish {intercepting : Option String} {subject : String} {payload : Payload}
      {replySubject : Option String} {storeError : Option StorageError} {bus : Bus} {d : Dispatch}
      (haccepted : state.core.bus.publishEvent intercepting subject payload replySubject
        storeError = .ok (bus, d))
      (hP : isReplySubject subject = false → P subject replySubject) :
      bus.store.Addressed P := by
    have hreply := Bus.publishEvent_isReply haccepted
    obtain ⟨-, _, rfl⟩ | ⟨-, hstarts, rfl⟩ := Bus.publishEvent_ok haccepted
    · exact h
    · exact h.append _ (hP (hreply ▸ hstarts.isReply))
  cases hchange with
  | core allowed stepped =>
    exact System.store_addressed_of_step h stepped (keepsDispatches_of_isCoreLabel allowed)
  | publish free accepted => exact hpublish accepted (hplain _)
  | replay requeued => exact (h.requeueDeadLettered requeued).1
  | ofRequest at_r change =>
    cases change with
    | publish stage accepted =>
      exact hpublish accepted (hrequest _ (List.mem_of_getElem? at_r))
    | _ => exact h
  | ofServer at_j change =>
    cases change with
    | bridge => rw [bridgeEvent_core]; exact h
    | _ => exact h
  | reply at_k accepted unsent published => exact hpublish published (hplain _)
  | _ => exact h

theorem Started.ephemeral {publisher : Publisher} {d : Dispatch} (h : state.Started publisher d)
    (hstored : PersistsNoReply state.core.bus.store) (hreply : isReplySubject d.subject = true) :
    d.isReply = true := by
  have hpublish {intercepting : Option String} {subject : String} {payload : Payload}
      {replySubject : Option String} {storeError : Option StorageError} {bus : Bus}
      (haccepted : state.core.bus.publishEvent intercepting subject payload replySubject
        storeError = .ok (bus, d)) : d.isReply = true := by
    rw [Bus.publishEvent_isReply haccepted, ← (Bus.publishEvent_starts haccepted).2.1, hreply]
  cases h with
  | caller free accepted | request at_r accepted => exact hpublish accepted
  | replay requeued =>
    have hfree := (hstored.requeueDeadLettered requeued).2
    exact absurd hreply (by simp [hfree])
  | replier at_k accepted published => exact hpublish published

theorem Change.ephemeral (hchange : Change config state label next) (h : state.Sound) :
    ∀ d ∈ next.core.dispatches, isReplySubject d.subject = true → d.isReply = true := by
  intro d hd hreply
  obtain ⟨before, hbefore, hlater⟩ | ⟨publisher, hstarted⟩ := hchange.later_or_started hd
  · rw [hlater.same.isReply]
    exact h.ephemeral before hbefore (hlater.same.subject ▸ hreply)
  · exact hstarted.ephemeral h.stored hreply

theorem Sound.step (h : state.Sound) (hchange : Change config state label next) : next.Sound where
  index := hchange.registering.distinctIndex h.index
  pending := hchange.pending h
  mentions := hchange.mentions (h.mentions.mono fun _ ↦ hchange.known) fun d hd _ id hid ↦
    hchange.known (.inl (h.pending d hd id hid))
  attempted id hid := by
    have hunknown : ¬state.Known id := fun hknown ↦ hid (hchange.known hknown)
    rw [← h.attempted id hunknown]
    apply hchange.attempts
    · rintro item hitem rfl
      exact hunknown (h.mentions.items item hitem)
    · cases label with
      | core label =>
        cases label with
        | dispatch i input =>
          exact fun d hat hpending ↦
            hunknown (.inl (h.pending d (List.mem_of_getElem? hat) id hpending))
        | _ => trivial
      | _ => trivial
  stored := hchange.stored h.stored (fun _ hfree ↦ hfree) fun _ _ hfree ↦ hfree
  ephemeral := hchange.ephemeral h
  owned := by
    obtain heq | ⟨id, hfresh, _, hperm⟩ := hchange.ownedIds
    · exact heq ▸ h.owned
    · exact hperm.nodup_iff.mpr (List.nodup_cons.mpr ⟨fun hid ↦ hfresh (h.ownedUsed id hid), h.owned⟩)
  ownedUsed id hid := by
    obtain heq | ⟨new, _, hused, hperm⟩ := hchange.ownedIds
    · exact hchange.registering.registersFresh.used id (h.ownedUsed id (heq ▸ hid))
    · obtain rfl | hold := List.mem_cons.mp (hperm.mem_iff.mp hid)
      · exact hused
      · exact hchange.registering.registersFresh.used id (h.ownedUsed id hold)
  replySubjects := by
    obtain heq | ⟨subject, hfresh, heq⟩ := hchange.replySubjects
    · exact heq ▸ h.replySubjects
    · rw [heq]
      exact List.nodup_append_comm.mp (List.nodup_cons.mpr ⟨hfresh, h.replySubjects⟩)

/-- Some dispatch on the subject got past its interceptors with the payload of the attempt. -/
def Carries (state : Exchange) (subject : String) (attempt : Attempt) : Prop :=
  ∃ (i : ℕ) (d : Dispatch), state.core.dispatches[i]? = some d ∧ d.subject = subject ∧
    d.stage.chainOver = true ∧ d.current = attempt.payload

/-- Only the dispatches on a reply subject know of the subscription that waits for it. -/
structure OneShot (state : Exchange) (id subject : String) : Prop where
  subject_eq : ∃ ulid, isUlid ulid = true ∧ subject = replySubjectOf ulid
  used : id ∈ state.core.bus.usedIds
  entries : ∀ entry ∈ state.core.bus.index.list none, entry.id = id →
    entry = Bus.oneShotEntry id subject
  turns : ∀ d ∈ state.core.dispatches, id ∈ d.stage.pendingIds → d.subject = subject
  async : ∀ d ∈ state.core.dispatches, id ∉ d.stage.syncIds
  unmentioned : state.core.Mentions (· ≠ id)
  carried : ∀ attempt ∈ attemptsOn id state.core.bus.log, state.Carries subject attempt

variable {id subject : String}

theorem OneShot.isReplySubject (h : state.OneShot id subject) : isReplySubject subject = true := by
  obtain ⟨ulid, _, rfl⟩ := h.subject_eq
  exact isReplySubject_replySubjectOf ulid

theorem OneShot.of_mem_lookup (h : state.OneShot id subject) (hsound : state.Sound)
    {other : String} {entry : SubscriptionEntry} (hmem : entry ∈ state.core.bus.index.lookup other)
    (hid : entry.id = id) : other = subject ∧ entry.mode = .async := by
  obtain ⟨live, hlive, _⟩ := hsound.index
  obtain ⟨hlist, hmatches⟩ := hlive.mem_list_of_mem_lookup hmem
  obtain ⟨ulid, hulid, hsubject⟩ := h.subject_eq
  have hentry := h.entries entry hlist hid
  rw [hentry, Bus.oneShotEntry, hsubject] at hmatches
  exact ⟨hsubject ▸ eq_of_matches_replySubject hulid hmatches, by rw [hentry]; rfl⟩

theorem Carries.of_follows {attempt : Attempt} (h : state.Carries subject attempt)
    (hfollows : Dispatch.Follows state.core.bus state.core.dispatches next.core.dispatches) :
    next.Carries subject attempt := by
  obtain ⟨i, d, hat, hsubject, hover, hcurrent⟩ := h
  obtain ⟨d', hat', hlater⟩ := hfollows.kept hat
  obtain ⟨hover', hcurrent'⟩ := hlater.ended hover
  exact ⟨i, d', hat', hlater.same.subject.trans hsubject, hover', hcurrent'.trans hcurrent⟩

/-- A step makes no attempt on the subscription, or one that a dispatch on the subject carries. -/
theorem OneShot.attempt_cases (h : state.OneShot id subject)
    (hchannel : state.OnChannel config id label next) :
    (attemptsOn id next.core.bus.log = attemptsOn id state.core.bus.log ∧
      (state.SparesReceiver id label →
        next.core.bus.channels id = state.core.bus.channels id)) ∨
    ∃ attempt event, next.core.bus.log = .attempted attempt :: state.core.bus.log ∧
      attempt.subscriberId = id ∧ event.payload = attempt.payload ∧
      next.Carries subject attempt ∧
      (attempt.outcome = .delivered ∧ (next.core.bus.channels id).queue =
          (state.core.bus.channels id).queue ++ [event] ∨
        attempt.outcome ≠ .delivered ∧
          next.core.bus.channels id = state.core.bus.channels id) := by
  cases hchannel with
  | untouched attempts channel => exact .inl ⟨attempts, channel⟩
  | @turn i input d result rest label_eq at_i turn bus after =>
    right
    have hmem := List.mem_of_getElem? at_i
    have hsubject := h.turns d hmem (turn.pendingIds ▸ List.mem_cons_self)
    obtain ⟨hover, attempt, hid, hpayload, hlog, hqueue⟩ := turn.onChannel (h.async d hmem)
    have hturned : Dispatch.Change config input state.core.bus d _ _ := .attempt turn
    have hlater := hturned.later
    obtain ⟨hover', hcurrent⟩ := hlater.ended hover
    refine ⟨attempt, d.event, bus ▸ hlog, hid, hpayload.symm, ?_, bus ▸ hqueue⟩
    exact ⟨i, _, after, hlater.same.subject.trans hsubject, hover', hcurrent.trans hpayload.symm⟩

theorem OneShot.step (h : state.OneShot id subject) (hsound : state.Sound)
    (hchange : Change config state label next) : next.OneShot id subject where
  subject_eq := h.subject_eq
  used := hchange.registering.registersFresh.used id h.used
  entries entry hentry hid := by
    obtain hold | hfresh := hchange.registering.mem_list hentry
    · exact h.entries entry hold hid
    · exact absurd (hid ▸ h.used) hfresh
  turns d hd hpending := by
    obtain ⟨i, hat⟩ := List.mem_iff_getElem?.mp hd
    obtain ⟨before, hbefore, hlater⟩ | ⟨_, hstage⟩ := hchange.follows.origin hat
    · rw [hlater.same.subject]
      obtain hold | ⟨entry, hentry, hid⟩ := hlater.pending id hpending
      · exact h.turns before (List.mem_of_getElem? hbefore) hold
      · exact (h.of_mem_lookup hsound hentry hid).1
    · simp [hstage, Stage.pendingIds] at hpending
  async d hd hsync := by
    obtain ⟨i, hat⟩ := List.mem_iff_getElem?.mp hd
    obtain ⟨before, hbefore, hlater⟩ | ⟨_, hstage⟩ := hchange.follows.origin hat
    · obtain hold | ⟨entry, hentry, hid, hmode⟩ := hlater.sync id hsync
      · exact h.async before (List.mem_of_getElem? hbefore) hold
      · have hasync := (h.of_mem_lookup hsound hentry hid).2
        simp [hmode] at hasync
    · simp [hstage, Stage.syncIds] at hsync
  unmentioned := by
    apply hchange.mentions h.unmentioned
    rintro d hd hactive other hother rfl
    have hsubject := h.turns d hd hother
    have hephemeral := hsound.ephemeral d hd (hsubject ▸ h.isReplySubject)
    simp [Dispatch.active, hephemeral] at hactive
  carried attempt hattempt := by
    obtain ⟨hattempts, _⟩ | ⟨new, _, hlog, hid, _, hcarries, _⟩ :=
      h.attempt_cases (hchange.onChannel h.used h.unmentioned.items)
    · exact (h.carried attempt (hattempts ▸ hattempt)).of_follows hchange.follows
    · rw [hlog, attemptsOn_attempted, if_pos hid] at hattempt
      obtain rfl | hold := List.mem_cons.mp hattempt
      · exact hcarries
      · exact (h.carried attempt hold).of_follows hchange.follows

end Exchange

end Seidrum.EventBus
