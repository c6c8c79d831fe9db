import Seidrum.EventBus.RetryBudget

/-!
# The payload a retry delivers

A dispatch hands each subscriber the payload as the interceptors before it left it; the retry task
hands over the payload of the stored event.  The stored event keeps the payload it was published
with, so a retry repeats the failed attempt exactly where the interceptors before it changed nothing.

Both payloads are read off the history: what was published, and what was carried when an attempt was
made.
-/

namespace Seidrum.EventBus

open Seidrum.Foundation

/-! ## Payloads in the history -/

/-- The payload the event with a number was published with. -/
def publishedIn (seq : ℕ) : List LogEntry → Option Payload
  | [] => none
  | .appended other payload :: rest =>
      if other = seq then some payload else publishedIn seq rest
  | .attempted _ :: rest => publishedIn seq rest
  | .webhookReturned _ _ _ :: rest => publishedIn seq rest

/-- The payload after the interceptors of the event's dispatch that have completed: the buffer the
last of them left, or what was published. -/
def carriedIn (seq : ℕ) : List LogEntry → Option Payload
  | [] => none
  | .appended other payload :: rest =>
      if other = seq then some payload else carriedIn seq rest
  | .attempted attempt :: rest =>
      if attempt.seq = seq ∧ attempt.source = .dispatch ∧ attempt.buffer.isSome then attempt.buffer
      else carriedIn seq rest
  | .webhookReturned _ _ _ :: rest => carriedIn seq rest

/-- What an attempt hands over follows from the history before it. -/
def Attempt.FollowsFrom (attempt : Attempt) (history : List LogEntry) : Prop :=
  match attempt.source with
  | .dispatch => attempt.seq ≠ 0 → carriedIn attempt.seq history = some attempt.payload
  | .retry => attempt.seq ≠ 0 ∧ publishedIn attempt.seq history = some attempt.payload

section Payloads

variable {seq other : ℕ} {log : List LogEntry}

theorem publishedIn_appended_ne (payload : Payload) (h : other ≠ seq) :
    publishedIn seq (.appended other payload :: log) = publishedIn seq log := by
  rw [publishedIn, if_neg h]

theorem carriedIn_appended_ne (payload : Payload) (h : other ≠ seq) :
    carriedIn seq (.appended other payload :: log) = carriedIn seq log := by
  rw [carriedIn, if_neg h]

theorem carriedIn_attempted_ne {attempt : Attempt}
    (h : attempt.seq ≠ seq ∨ attempt.source = .retry) :
    carriedIn seq (.attempted attempt :: log) = carriedIn seq log := by
  rw [carriedIn, if_neg]
  rintro ⟨hseq, hsource, _⟩
  obtain hne | hretry := h
  · exact hne hseq
  · simp [hsource] at hretry

/-- Until its number is given out again, an event stays published as it was. -/
theorem publishedIn_append {new : List LogEntry}
    (h : ∀ payload, LogEntry.appended seq payload ∉ new) :
    publishedIn seq (new ++ log) = publishedIn seq log := by
  induction new with
  | nil => rfl
  | cons entry rest ih =>
    have hrest := ih fun payload hmem ↦ h payload (List.mem_cons_of_mem _ hmem)
    cases entry with
    | appended other payload =>
      have hne : other ≠ seq := by
        rintro rfl
        exact h payload List.mem_cons_self
      rw [List.cons_append, publishedIn_appended_ne _ hne, hrest]
    | attempted attempt | webhookReturned other id ok => exact hrest

end Payloads

namespace System

/-- The stored payloads are the published ones, a dispatch carries what its interceptors left, and
every attempt handed over what its history says. -/
structure Traced (config : Config) (system : System) : Prop where
  disjoint : system.Disjoint config
  published {seq : ℕ} {event : StoredEvent} (found : system.bus.store.find seq = some event) :
    publishedIn seq system.bus.log = some event.payload
  carried {i : ℕ} {d : Dispatch} (at_i : system.dispatches[i]? = some d)
    (active : d.active = true) : carriedIn d.seq system.bus.log = some d.current
  attempts {attempt : Attempt} {history : List LogEntry}
    (made : .attempted attempt :: history <:+ system.bus.log) : attempt.FollowsFrom history

theorem traced_build (config : Config) (clock : ℕ) : (build .empty clock).Traced config where
  disjoint := disjoint_build config clock
  published found := by simp [build, Bus.onStore, InMemoryEventStore.find,
    InMemoryEventStore.empty] at found
  carried := by simp [build]
  attempts made := by simp [build, Bus.onStore] at made

namespace Traced

variable {config : Config} {system next : System}

/-- A step that makes no attempt and appends nothing. -/
theorem of_same (h : system.Traced config) (hdisjoint : next.Disjoint config)
    (hlog : next.bus.log = system.bus.log ∨
      ∃ seq id ok, next.bus.log = .webhookReturned seq id ok :: system.bus.log)
    (hstore : ∀ seq event, next.bus.store.find seq = some event →
      ∃ old, system.bus.store.find seq = some old ∧ old.payload = event.payload)
    (hdispatches : ∀ (i : ℕ) (d : Dispatch), next.dispatches[i]? = some d → d.active = true →
      ∃ e : Dispatch, system.dispatches[i]? = some e ∧ e.active = true ∧ e.seq = d.seq ∧
        e.current = d.current) : next.Traced config := by
  have hpublished (seq : ℕ) : publishedIn seq next.bus.log = publishedIn seq system.bus.log := by
    obtain hlog | ⟨_, _, _, hlog⟩ := hlog
    · rw [hlog]
    · rw [hlog, publishedIn]
  have hcarried (seq : ℕ) : carriedIn seq next.bus.log = carriedIn seq system.bus.log := by
    obtain hlog | ⟨_, _, _, hlog⟩ := hlog
    · rw [hlog]
    · rw [hlog, carriedIn]
  constructor
  · exact hdisjoint
  · intro seq event hfound
    obtain ⟨old, hold, hpayload⟩ := hstore seq event hfound
    rw [hpublished, ← hpayload]
    exact h.published hold
  · intro i d hat hactive
    obtain ⟨e, hate, hactivee, hseq, hcurrent⟩ := hdispatches i d hat hactive
    rw [hcarried, ← hseq, ← hcurrent]
    exact h.carried hate hactivee
  · intro attempt history hmade
    obtain hlog | ⟨_, _, _, hlog⟩ := hlog
    · exact h.attempts (hlog ▸ hmade)
    · rw [hlog, List.suffix_cons_iff] at hmade
      obtain heq | hmade := hmade
      · exact absurd (List.cons.inj heq).1 (by simp)
      · exact h.attempts hmade

variable {event : StoredEvent} {d : Dispatch} {store : InMemoryEventStore} {changed seq : ℕ}
  {bus : Bus}

theorem publish (h : system.Traced config) (hstarts : Starts system.bus.store.nextSeq false event d)
    (hbus : next.bus.store = (system.bus.store.append system.bus.clock event).2)
    (hlog : next.bus.log = .appended system.bus.store.nextSeq event.payload :: system.bus.log)
    (hdispatches : next.dispatches = system.dispatches ++ [d]) (hdisjoint : next.Disjoint config) :
    next.Traced config := by
  constructor
  · exact hdisjoint
  · intro seq stored hfound
    rw [hbus, InMemoryEventStore.find_append] at hfound
    rw [hlog]
    split_ifs at hfound with hseq
    · cases hfound
      rw [publishedIn, if_pos hseq.symm]
    · rw [publishedIn_appended_ne _ (Ne.symm hseq)]
      exact h.published hfound
  · intro i e hat hactive
    rw [hdispatches] at hat
    rw [hlog]
    obtain hold | ⟨_, rfl⟩ := at_of_concat hat
    · have hlt := (h.disjoint.owns hold hactive).seq_lt_nextSeq
      rw [carriedIn_appended_ne _ hlt.ne']
      exact h.carried hold hactive
    · rw [carriedIn, if_pos hstarts.seq.symm, hstarts.current]
  · intro attempt history hmade
    rw [hlog, List.suffix_cons_iff] at hmade
    obtain heq | hmade := hmade
    · exact absurd (List.cons.inj heq).1 (by simp)
    · exact h.attempts hmade

theorem publishReply (h : system.Traced config) (hstarts : Starts 0 true event d) :
    Traced config { system with dispatches := system.dispatches ++ [d] } := by
  apply h.of_same (h.disjoint.publishReply hstarts) (.inl rfl)
  · exact fun seq event hfound ↦ ⟨event, hfound, rfl⟩
  · intro i e hat hactive
    obtain hold | ⟨_, rfl⟩ := at_of_concat hat
    · exact ⟨e, hold, hactive, rfl, rfl⟩
    · simp [Dispatch.active, hstarts.isReply] at hactive

theorem payload_of_updateStatus {status : EventStatus}
    (h : (store.updateStatus changed status).2.find seq = some event) :
    ∃ old, store.find seq = some old ∧ old.payload = event.payload := by
  rw [InMemoryEventStore.find_updateStatus] at h
  split_ifs at h
  · obtain ⟨old, hold, rfl⟩ := Option.map_eq_some_iff.mp h
    exact ⟨old, hold, rfl⟩
  · exact ⟨event, h, rfl⟩

theorem payload_of_recordDelivery {now : ℕ} {subscriberId : String} {status : DeliveryStatus}
    {error : Option String} {nextRetry : Option ℕ}
    (h : (store.recordDelivery now changed subscriberId status error nextRetry).2.find seq =
      some event) : ∃ old, store.find seq = some old ∧ old.payload = event.payload := by
  rw [InMemoryEventStore.find_recordDelivery] at h
  split_ifs at h
  · obtain ⟨old, hold, rfl⟩ := Option.map_eq_some_iff.mp h
    exact ⟨old, hold, rfl⟩
  · exact ⟨event, h, rfl⟩

theorem dispatch (h : system.Traced config) {input : DispatchInput} {i : ℕ} {d' : Dispatch}
    (hat : system.dispatches[i]? = some d)
    (hchange : Dispatch.Change config input system.bus d bus d') :
    Traced config { system with bus, dispatches := system.dispatches.set i d' } := by
  have hdisjoint := h.disjoint.dispatch hat hchange
  have hpayloads : ∀ seq event, bus.store.find seq = some event →
      ∃ old, system.bus.store.find seq = some old ∧ old.payload = event.payload := by
    apply hchange.keeps (P := fun store ↦ ∀ seq event, store.find seq = some event →
      ∃ old, system.bus.store.find seq = some old ∧ old.payload = event.payload)
    · exact fun seq event hfound ↦ ⟨event, hfound, rfl⟩
    · exact fun _ _ _ _ ↦ payload_of_updateStatus
    · exact fun _ _ _ _ _ _ ↦ payload_of_recordDelivery
  have hsame (hcurrent : d'.current = d.current) (j : ℕ) (e : Dispatch)
      (hatj : (system.dispatches.set i d')[j]? = some e) (hactive : e.active = true) :
      ∃ e' : Dispatch, system.dispatches[j]? = some e' ∧ e'.active = true ∧ e'.seq = e.seq ∧
        e'.current = e.current := by
    obtain ⟨hij, rfl⟩ | ⟨_, hj⟩ := at_of_set hatj
    · exact ⟨d, hij ▸ hat, hchange.active_before hactive, hchange.same.seq.symm, hcurrent.symm⟩
    · exact ⟨e, hj, hactive, rfl, rfl⟩
  cases hchange.effect with
  | silent _ _ current _ log => exact h.of_same hdisjoint (.inl log) hpayloads (hsame current)
  | record =>
    exact h.of_same hdisjoint (.inl (Bus.recordDelivery_log _ _ _ _)) hpayloads (hsame rfl)
  | @attempt id result next turn =>
    have hlog : (d.finishAttempt config input id result next).1.log = _ := turn.log
    constructor
    · exact hdisjoint
    · intro seq event hfound
      obtain ⟨old, hold, hpayload⟩ := hpayloads seq event hfound
      simp only [hlog]
      rw [publishedIn, ← hpayload]
      exact h.published hold
    · intro j e hatj hactive
      simp only [hlog]
      obtain ⟨_, rfl⟩ | ⟨hij, hj⟩ := at_of_set hatj
      · have hcarried := h.carried hat (hchange.active_before hactive)
        cases hbuffer : result.buffer with
        | some buffer =>
          rw [carriedIn, if_pos ⟨rfl, rfl, by simp [Dispatch.attemptOf, hbuffer]⟩]
          simp [Dispatch.attemptOf, Dispatch.finishAttempt, hbuffer]
        | none =>
          rw [carriedIn, if_neg (by simp [Dispatch.attemptOf, hbuffer])]
          simpa [Dispatch.finishAttempt, hbuffer] using hcarried
      · have hne : d.seq ≠ e.seq := by
          by_cases hactived : d.active = true
          · exact fun hseq ↦ hij (h.disjoint.apart hat hj hactived hactive hseq)
          · have hreply : d.isReply = true := by
              simpa [Dispatch.active, turn.running] using hactived
            rw [h.disjoint.replies hat hreply]
            exact (h.disjoint.seq_ne_zero hj hactive).symm
        rw [carriedIn_attempted_ne (.inl hne)]
        exact h.carried hj hactive
    · intro attempt history hmade
      simp only [hlog] at hmade
      obtain heq | hmade := List.suffix_cons_iff.mp hmade
      · obtain ⟨hattempt, rfl⟩ := List.cons.inj heq
        obtain rfl := LogEntry.attempted.inj hattempt
        intro hseq
        have hactive : d.active = true := by
          by_contra hinactive
          have hreply : d.isReply = true := by
            simpa [Dispatch.active, turn.running] using hinactive
          exact hseq (h.disjoint.replies hat hreply)
        exact h.carried hat hactive
      · exact h.attempts hmade

theorem retry (h : system.Traced config) {input : RetryInput} {phase : RetryPhase}
    (hchange : RetryPhase.Change config input system.bus system.retry bus phase) :
    Traced config { system with bus, retry := phase } := by
  have hdisjoint := h.disjoint.retry hchange
  have hpayloads : ∀ seq event, bus.store.find seq = some event →
      ∃ old, system.bus.store.find seq = some old ∧ old.payload = event.payload := by
    apply hchange.keeps (P := fun store ↦ ∀ seq event, store.find seq = some event →
      ∃ old, system.bus.store.find seq = some old ∧ old.payload = event.payload)
    · exact fun seq event hfound ↦ ⟨event, hfound, rfl⟩
    · exact fun _ _ _ _ _ _ ↦ payload_of_updateStatus
    · exact fun _ _ _ _ _ _ ↦ payload_of_recordDelivery
  have hsame (j : ℕ) (e : Dispatch) (hat : system.dispatches[j]? = some e)
      (hactive : e.active = true) : ∃ e' : Dispatch, system.dispatches[j]? = some e' ∧
        e'.active = true ∧ e'.seq = e.seq ∧ e'.current = e.current :=
    ⟨e, hat, hactive, rfl, rfl⟩
  generalize hbefore : system.retry = before at hchange
  cases hchange with
  | rest | exhausted | lookUp | load | skip =>
    exact h.of_same hdisjoint (.inl rfl) hpayloads hsame
  | record =>
    exact h.of_same hdisjoint (.inl (Bus.recordDelivery_log _ _ _ _)) hpayloads hsame
  | finalize =>
    exact h.of_same hdisjoint (.inl (Bus.updateStatus_log _ _ _ _)) hpayloads hsame
  | @attempt _ item todo answer turn =>
    -- the answer is logged first, if a webhook was called, and then the attempt
    have hanswered : Traced config { system with bus := answer.2 } := by
      apply h.of_same
      · exact h.disjoint.of_same (h.disjoint.index.of_keeps turn.answered.registry)
          turn.answered.store rfl rfl
      · obtain hlog | hlog := turn.answered.log
        · exact .inl hlog
        · exact .inr ⟨_, _, _, hlog⟩
      · exact fun seq event hfound ↦ ⟨event, turn.answered.store ▸ hfound, rfl⟩
      · exact hsame
    have hitem : item ∈ system.retry.items := by
      rw [hbefore, turn.items]
      exact List.mem_cons_self
    constructor
    · exact hdisjoint
    · exact fun hfound ↦ hanswered.published hfound
    · intro j e hat hactive
      have hcarried := hanswered.carried hat hactive
      simp only [RetryPhase.finishAttempt, Bus.note]
      rw [carriedIn_attempted_ne (.inr rfl)]
      exact hcarried
    · intro attempt history hmade
      simp only [RetryPhase.finishAttempt, Bus.note] at hmade
      obtain heq | hmade := List.suffix_cons_iff.mp hmade
      · obtain ⟨hattempt, rfl⟩ := List.cons.inj heq
        obtain rfl := LogEntry.attempted.inj hattempt
        obtain ⟨event, _, hfound, _, _, _, _, hpayload, _⟩ := h.disjoint.current hitem
        have hpublished := hanswered.published (turn.answered.store ▸ hfound)
        rw [hpayload] at hpublished
        exact ⟨(h.disjoint.pos_of_find hfound).ne', hpublished⟩
      · exact hanswered.attempts hmade

theorem step (h : system.Traced config) {label : Label} (hspared : system.SparesInUse label)
    (hstep : System.step config system label = some next) : next.Traced config := by
  have hdisjoint := h.disjoint.step hspared hstep
  have hsame (j : ℕ) (e : Dispatch) (hat : system.dispatches[j]? = some e)
      (hactive : e.active = true) : ∃ e' : Dispatch, system.dispatches[j]? = some e' ∧
        e'.active = true ∧ e'.seq = e.seq ∧ e'.current = e.current :=
    ⟨e, hat, hactive, rfl, rfl⟩
  cases change_of_step hstep with
  | quiet quiet =>
    apply h.of_same hdisjoint quiet.log
    · exact fun seq event hfound ↦ ⟨event, quiet.store ▸ hfound, rfl⟩
    · exact fun j e hat ↦ hsame j e (quiet.dispatches ▸ hat)
  | publish fresh starts => exact h.publish starts rfl rfl rfl hdisjoint
  | publishReply starts => exact h.publishReply starts
  | dispatch at_i running => exact h.dispatch at_i (Dispatch.change_of_step _ _ _ running)
  | poll =>
    exact h.of_same hdisjoint (.inl rfl) (fun seq event hfound ↦ ⟨event, hfound, rfl⟩) hsame
  | retry busy => exact h.retry (RetryPhase.change_of_step _ _ _ busy)
  | compact =>
    apply h.of_same hdisjoint (.inl rfl)
    · intro seq event hfound
      simp only [InMemoryEventStore.find_compact] at hfound
      exact ⟨event, (Option.filter_eq_some_iff.mp hfound).1, rfl⟩
    · exact hsame

end Traced

/-- A retry hands over what an attempt of the dispatch of the same event carried, in particular the
failed first attempt on the same subscriber, exactly if the interceptors that had completed before
that attempt left the payload as it was published. -/
theorem retry_repeats_attempt_iff (config : Config) (clock : ℕ) {system : System}
    (hreach : Steps.Reach (step config) SparesInUse (build .empty clock) system)
    {after middle before : List LogEntry} {first retry : Attempt}
    (hlog : system.bus.log =
      after ++ .attempted retry :: (middle ++ .attempted first :: before))
    (hfirst : first.source = .dispatch) (hretry : retry.source = .retry)
    (hevent : retry.seq = first.seq) (hsame : ∀ payload, .appended first.seq payload ∉ middle) :
    retry.payload = first.payload ↔
      carriedIn first.seq before = publishedIn first.seq before := by
  have h : system.Traced config :=
    hreach.invariant (traced_build config clock) fun _ _ _ h hspared hstep ↦ h.step hspared hstep
  have hlast : .attempted retry :: (middle ++ .attempted first :: before) <:+ system.bus.log :=
    ⟨after, hlog.symm⟩
  have hretried := h.attempts hlast
  have hmade : .attempted first :: before <:+ system.bus.log :=
    ⟨after ++ .attempted retry :: middle, by rw [hlog]; simp⟩
  have hcarried := h.attempts hmade
  unfold Attempt.FollowsFrom at hretried hcarried
  rw [hretry, hevent] at hretried
  rw [hfirst] at hcarried
  obtain ⟨hpos, hpublished⟩ := hretried
  rw [publishedIn_append hsame, publishedIn] at hpublished
  rw [hcarried hpos, hpublished, Option.some.injEq, eq_comm]

/-- An interceptor leaves a buffer, the forwarder of a webhook is gone, and the webhook is called by
the retry task. -/
def calledOnRetry (buffer : Payload) : List Label :=
  [.createSubscription "s" "a" "https://example.org" 10, .intercept "i" "a" 1 none,
    .closeChannel "s", .publishByte "a" 1] ++ List.replicate 9 (.turn 0 (.completed .pass buffer)) ++
    [.tick 1000, .poll] ++ List.replicate 2 .retryTurn

theorem retry_repeats_attempt_untouched :
    ∃ system, Steps.execute (step (.plain 5)) (build .empty 0) (calledOnRetry [1]) = some system ∧
      ∃ first retry : Attempt, .attempted first ∈ system.bus.log ∧
        .attempted retry ∈ system.bus.log ∧ first.source = .dispatch ∧
        first.subscriberId = "s" ∧ retry.source = .retry ∧ retry.payload = first.payload := by
  let first : Attempt := ⟨1, "s", [1], .dispatch, .transient, 0, none⟩
  let retry : Attempt := ⟨1, "s", [1], .retry, .delivered, 1000, none⟩
  let before : List LogEntry :=
    [.attempted ⟨1, "i", [1], .dispatch, .delivered, 0, some [1]⟩, .appended 1 [1]]
  have hexecute : (Steps.execute (step (.plain 5)) (build .empty 0) (calledOnRetry [1])).map
      (·.bus.log) = some ([] ++ .attempted retry ::
        ([.webhookReturned 1 "s" true] ++ .attempted first :: before)) := by
    decide +kernel
  obtain ⟨system, hsystem, hlog⟩ := Option.map_eq_some_iff.mp hexecute
  have hreach : Steps.Reach (step (.plain 5)) SparesInUse (build .empty 0) system :=
    Steps.reach_of_execute (by decide +kernel) hsystem
  refine ⟨system, hsystem, first, retry, by simp [hlog], by simp [hlog], rfl, rfl, rfl, ?_⟩
  exact (retry_repeats_attempt_iff (.plain 5) 0 hreach hlog rfl rfl rfl (by simp)).mpr rfl

/-- A retry undoes the rewrite of an interceptor. -/
theorem calledOnRetry_undoes_rewrite :
    ∃ system, Steps.Reach (step (.plain 5)) Orderly (build .empty 0) system ∧
      (attemptsOf 1 "s" system.bus.log).map
          (fun attempt ↦ (attempt.source, attempt.outcome, attempt.payload)) =
        [(.retry, .delivered, [1]), (.dispatch, .transient, [2])] ∧
      (attemptsOf 1 "i" system.bus.log).map (·.buffer) = [some [2]] := by
  have hexecute : ∃ system ∈ Steps.execute (step (.plain 5)) (build .empty 0) (calledOnRetry [2]),
      (attemptsOf 1 "s" system.bus.log).map
          (fun attempt ↦ (attempt.source, attempt.outcome, attempt.payload)) =
        [(.retry, .delivered, [1]), (.dispatch, .transient, [2])] ∧
      (attemptsOf 1 "i" system.bus.log).map (·.buffer) = [some [2]] := by
    decide +kernel
  obtain ⟨system, hsystem, hattempts⟩ := hexecute
  exact ⟨system, Steps.reach_of_execute (by decide +kernel) hsystem, hattempts⟩

end System

end Seidrum.EventBus
