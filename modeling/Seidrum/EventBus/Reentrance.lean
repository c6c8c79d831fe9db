import Seidrum.EventBus.Moves

/-!
# Publishes from within an interceptor

An interceptor may publish while the dispatch that it works for waits.  Its future carries the
subject that it handles, and a publish to that very subject is refused.  A publish to another subject
starts a dispatch in turn, which may run the same interceptor, now on the other subject.
-/

namespace Seidrum.EventBus

open Seidrum.Foundation

/-- The interceptor a dispatch waits for. -/
def Dispatch.interceptor (d : Dispatch) : Option String :=
  match d.stage with
  | .chain (entry :: _) _ => if entry.interceptor then some entry.id else none
  | _ => none

/-- The interceptors that the dispatch of a subject runs. -/
def Bus.intercepts (subject : String) (bus : Bus) : List String :=
  ((bus.index.lookup subject).map (·.id)).filter (· ∈ bus.interceptors)

/-- A running bus, with how many publishes of interceptors led to each dispatch. -/
structure Nested where
  system : System
  depths : List ℕ

/-- Who moves next. -/
inductive NestedLabel
  /-- a publish from outside the interceptors -/
  | publish (subject : String) (payload : Payload) (replySubject : Option String)
      (storeError : Option StorageError)
  /-- the interceptor that a dispatch waits for publishes -/
  | nested (i : ℕ) (subject : String) (payload : Payload) (replySubject : Option String)
      (storeError : Option StorageError)
  | other (label : Label)

def Label.isPublish : Label → Bool
  | .publish .. => true
  | _ => false

namespace Nested

/-- A bus with its registrations, before any publish. -/
def start (bus : Bus) : Nested := ⟨⟨bus, [], .idle, [], []⟩, []⟩

/-- A publish that is refused changes nothing. -/
def publish (intercepting : Option String) (depth : ℕ) (subject : String) (payload : Payload)
    (replySubject : Option String) (storeError : Option StorageError) (state : Nested) : Nested :=
  match state.system.bus.publishEvent intercepting subject payload replySubject storeError with
  | .ok (bus, dispatch) =>
      { system := { state.system with bus, dispatches := state.system.dispatches ++ [dispatch] }
        depths := state.depths ++ [depth] }
  | .error _ => state

def step (config : Config) : Steps Nested NestedLabel
  | state, .publish subject payload replySubject storeError =>
      some (state.publish none 0 subject payload replySubject storeError)
  | state, .nested i subject payload replySubject storeError =>
      state.system.dispatches[i]?.bind fun d ↦
        if d.interceptor.isSome then
          some (state.publish (some d.subject) (state.depths.getD i 0 + 1) subject payload
            replySubject storeError)
        else none
  | state, .other label =>
      if label.isPublish then none
      else (System.step config state.system label).map fun system ↦ { state with system }

/-- The registrations stay as they are, and what an interceptor publishes goes to the subject it
handles, or to one that no interceptor is registered for. -/
def Restrained (state : Nested) : NestedLabel → Prop
  | .publish .. => True
  | .nested i subject .. => ∀ d ∈ state.system.dispatches[i]?,
      subject = d.subject ∨ state.system.bus.intercepts subject = []
  | .other label => System.keepsTable label = true

instance (state : Nested) (label : NestedLabel) : Decidable (Restrained state label) := by
  cases label <;> unfold Restrained <;> infer_instance

end Nested

variable {config : Config} {bus next : Bus} {d : Dispatch}

theorem System.dispatches_of_step {system next : System} {label : Label}
    (h : System.step config system label = some next) (hpublish : label.isPublish = false)
    (hdispatch : ∀ i input, label ≠ .dispatch i input) : next.dispatches = system.dispatches := by
  cases System.effect_of_step h with
  | publish | publishReply => simp [Label.isPublish] at hpublish
  | @dispatch i input => exact absurd rfl (hdispatch i input)
  | _ => rfl

/-- A publish from within an interceptor is refused exactly if it goes to the subject being handled,
or is refused to anybody. -/
theorem Bus.publishEvent_intercepting_iff (bus : Bus) (handled subject : String) (payload : Payload)
    (replySubject : Option String) (storeError : Option StorageError) :
    (∃ error, bus.publishEvent (some handled) subject payload replySubject storeError =
        .error error) ↔
      subject = handled ∨ ∃ error,
        bus.publishEvent none subject payload replySubject storeError = .error error := by
  unfold publishEvent
  cases validateSubject subject with
  | error error => simp [bind, Except.bind]
  | ok _ =>
    cases validatePayload payload with
    | error error => simp [bind, Except.bind]
    | ok _ =>
      by_cases hsame : subject = handled
      · simp [bind, Except.bind, hsame]
      · have hother : ¬handled = subject := fun h ↦ hsame h.symm
        simp [bind, Except.bind, hsame, hother]

/-- What is left to do runs no interceptor. -/
def Stage.Unintercepted (bus : Bus) : Stage → Prop
  | .mark entries => ∀ entry ∈ entries, entry.id ∉ bus.interceptors
  | .snapshot sync _ => ∀ entry ∈ sync, entry.id ∉ bus.interceptors
  | .chain todo _ => ∀ entry ∈ todo, entry.interceptor = false
  | .record _ next => next.Unintercepted bus
  | .resolve | .fanOut _ | .close _ | .returned => True

/-- No interceptor is registered for the subject, and none is left to run. -/
structure Dispatch.Unintercepted (bus : Bus) (d : Dispatch) : Prop where
  subject : bus.intercepts d.subject = []
  stage : d.stage.Unintercepted bus

theorem Bus.not_mem_interceptors {subject : String} (h : bus.intercepts subject = [])
    {entry : SubscriptionEntry} (hmem : entry ∈ bus.index.lookup subject) : entry.id ∉ bus.interceptors := by
  intro hid
  have hfound : entry.id ∈ bus.intercepts subject :=
    List.mem_filter.mpr ⟨List.mem_map_of_mem hmem, decide_eq_true hid⟩
  rw [h] at hfound
  exact absurd hfound List.not_mem_nil

theorem Stage.Unintercepted.of_keeps (hkeeps : bus.KeepsRegistry next) {stage : Stage}
    (h : stage.Unintercepted bus) : stage.Unintercepted next := by
  induction stage with
  | mark entries | snapshot sync async => simpa only [Stage.Unintercepted, hkeeps.interceptors] using h
  | record report rest ih => exact ih h
  | _ => exact h

theorem Bus.intercepts_of_keeps (hkeeps : bus.KeepsRegistry next) (subject : String) :
    next.intercepts subject = bus.intercepts subject := by
  rw [intercepts, intercepts, hkeeps.index, hkeeps.interceptors]

theorem Dispatch.Unintercepted.of_keeps (hkeeps : bus.KeepsRegistry next) (h : d.Unintercepted bus) :
    d.Unintercepted next where
  subject := (Bus.intercepts_of_keeps hkeeps d.subject).trans h.subject
  stage := h.stage.of_keeps hkeeps

theorem Dispatch.Unintercepted.interceptor (h : d.Unintercepted bus) : d.interceptor = none := by
  have hstage := h.stage
  unfold Dispatch.interceptor
  split
  · rename_i heq
    rw [heq] at hstage
    simp [hstage _ List.mem_cons_self]
  · rfl

/-- A dispatch that runs no interceptor goes on without one. -/
theorem Dispatch.Change.unintercepted {input : DispatchInput} {after : Bus} {next : Dispatch}
    (hchange : Dispatch.Change config input bus d after next) (h : d.Unintercepted bus) :
    next.Unintercepted after := by
  have hstage := h.stage
  suffices hbefore : next.Unintercepted bus from hbefore.of_keeps hchange.keepsRegistry
  cases hchange with
  | resolve stage =>
    refine ⟨h.subject, ?_⟩
    dsimp only
    split_ifs
    · trivial
    · exact fun entry hmem ↦ Bus.not_mem_interceptors h.subject hmem
  | mark stage sublist =>
    rw [stage] at hstage
    refine ⟨h.subject, ?_⟩
    dsimp only
    split_ifs
    · trivial
    · exact fun entry hmem ↦ hstage entry (sublist.subset (List.mem_of_mem_filter hmem))
  | snapshot stage =>
    rw [stage] at hstage
    refine ⟨h.subject, fun entry hmem ↦ ?_⟩
    obtain ⟨before, hbefore, rfl⟩ := List.mem_map.mp hmem
    exact decide_eq_false (hstage before hbefore)
  | collect stage | finish stage => exact ⟨h.subject, trivial⟩
  | @attempt id result after turn =>
    refine ⟨h.subject, ?_⟩
    simp only [Dispatch.finishAttempt, Stage.Unintercepted]
    split_ifs
    · trivial
    · cases turn with
      | sync stage =>
        rw [stage] at hstage
        exact fun entry hmem ↦ hstage entry (List.mem_cons_of_mem _ hmem)
      | async stage => trivial
  | record stage =>
    rw [stage] at hstage
    exact ⟨h.subject, hstage⟩

namespace Nested

variable {config : Config} {state next : Nested} {label : NestedLabel}

/-- Dispatches that a publish of an interceptor led to run no interceptor, so that no further one is
led to by theirs. -/
structure Shallow (state : Nested) : Prop where
  length : state.depths.length = state.system.dispatches.length
  depth : ∀ (i depth : ℕ) (d : Dispatch), state.depths[i]? = some depth →
    state.system.dispatches[i]? = some d →
    depth = 0 ∨ depth = 1 ∧ d.Unintercepted state.system.bus

theorem shallow_start (bus : Bus) : Shallow (start bus) where
  length := rfl
  depth _ _ _ hdepth := by simp [start] at hdepth

variable {intercepting : Option String} {subject : String} {i : ℕ} {d : Dispatch}

/-- A publish that is accepted adds a dispatch, and keeps the registrations. -/
theorem Shallow.publish (h : Shallow state) {depth : ℕ} {payload : Payload} {replySubject : Option String}
    {storeError : Option StorageError}
    (hdepth : (∃ error, state.system.bus.publishEvent intercepting subject payload replySubject
        storeError = .error error) ∨
      depth = 0 ∨ depth = 1 ∧ state.system.bus.intercepts subject = []) :
    Shallow (state.publish intercepting depth subject payload replySubject storeError) := by
  unfold Nested.publish
  cases hpublish : state.system.bus.publishEvent intercepting subject payload replySubject
      storeError with
  | error error => exact h
  | ok result =>
    obtain ⟨bus, started⟩ := result
    have hfresh := hdepth.resolve_left (by simp [hpublish])
    have hkeeps : state.system.bus.KeepsRegistry bus := by
      obtain ⟨-, _, rfl⟩ | ⟨-, _, rfl⟩ := Bus.publishEvent_ok hpublish <;> exact ⟨rfl, rfl, rfl, rfl⟩
    have hstarted : started.subject = subject ∧ started.stage = .resolve := by
      obtain ⟨-, hstarts, _⟩ | ⟨-, hstarts, _⟩ := Bus.publishEvent_ok hpublish
      all_goals exact ⟨hstarts.subject, hstarts.stage⟩
    refine ⟨by simp [h.length], fun i depth' d hdepth' hd ↦ ?_⟩
    simp only [List.getElem?_append, h.length] at hdepth' hd
    split_ifs at hdepth' with hi
    · rw [if_pos hi] at hd
      exact (h.depth i depth' d hdepth' hd).imp_right (And.imp_right (·.of_keeps hkeeps))
    · rw [if_neg hi] at hd
      rw [List.getElem?_singleton] at hdepth' hd
      split_ifs at hdepth' hd
      obtain rfl := Option.some.inj hdepth'
      cases hd
      refine hfresh.imp_right (And.imp_right fun hnone ↦ ⟨?_, ?_⟩)
      · rw [Bus.intercepts_of_keeps hkeeps, hstarted.1, hnone]
      · rw [hstarted.2]
        trivial

theorem Shallow.step (h : Shallow state) (hguard : Restrained state label)
    (hstep : step config state label = some next) : Shallow next := by
  cases label with
  | publish subject payload replySubject storeError =>
    cases hstep
    exact h.publish (.inr (.inl rfl))
  | nested i subject payload replySubject storeError =>
    obtain ⟨d, hd, hrest⟩ := Option.bind_eq_some_iff.mp hstep
    split_ifs at hrest with hwaits
    cases hrest
    have hlength : i < state.depths.length := by
      rw [h.length]
      exact (List.getElem?_eq_some_iff.mp hd).1
    have hdepth : state.depths[i]? = some (state.depths.getD i 0) := by
      rw [List.getD_eq_getElem?_getD, List.getElem?_eq_getElem hlength, Option.getD_some]
    rcases hguard d hd with rfl | hnone
    · exact h.publish (.inl ((Bus.publishEvent_intercepting_iff ..).mpr (.inl rfl)))
    · refine h.publish (.inr (.inr ⟨?_, hnone⟩))
      rcases h.depth i _ d hdepth hd with hzero | ⟨_, hunintercepted⟩
      · rw [hzero]
      · simp [hunintercepted.interceptor] at hwaits
  | other label =>
    simp only [Nested.step] at hstep
    split_ifs at hstep with hpublish
    obtain ⟨system, hsystem, rfl⟩ := Option.map_eq_some_iff.mp hstep
    have hkeeps := (System.keepsRegistry_of_step hsystem hguard).1
    cases label with
    | publish => simp [Label.isPublish] at hpublish
    | dispatch j input =>
      obtain ⟨moved, hat, hrunning, rfl⟩ := System.dispatch_of_step hsystem
      refine ⟨by simp [h.length], fun i depth d hdepth hd ↦ ?_⟩
      have hchange := Dispatch.change_of_step config input state.system.bus hrunning
      by_cases hij : j = i
      · subst hij
        rw [List.getElem?_set_self (List.getElem?_eq_some_iff.mp hat).1] at hd
        cases hd
        exact (h.depth j depth moved hdepth hat).imp_right (And.imp_right hchange.unintercepted)
      · rw [List.getElem?_set_ne hij] at hd
        exact (h.depth i depth d hdepth hd).imp_right (And.imp_right (·.of_keeps hkeeps))
    | _ =>
      have hsame : system.dispatches = state.system.dispatches :=
        System.dispatches_of_step hsystem (by simpa using hpublish) nofun
      refine ⟨by rw [hsame, h.length], fun i depth d hdepth hd ↦ ?_⟩
      rw [hsame] at hd
      exact (h.depth i depth d hdepth hd).imp_right (And.imp_right (·.of_keeps hkeeps))

/-- A publish from within an interceptor is refused exactly if it goes to the subject being handled
(or would be refused to anybody).  If what interceptors publish goes to that subject, or to one without
interceptors, then what an interceptor publishes to a subject of its own is refused and changes
nothing, and no dispatch is more than one such publish deep. -/
theorem reentrant_publish_refused (bus : Bus) :
    (∀ (handled subject : String) (payload : Payload) (replySubject : Option String)
        (storeError : Option StorageError),
      (∃ error, bus.publishEvent (some handled) subject payload replySubject storeError =
          .error error) ↔
        subject = handled ∨ ∃ error,
          bus.publishEvent none subject payload replySubject storeError = .error error) ∧
      ∀ (config : Config) (state : Nested),
        Steps.Reach (step config) Restrained (start bus) state →
        (∀ depth ∈ state.depths, depth ≤ 1) ∧
          ∀ (i : ℕ) (d : Dispatch) (id subject : String) (payload : Payload)
            (replySubject : Option String) (storeError : Option StorageError),
            state.system.dispatches[i]? = some d → d.interceptor = some id →
            id ∈ state.system.bus.intercepts subject →
            Restrained state (.nested i subject payload replySubject storeError) →
            (∃ error, state.system.bus.publishEvent (some d.subject) subject payload replySubject
                storeError = .error error) ∧
              step config state (.nested i subject payload replySubject storeError) = some state := by
  refine ⟨bus.publishEvent_intercepting_iff, fun config state hreach ↦ ⟨?_, ?_⟩⟩
  · have h : Shallow state := hreach.invariant (shallow_start bus) fun _ _ _ hinv hguard hstep ↦
      hinv.step hguard hstep
    intro depth hmem
    obtain ⟨i, hi⟩ := List.mem_iff_getElem?.mp hmem
    have hlength : i < state.system.dispatches.length := by
      rw [← h.length]
      exact (List.getElem?_eq_some_iff.mp hi).1
    rcases h.depth i depth _ hi (List.getElem?_eq_getElem hlength) with hzero | ⟨hone, _⟩ <;> omega
  · intro i d id subject payload replySubject storeError hd hwaits hmatches hguard
    have hsame : subject = d.subject := by
      refine (hguard d hd).resolve_right fun hnone ↦ ?_
      rw [hnone] at hmatches
      exact absurd hmatches List.not_mem_nil
    have hrefused := (Bus.publishEvent_intercepting_iff state.system.bus d.subject subject payload
      replySubject storeError).mpr (.inl hsame)
    refine ⟨hrefused, ?_⟩
    obtain ⟨error, herror⟩ := hrefused
    simp [step, hd, hwaits, publish, herror]

/-! ## An interceptor on a wildcard -/

/-- A bus with one interceptor, on a pattern with a wildcard. -/
def wildcardBus : Bus :=
  match (Bus.onStore .empty 0).intercept "I" "a.*" 0 none with
  | .ok bus => bus
  | .error _ => .onStore .empty 0

def wildcardEntry : SubscriptionEntry := Bus.interceptorEntry "I" "a.*" 0 none

/-- Nothing is decided by the environment. -/
def passing : DispatchInput := ⟨.completed .pass [], 0, true⟩

/-- A publish whose dispatch gets to wait for the interceptor. -/
def intercepted (subject : String) : List NestedLabel :=
  .publish subject [] none none :: List.replicate 3 (.other (.dispatch 0 passing))

theorem reentrant_publish_refused_same :
    ((∃ error, wildcardBus.publishEvent (some "a.1") "a.1" [] none none = .error error) ↔
        "a.1" = "a.1" ∨ ∃ error, wildcardBus.publishEvent none "a.1" [] none none = .error error) ∧
      ∃ state ∈ Steps.execute (step (.plain 3)) (start wildcardBus) (intercepted "a.1"),
        (∀ depth ∈ state.depths, depth ≤ 1) ∧
          step (.plain 3) state (.nested 0 "a.1" [] none none) = some state := by
  refine ⟨(reentrant_publish_refused wildcardBus).1 "a.1" "a.1" [] none none, ?_⟩
  have hexecute : ∃ state ∈ Steps.execute (step (.plain 3)) (start wildcardBus) (intercepted "a.1"),
      (state.system.dispatches[0]?.bind (·.interceptor)) = some "I" ∧
        "I" ∈ state.system.bus.intercepts "a.1" ∧
          Restrained state (.nested 0 "a.1" [] none none) := by decide +kernel
  obtain ⟨state, hstate, hwaits, hmatches, hguard⟩ := hexecute
  obtain ⟨d, hd, hinterceptor⟩ := Option.bind_eq_some_iff.mp hwaits
  have hreach : Steps.Reach (step (.plain 3)) Restrained (start wildcardBus) state :=
    Steps.reach_of_execute (by decide +kernel) hstate
  obtain ⟨hdepths, hrefused⟩ := (reentrant_publish_refused wildcardBus).2 (.plain 3) state hreach
  exact ⟨state, hstate, hdepths, (hrefused 0 d "I" "a.1" [] none none hd hinterceptor hmatches
    hguard).2⟩

/-- The last dispatch works on a subject, and waits for the interceptor; this many publishes of it led
there. -/
structure Waits (n : ℕ) (subject : String) (state : Nested) : Prop where
  registry : wildcardBus.KeepsRegistry state.system.bus
  length : state.system.dispatches.length = n + 1 ∧ state.depths.length = n + 1
  last : ∃ d, state.system.dispatches[n]? = some d ∧ d.subject = subject ∧ d.interceptor = some "I"
  depth : state.depths[n]? = some n

theorem advance (config : Config) (hd : state.system.dispatches[i]? = some d)
    (hrunning : d.stage.isReturned = false) :
    ∃ next, step config state (.other (.dispatch i passing)) = some next ∧
      state.system.bus.KeepsRegistry next.system.bus ∧
      next.system.dispatches[i]? = some (d.step config passing state.system.bus).2 ∧
      next.system.dispatches.length = state.system.dispatches.length ∧
      next.depths = state.depths := by
  refine ⟨{ state with system := { state.system with
      bus := (d.step config passing state.system.bus).1
      dispatches := state.system.dispatches.set i (d.step config passing state.system.bus).2 } },
    ?_, ?_, ?_, ?_, rfl⟩
  · simp [step, Label.isPublish, System.step, hd, hrunning]
  · exact (Dispatch.change_of_step config passing state.system.bus hrunning).keepsRegistry
  · exact List.getElem?_set_self (List.getElem?_eq_some_iff.mp hd).1
  · exact List.length_set

/-- A dispatch that starts on a subject of the interceptor gets to wait for it. -/
theorem waits_of_resolve (config : Config) (hregistry : wildcardBus.KeepsRegistry state.system.bus)
    (hd : state.system.dispatches[i]? = some d) (hstage : d.stage = .resolve)
    (hfound : wildcardBus.index.lookup d.subject = [wildcardEntry]) :
    ∃ next, Steps.Reach (step config) (fun _ _ ↦ True) state next ∧
      wildcardBus.KeepsRegistry next.system.bus ∧
      next.system.dispatches.length = state.system.dispatches.length ∧
      next.depths = state.depths ∧
      ∃ d', next.system.dispatches[i]? = some d' ∧ d'.subject = d.subject ∧
        d'.interceptor = some "I" := by
  obtain ⟨second, hresolve, hkeeps₂, hmark, hlength₂, hdepths₂⟩ :=
    advance config hd (by rw [hstage]; rfl)
  have hstage₂ : d.step config passing state.system.bus =
      (state.system.bus, { d with stage := .mark [wildcardEntry] }) := by
    simp [Dispatch.step, hstage, hregistry.index, hfound]
  rw [hstage₂] at hmark
  obtain ⟨third, hmarked, hkeeps₃, hsnapshot, hlength₃, hdepths₃⟩ := advance config hmark rfl
  have hstage₃ : (({ d with stage := .mark [wildcardEntry] } : Dispatch).step config passing
      second.system.bus).2 = { d with stage := .snapshot [wildcardEntry] [] } := by
    simp [Dispatch.step, wildcardEntry, Bus.interceptorEntry]
  rw [hstage₃] at hsnapshot
  obtain ⟨fourth, htaken, hkeeps₄, hchain, hlength₄, hdepths₄⟩ := advance config hsnapshot rfl
  have hregistry₃ : wildcardBus.KeepsRegistry third.system.bus :=
    (hregistry.trans hkeeps₂).trans hkeeps₃
  have hheld : wildcardEntry.id ∈ third.system.bus.interceptors := by
    rw [hregistry₃.interceptors]
    decide
  refine ⟨fourth, ?_, hregistry₃.trans hkeeps₄, ?_, ?_, _, hchain, rfl, ?_⟩
  · exact .next (.next (.next .init trivial hresolve) trivial hmarked) trivial htaken
  · rw [hlength₄, hlength₃, hlength₂]
  · rw [hdepths₄, hdepths₃, hdepths₂]
  · simp only [Dispatch.step, List.map_cons, List.map_nil, Dispatch.interceptor, Bus.syncEntry,
      hheld, decide_true, if_true]
    rfl

/-- A publish to another valid subject starts a dispatch. -/
theorem publish_accepted (state : Nested) (hne : intercepting ≠ some subject)
    (hvalid : Bus.validateSubject subject = .ok ()) (hreply : isReplySubject subject = false) (depth : ℕ) :
    ∃ started : Dispatch,
      (state.publish intercepting depth subject [] none none).system.dispatches =
        state.system.dispatches ++ [started] ∧
      (state.publish intercepting depth subject [] none none).depths = state.depths ++ [depth] ∧
      state.system.bus.KeepsRegistry
        (state.publish intercepting depth subject [] none none).system.bus ∧
      started.subject = subject ∧ started.stage = .resolve := by
  have haccepted : ∃ result, state.system.bus.publishEvent intercepting subject [] none none =
      .ok result := by
    simp [Bus.publishEvent, hvalid, Bus.validatePayload, hne, hreply, bind, Except.bind]
  obtain ⟨⟨bus, started⟩, hpublish⟩ := haccepted
  unfold publish
  rw [hpublish]
  obtain ⟨-, hstarts, rfl⟩ | ⟨-, hstarts, rfl⟩ := Bus.publishEvent_ok hpublish
  all_goals exact ⟨started, rfl, rfl, ⟨rfl, rfl, rfl, rfl⟩, hstarts.subject, hstarts.stage⟩

/-- The interceptor publishes to another subject that it is registered for, and is run on that. -/
theorem Waits.deeper (config : Config) {n : ℕ} {handled : String} (h : Waits n handled state)
    (subject : String) (hne : some handled ≠ some subject)
    (hvalid : Bus.validateSubject subject = .ok ()) (hreply : isReplySubject subject = false)
    (hfound : wildcardBus.index.lookup subject = [wildcardEntry]) :
    ∃ next, Steps.Reach (step config) (fun _ _ ↦ True) state next ∧ Waits (n + 1) subject next := by
  obtain ⟨d, hd, hhandled, hwaits⟩ := h.last
  obtain ⟨started, hdispatches, hdepths, hkeeps, hsubject, hstage⟩ :=
    publish_accepted state hne hvalid hreply (n + 1)
  have hstep : step config state (.nested n subject [] none none) =
      some (state.publish (some handled) (n + 1) subject [] none none) := by
    simp [step, hd, hwaits, hhandled, List.getD_eq_getElem?_getD, h.depth]
  have hlast : (state.publish (some handled) (n + 1) subject [] none none).system.dispatches[n + 1]? =
      some started := by
    rw [hdispatches, ← h.length.1, List.getElem?_concat_length]
  obtain ⟨next, hreach, hregistry, hlength, hdepths', d', hd', hsubject', hwaits'⟩ :=
    waits_of_resolve config (h.registry.trans hkeeps) hlast hstage (hsubject ▸ hfound)
  refine ⟨next, (Steps.Reach.init.next trivial hstep).trans hreach, hregistry, ⟨?_, ?_⟩,
    ⟨d', hd', hsubject'.trans hsubject, hwaits'⟩, ?_⟩
  · rw [hlength, hdispatches, List.length_append, h.length.1]
    rfl
  · rw [hdepths', hdepths, List.length_append, h.length.2]
    rfl
  · rw [hdepths', hdepths, ← h.length.2, List.getElem?_concat_length]

/-- One interceptor on two subjects runs itself as deep as it likes, by turns on the one and on the
other. -/
theorem waits_of_depth (config : Config) (n : ℕ) :
    ∃ state, Steps.Reach (step config) (fun _ _ ↦ True) (start wildcardBus) state ∧
      Waits n (if n % 2 = 0 then "a.1" else "a.2") state := by
  have hvalid (subject : String) (hsubject : subject = "a.1" ∨ subject = "a.2") :
      Bus.validateSubject subject = .ok () ∧ isReplySubject subject = false ∧
        wildcardBus.index.lookup subject = [wildcardEntry] := by
    rcases hsubject with rfl | rfl
    all_goals exact ⟨rfl, by decide, rfl⟩
  induction n with
  | zero =>
    obtain ⟨hsubject, hreply, hfound⟩ := hvalid "a.1" (.inl rfl)
    obtain ⟨started, hdispatches, hdepths, hkeeps, hstarted, hstage⟩ :=
      publish_accepted (start wildcardBus) (nofun : none ≠ some "a.1") hsubject hreply 0
    have hstep : step config (start wildcardBus) (.publish "a.1" [] none none) =
        some ((start wildcardBus).publish none 0 "a.1" [] none none) := rfl
    have hlast : ((start wildcardBus).publish none 0 "a.1" [] none none).system.dispatches[0]? =
        some started := by
      rw [hdispatches]
      rfl
    obtain ⟨next, hreach, hregistry, hlength, hdepths', d', hd', hsubject', hwaits'⟩ :=
      waits_of_resolve config hkeeps hlast hstage (hstarted ▸ hfound)
    refine ⟨next, (Steps.Reach.init.next trivial hstep).trans hreach, hregistry, ⟨?_, ?_⟩,
      ⟨d', hd', hsubject'.trans hstarted, hwaits'⟩, ?_⟩
    · rw [hlength, hdispatches]
      rfl
    all_goals
      rw [hdepths', hdepths]
      rfl
  | succ n ih =>
    obtain ⟨state, hreach, hwaits⟩ := ih
    rcases Nat.mod_two_eq_zero_or_one n with heven | hodd
    · obtain ⟨hsubject, hreply, hfound⟩ := hvalid "a.2" (.inr rfl)
      rw [if_pos heven] at hwaits
      rw [if_neg (by omega)]
      obtain ⟨next, hnext, hdeeper⟩ := hwaits.deeper config "a.2" (by decide) hsubject hreply hfound
      exact ⟨next, hreach.trans hnext, hdeeper⟩
    · obtain ⟨hsubject, hreply, hfound⟩ := hvalid "a.1" (.inl rfl)
      rw [if_neg (by omega)] at hwaits
      rw [if_pos (by omega)]
      obtain ⟨next, hnext, hdeeper⟩ := hwaits.deeper config "a.1" (by decide) hsubject hreply hfound
      exact ⟨next, hreach.trans hnext, hdeeper⟩

/-- An interceptor on `a.*` that handles `a.1` publishes to `a.2`, which it is registered for as well,
and is accepted; and so on without end. -/
theorem reentrant_publish_accepted :
    "I" ∈ wildcardBus.intercepts "a.1" ∧ "I" ∈ wildcardBus.intercepts "a.2" ∧
      (∃ bus d, wildcardBus.publishEvent (some "a.1") "a.2" [] none none = .ok (bus, d) ∧
        bus.store.events.length = 1) ∧
      ∀ (config : Config) (n : ℕ), ∃ state,
        Steps.Reach (step config) (fun _ _ ↦ True) (start wildcardBus) state ∧ n ∈ state.depths := by
  refine ⟨by decide +kernel, by decide +kernel, ⟨_, _, rfl, rfl⟩, fun config n ↦ ?_⟩
  obtain ⟨state, hreach, hwaits⟩ := waits_of_depth config n
  exact ⟨state, hreach, List.mem_of_getElem? hwaits.depth⟩

end Nested

end Seidrum.EventBus
