import Seidrum.EventBus.Moves

/-!
# The plan of a dispatch

While the registrations stay as they are, what a dispatch is going to do is settled before it starts:
whom it attempts, in which order and with which payload, and whether it ends early.  The plan of a
dispatch is that schedule, read off its stage.  A step makes the attempt at the head of the plan, or
it leaves the plan alone.

How the interceptors behave is a parameter, a function of the interceptor and of the buffer it is
given.
-/

namespace Seidrum.EventBus

/-- What is left of a dispatch: its attempts, each with the payload it hands over, and whether it
ends before the fan-out. -/
@[ext]
structure Plan where
  attempts : List (String × Payload)
  endsEarly : Bool

namespace Plan

/-- Nothing is left. -/
def ended : Plan := ⟨[], true⟩

def cons (attempt : String × Payload) (plan : Plan) : Plan :=
  ⟨attempt :: plan.attempts, plan.endsEarly⟩

end Plan

namespace Pipeline

variable (behaviour : String → Payload → InterceptOutcome)

/-- The payload after a turn: an interceptor that completed leaves its buffer, everybody else leaves
the payload alone. -/
def buffered (entry : SyncEntry) (payload : Payload) : Payload :=
  if entry.interceptor then
    match behaviour entry.id payload with
    | .completed _ buffer => buffer
    | _ => payload
  else payload

/-- Whether a sync subscriber drops the event it is given. -/
def drops (entry : SyncEntry) (payload : Payload) : Bool :=
  if entry.interceptor then
    match behaviour entry.id payload with
    | .completed .drop _ => true
    | _ => false
  else false

/-- The payload the sync subscriber at a position is given: what the earlier ones made of the
published one. -/
def payloadAt (payload : Payload) (chain : List SyncEntry) (k : ℕ) : Payload :=
  (chain.take k).foldl (fun current entry ↦ buffered behaviour entry current) payload

/-- Whether the sync subscriber at a position drops the event if it gets a turn. -/
def dropsAt (payload : Payload) (chain : List SyncEntry) (k : ℕ) : Bool :=
  chain[k]?.any fun entry ↦ drops behaviour entry (payloadAt behaviour payload chain k)

/-- The plan of a sync chain and the fan-out after it. -/
def chainPlan (async : List SubscriptionEntry) : Payload → List SyncEntry → Plan
  | payload, [] => ⟨async.map fun entry ↦ (entry.id, payload), false⟩
  | payload, entry :: rest =>
      .cons (entry.id, payload) (if drops behaviour entry payload then .ended
        else chainPlan async (buffered behaviour entry payload) rest)

variable {behaviour}

/-- Either a sync subscriber drops the event, and is the last to be attempted, or nobody does, and
everybody is attempted. -/
theorem chainPlan_eq (async : List SubscriptionEntry) (payload : Payload)
    (chain : List SyncEntry) :
    (∃ k < chain.length, dropsAt behaviour payload chain k = true ∧
      (∀ j < k, dropsAt behaviour payload chain j = false) ∧
      chainPlan behaviour async payload chain =
        ⟨(chain.take (k + 1)).mapIdx fun j entry ↦
          (entry.id, payloadAt behaviour payload chain j), true⟩) ∨
    ((∀ j, dropsAt behaviour payload chain j = false) ∧
      chainPlan behaviour async payload chain =
        ⟨(chain.mapIdx fun j entry ↦ (entry.id, payloadAt behaviour payload chain j)) ++
          async.map fun entry ↦ (entry.id, payloadAt behaviour payload chain chain.length),
          false⟩) := by
  induction chain generalizing payload with
  | nil => exact .inr ⟨fun j ↦ rfl, rfl⟩
  | cons entry rest ih =>
    have hfirst : dropsAt behaviour payload (entry :: rest) 0 = drops behaviour entry payload := rfl
    by_cases hdrops : drops behaviour entry payload = true
    · refine .inl ⟨0, by simp, hfirst.trans hdrops, by simp, ?_⟩
      rw [chainPlan, if_pos hdrops]
      rfl
    · have hkeeps : dropsAt behaviour payload (entry :: rest) 0 = false :=
        hfirst.trans (Bool.eq_false_of_not_eq_true hdrops)
      rw [chainPlan, if_neg hdrops]
      obtain ⟨k, hk, hdropsk, hbefore, hplan⟩ | ⟨hnone, hplan⟩ :=
        ih (buffered behaviour entry payload)
      · refine .inl ⟨k + 1, by simpa using hk, hdropsk, fun j hj ↦ ?_, ?_⟩
        · cases j with
          | zero => exact hkeeps
          | succ j => exact hbefore j (by omega)
        · rw [hplan, List.take_succ_cons, List.mapIdx_cons]
          rfl
      · refine .inr ⟨fun j ↦ ?_, ?_⟩
        · cases j with
          | zero => exact hkeeps
          | succ j => exact hnone j
        · rw [hplan, List.mapIdx_cons]
          rfl

/-- The ids of a plan are among those of the chain and of the fan-out, in order. -/
theorem chainPlan_ids_sublist (async : List SubscriptionEntry) (payload : Payload)
    (chain : List SyncEntry) :
    ((chainPlan behaviour async payload chain).attempts.map Prod.fst).Sublist
      (chain.map (·.id) ++ async.map (·.id)) := by
  induction chain generalizing payload with
  | nil => simp [chainPlan, Function.comp_def]
  | cons entry rest ih =>
    rw [chainPlan, Plan.cons, List.map_cons, List.map_cons, List.cons_append]
    apply List.Sublist.cons_cons
    split_ifs
    · exact List.nil_sublist _
    · exact ih _

end Pipeline

/-- The accesses a dispatch has left at a stage besides its attempts and their records. -/
def Stage.rank : Stage → ℕ
  | .resolve => 5
  | .mark _ => 4
  | .snapshot _ _ => 3
  | .chain _ _ => 2
  | .fanOut _ => 1
  | .record _ next => next.rank + 1
  | .close _ => 1
  | .returned => 0

/-- If it is the turn of an interceptor, it ends as it should. -/
def Stage.Behaves (behaviour : String → Payload → InterceptOutcome) (payload : Payload)
    (outcome : InterceptOutcome) : Stage → Prop
  | .chain (entry :: _) _ => entry.interceptor = true → outcome = behaviour entry.id payload
  | _ => True

instance (behaviour : String → Payload → InterceptOutcome) (payload : Payload)
    (outcome : InterceptOutcome) : DecidablePred (Stage.Behaves behaviour payload outcome) := fun stage ↦ by
  unfold Stage.Behaves
  split <;> infer_instance

namespace Dispatch

variable (behaviour : String → Payload → InterceptOutcome) (config : Config)

def accepting (payload : Payload) (entries : List SubscriptionEntry) : List SubscriptionEntry :=
  entries.filter fun entry ↦ entry.filter.all (·.matches config.json payload)

/-- The plan of a dispatch that is about to filter the entries it found. -/
def markPlan (bus : Bus) (payload : Payload) (entries : List SubscriptionEntry) : Plan :=
  if (accepting config payload entries).isEmpty then .ended
  else Pipeline.chainPlan behaviour ((accepting config payload entries).filter (·.mode = .async))
    payload (((accepting config payload entries).filter (·.mode = .sync)).map bus.syncEntry)

/-- The plan of a dispatch on a subject that carries a payload and is at a stage. -/
def planAt (bus : Bus) (subject : String) (payload : Payload) : Stage → Plan
  | .resolve => markPlan behaviour config bus payload (bus.index.lookup subject)
  | .mark entries => markPlan behaviour config bus payload entries
  | .snapshot sync async => Pipeline.chainPlan behaviour async payload (sync.map bus.syncEntry)
  | .chain todo async => Pipeline.chainPlan behaviour async payload todo
  | .fanOut todo => ⟨todo.map fun entry ↦ (entry.1, payload), false⟩
  | .record _ next => planAt bus subject payload next
  | .close _ | .returned => .ended

def plan (bus : Bus) (d : Dispatch) : Plan :=
  planAt behaviour config bus d.subject d.current d.stage

/-- A bound on the steps a dispatch has left; an attempt takes two, one of them for its record. -/
def stepsLeft (bus : Bus) (d : Dispatch) : ℕ :=
  2 * (plan behaviour config bus d).attempts.length + d.stage.rank

/-- An interceptor that runs in the step ends as it should. -/
def Behaves (input : DispatchInput) (d : Dispatch) : Prop :=
  d.stage.Behaves behaviour d.current input.outcome

/-- An input of a step in which the interceptor, if one runs, ends as it should. -/
def inputFor (d : Dispatch) : DispatchInput where
  outcome := match d.stage with
    | .chain (entry :: _) _ => behaviour entry.id d.current
    | _ => .timedOut
  draw := 0
  storeOk := true

instance (input : DispatchInput) (d : Dispatch) : Decidable (d.Behaves behaviour input) :=
  inferInstanceAs (Decidable (Stage.Behaves _ _ _ _))

variable {behaviour config}

theorem behaves_inputFor (d : Dispatch) : d.Behaves behaviour (inputFor behaviour d) := by
  unfold Behaves Stage.Behaves inputFor
  split
  · exact fun _ ↦ rfl
  · trivial

variable {bus : Bus} {next : Stage} {input : DispatchInput} {d : Dispatch} {id : String}
  {result : AttemptResult}

theorem plan_of_keeps {next : Bus} (h : bus.KeepsRegistry next) (d : Dispatch) :
    plan behaviour config next d = plan behaviour config bus d := by
  have hentry : next.syncEntry = bus.syncEntry := by
    funext entry
    simp [Bus.syncEntry, h.interceptors, h.senders]
  unfold plan
  induction d.stage with
  | record report after ih => exact ih
  | _ => simp only [planAt, markPlan, h.index, hentry]

theorem sendResult_keeps (sender : Bool) (id : String) (event : DispatchedEvent)
    (sendError : TrySendError → String) (noSender : String) (bus : Bus) :
    (bus.sendResult sender id event sendError noSender).buffer = none ∧
      (bus.sendResult sender id event sendError noSender).dropped = false := by
  unfold Bus.sendResult
  split
  · split <;> exact ⟨rfl, rfl⟩
  · exact ⟨rfl, rfl⟩

/-- What a turn of the sync chain makes of the payload, and whether it drops the event. -/
theorem syncAttempt_eq {outcome : InterceptOutcome} {entry : SyncEntry} {payload : Payload}
    (hbehaves : entry.interceptor = true → outcome = behaviour entry.id payload)
    (event : DispatchedEvent) (bus : Bus) :
    (bus.syncAttempt outcome entry event).buffer.getD payload =
        Pipeline.buffered behaviour entry payload ∧
      (bus.syncAttempt outcome entry event).dropped = Pipeline.drops behaviour entry payload := by
  unfold Bus.syncAttempt Pipeline.buffered Pipeline.drops
  by_cases hinterceptor : entry.interceptor = true
  · simp only [if_pos hinterceptor]
    rw [← hbehaves hinterceptor]
    cases outcome with
    | completed result buffer => cases result <;> exact ⟨rfl, rfl⟩
    | _ => exact ⟨rfl, rfl⟩
  · simp only [if_neg hinterceptor]
    obtain ⟨hbuffer, hdropped⟩ := sendResult_keeps entry.sender entry.id event
      (fun error ↦ "sync channel delivery failed: " ++ error.message)
      "subscription removed during dispatch" bus
    exact ⟨by simp [hbuffer], hdropped⟩

/-- A turn makes the attempt at the head of the plan. -/
theorem plan_of_turn (hturn : Turn input bus d id result next)
    (hbehaves : d.Behaves behaviour input) :
    plan behaviour config bus d = .cons (id, d.current)
      (plan behaviour config bus (d.finishAttempt config input id result next).2) := by
  cases hturn with
  | @sync entry todo async stage =>
    simp only [Behaves, Stage.Behaves, stage] at hbehaves
    obtain ⟨hbuffer, hdropped⟩ := syncAttempt_eq hbehaves d.event bus
    simp only [plan, stage, planAt, Pipeline.chainPlan, finishAttempt, hdropped, hbuffer]
    split_ifs <;> rfl
  | @async id sender todo stage =>
    have hattempt : (bus.asyncAttempt id sender d.event).buffer = none ∧
        (bus.asyncAttempt id sender d.event).dropped = false :=
      sendResult_keeps sender id d.event _ _ bus
    simp only [plan, stage, planAt, finishAttempt, hattempt]
    rfl

/-- Every other step of a dispatch leaves the plan as it is, unless the dispatch returns. -/
theorem plan_of_silent (hturn : ∀ id result next, ¬ Turn input bus d id result next)
    (hrunning : (d.step config input bus).2.stage.isReturned = false) :
    plan behaviour config bus (d.step config input bus).2 = plan behaviour config bus d := by
  cases hstage : d.stage with
  | resolve =>
    simp only [plan, step, hstage, planAt]
    split_ifs with hempty
    · rw [List.isEmpty_iff.mp hempty]
      rfl
    · rfl
  | mark entries =>
    have hstep : (d.step config input bus).2 = { d with
        stage := if (accepting config d.current entries).isEmpty then .close .delivered
          else .snapshot ((accepting config d.current entries).filter (·.mode = .sync))
            ((accepting config d.current entries).filter (·.mode = .async)) } := by
      simp only [step, hstage]
      rfl
    rw [hstep]
    by_cases hempty : (accepting config d.current entries).isEmpty = true
    · simp only [plan, planAt, markPlan, hstage, if_pos hempty]
    · simp only [plan, planAt, markPlan, hstage, if_neg hempty]
  | snapshot sync async | record report next | close status =>
    simp only [plan, step, hstage, planAt]
  | chain todo async =>
    cases todo with
    | nil => simp [plan, step, hstage, planAt, Pipeline.chainPlan]
    | cons entry todo => exact absurd (Turn.sync hstage) (hturn _ _ _)
  | fanOut todo =>
    cases todo with
    | nil => simp [step, hstage, Stage.isReturned] at hrunning
    | cons entry todo => exact absurd (Turn.async hstage) (hturn _ _ _)
  | returned => simp only [plan, step, hstage]

theorem rank_of_turn (hturn : Turn input bus d id result next) :
    (d.finishAttempt config input id result next).2.stage.rank ≤ d.stage.rank + 1 := by
  cases hturn with
  | sync stage | async stage =>
    simp only [finishAttempt, stage]
    split_ifs <;> simp [Stage.rank]

theorem rank_of_silent (hturn : ∀ id result next, ¬ Turn input bus d id result next)
    (hrunning : d.stage.isReturned = false) :
    (d.step config input bus).2.stage.rank < d.stage.rank := by
  cases hstage : d.stage with
  | resolve | mark entries =>
    simp only [step, hstage]
    split_ifs <;> simp [Stage.rank]
  | snapshot sync async | record report next | close status => simp [step, hstage, Stage.rank]
  | chain todo async =>
    cases todo with
    | nil => simp [step, hstage, Stage.rank]
    | cons entry todo => exact absurd (Turn.sync hstage) (hturn _ _ _)
  | fanOut todo =>
    cases todo with
    | nil => simp [step, hstage, Stage.rank]
    | cons entry todo => exact absurd (Turn.async hstage) (hturn _ _ _)
  | returned => simp [hstage, Stage.isReturned] at hrunning

/-- A dispatch gets closer to its end with every step. -/
theorem stepsLeft_step (hrunning : d.stage.isReturned = false)
    (hbehaves : d.Behaves behaviour input) :
    stepsLeft behaviour config bus (d.step config input bus).2 <
      stepsLeft behaviour config bus d := by
  unfold stepsLeft
  by_cases hturn : ∃ id result next, Turn input bus d id result next
  · obtain ⟨id, result, next, hturn⟩ := hturn
    have hrank : (d.finishAttempt config input id result next).2.stage.rank ≤ d.stage.rank + 1 :=
      rank_of_turn hturn
    have hlength : (plan behaviour config bus d).attempts.length = (plan behaviour config bus
        (d.finishAttempt config input id result next).2).attempts.length + 1 := by
      rw [plan_of_turn hturn hbehaves, Plan.cons, List.length_cons]
    rw [hturn.step, hlength]
    omega
  · simp only [not_exists] at hturn
    have hrank : (d.step config input bus).2.stage.rank < d.stage.rank :=
      rank_of_silent hturn hrunning
    have hplan : (plan behaviour config bus (d.step config input bus).2).attempts.length ≤
        (plan behaviour config bus d).attempts.length := by
      cases hreturned : (d.step config input bus).2.stage with
      | returned => simp [plan, hreturned, planAt, Plan.ended]
      | _ => rw [plan_of_silent hturn (by rw [hreturned]; rfl)]
    omega

end Dispatch

end Seidrum.EventBus
