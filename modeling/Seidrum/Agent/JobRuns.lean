import Seidrum.Agent.JobView

/-!
# Runs of jobs

A run that was stored as running ends as succeeded or failed unless the count after its turn or its
last write fails, for then the call returns early and nothing looks at the run again.  A replay reads
the whole session, so it gives the run's own records exactly as long as no other call has appended to
that session.
-/

namespace Seidrum.Agent

open Seidrum.Foundation

variable {Value Bytes : Type}

section Effects

variable {codecs : JobCodecs Value Bytes} {view : JobView Value} {shared shared' : JobStore Bytes}
variable {op : JobOp Value} {answer : JobAnswer Value op} {env : TurnEnv Value} {id sessionId : String}

/-- A call knows an id only if it drew it. -/
theorem mem_after_ids (hmem : id ∈ (view.after op answer).ids) :
    id ∈ view.ids ∨ drawnBy op answer = some id := by
  change id ∈ (drawnBy op answer).elim view.ids (· :: view.ids) at hmem
  cases hdrawn : drawnBy op answer with
  | none =>
    rw [hdrawn] at hmem
    exact .inl hmem
  | some drawn =>
    rw [hdrawn] at hmem
    rcases List.mem_cons.mp hmem with rfl | hold
    · exact .inr rfl
    · exact .inl hold

/-- Counts stay exact if the next one of the session is. -/
theorem after_exact (h : view.Exact sessionId)
    (htold : ∀ told, countedBy op answer = some (sessionId, told) → told = (view.own sessionId).length) :
    (view.after op answer).Exact sessionId := by
  intro count hmem hsession
  change count ∈ (countedBy op answer).elim view.counts _ at hmem
  cases hcounted : countedBy op answer with
  | none =>
    rw [hcounted] at hmem
    exact h count hmem hsession
  | some counted =>
    rw [hcounted] at hmem
    rcases List.mem_cons.mp hmem with rfl | hold
    · obtain rfl : counted.1 = sessionId := hsession
      exact htold counted.2 hcounted
    · exact h count hold hsession

/-- What an operation does to the store. -/
theorem performJob_eq (h : performJob codecs shared op env = some (answer, shared')) :
    shared'.turns = (appendedBy op answer).elim shared.turns
        (fun record ↦ shared.turns.append codecs.turnRecord record) ∧
      ∀ runId, shared'.jobRun codecs runId =
        (storedBy op answer).elim (shared.jobRun codecs runId) fun run ↦
          if runId = run.runId then .ok (some run) else shared.jobRun codecs runId := by
  cases op with
  | turn op =>
    obtain ⟨⟨answer', turns⟩, hperform, heq⟩ := Option.map_eq_some_iff.mp h
    cases heq
    cases op <;> cases env <;> cases hperform <;> exact ⟨rfl, fun _ ↦ rfl⟩
  | putJobDefinition definition | jobDefinition jobId => cases env <;> cases h <;> exact ⟨rfl, fun _ ↦ rfl⟩
  | putJobRun run =>
    cases env with
    | served =>
      cases h
      exact ⟨rfl, shared.jobRun_putJobRun codecs run⟩
    | failed error =>
      cases h
      exact ⟨rfl, fun _ ↦ rfl⟩
    | recordId id | response response | toolOutcome outcome => cases h

/-- An id is drawn from the environment. -/
theorem env_of_drawnBy (h : performJob codecs shared op env = some (answer, shared'))
    (hdrawn : drawnBy op answer = some id) : env = .recordId id := by
  cases op with
  | turn op =>
    obtain ⟨⟨answer', turns⟩, hperform, heq⟩ := Option.map_eq_some_iff.mp h
    cases heq
    cases op <;> cases hdrawn
    cases env <;> cases hperform
    rfl
  | putJobDefinition definition | jobDefinition jobId | putJobRun run => cases hdrawn

theorem op_of_storedBy {run : JobRunRecord} (h : storedBy op answer = some run) :
    op = .putJobRun run := by
  cases op with
  | turn op | putJobDefinition definition | jobDefinition jobId => cases h
  | putJobRun other =>
    cases answer with
    | ok stored => rw [Option.some.inj h]
    | error error => cases h

/-- A session that was counted was read. -/
theorem records_of_countedBy {told : ℕ} (h : performJob codecs shared op env = some (answer, shared'))
    (hcounted : countedBy op answer = some (sessionId, told)) :
    ∃ records, shared.turns.records codecs.turnRecord sessionId = .ok records ∧
      records.length = told := by
  cases op with
  | turn op =>
    cases op with
    | records other =>
      cases answer with
      | error error => cases hcounted
      | ok records =>
        cases hcounted
        obtain ⟨⟨answer', turns⟩, hperform, heq⟩ := Option.map_eq_some_iff.mp h
        obtain ⟨rfl, -⟩ := Prod.mk.inj heq
        cases env with
        | served => exact ⟨records, (Prod.mk.inj (Option.some.inj hperform)).1, rfl⟩
        | failed error | recordId id | response response | toolOutcome outcome => cases hperform
    | append record | newRecordId | complete request | execute call => cases hcounted
  | putJobDefinition definition | jobDefinition jobId | putJobRun run => cases hcounted

end Effects

/-! ## All calls -/

section Interleaving

variable {codecs : JobCodecs Value Bytes} {state : Jobs Value Bytes}

/-- What a call has done so far. -/
def viewOf (state : Jobs Value Bytes) (i : ℕ) : JobView Value := .ofEvents (state.events i)

/-- Only call `i` has appended to the session. -/
def AloneIn (state : Jobs Value Bytes) (i : ℕ) (sessionId : String) : Prop :=
  ∀ j, ∀ record ∈ (viewOf state j).appended, record.sessionId = sessionId → j = i

/-- All records in the order of their append, each with the call that appended it. -/
def appends (trace : List (Performed (JobAnswer Value))) : List (ℕ × StoredTurnRecord Value) :=
  trace.flatMap fun event ↦
    (appendedBy event.op event.answer).toList.map fun record ↦ (event.task, record)

/-- The store holds what the calls have done. -/
structure Kept (codecs : JobCodecs Value Bytes) (state : Jobs Value Bytes) : Prop where
  turns : state.shared.turns =
    RedbTurnStore.ofAppends codecs.turnRecord ((appends state.trace).map Prod.snd)
  appended : ∀ i, (viewOf state i).appended =
    ((appends state.trace).filter fun entry ↦ entry.1 = i).map Prod.snd
  runs : ∀ i, ∀ run ∈ (viewOf state i).run,
    state.shared.jobRun codecs run.runId = .ok (some run)
  drawn : ∀ i, ∀ id ∈ (viewOf state i).ids, ∃ event ∈ state.trace,
    drawnBy event.op event.answer = some id
  apart : ∀ i j, ∀ id ∈ (viewOf state i).ids, id ∈ (viewOf state j).ids → i = j
  exact : ∀ i sessionId, AloneIn state i sessionId → (viewOf state i).Exact sessionId

theorem kept_init : Kept codecs (Tasks.init .create) := by
  constructor
  · rfl
  · exact fun _ ↦ rfl
  · exact fun _ _ hrun ↦ by cases hrun
  · exact fun _ _ hid ↦ by cases hid
  · exact fun _ _ _ hid ↦ by cases hid
  · exact fun _ _ _ _ hmem ↦ by cases hmem

variable {sessionId : String} {j : ℕ}

/-- A session only one call has appended to holds the records of that call. -/
theorem Kept.filter_eq_own (h : Kept codecs state) {i : ℕ} (halone : AloneIn state i sessionId) :
    ((appends state.trace).map Prod.snd).filter (fun record ↦ record.sessionId = sessionId) =
      (viewOf state i).own sessionId := by
  rw [JobView.own, h.appended, List.filter_map, List.filter_map, List.filter_filter]
  congr 1
  apply List.filter_congr
  rintro ⟨j, record⟩ hmem
  have hown : record ∈ (viewOf state j).appended := by
    rw [h.appended]
    exact List.mem_map.mpr ⟨(j, record), List.mem_filter.mpr ⟨hmem, decide_eq_true rfl⟩, rfl⟩
  by_cases hsession : record.sessionId = sessionId
  · simp [hsession, halone j record hown hsession]
  · simp [hsession]

variable {i : ℕ} {call : JobCall Value} {op : JobOp Value} {answer : JobAnswer Value op}
variable {next : JobAnswer Value op → Program (JobAnswer Value) (Except RuntimeError JobOutput)}
variable {shared : JobStore Bytes} {env : TurnEnv Value}

theorem viewOf_answered :
    viewOf (state.answered i call op next answer shared) =
      Function.update (viewOf state) i ((viewOf state i).after op answer) :=
  Tasks.locals_answered running JobView.empty state i call op next answer shared

theorem appends_answered :
    appends (state.answered i call op next answer shared).trace =
      appends state.trace ++ (appendedBy op answer).toList.map (i, ·) := by
  simp [appends, Tasks.answered]

/-- Calls only append. -/
theorem AloneIn.before (h : AloneIn (state.answered i call op next answer shared) j sessionId) :
    AloneIn state j sessionId := by
  intro other record hmem
  apply h other record
  rw [viewOf_answered]
  by_cases hother : other = i
  · subst hother
    rw [Function.update_self, JobView.after_appended]
    exact List.mem_append_left _ hmem
  · rw [Function.update_of_ne hother]
    exact hmem

section

variable (h : Kept codecs state) (hsound : ∀ j, (viewOf state j).Sound)
  (hput : ∀ run, op = .putJobRun run → run.runId ∈ (viewOf state i).ids)
include h hsound hput

/-- The runs of all calls are found as they stored them. -/
theorem Kept.runs_answered (hperform : performJob codecs state.shared op env = some (answer, shared))
    {run : JobRunRecord} (hrun : run ∈ (viewOf (state.answered i call op next answer shared) j).run) :
    shared.jobRun codecs run.runId = .ok (some run) := by
  rw [(performJob_eq hperform).2]
  rw [viewOf_answered] at hrun
  cases hstored : storedBy op answer with
  | none =>
    have hsame : run ∈ (viewOf state j).run := by
      by_cases hji : j = i
      · subst hji
        rw [Function.update_self] at hrun
        change run ∈ (storedBy op answer).or _ at hrun
        rwa [hstored] at hrun
      · rwa [Function.update_of_ne hji] at hrun
    exact h.runs j run hsame
  | some stored =>
    have hid := hput stored (op_of_storedBy hstored)
    by_cases hji : j = i
    · subst hji
      rw [Function.update_self] at hrun
      change run ∈ (storedBy op answer).or _ at hrun
      rw [hstored] at hrun
      obtain rfl : stored = run := Option.some.inj hrun
      exact if_pos rfl
    · rw [Function.update_of_ne hji] at hrun
      have hown := (hsound j run hrun).holds.runId
      have hne : run.runId ≠ stored.runId :=
        fun heq ↦ hji (h.apart j i run.runId hown (heq ▸ hid))
      exact (if_neg hne).trans (h.runs j run hrun)

/-- One operation of a call that keeps to its protocol. -/
theorem Kept.answered (hfresh : Fresh state (.run i env))
    (hperform : performJob codecs state.shared op env = some (answer, shared)) :
    Kept codecs (state.answered i call op next answer shared) := by
  have hnew : ∀ id, drawnBy op answer = some id → ∀ j, id ∉ (viewOf state j).ids := by
    intro id hdrawn j hmem
    obtain rfl := env_of_drawnBy hperform hdrawn
    obtain ⟨event, hevent, hsame⟩ := h.drawn j id hmem
    exact hfresh event hevent hsame
  have hids : ∀ j, ∀ id ∈ (viewOf (state.answered i call op next answer shared) j).ids,
      id ∈ (viewOf state j).ids ∨ j = i ∧ drawnBy op answer = some id := by
    intro j id hmem
    rw [viewOf_answered] at hmem
    by_cases hji : j = i
    · subst hji
      rw [Function.update_self] at hmem
      exact (mem_after_ids hmem).imp_right fun hdrawn ↦ ⟨rfl, hdrawn⟩
    · rw [Function.update_of_ne hji] at hmem
      exact .inl hmem
  constructor
  case turns =>
    rw [appends_answered, List.map_append]
    change shared.turns = _
    rw [(performJob_eq hperform).1]
    cases appendedBy op answer with
    | none => simpa using h.turns
    | some record => simp [RedbTurnStore.ofAppends, List.foldl_append, h.turns]
  case appended =>
    intro j
    rw [viewOf_answered, appends_answered, List.filter_append, List.map_append, ← h.appended]
    by_cases hji : j = i
    · subst hji
      rw [Function.update_self, JobView.after_appended]
      cases appendedBy op answer <;> simp
    · rw [Function.update_of_ne hji]
      cases appendedBy op answer <;> simp [Ne.symm hji]
  case runs => exact fun j run hrun ↦ h.runs_answered hsound hput hperform hrun
  case drawn =>
    intro j id hmem
    rcases hids j id hmem with hold | ⟨-, hdrawn⟩
    · obtain ⟨event, hevent, hsame⟩ := h.drawn j id hold
      exact ⟨event, List.mem_append_left _ hevent, hsame⟩
    · exact ⟨⟨i, op, answer⟩, List.mem_append_right _ (List.mem_singleton.mpr rfl), hdrawn⟩
  case apart =>
    intro j k id hj hk
    rcases hids j id hj with hjold | ⟨rfl, hdrawn⟩
    · rcases hids k id hk with hkold | ⟨rfl, hdrawn⟩
      · exact h.apart j k id hjold hkold
      · exact absurd hjold (hnew id hdrawn j)
    · rcases hids k id hk with hkold | ⟨rfl, -⟩
      · exact absurd hkold (hnew id hdrawn k)
      · rfl
  case exact =>
    intro j sessionId halone
    have hbefore := halone.before
    have hexact := h.exact j sessionId hbefore
    rw [viewOf_answered]
    by_cases hji : j = i
    · subst hji
      rw [Function.update_self]
      apply after_exact hexact
      intro told hcounted
      obtain ⟨records, hrecords, rfl⟩ := records_of_countedBy hperform hcounted
      rw [h.turns] at hrecords
      rw [RedbTurnStore.length_records_ofAppends hrecords, h.filter_eq_own hbefore]
    · rw [Function.update_of_ne hji]
      exact hexact

end

variable {run : JobRunRecord}

theorem following_of_jobs (hreach : Steps.Reach (jobs codecs) Fresh (Tasks.init .create) state) :
    Tasks.Following (fun _ ↦ running) (fun _ ↦ JobView.empty) (fun _ view _ ↦ Settles view) state :=
  Tasks.following_of_reach follows_job hreach

/-- What every call has stored of its run is true. -/
theorem sound_of_following
    (h : Tasks.Following (fun _ ↦ running) (fun _ ↦ JobView.empty) (fun _ view _ ↦ Settles view) state)
    (i : ℕ) : (viewOf state i).Sound := by
  cases hat : state.tasks[i]? with
  | none =>
    have hevents : state.events i = [] := h.known.events_eq_nil (List.getElem?_eq_none_iff.mp hat)
    apply JobView.sound_of_none
    rw [viewOf, hevents]
    rfl
  | some task =>
    have hfollows := h.follows i task hat
    cases hprogram : task.program with
    | done result =>
      rw [hprogram] at hfollows
      exact hfollows.1
    | call op next =>
      rw [hprogram] at hfollows
      exact hfollows.1.1

theorem kept_of_reach (hreach : Steps.Reach (jobs codecs) Fresh (Tasks.init .create) state) :
    Kept codecs state := by
  apply Tasks.invariant_of_follows follows_job hreach kept_init
  · exact fun before _ _ h ↦ ⟨h.turns, h.appended, h.runs, h.drawn, h.apart, h.exact⟩
  · intro before i call op next env answer shared hfollowing h _ hfresh hallowed hperform
    exact h.answered (sound_of_following hfollowing) hallowed.2 hfresh hperform

/-! ## Runs end and replay -/

def Returned (state : Jobs Value Bytes) (i : ℕ) : Prop :=
  ∃ task, state.tasks[i]? = some task ∧ task.program.isDone = true

/-- Once a call that stored its run as running has returned, the run is stored as succeeded or
failed. -/
def Ends (codecs : JobCodecs Value Bytes) (state : Jobs Value Bytes) (i : ℕ) (run : JobRunRecord) :
    Prop :=
  (viewOf state i).ran = true → Returned state i →
    ∃ stored, state.shared.jobRun codecs run.runId = .ok (some stored) ∧ JobView.Terminal stored

/-- A replay of the run gives the records that its call appended, in their order and within the bounds
of the run. -/
def ReplaysItself (codecs : JobCodecs Value Bytes) (state : Jobs Value Bytes) (i : ℕ)
    (run : JobRunRecord) : Prop :=
  ∃ replay, replayJobRun codecs run.runId state.shared = .ok replay ∧
    replay.trace.records = (viewOf state i).appended ∧
      ∀ record ∈ replay.trace.records, replay.run.startedSequence ≤ record.sequence ∧
        ∀ completed ∈ replay.run.completedSequence, record.sequence ≤ completed

/-- The last store call of a call that stored its run as running and returned did not fail. -/
def LastServed (state : Jobs Value Bytes) (i : ℕ) : Prop :=
  (viewOf state i).ran = true → Returned state i → (viewOf state i).lastFailed = false

theorem ended_of_returned
    (h : Tasks.Following (fun _ ↦ running) (fun _ ↦ JobView.empty) (fun _ view _ ↦ Settles view) state)
    (hreturned : Returned state i) : (viewOf state i).Ended := by
  obtain ⟨task, hat, hdone⟩ := hreturned
  have hfollows := h.follows i task hat
  cases hprogram : task.program with
  | done result =>
    rw [hprogram] at hfollows
    exact hfollows.2
  | call op next =>
    rw [hprogram] at hdone
    cases hdone

theorem ends_iff (hreach : Steps.Reach (jobs codecs) Fresh (Tasks.init .create) state)
    (hrun : (viewOf state i).run = some run) : Ends codecs state i run ↔ LastServed state i := by
  have hstored := (kept_of_reach hreach).runs i run hrun
  constructor
  · intro hends hran hreturned
    obtain ⟨stored, hfound, hterminal⟩ := hends hran hreturned
    obtain rfl : run = stored := Option.some.inj (Except.ok.inj (hstored.symm.trans hfound))
    exact (ended_of_returned (following_of_jobs hreach) hreturned hran run hrun).mp hterminal
  · intro hserved hran hreturned
    have hended := ended_of_returned (following_of_jobs hreach) hreturned hran run hrun
    exact ⟨run, hstored, hended.mpr (hserved hran hreturned)⟩

/-- What a replay of a run gives is its whole session, as it is read. -/
theorem replayJobRun_eq (hreach : Steps.Reach (jobs codecs) Fresh (Tasks.init .create) state)
    (hrun : (viewOf state i).run = some run) :
    replayJobRun codecs run.runId state.shared =
      ((RedbTurnStore.ofAppends codecs.turnRecord ((appends state.trace).map Prod.snd)).records
        codecs.turnRecord run.sessionId).map fun records ↦
          ⟨run, buildTrace run.sessionId ((records.head?.map StoredTurnRecord.agentId).getD "")
            records⟩ := by
  have hkept := kept_of_reach hreach
  have htrace := (sound_of_following (following_of_jobs hreach) i run hrun).trace
  rw [replayJobRun, hkept.runs i run hrun]
  change (replaySessionTrace codecs run.traceSessionId state.shared >>= _) = _
  rw [replaySessionTrace, htrace, hkept.turns]
  cases RedbTurnStore.records _ _ _ <;> rfl

theorem Kept.alone_of_appends (h : Kept codecs state)
    (hall : ∀ entry ∈ appends state.trace, entry.2.sessionId = sessionId → entry.1 = i) :
    AloneIn state i sessionId := by
  intro j record hmem hsession
  rw [h.appended] at hmem
  obtain ⟨⟨k, other⟩, hentry, rfl⟩ := List.mem_map.mp hmem
  obtain ⟨hmem, hk⟩ := List.mem_filter.mp hentry
  exact (of_decide_eq_true hk).symm.trans (hall _ hmem hsession)

/-- A session with no more records than a call has appended is the call's own. -/
theorem Kept.alone_of_length (h : Kept codecs state)
    (hsession : ∀ record ∈ (viewOf state i).appended, record.sessionId = sessionId)
    (hlength : (((appends state.trace).map Prod.snd).filter fun record ↦
      record.sessionId = sessionId).length = (viewOf state i).appended.length) :
    AloneIn state i sessionId := by
  have hfilter : ((appends state.trace).filter fun entry ↦ entry.1 = i) =
      ((appends state.trace).filter fun entry ↦ entry.2.sessionId = sessionId).filter
        fun entry ↦ entry.1 = i := by
    rw [List.filter_filter]
    apply List.filter_congr
    rintro ⟨j, record⟩ hmem
    by_cases hji : j = i
    · have hown : record ∈ (viewOf state i).appended := by
        rw [h.appended]
        exact List.mem_map.mpr ⟨(j, record), List.mem_filter.mpr ⟨hmem, decide_eq_true hji⟩, rfl⟩
      simp [hji, hsession record hown]
    · simp [hji]
  have hall : ((appends state.trace).filter fun entry ↦ entry.1 = i) =
      (appends state.trace).filter fun entry ↦ entry.2.sessionId = sessionId := by
    rw [hfilter]
    apply List.filter_sublist.eq_of_length
    rw [← hfilter]
    rw [h.appended, List.length_map, List.filter_map, List.length_map] at hlength
    exact hlength.symm
  apply h.alone_of_appends
  intro entry hmem hrecord
  have hin : entry ∈ (appends state.trace).filter fun entry ↦ entry.1 = i := by
    rw [hall]
    exact List.mem_filter.mpr ⟨hmem, decide_eq_true hrecord⟩
  exact of_decide_eq_true (List.mem_filter.mp hin).2

/-- A run replays as itself exactly if its session is its own and is read back unchanged. -/
theorem replaysItself_iff (hreach : Steps.Reach (jobs codecs) Fresh (Tasks.init .create) state)
    (hrun : (viewOf state i).run = some run) :
    ReplaysItself codecs state i run ↔ AloneIn state i run.sessionId ∧
      codecs.turnRecord.Legible ((appends state.trace).map Prod.snd) run.sessionId := by
  have hkept := kept_of_reach hreach
  have htells := sound_of_following (following_of_jobs hreach) i run hrun
  have hfilter : ∀ halone : AloneIn state i run.sessionId,
      ((appends state.trace).map Prod.snd).filter (fun record ↦ record.sessionId = run.sessionId) =
        (viewOf state i).appended :=
    fun halone ↦ (hkept.filter_eq_own halone).trans htells.holds.own_eq
  have hlegible : ∀ halone : AloneIn state i run.sessionId,
      (RedbTurnStore.ofAppends codecs.turnRecord ((appends state.trace).map Prod.snd)).records
          codecs.turnRecord run.sessionId = .ok (viewOf state i).appended ↔
        codecs.turnRecord.Legible ((appends state.trace).map Prod.snd) run.sessionId := by
    intro halone
    rw [← hfilter halone]
    apply RedbTurnStore.records_eq_filter_iff
    rw [hfilter halone, htells.holds.numbered (hkept.exact i run.sessionId halone)]
    exact List.pairwise_le_range'
  unfold ReplaysItself
  rw [replayJobRun_eq hreach hrun]
  constructor
  · rintro ⟨replay, hreplay, hown, -⟩
    cases hrecords : (RedbTurnStore.ofAppends codecs.turnRecord
        ((appends state.trace).map Prod.snd)).records codecs.turnRecord run.sessionId with
    | error error =>
      rw [hrecords] at hreplay
      cases hreplay
    | ok records =>
      rw [hrecords] at hreplay
      obtain rfl := Except.ok.inj hreplay
      obtain rfl : records = (viewOf state i).appended := hown
      have halone : AloneIn state i run.sessionId := hkept.alone_of_length htells.holds.session
        (RedbTurnStore.length_records_ofAppends hrecords).symm
      exact ⟨halone, (hlegible halone).mp hrecords⟩
  · rintro ⟨halone, hread⟩
    have hexact := hkept.exact i run.sessionId halone
    rw [(hlegible halone).mpr hread]
    refine ⟨_, rfl, rfl, fun record hmem ↦ ?_⟩
    have hrange : record.sequence ∈ List.range' 1 (viewOf state i).appended.length := by
      rw [← htells.holds.numbered hexact]
      exact List.mem_map_of_mem hmem
    rw [List.mem_range'_1] at hrange
    rw [htells.holds.started hexact]
    refine ⟨hrange.1, fun completed hcompleted ↦ ?_⟩
    rw [htells.completed hexact completed hcompleted]
    omega

/-- In every interleaving of forced runs and turns, a run ends and replays as itself exactly if the last
store call of its call did not fail, no other call has appended to its session, and the session is read
back from its text unchanged. -/
theorem job_run_sound_iff (hreach : Steps.Reach (jobs codecs) Fresh (Tasks.init .create) state)
    (hrun : (viewOf state i).run = some run) :
    Ends codecs state i run ∧ ReplaysItself codecs state i run ↔
      LastServed state i ∧ AloneIn state i run.sessionId ∧
        codecs.turnRecord.Legible ((appends state.trace).map Prod.snd) run.sessionId :=
  and_congr (ends_iff hreach hrun) (replaysItself_iff hreach hrun)

end Interleaving

/-- Tables that hold their records themselves. -/
inductive StoredRecord
  | turnRecord (record : StoredTurnRecord Unit)
  | jobDefinition (definition : JobDefinition Unit)
  | jobRun (run : JobRunRecord)

private def structuralCodecs : JobCodecs Unit StoredRecord where
  turnRecord := {
    toVec := .turnRecord
    fromSlice := fun | .turnRecord record => .ok record | _ => .error ""
    header := fun | .turnRecord record => some record.header | _ => none
    header_toVec := fun _ ↦ rfl
    header_of_fromSlice := by
      rintro (data | data | data) record h <;> cases h
      rfl }
  jobDefinition :=
    ⟨.jobDefinition, fun | .jobDefinition definition => .ok definition | _ => .error ""⟩
  jobRun := ⟨⟨.jobRun, fun | .jobRun run => .ok run | _ => .error ""⟩, fun _ ↦ rfl⟩

/-- A job that goes on with session `s`. -/
private def sharedJob : JobDefinition Unit := ⟨"j", "a", some "s", "go", none, true, ()⟩

/-- Define the job and run it as call `i`, up to the count after its turn. -/
private def forcedRun (i : ℕ) (runId : String) : List (Move (JobCall Unit) (TurnEnv Unit)) :=
  [.spawn (.forceRunJob ⟨{}, []⟩ "j"), .run i .served, .run i (.recordId runId), .run i .served,
    .run i .served, .run i .served, .run i .served, .run i (.recordId (runId ++ "-1")),
    .run i .served, .run i (.response (.ok ⟨some "done", []⟩)),
    .run i (.recordId (runId ++ "-2")), .run i .served, .run i .served]

private def defined : List (Move (JobCall Unit) (TurnEnv Unit)) :=
  [.spawn (.putJobDefinition sharedJob), .run 0 .served]

private def oneRun : List (Move (JobCall Unit) (TurnEnv Unit)) :=
  defined ++ forcedRun 1 "r" ++ [.run 1 .served]

/-- Two runs in one session; the last write of the second one fails. -/
private def twoRuns : List (Move (JobCall Unit) (TurnEnv Unit)) :=
  oneRun ++ forcedRun 2 "q" ++ [.run 2 (.failed (.store "disk full"))]

theorem job_run_sound_run :
    ∃ state run, Ends structuralCodecs state 1 run ∧ ReplaysItself structuralCodecs state 1 run ∧
      run.completedSequence = some 2 := by
  let run : JobRunRecord :=
    .finished { JobRunRecord.queued "r" "j" "s" 1 with status := .running } 2
      (.ok ⟨"s", "a", "done", [.outboundResponse "s" "a" "done"], []⟩)
  have hexecute : ∃ state ∈ Steps.execute (jobs structuralCodecs) (Tasks.init .create) oneRun,
      (viewOf state 1).run = some run ∧ (viewOf state 1).lastFailed = false ∧
        ∀ entry ∈ appends state.trace, entry.2.sessionId = "s" → entry.1 = 1 := by
    decide +kernel
  obtain ⟨state, hstate, hrun, hserved, happends⟩ := hexecute
  have hreach := Steps.reach_of_execute
    (show Steps.Guarded (jobs structuralCodecs) Fresh _ oneRun by decide +kernel) hstate
  have halone : AloneIn state 1 "s" := (kept_of_reach hreach).alone_of_appends happends
  obtain ⟨hends, hreplays⟩ :=
    (job_run_sound_iff hreach hrun).mpr
      ⟨fun _ _ ↦ hserved, halone, ⟨fun record _ ↦ ⟨record, rfl⟩, fun _ _ _ ↦ rfl⟩⟩
  exact ⟨state, run, hends, hreplays, rfl⟩

/-- A run is left running, and another one replays with its records. -/
theorem job_runs_unsound :
    ∃ state ∈ Steps.execute (jobs structuralCodecs) (Tasks.init .create) twoRuns,
      (∀ task ∈ state.tasks, task.program.isDone = true) ∧
        (state.shared.jobRun structuralCodecs "q").map (Option.map JobRunRecord.status) =
          .ok (some .running) ∧
        (replayJobRun structuralCodecs "r" state.shared).map (fun replay ↦
          replay.trace.records.length) = .ok 4 ∧ (viewOf state 1).appended.length = 2 := by
  decide +kernel

end Seidrum.Agent
