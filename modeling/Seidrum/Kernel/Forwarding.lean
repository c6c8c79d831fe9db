import Mathlib.Data.List.Perm.Subperm
import Seidrum.Client.InProcess
import Seidrum.Kernel.Orchestrator

/-!
# Forwarding back onto the bus

The task of a trigger subject publishes its copies on the bus it listens to, and looks at no event to
see whether it is such a copy.  A copy keeps the type of its event, so its subject depends on the
workflow and on that type alone.  Everything stays bounded exactly if no trigger matches the subject
of a copy of the first event.
-/

namespace Seidrum.Kernel

open EventBus Foundation

/-- How trigger events are read and their copies written; a copy is read with its event type. -/
structure ForwardingCodec (Bytes : Type) extends TriggerCodec Bytes where
  toVec : EventEnvelope → Bytes
  read_back : ∀ envelope, ∃ copy, fromSlice (toVec envelope) = some copy ∧
    copy.eventType = envelope.eventType

def ForwardingCodec.structural : ForwardingCodec EventEnvelope where
  toTriggerCodec := .structural
  toVec envelope := envelope
  read_back envelope := ⟨envelope, rfl, rfl⟩

/-- Subscribe to the trigger subjects one after the other, under the ids the bus issues. -/
def subscribeTriggers (newId : String → String) :
    List String → SubjectIndex → Except EventBusError SubjectIndex
  | [], index => .ok index
  | subject :: rest, index => do
      Bus.validateSubject subject
      let next ← index.subscribe (Client.InProcess.entry (newId subject) subject)
      subscribeTriggers newId rest next

/-- The subjects some workflow names, in the order in which the map of them is iterated. -/
structure TriggerSubjects {agents : AgentDefinitions} (workflows : List (LoadedWorkflow agents)) where
  subjects : List String
  iterated : subjects.Perm (triggerInfos workflows).keys

def pipelineSubject (workflowId eventType : String) : String :=
  "agent." ++ workflowId ++ ".pipeline." ++ eventType

/-- A trigger whose pattern matches a subject. -/
def LoadedWorkflow.MatchedBy {agents : AgentDefinitions} (subject : String)
    (workflow : LoadedWorkflow agents) : Prop :=
  patternMatches (tokens workflow.config.on) (tokens subject) = true

instance {agents : AgentDefinitions} (subject : String) :
    DecidablePred (@LoadedWorkflow.MatchedBy agents subject) :=
  fun _ ↦ inferInstanceAs (Decidable (_ = true))

/-- A message in the channel of a trigger subject's task; the task does not see what published it. -/
structure TriggerMessage (Bytes : Type) where
  trigger : String
  payload : Bytes
  isCopy : Bool

/-- The messages of the tasks, the copies each busy task has still to send, the copies published and
the messages taken as triggers. -/
structure Forwarding (Bytes : Type) where
  inbox : List (TriggerMessage Bytes)
  sending : List (String × List Forwarded)
  published : List Forwarded
  taken : List (TriggerMessage Bytes)

inductive ForwardingLabel
  /-- An idle task receives one of its messages. -/
  | receive (i : ℕ)
  /-- A busy task publishes its next copy, or is done; the bus may fail to store the event. -/
  | send (k : ℕ) (stored : Bool)

namespace Forwarding

variable {Bytes : Type} {agents : AgentDefinitions}

/-- What a message published on the bus adds to the channels of the tasks. -/
def deliver (index : SubjectIndex) (isCopy : Bool) (subject : String) (payload : Bytes) :
    List (TriggerMessage Bytes) :=
  (index.lookup subject).map fun entry ↦ ⟨entry.subjectPattern, payload, isCopy⟩

/-- One event published by an outside party. -/
def start (index : SubjectIndex) (subject : String) (payload : Bytes) : Forwarding Bytes where
  inbox := deliver index false subject payload
  sending := []
  published := []
  taken := []

def step (codec : ForwardingCodec Bytes) (workflows : List (LoadedWorkflow agents))
    (index : SubjectIndex) : Steps (Forwarding Bytes) ForwardingLabel
  | state, .receive i =>
      match state.inbox[i]? with
      | none => none
      | some message =>
          if message.trigger ∈ state.sending.map Prod.fst then none
          else
            let state := { state with inbox := state.inbox.eraseIdx i }
            match codec.fromSlice message.payload with
            | none => some state
            | some _ =>
                let copies := (triggered codec.toTriggerCodec workflows message.trigger message.payload).2
                some { state with
                  sending := state.sending ++ [(message.trigger, copies)]
                  taken := state.taken ++ [message] }
  | state, .send k stored =>
      match state.sending[k]? with
      | none => none
      | some (_, []) => some { state with sending := state.sending.eraseIdx k }
      | some (trigger, copy :: rest) =>
          let state := { state with sending := state.sending.set k (trigger, rest) }
          if stored ∧ Bus.validateSubject copy.subject = .ok () then
            some { state with
              published := state.published ++ [copy]
              inbox := state.inbox ++ deliver index true copy.subject (codec.toVec copy.envelope) }
          else some state

/-- At most one copy for every workflow whose trigger matches the event's subject, and no copy taken
as a trigger. -/
structure Bounded (workflows : List (LoadedWorkflow agents)) (subject : String)
    (state : Forwarding Bytes) : Prop where
  once : (state.published.map (·.workflowId)).Subperm
    ((workflows.filter (·.MatchedBy subject)).map (·.config.id))
  outside : ∀ message ∈ state.taken, message.isCopy = false

/-- No trigger matches the subject of a copy of the event. -/
def Silent (codec : ForwardingCodec Bytes) (workflows : List (LoadedWorkflow agents))
    (subject : String) (payload : Bytes) : Prop :=
  ∀ envelope ∈ codec.fromSlice payload, ∀ workflow ∈ workflows, workflow.MatchedBy subject →
    Bus.validateSubject (pipelineSubject workflow.config.id envelope.eventType) = .ok () →
    ∀ other ∈ workflows, ¬other.MatchedBy (pipelineSubject workflow.config.id envelope.eventType)

theorem mem_keys_foldl_push (workflows : List (LoadedWorkflow agents)) (infos : TriggerInfos)
    (subject : String) :
    subject ∈ (workflows.foldl (fun infos workflow ↦ infos.push workflow.config.on workflow.context)
        infos).keys ↔
      subject ∈ infos.keys ∨ ∃ workflow ∈ workflows, workflow.config.on = subject := by
  induction workflows generalizing infos with
  | nil => simp
  | cons workflow rest ih =>
    rw [List.foldl_cons, ih, TriggerInfos.push, ← AList.mem_keys, AList.mem_insert, AList.mem_keys]
    simp only [List.mem_cons, exists_eq_or_imp, eq_comm (a := subject)]
    tauto

variable {workflows : List (LoadedWorkflow agents)} {newId : String → String} {subjects : List String}
  {index : SubjectIndex}

theorem mem_subjects_iff (triggers : TriggerSubjects workflows) {subject : String} :
    subject ∈ triggers.subjects ↔ ∃ workflow ∈ workflows, workflow.config.on = subject := by
  rw [triggers.iterated.mem_iff, triggerInfos, mem_keys_foldl_push]
  simp

theorem subjects_nodup (triggers : TriggerSubjects workflows) : triggers.subjects.Nodup :=
  triggers.iterated.nodup_iff.mpr (AList.keys_nodup _)

theorem represents_subscribeTriggers {next : SubjectIndex} {live : List SubscriptionEntry}
    (h : index.Represents live) (hsubscribed : subscribeTriggers newId subjects index = .ok next) :
    next.Represents (live ++ subjects.map fun subject ↦
      Client.InProcess.entry (newId subject) subject) := by
  induction subjects generalizing index live with
  | nil =>
    cases hsubscribed
    simpa using h
  | cons subject rest ih =>
    rw [subscribeTriggers] at hsubscribed
    cases hvalid : Bus.validateSubject subject with
    | error error => simp [hvalid, bind, Except.bind] at hsubscribed
    | ok _ =>
      cases hindex : index.subscribe (Client.InProcess.entry (newId subject) subject) with
      | error error => simp [hvalid, hindex, bind, Except.bind] at hsubscribed
      | ok middle =>
        simp only [hvalid, hindex, bind, Except.bind] at hsubscribed
        have hrest := ih (h.subscribe hindex) hsubscribed
        rw [List.map_cons]
        rwa [List.append_assoc, List.singleton_append] at hrest

/-- The tasks a message reaches are those whose trigger matches, each once. -/
theorem triggers_deliver (hindex : subscribeTriggers newId subjects .new = .ok index) (isCopy : Bool)
    (subject : String) (payload : Bytes) :
    ((deliver index isCopy subject payload).map (·.trigger)).Perm
      (subjects.filter fun trigger ↦ patternMatches (tokens trigger) (tokens subject)) := by
  have hlive := represents_subscribeTriggers SubjectIndex.represents_new hindex
  have hlookup := (hlive.lookup_perm subject).map (·.subjectPattern)
  rw [List.nil_append, List.filter_map, List.map_map] at hlookup
  rw [deliver, List.map_map]
  simpa [Function.comp_def, Client.InProcess.entry] using hlookup

theorem eventType_injectOrigin (codec : TriggerCodec Bytes) (envelope : EventEnvelope) :
    (envelope.injectOrigin codec).eventType = envelope.eventType := by
  unfold EventEnvelope.injectOrigin
  split <;> rfl

theorem map_forwardAll (envelope : EventEnvelope) (contexts : List TriggerContext) :
    (forwardAll envelope contexts).map (fun copy ↦ (copy.workflowId, copy.subject)) =
      contexts.map fun ctx ↦ (ctx.workflowId, pipelineSubject ctx.workflowId envelope.eventType) := by
  induction contexts generalizing envelope with
  | nil => rfl
  | cons ctx rest ih =>
    have htype : (ctx.injectScope envelope).eventType = envelope.eventType := by
      unfold TriggerContext.injectScope
      split <;> rfl
    rw [forwardAll, List.map_cons, ih, htype, List.map_cons]
    rw [TriggerContext.forwarded, htype, pipelineSubject]

/-- A trigger task sends one copy for each of its workflows, on the subject of the workflow and the
event's type. -/
theorem map_triggered {codec : TriggerCodec Bytes} {payload : Bytes} {envelope : EventEnvelope}
    (hparse : codec.fromSlice payload = some envelope) (workflows : List (LoadedWorkflow agents))
    (trigger : String) :
    (triggered codec workflows trigger payload).2.map
        (fun copy ↦ (copy.workflowId, copy.subject)) =
      (triggeredBy workflows trigger).map fun workflow ↦
        (workflow.config.id, pipelineSubject workflow.config.id envelope.eventType) := by
  rw [triggered, handleTrigger, hparse, lookup_triggerInfos]
  simp only
  rw [map_forwardAll, eventType_injectOrigin, List.map_map]
  rfl

/-- The workflows whose copies have been published, are being sent or may still come of a message. -/
def due (workflows : List (LoadedWorkflow agents)) (state : Forwarding Bytes) : List String :=
  state.published.map (·.workflowId) ++
    (state.sending.flatMap fun entry ↦ entry.2.map (·.workflowId)) ++
    state.inbox.flatMap fun message ↦
      (triggeredBy workflows message.trigger).map (·.config.id)

theorem flatMap_triggeredBy_perm (triggers : TriggerSubjects workflows) (subject : String) :
    ((triggers.subjects.filter fun trigger ↦
        patternMatches (tokens trigger) (tokens subject)).flatMap (triggeredBy workflows)).Perm
      (workflows.filter (·.MatchedBy subject)) := by
  have hnodup := (subjects_nodup triggers).filter fun trigger ↦
    patternMatches (tokens trigger) (tokens subject)
  have hgroups := SubjectIndex.flatMap_filter_perm
    (fun workflow : LoadedWorkflow agents ↦ workflow.config.on) workflows hnodup
    (p := fun workflow ↦ decide (workflow.config.on ∈ triggers.subjects.filter fun trigger ↦
      patternMatches (tokens trigger) (tokens subject))) fun workflow ↦ decide_eq_true_iff
  have hsame : ∀ workflow ∈ workflows, workflow.config.on ∈ triggers.subjects.filter (fun trigger ↦
      patternMatches (tokens trigger) (tokens subject)) ↔ workflow.MatchedBy subject := by
    intro workflow hmem
    rw [List.mem_filter, mem_subjects_iff]
    exact and_iff_right ⟨workflow, hmem, rfl⟩
  rw [List.filter_congr fun workflow hmem ↦ decide_eq_decide.mpr (hsame workflow hmem)] at hgroups
  exact hgroups

theorem due_start (triggers : TriggerSubjects workflows)
    (hindex : subscribeTriggers newId triggers.subjects .new = .ok index) (subject : String)
    (payload : Bytes) :
    (due workflows (start index subject payload)).Perm
      ((workflows.filter (·.MatchedBy subject)).map (·.config.id)) := by
  have hreached := triggers_deliver hindex false subject payload
  have hdue : due workflows (start index subject payload) =
      (((deliver index false subject payload).map (·.trigger)).flatMap
        (triggeredBy workflows)).map (·.config.id) := by
    simp [due, start, List.flatMap_map, List.map_flatMap]
  rw [hdue]
  exact ((hreached.flatMap_right _).trans (flatMap_triggeredBy_perm triggers subject)).map _

section Silent

variable {codec : ForwardingCodec Bytes} {workflows : List (LoadedWorkflow agents)}
  {index : SubjectIndex} {subject : String} {payload : Bytes} {state next : Forwarding Bytes}

/-- The tasks have received nothing but the outside event, and send only copies of it. -/
structure Calm (codec : ForwardingCodec Bytes) (workflows : List (LoadedWorkflow agents))
    (subject : String) (payload : Bytes) (state : Forwarding Bytes) : Prop where
  due : ∀ id, (due workflows state).count id ≤
    ((workflows.filter (·.MatchedBy subject)).map (·.config.id)).count id
  inbox : ∀ message ∈ state.inbox, message.isCopy = false ∧ message.payload = payload ∧
    patternMatches (tokens message.trigger) (tokens subject) = true
  sending : ∀ entry ∈ state.sending, ∀ copy ∈ entry.2,
    ∃ envelope ∈ codec.fromSlice payload, ∃ workflow ∈ workflows, workflow.MatchedBy subject ∧
      copy.subject = pipelineSubject workflow.config.id envelope.eventType
  taken : ∀ message ∈ state.taken, message.isCopy = false

theorem Calm.bounded (h : Calm codec workflows subject payload state) :
    Bounded workflows subject state where
  once := by
    rw [List.subperm_ext_iff]
    intro id _
    have hdue := h.due id
    rw [Forwarding.due, List.append_assoc, List.count_append] at hdue
    omega
  outside := h.taken

variable (triggers : TriggerSubjects workflows) {newId : String → String}
  (hindex : subscribeTriggers newId triggers.subjects .new = .ok index)

include hindex

theorem matches_of_mem_deliver {isCopy : Bool} {message : TriggerMessage Bytes}
    (h : message ∈ deliver index isCopy subject payload) :
    message.isCopy = isCopy ∧ message.payload = payload ∧ message.trigger ∈ triggers.subjects ∧
      patternMatches (tokens message.trigger) (tokens subject) = true := by
  have htrigger := (triggers_deliver hindex isCopy subject payload).mem_iff.mp
    (List.mem_map_of_mem h)
  obtain ⟨hmem, hmatches⟩ := List.mem_filter.mp htrigger
  obtain ⟨entry, -, rfl⟩ := List.mem_map.mp h
  exact ⟨rfl, rfl, hmem, hmatches⟩

theorem deliver_eq_nil (h : ∀ workflow ∈ workflows, ¬workflow.MatchedBy subject) (isCopy : Bool) :
    deliver index isCopy subject payload = [] := by
  apply List.eq_nil_iff_forall_not_mem.mpr
  intro message hmem
  obtain ⟨-, -, htrigger, hmatches⟩ := matches_of_mem_deliver triggers hindex hmem
  obtain ⟨workflow, hworkflow, hon⟩ := (mem_subjects_iff triggers).mp htrigger
  rw [← hon] at hmatches
  exact h workflow hworkflow hmatches

theorem calm_start : Calm codec workflows subject payload (start index subject payload) where
  due id := ((due_start triggers hindex subject payload).count_eq id).le
  inbox message hmem := by
    obtain ⟨hcopy, hpayload, -, hmatches⟩ := matches_of_mem_deliver triggers hindex hmem
    exact ⟨hcopy, hpayload, hmatches⟩
  sending _ hmem := absurd hmem List.not_mem_nil
  taken _ hmem := absurd hmem List.not_mem_nil

omit hindex in
/-- A message that is no event is dropped; of an event the task sends its copies. -/
theorem Calm.receive (h : Calm codec workflows subject payload state) {i : ℕ}
    (hstep : step codec workflows index state (.receive i) = some next) :
    Calm codec workflows subject payload next := by
  simp only [step] at hstep
  split at hstep
  · cases hstep
  · rename_i message hat
    have hmessage := h.inbox message (List.mem_of_getElem? hat)
    have hrest : ∀ other ∈ state.inbox.eraseIdx i, other ∈ state.inbox := fun other hmem ↦
      List.mem_of_mem_eraseIdx hmem
    have hcount := fun id ↦ count_flatMap_eraseIdx (fun message : TriggerMessage Bytes ↦
      (triggeredBy workflows message.trigger).map (·.config.id)) id hat
    split_ifs at hstep with hbusy
    split at hstep
    · cases hstep
      refine ⟨fun id ↦ ?_, fun other hmem ↦ h.inbox other (hrest other hmem), h.sending, h.taken⟩
      have hdue := h.due id
      have hmessages := hcount id
      simp only [Forwarding.due, List.count_append] at hdue ⊢
      omega
    · rename_i envelope hparse
      cases hstep
      have hcopies := map_triggered hparse workflows message.trigger
      refine ⟨fun id ↦ ?_, fun other hmem ↦ h.inbox other (hrest other hmem), ?_, ?_⟩
      · have hids := congrArg (List.map Prod.fst) hcopies
        rw [List.map_map, List.map_map] at hids
        have hdue := h.due id
        have hmessages := hcount id
        simp only [Forwarding.due, List.count_append, List.flatMap_append, List.flatMap_cons,
          List.flatMap_nil, List.append_nil] at hdue ⊢
        simp only [Function.comp_def] at hids
        rw [hids]
        omega
      · intro entry hmem copy hcopy
        obtain hold | rfl := mem_of_concat hmem
        · exact h.sending entry hold copy hcopy
        · have hpair := List.mem_map_of_mem (f := fun copy ↦ (copy.workflowId, copy.subject)) hcopy
          rw [hcopies] at hpair
          obtain ⟨workflow, hworkflow, heq⟩ := List.mem_map.mp hpair
          obtain ⟨hmem, hon⟩ := List.mem_filter.mp hworkflow
          refine ⟨envelope, hmessage.2.1 ▸ hparse, workflow, hmem, ?_, (Prod.mk.inj heq).2.symm⟩
          rw [LoadedWorkflow.MatchedBy, of_decide_eq_true hon]
          exact hmessage.2.2
      · intro other hmem
        obtain hold | rfl := mem_of_concat hmem
        · exact h.taken other hold
        · exact hmessage.1

/-- A published copy reaches no task. -/
theorem Calm.send (h : Calm codec workflows subject payload state)
    (hsilent : Silent codec workflows subject payload) {k : ℕ} {stored : Bool}
    (hstep : step codec workflows index state (.send k stored) = some next) :
    Calm codec workflows subject payload next := by
  simp only [step] at hstep
  split at hstep
  · cases hstep
  · rename_i trigger hat
    cases hstep
    have hcount := fun id ↦ count_flatMap_eraseIdx (fun entry : String × List Forwarded ↦
      entry.2.map (·.workflowId)) id hat
    refine ⟨fun id ↦ ?_, h.inbox, fun entry hmem ↦ h.sending entry (List.mem_of_mem_eraseIdx hmem),
      h.taken⟩
    have hdue := h.due id
    have hentries := hcount id
    simp only [Forwarding.due, List.count_append] at hdue ⊢
    omega
  · rename_i trigger copy rest hat
    have hcopies := h.sending _ (List.mem_of_getElem? hat)
    have hcount := fun id ↦ count_flatMap_set (fun entry : String × List Forwarded ↦
      entry.2.map (·.workflowId)) id hat (trigger, rest)
    have hsending : ∀ entry ∈ state.sending.set k (trigger, rest), ∀ copy ∈ entry.2,
        ∃ envelope ∈ codec.fromSlice payload, ∃ workflow ∈ workflows, workflow.MatchedBy subject ∧
          copy.subject = pipelineSubject workflow.config.id envelope.eventType := by
      intro entry hmem copy' hcopy'
      rcases List.mem_or_eq_of_mem_set hmem with hold | rfl
      · exact h.sending entry hold copy' hcopy'
      · exact hcopies copy' (List.mem_cons_of_mem _ hcopy')
    split_ifs at hstep with hpublished
    · cases hstep
      obtain ⟨envelope, hparse, workflow, hworkflow, hmatched, hsubject⟩ :=
        hcopies copy List.mem_cons_self
      have hnone := hsilent envelope hparse workflow hworkflow hmatched (hsubject ▸ hpublished.2)
      have hreached : deliver index true copy.subject (codec.toVec copy.envelope) = [] := by
        rw [hsubject]
        exact deliver_eq_nil triggers hindex hnone true
      refine ⟨fun id ↦ ?_, ?_, hsending, h.taken⟩
      · have hdue := h.due id
        have hentries := hcount id
        simp only [Forwarding.due, List.count_append, List.map_append, List.map_cons, List.map_nil,
          List.count_cons, hreached, List.append_nil, List.count_nil] at hdue hentries ⊢
        omega
      · rw [hreached, List.append_nil]
        exact h.inbox
    · cases hstep
      refine ⟨fun id ↦ ?_, h.inbox, hsending, h.taken⟩
      have hdue := h.due id
      have hentries := hcount id
      simp only [Forwarding.due, List.count_append, List.map_cons, List.count_cons] at hdue hentries ⊢
      omega

end Silent

/-! ## A run in which a copy is taken -/

section Taken

variable (codec : ForwardingCodec Bytes) (workflows : List (LoadedWorkflow agents))
  (index : SubjectIndex) {state : Forwarding Bytes}

abbrev Reached : Forwarding Bytes → Forwarding Bytes → Prop :=
  Steps.Reach (step codec workflows index) fun _ _ ↦ True

variable {trigger : String} {newId : String → String} {subject : String}

/-- The only busy task finishes while nothing it sends is stored. -/
theorem reached_idle {copies : List Forwarded} (h : state.sending = [(trigger, copies)]) :
    Reached codec workflows index state { state with sending := [] } := by
  induction copies generalizing state with
  | nil =>
    have hstep : step codec workflows index state (.send 0 false) =
        some { state with sending := [] } := by simp [step, h]
    exact .next .init trivial hstep
  | cons copy rest ih =>
    have hstep : step codec workflows index state (.send 0 false) =
        some { state with sending := [(trigger, rest)] } := by simp [step, h]
    exact (Steps.Reach.next .init trivial hstep).trans (ih rfl)

/-- The only busy task finishes and one of its copies is published. -/
theorem reached_published {before after : List Forwarded} {copy : Forwarded}
    (h : state.sending = [(trigger, before ++ copy :: after)])
    (hvalid : Bus.validateSubject copy.subject = .ok ()) :
    ∃ next, Reached codec workflows index state next ∧ next.sending = [] ∧
      deliver index true copy.subject (codec.toVec copy.envelope) ⊆ next.inbox := by
  induction before generalizing state with
  | nil =>
    have hstep : step codec workflows index state (.send 0 true) =
        some { state with
          sending := [(trigger, after)]
          published := state.published ++ [copy]
          inbox := state.inbox ++ deliver index true copy.subject (codec.toVec copy.envelope) } := by
      simp [step, h, hvalid]
    have hpublished : Reached codec workflows index state _ := .next .init trivial hstep
    exact ⟨_, hpublished.trans (reached_idle codec workflows index rfl), rfl,
      List.subset_append_right _ _⟩
  | cons skipped rest ih =>
    have hstep : step codec workflows index state (.send 0 false) =
        some { state with sending := [(trigger, rest ++ copy :: after)] } := by simp [step, h]
    have hsending : ({ state with sending := [(trigger, rest ++ copy :: after)] } :
        Forwarding Bytes).sending = [(trigger, rest ++ copy :: after)] := rfl
    obtain ⟨next, hnext, hidle, hinbox⟩ := ih hsending
    exact ⟨next, (Steps.Reach.next .init trivial hstep).trans hnext, hidle, hinbox⟩

/-- An idle task takes a message that is an event. -/
theorem reached_taken {message : TriggerMessage Bytes} (hmem : message ∈ state.inbox)
    (hidle : state.sending = []) {envelope : EventEnvelope}
    (hparse : codec.fromSlice message.payload = some envelope) :
    ∃ next, Reached codec workflows index state next ∧ message ∈ next.taken ∧
      next.sending = [(message.trigger,
        (triggered codec.toTriggerCodec workflows message.trigger message.payload).2)] := by
  obtain ⟨i, hat⟩ := List.mem_iff_getElem?.mp hmem
  have hstep : step codec workflows index state (.receive i) = some
      { state with
        inbox := state.inbox.eraseIdx i
        sending := [(message.trigger,
          (triggered codec.toTriggerCodec workflows message.trigger message.payload).2)]
        taken := state.taken ++ [message] } := by simp [step, hat, hidle, hparse]
  exact ⟨_, .next .init trivial hstep, List.mem_concat_self, rfl⟩

variable {codec workflows index}

theorem mem_deliver (triggers : TriggerSubjects workflows)
    (hindex : subscribeTriggers newId triggers.subjects .new = .ok index) (isCopy : Bool)
    {workflow : LoadedWorkflow agents} (hmem : workflow ∈ workflows) (hmatched : workflow.MatchedBy subject)
    (payload : Bytes) : ⟨workflow.config.on, payload, isCopy⟩ ∈ deliver index isCopy subject payload := by
  have htrigger : workflow.config.on ∈ triggers.subjects.filter fun trigger ↦
      patternMatches (tokens trigger) (tokens subject) :=
    List.mem_filter.mpr ⟨(mem_subjects_iff triggers).mpr ⟨workflow, hmem, rfl⟩, hmatched⟩
  have hreached := (triggers_deliver hindex isCopy subject payload).mem_iff.mpr htrigger
  obtain ⟨message, hmessage, hon⟩ := List.mem_map.mp hreached
  obtain ⟨hcopy, hpayload, -, -⟩ := matches_of_mem_deliver triggers hindex hmessage
  have heq : message = ⟨workflow.config.on, payload, isCopy⟩ := by
    cases message
    simp_all
  exact heq ▸ hmessage

/-- If a trigger matches the subject of a copy, some run takes the copy as a trigger. -/
theorem exists_copy_taken (triggers : TriggerSubjects workflows)
    (hindex : subscribeTriggers newId triggers.subjects .new = .ok index) {payload : Bytes}
    (hloud : ¬Silent codec workflows subject payload) :
    ∃ final, Reached codec workflows index (start index subject payload) final ∧
      ∃ message ∈ final.taken, message.isCopy = true := by
  unfold Silent at hloud
  push Not at hloud
  obtain ⟨envelope, hparse, workflow, hworkflow, hmatched, hvalid, other, hother, hcopied⟩ := hloud
  -- the task of the first workflow takes the outside event
  have hreceived := mem_deliver triggers hindex false hworkflow hmatched payload
  have hnone : (start index subject payload).sending = [] := rfl
  obtain ⟨busy, hfirst, -, hsending⟩ := reached_taken codec workflows index hreceived hnone hparse
  -- and publishes the copy of that workflow
  obtain ⟨copy, hcopy, hsubject⟩ : ∃ copy ∈ (triggered codec.toTriggerCodec workflows
      workflow.config.on payload).2,
      copy.subject = pipelineSubject workflow.config.id envelope.eventType := by
    have hpair : (workflow.config.id, pipelineSubject workflow.config.id envelope.eventType) ∈
        (triggered codec.toTriggerCodec workflows workflow.config.on payload).2.map
          fun copy ↦ (copy.workflowId, copy.subject) := by
      rw [map_triggered hparse]
      exact List.mem_map_of_mem (List.mem_filter.mpr ⟨hworkflow, decide_eq_true rfl⟩)
    obtain ⟨copy, hcopy, heq⟩ := List.mem_map.mp hpair
    exact ⟨copy, hcopy, (Prod.mk.inj heq).2⟩
  obtain ⟨before, after, hcopies⟩ := List.append_of_mem hcopy
  rw [hcopies] at hsending
  have hvalid' : Bus.validateSubject copy.subject = .ok () := hsubject ▸ hvalid
  obtain ⟨idle, hsecond, hidle, hinbox⟩ :=
    reached_published codec workflows index hsending hvalid'
  -- which the other workflow's task takes
  obtain ⟨read, hread, -⟩ := codec.read_back copy.envelope
  have hreached := mem_deliver triggers hindex true hother hcopied (codec.toVec copy.envelope)
  rw [← hsubject] at hreached
  obtain ⟨final, hthird, htaken, -⟩ := reached_taken codec workflows index (hinbox hreached) hidle hread
  exact ⟨final, (hfirst.trans hsecond).trans hthird, _, htaken, rfl⟩

end Taken

/-- Every run after one outside event stays bounded exactly if no trigger matches a copy of it. -/
theorem bounded_iff_silent {codec : ForwardingCodec Bytes} {workflows : List (LoadedWorkflow agents)}
    (triggers : TriggerSubjects workflows) {newId : String → String} {index : SubjectIndex}
    (hindex : subscribeTriggers newId triggers.subjects .new = .ok index) (subject : String)
    (payload : Bytes) :
    (∀ state, Steps.Reach (step codec workflows index) (fun _ _ ↦ True)
        (start index subject payload) state → Bounded workflows subject state) ↔
      Silent codec workflows subject payload := by
  constructor
  · intro hbounded
    by_contra hloud
    obtain ⟨final, hreach, message, hmem, hcopy⟩ := exists_copy_taken triggers hindex hloud
    have houtside := (hbounded final hreach).outside message hmem
    rw [hcopy] at houtside
    cases houtside
  · intro hsilent state hreach
    have hcalm : Calm codec workflows subject payload state := by
      apply hreach.invariant (calm_start triggers hindex)
      intro s label s' hbefore _ hstep
      cases label with
      | receive i => exact hbefore.receive hstep
      | send k stored => exact hbefore.send triggers hindex hsilent hstep
    exact hcalm.bounded

instance (codec : ForwardingCodec Bytes) (workflows : List (LoadedWorkflow agents)) (subject : String)
    (payload : Bytes) : Decidable (Silent codec workflows subject payload) := by
  unfold Silent
  infer_instance

/-- A workflow without agents. -/
def bareWorkflow (id on : String) : LoadedWorkflow ∅ where
  config := ⟨id, [], on⟩
  resolvedAgents := []
  resolved := .refl _

def bareTriggers (id on : String) : TriggerSubjects [bareWorkflow id on] where
  subjects := [on]
  iterated := .refl _

theorem bounded_inbound : ∃ index,
    subscribeTriggers id ["channel.*.inbound"] .new = .ok index ∧
      ∀ state, Steps.Reach
          (step .structural [bareWorkflow "notes" "channel.*.inbound"] index) (fun _ _ ↦ True)
          (start index "channel.telegram.inbound" .sample) state →
        Bounded [bareWorkflow "notes" "channel.*.inbound"] "channel.telegram.inbound" state := by
  refine ⟨_, rfl, ?_⟩
  have hindex : subscribeTriggers id (bareTriggers "notes" "channel.*.inbound").subjects .new =
      .ok _ := rfl
  exact (bounded_iff_silent _ hindex "channel.telegram.inbound" EventEnvelope.sample).mpr
    (by decide +kernel)

/-- A workflow that listens to everything forwards its own copies again. -/
theorem copies_forwarded_again : ∃ index, subscribeTriggers id [">"] .new = .ok index ∧
    ¬∀ state, Steps.Reach (step .structural [bareWorkflow "audit" ">"] index) (fun _ _ ↦ True)
        (start index "channel.telegram.inbound" .sample) state →
      Bounded [bareWorkflow "audit" ">"] "channel.telegram.inbound" state := by
  refine ⟨_, rfl, fun hbounded ↦ ?_⟩
  have hrun : ∃ index ∈ (subscribeTriggers id [">"] .new).toOption,
      ∃ state ∈ Steps.execute (step .structural [bareWorkflow "audit" ">"] index)
          (start index "channel.telegram.inbound" .sample)
          [.receive 0, .send 0 true, .send 0 true, .receive 0, .send 0 true],
        state.published.map (·.workflowId) = ["audit", "audit"] := by
    decide +kernel
  obtain ⟨index, hindex, state, hstate, hpublished⟩ := hrun
  cases hindex
  have hreach := Steps.reach_of_execute (Steps.guarded_of_forall (fun _ _ ↦ trivial) _ _) hstate
  have honce := (hbounded state hreach).once.length_le
  rw [hpublished] at honce
  exact absurd honce (by decide +kernel)

end Forwarding

end Seidrum.Kernel
