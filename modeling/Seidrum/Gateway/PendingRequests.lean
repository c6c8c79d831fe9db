import Seidrum.Foundation.Positions
import Seidrum.Gateway.Connections

/-!
# Requests forwarded to external plugins

A listener forwards capability calls and health checks to the plugin it works for.  The request to be
answered on the bus is kept in a table shared by all connections, under a fresh identifier that is
sent along; whoever takes it out of the table answers it.  That is the task of a socket on which a
reply with the identifier comes in, or the reaper after a deadline.
-/

namespace Seidrum.Gateway

open EventBus (Value)
open Foundation

structure PendingRequest where
  replySubject : String
  deadline : ℕ
  isHealthCheck : Bool
  deriving DecidableEq, Repr

abbrev PendingRequests := AList fun _ : String ↦ PendingRequest

/-- The time a plugin has to answer, in milliseconds. -/
def timeout (isHealthCheck : Bool) : ℕ := if isHealthCheck then 5000 else 30000

/-- The answer of the reaper. -/
def timeoutResponse (isHealthCheck : Bool) : Value :=
  if isHealthCheck then
    .object [("events_processed", .number "0"),
      ("last_error", .string "External plugin did not respond to health check in time"),
      ("plugin_id", .string "unknown"), ("status", .string "unhealthy"),
      ("uptime_seconds", .number "0")]
  else
    .object [("is_error", .bool true),
      ("result", .object [("error", .string "External plugin timed out")]),
      ("tool_id", .string "unknown")]

/-- A reply of a plugin; both kinds are handled alike. -/
inductive PluginReply
  | capabilityResponse (response : Value)
  | healthResponse (response : Value)

def PluginReply.response : PluginReply → Value
  | capabilityResponse response | healthResponse response => response

/-! ## Forwarding -/

structure ForwardedCall where
  requestId : String
  pluginId : String
  replySubject : String
  isHealthCheck : Bool
  deriving DecidableEq, Repr

/-- Where an answer comes from: a socket and what it is registered as, or the reaper. -/
inductive AnswerSource
  | reply (id : ℕ) (pluginId : Option String)
  | reaper
  deriving DecidableEq, Repr

/-- What is handed to the bus as the answer of a request. -/
structure Answer where
  requestId : String
  replySubject : String
  body : Value
  source : AnswerSource

/-- Where the reaper stands, with the identifiers of the requests that were overdue when its run
began. -/
inductive Reaper
  | idle (overdue : List String)
  /-- The table is gone through, entry after entry, and identifiers are collected. -/
  | scanning (overdue : List String) (now : ℕ) (unseen expiredIds : List String)
  /-- The collected identifiers are taken out of the table. -/
  | reaping (overdue expiredIds : List String)

/-- The gateway with its pending requests; `calls` and `answers` are the history. -/
structure ForwardState where
  gateway : GatewayState
  now : ℕ
  pending : PendingRequests
  /-- What listeners have put in the table and not yet sent to their plugin. -/
  sending : AList fun _ : ℕ ↦ String × ServerMessage
  reaper : Reaper
  calls : List ForwardedCall
  answers : List Answer

def ForwardState.init : ForwardState := ⟨.init, 0, ∅, ∅, .idle [], [], []⟩

inductive ForwardLabel
  | gateway (label : GatewayLabel)
  | tick (milliseconds : ℕ)
  /-- A listener receives a message: its reply subject, and the request if it can be read. -/
  | receive (task : ℕ) (reply : Option String) (request : Option Value) (requestId : String)
  | send (task : ℕ)
  /-- A reply comes in on a socket. -/
  | reply (id : ℕ) (requestId : String) (response : PluginReply)
  | reap

/-- A message for a connection, dropped if its socket is closed. -/
def GatewayState.send (state : GatewayState) (pluginId : String) (message : ServerMessage) :
    GatewayState :=
  match state.connections.getSender pluginId with
  | some id =>
      if (state.sockets id).phase = .closed then state
      else state.setSocket id ((state.sockets id).say message)
  | none => state

def ForwardState.addPending (state : ForwardState) (task : ℕ) (call : ForwardedCall)
    (message : ServerMessage) : ForwardState :=
  { state with
    pending := state.pending.insert call.requestId
      ⟨call.replySubject, state.now + timeout call.isHealthCheck, call.isHealthCheck⟩
    sending := state.sending.insert task (call.pluginId, message)
    calls := state.calls ++ [call] }

/-- Take a request out of the table and hand its answer to the bus. -/
def ForwardState.takePending (state : ForwardState) (requestId : String) (source : AnswerSource)
    (body : PendingRequest → Value) : ForwardState :=
  match state.pending.lookup requestId with
  | some pending =>
      { state with
        pending := state.pending.erase requestId
        answers := state.answers ++ [⟨requestId, pending.replySubject, body pending, source⟩] }
  | none => state

/-- The request is overdue at a time. -/
def PendingRequests.OverdueAt (pending : PendingRequests) (now : ℕ) (requestId : String) : Prop :=
  ∃ request ∈ pending.lookup requestId, request.deadline ≤ now

instance (pending : PendingRequests) (now : ℕ) : DecidablePred (pending.OverdueAt now) := fun _ ↦ by
  unfold PendingRequests.OverdueAt
  infer_instance

def ForwardState.reap (state : ForwardState) : ForwardState :=
  match state.reaper with
  | .idle _ =>
      { state with
        reaper := .scanning (state.pending.keys.filter (state.pending.OverdueAt state.now))
          state.now state.pending.keys [] }
  | .scanning overdue now (requestId :: unseen) expiredIds =>
      if state.pending.OverdueAt now requestId then
        { state with reaper := .scanning overdue now unseen (expiredIds ++ [requestId]) }
      else { state with reaper := .scanning overdue now unseen expiredIds }
  | .scanning overdue _ [] expiredIds => { state with reaper := .reaping overdue expiredIds }
  | .reaping overdue (requestId :: expiredIds) =>
      { state.takePending requestId .reaper fun pending ↦ timeoutResponse pending.isHealthCheck with
        reaper := .reaping overdue expiredIds }
  | .reaping overdue [] => { state with reaper := .idle overdue }

def ForwardState.step : Steps ForwardState ForwardLabel
  | state, .gateway label =>
      (state.gateway.step label).map fun gateway ↦ { state with gateway := gateway }
  | state, .tick milliseconds => some { state with now := state.now + milliseconds }
  | state, .receive task reply request requestId =>
      if (state.sending.lookup task).isSome ∨ requestId ∈ state.calls.map (·.requestId) then none
      else (state.gateway.tasks.lookup task).map fun listener ↦
        match listener.listener, reply, request with
        | .capabilityCalls, some reply, some request =>
            state.addPending task ⟨requestId, listener.pluginId, reply, false⟩
              (.capabilityCall requestId request)
        | .healthChecks, some reply, _ =>
            state.addPending task ⟨requestId, listener.pluginId, reply, true⟩
              (.healthCheck requestId)
        | _, _, _ => state
  | state, .send task =>
      (state.sending.lookup task).map fun forwarded ↦
        { state with
          gateway := state.gateway.send forwarded.1 forwarded.2
          sending := state.sending.erase task }
  | state, .reply id requestId response =>
      if (state.gateway.sockets id).phase = .reading then
        some (state.takePending requestId (.reply id (state.gateway.sockets id).pluginId)
          fun _ ↦ response.response)
      else none
  | state, .reap => some state.reap

/-- A step leaves the table alone, forwards a new request, or takes one out and answers it. -/
inductive ForwardState.Change (state next : ForwardState) (label : ForwardLabel) : Prop
  | same (hpending : next.pending = state.pending) (hcalls : next.calls = state.calls)
      (hanswers : next.answers = state.answers)
  | added (call : ForwardedCall) (deadline : ℕ)
      (hfresh : call.requestId ∉ state.calls.map (·.requestId))
      (hpending : next.pending = state.pending.insert call.requestId
        ⟨call.replySubject, deadline, call.isHealthCheck⟩)
      (hcalls : next.calls = state.calls ++ [call]) (hanswers : next.answers = state.answers)
  | taken (requestId : String) (request : PendingRequest) (source : AnswerSource) (body : Value)
      (hfound : state.pending.lookup requestId = some request)
      (hpending : next.pending = state.pending.erase requestId)
      (hcalls : next.calls = state.calls)
      (hanswers : next.answers =
        state.answers ++ [⟨requestId, request.replySubject, body, source⟩])
      (hsource : (source = .reaper ∧ body = timeoutResponse request.isHealthCheck) ∨
        ∃ id response, label = .reply id requestId response ∧
          source = .reply id (state.gateway.sockets id).pluginId)

section

variable {state next : ForwardState} {label : ForwardLabel} {requestId : String} {source : AnswerSource}
  {body : PendingRequest → Value} {request : PendingRequest}

theorem ForwardState.takePending_of_none (h : state.pending.lookup requestId = none) :
    state.takePending requestId source body = state := by
  rw [takePending, h]

theorem ForwardState.takePending_of_some (h : state.pending.lookup requestId = some request) :
    state.takePending requestId source body =
      { state with
        pending := state.pending.erase requestId
        answers := state.answers ++ [⟨requestId, request.replySubject, body request, source⟩] } := by
  rw [takePending, h]

theorem ForwardState.change_reap : state.Change state.reap .reap := by
  unfold reap
  split
  next => exact .same rfl rfl rfl
  next => split_ifs <;> exact .same rfl rfl rfl
  next => exact .same rfl rfl rfl
  next requestId _ _ =>
    cases hfound : state.pending.lookup requestId with
    | none =>
      rw [takePending_of_none hfound]
      exact .same rfl rfl rfl
    | some request =>
      rw [takePending_of_some hfound]
      exact .taken requestId request .reaper _ hfound rfl rfl rfl (.inl ⟨rfl, rfl⟩)
  next => exact .same rfl rfl rfl

theorem ForwardState.change_of_step (hstep : state.step label = some next) :
    state.Change next label := by
  cases label with
  | gateway label =>
    obtain ⟨gateway, -, rfl⟩ := Option.map_eq_some_iff.mp hstep
    exact .same rfl rfl rfl
  | tick milliseconds =>
    cases hstep
    exact .same rfl rfl rfl
  | receive task reply request requestId =>
    obtain ⟨hfree, hlistener⟩ := Option.ite_none_left_eq_some.mp hstep
    obtain ⟨listener, -, heq⟩ := Option.map_eq_some_iff.mp hlistener
    have hfresh : requestId ∉ state.calls.map (·.requestId) := fun hmem ↦ hfree (.inr hmem)
    split at heq <;> subst heq
    · exact .added _ _ hfresh rfl rfl rfl
    · exact .added _ _ hfresh rfl rfl rfl
    · exact .same rfl rfl rfl
  | send task =>
    obtain ⟨forwarded, -, rfl⟩ := Option.map_eq_some_iff.mp hstep
    exact .same rfl rfl rfl
  | reply id requestId response =>
    obtain ⟨-, heq⟩ := Option.ite_none_right_eq_some.mp hstep
    cases heq
    cases hfound : state.pending.lookup requestId with
    | none =>
      rw [takePending_of_none hfound]
      exact .same rfl rfl rfl
    | some request =>
      rw [takePending_of_some hfound]
      exact .taken requestId request _ _ hfound rfl rfl rfl (.inr ⟨id, response, rfl, rfl⟩)
  | reap =>
    cases hstep
    exact change_reap

/-- A request of the table, or an answer, belongs to a forwarded call, and each call is in the table
until it is answered. -/
structure ForwardState.Sound (state : ForwardState) : Prop where
  callsNodup : (state.calls.map (·.requestId)).Nodup
  ofCall : ∀ requestId request, state.pending.lookup requestId = some request →
    ∃ call ∈ state.calls, call.requestId = requestId ∧ call.replySubject = request.replySubject ∧
      call.isHealthCheck = request.isHealthCheck
  answersNodup : (state.answers.map (·.requestId)).Nodup
  answerOfCall : ∀ answer ∈ state.answers, state.pending.lookup answer.requestId = none ∧
    ∃ call ∈ state.calls, call.requestId = answer.requestId ∧
      call.replySubject = answer.replySubject ∧
      (answer.source = .reaper → answer.body = timeoutResponse call.isHealthCheck)
  settled : ∀ call ∈ state.calls, (state.pending.lookup call.requestId).isSome ∨
    ∃ answer ∈ state.answers, answer.requestId = call.requestId

theorem ForwardState.sound_init : ForwardState.init.Sound where
  callsNodup := List.nodup_nil
  ofCall := by simp [init]
  answersNodup := List.nodup_nil
  answerOfCall := by simp [init]
  settled := by simp [init]

theorem ForwardState.Sound.added (h : state.Sound) {call : ForwardedCall} {deadline : ℕ}
    (hfresh : call.requestId ∉ state.calls.map (·.requestId))
    (hpending : next.pending = state.pending.insert call.requestId
      ⟨call.replySubject, deadline, call.isHealthCheck⟩)
    (hcalls : next.calls = state.calls ++ [call]) (hanswers : next.answers = state.answers) :
    next.Sound := by
  have hne {other : ForwardedCall} (hother : other ∈ state.calls) :
      other.requestId ≠ call.requestId := fun heq ↦
    hfresh (heq ▸ List.mem_map_of_mem hother)
  have hkept {other : ForwardedCall} (hother : other ∈ state.calls) :
      next.pending.lookup other.requestId = state.pending.lookup other.requestId := by
    rw [hpending, AList.lookup_insert_ne (hne hother)]
  have hold {other : ForwardedCall} (hother : other ∈ state.calls) : other ∈ next.calls := by
    rw [hcalls]
    exact List.mem_append_left _ hother
  constructor
  · rw [hcalls, List.map_append]
    exact h.callsNodup.append (List.nodup_singleton _) (by simpa using hfresh)
  · intro requestId request hfound
    by_cases hid : requestId = call.requestId
    · subst hid
      rw [hpending, AList.lookup_insert] at hfound
      cases hfound
      refine ⟨call, ?_, rfl, rfl, rfl⟩
      rw [hcalls]
      exact List.mem_append_right _ (List.mem_singleton_self call)
    · rw [hpending, AList.lookup_insert_ne hid] at hfound
      obtain ⟨other, hother, hof⟩ := h.ofCall requestId request hfound
      exact ⟨other, hold hother, hof⟩
  · rw [hanswers]
    exact h.answersNodup
  · intro answer hanswer
    rw [hanswers] at hanswer
    obtain ⟨hgone, other, hother, hid, hof⟩ := h.answerOfCall answer hanswer
    refine ⟨?_, other, hold hother, hid, hof⟩
    rw [← hid, hkept hother, hid]
    exact hgone
  · intro other hother
    rw [hcalls] at hother
    obtain hother | rfl := mem_of_concat hother
    · rw [hkept hother, hanswers]
      exact h.settled other hother
    · left
      rw [hpending, AList.lookup_insert]
      rfl

theorem ForwardState.Sound.taken (h : state.Sound) {body : Value}
    (hfound : state.pending.lookup requestId = some request)
    (hpending : next.pending = state.pending.erase requestId) (hcalls : next.calls = state.calls)
    (hanswers : next.answers = state.answers ++ [⟨requestId, request.replySubject, body, source⟩])
    (hbody : source = .reaper → body = timeoutResponse request.isHealthCheck) : next.Sound := by
  have hunanswered {answer : Answer} (hanswer : answer ∈ state.answers) :
      answer.requestId ≠ requestId := by
    rintro heq
    have hgone := (h.answerOfCall answer hanswer).1
    rw [heq, hfound] at hgone
    cases hgone
  have hkept {other : String} (hne : other ≠ requestId) :
      next.pending.lookup other = state.pending.lookup other := by
    rw [hpending, AList.lookup_erase_ne hne]
  have hgone : next.pending.lookup requestId = none := by rw [hpending, AList.lookup_erase]
  constructor
  · rw [hcalls]
    exact h.callsNodup
  · intro other request' hfound'
    have hne : other ≠ requestId := by
      rintro rfl
      rw [hgone] at hfound'
      cases hfound'
    rw [hkept hne] at hfound'
    rw [hcalls]
    exact h.ofCall other request' hfound'
  · rw [hanswers, List.map_append]
    refine h.answersNodup.append (List.nodup_singleton _) ?_
    simp only [List.map_cons, List.map_nil, List.disjoint_singleton, List.mem_map, not_exists,
      not_and]
    exact fun answer hanswer ↦ hunanswered hanswer
  · intro answer hanswer
    rw [hanswers] at hanswer
    rw [hcalls]
    obtain hanswer | rfl := mem_of_concat hanswer
    · rw [hkept (hunanswered hanswer)]
      exact h.answerOfCall answer hanswer
    · obtain ⟨call, hcall, hid, hreply, hkind⟩ := h.ofCall requestId request hfound
      exact ⟨hgone, call, hcall, hid, hreply, fun hsource ↦ hkind ▸ hbody hsource⟩
  · intro call hcall
    rw [hcalls] at hcall
    rw [hanswers]
    by_cases hid : call.requestId = requestId
    · exact .inr ⟨_, List.mem_concat_self, hid.symm⟩
    · rw [hkept hid]
      exact (h.settled call hcall).imp_right fun ⟨answer, hanswer, heq⟩ ↦
        ⟨answer, List.mem_append_left _ hanswer, heq⟩

theorem ForwardState.Sound.step (h : state.Sound) (hstep : state.step label = some next) :
    next.Sound := by
  cases ForwardState.change_of_step hstep with
  | same hpending hcalls hanswers =>
    constructor
    · rw [hcalls]
      exact h.callsNodup
    · rw [hpending, hcalls]
      exact h.ofCall
    · rw [hanswers]
      exact h.answersNodup
    · rw [hpending, hcalls, hanswers]
      exact h.answerOfCall
    · rw [hpending, hcalls, hanswers]
      exact h.settled
  | added call deadline hfresh hpending hcalls hanswers =>
    exact h.added hfresh hpending hcalls hanswers
  | taken requestId request source body hfound hpending hcalls hanswers hsource =>
    refine h.taken hfound hpending hcalls hanswers fun hreaper ↦ ?_
    obtain ⟨-, hbody⟩ | ⟨id, response, -, hreply⟩ := hsource
    · exact hbody
    · rw [hreaper] at hreply
      cases hreply

/-! ## A run of the reaper -/

/-- What was overdue when a run began is out of the table, or still to come in the run. -/
def Reaper.Covers (pending : PendingRequests) (known : List String) : Reaper → Prop
  | .idle overdue => ∀ requestId ∈ overdue, requestId ∈ known ∧ pending.lookup requestId = none
  | .scanning overdue now unseen expiredIds => ∀ requestId ∈ overdue, requestId ∈ known ∧
      (pending.lookup requestId = none ∨ requestId ∈ expiredIds ∨
        (requestId ∈ unseen ∧ pending.OverdueAt now requestId))
  | .reaping overdue expiredIds => ∀ requestId ∈ overdue, requestId ∈ known ∧
      (pending.lookup requestId = none ∨ requestId ∈ expiredIds)

/-- Known requests only ever leave the table. -/
theorem Reaper.Covers.mono {reaper : Reaper} {pending pending' : PendingRequests}
    {known known' : List String} (h : reaper.Covers pending known) (hknown : known ⊆ known')
    (hpending : ∀ requestId ∈ known, pending'.lookup requestId = none ∨
      pending'.lookup requestId = pending.lookup requestId) : reaper.Covers pending' known' := by
  cases reaper with
  | idle overdue =>
    intro requestId hoverdue
    obtain ⟨hmem, hgone⟩ := h requestId hoverdue
    have hstill := hpending requestId hmem
    rw [hgone, or_self] at hstill
    exact ⟨hknown hmem, hstill⟩
  | scanning overdue now unseen expiredIds =>
    intro requestId hoverdue
    obtain ⟨hmem, hcovered⟩ := h requestId hoverdue
    refine ⟨hknown hmem, ?_⟩
    rcases hpending requestId hmem with hgone | hsame
    · exact .inl hgone
    · rw [PendingRequests.OverdueAt, hsame]
      exact hcovered
  | reaping overdue expiredIds =>
    intro requestId hoverdue
    obtain ⟨hmem, hcovered⟩ := h requestId hoverdue
    refine ⟨hknown hmem, ?_⟩
    rcases hpending requestId hmem with hgone | hsame
    · exact .inl hgone
    · rw [hsame]
      exact hcovered

theorem ForwardState.Change.known_subset (h : state.Change next label) :
    state.calls.map (·.requestId) ⊆ next.calls.map (·.requestId) := by
  cases h with
  | same _ hcalls _ | taken _ _ _ _ _ _ hcalls =>
    rw [hcalls]
    exact List.Subset.refl _
  | added call _ _ _ hcalls =>
    rw [hcalls, List.map_append]
    exact List.subset_append_left _ _

theorem ForwardState.Change.lookup_known (h : state.Change next label)
    (hknown : requestId ∈ state.calls.map (·.requestId)) :
    next.pending.lookup requestId = none ∨
      next.pending.lookup requestId = state.pending.lookup requestId := by
  cases h with
  | same hpending => exact .inr (by rw [hpending])
  | added call deadline hfresh hpending =>
    have hne : requestId ≠ call.requestId := fun heq ↦ hfresh (heq ▸ hknown)
    exact .inr (by rw [hpending, AList.lookup_insert_ne hne])
  | taken taken request source body hfound hpending =>
    by_cases hid : requestId = taken
    · exact .inl (by rw [hpending, hid, AList.lookup_erase])
    · exact .inr (by rw [hpending, AList.lookup_erase_ne hid])

theorem ForwardState.reaper_of_step (hstep : state.step label = some next)
    (hreap : label ≠ .reap) : next.reaper = state.reaper := by
  cases label with
  | gateway label =>
    obtain ⟨gateway, -, rfl⟩ := Option.map_eq_some_iff.mp hstep
    rfl
  | tick milliseconds =>
    cases hstep
    rfl
  | receive task reply request requestId =>
    obtain ⟨-, hlistener⟩ := Option.ite_none_left_eq_some.mp hstep
    obtain ⟨listener, -, heq⟩ := Option.map_eq_some_iff.mp hlistener
    split at heq <;> subst heq <;> rfl
  | send task =>
    obtain ⟨forwarded, -, rfl⟩ := Option.map_eq_some_iff.mp hstep
    rfl
  | reply id requestId response =>
    obtain ⟨-, heq⟩ := Option.ite_none_right_eq_some.mp hstep
    cases heq
    unfold takePending
    split <;> rfl
  | reap => exact absurd rfl hreap

/-- One step of the reaper: what it takes up is overdue, what it passes over is not. -/
theorem ForwardState.Sound.covers_reap (h : state.Sound)
    (hcovers : state.reaper.Covers state.pending (state.calls.map (·.requestId))) :
    state.reap.reaper.Covers state.reap.pending (state.reap.calls.map (·.requestId)) := by
  unfold reap
  split
  next overdue hreaper =>
    intro requestId hoverdue
    obtain ⟨hkey, hdecided⟩ := List.mem_filter.mp hoverdue
    have hdue : state.pending.OverdueAt state.now requestId := of_decide_eq_true hdecided
    have ⟨request, hfound, _⟩ := hdue
    obtain ⟨call, hcall, hid, -⟩ := h.ofCall requestId request hfound
    exact ⟨List.mem_map.mpr ⟨call, hcall, hid⟩, .inr (.inr ⟨hkey, hdue⟩)⟩
  next overdue now first unseen expiredIds hreaper =>
    rw [hreaper] at hcovers
    split_ifs with hdue
    · intro requestId hoverdue
      obtain ⟨hmem, hgone | hexpired | ⟨hunseen, hstill⟩⟩ := hcovers requestId hoverdue
      · exact ⟨hmem, .inl hgone⟩
      · exact ⟨hmem, .inr (.inl (List.mem_append_left _ hexpired))⟩
      · rcases List.mem_cons.mp hunseen with rfl | hunseen
        · exact ⟨hmem, .inr (.inl (List.mem_concat_self))⟩
        · exact ⟨hmem, .inr (.inr ⟨hunseen, hstill⟩)⟩
    · intro requestId hoverdue
      obtain ⟨hmem, hgone | hexpired | ⟨hunseen, hstill⟩⟩ := hcovers requestId hoverdue
      · exact ⟨hmem, .inl hgone⟩
      · exact ⟨hmem, .inr (.inl hexpired)⟩
      · rcases List.mem_cons.mp hunseen with rfl | hunseen
        · exact absurd hstill hdue
        · exact ⟨hmem, .inr (.inr ⟨hunseen, hstill⟩)⟩
  next overdue now expiredIds hreaper =>
    rw [hreaper] at hcovers
    intro requestId hoverdue
    obtain ⟨hmem, hgone | hexpired | ⟨hunseen, -⟩⟩ := hcovers requestId hoverdue
    · exact ⟨hmem, .inl hgone⟩
    · exact ⟨hmem, .inr hexpired⟩
    · cases hunseen
  next overdue first expiredIds hreaper =>
    rw [hreaper] at hcovers
    intro requestId hoverdue
    obtain ⟨hmem, hcovered⟩ := hcovers requestId hoverdue
    cases hfound : state.pending.lookup first with
    | none =>
      rw [takePending_of_none hfound]
      refine ⟨hmem, hcovered.elim .inl fun hexpired ↦ ?_⟩
      rcases List.mem_cons.mp hexpired with rfl | hexpired
      · exact .inl hfound
      · exact .inr hexpired
    | some request =>
      rw [takePending_of_some hfound]
      refine ⟨hmem, ?_⟩
      by_cases hid : requestId = first
      · exact .inl (by rw [hid, AList.lookup_erase])
      · rw [AList.lookup_erase_ne hid]
        exact hcovered.imp_right fun hexpired ↦ (List.mem_cons.mp hexpired).resolve_left hid
  next overdue hreaper =>
    rw [hreaper] at hcovers
    intro requestId hoverdue
    obtain ⟨hmem, hgone | hexpired⟩ := hcovers requestId hoverdue
    · exact ⟨hmem, hgone⟩
    · cases hexpired

theorem ForwardState.Sound.covers_step (h : state.Sound)
    (hcovers : state.reaper.Covers state.pending (state.calls.map (·.requestId)))
    (hstep : state.step label = some next) :
    next.reaper.Covers next.pending (next.calls.map (·.requestId)) := by
  by_cases hreap : label = .reap
  · subst hreap
    cases hstep
    exact h.covers_reap hcovers
  · have hchange := change_of_step hstep
    rw [reaper_of_step hstep hreap]
    exact hcovers.mono hchange.known_subset fun _ hknown ↦ hchange.lookup_known hknown

/-- A reply that names a pending request comes from a connection registered as the plugin the request
was forwarded to. -/
def ForwardState.Rightful (state : ForwardState) : ForwardLabel → Prop
  | .reply id requestId _ => (state.pending.lookup requestId).isSome → ∀ call ∈ state.calls,
      call.requestId = requestId → (state.gateway.sockets id).pluginId = some call.pluginId
  | _ => True

instance (state : ForwardState) (label : ForwardLabel) : Decidable (state.Rightful label) := by
  cases label <;> unfold ForwardState.Rightful <;> infer_instance

/-- The answer is that of the reaper, or of a connection of the plugin the request was forwarded to. -/
def Answer.IsFor (answer : Answer) (call : ForwardedCall) : Prop :=
  call.requestId = answer.requestId ∧ call.replySubject = answer.replySubject ∧
    ((answer.source = .reaper ∧ answer.body = timeoutResponse call.isHealthCheck) ∨
      ∃ id, answer.source = .reply id (some call.pluginId))

/-- Requests are answered at most once, by the right plugin or the reaper, and after a run of the
reaper those that were overdue when it began. -/
structure ForwardState.Answering (state : ForwardState) : Prop where
  once : (state.answers.map (·.requestId)).Nodup
  rightful : ∀ answer ∈ state.answers, ∃ call ∈ state.calls, answer.IsFor call
  reaped : ∀ overdue, state.reaper = .idle overdue → ∀ requestId ∈ overdue,
    state.pending.lookup requestId = none ∧ ∃ answer ∈ state.answers, answer.requestId = requestId

theorem ForwardState.Sound.rightful_step (h : state.Sound)
    (hbefore : ∀ answer ∈ state.answers, ∃ call ∈ state.calls, answer.IsFor call)
    (hguard : state.Rightful label) (hstep : state.step label = some next) :
    ∀ answer ∈ next.answers, ∃ call ∈ next.calls, answer.IsFor call := by
  cases change_of_step hstep with
  | same _ hcalls hanswers =>
    rw [hcalls, hanswers]
    exact hbefore
  | added call deadline hfresh hpending hcalls hanswers =>
    rw [hcalls, hanswers]
    intro answer hanswer
    obtain ⟨other, hother, hfor⟩ := hbefore answer hanswer
    exact ⟨other, List.mem_append_left _ hother, hfor⟩
  | taken requestId request source body hfound hpending hcalls hanswers hsource =>
    rw [hcalls, hanswers]
    intro answer hanswer
    obtain hanswer | rfl := mem_of_concat hanswer
    · exact hbefore answer hanswer
    · obtain ⟨call, hcall, hid, hreply, hkind⟩ := h.ofCall requestId request hfound
      refine ⟨call, hcall, hid, hreply, ?_⟩
      obtain ⟨rfl, rfl⟩ | ⟨id, response, rfl, rfl⟩ := hsource
      · exact .inl ⟨rfl, by rw [hkind]⟩
      · have hplugin := hguard (by rw [hfound]; rfl) call hcall hid
        exact .inr ⟨id, by rw [hplugin]⟩

theorem answering_of_rightful
    (hreach : Steps.Reach ForwardState.step ForwardState.Rightful .init state) :
    state.Answering := by
  have hinv : state.Sound ∧
      state.reaper.Covers state.pending (state.calls.map (·.requestId)) ∧
      ∀ answer ∈ state.answers, ∃ call ∈ state.calls, answer.IsFor call := by
    induction hreach with
    | init =>
      refine ⟨ForwardState.sound_init, ?_, ?_⟩
      all_goals exact fun _ hmem ↦ absurd hmem List.not_mem_nil
    | next _ hguard hstep ih =>
      obtain ⟨hsound, hcovers, hrightful⟩ := ih
      exact ⟨hsound.step hstep, hsound.covers_step hcovers hstep,
        hsound.rightful_step hrightful hguard hstep⟩
  obtain ⟨hsound, hcovers, hrightful⟩ := hinv
  refine ⟨hsound.answersNodup, hrightful, fun overdue hidle requestId hoverdue ↦ ?_⟩
  rw [hidle] at hcovers
  obtain ⟨hknown, hgone⟩ := hcovers requestId hoverdue
  obtain ⟨call, hcall, rfl⟩ := List.mem_map.mp hknown
  refine ⟨hgone, (hsound.settled call hcall).resolve_left ?_⟩
  rw [hgone]
  exact Bool.false_ne_true

end

/-- A plugin on socket 0 registers and is called, over a second socket of another plugin. -/
def calledPlugin : List ForwardLabel :=
  [.gateway (.accept 0), .gateway (.register 0 "notes"), .gateway (.insertConnection 0),
    .gateway (.publishRegister 0 (.ok ())), .gateway (.spawnListener 0),
    .gateway (.addSubscription 0), .gateway (.spawnListener 0), .gateway (.addSubscription 0),
    .gateway (.finishListening 0), .gateway (.accept 1),
    .receive 0 (some "_reply.1") (some .null) "r", .send 0]

theorem answering_of_rightful_reaped :
    ∃ state ∈ Steps.execute ForwardState.step .init
        (calledPlugin ++ [.reply 0 "r" (.capabilityResponse .null),
          .receive 1 (some "_reply.2") none "s", .tick 6000, .reap, .reap, .reap, .reap, .reap]),
      state.answers.map (·.source) = [.reply 0 (some "notes"), .reaper] ∧ state.Answering := by
  have hrun : ∃ state ∈ Steps.execute ForwardState.step .init
        (calledPlugin ++ [.reply 0 "r" (.capabilityResponse .null),
          .receive 1 (some "_reply.2") none "s", .tick 6000, .reap, .reap, .reap, .reap, .reap]),
      state.answers.map (·.source) = [.reply 0 (some "notes"), .reaper] := by
    decide +kernel
  obtain ⟨state, hstate, hsources⟩ := hrun
  exact ⟨state, hstate, hsources, answering_of_rightful
    (Steps.reach_of_execute (by decide +kernel) hstate)⟩

/-- A connection that is not even registered answers the call of another one's plugin. -/
theorem answered_by_stranger :
    ∃ state, Steps.Reach ForwardState.step (fun _ _ ↦ True) .init state ∧ ¬state.Answering := by
  have hrun : ∃ state ∈ Steps.execute ForwardState.step .init
      (calledPlugin ++ [.reply 1 "r" (.capabilityResponse .null)]),
      state.answers.map (·.source) = [.reply 1 none] := by
    decide +kernel
  obtain ⟨state, hstate, hsource⟩ := hrun
  refine ⟨state,
    Steps.reach_of_execute (Steps.guarded_of_forall (fun _ _ ↦ trivial) _ _) hstate, ?_⟩
  intro hanswering
  obtain ⟨answer, hanswers, hanswer⟩ := List.map_eq_singleton_iff.mp hsource
  obtain ⟨call, -, -, -, hfrom⟩ := hanswering.rightful answer (by rw [hanswers]; simp)
  rw [hanswer] at hfrom
  simp at hfrom

/-- Whatever comes in, a forwarded request is pending or answered, never twice and always on its own reply
subject; when a run of the reaper is over, what was overdue when it began is answered. -/
theorem pending_xor_answered {guard : ForwardState → ForwardLabel → Prop} {state : ForwardState}
    (hreach : Steps.Reach ForwardState.step guard .init state) :
    (state.answers.map (·.requestId)).Nodup ∧
      (∀ answer ∈ state.answers, ∃ call ∈ state.calls, call.requestId = answer.requestId ∧
        call.replySubject = answer.replySubject) ∧
      (∀ call ∈ state.calls, (state.pending.lookup call.requestId).isSome ↔
        call.requestId ∉ state.answers.map (·.requestId)) ∧
      ∀ overdue, state.reaper = .idle overdue → overdue ⊆ state.answers.map (·.requestId) := by
  obtain ⟨hsound, hcovers⟩ : state.Sound ∧
      state.reaper.Covers state.pending (state.calls.map (·.requestId)) := by
    induction hreach with
    | init => exact ⟨ForwardState.sound_init, nofun⟩
    | next _ _ hstep ih => exact ⟨ih.1.step hstep, ih.1.covers_step ih.2 hstep⟩
  have hanswered (call : ForwardedCall) (hcall : call ∈ state.calls) :
      (state.pending.lookup call.requestId).isSome ↔
        call.requestId ∉ state.answers.map (·.requestId) := by
    constructor
    · intro hpending hanswer
      obtain ⟨answer, hanswer, hid⟩ := List.mem_map.mp hanswer
      rw [← hid, (hsound.answerOfCall answer hanswer).1] at hpending
      cases hpending
    · intro hnot
      refine (hsound.settled call hcall).resolve_right ?_
      rintro ⟨answer, hanswer, hid⟩
      exact hnot (hid ▸ List.mem_map_of_mem hanswer)
  refine ⟨hsound.answersNodup, fun answer hanswer ↦ ?_, hanswered, fun overdue hidle id hoverdue ↦ ?_⟩
  · obtain ⟨-, call, hcall, hid, hreply, -⟩ := hsound.answerOfCall answer hanswer
    exact ⟨call, hcall, hid, hreply⟩
  · rw [hidle] at hcovers
    obtain ⟨hknown, hgone⟩ := hcovers id hoverdue
    obtain ⟨call, hcall, rfl⟩ := List.mem_map.mp hknown
    by_contra hnot
    have hpending := (hanswered call hcall).mpr hnot
    rw [hgone] at hpending
    cases hpending

/-- A stranger has answered the call. -/
theorem pending_xor_answered_stranger :
    ∃ state : ForwardState, (state.answers.map (·.requestId)).Nodup ∧
      state.answers.map (·.source) = [.reply 1 none] := by
  obtain ⟨state, hstate, hsource⟩ : ∃ state ∈ Steps.execute ForwardState.step .init
      (calledPlugin ++ [.reply 1 "r" (.capabilityResponse .null)]),
      state.answers.map (·.source) = [.reply 1 none] := by
    decide +kernel
  exact ⟨state, (pending_xor_answered (Steps.reach_of_execute
    (Steps.guarded_of_forall (fun _ _ ↦ trivial) _ _) hstate)).1, hsource⟩

end Seidrum.Gateway
