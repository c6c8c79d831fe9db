import Mathlib.Data.Nat.SuccPred
import Seidrum.Agent.Session
import Seidrum.Agent.TurnStore
import Seidrum.Foundation.Transition

/-!
# Outbound deliveries

A delivery waits in the store until it is sent, given up or cancelled.  None of the calls that move it
looks at the state it is in, so what keeps a finished delivery finished is the order of the calls: a
delivery stays finished, is handed to the transport no more and keeps within its attempts exactly
when no call is made that its state rules out.
-/

namespace Seidrum.Agent

open Seidrum.Foundation

inductive OutboundDeliveryStatus
  | queued
  | sent
  | failed
  | retryScheduled
  | cancelled
  deriving DecidableEq, Repr

/-- Sent, failed and cancelled deliveries are done with. -/
def OutboundDeliveryStatus.isFinal : OutboundDeliveryStatus → Bool
  | sent | failed | cancelled => true
  | queued | retryScheduled => false

structure OutboundDeliveryRecord where
  deliveryId : String
  sessionId : String
  channelOrigin : Option ChannelContinuationIdentity
  payloadText : String
  status : OutboundDeliveryStatus
  attemptCount : ℕ
  maxAttempts : ℕ
  retryAfter : Option String
  lastError : Option String
  linkedRuntimeEventId : Option String
  providerMessageId : Option String
  deriving DecidableEq, Repr

namespace OutboundDeliveryRecord

def queued (deliveryId sessionId : String) (channelOrigin : Option ChannelContinuationIdentity)
    (payloadText : String) (linkedRuntimeEventId : Option String) : OutboundDeliveryRecord where
  deliveryId := deliveryId
  sessionId := sessionId
  channelOrigin := channelOrigin
  payloadText := payloadText
  status := .queued
  attemptCount := 0
  maxAttempts := 3
  retryAfter := none
  lastError := none
  linkedRuntimeEventId := linkedRuntimeEventId
  providerMessageId := none

def withMaxAttempts (maxAttempts : ℕ) (delivery : OutboundDeliveryRecord) :
    OutboundDeliveryRecord :=
  { delivery with maxAttempts := maxAttempts }

def markSent (providerMessageId : Option String) (delivery : OutboundDeliveryRecord) :
    OutboundDeliveryRecord :=
  { delivery with
    status := .sent
    attemptCount := delivery.attemptCount + 1
    retryAfter := none
    lastError := none
    providerMessageId := providerMessageId }

def markCancelled (reason : String) (delivery : OutboundDeliveryRecord) : OutboundDeliveryRecord :=
  { delivery with
    status := .cancelled
    retryAfter := none
    lastError := some reason }

end OutboundDeliveryRecord

structure OutboundRetryPolicy where
  maxAttempts : ℕ
  backoffSchedule : List String
  deriving DecidableEq, Repr

namespace OutboundRetryPolicy

/-- The attempts a delivery has under a policy. -/
def maximum (policy : OutboundRetryPolicy) (delivery : OutboundDeliveryRecord) : ℕ :=
  min delivery.maxAttempts policy.maxAttempts

def recordFailure (policy : OutboundRetryPolicy) (error : String)
    (delivery : OutboundDeliveryRecord) : OutboundDeliveryRecord :=
  let delivery := { delivery with
    attemptCount := delivery.attemptCount + 1
    lastError := some error }
  if delivery.attemptCount ≥ policy.maximum delivery then
    { delivery with status := .failed, retryAfter := none }
  else
    let backoffIndex := delivery.attemptCount - 1
    { delivery with
      status := .retryScheduled
      retryAfter := (policy.backoffSchedule[backoffIndex]?).or policy.backoffSchedule.getLast? }

end OutboundRetryPolicy

structure FakeOutboundDeliverySink where
  result : Except String String
  deriving DecidableEq, Repr

def FakeOutboundDeliverySink.deliver (sink : FakeOutboundDeliverySink)
    (_delivery : OutboundDeliveryRecord) : Except String String := sink.result

/-- The table of deliveries, and the ids of the deliveries handed to the transport so far. -/
structure Outbound (Bytes : Type) where
  outboundDeliveries : Table String Bytes
  delivered : List String

/-- A call on one delivery.  The marks and the failure report are made by a holder of the record, who
stores it again; a dispatch may find the store failing after the transport was called. -/
inductive OutboundCall
  | dispatchOne (sink : FakeOutboundDeliverySink) (putError : Option RuntimeError)
  | markSent (providerMessageId : Option String)
  | markCancelled (reason : String)
  | recordFailure (error : String)
  deriving Repr

namespace Outbound

variable {Bytes : Type} (codec : Codec OutboundDeliveryRecord Bytes)

def putOutboundDelivery (record : OutboundDeliveryRecord) (state : Outbound Bytes) :
    Outbound Bytes :=
  { state with
    outboundDeliveries := state.outboundDeliveries.insert record.deliveryId (codec.toVec record) }

def outboundDelivery (deliveryId : String) (state : Outbound Bytes) :
    Except RuntimeError (Option OutboundDeliveryRecord) :=
  match state.outboundDeliveries.get deliveryId with
  | none => .ok none
  | some data =>
      match codec.fromSlice data with
      | .ok record => .ok (some record)
      | .error error => .error (.store ("failed to deserialize outbound delivery: " ++ error))

variable (policy : OutboundRetryPolicy)

def dispatchOne (sink : FakeOutboundDeliverySink) (putError : Option RuntimeError)
    (deliveryId : String) (state : Outbound Bytes) :
    Except RuntimeError OutboundDeliveryRecord × Outbound Bytes :=
  match state.outboundDelivery codec deliveryId with
  | .error error => (.error error, state)
  | .ok none => (.error (.store ("delivery `" ++ deliveryId ++ "` is not defined")), state)
  | .ok (some delivery) =>
      let updated := match sink.deliver delivery with
        | .ok providerMessageId => delivery.markSent (some providerMessageId)
        | .error error => policy.recordFailure error delivery
      let state := { state with delivered := state.delivered ++ [deliveryId] }
      match putError with
      | some error => (.error error, state)
      | none => (.ok updated, state.putOutboundDelivery codec updated)

/-- A holder loads a record, changes it and stores it again. -/
def update (change : OutboundDeliveryRecord → OutboundDeliveryRecord) (deliveryId : String)
    (state : Outbound Bytes) : Except RuntimeError OutboundDeliveryRecord × Outbound Bytes :=
  match state.outboundDelivery codec deliveryId with
  | .error error => (.error error, state)
  | .ok none => (.error (.store ("delivery `" ++ deliveryId ++ "` is not defined")), state)
  | .ok (some delivery) => (.ok (change delivery), state.putOutboundDelivery codec (change delivery))

/-- Calls on any deliveries, one after the other. -/
def call : Machine (Outbound Bytes) (String × OutboundCall)
    (Except RuntimeError OutboundDeliveryRecord)
  | state, (deliveryId, .dispatchOne sink putError) =>
      state.dispatchOne codec policy sink putError deliveryId
  | state, (deliveryId, .markSent providerMessageId) =>
      state.update codec (·.markSent providerMessageId) deliveryId
  | state, (deliveryId, .markCancelled reason) =>
      state.update codec (·.markCancelled reason) deliveryId
  | state, (deliveryId, .recordFailure error) =>
      state.update codec (policy.recordFailure error) deliveryId

/-- The delivery that is stored under an id. -/
def found (state : Outbound Bytes) (deliveryId : String) : Option OutboundDeliveryRecord :=
  (state.outboundDelivery codec deliveryId).toOption.join

/-- A delivery as it is enqueued. -/
structure NewDelivery where
  deliveryId : String
  sessionId : String
  channelOrigin : Option ChannelContinuationIdentity
  payloadText : String
  linkedRuntimeEventId : Option String
  maxAttempts : ℕ
  deriving DecidableEq, Repr

def NewDelivery.record (new : NewDelivery) : OutboundDeliveryRecord :=
  (OutboundDeliveryRecord.queued new.deliveryId new.sessionId new.channelOrigin new.payloadText
    new.linkedRuntimeEventId).withMaxAttempts new.maxAttempts

/-- A store with nothing but enqueued deliveries. -/
def enqueued (deliveries : List NewDelivery) : Outbound Bytes :=
  deliveries.foldl (fun state new ↦ state.putOutboundDelivery codec new.record) ⟨Table.empty, []⟩

end Outbound

/-- The record a call leaves of the record it found. -/
def OutboundCall.next (policy : OutboundRetryPolicy) (delivery : OutboundDeliveryRecord) :
    OutboundCall → OutboundDeliveryRecord
  | .dispatchOne _ (some _) => delivery
  | .dispatchOne ⟨.ok providerMessageId⟩ none => delivery.markSent (some providerMessageId)
  | .dispatchOne ⟨.error error⟩ none => policy.recordFailure error delivery
  | .markSent providerMessageId => delivery.markSent providerMessageId
  | .markCancelled reason => delivery.markCancelled reason
  | .recordFailure error => policy.recordFailure error delivery

/-- The calls that hand a delivery to the transport. -/
def OutboundCall.sends : OutboundCall → Bool
  | .dispatchOne _ _ => true
  | _ => false

/-- The calls a delivery's state allows: a finished delivery may only be marked again as what it is,
and an attempt may only be counted while there are attempts left. -/
def OutboundCall.Permitted (policy : OutboundRetryPolicy) (delivery : OutboundDeliveryRecord) :
    OutboundCall → Prop
  | .dispatchOne _ putError => delivery.status.isFinal = false ∧
      (putError = none → delivery.attemptCount < policy.maximum delivery)
  | .markSent _ => (delivery.status.isFinal = false ∨ delivery.status = .sent) ∧
      delivery.attemptCount < policy.maximum delivery
  | .markCancelled _ => delivery.status.isFinal = false ∨ delivery.status = .cancelled
  | .recordFailure _ => delivery.status.isFinal = false ∧
      delivery.attemptCount < policy.maximum delivery

namespace Outbound

variable {Bytes : Type} {codec : Codec OutboundDeliveryRecord Bytes} {policy : OutboundRetryPolicy}
variable {state : Outbound Bytes} {deliveryId : String} {delivery : OutboundDeliveryRecord}

theorem found_put (record : OutboundDeliveryRecord) (state : Outbound Bytes) (other : String) :
    (state.putOutboundDelivery codec record).found codec other =
      if other = record.deliveryId then some record else state.found codec other := by
  unfold found outboundDelivery putOutboundDelivery
  rw [Table.get_insert]
  split_ifs
  · simp [Except.toOption]
  · rfl

theorem outboundDelivery_of_found (h : state.found codec deliveryId = some delivery) :
    state.outboundDelivery codec deliveryId = .ok (some delivery) := by
  unfold found at h
  cases hloaded : state.outboundDelivery codec deliveryId with
  | error error => simp [hloaded, Except.toOption] at h
  | ok loaded =>
    rw [hloaded] at h
    exact congrArg Except.ok (by simpa [Except.toOption] using h)

/-- Every record stands under its own id. -/
def Keyed (codec : Codec OutboundDeliveryRecord Bytes) (state : Outbound Bytes) : Prop :=
  ∀ deliveryId delivery, state.found codec deliveryId = some delivery →
    delivery.deliveryId = deliveryId

theorem deliveryId_recordFailure (error : String) :
    (policy.recordFailure error delivery).deliveryId = delivery.deliveryId := by
  unfold OutboundRetryPolicy.recordFailure
  dsimp only
  split_ifs <;> rfl

/-- A call changes the delivery it found and no other. -/
theorem found_call (hkeyed : state.Keyed codec) (hfound : state.found codec deliveryId = some delivery)
    (call : OutboundCall) (other : String) :
    (Outbound.call codec policy state (deliveryId, call)).2.found codec other =
      if other = deliveryId then some (call.next policy delivery) else state.found codec other := by
  have hid := hkeyed deliveryId delivery hfound
  have hloaded := outboundDelivery_of_found hfound
  have hsame : state.found codec other =
      if other = deliveryId then some delivery else state.found codec other := by
    split_ifs with hother
    · rw [hother, hfound]
    · rfl
  have hput : ∀ (state' : Outbound Bytes) (record : OutboundDeliveryRecord),
      state'.outboundDeliveries = state.outboundDeliveries → record.deliveryId = deliveryId →
      (state'.putOutboundDelivery codec record).found codec other =
        if other = deliveryId then some record else state.found codec other := by
    intro state' record htable hrecord
    rw [found_put, hrecord]
    unfold found outboundDelivery
    rw [htable]
  cases call with
  | dispatchOne sink putError =>
    obtain ⟨result⟩ := sink
    rw [Outbound.call, dispatchOne, hloaded]
    cases putError with
    | some error => exact hsame
    | none =>
      cases result with
      | ok providerMessageId => exact hput _ _ rfl hid
      | error error => exact hput _ _ rfl ((deliveryId_recordFailure error).trans hid)
  | markSent providerMessageId | markCancelled reason =>
    rw [Outbound.call, update, hloaded]
    exact hput state _ rfl hid
  | recordFailure error =>
    rw [Outbound.call, update, hloaded]
    exact hput state _ rfl ((deliveryId_recordFailure error).trans hid)

/-- A dispatch of a stored delivery calls the transport once, no other call does. -/
theorem delivered_call (hfound : state.found codec deliveryId = some delivery)
    (call : OutboundCall) :
    (Outbound.call codec policy state (deliveryId, call)).2.delivered =
      state.delivered ++ if call.sends then [deliveryId] else [] := by
  have hloaded := outboundDelivery_of_found hfound
  cases call with
  | dispatchOne sink putError =>
    rw [Outbound.call, dispatchOne, hloaded]
    cases putError <;> rfl
  | markSent providerMessageId | markCancelled reason | recordFailure error =>
    rw [Outbound.call, update, hloaded]
    exact (List.append_nil _).symm

theorem call_of_not_found (hfound : state.found codec deliveryId = none) (call : OutboundCall) :
    (Outbound.call codec policy state (deliveryId, call)).2 = state := by
  unfold found at hfound
  cases hloaded : state.outboundDelivery codec deliveryId with
  | error error => cases call <;> simp only [Outbound.call, dispatchOne, update, hloaded]
  | ok loaded =>
    cases loaded with
    | none => cases call <;> simp only [Outbound.call, dispatchOne, update, hloaded]
    | some delivery => simp [hloaded, Except.toOption] at hfound

/-! ## What a call may do -/

/-- The stored deliveries are within their attempts, and one that failed has used them up. -/
structure Sound (codec : Codec OutboundDeliveryRecord Bytes) (policy : OutboundRetryPolicy)
    (state : Outbound Bytes) : Prop where
  keyed : state.Keyed codec
  within : ∀ deliveryId delivery, state.found codec deliveryId = some delivery →
    delivery.attemptCount ≤ policy.maximum delivery
  failed : ∀ deliveryId delivery, state.found codec deliveryId = some delivery →
    delivery.status = .failed → policy.maximum delivery ≤ delivery.attemptCount

/-- Between two states every delivery stays within its attempts, and one that was finished is still
what it was and was not handed to the transport. -/
def Keeps (codec : Codec OutboundDeliveryRecord Bytes) (policy : OutboundRetryPolicy)
    (state later : Outbound Bytes) : Prop :=
  ∀ deliveryId delivery, state.found codec deliveryId = some delivery →
    ∃ delivery', later.found codec deliveryId = some delivery' ∧
      delivery'.attemptCount ≤ policy.maximum delivery' ∧
      (delivery.status.isFinal = true → delivery'.status = delivery.status ∧
        later.delivered.count deliveryId = state.delivered.count deliveryId)

/-- A call its delivery's state allows. -/
def Permitted (codec : Codec OutboundDeliveryRecord Bytes) (policy : OutboundRetryPolicy)
    (state : Outbound Bytes) (input : String × OutboundCall) : Prop :=
  ∀ delivery, state.found codec input.1 = some delivery → input.2.Permitted policy delivery

theorem deliveryId_next (call : OutboundCall) :
    (call.next policy delivery).deliveryId = delivery.deliveryId := by
  cases call with
  | dispatchOne sink putError =>
    obtain ⟨result⟩ := sink
    cases putError with
    | some error => rfl
    | none =>
      cases result with
      | ok providerMessageId => rfl
      | error error => exact deliveryId_recordFailure error
  | markSent providerMessageId | markCancelled reason => rfl
  | recordFailure error => exact deliveryId_recordFailure error

theorem maximum_next (call : OutboundCall) :
    policy.maximum (call.next policy delivery) = policy.maximum delivery := by
  have hfailure : ∀ error, policy.maximum (policy.recordFailure error delivery) =
      policy.maximum delivery := by
    intro error
    unfold OutboundRetryPolicy.recordFailure
    dsimp only
    split_ifs <;> rfl
  cases call with
  | dispatchOne sink putError =>
    obtain ⟨result⟩ := sink
    cases putError with
    | some error => rfl
    | none =>
      cases result with
      | ok providerMessageId => rfl
      | error error => exact hfailure error
  | markSent providerMessageId | markCancelled reason => rfl
  | recordFailure error => exact hfailure error

theorem attemptCount_recordFailure (error : String) :
    (policy.recordFailure error delivery).attemptCount = delivery.attemptCount + 1 := by
  unfold OutboundRetryPolicy.recordFailure
  dsimp only
  split_ifs <;> rfl

theorem status_recordFailure (error : String) :
    (policy.recordFailure error delivery).status =
      if policy.maximum delivery ≤ delivery.attemptCount + 1 then .failed else .retryScheduled := by
  unfold OutboundRetryPolicy.recordFailure
  dsimp only
  split_ifs with hlast hmax hmax
  · rfl
  · exact absurd hlast hmax
  · exact absurd hmax hlast
  · rfl

/-- What a call does to a delivery is in order exactly when the delivery's state allows the call. -/
theorem next_keeps_iff (call : OutboundCall)
    (hwithin : delivery.attemptCount ≤ policy.maximum delivery)
    (hfailed : delivery.status = .failed → policy.maximum delivery ≤ delivery.attemptCount) :
    (((call.next policy delivery).attemptCount ≤ policy.maximum delivery) ∧
      (delivery.status.isFinal = true →
        (call.next policy delivery).status = delivery.status ∧ call.sends = false)) ↔
      call.Permitted policy delivery := by
  cases call with
  | dispatchOne sink putError =>
    obtain ⟨result⟩ := sink
    cases putError with
    | some error => simp [OutboundCall.next, OutboundCall.sends, OutboundCall.Permitted, hwithin]
    | none =>
      cases result <;>
        simp [OutboundCall.next, OutboundCall.sends, OutboundCall.Permitted,
          OutboundDeliveryRecord.markSent, attemptCount_recordFailure, and_comm]
  | markSent providerMessageId =>
    cases hstatus : delivery.status <;>
      simp [OutboundCall.next, OutboundCall.sends, OutboundCall.Permitted, hstatus,
        OutboundDeliveryStatus.isFinal, OutboundDeliveryRecord.markSent]
  | markCancelled reason =>
    cases hstatus : delivery.status <;>
      simp [OutboundCall.next, OutboundCall.sends, OutboundCall.Permitted, hstatus,
        OutboundDeliveryStatus.isFinal, OutboundDeliveryRecord.markCancelled, hwithin]
  | recordFailure error =>
    -- a delivery that failed has no attempt left to count
    cases hstatus : delivery.status <;>
      simp [OutboundCall.next, OutboundCall.sends, OutboundCall.Permitted, hstatus,
        OutboundDeliveryStatus.isFinal, attemptCount_recordFailure, status_recordFailure]
    case failed => exact fun hlt ↦ absurd (hfailed hstatus) (Nat.not_le.mpr hlt)
    case sent => intro _; split_ifs <;> simp
    case cancelled => intro _; split_ifs <;> simp

/-- A delivery that a call leaves failed has used up its attempts. -/
theorem failed_next (call : OutboundCall)
    (hfailed : delivery.status = .failed → policy.maximum delivery ≤ delivery.attemptCount)
    (hnext : (call.next policy delivery).status = .failed) :
    policy.maximum delivery ≤ (call.next policy delivery).attemptCount := by
  have hfailure : ∀ error, (policy.recordFailure error delivery).status = .failed →
      policy.maximum delivery ≤ (policy.recordFailure error delivery).attemptCount := by
    intro error hstatus
    rw [status_recordFailure] at hstatus
    rw [attemptCount_recordFailure]
    split_ifs at hstatus with hmax
    exact hmax
  cases call with
  | dispatchOne sink putError =>
    obtain ⟨result⟩ := sink
    cases putError with
    | some error => exact hfailed hnext
    | none =>
      cases result with
      | ok providerMessageId => cases hnext
      | error error => exact hfailure error hnext
  | markSent providerMessageId | markCancelled reason => cases hnext
  | recordFailure error => exact hfailure error hnext

theorem Sound.keeps_refl (h : state.Sound codec policy) : state.Keeps codec policy state :=
  fun deliveryId delivery hfound ↦
    ⟨delivery, hfound, h.within deliveryId delivery hfound, fun _ ↦ ⟨rfl, rfl⟩⟩

theorem Keeps.trans {middle later : Outbound Bytes} (hfirst : state.Keeps codec policy middle)
    (hsecond : middle.Keeps codec policy later) : state.Keeps codec policy later := by
  intro deliveryId delivery hfound
  obtain ⟨delivery', hfound', -, hfinal'⟩ := hfirst deliveryId delivery hfound
  obtain ⟨delivery'', hfound'', hwithin, hfinal''⟩ := hsecond deliveryId delivery' hfound'
  refine ⟨delivery'', hfound'', hwithin, fun hfinal ↦ ?_⟩
  obtain ⟨hstatus', hcount'⟩ := hfinal' hfinal
  obtain ⟨hstatus'', hcount''⟩ := hfinal'' (hstatus' ▸ hfinal)
  exact ⟨hstatus''.trans hstatus', hcount''.trans hcount'⟩

/-- One call keeps what it should exactly when it is permitted. -/
theorem keeps_call_iff (h : state.Sound codec policy) (input : String × OutboundCall) :
    state.Keeps codec policy (Outbound.call codec policy state input).2 ↔
      state.Permitted codec policy input := by
  obtain ⟨deliveryId, call⟩ := input
  cases hfound : state.found codec deliveryId with
  | none =>
    rw [call_of_not_found hfound]
    exact iff_of_true h.keeps_refl fun delivery hother ↦
      absurd (hfound.symm.trans hother) (Option.some_ne_none delivery).symm
  | some delivery =>
    have hiff := next_keeps_iff call (h.within _ _ hfound) (h.failed _ _ hfound)
    have hdelivered : ∀ other, (Outbound.call codec policy state (deliveryId, call)).2.delivered.count
        other = state.delivered.count other +
          if call.sends = true ∧ deliveryId = other then 1 else 0 := by
      intro other
      rw [delivered_call hfound, List.count_append]
      cases call.sends <;> simp [List.count_singleton]
    constructor
    · intro hkeeps delivery' hfound'
      obtain rfl := Option.some.inj (hfound.symm.trans hfound')
      obtain ⟨next, hnext, hwithin, hfinal⟩ := hkeeps deliveryId delivery hfound
      rw [found_call h.keyed hfound, if_pos rfl] at hnext
      cases hnext
      rw [maximum_next] at hwithin
      refine hiff.mp ⟨hwithin, fun hdone ↦ ⟨(hfinal hdone).1, ?_⟩⟩
      have hcount := (hfinal hdone).2
      rw [hdelivered] at hcount
      simpa using hcount
    · intro hpermitted other delivery' hfound'
      rw [found_call h.keyed hfound, hdelivered]
      obtain ⟨hwithin, hfinal⟩ := hiff.mpr (hpermitted delivery hfound)
      by_cases hother : other = deliveryId
      · subst hother
        obtain rfl := Option.some.inj (hfound.symm.trans hfound')
        refine ⟨_, if_pos rfl, (maximum_next call).symm ▸ hwithin, fun hdone ↦ ?_⟩
        obtain ⟨hstatus, hsends⟩ := hfinal hdone
        exact ⟨hstatus, by simp [hsends]⟩
      · refine ⟨delivery', (if_neg hother).trans hfound', h.within _ _ hfound', fun _ ↦ ⟨rfl, ?_⟩⟩
        simp [Ne.symm hother]

/-- A state in which one delivery was put, and the others are as before. -/
theorem Sound.of_found (h : state.Sound codec policy) {next : Outbound Bytes}
    (hcases : ∀ other found, next.found codec other = some found →
      (other = deliveryId ∧ found = delivery) ∨ state.found codec other = some found)
    (hkeyed : delivery.deliveryId = deliveryId) (hwithin : delivery.attemptCount ≤ policy.maximum delivery)
    (hfailed : delivery.status = .failed → policy.maximum delivery ≤ delivery.attemptCount) :
    next.Sound codec policy := by
  constructor
  · intro other found hother
    rcases hcases other found hother with ⟨rfl, rfl⟩ | hold
    · exact hkeyed
    · exact h.keyed _ _ hold
  · intro other found hother
    rcases hcases other found hother with ⟨rfl, rfl⟩ | hold
    · exact hwithin
    · exact h.within _ _ hold
  · intro other found hother hstatus
    rcases hcases other found hother with ⟨rfl, rfl⟩ | hold
    · exact hfailed hstatus
    · exact h.failed _ _ hold hstatus

/-- Permitted calls keep the deliveries sound. -/
theorem Sound.call (h : state.Sound codec policy) {input : String × OutboundCall}
    (hpermitted : state.Permitted codec policy input) :
    (Outbound.call codec policy state input).2.Sound codec policy := by
  obtain ⟨deliveryId, call⟩ := input
  cases hfound : state.found codec deliveryId with
  | none =>
    rw [call_of_not_found hfound]
    exact h
  | some delivery =>
    obtain ⟨hwithin, -⟩ := (next_keeps_iff call (h.within _ _ hfound) (h.failed _ _ hfound)).mpr
      (hpermitted delivery hfound)
    have hcases : ∀ other found, (Outbound.call codec policy state (deliveryId, call)).2.found codec
        other = some found → (other = deliveryId ∧ found = call.next policy delivery) ∨
          state.found codec other = some found := by
      intro other found hother
      rw [found_call h.keyed hfound] at hother
      split_ifs at hother with hid
      · exact .inl ⟨hid, (Option.some.inj hother).symm⟩
      · exact .inr hother
    refine h.of_found hcases ?_ ?_ fun hstatus ↦ ?_
    · rw [deliveryId_next]
      exact h.keyed _ _ hfound
    · rwa [maximum_next]
    · rw [maximum_next]
      exact failed_next call (h.failed _ _ hfound) hstatus

/-- The state after some calls on enqueued deliveries. -/
def after (codec : Codec OutboundDeliveryRecord Bytes) (policy : OutboundRetryPolicy)
    (deliveries : List NewDelivery) (calls : List (String × OutboundCall)) : Outbound Bytes :=
  (Outbound.call codec policy).run (enqueued codec deliveries) calls

/-- From every point of a run to every later one, deliveries stay within their attempts and finished
ones stay what they are and are not handed to the transport. -/
def Absorbing (codec : Codec OutboundDeliveryRecord Bytes) (policy : OutboundRetryPolicy)
    (deliveries : List NewDelivery) (calls : List (String × OutboundCall)) : Prop :=
  ∀ before between rest, calls = before ++ between ++ rest →
    (after codec policy deliveries before).Keeps codec policy
      (after codec policy deliveries (before ++ between))

/-- Every call of a run is one its delivery's state allows. -/
def AllPermitted (codec : Codec OutboundDeliveryRecord Bytes) (policy : OutboundRetryPolicy)
    (deliveries : List NewDelivery) : List (String × OutboundCall) → Prop :=
  Throughout fun before input ↦ (after codec policy deliveries before).Permitted codec policy input

theorem sound_enqueued (deliveries : List NewDelivery) :
    (enqueued codec deliveries).Sound codec policy := by
  induction deliveries using List.reverseRecOn with
  | nil =>
    have hempty : ∀ deliveryId, (enqueued codec []).found codec deliveryId = none := fun _ ↦ rfl
    constructor <;> simp [Keyed, hempty]
  | append_singleton deliveries new ih =>
    have hcases : ∀ other found, (enqueued codec (deliveries ++ [new])).found codec other =
        some found → (other = new.deliveryId ∧ found = new.record) ∨
          (enqueued codec deliveries).found codec other = some found := by
      intro other found hother
      rw [enqueued, List.foldl_concat, ← enqueued, found_put] at hother
      split_ifs at hother with hid
      · exact .inl ⟨hid, (Option.some.inj hother).symm⟩
      · exact .inr hother
    refine ih.of_found hcases rfl (Nat.zero_le _) fun hstatus ↦ ?_
    cases hstatus

theorem after_concat (deliveries : List NewDelivery) (calls : List (String × OutboundCall))
    (input : String × OutboundCall) :
    after codec policy deliveries (calls ++ [input]) =
      (Outbound.call codec policy (after codec policy deliveries calls) input).2 :=
  Machine.run_concat _ _ _ _

variable {deliveries : List NewDelivery} {calls : List (String × OutboundCall)}

theorem sound_after (h : AllPermitted codec policy deliveries calls) :
    (after codec policy deliveries calls).Sound codec policy := by
  induction calls using List.reverseRecOn with
  | nil => exact sound_enqueued deliveries
  | append_singleton calls input ih =>
    obtain ⟨hcalls, hinput⟩ := throughout_concat.mp h
    rw [after_concat]
    exact (ih hcalls).call hinput

theorem AllPermitted.left {rest : List (String × OutboundCall)}
    (h : AllPermitted codec policy deliveries (calls ++ rest)) :
    AllPermitted codec policy deliveries calls := by
  intro before input between hsplit
  exact h before input (between ++ rest) (by rw [hsplit, List.append_assoc, List.cons_append])

theorem keeps_after {before between : List (String × OutboundCall)}
    (h : AllPermitted codec policy deliveries (before ++ between)) :
    (after codec policy deliveries before).Keeps codec policy
      (after codec policy deliveries (before ++ between)) := by
  induction between using List.reverseRecOn with
  | nil =>
    rw [List.append_nil] at h ⊢
    exact (sound_after h).keeps_refl
  | append_singleton between input ih =>
    rw [← List.append_assoc] at h ⊢
    obtain ⟨hcalls, hinput⟩ := throughout_concat.mp h
    rw [after_concat]
    exact (ih hcalls).trans ((keeps_call_iff (sound_after hcalls) input).mpr hinput)

/-- Deliveries stay finished, are not sent again and keep within their attempts, all through a run,
exactly when every call is one that its delivery's state allows. -/
theorem absorbing_iff_permitted (codec : Codec OutboundDeliveryRecord Bytes)
    (policy : OutboundRetryPolicy) (deliveries : List NewDelivery)
    (calls : List (String × OutboundCall)) :
    Absorbing codec policy deliveries calls ↔ AllPermitted codec policy deliveries calls := by
  constructor
  · intro habsorbing
    induction calls using List.reverseRecOn with
    | nil => exact throughout_nil
    | append_singleton calls input ih =>
      have hcalls : AllPermitted codec policy deliveries calls := by
        refine ih fun before between rest hsplit ↦ ?_
        exact habsorbing before between (rest ++ [input]) (by rw [hsplit, List.append_assoc])
      refine throughout_concat.mpr ⟨hcalls, ?_⟩
      have hkeeps := habsorbing calls [input] [] (by rw [List.append_nil])
      rw [after_concat] at hkeeps
      exact (keeps_call_iff (sound_after hcalls) input).mp hkeeps
  · intro hpermitted before between rest hsplit
    subst hsplit
    exact keeps_after hpermitted.left

/-- A delivery that was cancelled and then reported as failed is dispatched again and sent. -/
theorem cancelled_delivery_sent :
    let new : NewDelivery := ⟨"d", "s", none, "hello", none, 3⟩
    let calls : List (String × OutboundCall) :=
      [("d", .markCancelled "withdrawn"), ("d", .recordFailure "late report"),
        ("d", .dispatchOne ⟨.ok "m1"⟩ none)]
    ¬ Absorbing Codec.structural ⟨3, []⟩ [new] calls := by
  intro new calls habsorbing
  have hcancelled : (after Codec.structural ⟨3, []⟩ [new] (calls.take 1)).found Codec.structural "d" =
      some { new.record with status := .cancelled, lastError := some "withdrawn" } := by decide +kernel
  have hsent : ((after Codec.structural ⟨3, []⟩ [new] calls).found Codec.structural "d").map
      OutboundDeliveryRecord.status = some .sent := by decide +kernel
  obtain ⟨delivery, hfound, -, hfinal⟩ := habsorbing (calls.take 1) (calls.drop 1) []
    (by rw [List.append_nil, List.take_append_drop]) "d" _ hcancelled
  rw [List.take_append_drop] at hfound
  rw [hfound, Option.map_some, (hfinal rfl).1] at hsent
  cases hsent

end Outbound

end Seidrum.Agent
