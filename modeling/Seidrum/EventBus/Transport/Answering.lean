import Seidrum.EventBus.Transport.WebSocket

/-!
# Which operations are answered

An operation of a client may carry a correlation id.  The answer that handling it ends with echoes
the id; an error that handling it ends with is sent by the connection loop, which no longer has it.
-/

namespace Seidrum.EventBus

open Foundation

namespace Connection

/-- The operation passes its checks, and the bus takes it.  A request is answered in any case. -/
def accepts (base64 : Base64) (bus : BusAnswers) (connection : Connection) :
    ClientOperation → Bool
  | .publish subject payload _ =>
      match validateAndDecodePayload base64 payload with
      | .ok decoded => (bus (.publish subject decoded)).isOk
      | .error _ => false
  | .subscribe pattern priority _ =>
      (connection.checkSubscribe pattern).isOk && (bus (.subscribe pattern priority)).isOk
  | .request _ payload _ _ => (validateAndDecodePayload base64 payload).isOk
  | .registerChannelType channelType _ =>
      (connection.checkChannelType channelType).isOk &&
        (bus (.registerChannelType channelType)).isOk
  | .registerInterceptor pattern priority timeoutMs _ =>
      (connection.checkInterceptor pattern).isOk &&
        (bus (.intercept pattern (clampRemoteInterceptorPriority priority)
          (clampRemoteInterceptorTimeout timeoutMs))).isOk
  | .unsubscribe .. | .deliverResult .. | .interceptResult .. => false

variable {base64 : Base64} {bus : BusAnswers} {connection : Connection}
  {operation : ClientOperation} {frame : Frame} {cid : String}

/-- What an accepted operation is answered. -/
inductive Answer (base64 : Base64) (bus : BusAnswers) : ClientOperation → ServerMessage → Prop
  | published {subject payload : String} {cid : Option String} {seq : ℕ} :
      Answer base64 bus (.publish subject payload cid) (.published seq cid)
  | subscribed {pattern id : String} {priority : ℕ} {cid : Option String}
      (given : bus (.subscribe pattern priority) = .ok id) :
      Answer base64 bus (.subscribe pattern priority cid) (.subscribed id cid)
  | replied {subject payload : String} {timeoutMs : ℕ} {cid : Option String} {reply : Payload} :
      Answer base64 bus (.request subject payload timeoutMs cid)
        (.replyResult (base64.encode reply) cid)
  | unreplied {subject payload message : String} {timeoutMs : ℕ} {cid : Option String} :
      Answer base64 bus (.request subject payload timeoutMs cid) (.error message cid)
  | channelRegistered {channelType : String} {cid : Option String} :
      Answer base64 bus (.registerChannelType channelType cid) (.channelRegistered channelType cid)
  | interceptorRegistered {pattern id : String} {priority : ℕ} {timeoutMs : Option ℕ}
      {cid : Option String} :
      Answer base64 bus (.registerInterceptor pattern priority timeoutMs cid)
        (.interceptorRegistered id cid)

variable {message : ServerMessage} {messages : List ServerMessage}

theorem Answer.correlationId_eq (h : Answer base64 bus operation message) :
    message.correlationId = operation.correlationId := by
  cases h <;> rfl

/-- Errors that echo no correlation id. -/
def Silent (messages : List ServerMessage) : Prop :=
  ∀ message ∈ messages, ∃ text, message = .error text none

theorem Silent.correlationId_eq (h : Silent messages) (hmem : message ∈ messages) :
    message.correlationId = none := by
  obtain ⟨text, rfl⟩ := h message hmem
  rfl

theorem silent_error (text : String) : Silent [.error text none] :=
  fun _ hmem ↦ ⟨text, List.mem_singleton.mp hmem⟩

theorem silent_fail (error : EventBusError) : Silent (connection.fail error).messages :=
  silent_error error.message

theorem silent_of_nil {signal : Option Signal} :
    Silent (Reaction.mk (.ok ()) [] connection signal).messages :=
  fun _ hmem ↦ absurd hmem List.not_mem_nil

/-- An accepted operation is answered by one message; any other by nothing, or by errors that echo
nothing. -/
inductive Outcome (base64 : Base64) (bus : BusAnswers) (connection : Connection)
    (operation : ClientOperation) (messages : List ServerMessage) : Prop
  | answered {message : ServerMessage}
      (accepts : connection.accepts base64 bus operation = true)
      (answer : Answer base64 bus operation message) (messages_eq : messages = [message])
  | refused (accepts : connection.accepts base64 bus operation = false) (silent : Silent messages)

theorem outcome (base64 : Base64) (bus : BusAnswers) (connection : Connection)
    (operation : ClientOperation) :
    Outcome base64 bus connection operation
      ((connection.handleOperation base64 operation).run bus).messages := by
  cases operation with
  | publish subject payload cid =>
    cases hdecoded : validateAndDecodePayload base64 payload with
    | error error =>
      simp only [handleOperation, hdecoded]
      exact .refused (by simp only [accepts, hdecoded]) (silent_fail error)
    | ok decoded =>
      simp only [handleOperation, hdecoded, Handling.run]
      cases hbus : bus (.publish subject decoded) with
      | error error => exact .refused (by simp only [accepts, hdecoded, hbus]; rfl) (silent_fail error)
      | ok seq => exact .answered (by simp only [accepts, hdecoded, hbus]; rfl) .published rfl
  | subscribe pattern priority cid =>
    cases hcheck : connection.checkSubscribe pattern with
    | error error =>
      simp only [handleOperation, hcheck]
      exact .refused (by simp only [accepts, hcheck]; rfl) (silent_fail error)
    | ok _ =>
      simp only [handleOperation, hcheck, Handling.run]
      cases hbus : bus (.subscribe pattern priority) with
      | error error => exact .refused (by simp only [accepts, hcheck, hbus]; rfl) (silent_fail error)
      | ok id => exact .answered (by simp only [accepts, hcheck, hbus]; rfl) (.subscribed hbus) rfl
  | unsubscribe id cid =>
    simp only [handleOperation]
    split_ifs
    · simp only [Handling.run]
      split
      · exact .refused rfl (silent_fail _)
      · exact .refused rfl silent_of_nil
    · simp only [Handling.run]
      split
      · exact .refused rfl (silent_fail _)
      · exact .refused rfl silent_of_nil
    · exact .refused rfl silent_of_nil
  | request subject payload timeoutMs cid =>
    cases hdecoded : validateAndDecodePayload base64 payload with
    | error error =>
      simp only [handleOperation, hdecoded]
      exact .refused (by simp only [accepts, hdecoded]; rfl) (silent_fail error)
    | ok decoded =>
      -- the operation answers an error of the bus itself
      simp only [handleOperation, hdecoded, Handling.run]
      have haccepts : connection.accepts base64 bus (.request subject payload timeoutMs cid) = true :=
        by simp only [accepts, hdecoded]; rfl
      cases bus (.request subject decoded timeoutMs) with
      | error error => exact .answered haccepts .unreplied rfl
      | ok reply => exact .answered haccepts .replied rfl
  | registerChannelType channelType cid =>
    cases hcheck : connection.checkChannelType channelType with
    | error error =>
      simp only [handleOperation, hcheck]
      exact .refused (by simp only [accepts, hcheck]; rfl) (silent_fail error)
    | ok _ =>
      simp only [handleOperation, hcheck, Handling.run]
      cases hbus : bus (.registerChannelType channelType) with
      | error error => exact .refused (by simp only [accepts, hcheck, hbus]; rfl) (silent_fail error)
      | ok _ => exact .answered (by simp only [accepts, hcheck, hbus]; rfl) .channelRegistered rfl
  | deliverResult requestId success error | interceptResult requestId action =>
    exact .refused rfl silent_of_nil
  | registerInterceptor pattern priority timeoutMs cid =>
    cases hcheck : connection.checkInterceptor pattern with
    | error error =>
      simp only [handleOperation, hcheck]
      exact .refused (by simp only [accepts, hcheck]; rfl) (silent_fail error)
    | ok _ =>
      simp only [handleOperation, hcheck, Handling.run]
      cases hbus : bus (.intercept pattern (clampRemoteInterceptorPriority priority)
          (clampRemoteInterceptorTimeout timeoutMs)) with
      | error error => exact .refused (by simp only [accepts, hcheck, hbus]; rfl) (silent_fail error)
      | ok id => exact .answered (by simp only [accepts, hcheck, hbus]; rfl) .interceptorRegistered rfl

/-- After an operation a connection has the subscriptions it had, except one that is given up, and
one that is confirmed. -/
theorem mem_subscriptions_run {id : String}
    (hmem : id ∈ ((connection.handleOperation base64 operation).run bus).connection.subscriptions.map
      Prod.fst) :
    id ∈ connection.subscriptions.map Prod.fst ∧ (∀ c, operation ≠ .unsubscribe id c) ∨
      ∃ c, .subscribed id c ∈ ((connection.handleOperation base64 operation).run bus).messages := by
  cases operation with
  | publish subject payload cid
  | request subject payload timeoutMs cid | registerChannelType channelType cid
  | registerInterceptor pattern priority timeoutMs cid =>
    refine .inl ⟨?_, nofun⟩
    simp only [handleOperation] at hmem
    split at hmem
    · exact hmem
    · simp only [Handling.run] at hmem
      split at hmem <;> exact hmem
  | subscribe pattern priority cid =>
    simp only [handleOperation] at hmem ⊢
    split at hmem
    · exact .inl ⟨hmem, nofun⟩
    · simp only [Handling.run] at hmem ⊢
      split at hmem
      · exact .inl ⟨hmem, nofun⟩
      · rename_i given _
        rcases List.mem_cons.mp hmem with rfl | hbefore
        · exact .inr ⟨cid, List.mem_singleton_self _⟩
        · exact .inl ⟨hbefore, nofun⟩
  | unsubscribe other cid =>
    left
    simp only [handleOperation] at hmem
    split_ifs at hmem with hheld hintercepts
    · have hkept : id ∈ (connection.subscriptions.filter (·.1 ≠ other)).map Prod.fst := by
        simp only [Handling.run] at hmem
        split at hmem <;> exact hmem
      obtain ⟨entry, hentry, rfl⟩ := List.mem_map.mp hkept
      obtain ⟨hbefore, hne⟩ := List.mem_filter.mp hentry
      refine ⟨List.mem_map_of_mem hbefore, fun c heq ↦ ?_⟩
      exact of_decide_eq_true hne (ClientOperation.unsubscribe.inj heq).1.symm
    · have hbefore : id ∈ connection.subscriptions.map Prod.fst := by
        simp only [Handling.run] at hmem
        split at hmem <;> exact hmem
      refine ⟨hbefore, fun c heq ↦ hheld ?_⟩
      exact (ClientOperation.unsubscribe.inj heq).1 ▸ hbefore
    · refine ⟨hmem, fun c heq ↦ hheld ?_⟩
      exact (ClientOperation.unsubscribe.inj heq).1 ▸ hmem
  | deliverResult requestId success error | interceptResult requestId action => exact .inl ⟨hmem, nofun⟩

/-- Serve the frames of a connection in their order; the bus may answer each differently. -/
def serve (base64 : Base64) : Machine Connection (BusAnswers × Frame) (List ServerMessage) :=
  fun connection input ↦ connection.serveFrame base64 input.1 input.2

/-- A frame with an operation that is to be answered under a correlation id. -/
def Asks (cid : String) (frame : Frame) : Prop :=
  ∃ operation, frame.operation = .ok operation ∧ operation.isCall = true ∧
    operation.correlationId = some cid

/-- How many messages echo a correlation id. -/
def echoes (cid : String) (messages : List ServerMessage) : ℕ :=
  messages.countP (·.correlationId = some cid)

theorem echoes_of_silent (h : Silent messages) (cid : String) : echoes cid messages = 0 := by
  refine List.countP_eq_zero.mpr fun message hmem ↦ ?_
  simp [h.correlationId_eq hmem]

theorem isCall_of_accepts (h : connection.accepts base64 bus operation = true) :
    operation.isCall = true := by
  cases operation <;> first | rfl | simp [accepts] at h

/-- The messages for a frame that asks nothing under a correlation id do not echo it. -/
theorem echoes_of_not_asks (h : ¬Asks cid frame) :
    echoes cid (connection.serveFrame base64 bus frame).1 = 0 := by
  unfold serveFrame
  split_ifs
  · exact echoes_of_silent (silent_error _) cid
  · cases hoperation : frame.operation with
    | error error => exact echoes_of_silent (silent_error _) cid
    | ok operation =>
      cases outcome base64 bus connection operation with
      | answered haccepts hanswer heq =>
        have hother : operation.correlationId ≠ some cid := fun hcid ↦
          h ⟨operation, hoperation, isCall_of_accepts haccepts, hcid⟩
        simp [heq, echoes, hanswer.correlationId_eq, hother]
      | refused _ hrefused => exact echoes_of_silent hrefused cid

/-- An operation is answered under its correlation id exactly if it is accepted. -/
theorem echoes_eq_one_iff (hoperation : frame.operation = .ok operation)
    (hcid : operation.correlationId = some cid) :
    echoes cid (connection.serveFrame base64 bus frame).1 = 1 ↔
      frame.length ≤ maxFrameSize ∧ connection.accepts base64 bus operation = true := by
  unfold serveFrame
  split_ifs with hlong
  · have hnot : ¬frame.length ≤ maxFrameSize := not_le.mpr hlong
    simp [echoes, hnot, ServerMessage.correlationId]
  · have hshort : frame.length ≤ maxFrameSize := not_lt.mp hlong
    simp only [hoperation, hshort, true_and]
    cases outcome base64 bus connection operation with
    | answered haccepts hanswer heq =>
      simp [heq, echoes, hanswer.correlationId_eq, hcid, haccepts]
    | refused haccepts hrefused =>
      simp [echoes_of_silent hrefused, haccepts]

/-- In a sequence of operations, one whose correlation id no other carries is answered exactly once
if and only if it is accepted in its turn. -/
theorem echoes_outputs_eq_one_iff {before after : List (BusAnswers × Frame)}
    (hoperation : frame.operation = .ok operation) (hcid : operation.correlationId = some cid)
    (halone : ∀ other ∈ before ++ after, ¬Asks cid other.2) :
    echoes cid ((serve base64).outputs connection (before ++ (bus, frame) :: after)).flatten = 1 ↔
      frame.length ≤ maxFrameSize ∧
        ((serve base64).run connection before).accepts base64 bus operation = true := by
  have hzero (state : Connection) {inputs : List (BusAnswers × Frame)}
      (hinputs : ∀ other ∈ inputs, ¬Asks cid other.2) :
      echoes cid ((serve base64).outputs state inputs).flatten = 0 := by
    have houtputs : ∀ output ∈ (serve base64).outputs state inputs, echoes cid output = 0 :=
      Machine.forall_outputs (fun _ _ hother ↦ echoes_of_not_asks hother) state hinputs
    refine List.countP_eq_zero.mpr fun message hmessage ↦ ?_
    obtain ⟨output, houtput, hmem⟩ := List.mem_flatten.mp hmessage
    exact List.countP_eq_zero.mp (houtputs output houtput) message hmem
  have hbefore := hzero connection fun other hmem ↦ halone other (List.mem_append_left _ hmem)
  have hafter (state : Connection) := hzero state fun other hmem ↦
    halone other (List.mem_append_right _ hmem)
  rw [← echoes_eq_one_iff hoperation hcid, Machine.outputs_append, Machine.outputs]
  simp only [echoes, List.flatten_append, List.flatten_cons, List.countP_append] at hbefore hafter ⊢
  rw [hbefore, hafter, Nat.zero_add, Nat.add_zero]
  rfl

/-- What is registered over a connection was checked and is within the limits; where sensitive operations
are refused, there are only subscriptions. -/
structure WithinLimits (connection : Connection) : Prop where
  subscriptions : connection.subscriptions.length ≤ maxSubscriptionsPerConnection
  interceptors : connection.remoteInterceptors.length ≤ maxInterceptorsPerConnection
  channels : connection.remoteChannels.length ≤ maxChannelTypesPerConnection
  patterns : ∀ entry ∈ connection.subscriptions ++ connection.remoteInterceptors,
    validateRemotePattern entry.2 = .ok ()
  names : ∀ name ∈ connection.remoteChannels, validateChannelType name = .ok ()
  distinct : connection.remoteChannels.Nodup
  sensitive : connection.authOpen && !connection.devMode →
    connection.remoteChannels = [] ∧ connection.remoteInterceptors = []

theorem refuseIfOpen_ok {opName : String} {rest : Except EventBusError Unit}
    (h : (do connection.refuseIfOpen opName; rest) = .ok ()) :
    ¬(connection.authOpen && !connection.devMode) ∧ rest = .ok () := by
  unfold refuseIfOpen at h
  split_ifs at h with hopen
  · cases h
  · exact ⟨hopen, h⟩

theorem WithinLimits.handleOperation (h : connection.WithinLimits) :
    ((connection.handleOperation base64 operation).run bus).connection.WithinLimits := by
  -- but for the operations that change what is registered, the connection stays as it is
  fun_cases Connection.handleOperation base64 connection operation
  all_goals
    simp only [Handling.run]
    try split
    all_goals try exact h
  · rename_i hcheck _ _ _
    unfold checkSubscribe at hcheck
    split at hcheck
    · cases hcheck
    · split_ifs at hcheck with hfull
      exact { h with
        subscriptions := Nat.lt_of_not_le hfull
        patterns := List.forall_mem_cons.mpr ⟨‹_›, h.patterns⟩ }
  · rename_i finish _
    simp only [finish]
    split
    all_goals exact { h with
      subscriptions := (List.length_filter_le _ _).trans h.subscriptions
      patterns := fun entry hentry ↦ h.patterns entry
        ((List.filter_sublist.append (List.Sublist.refl _)).subset hentry) }
  · rename_i finish _ _
    simp only [finish]
    split
    all_goals exact { h with
      interceptors := (List.length_filter_le _ _).trans h.interceptors
      patterns := fun entry hentry ↦ h.patterns entry
        (((List.Sublist.refl _).append List.filter_sublist).subset hentry)
      sensitive := fun hopen ↦ (h.sensitive hopen).imp_right fun hnone ↦ by rw [hnone]; rfl }
  · rename_i name _ _ hcheck _ _ _
    obtain ⟨hclosed, hrest⟩ := refuseIfOpen_ok hcheck
    cases hname : validateChannelType name with
    | error error => rw [hname] at hrest; cases hrest
    | ok _ =>
      rw [hname] at hrest
      simp only [bind, Except.bind] at hrest
      split_ifs at hrest with hfull hknown
      exact { h with
        channels := Nat.lt_of_not_le hfull
        names := List.forall_mem_cons.mpr ⟨hname, h.names⟩
        distinct := List.nodup_cons.mpr ⟨hknown, h.distinct⟩
        sensitive := fun hopen ↦ absurd hopen hclosed }
  · rename_i hcheck _ _ _
    obtain ⟨hclosed, hrest⟩ := refuseIfOpen_ok hcheck
    split at hrest
    · cases hrest
    · split_ifs at hrest with hfull
      have hkept := List.forall_mem_append.mp h.patterns
      exact { h with
        interceptors := Nat.lt_of_not_le hfull
        patterns := List.forall_mem_append.mpr ⟨hkept.1, List.forall_mem_cons.mpr ⟨‹_›, hkept.2⟩⟩
        sensitive := fun hopen ↦ absurd hopen hclosed }

/-- Whatever a client sends and the bus answers, its connection stays within the limits. -/
theorem serve_withinLimits (base64 : Base64) (authOpen devMode : Bool)
    (inputs : List (BusAnswers × Frame)) :
    ((serve base64).run (.new authOpen devMode) inputs).WithinLimits := by
  induction inputs using List.reverseRecOn with
  | nil =>
    exact ⟨Nat.zero_le _, Nat.zero_le _, Nat.zero_le _, nofun, nofun, List.nodup_nil, fun _ ↦ ⟨rfl, rfl⟩⟩
  | append_singleton inputs input ih =>
    rw [Machine.run_concat, serve, serveFrame]
    split_ifs
    · exact ih
    · split
      · exact ih
      · exact ih.handleOperation

end Connection

end Seidrum.EventBus
