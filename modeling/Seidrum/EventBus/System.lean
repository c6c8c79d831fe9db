import Seidrum.EventBus.Delivery.Retry

/-!
# The running bus

The whole bus as one system: any number of dispatches in flight, the retry task, compaction, and
callers that publish, subscribe and unsubscribe, all on one shared state.  A label names which of
them takes its next step, so the labelled runs are the interleavings.

The tasks that forward events to webhooks are part of the system: each takes the events off its
subscription's channel one by one and calls the webhook.
-/

namespace Seidrum.EventBus

open Seidrum.Foundation

/-- Who moves next. -/
inductive Label
  | publish (intercepting : Option String) (subject : String) (payload : Payload)
      (replySubject : Option String) (storeError : Option StorageError)
  | dispatch (i : ℕ) (input : DispatchInput)
  | poll
  | retry (input : RetryInput)
  | compact (olderThan : ℕ)
  | subscribe (entry : SubscriptionEntry)
  | createSubscription (id pattern url : String) (priority : ℕ)
  | intercept (id subjectPattern : String) (priority : ℕ) (timeout : Option ℕ)
  | unsubscribe (id : String)
  /-- a subscriber takes the next event off its channel -/
  | receive (id : String)
  /-- the webhook call of a forwarder returns -/
  | webhookReturn (id : String) (answer : Except DeliveryError Unit)
  /-- a subscriber drops its end of the channel -/
  | closeChannel (id : String)
  | tick (elapsed : ℕ)

/-- No store write of the step fails. -/
def Label.writesSucceed : Label → Bool
  | .dispatch _ input => input.storeOk
  | .retry input => input.storeOk
  | _ => true

/-- The state of a running bus. -/
structure System where
  bus : Bus
  /-- Every dispatch so far, those that returned included. -/
  dispatches : List Dispatch
  retry : RetryPhase
  /-- Subscriptions with a forwarder. -/
  webhooks : List String
  /-- The event each forwarder is calling its webhook with. -/
  calls : List (String × DispatchedEvent)

def Stage.isReturned : Stage → Bool
  | .returned => true
  | _ => false

def RetryPhase.isIdle : RetryPhase → Bool
  | .idle => true
  | _ => false

namespace System

/-- What the builder starts on a store: an engine with nothing registered, an idle retry task, and
no dispatch. -/
def build (store : InMemoryEventStore) (clock : ℕ) : System where
  bus := .onStore store clock
  dispatches := []
  retry := .idle
  webhooks := []
  calls := []

/-- The subscription an HTTP client creates: asynchronous, without a filter, forwarded to its
webhook. -/
def webhookEntry (id pattern url : String) (priority : ℕ) : SubscriptionEntry :=
  { id, subjectPattern := pattern, priority, mode := .async, channel := .webhook url,
    timeout := 5000, filter := none }

/-- Register something under a fresh id; a refused registration changes nothing. -/
def register (id : String) (register : Bus → Except EventBusError Bus) (system : System) :
    Option (Bool × System) :=
  if id ∈ system.bus.usedIds then none
  else match register system.bus with
    | .ok bus => some (true, { system with bus })
    | .error _ => some (false, system)

def step (config : Config) : Steps System Label
  | system, .publish intercepting subject payload replySubject storeError =>
      match system.bus.publishEvent intercepting subject payload replySubject storeError with
      | .ok (bus, dispatch) =>
          some { system with bus, dispatches := system.dispatches ++ [dispatch] }
      | .error _ => some system
  | system, .dispatch i input =>
      match system.dispatches[i]? with
      | none => none
      | some d =>
          if d.stage.isReturned then none
          else some { system with
            bus := (d.step config input system.bus).1
            dispatches := system.dispatches.set i (d.step config input system.bus).2 }
  | system, .poll =>
      if system.retry.isIdle then some { system with retry := .poll config system.bus } else none
  | system, .retry input =>
      if system.retry.isIdle then none
      else some { system with
        bus := (system.retry.step config input system.bus).1
        retry := (system.retry.step config input system.bus).2 }
  | system, .compact olderThan =>
      some { system with bus := { system.bus with
        store := (system.bus.store.compact system.bus.clock olderThan).2 } }
  | system, .subscribe entry =>
      (system.register entry.id (·.subscribe entry)).map Prod.snd
  | system, .createSubscription id pattern url priority =>
      (system.register id (·.subscribe (webhookEntry id pattern url priority))).map fun result ↦
        if result.1 then { result.2 with webhooks := id :: result.2.webhooks } else result.2
  | system, .intercept id subjectPattern priority timeout =>
      (system.register id (·.intercept id subjectPattern priority timeout)).map Prod.snd
  | system, .unsubscribe id => some { system with bus := system.bus.unsubscribe id }
  | system, .receive id =>
      match (system.bus.channels id).queue with
      | [] => none
      | event :: rest =>
          let bus := system.bus.setChannel id { system.bus.channels id with queue := rest }
          if id ∈ system.webhooks then
            -- a forwarder takes the next event only after its last call returned
            if (system.calls.find? fun call ↦ call.1 = id).isSome then none
            else some { system with bus, calls := (id, event) :: system.calls }
          else some { system with bus }
  | system, .webhookReturn id answer =>
      match system.calls.find? fun call ↦ call.1 = id with
      | none => none
      | some call =>
          some { system with
            bus := system.bus.note (.webhookReturned call.2.seq id answer.toBool)
            calls := system.calls.filter fun other ↦ other.1 ≠ id }
  | system, .closeChannel id =>
      some { system with bus := system.bus.setChannel id (system.bus.channels id).close }
  | system, .tick elapsed =>
      some { system with bus := { system.bus with clock := system.bus.clock + elapsed } }

/-! ## What a step can do -/

/-- A step that touches neither the store nor a dispatch nor the retry task, and appends or attempts
nothing. -/
structure Quiet (system next : System) : Prop where
  store : next.bus.store = system.bus.store
  dispatches : next.dispatches = system.dispatches
  retry : next.retry = system.retry
  clock : system.bus.clock ≤ next.bus.clock
  log : next.bus.log = system.bus.log ∨
    ∃ seq id ok, next.bus.log = .webhookReturned seq id ok :: system.bus.log

/-- The event a publish persists. -/
def published (subject : String) (payload : Payload) (replySubject : Option String) :
    StoredEvent :=
  { seq := 0, subject, payload, storedAt := 0, status := .pending, deliveries := [], replySubject }

/-- A dispatch that has just been started. -/
structure Starts (seq : ℕ) (isReply : Bool) (event : StoredEvent) (d : Dispatch) : Prop where
  seq : d.seq = seq
  isReply : d.isReply = isReply
  subject : d.subject = event.subject
  payload : d.payload = event.payload
  replySubject : d.replySubject = event.replySubject
  current : d.current = event.payload
  anyFailed : d.anyFailed = false
  stage : d.stage = .resolve

/-- Everything a step can do. -/
inductive Change (config : Config) (system : System) : Label → System → Prop
  | quiet {label : Label} {next : System} (quiet : Quiet system next) :
      Change config system label next
  | publish {label : Label} {event : StoredEvent} {d : Dispatch}
      (fresh : event.deliveries = [] ∧ event.status = .pending)
      (starts : Starts system.bus.store.nextSeq false event d) :
      Change config system label { system with
        bus := { system.bus with
          store := (system.bus.store.append system.bus.clock event).2
          log := .appended system.bus.store.nextSeq event.payload :: system.bus.log }
        dispatches := system.dispatches ++ [d] }
  | publishReply {label : Label} {event : StoredEvent} {d : Dispatch}
      (starts : Starts 0 true event d) :
      Change config system label { system with dispatches := system.dispatches ++ [d] }
  | dispatch {i : ℕ} {input : DispatchInput} {d : Dispatch} (at_i : system.dispatches[i]? = some d)
      (running : d.stage.isReturned = false) :
      Change config system (.dispatch i input) { system with
        bus := (d.step config input system.bus).1
        dispatches := system.dispatches.set i (d.step config input system.bus).2 }
  | poll (idle : system.retry.isIdle = true) :
      Change config system .poll { system with retry := .poll config system.bus }
  | retry {input : RetryInput} (busy : system.retry.isIdle = false) :
      Change config system (.retry input) { system with
        bus := (system.retry.step config input system.bus).1
        retry := (system.retry.step config input system.bus).2 }
  | compact {olderThan : ℕ} :
      Change config system (.compact olderThan) { system with bus := { system.bus with
        store := (system.bus.store.compact system.bus.clock olderThan).2 } }

theorem Quiet.refl (system : System) : Quiet system system :=
  ⟨rfl, rfl, rfl, le_rfl, .inl rfl⟩

theorem quiet_of_bus {system : System} {bus : Bus} {webhooks : List String}
    {calls : List (String × DispatchedEvent)} (hstore : bus.store = system.bus.store)
    (hclock : bus.clock = system.bus.clock) (hlog : bus.log = system.bus.log) :
    Quiet system { system with bus, webhooks, calls } :=
  ⟨hstore, rfl, rfl, hclock.ge, .inl hlog⟩

end System

namespace Bus

variable {bus next : Bus}

/-- A registration keeps the store, the clock and the history. -/
theorem subscribe_ok {entry : SubscriptionEntry} (h : bus.subscribe entry = .ok next) :
    ∃ index, bus.index.subscribe entry = .ok index ∧
      next = { bus.setChannel entry.id .new with
        index
        senders := entry.id :: bus.senders
        usedIds := entry.id :: bus.usedIds } := by
  unfold subscribe at h
  cases hvalid : validateSubject entry.subjectPattern with
  | error error => simp [hvalid, bind, Except.bind] at h
  | ok _ =>
    cases hindex : bus.index.subscribe entry with
    | error error => simp [hvalid, hindex, bind, Except.bind] at h
    | ok index =>
      simp only [hvalid, hindex, bind, Except.bind, Except.ok.injEq] at h
      exact ⟨index, rfl, h.symm⟩

/-- The entry registered for an interceptor. -/
def interceptorEntry (id subjectPattern : String) (priority : ℕ) (timeout : Option ℕ) :
    SubscriptionEntry :=
  { id, subjectPattern, priority, mode := .sync, channel := .inProcess,
    timeout := timeout.getD defaultInterceptorTimeout, filter := none }

theorem intercept_ok {id subjectPattern : String} {priority : ℕ} {timeout : Option ℕ}
    (h : bus.intercept id subjectPattern priority timeout = .ok next) :
    ∃ index, bus.index.subscribe (interceptorEntry id subjectPattern priority timeout) = .ok index ∧
      next = { bus with
        index
        interceptors := id :: bus.interceptors
        usedIds := id :: bus.usedIds } := by
  unfold intercept at h
  cases hvalid : validateSubject subjectPattern with
  | error error => simp [hvalid, bind, Except.bind] at h
  | ok _ =>
    simp only [hvalid, bind, Except.bind] at h
    split_ifs at h
    cases hindex : bus.index.subscribe (interceptorEntry id subjectPattern priority timeout) with
    | error error =>
      rw [interceptorEntry] at hindex
      simp [hindex] at h
    | ok index =>
      rw [interceptorEntry] at hindex
      simp only [hindex, Except.ok.injEq] at h
      exact ⟨index, rfl, h.symm⟩

/-- A publish that is accepted starts a dispatch, and persists its event unless it is a reply. -/
theorem publishEvent_ok {d : Dispatch} {intercepting : Option String} {subject : String}
    {payload : Payload} {replySubject : Option String} {storeError : Option StorageError}
    (h : bus.publishEvent intercepting subject payload replySubject storeError = .ok (next, d)) :
    (isReplySubject subject = true ∧ System.Starts 0 true (System.published subject payload replySubject) d ∧
        next = bus) ∨
      (isReplySubject subject = false ∧ System.Starts bus.store.nextSeq false (System.published subject payload replySubject) d ∧
        next = { bus with
          store := (bus.store.append bus.clock (System.published subject payload replySubject)).2
          log := .appended bus.store.nextSeq payload :: bus.log }) := by
  unfold publishEvent at h
  cases hsubject : validateSubject subject with
  | error error => simp [hsubject, bind, Except.bind] at h
  | ok _ =>
    cases hpayload : validatePayload payload with
    | error error => simp [hsubject, hpayload, bind, Except.bind] at h
    | ok _ =>
      simp only [hsubject, hpayload, bind, Except.bind] at h
      split_ifs at h with _ hreply
      · obtain ⟨rfl, rfl⟩ := Prod.mk.inj (Except.ok.inj h)
        exact .inl ⟨hreply, ⟨rfl, rfl, rfl, rfl, rfl, rfl, rfl, rfl⟩, rfl⟩
      · cases storeError with
        | some error => simp at h
        | none =>
          obtain ⟨rfl, rfl⟩ := Prod.mk.inj (Except.ok.inj h)
          exact .inr ⟨by simpa using hreply, ⟨rfl, rfl, rfl, rfl, rfl, rfl, rfl, rfl⟩, rfl⟩

end Bus

namespace System

variable {system : System} {config : Config} {next : System} {label : Label}

/-- A registration was refused, or made under a fresh id. -/
theorem register_eq {id : String} {f : Bus → Except EventBusError Bus} {result : Bool × System}
    (h : system.register id f = some result) :
    id ∉ system.bus.usedIds ∧ (result = (false, system) ∨
      ∃ bus, f system.bus = .ok bus ∧ result = (true, { system with bus })) := by
  unfold register at h
  split_ifs at h with hused
  refine ⟨hused, ?_⟩
  cases hbus : f system.bus with
  | error error =>
    rw [hbus] at h
    exact .inl (Option.some.inj h).symm
  | ok bus =>
    rw [hbus] at h
    exact .inr ⟨bus, rfl, (Option.some.inj h).symm⟩

theorem dispatch_of_step {i : ℕ} {input : DispatchInput}
    (h : step config system (.dispatch i input) = some next) :
    ∃ d, system.dispatches[i]? = some d ∧ d.stage.isReturned = false ∧
      next = { system with
        bus := (d.step config input system.bus).1
        dispatches := system.dispatches.set i (d.step config input system.bus).2 } := by
  simp only [step] at h
  cases hat : system.dispatches[i]? with
  | none => simp [hat] at h
  | some d =>
    simp only [hat] at h
    split_ifs at h with hreturned
    exact ⟨d, rfl, by simpa using hreturned, (Option.some.inj h).symm⟩

/-- What a step does to the bus, the forwarders and the tasks. -/
inductive Effect (config : Config) (system : System) : Label → System → Prop
  | refused {label : Label} : Effect config system label system
  | publish {intercepting replySubject : Option String} {subject : String} {payload : Payload}
      {storeError : Option StorageError} {d : Dispatch}
      (starts : Starts system.bus.store.nextSeq false (published subject payload replySubject) d) :
      Effect config system (.publish intercepting subject payload replySubject storeError) { system with
        bus := { system.bus with
          store := (system.bus.store.append system.bus.clock
            (published subject payload replySubject)).2
          log := .appended system.bus.store.nextSeq payload :: system.bus.log }
        dispatches := system.dispatches ++ [d] }
  | publishReply {intercepting replySubject : Option String} {subject : String} {payload : Payload}
      {storeError : Option StorageError} {d : Dispatch}
      (starts : Starts 0 true (published subject payload replySubject) d) :
      Effect config system (.publish intercepting subject payload replySubject storeError)
        { system with dispatches := system.dispatches ++ [d] }
  | dispatch {i : ℕ} {input : DispatchInput} {d : Dispatch} (at_i : system.dispatches[i]? = some d)
      (running : d.stage.isReturned = false) :
      Effect config system (.dispatch i input) { system with
        bus := (d.step config input system.bus).1
        dispatches := system.dispatches.set i (d.step config input system.bus).2 }
  | poll (idle : system.retry.isIdle = true) :
      Effect config system .poll { system with retry := .poll config system.bus }
  | retry {input : RetryInput} (busy : system.retry.isIdle = false) :
      Effect config system (.retry input) { system with
        bus := (system.retry.step config input system.bus).1
        retry := (system.retry.step config input system.bus).2 }
  | compact {olderThan : ℕ} :
      Effect config system (.compact olderThan) { system with bus := { system.bus with
        store := (system.bus.store.compact system.bus.clock olderThan).2 } }
  | subscribe {entry : SubscriptionEntry} {index : SubjectIndex}
      (fresh : entry.id ∉ system.bus.usedIds)
      (subscribed : system.bus.index.subscribe entry = .ok index) :
      Effect config system (.subscribe entry) { system with
        bus := { system.bus.setChannel entry.id .new with
          index
          senders := entry.id :: system.bus.senders
          usedIds := entry.id :: system.bus.usedIds } }
  | createSubscription {id pattern url : String} {priority : ℕ} {index : SubjectIndex}
      (fresh : id ∉ system.bus.usedIds)
      (subscribed : system.bus.index.subscribe (webhookEntry id pattern url priority) = .ok index) :
      Effect config system (.createSubscription id pattern url priority) { system with
        bus := { system.bus.setChannel id .new with
          index
          senders := id :: system.bus.senders
          usedIds := id :: system.bus.usedIds }
        webhooks := id :: system.webhooks }
  | intercept {id subjectPattern : String} {priority : ℕ} {timeout : Option ℕ}
      {index : SubjectIndex} (fresh : id ∉ system.bus.usedIds)
      (subscribed : system.bus.index.subscribe
        (Bus.interceptorEntry id subjectPattern priority timeout) = .ok index) :
      Effect config system (.intercept id subjectPattern priority timeout) { system with
        bus := { system.bus with
          index
          interceptors := id :: system.bus.interceptors
          usedIds := id :: system.bus.usedIds } }
  | unsubscribe {id : String} :
      Effect config system (.unsubscribe id) { system with bus := system.bus.unsubscribe id }
  | receive {id : String} {event : DispatchedEvent} {rest : List DispatchedEvent}
      {calls : List (String × DispatchedEvent)}
      (queued : (system.bus.channels id).queue = event :: rest)
      (forwarded : id ∈ system.webhooks ∧ calls = (id, event) :: system.calls ∨
        id ∉ system.webhooks ∧ calls = system.calls) :
      Effect config system (.receive id) { system with
        bus := system.bus.setChannel id { system.bus.channels id with queue := rest }
        calls }
  | webhookReturn {id : String} {answer : Except DeliveryError Unit}
      {call : String × DispatchedEvent}
      (called : (system.calls.find? fun call ↦ call.1 = id) = some call) :
      Effect config system (.webhookReturn id answer) { system with
        bus := system.bus.note (.webhookReturned call.2.seq id answer.toBool)
        calls := system.calls.filter fun other ↦ other.1 ≠ id }
  | closeChannel {id : String} :
      Effect config system (.closeChannel id)
        { system with bus := system.bus.setChannel id (system.bus.channels id).close }
  | tick {elapsed : ℕ} :
      Effect config system (.tick elapsed)
        { system with bus := { system.bus with clock := system.bus.clock + elapsed } }

theorem effect_of_step (h : step config system label = some next) :
    Effect config system label next := by
  cases label with
  | publish intercepting subject payload replySubject storeError =>
    simp only [step] at h
    cases hpublish : system.bus.publishEvent intercepting subject payload replySubject
        storeError with
    | error error =>
      rw [hpublish] at h
      cases h
      exact .refused
    | ok result =>
      obtain ⟨bus, d⟩ := result
      rw [hpublish] at h
      cases h
      obtain ⟨-, hstarts, rfl⟩ | ⟨-, hstarts, rfl⟩ := Bus.publishEvent_ok hpublish
      · exact .publishReply hstarts
      · exact .publish hstarts
  | dispatch i input =>
    obtain ⟨d, hat, hrunning, rfl⟩ := dispatch_of_step h
    exact .dispatch hat hrunning
  | poll =>
    simp only [step] at h
    split_ifs at h with hidle
    cases h
    exact .poll hidle
  | retry input =>
    simp only [step] at h
    split_ifs at h with hidle
    cases h
    exact .retry (by simpa using hidle)
  | compact olderThan =>
    cases h
    exact .compact
  | subscribe entry =>
    obtain ⟨result, hresult, rfl⟩ := Option.map_eq_some_iff.mp h
    obtain ⟨hfresh, rfl | ⟨bus, hbus, rfl⟩⟩ := register_eq hresult
    · exact .refused
    · obtain ⟨index, hindex, rfl⟩ := Bus.subscribe_ok hbus
      exact .subscribe hfresh hindex
  | createSubscription id pattern url priority =>
    obtain ⟨result, hresult, rfl⟩ := Option.map_eq_some_iff.mp h
    obtain ⟨hfresh, rfl | ⟨bus, hbus, rfl⟩⟩ := register_eq hresult
    · exact .refused
    · obtain ⟨index, hindex, rfl⟩ := Bus.subscribe_ok hbus
      exact .createSubscription hfresh hindex
  | intercept id subjectPattern priority timeout =>
    obtain ⟨result, hresult, rfl⟩ := Option.map_eq_some_iff.mp h
    obtain ⟨hfresh, rfl | ⟨bus, hbus, rfl⟩⟩ := register_eq hresult
    · exact .refused
    · obtain ⟨index, hindex, rfl⟩ := Bus.intercept_ok hbus
      exact .intercept hfresh hindex
  | unsubscribe id =>
    cases h
    exact .unsubscribe
  | receive id =>
    simp only [step] at h
    cases hqueue : (system.bus.channels id).queue with
    | nil => simp [hqueue] at h
    | cons event rest =>
      simp only [hqueue] at h
      split_ifs at h with hwebhook
      · cases h
        exact .receive hqueue (.inl ⟨hwebhook, rfl⟩)
      · cases h
        exact .receive hqueue (.inr ⟨hwebhook, rfl⟩)
  | webhookReturn id answer =>
    simp only [step] at h
    cases hcall : system.calls.find? fun call ↦ call.1 = id with
    | none => simp [hcall] at h
    | some call =>
      simp only [hcall] at h
      cases h
      exact .webhookReturn hcall
  | closeChannel id =>
    cases h
    exact .closeChannel
  | tick elapsed =>
    cases h
    exact .tick

theorem change_of_step (h : step config system label = some next) :
    Change config system label next := by
  cases effect_of_step h with
  | refused => exact .quiet (.refl _)
  | publish starts => exact .publish ⟨rfl, rfl⟩ starts
  | publishReply starts => exact .publishReply starts
  | dispatch at_i running => exact .dispatch at_i running
  | poll idle => exact .poll idle
  | retry busy => exact .retry busy
  | compact => exact .compact
  | webhookReturn => exact .quiet ⟨rfl, rfl, rfl, le_rfl, .inr ⟨_, _, _, rfl⟩⟩
  | tick => exact .quiet ⟨rfl, rfl, rfl, Nat.le_add_right _ _, .inl rfl⟩
  | _ => exact .quiet (quiet_of_bus rfl rfl rfl)

end System

/-! ## Short runs

Names for the labels of runs on fixed inputs. -/

/-- The default configuration with another budget, on payloads that are not JSON. -/
def Config.plain (maxAttempts : ℕ) : Config where
  retry := { RetryConfig.default with maxAttempts }
  queryLimit := 256
  json := ⟨fun _ ↦ none, fun _ ↦ ""⟩
  channelTypes := []

namespace Label

/-- An in-process subscription without a filter. -/
def inProcess (id pattern : String) (mode : SubscriptionMode) (priority : ℕ) : Label :=
  .subscribe
    { id, subjectPattern := pattern, priority, mode, channel := .inProcess, timeout := 5000,
      filter := none }

/-- A publish of a single byte without a reply subject. -/
def publishByte (subject : String) (byte : UInt8) : Label := .publish none subject [byte] none none

/-- A step of a dispatch; if it runs an interceptor, the interceptor ends so. -/
def turn (i : ℕ) (outcome : InterceptOutcome) : Label := .dispatch i ⟨outcome, 0, true⟩

/-- A step of the retry task whose channels accept everything. -/
def retryTurn : Label := .retry ⟨.ok (), 0, true⟩

end Label

end Seidrum.EventBus
