import Mathlib.Algebra.Group.Int.Defs
import Mathlib.Data.List.AList
import Mathlib.Data.List.MinMax
import Seidrum.Foundation.ByteSlice
import Seidrum.Foundation.StableSort
import Seidrum.Kernel.Events

/-!
# The trace collector

One task receives every event of the bus and keeps the traces of their correlations, with a preview of
each payload.  A preview is cut by bytes; a cut inside a character panics and ends the task.  Nothing
else in the handling of an event can fail, and the number of traces and of spans stays bounded.
-/

namespace Seidrum.Kernel

open EventBus (Payload SerdeJson Value)
open Foundation

/-- A moment within the range of the clock, in nanoseconds since 1970. -/
structure DateTime where
  nanos : ℤ
  lower : -8334601228800 * 10 ^ 9 ≤ nanos
  upper : nanos < 8210266876800 * 10 ^ 9

/-- The largest duration, in milliseconds. -/
def maxDurationMs : ℕ := 2 ^ 63 - 1

/-- The duration between two moments in nanoseconds; one that is out of range panics. -/
def DateTime.since (later earlier : DateTime) : Option ℤ :=
  if (later.nanos - earlier.nanos).natAbs ≤ maxDurationMs * 10 ^ 6 then
    some (later.nanos - earlier.nanos)
  else none

theorem DateTime.since_eq (later earlier : DateTime) :
    later.since earlier = some (later.nanos - earlier.nanos) := by
  have hlater := later.lower
  have hlater' := later.upper
  have hearlier := earlier.lower
  have hearlier' := earlier.upper
  apply if_pos
  unfold maxDurationMs
  omega

/-- Whole milliseconds, rounded toward zero. -/
def numMilliseconds (duration : ℤ) : ℤ := duration.tdiv (10 ^ 6)

/-- The text up to a number of bytes; a cut that is no boundary panics. -/
def payloadPreview (limit : ℕ) (text : String) : Option String :=
  if limit < byteLength text.toList then (sliceTo text limit).map (· ++ "...") else some text

/-- A text that is short enough, or may be cut at the limit. -/
def CutsWell (limit : ℕ) (text : String) : Prop :=
  byteLength text.toList ≤ limit ∨ IsBoundary text.toList limit

instance (limit : ℕ) (text : String) : Decidable (CutsWell limit text) :=
  inferInstanceAs (Decidable (_ ∨ _))

theorem isSome_payloadPreview_iff {limit : ℕ} {text : String} :
    (payloadPreview limit text).isSome ↔ CutsWell limit text := by
  unfold payloadPreview CutsWell
  by_cases hlong : limit < byteLength text.toList
  · rw [if_pos hlong, Option.isSome_map, isSome_sliceTo_iff]
    exact ⟨.inr, fun h ↦ h.resolve_left (Nat.not_le.mpr hlong)⟩
  · rw [if_neg hlong]
    exact ⟨fun _ ↦ .inl (Nat.not_lt.mp hlong), fun _ ↦ rfl⟩

/-- A single event within a trace. -/
structure TraceSpan where
  eventId : String
  subject : String
  source : String
  eventType : String
  timestamp : DateTime
  offsetMs : ℤ
  payloadPreview : String

/-- All events sharing a correlation id. -/
structure Trace where
  correlationId : String
  startedAt : DateTime
  lastEventAt : DateTime
  durationMs : ℤ
  spanCount : ℕ
  spans : List TraceSpan

abbrev Traces := AList fun _ : String ↦ Trace

def maxSpansPerTrace : ℕ := 500

def Trace.new (correlationId : String) (timestamp : DateTime) : Trace :=
  ⟨correlationId, timestamp, timestamp, 0, 0, []⟩

/-- How payloads and times are read; an event without a readable time gets the current one. -/
structure TraceEnv where
  json : SerdeJson
  parseDateTime : String → Option DateTime

def startsWith (start text : String) : Bool := start.toList <+: text.toList

/-- Subjects the collector skips. -/
def isInternal (subject : String) : Bool := startsWith "trace." subject || startsWith "_INBOX" subject

def textField (envelope : Value) (field : String) : Option String := (envelope.get field).bind Value.asStr

/-- The event and the correlation it belongs to, unless it is skipped. -/
def TraceEnv.traced (env : TraceEnv) (subject : String) (payload : Payload) : Option (Value × String) :=
  if isInternal subject then none
  else do
    let envelope ← env.json.fromSlice payload
    let correlationId ← textField envelope "correlation_id"
    return (envelope, correlationId)

def TraceEnv.payloadText (env : TraceEnv) (envelope : Value) : Option String :=
  (envelope.get "payload").map env.json.toString

/-- Drop the trace whose last event is the oldest if there are too many. -/
def evict (maxTraces : ℕ) (traces : Traces) : Traces :=
  if maxTraces < traces.keys.length then
    -- the order is named, so that the definition can be run whatever else is imported
    match @List.argmin _ ℤ Int.instLinearOrder.toPreorder Int.decLt
      (fun entry ↦ entry.2.lastEventAt.nanos) traces.entries with
    | some oldest => traces.erase oldest.1
    | none => traces
  else traces

/-- The preview of an event's payload, if it can be cut. -/
def TraceEnv.preview (env : TraceEnv) (envelope : Value) : Option String :=
  match env.payloadText envelope with
  | some text => payloadPreview 500 text
  | none => some ""

def TraceEnv.timestamp (env : TraceEnv) (now : DateTime) (envelope : Value) : DateTime :=
  ((textField envelope "timestamp").bind env.parseDateTime).getD now

/-- The trace of a correlation, a new one if there is none. -/
def entryOr (traces : Traces) (correlationId : String) (timestamp : DateTime) : Trace :=
  (traces.lookup correlationId).getD (.new correlationId timestamp)

/-- Add a span to its trace.  A full trace only counts it; a trace that is not full may be new. -/
def addSpan (maxTraces : ℕ) (traces : Traces) (correlationId : String) (span : TraceSpan) : Traces :=
  let trace := entryOr traces correlationId span.timestamp
  if maxSpansPerTrace ≤ trace.spans.length then
    traces.insert correlationId { trace with
      lastEventAt := span.timestamp
      durationMs := span.offsetMs
      spanCount := trace.spanCount + 1 }
  else
    let spans := trace.spans ++ [span]
    evict maxTraces (traces.insert correlationId { trace with
      lastEventAt := span.timestamp
      durationMs := span.offsetMs
      spanCount := spans.length
      spans := spans })

/-- Handle one event of the bus; without a result the task has panicked. -/
def TraceEnv.collect (env : TraceEnv) (maxTraces : ℕ) (traces : Traces) (now : DateTime)
    (subject : String) (payload : Payload) : Option Traces :=
  match env.traced subject payload with
  | none => some traces
  | some (envelope, correlationId) => do
      let preview ← env.preview envelope
      let timestamp := env.timestamp now envelope
      let elapsed ← timestamp.since (entryOr traces correlationId timestamp).startedAt
      return addSpan maxTraces traces correlationId {
        eventId := (textField envelope "id").getD "unknown"
        subject := subject
        source := (textField envelope "source").getD "unknown"
        eventType := (textField envelope "event_type").getD "unknown"
        timestamp := timestamp
        offsetMs := numMilliseconds elapsed
        payloadPreview := preview }

/-- Drop the traces without an event in the last 30 minutes. -/
def compact (now : DateTime) (traces : Traces) : Traces where
  entries := traces.entries.filter fun entry ↦
    now.nanos - 30 * 60 * 10 ^ 9 < entry.2.lastEventAt.nanos
  nodupKeys := traces.nodupKeys.sublist List.filter_sublist

structure TraceGetRequest where
  correlationId : String
  authSource : Option String

structure TraceListRequest where
  limit : Option ℕ
  since : Option DateTime
  authSource : Option String

structure TraceSummary where
  correlationId : String
  startedAt : DateTime
  durationMs : ℤ
  spanCount : ℕ
  triggerSubject : String
  lastSubject : String

/-- Trusted sources allowed to query traces. -/
def trustedSources : List String := ["api-gateway", "kernel", "seidrum-cli", "dashboard"]

def isAuthorized (authSource : Option String) : Bool := authSource.any (· ∈ trustedSources)

def Trace.summary (trace : Trace) : TraceSummary where
  correlationId := trace.correlationId
  startedAt := trace.startedAt
  durationMs := trace.durationMs
  spanCount := trace.spanCount
  triggerSubject := (trace.spans.head?.map TraceSpan.subject).getD ""
  lastSubject := (trace.spans.getLast?.map TraceSpan.subject).getD ""

/-- `none` is the answer to a request that is not authorized. -/
def getTrace (traces : Traces) (req : TraceGetRequest) : Option (Option Trace) :=
  if isAuthorized req.authSource then some (traces.lookup req.correlationId) else none

/-- A request that cannot be read is one without a source. -/
def listTraces (traces : Traces) (req : Option TraceListRequest) : List TraceSummary :=
  let req := req.getD ⟨some 50, none, none⟩
  if isAuthorized req.authSource then
    let started := (traces.entries.map fun entry ↦ entry.2).filter fun trace ↦
      req.since.all fun since ↦ since.nanos ≤ trace.startedAt.nanos
    (sortByKey (fun summary ↦ OrderDual.toDual summary.startedAt.nanos)
      (started.map Trace.summary)).take (req.limit.getD 50)
  else []

inductive TraceInput
  | event (now : DateTime) (subject : String) (payload : Payload)
  | compact (now : DateTime)
  | get (req : TraceGetRequest)
  | list (req : Option TraceListRequest)

inductive TraceReply
  | trace (trace : Option Trace)
  | unauthorized
  | traces (traces : List TraceSummary)

/-- Handle one input; without a result the task has panicked. -/
def TraceEnv.handle (env : TraceEnv) (maxTraces : ℕ) (traces : Traces) :
    TraceInput → Option (Traces × Option TraceReply)
  | .event now subject payload => (env.collect maxTraces traces now subject payload).map (·, none)
  | .compact now => some (compact now traces, none)
  | .get req =>
      let reply := match getTrace traces req with
        | some trace => TraceReply.trace trace
        | none => .unauthorized
      some (traces, some reply)
  | .list req => some (traces, some (.traces (listTraces traces req)))

/-- The traces after some inputs. -/
def TraceEnv.run (env : TraceEnv) (maxTraces : ℕ) (inputs : List TraceInput) : Option Traces :=
  inputs.foldlM (fun traces input ↦ (env.handle maxTraces traces input).map Prod.fst) ∅

/-- At most `maxTraces` traces, each with a bounded number of spans. -/
structure Bounded (maxTraces : ℕ) (traces : Traces) : Prop where
  count : traces.keys.length ≤ maxTraces
  spans : ∀ correlationId, ∀ trace ∈ traces.lookup correlationId, trace.spans.length ≤ maxSpansPerTrace

/-- The task handles all inputs, and keeps the traces bounded after each of them. -/
def TraceEnv.Survives (env : TraceEnv) (maxTraces : ℕ) (inputs : List TraceInput) : Prop :=
  ∀ before, before <+: inputs → ∃ traces, env.run maxTraces before = some traces ∧
    Bounded maxTraces traces

/-- The payload of an event the collector keeps can be cut for the preview. -/
def TraceEnv.Previews (env : TraceEnv) : TraceInput → Prop
  | .event _ subject payload => ∀ event ∈ env.traced subject payload,
      ∀ text ∈ env.payloadText event.1, CutsWell 500 text
  | _ => True

/-! ## Bounds -/

section

variable {env : TraceEnv} {maxTraces : ℕ} {traces next : Traces}

theorem length_keys_insert_le (traces : Traces) (correlationId : String) (trace : Trace) :
    (traces.insert correlationId trace).keys.length ≤ traces.keys.length + 1 := by
  rw [AList.keys_insert, List.length_cons]
  exact Nat.succ_le_succ (List.length_erase_le ..)

variable {correlationId : String} {trace : Trace} {now : DateTime} {subject : String} {payload : Payload}
  {input : TraceInput} {inputs : List TraceInput}

theorem length_keys_insert_of_mem (h : correlationId ∈ traces) (trace : Trace) :
    (traces.insert correlationId trace).keys.length = traces.keys.length := by
  have hmem : correlationId ∈ traces.keys := h
  have hpos : 0 < traces.keys.length := List.length_pos_of_mem hmem
  rw [AList.keys_insert, List.length_cons, List.length_erase_of_mem hmem]
  omega

theorem length_keys_evict (h : traces.keys.length ≤ maxTraces + 1) :
    (evict maxTraces traces).keys.length ≤ maxTraces := by
  unfold evict
  split_ifs with hfull
  · split
    · rename_i oldest holdest
      have hmem : oldest.1 ∈ traces.keys := List.mem_map_of_mem (List.argmin_mem holdest)
      rw [AList.keys_erase, List.length_erase_of_mem hmem]
      omega
    · rename_i hnone
      have hempty : traces.entries = [] := List.argmin_eq_none.mp hnone
      have hkeys : traces.keys.length = traces.entries.length := List.length_map _
      rw [hkeys, hempty]
      exact Nat.zero_le maxTraces
  · exact Nat.not_lt.mp hfull

theorem lookup_of_lookup_evict (h : (evict maxTraces traces).lookup correlationId = some trace) :
    traces.lookup correlationId = some trace := by
  unfold evict at h
  split_ifs at h
  · split at h
    · rename_i oldest _
      by_cases hother : correlationId = oldest.1
      · rw [hother, AList.lookup_erase] at h
        cases h
      · rwa [AList.lookup_erase_ne hother] at h
    · exact h
  · exact h

theorem lookup_of_lookup_compact (h : (compact now traces).lookup correlationId = some trace) :
    traces.lookup correlationId = some trace :=
  AList.mem_lookup_iff.mpr (List.mem_of_mem_filter (AList.mem_lookup_iff.mp h))

theorem Bounded.insert (h : Bounded maxTraces traces) (hspans : trace.spans.length ≤ maxSpansPerTrace)
    {other : String} {found : Trace}
    (hfound : (traces.insert correlationId trace).lookup other = some found) :
    found.spans.length ≤ maxSpansPerTrace := by
  by_cases hother : other = correlationId
  · rw [hother, AList.lookup_insert] at hfound
    exact Option.some.inj hfound ▸ hspans
  · rw [AList.lookup_insert_ne hother] at hfound
    exact h.spans other found hfound

theorem bounded_empty (maxTraces : ℕ) : Bounded maxTraces ∅ :=
  ⟨Nat.zero_le maxTraces, fun _ _ h ↦ by cases h⟩

theorem Bounded.compact (h : Bounded maxTraces traces) (now : DateTime) :
    Bounded maxTraces (compact now traces) := by
  constructor
  · have hsub : (Kernel.compact now traces).keys.Sublist traces.keys := List.filter_sublist.map _
    exact hsub.length_le.trans h.count
  · exact fun other found hfound ↦ h.spans other found (lookup_of_lookup_compact hfound)

theorem Bounded.entryOr (h : Bounded maxTraces traces) (correlationId : String) (timestamp : DateTime) :
    (entryOr traces correlationId timestamp).spans.length ≤ maxSpansPerTrace := by
  unfold Kernel.entryOr
  cases hfound : traces.lookup correlationId with
  | none => exact Nat.zero_le _
  | some trace => exact h.spans correlationId trace hfound

theorem mem_of_full {timestamp : DateTime}
    (hfull : maxSpansPerTrace ≤ (entryOr traces correlationId timestamp).spans.length) :
    correlationId ∈ traces := by
  by_contra hnew
  have hnone : traces.lookup correlationId = none := AList.lookup_eq_none.mpr hnew
  rw [entryOr, hnone] at hfull
  exact absurd hfull (by simp [Trace.new, maxSpansPerTrace])

theorem Bounded.addSpan (h : Bounded maxTraces traces) (correlationId : String) (span : TraceSpan) :
    Bounded maxTraces (addSpan maxTraces traces correlationId span) := by
  unfold Kernel.addSpan
  dsimp only
  split_ifs with hfull
  · constructor
    · rw [length_keys_insert_of_mem (mem_of_full hfull)]
      exact h.count
    · intro other found hfound
      refine h.insert ?_ hfound
      exact h.entryOr correlationId span.timestamp
  · constructor
    · apply length_keys_evict
      exact (length_keys_insert_le ..).trans (Nat.succ_le_succ h.count)
    · intro other found hfound
      refine h.insert ?_ (lookup_of_lookup_evict hfound)
      rw [List.length_append, List.length_singleton]
      exact Nat.not_le.mp hfull

theorem isSome_preview_iff {envelope : Value} :
    (env.preview envelope).isSome ↔ ∀ text ∈ env.payloadText envelope, CutsWell 500 text := by
  unfold TraceEnv.preview
  cases env.payloadText envelope with
  | none => simp
  | some text => simpa using isSome_payloadPreview_iff

/-- An event is handled exactly if its payload can be cut, and the traces stay bounded. -/
theorem isSome_collect_iff :
    (env.collect maxTraces traces now subject payload).isSome ↔
      env.Previews (.event now subject payload) := by
  change (env.collect maxTraces traces now subject payload).isSome ↔
    ∀ event ∈ env.traced subject payload, ∀ text ∈ env.payloadText event.1, CutsWell 500 text
  unfold TraceEnv.collect
  cases env.traced subject payload with
  | none => simp
  | some event =>
    obtain ⟨envelope, correlationId⟩ := event
    have hpreviews : (∀ event ∈ some (envelope, correlationId), ∀ text ∈ env.payloadText event.1,
        CutsWell 500 text) ↔ (env.preview envelope).isSome := by
      rw [isSome_preview_iff]
      exact ⟨fun h ↦ h _ rfl, fun h event hevent ↦ Option.some.inj hevent ▸ h⟩
    rw [hpreviews]
    cases hpreview : env.preview envelope with
    | none => simp [hpreview]
    | some preview => simp [hpreview, DateTime.since_eq]

theorem bounded_collect (h : Bounded maxTraces traces)
    (hcollect : env.collect maxTraces traces now subject payload = some next) : Bounded maxTraces next := by
  unfold TraceEnv.collect at hcollect
  split at hcollect
  · cases hcollect
    exact h
  · obtain ⟨preview, -, hcollect⟩ := Option.bind_eq_some_iff.mp hcollect
    obtain ⟨elapsed, -, hcollect⟩ := Option.bind_eq_some_iff.mp hcollect
    cases hcollect
    exact h.addSpan _ _

theorem isSome_handle_iff : (env.handle maxTraces traces input).isSome ↔ env.Previews input := by
  cases input with
  | event now subject payload => rw [TraceEnv.handle, Option.isSome_map, isSome_collect_iff]
  | compact now | get req | list req => exact iff_of_true rfl trivial

theorem bounded_handle (h : Bounded maxTraces traces) {reply : Option TraceReply}
    (hhandle : env.handle maxTraces traces input = some (next, reply)) : Bounded maxTraces next := by
  cases input with
  | event now subject payload =>
    obtain ⟨collected, hcollect, heq⟩ := Option.map_eq_some_iff.mp hhandle
    obtain ⟨rfl, -⟩ := Prod.mk.inj heq
    exact bounded_collect h hcollect
  | compact now =>
    obtain ⟨rfl, -⟩ := Prod.mk.inj (Option.some.inj hhandle)
    exact h.compact now
  | get req | list req =>
    obtain ⟨rfl, -⟩ := Prod.mk.inj (Option.some.inj hhandle)
    exact h

theorem run_concat (env : TraceEnv) (maxTraces : ℕ) (inputs : List TraceInput) (input : TraceInput) :
    env.run maxTraces (inputs ++ [input]) =
      (env.run maxTraces inputs).bind fun traces ↦
        (env.handle maxTraces traces input).map Prod.fst := by
  simp [TraceEnv.run, List.foldlM_append]

/-- Inputs whose payloads can be cut are all handled, with bounded traces. -/
theorem bounded_run (hpreviews : ∀ input ∈ inputs, env.Previews input) :
    ∃ traces, env.run maxTraces inputs = some traces ∧ Bounded maxTraces traces := by
  induction inputs using List.reverseRecOn with
  | nil => exact ⟨∅, rfl, bounded_empty maxTraces⟩
  | append_singleton inputs input ih =>
    obtain ⟨traces, hrun, hbounded⟩ := ih fun earlier hearlier ↦
      hpreviews earlier (List.mem_append_left _ hearlier)
    have hinput := hpreviews input (List.mem_append_right _ (List.mem_singleton.mpr rfl))
    have hhandled : (env.handle maxTraces traces input).isSome := isSome_handle_iff.mpr hinput
    obtain ⟨⟨next, reply⟩, hhandle⟩ := Option.isSome_iff_exists.mp hhandled
    exact ⟨next, by rw [run_concat, hrun, Option.bind_some, hhandle]; rfl, bounded_handle hbounded hhandle⟩

/-- The collector handles all its inputs within its bounds exactly if every payload can be cut. -/
theorem survives_iff : env.Survives maxTraces inputs ↔ ∀ input ∈ inputs, env.Previews input := by
  constructor
  · intro hsurvives input hmem
    obtain ⟨before, after, rfl⟩ := List.append_of_mem hmem
    obtain ⟨traces, hrun, -⟩ := hsurvives (before ++ [input]) ⟨after, by simp⟩
    rw [run_concat] at hrun
    obtain ⟨earlier, -, hnext⟩ := Option.bind_eq_some_iff.mp hrun
    obtain ⟨result, hhandle, -⟩ := Option.map_eq_some_iff.mp hnext
    exact isSome_handle_iff.mp (Option.isSome_iff_exists.mpr ⟨result, hhandle⟩)
  · intro hpreviews before hbefore
    exact bounded_run fun input hmem ↦ hpreviews input (hbefore.subset hmem)

end

end Seidrum.Kernel
