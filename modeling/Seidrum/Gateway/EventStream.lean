import Seidrum.Kernel.TraceCollector

/-!
# The event stream of the gateway

A stream forwards the events of the bus to a client, each with a preview of its payload that is cut as
the trace collector cuts it, only later.  So it is ended by the same kind of payload.
-/

namespace Seidrum.Gateway

open EventBus (Payload SerdeJson Value)
open Foundation Kernel

structure StreamEvent where
  subject : String
  timestamp : String
  source : Option String
  correlationId : Option String
  eventType : Option String
  payloadPreview : String
  deriving DecidableEq, Repr

/-- The event a stream forwards, unless it is skipped; what is no JSON is forwarded as null. -/
def streamed (json : SerdeJson) (correlationIdFilter : Option String) (subject : String)
    (payload : Payload) : Option Value :=
  if isInternal subject then none
  else
    let envelope := (json.fromSlice payload).getD .null
    if ∀ id ∈ correlationIdFilter, textField envelope "correlation_id" = some id then some envelope
    else none

/-- Handle one event of the bus; without a result the stream has panicked. -/
def streamEvent (json : SerdeJson) (correlationIdFilter : Option String) (subject : String)
    (payload : Payload) : Option (Option StreamEvent) :=
  match streamed json correlationIdFilter subject payload with
  | none => some none
  | some envelope => do
      let preview ← match envelope.get "payload" with
        | some payload => payloadPreview 1000 (json.toString payload)
        | none => some ""
      return some {
        subject := subject
        timestamp := (textField envelope "timestamp").getD ""
        source := textField envelope "source"
        correlationId := textField envelope "correlation_id"
        eventType := textField envelope "event_type"
        payloadPreview := preview }

/-- What a stream has forwarded after the events it received. -/
def streamEvents (json : SerdeJson) (correlationIdFilter : Option String)
    (events : List (String × Payload)) : Option (List StreamEvent) :=
  events.foldlM (fun sent event ↦
    (streamEvent json correlationIdFilter event.1 event.2).map fun forwarded ↦
      sent ++ forwarded.toList) []

/-- The payload of an event the stream forwards can be cut for the preview. -/
def Streams (json : SerdeJson) (correlationIdFilter : Option String) (event : String × Payload) : Prop :=
  ∀ envelope ∈ streamed json correlationIdFilter event.1 event.2,
    ∀ payload ∈ envelope.get "payload", CutsWell 1000 (json.toString payload)

variable {json : SerdeJson} {correlationIdFilter : Option String}

theorem isSome_streamEvent_iff {subject : String} {payload : Payload} :
    (streamEvent json correlationIdFilter subject payload).isSome ↔
      Streams json correlationIdFilter (subject, payload) := by
  unfold streamEvent Streams
  cases streamed json correlationIdFilter subject payload with
  | none => simp
  | some envelope =>
    cases hpayload : envelope.get "payload" with
    | none => simp [hpayload]
    | some value =>
      have hcut : (payloadPreview 1000 (json.toString value)).isSome ↔
          CutsWell 1000 (json.toString value) := isSome_payloadPreview_iff
      cases hpreview : payloadPreview 1000 (json.toString value) with
      | none | some preview => simpa [hpayload, hpreview] using hcut

/-- A fold of steps that may fail gets through exactly if each of them does. -/
theorem isSome_foldlM_iff {σ α : Type} {f : σ → α → Option σ} {Ok : α → Prop}
    (hstep : ∀ s a, (f s a).isSome ↔ Ok a) (s : σ) (l : List α) :
    (l.foldlM f s).isSome ↔ ∀ a ∈ l, Ok a := by
  induction l generalizing s with
  | nil => simp
  | cons first rest ih =>
    rw [List.foldlM_cons, List.forall_mem_cons, ← hstep s first]
    cases f s first with
    | none => simp
    | some next => simpa using ih next

theorem isSome_streamEvents_iff {events : List (String × Payload)} :
    (streamEvents json correlationIdFilter events).isSome ↔
      ∀ event ∈ events, Streams json correlationIdFilter event := by
  apply isSome_foldlM_iff
  intro sent event
  rw [Option.isSome_map, isSome_streamEvent_iff]

/-- The collector and a stream get through all they receive, the collector within its bounds, exactly
if no payload they preview is cut inside a character. -/
theorem collectors_survive_iff {env : TraceEnv} {maxTraces : ℕ} {inputs : List TraceInput}
    {events : List (String × Payload)} :
    env.Survives maxTraces inputs ∧ (streamEvents env.json correlationIdFilter events).isSome ↔
      (∀ input ∈ inputs, env.Previews input) ∧
        ∀ event ∈ events, Streams env.json correlationIdFilter event := by
  rw [survives_iff, isSome_streamEvents_iff]

/-- An event whose payload is a text of 498 letters and an accented one. -/
def accentedEnvelope : Value :=
  .object [("correlation_id", .string "c"),
    ("payload", .string (String.ofList (List.replicate 498 'a' ++ ['é'])))]

/-- The text of the event. -/
def accentedPayload : Payload :=
  ("\x7b\"correlation_id\":\"c\",\"payload\":\"" ++ String.ofList (List.replicate 498 'a' ++ ['é']) ++
    "\"\x7d").toUTF8.toList

/-- Reading of this text, and the JSON text of its payload. -/
def accentedEnv : TraceEnv where
  json :=
    { fromSlice := fun payload ↦ if payload = accentedPayload then some accentedEnvelope else none
      toString := fun value ↦ match value with
        | .string text => "\"" ++ text ++ "\""
        | _ => "" }
  parseDateTime := fun _ ↦ none

/-- One payload ends the collector: its byte 500 is the second one of the accented letter. -/
theorem collector_panics :
    ¬accentedEnv.Survives 1000
      [.event ⟨0, by decide, by decide⟩ "channel.telegram.inbound" accentedPayload] := by
  intro hsurvives
  have hpreviews := survives_iff.mp hsurvives _ (List.mem_singleton.mpr rfl)
  have htraced : accentedEnv.traced "channel.telegram.inbound" accentedPayload =
      some (accentedEnvelope, "c") := by
    have hread : accentedEnv.json.fromSlice accentedPayload = some accentedEnvelope := if_pos rfl
    rw [TraceEnv.traced, if_neg (by decide), hread]
    rfl
  have hcut : CutsWell 500 ("\"" ++ String.ofList (List.replicate 498 'a' ++ ['é']) ++ "\"") :=
    hpreviews (accentedEnvelope, "c") htraced _ rfl
  have htext : ("\"" ++ String.ofList (List.replicate 498 'a' ++ ['é']) ++ "\"").toList =
      ('"' :: List.replicate 498 'a') ++ 'é' :: ['"'] := by
    simp only [String.toList_append, String.toList_ofList, List.append_assoc]
    rfl
  have hbefore : byteLength ('"' :: List.replicate 498 'a') = 499 := by
    rw [byteLength_cons, byteLength_replicate]
    rfl
  rw [CutsWell, htext] at hcut
  refine hcut.elim (fun hshort ↦ ?_) (not_isBoundary_inside ?_ ?_)
  · rw [byteLength_append, hbefore] at hshort
    exact absurd hshort (by decide)
  all_goals
    rw [hbefore]
    decide

end Seidrum.Gateway
