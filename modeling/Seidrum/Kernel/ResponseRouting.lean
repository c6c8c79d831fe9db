import Seidrum.Foundation.Positions
import Seidrum.Foundation.Transition
import Seidrum.Plugins.ResponseFormatter

/-!
# Responses on their way back

A trigger task keeps the origin of its event under the event's correlation id.  Two subscribers take
every response of a model: the response formatter publishes it on the channel of its own origin, or on
one guessed from its correlation id; the orchestrator looks up the kept origin of a response that has
none of its own, forgets it and publishes the response itself on the origin's channel.
-/

namespace Seidrum.Kernel

open EventBus (Value)
open Foundation Plugins

abbrev Origins := AList fun _ : String ↦ EventOrigin

/-- The key under which the origin of an event is kept. -/
def EventEnvelope.routingKey (envelope : EventEnvelope) : String :=
  envelope.correlationId.getD envelope.id

/-- A response published as it is, with the origin put in. -/
structure EnrichedResponse where
  subject : String
  envelope : EventEnvelope

def routeResponse (origins : Origins) (envelope : EventEnvelope) : Origins × Option EnrichedResponse :=
  match envelope.origin with
  | some _ => (origins, none)
  | none =>
      let found := origins.lookup envelope.routingKey
      let origins := origins.erase envelope.routingKey
      (origins, found.map fun origin ↦
        { subject := outboundSubject origin.platform
          envelope := { envelope with origin := some origin } })

inductive ResponseOutput
  | formatted (response : FormattedResponse)
  | enriched (response : EnrichedResponse)

/-- The response is published for a channel, as a message to the chat of an origin. -/
def ResponseOutput.Reaches (origin : EventOrigin) : ResponseOutput → Prop
  | formatted response =>
      response.subject = outboundSubject origin.platform ∧
        response.outbound.platform = origin.platform ∧ response.outbound.chatId = origin.chatId
  | enriched _ => False

/-- The number of a response that the formatter published. -/
def formattedId : ℕ × ResponseOutput → Option ℕ
  | (n, .formatted _) => some n
  | (_, .enriched _) => none

/-- The kept origins, the responses each subscriber has still to take, what both have published and
the history: the triggers, the keys of the copies forwarded, the responses and the keys routed. -/
structure Routing where
  origins : Origins
  toRoute : List (ℕ × EventEnvelope)
  toFormat : List (ℕ × EventEnvelope)
  outputs : List (ℕ × ResponseOutput)
  triggers : List (String × EventOrigin)
  forwarded : List String
  responses : List EventEnvelope
  routed : List String

inductive RoutingLabel (Bytes : Type)
  /-- A trigger task handles an event that has an origin. -/
  | trigger (subject : String) (payload : Bytes)
  /-- A response with text, for a trigger's key. -/
  | respond (envelope : EventEnvelope)
  | route (i : ℕ)
  | format (i : ℕ)

structure RoutingEnv (Bytes : Type) (agents : AgentDefinitions) where
  codec : TriggerCodec Bytes
  responseFromValue : Value → Option LlmResponse
  workflows : List (LoadedWorkflow agents)

namespace Routing

variable {Bytes : Type} {agents : AgentDefinitions}

def start : Routing := ⟨∅, [], [], [], [], [], [], []⟩

/-- The text of a response that has some. -/
def CarriesText (fromValue : Value → Option LlmResponse) (envelope : EventEnvelope) : Prop :=
  ∃ response ∈ fromValue envelope.payload, response.content.getD "" ≠ ""

instance (fromValue : Value → Option LlmResponse) (envelope : EventEnvelope) :
    Decidable (CarriesText fromValue envelope) := by
  unfold CarriesText
  infer_instance

def step (env : RoutingEnv Bytes agents) : Steps Routing (RoutingLabel Bytes)
  | state, .trigger subject payload =>
      if triggeredBy env.workflows subject = [] then none
      else
        match triggered env.codec env.workflows subject payload with
        | (none, _) => none
        | (some (key, origin), copies) =>
            some { state with
              origins := state.origins.insert key origin
              triggers := state.triggers ++ [(key, origin)]
              forwarded := state.forwarded ++ copies.map fun _ ↦ key }
  | state, .respond envelope =>
      if CarriesText env.responseFromValue envelope ∧
          envelope.routingKey ∈ state.triggers.map Prod.fst then
        some { state with
          toRoute := state.toRoute ++ [(state.responses.length, envelope)]
          toFormat := state.toFormat ++ [(state.responses.length, envelope)]
          responses := state.responses ++ [envelope] }
      else none
  | state, .route i =>
      match state.toRoute[i]? with
      | none => none
      | some (n, envelope) =>
          let (origins, output) := routeResponse state.origins envelope
          some { state with
            origins := origins
            toRoute := state.toRoute.eraseIdx i
            outputs := state.outputs ++ (output.map fun response ↦ (n, .enriched response)).toList
            routed := state.routed ++ [envelope.routingKey] }
  | state, .format i =>
      match state.toFormat[i]? with
      | none => none
      | some (n, envelope) =>
          let output := handleLlmResponse env.responseFromValue envelope
          some { state with
            toFormat := state.toFormat.eraseIdx i
            outputs := state.outputs ++ (output.map fun response ↦ (n, .formatted response)).toList }

/-- Every response reaches the channel of its trigger once, and an origin is kept only while answers
for its trigger are missing. -/
structure Delivered (state : Routing) : Prop where
  addressed : ∀ entry ∈ state.outputs, ∃ envelope ∈ state.responses[entry.1]?,
    ∃ trigger ∈ state.triggers, trigger.1 = envelope.routingKey ∧ entry.2.Reaches trigger.2
  once : (state.outputs.map Prod.fst).Nodup
  answered : ∀ n < state.responses.length, n ∉ state.toRoute.map Prod.fst →
    n ∉ state.toFormat.map Prod.fst → n ∈ state.outputs.map Prod.fst
  released : ∀ key ∈ state.origins, state.routed.count key < state.forwarded.count key

/-- Every response has the origin of its trigger, and every trigger waits for answers. -/
@[mk_iff]
structure Attributed (state : Routing) : Prop where
  origin : ∀ envelope ∈ state.responses, ∃ own ∈ envelope.origin, ∃ trigger ∈ state.triggers,
    trigger.1 = envelope.routingKey ∧ own.platform = trigger.2.platform ∧
      own.chatId = trigger.2.chatId
  awaited : ∀ trigger ∈ state.triggers,
    (state.responses.map (·.routingKey)).count trigger.1 < state.forwarded.count trigger.1

/-! ## What holds in every run -/

/-- A response was published with an origin put in. -/
def HasEnriched (outputs : List (ℕ × ResponseOutput)) : Prop :=
  ∃ n response, (n, .enriched response) ∈ outputs

theorem HasEnriched.append {outputs : List (ℕ × ResponseOutput)} (h : HasEnriched outputs)
    (more : List (ℕ × ResponseOutput)) : HasEnriched (outputs ++ more) := by
  obtain ⟨n, response, hmem⟩ := h
  exact ⟨n, response, List.mem_append_left more hmem⟩

structure Sound (fromValue : Value → Option LlmResponse) (state : Routing) : Prop where
  formatted : ∀ n response, (n, .formatted response) ∈ state.outputs →
    ∃ envelope ∈ state.responses[n]?,
      response.subject = outboundSubject (extractChannelHint envelope).platform ∧
        response.outbound.platform = (extractChannelHint envelope).platform ∧
        response.outbound.chatId = (extractChannelHint envelope).chatId
  formattedOnce : ∀ n, (state.outputs.filterMap formattedId).count n +
    (state.toFormat.map Prod.fst).count n = if n < state.responses.length then 1 else 0
  enriched : ∀ n response, (n, .enriched response) ∈ state.outputs →
    ∃ envelope ∈ state.responses[n]?, envelope.origin = none
  kept : ∀ trigger ∈ state.triggers, trigger.1 ∈ state.origins ∨ HasEnriched state.outputs
  handled : ∀ n, ∀ envelope ∈ state.responses[n]?, envelope.origin = none →
    (n, envelope) ∈ state.toRoute ∨ HasEnriched state.outputs
  keyed : ∀ envelope ∈ state.responses, envelope.routingKey ∈ state.triggers.map Prod.fst
  toRoute : ∀ entry ∈ state.toRoute, state.responses[entry.1]? = some entry.2
  toFormat : ∀ entry ∈ state.toFormat,
    state.responses[entry.1]? = some entry.2 ∧ CarriesText fromValue entry.2
  counted : ∀ key, (state.toRoute.map (·.2.routingKey)).count key + state.routed.count key =
    (state.responses.map (·.routingKey)).count key
  stored : ∀ key ∈ state.origins, key ∈ state.triggers.map Prod.fst

section Steps

variable {env : RoutingEnv Bytes agents} {state next : Routing}

theorem sound_start (fromValue : Value → Option LlmResponse) : Sound fromValue start where
  formatted _ _ hmem := absurd hmem List.not_mem_nil
  formattedOnce _ := rfl
  enriched _ _ hmem := absurd hmem List.not_mem_nil
  kept _ hmem := absurd hmem List.not_mem_nil
  handled _ _ hmem := by cases hmem
  keyed _ hmem := absurd hmem List.not_mem_nil
  toRoute _ hmem := absurd hmem List.not_mem_nil
  toFormat _ hmem := absurd hmem List.not_mem_nil
  counted _ := rfl
  stored _ hmem := absurd hmem (AList.notMem_empty _)

theorem Sound.trigger (h : Sound env.responseFromValue state) {subject : String} {payload : Bytes}
    (hstep : step env state (.trigger subject payload) = some next) :
    Sound env.responseFromValue next := by
  simp only [step] at hstep
  split_ifs at hstep
  split at hstep
  · cases hstep
  · rename_i key origin copies _
    cases hstep
    refine { h with kept := ?_, keyed := ?_, stored := ?_ }
    · intro trigger hmem
      obtain hold | rfl := mem_of_concat hmem
      · rcases h.kept trigger hold with hkept | henriched
        · exact .inl ((AList.mem_insert _).mpr (.inr hkept))
        · exact .inr henriched
      · exact .inl ((AList.mem_insert _).mpr (.inl rfl))
    · intro envelope hmem
      rw [List.map_append]
      exact List.mem_append_left _ (h.keyed envelope hmem)
    · intro other hmem
      rw [List.map_append]
      rcases (AList.mem_insert _).mp hmem with rfl | hold
      · exact List.mem_concat_self
      · exact List.mem_append_left _ (h.stored other hold)

theorem Sound.respond (h : Sound env.responseFromValue state) {envelope : EventEnvelope}
    (hstep : step env state (.respond envelope) = some next) : Sound env.responseFromValue next := by
  simp only [step] at hstep
  split_ifs at hstep with hkeyed
  cases hstep
  have hat : ∀ {n : ℕ} {other : EventEnvelope}, state.responses[n]? = some other →
      (state.responses ++ [envelope])[n]? = some other := fun hold ↦ at_concat hold envelope
  have hlast : (state.responses ++ [envelope])[state.responses.length]? = some envelope := by simp
  refine { h with
    formatted := ?_, formattedOnce := ?_, enriched := ?_, handled := ?_, keyed := ?_
    toRoute := ?_, toFormat := ?_, counted := ?_ }
  · intro n response hmem
    obtain ⟨other, hother, hhint⟩ := h.formatted n response hmem
    exact ⟨other, hat hother, hhint⟩
  · intro n
    have honce := h.formattedOnce n
    simp only [List.map_append, List.map_cons, List.map_nil, List.count_append, List.count_cons,
      List.count_nil, List.length_append, List.length_cons, List.length_nil, beq_iff_eq] at honce ⊢
    split_ifs at honce ⊢ <;> omega
  · intro n response hmem
    obtain ⟨other, hother, hnone⟩ := h.enriched n response hmem
    exact ⟨other, hat hother, hnone⟩
  · intro n other hother hnone
    rcases at_of_concat hother with hold | ⟨rfl, rfl⟩
    · rcases h.handled n other hold hnone with hpending | henriched
      · exact .inl (List.mem_append_left _ hpending)
      · exact .inr henriched
    · exact .inl (List.mem_concat_self)
  · intro other hmem
    obtain hold | rfl := mem_of_concat hmem
    · exact h.keyed other hold
    · exact hkeyed.2
  · intro entry hmem
    obtain hold | rfl := mem_of_concat hmem
    · exact hat (h.toRoute entry hold)
    · exact hlast
  · intro entry hmem
    obtain hold | rfl := mem_of_concat hmem
    · exact ⟨hat (h.toFormat entry hold).1, (h.toFormat entry hold).2⟩
    · exact ⟨hlast, hkeyed.1⟩
  · intro key
    have hcounted := h.counted key
    simp only [List.map_append, List.map_cons, List.map_nil, List.count_append] at hcounted ⊢
    omega

/-- A response without an origin is published by the orchestrator, unless its key was forgotten
before. -/
theorem routeResponse_cases (origins : Origins) (envelope : EventEnvelope) :
    (routeResponse origins envelope = (origins, none) ∧
        (envelope.origin ≠ none ∨ envelope.routingKey ∉ origins)) ∨
      envelope.origin = none ∧ ∃ response,
        routeResponse origins envelope = (origins.erase envelope.routingKey, some response) := by
  unfold routeResponse
  cases horigin : envelope.origin with
  | some own => exact .inl ⟨rfl, .inl (by simp)⟩
  | none =>
    cases hfound : origins.lookup envelope.routingKey with
    | none =>
      have habsent : envelope.routingKey ∉ origins := AList.lookup_eq_none.mp hfound
      have herase : origins.erase envelope.routingKey = origins := by
        apply AList.ext
        exact List.kerase_of_notMem_keys habsent
      exact .inl ⟨by simp [herase], .inr habsent⟩
    | some origin => exact .inr ⟨rfl, _, rfl⟩

variable {i : ℕ} {outputs : List (ℕ × ResponseOutput)} {fromValue : Value → Option LlmResponse}

theorem Sound.route (h : Sound env.responseFromValue state) (hstep : step env state (.route i) = some next) :
    Sound env.responseFromValue next := by
  simp only [step] at hstep
  split at hstep
  · cases hstep
  · rename_i n envelope hat
    have hresponse := h.toRoute _ (List.mem_of_getElem? hat)
    have hrest : ∀ entry ∈ state.toRoute.eraseIdx i, entry ∈ state.toRoute := fun entry hmem ↦
      List.mem_of_mem_eraseIdx hmem
    have hcounted : ∀ key, ((state.toRoute.eraseIdx i).map (·.2.routingKey)).count key +
        (state.routed ++ [envelope.routingKey]).count key =
          (state.responses.map (·.routingKey)).count key := by
      intro key
      have hkeys := count_map_eraseIdx key (fun entry : ℕ × EventEnvelope ↦ entry.2.routingKey) hat
      have hbefore := h.counted key
      simp only [List.count_append, List.count_cons, List.count_nil] at hkeys hbefore ⊢
      omega
    rcases routeResponse_cases state.origins envelope with ⟨heq, hskip⟩ | ⟨hnone, response, heq⟩
    · rw [heq] at hstep
      obtain rfl := Option.some.inj hstep
      simp only [Option.map_none, Option.toList_none, List.append_nil]
      refine { h with handled := ?_, toRoute := ?_, counted := hcounted }
      · intro m other hother horigin
        rcases h.handled m other hother horigin with hpending | henriched
        · by_cases hsame : (m, other) = (n, envelope)
          · obtain ⟨rfl, rfl⟩ := Prod.mk.inj hsame
            -- the key was forgotten, so another response had been published for it
            have habsent := hskip.resolve_left (not_not.mpr horigin)
            have hkeyed := h.keyed other (List.mem_of_getElem? hother)
            obtain ⟨trigger, htrigger, hkey⟩ := List.mem_map.mp hkeyed
            rcases h.kept trigger htrigger with hkept | henriched
            · exact absurd (hkey ▸ hkept) habsent
            · exact .inr henriched
          · exact .inl (mem_eraseIdx_of_ne hat hpending hsame)
        · exact .inr henriched
      · exact fun entry hmem ↦ h.toRoute entry (hrest entry hmem)
    · rw [heq] at hstep
      obtain rfl := Option.some.inj hstep
      have hnew : HasEnriched (state.outputs ++ [(n, .enriched response)]) :=
        ⟨n, response, List.mem_concat_self⟩
      simp only [Option.map_some, Option.toList_some]
      refine { h with
        formatted := ?_, formattedOnce := ?_, enriched := ?_, kept := fun _ _ ↦ .inr hnew
        handled := fun _ _ _ _ ↦ .inr hnew, toRoute := ?_, counted := hcounted, stored := ?_ }
      · intro m other hmem
        rcases List.mem_append.mp hmem with hold | hlast
        · exact h.formatted m other hold
        · cases List.mem_singleton.mp hlast
      · intro m
        have honce := h.formattedOnce m
        rwa [List.filterMap_append, List.filterMap_cons, formattedId, List.filterMap_nil,
          List.append_nil]
      · intro m other hmem
        rcases List.mem_append.mp hmem with hold | hlast
        · exact h.enriched m other hold
        · obtain ⟨rfl, -⟩ := Prod.mk.inj (List.mem_singleton.mp hlast)
          exact ⟨envelope, hresponse, hnone⟩
      · exact fun entry hmem ↦ h.toRoute entry (hrest entry hmem)
      · intro key hmem
        exact h.stored key (AList.mem_erase.mp hmem).2

theorem Sound.format (h : Sound env.responseFromValue state) (hstep : step env state (.format i) = some next) :
    Sound env.responseFromValue next := by
  simp only [step] at hstep
  split at hstep
  · cases hstep
  · rename_i n envelope hat
    obtain ⟨hresponse, response, hparse, htext⟩ := h.toFormat _ (List.mem_of_getElem? hat)
    obtain ⟨formatted, hhandled, hhint⟩ := handleLlmResponse_text hparse htext
    rw [hhandled] at hstep
    cases hstep
    simp only [Option.map_some, Option.toList_some]
    refine { h with
      formatted := ?_, formattedOnce := ?_, enriched := ?_
      kept := fun trigger hmem ↦ (h.kept trigger hmem).imp_right fun found ↦ found.append _
      handled := fun m other hother hnone ↦
        (h.handled m other hother hnone).imp_right fun found ↦ found.append _
      toFormat := fun entry hmem ↦ h.toFormat entry (List.mem_of_mem_eraseIdx hmem) }
    · intro m other hmem
      rcases List.mem_append.mp hmem with hold | hlast
      · exact h.formatted m other hold
      · obtain ⟨rfl, hother⟩ := Prod.mk.inj (List.mem_singleton.mp hlast)
        obtain rfl := ResponseOutput.formatted.inj hother
        exact ⟨envelope, hresponse, hhint⟩
    · intro m
      have hids := count_map_eraseIdx m (Prod.fst : ℕ × EventEnvelope → ℕ) hat
      have honce := h.formattedOnce m
      rw [List.filterMap_append]
      simp only [List.count_append, List.filterMap_cons, List.filterMap_nil, formattedId,
        List.count_cons, List.count_nil] at hids ⊢
      omega
    · intro m other hmem
      rcases List.mem_append.mp hmem with hold | hlast
      · exact h.enriched m other hold
      · cases List.mem_singleton.mp hlast

theorem sound_of_reach (hreach : Steps.Reach (step env) (fun _ _ ↦ True) start state) :
    Sound env.responseFromValue state := by
  apply hreach.invariant (sound_start _)
  intro s label s' hsound _ hstep
  cases label with
  | trigger subject payload => exact hsound.trigger hstep
  | respond envelope => exact hsound.respond hstep
  | route i => exact hsound.route hstep
  | format i => exact hsound.format hstep

theorem mem_formattedIds {n : ℕ} :
    n ∈ outputs.filterMap formattedId ↔ ∃ response, (n, .formatted response) ∈ outputs := by
  rw [List.mem_filterMap]
  constructor
  · rintro ⟨⟨m, output⟩, hmem, hid⟩
    cases output with
    | formatted response =>
      cases hid
      exact ⟨response, hmem⟩
    | enriched response => cases hid
  · rintro ⟨response, hmem⟩
    exact ⟨_, hmem, rfl⟩

theorem formattedIds_eq (h : ¬HasEnriched outputs) :
    outputs.filterMap formattedId = outputs.map Prod.fst := by
  rw [← List.filterMap_eq_map]
  apply List.filterMap_congr
  rintro ⟨n, output⟩ hmem
  cases output with
  | formatted response => rfl
  | enriched response => exact absurd ⟨n, response, hmem⟩ h

theorem Delivered.not_enriched (h : Delivered state) : ¬HasEnriched state.outputs := by
  rintro ⟨n, response, hmem⟩
  obtain ⟨_, _, _, _, _, hreaches⟩ := h.addressed _ hmem
  exact hreaches

theorem Attributed.not_enriched (h : Attributed state) (hsound : Sound fromValue state) :
    ¬HasEnriched state.outputs := by
  rintro ⟨n, response, hmem⟩
  obtain ⟨envelope, hat, hnone⟩ := hsound.enriched n response hmem
  obtain ⟨own, hown, -⟩ := h.origin envelope (List.mem_of_getElem? hat)
  rw [hnone] at hown
  cases hown

theorem Attributed.delivered (h : Attributed state) (hsound : Sound fromValue state) : Delivered state := by
  have hids := formattedIds_eq (h.not_enriched hsound)
  refine ⟨?_, ?_, ?_, ?_⟩
  · rintro ⟨n, output⟩ hmem
    cases output with
    | enriched response => exact absurd ⟨n, response, hmem⟩ (h.not_enriched hsound)
    | formatted response =>
      obtain ⟨envelope, hat, hsubject, hplatform, hchat⟩ := hsound.formatted n response hmem
      obtain ⟨own, hown, trigger, htrigger, hkey, hownPlatform, hownChat⟩ :=
        h.origin envelope (List.mem_of_getElem? hat)
      have hhint : extractChannelHint envelope = ⟨trigger.2.platform, trigger.2.chatId⟩ := by
        simp only [extractChannelHint, Option.mem_def.mp hown, hownPlatform, hownChat]
      rw [hhint] at hsubject hplatform hchat
      exact ⟨envelope, hat, trigger, htrigger, hkey, hsubject, hplatform, hchat⟩
  · rw [← hids, List.nodup_iff_count_le_one]
    intro n
    have honce := hsound.formattedOnce n
    split_ifs at honce <;> omega
  · intro n hn _ hformatted
    have honce := hsound.formattedOnce n
    rw [if_pos hn, List.count_eq_zero.mpr hformatted] at honce
    rw [← hids]
    exact List.count_pos_iff.mp (by omega)
  · intro key hmem
    obtain ⟨trigger, htrigger, rfl⟩ := List.mem_map.mp (hsound.stored key hmem)
    have hcounted := hsound.counted trigger.1
    have hawaited := h.awaited trigger htrigger
    omega

/-- Once both subscribers have taken every response, delivery shows that each of them had an origin
and that answers are missing. -/
theorem Delivered.attributed (h : Delivered state) (hsound : Sound fromValue state)
    (hroute : state.toRoute = []) (hformat : state.toFormat = []) :
    Attributed state where
  origin envelope hmem := by
    obtain ⟨n, hat⟩ := List.mem_iff_getElem?.mp hmem
    have hn : n < state.responses.length := (List.getElem?_eq_some_iff.mp hat).1
    have honce := hsound.formattedOnce n
    rw [if_pos hn, hformat, List.map_nil, List.count_nil, Nat.add_zero] at honce
    have hformatted : n ∈ state.outputs.filterMap formattedId := by
      apply List.count_pos_iff.mp
      omega
    obtain ⟨response, hresponse⟩ := mem_formattedIds.mp hformatted
    obtain ⟨found, hfound, -, hplatform, hchat⟩ := hsound.formatted n response hresponse
    obtain ⟨addressed, haddressed, trigger, htrigger, hkey, -, hplatform', hchat'⟩ :=
      h.addressed _ hresponse
    obtain rfl : envelope = found := Option.some.inj (hat.symm.trans hfound)
    obtain rfl : envelope = addressed := Option.some.inj (hat.symm.trans haddressed)
    cases horigin : envelope.origin with
    | none =>
      rcases hsound.handled n envelope hat horigin with hpending | henriched
      · rw [hroute] at hpending
        exact absurd hpending List.not_mem_nil
      · exact absurd henriched h.not_enriched
    | some own =>
      have hhint : extractChannelHint envelope = ⟨own.platform, own.chatId⟩ := by
        rw [extractChannelHint, horigin]
      rw [hhint] at hplatform hchat
      exact ⟨own, rfl, trigger, htrigger, hkey, hplatform.symm.trans hplatform',
        hchat.symm.trans hchat'⟩
  awaited trigger hmem := by
    have hkept := (hsound.kept trigger hmem).resolve_right h.not_enriched
    have hreleased := h.released trigger.1 hkept
    have hcounted := hsound.counted trigger.1
    rw [hroute, List.map_nil, List.count_nil, Nat.zero_add] at hcounted
    omega

/-- In every run, responses that carry the origin of their trigger while answers are missing are
delivered, and once everything is handled only such responses have been. -/
theorem delivered_of_attributed (hreach : Steps.Reach (step env) (fun _ _ ↦ True) start state) :
    (Attributed state → Delivered state) ∧
      (state.toRoute = [] → state.toFormat = [] → Delivered state → Attributed state) := by
  have hsound := sound_of_reach hreach
  exact ⟨fun h ↦ h.delivered hsound, fun hroute hformat h ↦ h.attributed hsound hroute hformat⟩

end Steps

/-- Every response has the same text, and a workflow is named after its trigger. -/
def sampleEnv : RoutingEnv EventEnvelope ∅ where
  codec := .structural
  responseFromValue _ := some ⟨"assistant", some "hello", none, "m", "p", .zero, 0, "stop", 0⟩
  workflows := [.sample "notes" none, .sample "diary" none]

def sampleOrigin : EventOrigin := ⟨"telegram", "42", none, none⟩

def sampleEvent (id eventType : String) (correlationId : Option String) (origin : Option EventOrigin) :
    EventEnvelope :=
  ⟨id, eventType, "2025-01-01T00:00:00Z", "telegram", correlationId, none, .null, origin⟩

instance (state : Routing) : Decidable (Attributed state) := decidable_of_iff' _ (attributed_iff state)

/-- One of two workflows has answered, with the origin of the trigger. -/
theorem delivered_half_answered :
    ∃ state ∈ Steps.execute (step sampleEnv) start
      [.trigger "channel.inbound" (sampleEvent "1" "channel.inbound" none (some sampleOrigin)),
        .respond (sampleEvent "2" "llm.response" (some "1") (some sampleOrigin)),
        .route 0, .format 0],
      state.outputs.length = 1 ∧ Delivered state := by
  have hrun : ∃ state ∈ Steps.execute (step sampleEnv) start
      [.trigger "channel.inbound" (sampleEvent "1" "channel.inbound" none (some sampleOrigin)),
        .respond (sampleEvent "2" "llm.response" (some "1") (some sampleOrigin)),
        .route 0, .format 0],
      state.outputs.length = 1 ∧ Attributed state := by
    decide +kernel
  obtain ⟨state, hstate, hone, hattributed⟩ := hrun
  have hreach := Steps.reach_of_execute (Steps.guarded_of_forall (fun _ _ ↦ trivial) _ _) hstate
  exact ⟨state, hstate, hone, (delivered_of_attributed hreach).1 hattributed⟩

/-- The answer of a workflow that does not pass the origin on is published twice, and once for the
command line. -/
theorem response_published_twice :
    ∃ state, Steps.Reach (step sampleEnv) (fun _ _ ↦ True) start state ∧ ¬Delivered state := by
  have hrun : ∃ state ∈ Steps.execute (step sampleEnv) start
      [.trigger "channel.inbound" (sampleEvent "1" "channel.inbound" none (some sampleOrigin)),
        .respond (sampleEvent "2" "llm.response" (some "1") none), .route 0, .format 0],
      state.outputs.map Prod.fst = [0, 0] := by
    decide +kernel
  obtain ⟨state, hstate, htwice⟩ := hrun
  refine ⟨state, Steps.reach_of_execute (Steps.guarded_of_forall (fun _ _ ↦ trivial) _ _) hstate,
    fun hdelivered ↦ ?_⟩
  have honce := hdelivered.once
  simp [htwice] at honce

end Routing

end Seidrum.Kernel
