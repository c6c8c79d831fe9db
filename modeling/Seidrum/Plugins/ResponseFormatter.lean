import Seidrum.Plugins.Messages

/-!
# The response formatter

The formatter takes every response of a model and publishes its text on a channel: that of the
response's origin, or else the one the correlation id names, or else the command line.
-/

namespace Seidrum.Plugins

open EventBus (Value)
open Kernel

structure ChannelHint where
  platform : String
  chatId : String
  deriving DecidableEq, Repr

namespace ChannelHint

def knownPlatforms : List String := ["telegram", "cli", "web"]

def commandLine : ChannelHint := ⟨"cli", "default"⟩

/-- Read a correlation id of the form `platform:chat:event`. -/
def fromCorrelationId : Option String → ChannelHint
  | none => commandLine
  | some cid =>
      match cid.toList.splitOn ':' with
      | platform :: chatId :: _ =>
          if String.ofList platform ∈ knownPlatforms then
            ⟨String.ofList platform, String.ofList chatId⟩
          else commandLine
      | _ => commandLine

end ChannelHint

def extractChannelHint (envelope : EventEnvelope) : ChannelHint :=
  match envelope.origin with
  | some origin => ⟨origin.platform, origin.chatId⟩
  | none => .fromCorrelationId envelope.correlationId

def formatTelegram (text : String) : String := if text = "" then "(empty response)" else text

def formatCli (text : String) : String :=
  if text = "" then "(empty response)"
  else ((text.replace "**" "").replace "__" "").replace "```" ""

/-- The text for a platform and the name of its format. -/
def formatForPlatform (text platform : String) : String × String :=
  if platform = "telegram" then (formatTelegram text, "markdown")
  else if platform = "cli" then (formatCli text, "plain")
  else (text, "plain")

/-- The text of a response; a response that only calls tools has none. -/
def LlmResponse.text (response : LlmResponse) : Option String :=
  if response.content.getD "" ≠ "" then response.content
  else if response.toolCalls.isSome then none
  else some "(no response)"

def ChannelHint.outbound (hint : ChannelHint) (text : String) : ChannelOutbound where
  platform := hint.platform
  chatId := hint.chatId
  text := (formatForPlatform text hint.platform).1
  format := (formatForPlatform text hint.platform).2
  replyTo := none
  actions := []

/-- What the formatter publishes for a response. -/
structure FormattedResponse where
  subject : String
  correlationId : Option String
  scope : Option String
  outbound : ChannelOutbound
  deriving DecidableEq, Repr

/-- The handler of `llm.response`. -/
def handleLlmResponse (fromValue : Value → Option LlmResponse) (envelope : EventEnvelope) :
    Option FormattedResponse := do
  let response ← fromValue envelope.payload
  let text ← response.text
  let hint := extractChannelHint envelope
  some {
    subject := outboundSubject hint.platform
    correlationId := envelope.correlationId
    scope := envelope.scope
    outbound := hint.outbound text }

/-- A response with text is published on the channel of its hint. -/
theorem handleLlmResponse_text {fromValue : Value → Option LlmResponse} {envelope : EventEnvelope}
    {response : LlmResponse} (hparse : fromValue envelope.payload = some response)
    (htext : response.content.getD "" ≠ "") :
    ∃ formatted, handleLlmResponse fromValue envelope = some formatted ∧
      formatted.subject = outboundSubject (extractChannelHint envelope).platform ∧
      formatted.outbound.platform = (extractChannelHint envelope).platform ∧
      formatted.outbound.chatId = (extractChannelHint envelope).chatId := by
  have hcontent : response.text = response.content := if_pos htext
  obtain ⟨text, hsome⟩ : ∃ text, response.content = some text := by
    cases hcontent' : response.content with
    | none => exact absurd (by rw [hcontent']; rfl) htext
    | some text => exact ⟨text, rfl⟩
  rw [handleLlmResponse, hparse, Option.bind_eq_bind, Option.bind_some, hcontent, hsome]
  exact ⟨_, rfl, rfl, rfl, rfl⟩

end Seidrum.Plugins
