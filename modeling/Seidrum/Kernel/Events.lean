import Seidrum.EventBus.Dispatch.Filter

/-!
# Events of the kernel

The messages the kernel's services exchange over the bus, and how their fields are read from JSON.
-/

namespace Seidrum.EventBus.Value

/-- The value as an unsigned 64-bit integer, for a number written as one. -/
def asU64 : Value → Option ℕ
  | number literal =>
      let digits := literal.toList
      if digits ≠ [] ∧ digits.all Char.isDigit ∧ Nat.ofDigitChars 10 digits 0 < 2 ^ 64 then
        some (Nat.ofDigitChars 10 digits 0)
      else none
  | _ => none

def asStr : Value → Option String
  | string value => some value
  | _ => none

def asBool : Value → Option Bool
  | bool value => some value
  | _ => none

def isNull : Value → Bool
  | null => true
  | _ => false

def ofNat (n : ℕ) : Value := number n.repr

@[simp]
theorem asU64_ofNat {n : ℕ} (h : n < 2 ^ 64) : (ofNat n).asU64 = some n := by
  have hdigits : (Nat.toDigits 10 n).all Char.isDigit = true :=
    List.all_eq_true.mpr fun _ hmem ↦ Nat.isDigit_of_mem_toDigits (by decide) (by decide) hmem
  have hvalue : Nat.ofDigitChars 10 (Nat.toDigits 10 n) 0 = n := Nat.ofDigitChars_ten_toDigits
  have htext : n.repr.toList = Nat.toDigits 10 n := by simp
  simp only [ofNat, asU64, htext, hvalue]
  exact if_pos ⟨by simp, hdigits, h⟩

end Seidrum.EventBus.Value

namespace Seidrum.Kernel

open EventBus (Value)

structure EventOrigin where
  platform : String
  chatId : String
  threadId : Option String
  messageId : Option String
  deriving DecidableEq, Repr

/-- An event delivered to an agent's consciousness stream. -/
structure ConsciousnessEvent where
  agentId : String
  eventType : String
  sourceSubject : Option String
  conversationId : Option String
  payload : Value
  origin : Option EventOrigin

/-- The subject of an agent's consciousness stream. -/
def consciousnessSubject (agentId : String) : String := "agent." ++ agentId ++ ".consciousness"

structure ToolCallResponse where
  toolId : String
  result : Value
  isError : Bool

/-- The response of a tool that refused or failed. -/
def ToolCallResponse.error (toolId text : String) : ToolCallResponse where
  toolId := toolId
  result := .object [("error", .string text)]
  isError := true

end Seidrum.Kernel
