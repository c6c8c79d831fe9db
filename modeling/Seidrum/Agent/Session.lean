import Mathlib.Data.String.Basic
import Seidrum.Foundation.Separator

/-!
# Session identity of channel conversations

A conversation on a channel runs in the session named after its provider, chat and thread.  The name
is the three texts with fixed words between them, and nothing in a text is escaped, so a chat or a
provider name that holds one of these words can read as another conversation's.
-/

namespace Seidrum.Agent

open Seidrum.Foundation

inductive ChannelKind
  | telegram
  | other (kind : String)
  deriving DecidableEq, Repr

def ChannelKind.asStr : ChannelKind → String
  | telegram => "telegram"
  | other kind => kind

structure ChannelContinuationIdentity where
  provider : ChannelKind
  chatId : String
  threadId : Option String
  userId : Option String
  messageId : Option String
  correlationId : Option String
  deriving DecidableEq, Repr

namespace ChannelContinuationIdentity

def sessionId (identity : ChannelContinuationIdentity) : String :=
  let base := "channel:" ++ identity.provider.asStr ++ ":chat:" ++ identity.chatId
  match identity.threadId with
  | some threadId => if threadId.isEmpty then base else base ++ ":thread:" ++ threadId
  | none => base

/-- The thread, an empty one counting as none. -/
def thread (identity : ChannelContinuationIdentity) : Option String :=
  identity.threadId.filter fun threadId ↦ !threadId.isEmpty

/-- What a session is meant to stand for. -/
def conversation (identity : ChannelContinuationIdentity) : ChannelKind × String × Option String :=
  (identity.provider, identity.chatId, identity.thread)

/-- The provider's part of a session id. -/
def name (identity : ChannelContinuationIdentity) : List Char := identity.provider.asStr.toList

/-- The chat's and the thread's part of a session id. -/
def tail (identity : ChannelContinuationIdentity) : List Char :=
  match identity.thread with
  | some thread => identity.chatId.toList ++ (marker ':' "thread".toList ++ thread.toList)
  | none => identity.chatId.toList

theorem toList_sessionId (identity : ChannelContinuationIdentity) :
    identity.sessionId.toList = "channel:".toList ++
      (identity.name ++ (marker ':' "chat".toList ++ identity.tail)) := by
  have hchat : ":chat:".toList = marker ':' "chat".toList := by decide
  have hthread : ":thread:".toList = marker ':' "thread".toList := by decide
  unfold sessionId tail thread
  cases identity.threadId with
  | none => simp only [Option.filter_none, String.toList_append, hchat, name, List.append_assoc]
  | some threadId =>
    dsimp only
    by_cases hempty : threadId.isEmpty = true
    · rw [if_pos hempty, Option.filter_some_neg (by simp [hempty])]
      simp only [String.toList_append, hchat, name, List.append_assoc]
    · rw [if_neg hempty, Option.filter_some_pos (by simp [hempty])]
      simp only [String.toList_append, hchat, hthread, name, List.append_assoc]

theorem sessionId_eq_iff (x y : ChannelContinuationIdentity) :
    x.sessionId = y.sessionId ↔
      x.name ++ (marker ':' "chat".toList ++ x.tail) =
        y.name ++ (marker ':' "chat".toList ++ y.tail) := by
  rw [← String.toList_inj, toList_sessionId, toList_sessionId, List.append_cancel_left_eq]

/-- The chat of `x` holds the chat of `y`, the word that announces a thread, and what makes up the
rest of the thread of `y`. -/
def ChatSpansThread (x y : ChannelContinuationIdentity) : Prop :=
  ∃ thread, y.thread = some thread ∧
    match x.thread with
    | none => x.chatId.toList = y.chatId.toList ++ (marker ':' "thread".toList ++ thread.toList)
    | some rest =>
        Overruns ':' "thread".toList x.chatId.toList rest.toList y.chatId.toList thread.toList

/-- The provider name of `x` holds the name of `y` and the word that announces a chat. -/
def ProviderSpansChat (x y : ChannelContinuationIdentity) : Prop :=
  Overruns ':' "chat".toList x.name x.tail y.name y.tail

/-- Telegram, and another provider that goes by its name. -/
def Impersonates (x y : ChannelContinuationIdentity) : Prop :=
  x.provider ≠ y.provider ∧ x.name = y.name ∧ x.chatId = y.chatId ∧ x.thread = y.thread

/-- The field texts of `x` read as those of `y`. -/
def Mistaken (x y : ChannelContinuationIdentity) : Prop :=
  Impersonates x y ∨ (x.name = y.name ∧ ChatSpansThread x y) ∨ ProviderSpansChat x y

theorem tail_eq_iff (x y : ChannelContinuationIdentity) :
    x.tail = y.tail ↔ (x.chatId = y.chatId ∧ x.thread = y.thread) ∨ ChatSpansThread x y ∨
      ChatSpansThread y x := by
  have hsep : ':' ∉ "thread".toList := by decide
  unfold tail ChatSpansThread
  cases hx : x.thread with
  | none =>
    cases hy : y.thread with
    | none => simp [String.toList_inj]
    | some threadY => simp
  | some threadX =>
    cases hy : y.thread with
    | none => simp [eq_comm]
    | some threadY =>
      have hiff : _ ++ (_ ++ threadX.toList) = _ ++ (_ ++ threadY.toList) ↔
          (x.chatId.toList = y.chatId.toList ∧ _) ∨ _ := append_marker_eq_iff hsep
      rw [String.toList_inj, String.toList_inj] at hiff
      simpa using hiff

theorem chatId_ne_of_chatSpansThread {x y : ChannelContinuationIdentity} (h : ChatSpansThread x y) :
    x.chatId ≠ y.chatId := by
  obtain ⟨thread, -, hspan⟩ := h
  intro hchat
  cases hx : x.thread with
  | none =>
    rw [hx] at hspan
    have hlength := congrArg List.length hspan
    simp [hchat, marker] at hlength
  | some rest =>
    rw [hx] at hspan
    have hlength := Overruns.length_lt hspan
    rw [hchat] at hlength
    exact absurd hlength (lt_irrefl _)

/-- Mistaken conversations differ. -/
theorem conversation_ne_of_mistaken {x y : ChannelContinuationIdentity} (h : Mistaken x y) :
    x.conversation ≠ y.conversation := by
  intro heq
  obtain ⟨hprovider, hchat, -⟩ : x.provider = y.provider ∧ x.chatId = y.chatId ∧
      x.thread = y.thread := by simpa [conversation] using heq
  rcases h with himpersonates | ⟨-, hspan⟩ | hspan
  · exact himpersonates.1 hprovider
  · exact chatId_ne_of_chatSpansThread hspan hchat
  · have hlength := Overruns.length_lt hspan
    rw [name, name, hprovider] at hlength
    exact absurd hlength (lt_irrefl _)

/-- Session ids agree for one conversation, and where the texts of one read as another's. -/
theorem sessionId_eq_iff_mistaken (x y : ChannelContinuationIdentity) :
    x.sessionId = y.sessionId ↔
      x.conversation = y.conversation ∨ Mistaken x y ∨ Mistaken y x := by
  have hsep : ':' ∉ "chat".toList := by decide
  rw [sessionId_eq_iff, append_marker_eq_iff hsep, tail_eq_iff]
  constructor
  · rintro (⟨hname, ⟨hchat, hthread⟩ | hspan | hspan⟩ | hlong | hshort)
    · by_cases hprovider : x.provider = y.provider
      · exact .inl (by simp [conversation, hprovider, hchat, hthread])
      · exact .inr (.inl (.inl ⟨hprovider, hname, hchat, hthread⟩))
    · exact .inr (.inl (.inr (.inl ⟨hname, hspan⟩)))
    · exact .inr (.inr (.inr (.inl ⟨hname.symm, hspan⟩)))
    · exact .inr (.inl (.inr (.inr hlong)))
    · exact .inr (.inr (.inr (.inr hshort)))
  · rintro (hsame | (⟨-, hname, hchat, hthread⟩ | ⟨hname, hspan⟩ | hspan) |
      (⟨-, hname, hchat, hthread⟩ | ⟨hname, hspan⟩ | hspan))
    · obtain ⟨hprovider, hchat, hthread⟩ : x.provider = y.provider ∧ x.chatId = y.chatId ∧
          x.thread = y.thread := by simpa [conversation] using hsame
      exact .inl ⟨by rw [name, name, hprovider], .inl ⟨hchat, hthread⟩⟩
    · exact .inl ⟨hname, .inl ⟨hchat, hthread⟩⟩
    · exact .inl ⟨hname, .inr (.inl hspan)⟩
    · exact .inr (.inl hspan)
    · exact .inl ⟨hname.symm, .inl ⟨hchat.symm, hthread.symm⟩⟩
    · exact .inl ⟨hname.symm, .inr (.inr hspan)⟩
    · exact .inr (.inr hspan)

/-- A session id tells two identities apart, unless the texts of one read as the other's. -/
theorem sessionId_injective_iff (x y : ChannelContinuationIdentity) :
    (x.sessionId = y.sessionId → x.conversation = y.conversation) ↔
      ¬ Mistaken x y ∧ ¬ Mistaken y x := by
  rw [sessionId_eq_iff_mistaken]
  constructor
  · intro h
    constructor
    · exact fun hxy ↦ conversation_ne_of_mistaken hxy (h (.inr (.inl hxy)))
    · exact fun hyx ↦ conversation_ne_of_mistaken hyx (h (.inr (.inr hyx))).symm
  · rintro ⟨hxy, hyx⟩ (hsame | hmistaken | hmistaken)
    · exact hsame
    · exact absurd hmistaken hxy
    · exact absurd hmistaken hyx

/-- A chat whose id spells out a thread shares its session with that thread. -/
theorem sessionId_not_injective :
    ∃ x y : ChannelContinuationIdentity,
      x.sessionId = y.sessionId ∧ x.conversation ≠ y.conversation :=
  ⟨⟨.other "slack", "C1:thread:7", none, none, none, none⟩,
    ⟨.other "slack", "C1", some "7", none, none, none⟩, by decide, by decide⟩

end ChannelContinuationIdentity

end Seidrum.Agent
