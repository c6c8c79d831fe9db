import Mathlib.Data.List.Chain

/-!
# Escaping for MarkdownV2

Before a text is sent as MarkdownV2, a backslash is put in front of each special character.  Telegram
takes a backslash with the ASCII character after it for that character.  A backslash of the text itself
is not escaped, so Telegram may take it for one that was put there.
-/

namespace Seidrum.Plugins

/-- Characters that must be escaped outside of formatting markup. -/
def specialChars : List Char :=
  ['_', '*', '[', ']', '(', ')', '~', '`', '>', '#', '+', '-', '=', '|', '{', '}', '.', '!']

def escapeChar (c : Char) : List Char := if c ∈ specialChars then ['\\', c] else [c]

def escapeMarkdownV2 (text : String) : String := String.ofList (text.toList.flatMap escapeChar)

/-- The characters a backslash can stand in front of. -/
def Escapable (c : Char) : Prop := 1 ≤ c.toNat ∧ c.toNat ≤ 126

instance : DecidablePred Escapable := fun _ ↦ inferInstanceAs (Decidable (_ ∧ _))

inductive MarkdownItem
  | plain (c : Char)
  | markup (c : Char)
  deriving DecidableEq, Repr

/-- A character without a backslash in front of it. -/
def readChar (c : Char) : MarkdownItem := if c ∈ specialChars then .markup c else .plain c

/-- A text as Telegram reads it. -/
def readMarkdownV2 : List Char → List MarkdownItem
  | [] => []
  | [c] => [readChar c]
  | c :: d :: rest =>
      if c = '\\' ∧ Escapable d then .plain d :: readMarkdownV2 rest
      else readChar c :: readMarkdownV2 (d :: rest)

/-- The text arrives, and nothing of it is taken for markup. -/
def RoundTrips (text : String) : Prop :=
  readMarkdownV2 (escapeMarkdownV2 text).toList = text.toList.map .plain

instance : DecidablePred RoundTrips := fun _ ↦ inferInstanceAs (Decidable (_ = _))

/-- No backslash stands in front of a character it could be an escape of. -/
def NoEscapes (chars : List Char) : Prop := chars.IsChain fun c d ↦ c = '\\' → ¬Escapable d

instance (chars : List Char) : Decidable (NoEscapes chars) :=
  inferInstanceAs (Decidable (chars.IsChain _))

section

variable {c d : Char} {chars : List Char}

theorem escapable_of_special (h : c ∈ specialChars) : Escapable c := by
  have hall : specialChars.all fun c ↦ decide (Escapable c) := by decide
  exact of_decide_eq_true (List.all_eq_true.mp hall c h)

theorem ne_backslash_of_special (h : c ∈ specialChars) : c ≠ '\\' := by
  rintro rfl
  exact absurd h (by decide)

theorem readChar_of_not_special (h : c ∉ specialChars) : readChar c = .plain c := if_neg h

theorem readMarkdownV2_cons (h : c ≠ '\\') (chars : List Char) :
    readMarkdownV2 (c :: chars) = readChar c :: readMarkdownV2 chars := by
  cases chars with
  | nil => rfl
  | cons d rest => rw [readMarkdownV2, if_neg fun hboth ↦ h hboth.1]

theorem readMarkdownV2_escape (h : Escapable d) (chars : List Char) :
    readMarkdownV2 ('\\' :: d :: chars) = .plain d :: readMarkdownV2 chars := by
  rw [readMarkdownV2, if_pos ⟨rfl, h⟩]

theorem readMarkdownV2_backslash (h : ¬Escapable d) (chars : List Char) :
    readMarkdownV2 ('\\' :: d :: chars) = .plain '\\' :: readMarkdownV2 (d :: chars) := by
  rw [readMarkdownV2, if_neg fun hboth ↦ h hboth.2, readChar_of_not_special (by decide)]

/-- A character that is not a backslash is read back, followed by what comes after it. -/
theorem readMarkdownV2_escapeChar (h : c ≠ '\\') (chars : List Char) :
    readMarkdownV2 (escapeChar c ++ chars) = .plain c :: readMarkdownV2 chars := by
  unfold escapeChar
  split_ifs with hspecial
  · exact readMarkdownV2_escape (escapable_of_special hspecial) chars
  · rw [List.singleton_append, readMarkdownV2_cons h, readChar_of_not_special hspecial]

/-- What a backslash of the text becomes depends on the character after it. -/
theorem readMarkdownV2_backslash_cons (d : Char) (chars : List Char) :
    readMarkdownV2 ('\\' :: (escapeChar d ++ chars)) =
      if d ∈ specialChars then .plain '\\' :: .markup d :: readMarkdownV2 chars
      else if Escapable d then .plain d :: readMarkdownV2 chars
      else .plain '\\' :: .plain d :: readMarkdownV2 chars := by
  unfold escapeChar
  split_ifs with hspecial hescapable
  · change readMarkdownV2 ('\\' :: '\\' :: d :: chars) = _
    rw [readMarkdownV2_escape (by decide), readMarkdownV2_cons (ne_backslash_of_special hspecial),
      readChar, if_pos hspecial]
  · exact readMarkdownV2_escape hescapable chars
  · have hne : d ≠ '\\' := by
      rintro rfl
      exact hescapable (by decide)
    rw [List.singleton_append, readMarkdownV2_backslash hescapable, readMarkdownV2_cons hne,
      readChar_of_not_special hspecial]

theorem length_readMarkdownV2_le (chars : List Char) :
    (readMarkdownV2 (chars.flatMap escapeChar)).length ≤ chars.length := by
  induction chars using List.twoStepInduction with
  | nil => exact le_rfl
  | singleton c =>
    by_cases hc : c = '\\'
    · subst hc
      decide
    · rw [List.flatMap_cons, readMarkdownV2_escapeChar hc]
      simp [readMarkdownV2]
  | cons_cons c d rest ih ih' =>
    by_cases hc : c = '\\'
    · subst hc
      rw [List.flatMap_cons, List.flatMap_cons]
      change (readMarkdownV2 ('\\' :: (escapeChar d ++ rest.flatMap escapeChar))).length ≤ _
      rw [readMarkdownV2_backslash_cons]
      simp only [List.length_cons]
      split_ifs <;> simp only [List.length_cons] <;> omega
    · rw [List.flatMap_cons, readMarkdownV2_escapeChar hc]
      exact Nat.succ_le_succ (ih' d)

/-- The escaped characters are read back exactly if no backslash among them can be an escape. -/
theorem readMarkdownV2_flatMap_iff (chars : List Char) :
    readMarkdownV2 (chars.flatMap escapeChar) = chars.map .plain ↔ NoEscapes chars := by
  induction chars using List.twoStepInduction with
  | nil => exact iff_of_true rfl .nil
  | singleton c =>
    refine iff_of_true ?_ (.singleton c)
    by_cases hc : c = '\\'
    · subst hc
      decide
    · rw [List.flatMap_cons, readMarkdownV2_escapeChar hc]
      rfl
  | cons_cons c d rest ih ih' =>
    rw [NoEscapes, List.isChain_cons_cons, ← NoEscapes, ← ih' d]
    by_cases hc : c = '\\'
    · subst hc
      have htext : ('\\' :: d :: rest).flatMap escapeChar =
        '\\' :: (escapeChar d ++ rest.flatMap escapeChar) := rfl
      rw [htext, readMarkdownV2_backslash_cons, List.map_cons, List.map_cons]
      simp only [forall_const]
      split_ifs with hspecial hescapable
      · have hescapable := escapable_of_special hspecial
        exact iff_of_false (by simp) fun h ↦ h.1 hescapable
      · refine iff_of_false ?_ fun h ↦ h.1 hescapable
        -- the item in front of the rest is lost, and nothing of the rest makes up for it
        intro heq
        have hlength := congrArg List.length heq
        have hle := length_readMarkdownV2_le rest
        simp only [List.length_cons, List.length_map] at hlength
        omega
      · have hne : d ≠ '\\' := by
          rintro rfl
          exact hescapable (by decide)
        rw [and_iff_right hescapable, List.flatMap_cons, readMarkdownV2_escapeChar hne]
        simp
    · rw [List.flatMap_cons, readMarkdownV2_escapeChar hc, List.map_cons]
      simp [hc]

end

/-- Telegram reads the escaped text as the text exactly if no backslash of the text stands in front of an
ASCII character. -/
theorem escaping_round_trips_iff (text : String) : RoundTrips text ↔ NoEscapes text.toList := by
  rw [← readMarkdownV2_flatMap_iff, RoundTrips, escapeMarkdownV2, String.toList_ofList]

/-- The separators of a path on Windows are lost. -/
theorem escaping_round_trips_false : ¬∀ text : String, RoundTrips text :=
  fun h ↦ absurd (h "C:\\temp") (by decide)

end Seidrum.Plugins
