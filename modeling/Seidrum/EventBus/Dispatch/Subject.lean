import Mathlib.Data.List.Basic
import Seidrum.EventBus.Storage.Types

/-!
# Subjects and subject patterns

A subject is a string of tokens separated by dots.  In a pattern the token `*` stands for exactly
one token and a final `>` for one or more.  The patterns that match a subject are finitely many and
are listed here in the order in which the subject index visits them.
-/

namespace Seidrum.EventBus

inductive EventBusError
  | storage (error : StorageError)
  | invalidSubject (message : String)
  | payloadTooLarge (message : String)
  | requestTimeout
  | replyChannelClosed
  | internal (message : String)
  deriving DecidableEq, Repr

def EventBusError.message : EventBusError → String
  | storage error => "storage error: " ++ error.message
  | invalidSubject message => "invalid subject: " ++ message
  | payloadTooLarge message => "payload too large: " ++ message
  | requestTimeout => "request timed out"
  | replyChannelClosed => "reply channel closed"
  | internal message => "internal error: " ++ message

/-- Split at every dot; there is always at least one part. -/
def splitDot : List Char → List (List Char)
  | [] => [[]]
  | c :: rest =>
      if c = '.' then [] :: splitDot rest
      else match splitDot rest with
        | [] => [[c]]
        | part :: parts => (c :: part) :: parts

/-- The dot-separated tokens of a subject, a pattern or a field path. -/
def tokens (subject : String) : List String := (splitDot subject.toList).map String.ofList

example : tokens "a..b" = ["a", "", "b"] := by decide

theorem splitDot_ne_nil (chars : List Char) : splitDot chars ≠ [] := by
  cases chars with
  | nil => simp [splitDot]
  | cons c rest =>
    unfold splitDot
    split_ifs
    · simp
    · split <;> simp

theorem splitDot_append (first rest : List Char) :
    splitDot (first ++ '.' :: rest) = splitDot first ++ splitDot rest := by
  induction first with
  | nil => simp [splitDot]
  | cons c first ih =>
    obtain ⟨part, parts, hparts⟩ := List.exists_cons_of_ne_nil (splitDot_ne_nil first)
    rw [List.cons_append, splitDot, ih, splitDot, hparts]
    split_ifs <;> rfl

theorem splitDot_of_no_dot {chars : List Char} (h : '.' ∉ chars) : splitDot chars = [chars] := by
  induction chars with
  | nil => rfl
  | cons c rest ih =>
    rw [List.mem_cons, not_or] at h
    rw [splitDot, if_neg (Ne.symm h.1), ih h.2]

theorem tokens_ne_nil (subject : String) : tokens subject ≠ [] := fun h ↦
  splitDot_ne_nil _ (List.map_eq_nil_iff.mp h)

theorem tokens_append (first rest : String) :
    tokens (first ++ "." ++ rest) = tokens first ++ tokens rest := by
  have hchars : (first ++ "." ++ rest).toList = first.toList ++ '.' :: rest.toList := by
    simp only [String.toList_append, List.append_assoc]
    rfl
  rw [tokens, hchars, splitDot_append, List.map_append, tokens, tokens]

/-- Put a dot between the parts. -/
def joinDot : List (List Char) → List Char
  | [] => []
  | [part] => part
  | part :: parts => part ++ '.' :: joinDot parts

theorem joinDot_splitDot (chars : List Char) : joinDot (splitDot chars) = chars := by
  induction chars with
  | nil => rfl
  | cons c rest ih =>
    obtain ⟨part, parts, hparts⟩ := List.exists_cons_of_ne_nil (splitDot_ne_nil rest)
    rw [hparts] at ih
    unfold splitDot
    split_ifs with hdot
    · rw [hparts, joinDot, ih, hdot]
      · rfl
      · simp
    · rw [hparts]
      cases parts with
      | nil =>
        rw [joinDot] at ih ⊢
        rw [ih]
      | cons next more =>
        rw [joinDot] at ih ⊢
        · rw [List.cons_append, ih]
        all_goals simp

theorem tokens_injective : Function.Injective tokens := by
  intro a b hab
  have hparts : splitDot a.toList = splitDot b.toList :=
    List.map_injective_iff.mpr (fun _ _ h ↦ String.ofList_injective h) hab
  apply String.toList_injective
  rw [← joinDot_splitDot a.toList, hparts, joinDot_splitDot]

/-- Maximum nesting depth for subject patterns. -/
def maxSubjectDepth : ℕ := 256

/-- The checks of a pattern's tokens before it is inserted. -/
def validatePattern (pattern : List String) : Except EventBusError Unit :=
  if maxSubjectDepth < pattern.length then
    .error (.invalidSubject ("subject pattern exceeds maximum depth of " ++
      toString maxSubjectDepth ++ " tokens"))
  else if "" ∈ pattern then
    .error (.invalidSubject ("subject pattern contains empty tokens " ++
      "(check for consecutive dots or leading/trailing dots)"))
  else if ">" ∈ pattern.dropLast then
    .error (.invalidSubject "`>` wildcard must be the final token in the pattern")
  else .ok ()

/-- A pattern whose `>` can only be its final token. -/
def FinalRest (pattern : List String) : Prop := ">" ∉ pattern.dropLast

variable {pattern subject : List String}

theorem finalRest_of_validate (h : validatePattern pattern = .ok ()) : FinalRest pattern := by
  unfold validatePattern at h
  split_ifs at h with _ _ hrest
  exact hrest

theorem FinalRest.tail {token : String} (h : FinalRest (token :: pattern)) : FinalRest pattern := by
  cases pattern with
  | nil => simp [FinalRest]
  | cons next rest => exact fun hmem ↦ h (List.mem_cons_of_mem _ hmem)

theorem FinalRest.eq_nil (h : FinalRest (">" :: pattern)) : pattern = [] := by
  cases pattern with
  | nil => rfl
  | cons next rest => exact absurd List.mem_cons_self h

/-- Whether a pattern matches the tokens of a subject. -/
def patternMatches : List String → List String → Bool
  | [], [] => true
  | [], _ :: _ => false
  | _ :: _, [] => false
  | ">" :: pattern, _ :: _ => pattern.isEmpty
  | token :: pattern, t :: ts => (token = "*" || token = t) && patternMatches pattern ts

/-- A pattern without wildcards matches itself only. -/
theorem eq_of_matches_literal (hany : "*" ∉ pattern) (hrest : ">" ∉ pattern)
    (h : patternMatches pattern subject = true) : pattern = subject := by
  induction pattern generalizing subject with
  | nil =>
    cases subject with
    | nil => rfl
    | cons t ts => simp [patternMatches] at h
  | cons token pattern ih =>
    cases subject with
    | nil => simp [patternMatches] at h
    | cons t ts =>
      have htokenAny : token ≠ "*" := fun heq ↦ hany (heq ▸ List.mem_cons_self)
      have htokenRest : token ≠ ">" := fun heq ↦ hrest (heq ▸ List.mem_cons_self)
      have hboth : token = t ∧ patternMatches pattern ts = true := by
        simpa [patternMatches, htokenAny, htokenRest] using h
      have htail := ih (fun hmem ↦ hany (List.mem_cons_of_mem _ hmem))
        (fun hmem ↦ hrest (List.mem_cons_of_mem _ hmem)) hboth.2
      rw [hboth.1, htail]

theorem finalRest_of_matches (h : patternMatches pattern subject = true) : FinalRest pattern := by
  induction pattern generalizing subject with
  | nil => simp [FinalRest]
  | cons token rest ih =>
    cases subject with
    | nil => simp [patternMatches] at h
    | cons t ts =>
      by_cases hrest : token = ">"
      · subst hrest
        have hnil : rest = [] := by simpa [patternMatches] using h
        simp [FinalRest, hnil]
      · have htail : patternMatches rest ts = true := by
          have hboth : (token = "*" ∨ token = t) ∧ patternMatches rest ts = true := by
            simpa [patternMatches, hrest] using h
          exact hboth.2
        have hfinal := ih htail
        cases rest with
        | nil => simp [FinalRest]
        | cons next more =>
          intro hmem
          obtain heq | hin := List.mem_cons.mp hmem
          · exact hrest heq.symm
          · exact hfinal hin

/-- The patterns that match a subject. -/
def patternsFor : List String → List (List String)
  | [] => [[]]
  | token :: rest =>
      [">"] :: ((if token = "*" ∨ token = ">" then [] else (patternsFor rest).map (token :: ·)) ++
        (patternsFor rest).map ("*" :: ·))

theorem mem_patternsFor_iff :
    pattern ∈ patternsFor subject ↔ patternMatches pattern subject = true := by
  induction subject generalizing pattern with
  | nil => cases pattern <;> simp [patternsFor, patternMatches]
  | cons t ts ih =>
    cases pattern with
    | nil => simp [patternsFor, patternMatches]
    | cons token rest =>
      by_cases hrest : token = ">"
      · subst hrest
        simp [patternsFor, patternMatches]
        grind
      · simp [patternsFor, patternMatches, hrest, ih]
        grind

theorem patternsFor_nodup (subject : List String) : (patternsFor subject).Nodup := by
  induction subject with
  | nil => simp [patternsFor]
  | cons token rest ih =>
    have hany : ((patternsFor rest).map ("*" :: ·)).Nodup :=
      ih.map fun _ _ h ↦ (List.cons.inj h).2
    have hliteral : ((patternsFor rest).map (token :: ·)).Nodup :=
      ih.map fun _ _ h ↦ (List.cons.inj h).2
    unfold patternsFor
    split_ifs with hwild
    · simp [List.nodup_cons, hany]
    · rw [not_or] at hwild
      rw [List.nodup_cons, List.nodup_append]
      refine ⟨?_, hliteral, hany, ?_⟩
      · simp [hwild.2]
      · intro a ha b hb hab
        obtain ⟨_, _, rfl⟩ := List.mem_map.mp ha
        obtain ⟨_, _, rfl⟩ := List.mem_map.mp hb
        exact hwild.1 (List.cons.inj hab).1

end Seidrum.EventBus
