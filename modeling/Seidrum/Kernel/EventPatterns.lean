import Mathlib.Data.List.TakeWhile
import Seidrum.EventBus.Dispatch.SubjectIndexSpec

/-!
# Event patterns of the orchestrator

The orchestrator has a matcher of its own for the patterns of workflows: it compares the tokens of a
subject and a pattern side by side.  It checks no pattern, and a final `>` also stands for no token at
all.  Subscriptions are matched by the subject index of the bus, which refuses some patterns and takes
`>` for one token or more.
-/

namespace Seidrum.Kernel

open EventBus Foundation

/-- Compare the tokens of a subject and a pattern side by side. -/
def matchesAll : List String → List String → Bool
  | s :: subject, p :: pattern => if p ≠ "*" ∧ s ≠ p then false else matchesAll subject pattern
  | _, _ => true

/-- Compare the tokens of a subject and a pattern side by side, up to a `>`. -/
def matchesRest : List String → List String → Bool
  | s :: subject, p :: pattern =>
      if p = ">" then true
      else if p ≠ "*" ∧ s ≠ p then false
      else matchesRest subject pattern
  | _, _ => true

def eventPatternMatches (subject pattern : String) : Bool :=
  if subject = pattern then true
  else
    let subjectParts := tokens subject
    let patternParts := tokens pattern
    if patternParts.getLast? = some ">" then
      if subjectParts.length < patternParts.length - 1 then false
      else matchesRest subjectParts patternParts
    else if subjectParts.length ≠ patternParts.length then false
    else matchesAll subjectParts patternParts

/-- A token of a pattern stands for a token of a subject. -/
def TokenFits (p s : String) : Prop := p = "*" ∨ s = p

/-- The tokens of a pattern stand for those of a subject, one for one. -/
abbrev Fits (pattern subject : List String) : Prop := List.Forall₂ TokenFits pattern subject

variable {p : String} {pattern subject front : List String}

theorem fits_cons {s : String} : Fits (p :: pattern) (s :: subject) ↔ TokenFits p s ∧ Fits pattern subject :=
  List.forall₂_cons

/-- The tokens of a pattern before its first `>`. -/
def stem (pattern : List String) : List String := pattern.takeWhile (· ≠ ">")

theorem stem_cons_of_ne (hp : p ≠ ">") (pattern : List String) : stem (p :: pattern) = p :: stem pattern :=
  List.takeWhile_cons_of_pos (by simpa using hp)

@[simp]
theorem stem_rest (pattern : List String) : stem (">" :: pattern) = [] :=
  List.takeWhile_cons_of_neg (by simp)

theorem matchesAll_iff (hlength : subject.length = pattern.length) :
    matchesAll subject pattern = true ↔ Fits pattern subject := by
  induction pattern generalizing subject with
  | nil =>
    obtain rfl := List.length_eq_zero_iff.mp hlength
    simp [matchesAll]
  | cons p pattern ih =>
    cases subject with
    | nil => cases hlength
    | cons s subject =>
      rw [matchesAll, fits_cons, ← ih (Nat.succ.inj hlength), TokenFits]
      split_ifs with hdiffers
      · simp [hdiffers]
      · have hfits : p = "*" ∨ s = p := by
          by_contra hneither
          exact hdiffers (not_or.mp hneither)
        simp [hfits]

theorem matchesRest_iff (hlength : (stem pattern).length ≤ subject.length) :
    matchesRest subject pattern = true ↔
      Fits (stem pattern) (subject.take (stem pattern).length) := by
  induction pattern generalizing subject with
  | nil => cases subject <;> simp [matchesRest, stem]
  | cons p pattern ih =>
    by_cases hp : p = ">"
    · subst hp
      cases subject <;> simp [matchesRest]
    · rw [stem_cons_of_ne hp] at hlength ⊢
      cases subject with
      | nil => cases hlength
      | cons s subject =>
        have hrest := ih (Nat.le_of_succ_le_succ hlength)
        rw [List.length_cons, List.take_succ_cons, fits_cons, ← hrest, TokenFits, matchesRest,
          if_neg hp]
        split_ifs with hdiffers
        · simp [hdiffers]
        · have hfits : p = "*" ∨ s = p := by
            by_contra hneither
            exact hdiffers (not_or.mp hneither)
          simp [hfits]

/-- The orchestrator takes a subject for a pattern: the two are equal, or the tokens fit, those before
the first `>` if the pattern ends in one. -/
def Taken (pattern subject : String) : Prop :=
  subject = pattern ∨
    if (tokens pattern).getLast? = some ">" then
      (tokens pattern).length - 1 ≤ (tokens subject).length ∧
        Fits (stem (tokens pattern)) ((tokens subject).take (stem (tokens pattern)).length)
    else Fits (tokens pattern) (tokens subject)

theorem length_stem_le (hlast : pattern.getLast? = some ">") :
    (stem pattern).length ≤ pattern.length - 1 := by
  have hstem : stem pattern <+: pattern := List.takeWhile_prefix _
  have hne : (stem pattern).length ≠ pattern.length := by
    intro hlength
    have hmem : ">" ∈ stem pattern := by
      rw [hstem.eq_of_length hlength]
      exact List.mem_of_getLast? hlast
    exact absurd (List.mem_takeWhile_imp hmem) (by simp)
  have hle := hstem.length_le
  omega

theorem eventPatternMatches_iff (pattern subject : String) :
    eventPatternMatches subject pattern = true ↔ Taken pattern subject := by
  unfold eventPatternMatches Taken
  by_cases hequal : subject = pattern
  · simp [hequal]
  · simp only [hequal, if_false, false_or]
    split_ifs with hlast hshort hlength
    · refine ⟨fun hfalse ↦ (by cases hfalse), fun htaken ↦ ?_⟩
      have hle := htaken.1
      omega
    · have hstem := length_stem_le hlast
      rw [matchesRest_iff (by omega), and_iff_right (by omega)]
    · exact ⟨fun hfalse ↦ (by cases hfalse), fun hfits ↦ absurd hfits.length_eq.symm hlength⟩
    · exact matchesAll_iff (not_not.mp hlength)

theorem stem_append_rest (h : ">" ∉ front) : stem (front ++ [">"]) = front := by
  have hall : ∀ token ∈ front, decide (token ≠ ">") = true := by
    intro token hmem
    refine decide_eq_true ?_
    rintro rfl
    exact h hmem
  rw [stem, List.takeWhile_append_of_pos hall]
  exact List.append_nil front

theorem patternMatches_cons (hp : p ≠ ">") (s : String) (pattern subject : List String) :
    patternMatches (p :: pattern) (s :: subject) = true ↔
      TokenFits p s ∧ patternMatches pattern subject = true := by
  rw [TokenFits, eq_comm (a := s)]
  simp [patternMatches]

theorem patternMatches_append_rest (h : ">" ∉ front) (subject : List String) :
    patternMatches (front ++ [">"]) subject = true ↔
      front.length < subject.length ∧ Fits front (subject.take front.length) := by
  induction front generalizing subject with
  | nil => cases subject <;> simp [patternMatches]
  | cons p front ih =>
    obtain ⟨hp, hfront⟩ := List.ne_and_not_mem_of_not_mem_cons h
    cases subject with
    | nil => simp [patternMatches]
    | cons s subject =>
      rw [List.cons_append, patternMatches_cons (Ne.symm hp), ih hfront, List.length_cons,
        List.length_cons, List.take_succ_cons, fits_cons, Nat.succ_lt_succ_iff, and_left_comm]

theorem patternMatches_all (h : ">" ∉ pattern) (subject : List String) :
    patternMatches pattern subject = true ↔ Fits pattern subject := by
  induction pattern generalizing subject with
  | nil => cases subject <;> simp [patternMatches]
  | cons p pattern ih =>
    obtain ⟨hp, hpattern⟩ := List.ne_and_not_mem_of_not_mem_cons h
    cases subject with
    | nil => simp [patternMatches]
    | cons s subject =>
      rw [fits_cons, ← ih hpattern, patternMatches_cons (Ne.symm hp)]

/-- A subscription, added to an index to which subscriptions were added and removed before, is found
for a subject. -/
def Receives (ops : List IndexOp) (entry : SubscriptionEntry) (subject : String) : Prop :=
  ∃ next, (SubjectIndex.machine.run .new ops).subscribe entry = .ok next ∧ entry ∈ next.lookup subject

theorem receives_iff (ops : List IndexOp) (entry : SubscriptionEntry) (subject : String) :
    Receives ops entry subject ↔ validatePattern (tokens entry.subjectPattern) = .ok () ∧
      patternMatches (tokens entry.subjectPattern) (tokens subject) = true := by
  have hrepresents := SubjectIndex.represents_run ops
  constructor
  · rintro ⟨next, hsubscribe, hmem⟩
    refine ⟨?_, ((hrepresents.subscribe hsubscribe).mem_lookup_iff.mp hmem).2⟩
    unfold SubjectIndex.subscribe at hsubscribe
    split at hsubscribe
    · cases hsubscribe
    · assumption
  · rintro ⟨hvalid, hmatches⟩
    have hsubscribe : ∃ next, (SubjectIndex.machine.run .new ops).subscribe entry = .ok next := by
      unfold SubjectIndex.subscribe
      rw [hvalid]
      exact ⟨_, rfl⟩
    obtain ⟨next, hsubscribe⟩ := hsubscribe
    refine ⟨next, hsubscribe, ?_⟩
    rw [(hrepresents.subscribe hsubscribe).mem_lookup_iff]
    exact ⟨List.mem_concat_self, hmatches⟩

/-- The bus accepts the pattern, and it does not end in a `>` before which the tokens stand for the
whole subject; or the bus refuses the pattern, and the orchestrator does not take the subject for it. -/
def Agree (pattern subject : String) : Prop :=
  match validatePattern (tokens pattern) with
  | .ok () => ¬((tokens pattern).getLast? = some ">" ∧
      Fits (stem (tokens pattern)) (tokens subject))
  | .error _ => ¬Taken pattern subject

theorem taken_iff_of_all {pattern subject : String} (hrest : ">" ∉ tokens pattern) :
    Taken pattern subject ↔ patternMatches (tokens pattern) (tokens subject) = true := by
  have hlast : (tokens pattern).getLast? ≠ some ">" := fun h ↦ hrest (List.mem_of_getLast? h)
  rw [Taken, if_neg hlast, patternMatches_all hrest, or_iff_right_iff_imp]
  rintro rfl
  exact List.forall₂_same.mpr fun token _ ↦ .inr rfl

/-- Of an accepted pattern that ends in `>` the orchestrator takes one subject more. -/
theorem taken_iff_of_rest {pattern subject : String} (hfront : ">" ∉ front)
    (hpattern : tokens pattern = front ++ [">"]) :
    Taken pattern subject ↔ patternMatches (tokens pattern) (tokens subject) = true ∨
      Fits front (tokens subject) := by
  have hlast : (tokens pattern).getLast? = some ">" := by
    rw [hpattern, List.getLast?_concat]
  have hlength : (tokens pattern).length - 1 = front.length := by
    rw [hpattern, List.length_append]
    rfl
  rw [Taken, if_pos hlast, hlength, hpattern, stem_append_rest hfront,
    patternMatches_append_rest hfront]
  constructor
  · rintro (rfl | ⟨hle, hfits⟩)
    · left
      rw [hpattern, List.length_append, List.take_left]
      exact ⟨Nat.lt_succ_self _, List.forall₂_same.mpr fun token _ ↦ .inr rfl⟩
    · rcases Nat.lt_or_eq_of_le hle with hlt | heq
      · exact .inl ⟨hlt, hfits⟩
      · rw [heq, List.take_length] at hfits
        exact .inr hfits
  · rintro (⟨hlt, hfits⟩ | hfits)
    · exact .inr ⟨hlt.le, hfits⟩
    · right
      rw [hfits.length_eq, List.take_length]
      exact ⟨le_rfl, hfits⟩

/-- For every pattern and subject, whatever else is subscribed: the orchestrator's matcher tells whether
a subscription with the pattern receives an event on the subject exactly if the bus accepts the pattern
and the subject is not the pattern's tokens before a final `>`, or the bus refuses the pattern and the
matcher fails too. -/
theorem eventPatternMatches_agrees_iff (ops : List IndexOp) (entry : SubscriptionEntry)
    (subject : String) :
    (eventPatternMatches subject entry.subjectPattern = true ↔ Receives ops entry subject) ↔
      Agree entry.subjectPattern subject := by
  rw [receives_iff, eventPatternMatches_iff, Agree]
  cases hvalid : validatePattern (tokens entry.subjectPattern) with
  | error error => simp
  | ok _ =>
    simp only [true_and]
    have hfinal := finalRest_of_validate hvalid
    by_cases hlast : (tokens entry.subjectPattern).getLast? = some ">"
    · have hpattern := (List.dropLast_append_getLast? _ hlast).symm
      have hstem : stem (tokens entry.subjectPattern) = (tokens entry.subjectPattern).dropLast := by
        rw [hpattern, stem_append_rest hfinal, List.dropLast_concat]
      rw [taken_iff_of_rest hfinal hpattern, hstem]
      -- what fits without the `>` is too short for the bus
      have hshort (hfits : Fits (tokens entry.subjectPattern).dropLast (tokens subject)) :
          ¬patternMatches (tokens entry.subjectPattern) (tokens subject) = true := by
        rw [hpattern, patternMatches_append_rest hfinal, not_and]
        exact fun hlt ↦ absurd hlt hfits.length_eq.not_lt
      tauto
    · have hrest : ">" ∉ tokens entry.subjectPattern := by
        intro hmem
        have hlastMem := List.dropLast_append_getLast (tokens_ne_nil entry.subjectPattern)
        rw [← hlastMem, List.mem_append, List.mem_singleton] at hmem
        rcases hmem with hfront | hend
        · exact hfinal hfront
        · exact hlast (by rw [List.getLast?_eq_some_getLast (tokens_ne_nil _), ← hend])
      simp [taken_iff_of_all hrest, hlast]

/-- A subscription with a final `>`. -/
def completedTasks : SubscriptionEntry where
  id := "completed"
  subjectPattern := "task.completed.>"
  priority := 0
  mode := .async
  channel := .inProcess
  timeout := 0
  filter := none

theorem eventPatternMatches_agrees_false :
    eventPatternMatches "task.completed" completedTasks.subjectPattern = true ∧
      ¬Receives [] completedTasks "task.completed" := by
  refine ⟨by decide, fun h ↦ ?_⟩
  exact absurd ((receives_iff [] completedTasks "task.completed").mp h).2 (by decide)

end Seidrum.Kernel
