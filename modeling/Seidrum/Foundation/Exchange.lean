import Mathlib.Data.List.Perm.Subperm

/-!
# Calls and their results

A conversation is a sequence of parts: calls made together, results of calls, and other parts.  In an
answered conversation the results of all calls made together follow them directly, each call has one
result, and there are no other results.
-/

namespace Seidrum.Foundation

/-- A part of a conversation; a result names its call, or none. -/
inductive Passage (ι : Type*)
  | other
  | calls (ids : List ι)
  | result (id : Option ι)

variable {ι : Type*} [DecidableEq ι]

/-- The conversation answers the pending calls first and then all others. -/
def Answered : List ι → List (Passage ι) → Prop
  | pending, [] => pending = []
  | pending, .other :: rest => pending = [] ∧ Answered [] rest
  | pending, .calls ids :: rest => pending = [] ∧ Answered ids rest
  | _, .result none :: _ => False
  | pending, .result (some id) :: rest => id ∈ pending ∧ Answered (pending.erase id) rest

instance decidableAnswered : ∀ (pending : List ι) (parts : List (Passage ι)),
    Decidable (Answered pending parts)
  | _, [] => inferInstanceAs (Decidable (_ = []))
  | _, .other :: rest =>
      have := decidableAnswered [] rest
      inferInstanceAs (Decidable (_ ∧ _))
  | _, .calls ids :: rest =>
      have := decidableAnswered ids rest
      inferInstanceAs (Decidable (_ ∧ _))
  | _, .result none :: _ => inferInstanceAs (Decidable False)
  | pending, .result (some id) :: rest =>
      have := decidableAnswered (pending.erase id) rest
      inferInstanceAs (Decidable (_ ∧ _))

/-- Calls made together, if there are any. -/
def callsPart (ids : List ι) : List (Passage ι) := if ids = [] then [] else [.calls ids]

def resultParts (ids : List ι) : List (Passage ι) := ids.map fun id ↦ .result (some id)

/-- The conversation does not begin with the result of a call. -/
def Opens (parts : List (Passage ι)) : Prop := ∀ pending, Answered pending parts → pending = []

omit [DecidableEq ι] in
@[simp]
theorem callsPart_nil : callsPart ([] : List ι) = [] := rfl

omit [DecidableEq ι] in
@[simp]
theorem resultParts_nil : resultParts ([] : List ι) = [] := rfl

theorem opens_nil : Opens ([] : List (Passage ι)) := fun _ h ↦ h

theorem opens_other (rest : List (Passage ι)) : Opens (.other :: rest) := fun _ h ↦ h.1

theorem opens_calls (ids : List ι) (rest : List (Passage ι)) : Opens (.calls ids :: rest) :=
  fun _ h ↦ h.1

variable {rest others : List (Passage ι)} {ids pending results : List ι} {α : Type*}
  {parts : α → List (Passage ι)} {items : List α}

/-- Calls become the pending ones. -/
theorem answered_callsPart_iff : Answered [] (callsPart ids ++ rest) ↔ Answered ids rest := by
  unfold callsPart
  split_ifs with hids
  · rw [hids, List.nil_append]
  · exact ⟨fun h ↦ h.2, fun h ↦ ⟨rfl, h⟩⟩

/-- Results answer as many of the pending calls. -/
theorem answered_resultParts_iff :
    Answered pending (resultParts ids ++ rest) ↔
      ids.Subperm pending ∧ Answered (pending.diff ids) rest := by
  induction ids generalizing pending with
  | nil => simp [List.nil_subperm]
  | cons id ids ih =>
    rw [resultParts, List.map_cons, List.cons_append, Answered, ← resultParts, ih, List.diff_cons]
    constructor
    · rintro ⟨hmem, hsub, hrest⟩
      exact ⟨((List.subperm_cons id).mpr hsub).trans (List.perm_cons_erase hmem).symm.subperm, hrest⟩
    · rintro ⟨hsub, hrest⟩
      have hmem : id ∈ pending := hsub.subset List.mem_cons_self
      exact ⟨hmem, (List.subperm_cons id).mp (hsub.trans (List.perm_cons_erase hmem).subperm), hrest⟩

/-- Where no further results follow, the results must be those of the pending calls. -/
theorem answered_results_iff (hopens : Opens rest) :
    Answered pending (resultParts ids ++ rest) ↔ ids.Perm pending ∧ Answered [] rest := by
  rw [answered_resultParts_iff]
  constructor
  · rintro ⟨hsub, hrest⟩
    have hnone := hopens _ hrest
    have hperm := List.subperm_append_diff_self_of_count_le (List.subperm_ext_iff.mp hsub)
    rw [hnone, List.append_nil] at hperm
    exact ⟨hperm, hnone ▸ hrest⟩
  · rintro ⟨hperm, hrest⟩
    have hnone : pending.diff ids = [] := by
      have hsplit := List.subperm_append_diff_self_of_count_le
        (List.subperm_ext_iff.mp hperm.subperm)
      have hlength := hsplit.length_eq
      have hsame := hperm.length_eq
      rw [List.length_append] at hlength
      exact List.eq_nil_of_length_eq_zero (by omega)
    exact ⟨hperm.subperm, hnone ▸ hrest⟩

/-- Calls and then their results. -/
theorem answered_exchange_iff (hopens : Opens rest) :
    Answered [] (callsPart ids ++ resultParts results ++ rest) ↔
      results.Perm ids ∧ Answered [] rest := by
  rw [List.append_assoc, answered_callsPart_iff, answered_results_iff hopens]

/-- Calls, or another part where there are none, and then results. -/
def exchange (calls results : List ι) : List (Passage ι) :=
  (if calls = [] then [.other] else callsPart calls) ++ resultParts results

theorem opens_exchange (calls results : List ι) (rest : List (Passage ι)) :
    Opens (exchange calls results ++ rest) := by
  unfold exchange
  split_ifs with hnone
  · exact opens_other _
  · rw [callsPart, if_neg hnone]
    exact opens_calls _ _

theorem answered_exchange_append_iff {calls : List ι} (hopens : Opens rest) :
    Answered [] (exchange calls results ++ rest) ↔ results.Perm calls ∧ Answered [] rest := by
  unfold exchange
  split_ifs with hnone
  · rw [hnone, List.append_assoc, List.singleton_append, Answered, and_iff_right rfl,
      answered_results_iff hopens]
  · exact answered_exchange_iff hopens

variable {calls : α → List ι}

theorem opens_flatMap {results : α → List ι}
    (hparts : ∀ item ∈ items, parts item = exchange (calls item) (results item)) (hopens : Opens rest) :
    Opens (items.flatMap parts ++ rest) := by
  cases items with
  | nil => exact hopens
  | cons item items =>
    rw [List.flatMap_cons, List.append_assoc, hparts item List.mem_cons_self]
    exact opens_exchange _ _ _

/-- A conversation in which every element brings its own results. -/
theorem answered_flatMap_iff {results : α → List ι}
    (hparts : ∀ item ∈ items, parts item = exchange (calls item) (results item)) (hopens : Opens rest) :
    Answered [] (items.flatMap parts ++ rest) ↔
      (∀ item ∈ items, (results item).Perm (calls item)) ∧ Answered [] rest := by
  induction items with
  | nil => simp
  | cons item items ih =>
    have hitems := fun other hother ↦ hparts other (List.mem_cons_of_mem item hother)
    rw [List.flatMap_cons, List.append_assoc, List.forall_mem_cons, and_assoc, ← ih hitems,
      hparts item List.mem_cons_self, answered_exchange_append_iff (opens_flatMap hitems hopens)]

/-- Other parts answer nothing and are no obstacle where nothing is pending. -/
theorem answered_others_iff (hothers : ∀ part ∈ others, part = .other) :
    Answered [] (others ++ rest) ↔ Answered [] rest := by
  induction others with
  | nil => exact Iff.rfl
  | cons part others ih =>
    have hlater := fun later hmem ↦ hothers later (List.mem_cons_of_mem part hmem)
    rw [List.cons_append, hothers part List.mem_cons_self, Answered, and_iff_right rfl, ih hlater]

theorem opens_others (hothers : ∀ part ∈ others, part = .other) (hopens : Opens rest) :
    Opens (others ++ rest) := by
  cases others with
  | nil => exact hopens
  | cons part others =>
    rw [List.cons_append, hothers part List.mem_cons_self]
    exact opens_other _

/-- Elements with other parts, then calls and exactly their results, leave nothing pending. -/
theorem answered_flatMap_exchange {front : α → List (Passage ι)} {ids : α → List ι}
    (hfront : ∀ item ∈ items, ∀ part ∈ front item, part = .other)
    (hparts : ∀ item ∈ items, parts item = front item ++ exchange (ids item) (ids item)) :
    Opens (items.flatMap parts) ∧ Answered [] (items.flatMap parts) := by
  induction items with
  | nil => exact ⟨opens_nil, rfl⟩
  | cons item items ih =>
    obtain ⟨hopens, hanswered⟩ := ih (fun other hother ↦ hfront other (List.mem_cons_of_mem _ hother))
      fun other hother ↦ hparts other (List.mem_cons_of_mem _ hother)
    have hothers := hfront item List.mem_cons_self
    rw [List.flatMap_cons, hparts item List.mem_cons_self, List.append_assoc]
    refine ⟨opens_others hothers (opens_exchange _ _ _), (answered_others_iff hothers).mpr ?_⟩
    exact (answered_exchange_append_iff hopens).mpr ⟨List.Perm.refl _, hanswered⟩

end Seidrum.Foundation
