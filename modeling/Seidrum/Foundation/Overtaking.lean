import Mathlib.Data.List.TakeWhile

/-!
# Operations that overtake each other

A service reads operations from several queues.  Each queue keeps its order, but the service may take
the next operation from any of them.  All that waits is kept in the order in which it was issued; the
next operation of a queue overtakes what was issued to other queues before it.  If it commutes with all
it overtakes, what the waiting operations amount to stays the same.
-/

namespace Seidrum.Foundation

variable {σ α : Type*} {queue other : α → Bool} {waiting : List α} {op : α}

/-- What waits before the next operation of a queue. -/
def overtaken (queue : α → Bool) (waiting : List α) : List α := waiting.takeWhile fun op ↦ !queue op

/-- What is overtaken belongs to other queues. -/
theorem queue_eq_false_of_mem_overtaken (h : op ∈ overtaken queue waiting) : queue op = false := by
  have hother := List.mem_takeWhile_imp h
  rwa [Bool.not_eq_true'] at hother

/-- The next operation of a queue stands behind what it overtakes. -/
theorem exists_overtaken (h : waiting.find? queue = some op) :
    ∃ rest, waiting = overtaken queue waiting ++ op :: rest ∧
      waiting.eraseP queue = overtaken queue waiting ++ rest := by
  induction waiting with
  | nil => cases h
  | cons first rest ih =>
    cases hfirst : queue first with
    | true =>
      rw [List.find?_cons_of_pos hfirst] at h
      cases h
      refine ⟨rest, ?_, ?_⟩
      all_goals simp [overtaken, hfirst]
    | false =>
      rw [List.find?_cons_of_neg (by simp [hfirst])] at h
      obtain ⟨after, hwaiting, herase⟩ := ih h
      have hovertaken : overtaken queue (first :: rest) = first :: overtaken queue rest := by
        simp [overtaken, hfirst]
      refine ⟨after, ?_, ?_⟩
      · rw [hovertaken, List.cons_append, ← hwaiting]
      · rw [hovertaken, List.cons_append, List.eraseP_cons_of_neg (by simp [hfirst]), herase]

/-- An operation that commutes with others may be applied before them. -/
theorem foldl_apply_of_commutes {apply : σ → α → σ} {before : List α}
    (hcommutes : ∀ x ∈ before, ∀ s, apply (apply s op) x = apply (apply s x) op) (s : σ) :
    before.foldl apply (apply s op) = apply (before.foldl apply s) op := by
  induction before generalizing s with
  | nil => rfl
  | cons first rest ih =>
    calc
      (first :: rest).foldl apply (apply s op) = rest.foldl apply (apply (apply s first) op) := by
        rw [List.foldl_cons, hcommutes first List.mem_cons_self]
      _ = apply ((first :: rest).foldl apply s) op := by
        rw [ih (fun x hx ↦ hcommutes x (List.mem_cons_of_mem _ hx)), List.foldl_cons]

/-- What waits amounts to the same after an operation that commutes with all it overtakes. -/
theorem foldl_eraseP {apply : σ → α → σ} (hnext : waiting.find? queue = some op)
    (hcommutes : ∀ x ∈ overtaken queue waiting, ∀ s, apply (apply s op) x = apply (apply s x) op)
    (s : σ) : (waiting.eraseP queue).foldl apply (apply s op) = waiting.foldl apply s := by
  obtain ⟨rest, hwaiting, herase⟩ := exists_overtaken hnext
  calc
    (waiting.eraseP queue).foldl apply (apply s op) =
        rest.foldl apply ((overtaken queue waiting).foldl apply (apply s op)) := by
      rw [herase, List.foldl_append]
    _ = (op :: rest).foldl apply ((overtaken queue waiting).foldl apply s) := by
      rw [foldl_apply_of_commutes hcommutes, List.foldl_cons]
    _ = waiting.foldl apply s := by rw [← List.foldl_append, ← hwaiting]

end Seidrum.Foundation
