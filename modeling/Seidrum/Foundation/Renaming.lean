import Mathlib.Data.List.Basic

/-!
# Replacing one letter by another

A word is written with one letter in place of another.  Two words become the same exactly if they
differ only in the two letters, a word stays as it is exactly if it does not have the replaced letter,
and replacing back gives the word exactly if it did not have the other one.
-/

namespace Seidrum.Foundation

variable {α : Type*} [DecidableEq α]

def replaceLetter (old new : α) (word : List α) : List α :=
  word.map fun letter ↦ if letter = old then new else letter

/-- The words differ only where both have one of the two letters. -/
def AlikeUpTo (first second : α) : List α → List α → Prop :=
  List.Forall₂ fun x y ↦ x = y ∨ (x ∈ [first, second] ∧ y ∈ [first, second])

variable {old new : α} {word : List α}

theorem replaceLetter_eq_iff {other : List α} :
    replaceLetter old new word = replaceLetter old new other ↔ AlikeUpTo old new word other := by
  have hletter : ∀ x y : α, ((if x = old then new else x) = if y = old then new else y) ↔
      (x = y ∨ (x ∈ [old, new] ∧ y ∈ [old, new])) := by
    intro x y
    simp only [List.mem_cons, List.not_mem_nil, or_false]
    split_ifs with hx hy hy <;> grind
  unfold replaceLetter AlikeUpTo
  induction word generalizing other with
  | nil =>
    cases other with
    | nil => exact iff_of_true rfl .nil
    | cons y others => exact iff_of_false (by simp) fun h ↦ by cases h
  | cons x rest ih =>
    cases other with
    | nil => exact iff_of_false (by simp) fun h ↦ by cases h
    | cons y others =>
      rw [List.map_cons, List.map_cons, List.cons.injEq, List.forall₂_cons]
      exact and_congr (hletter x y) ih

theorem replaceLetter_eq_self_iff (hne : old ≠ new) :
    replaceLetter old new word = word ↔ old ∉ word := by
  induction word with
  | nil => simp [replaceLetter]
  | cons letter rest ih =>
    have hletter : (if letter = old then new else letter) = letter ↔ letter ≠ old := by
      split_ifs with h
      · subst h
        exact iff_of_false (Ne.symm hne) (not_not.mpr rfl)
      · exact iff_of_true rfl h
    unfold replaceLetter at ih ⊢
    rw [List.map_cons, List.cons.injEq, hletter, ih, List.mem_cons, not_or]
    exact and_congr_left' ne_comm

/-- A replaced word has the new letter where it had one of the two. -/
theorem mem_replaceLetter_iff : new ∈ replaceLetter old new word ↔ old ∈ word ∨ new ∈ word := by
  induction word with
  | nil => simp [replaceLetter]
  | cons letter rest ih =>
    have hletter : new = (if letter = old then new else letter) ↔ old = letter ∨ new = letter := by
      split_ifs with h
      · exact iff_of_true rfl (.inl h.symm)
      · exact ⟨.inr, fun hor ↦ hor.resolve_left fun heq ↦ h heq.symm⟩
    unfold replaceLetter at ih ⊢
    rw [List.map_cons, List.mem_cons, ih, hletter, List.mem_cons, List.mem_cons]
    tauto

/-- Replacing back gives the word that had none of the letter it was replaced by. -/
theorem replaceLetter_replaceLetter_eq_iff (hne : old ≠ new) :
    replaceLetter new old (replaceLetter old new word) = word ↔ new ∉ word := by
  induction word with
  | nil => simp [replaceLetter]
  | cons letter rest ih =>
    have hletter : (if (if letter = old then new else letter) = new then old
        else if letter = old then new else letter) = letter ↔ new ≠ letter := by
      split_ifs with h hnew
      · subst h
        exact iff_of_true rfl (Ne.symm hne)
      · exact absurd rfl hnew
      · next hsame =>
        subst hsame
        exact iff_of_false (Ne.symm h) (not_not.mpr rfl)
      · next hother => exact iff_of_true rfl (Ne.symm hother)
    unfold replaceLetter at ih ⊢
    rw [List.map_cons, List.map_cons, List.cons.injEq, hletter, ih, List.mem_cons, not_or]

end Seidrum.Foundation
