import Mathlib.Data.List.Basic

/-!
# Texts joined at a marker

Two texts are joined with a marker between them: a word between two separators.  The join can be cut
in another place exactly when one of the texts itself holds the marker, whole or up to its last
separator, which the marker that follows then provides.
-/

namespace Seidrum.Foundation

variable {α : Type*} (sep : α) (word : List α)

/-- A word between two separators. -/
def marker : List α := sep :: (word ++ [sep])

/-- The first text `long` holds `short` and the marker, so that `long`, the marker and `rest` read as
`short`, the marker and `tail` as well. -/
def Overruns (long rest short tail : List α) : Prop :=
  (long = short ++ sep :: word ∧ tail = word ++ sep :: rest) ∨
    ∃ middle, long = short ++ (marker sep word ++ middle) ∧
      tail = middle ++ (marker sep word ++ rest)

variable {sep word} {long rest short tail : List α}

theorem Overruns.append_eq (h : Overruns sep word long rest short tail) :
    long ++ (marker sep word ++ rest) = short ++ (marker sep word ++ tail) := by
  obtain ⟨rfl, rfl⟩ | ⟨middle, rfl, rfl⟩ := h
  · simp [marker]
  · simp

theorem Overruns.length_lt (h : Overruns sep word long rest short tail) :
    short.length < long.length := by
  obtain ⟨rfl, rfl⟩ | ⟨middle, rfl, rfl⟩ := h
  · simp
  · simp [marker]

/-- A separator in the word closed by a separator is the closing one. -/
theorem split_at_sep (hsep : sep ∉ word) {before after : List α}
    (h : word ++ [sep] = before ++ sep :: after) : before = word ∧ after = [] := by
  induction before generalizing word with
  | nil =>
    cases word with
    | nil => exact ⟨rfl, (List.cons.inj h).2.symm⟩
    | cons letter word =>
      have hletter := (List.cons.inj h).1
      exact absurd (hletter ▸ List.mem_cons_self) hsep
  | cons first before ih =>
    cases word with
    | nil =>
      have hnil := (List.cons.inj h).2
      exact absurd hnil.symm (List.append_ne_nil_of_right_ne_nil before (List.cons_ne_nil sep after))
    | cons letter word =>
      obtain ⟨rfl, hrest⟩ := List.cons.inj h
      have hword := ih (fun hmem ↦ hsep (List.mem_cons_of_mem _ hmem)) hrest
      exact ⟨congrArg _ hword.1, hword.2⟩

/-- What the longer first text holds beyond the shorter one. -/
theorem overruns_of_append_eq (hsep : sep ∉ word) {extra : List α} (hextra : extra ≠ [])
    (h : extra ++ (marker sep word ++ rest) = marker sep word ++ tail) (short : List α) :
    Overruns sep word (short ++ extra) rest short tail := by
  rcases List.append_eq_append_iff.mp h with ⟨overlap, hmarker, hrest⟩ | ⟨middle, hextra', htail⟩
  · -- `extra` ends inside the marker, so it stops right before the closing separator
    obtain ⟨first, extra, rfl⟩ := List.exists_cons_of_ne_nil hextra
    obtain ⟨rfl, hword⟩ := List.cons.inj hmarker
    cases overlap with
    | nil =>
      refine .inr ⟨[], ?_, ?_⟩
      · rw [List.append_nil, hmarker, List.append_nil]
      · simpa using hrest.symm
    | cons letter overlap =>
      obtain ⟨rfl, hafter⟩ := List.cons.inj hrest
      obtain ⟨rfl, rfl⟩ := split_at_sep hsep hword
      refine .inl ⟨rfl, ?_⟩
      simpa using hafter.symm
  · exact .inr ⟨middle, by rw [hextra'], htail⟩

/-- Two joins are the same text when both parts are, or when one first part overruns the other. -/
theorem append_marker_eq_iff (hsep : sep ∉ word) :
    long ++ (marker sep word ++ rest) = short ++ (marker sep word ++ tail) ↔
      (long = short ∧ rest = tail) ∨ Overruns sep word long rest short tail ∨
        Overruns sep word short tail long rest := by
  constructor
  · intro h
    rcases List.append_eq_append_iff.mp h with ⟨extra, rfl, hcut⟩ | ⟨extra, rfl, hcut⟩
    · by_cases hextra : extra = []
      · subst hextra
        exact .inl ⟨(List.append_nil long).symm, List.append_cancel_left hcut⟩
      · exact .inr (.inr (overruns_of_append_eq hsep hextra hcut.symm long))
    · by_cases hextra : extra = []
      · subst hextra
        exact .inl ⟨List.append_nil short, (List.append_cancel_left hcut).symm⟩
      · exact .inr (.inl (overruns_of_append_eq hsep hextra hcut.symm short))
  · rintro (⟨rfl, rfl⟩ | hlong | hshort)
    · rfl
    · exact hlong.append_eq
    · exact hshort.append_eq.symm

end Seidrum.Foundation
