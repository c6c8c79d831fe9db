import Mathlib.Data.List.DropRight

/-!
# The end of a list that fits

A buffer that drops its first items while it is too long keeps the longest end of the list that fits.
Whether the kept end is also what the reversed list ends with is a matter of how far the list reads the
same from both sides.
-/

namespace Seidrum.Foundation

variable {α : Type*} (fits : List α → Prop) [DecidablePred fits]

/-- The list without its first items, as few of them as makes it fit. -/
def lastFitting : List α → List α
  | [] => []
  | item :: rest => if fits (item :: rest) then item :: rest else lastFitting rest

variable {fits}

theorem lastFitting_of_fits {l : List α} (h : fits l) : lastFitting fits l = l := by
  cases l with
  | nil => rfl
  | cons item rest => rw [lastFitting, if_pos h]

theorem lastFitting_suffix (l : List α) : lastFitting fits l <:+ l := by
  induction l with
  | nil => exact List.suffix_refl []
  | cons item rest ih =>
    rw [lastFitting]
    split_ifs
    · exact List.suffix_refl _
    · exact ih.trans (List.suffix_cons item rest)

theorem fits_lastFitting (hnil : fits []) (l : List α) : fits (lastFitting fits l) := by
  induction l with
  | nil => exact hnil
  | cons item rest ih =>
    rw [lastFitting]
    split_ifs with hfits
    · exact hfits
    · exact ih

/-- Every end that fits is an end of the kept one. -/
theorem suffix_lastFitting {l s : List α} (hs : s <:+ l) (hfits : fits s) :
    s <:+ lastFitting fits l := by
  induction l with
  | nil => exact hs
  | cons item rest ih =>
    rw [lastFitting]
    split_ifs with hwhole
    · exact hs
    · rcases List.suffix_cons_iff.mp hs with rfl | hrest
      · exact absurd hfits hwhole
      · exact ih hrest

omit [DecidablePred fits] in
/-- An end of a list stands at the end of the reversed list exactly if the list reads the same from both
sides, as far as the end reaches. -/
theorem rtake_suffix_reverse_iff {l : List α} {n : ℕ} (hn : n ≤ l.length) :
    l.rtake n <:+ l.reverse ↔ ∀ i < n, l[i]? = l.reverse[i]? := by
  rw [← List.reverse_prefix, List.reverse_reverse, List.rtake_eq_reverse_take_reverse,
    List.reverse_reverse]
  constructor
  · intro hprefix i hi
    have hlength : i < (l.reverse.take n).length := by simp; omega
    have hat := List.prefix_iff_getElem?.mp hprefix i hlength
    rw [hat, List.getElem_take, List.getElem?_eq_getElem (by simp; omega)]
  · intro hmirrored
    apply List.prefix_iff_getElem?.mpr
    intro i hi
    have hin : i < n ∧ i < l.length := by simpa [Nat.lt_min] using hi
    rw [hmirrored i hin.1, List.getElem_take, List.getElem?_eq_getElem (by simp; omega)]

variable (fits) in
/-- The list reads the same from both sides, as far as its ends fit. -/
def Mirrored (l : List α) : Prop :=
  ∀ i < l.length, fits (l.rtake (i + 1)) → l[i]? = l.reverse[i]?

instance [DecidableEq α] : DecidablePred (Mirrored fits) :=
  fun l ↦ inferInstanceAs (Decidable (∀ i < l.length, fits _ → _))

/-- Where the ends of what fits fit as well, the kept end stands at the end of the reversed list exactly
if the list is mirrored. -/
theorem lastFitting_suffix_reverse_iff (hnil : fits []) (hsuffix : ∀ s l, s <:+ l → fits l → fits s)
    (l : List α) : lastFitting fits l <:+ l.reverse ↔ Mirrored fits l := by
  have hkept : lastFitting fits l = l.rtake (lastFitting fits l).length :=
    List.suffix_iff_eq_drop.mp (lastFitting_suffix l)
  rw [hkept, rtake_suffix_reverse_iff (lastFitting_suffix l).length_le]
  constructor
  · intro hmirrored i hi hfits
    refine hmirrored i ?_
    have hlength := (suffix_lastFitting (List.drop_suffix _ _) hfits).length_le
    simp only [List.length_drop] at hlength
    omega
  · intro hmirrored i hi
    refine hmirrored i (hi.trans_le (lastFitting_suffix l).length_le) ?_
    refine hsuffix _ _ ?_ (fits_lastFitting hnil l)
    rw [hkept, List.rtake, List.rtake]
    exact List.drop_suffix_drop_left l (by omega)

/-- What is kept of a list behind another is what would be kept of it alone. -/
theorem rtake_lastFitting_append (hnil : fits []) (hsuffix : ∀ s l, s <:+ l → fits l → fits s)
    (front l : List α) : (lastFitting fits (front ++ l)).rtake l.length = lastFitting fits l := by
  have hend : (lastFitting fits (front ++ l)).rtake l.length <:+ lastFitting fits (front ++ l) :=
    List.drop_suffix _ _
  have hwhole : lastFitting fits l <:+ lastFitting fits (front ++ l) :=
    suffix_lastFitting ((lastFitting_suffix l).trans (List.suffix_append front l))
      (fits_lastFitting hnil l)
  have hlength : ((lastFitting fits (front ++ l)).rtake l.length).length ≤ l.length := by
    simp only [List.rtake, List.length_drop]
    omega
  have hle : (lastFitting fits l).length ≤
      ((lastFitting fits (front ++ l)).rtake l.length).length := by
    have hkept := hwhole.length_le
    have hbound := (lastFitting_suffix l : lastFitting fits l <:+ l).length_le
    simp only [List.rtake, List.length_drop]
    omega
  have hinside : (lastFitting fits (front ++ l)).rtake l.length <:+ lastFitting fits l := by
    refine suffix_lastFitting ?_ (hsuffix _ _ hend (fits_lastFitting hnil _))
    exact List.suffix_of_suffix_length_le (hend.trans (lastFitting_suffix _))
      (List.suffix_append front l) hlength
  exact hinside.eq_of_length (Nat.le_antisymm hinside.length_le hle)

end Seidrum.Foundation
