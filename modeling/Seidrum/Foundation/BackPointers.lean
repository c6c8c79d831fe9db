import Mathlib.Data.List.AList
import Mathlib.Logic.Function.Basic

/-!
# A map and the map back

The values of a map may carry a name of their own, and a second map leads from the names back to the
keys.  The two are updated one after the other: a value gets another name, is dropped, or all names are
taken away.  As long as no name is given to two keys, each map determines the other.
-/

namespace Seidrum.Foundation

variable {κ ι ν : Type*}

/-- A name leads to a key exactly if the value of the key carries it. -/
def LeadsBack (name : ν → Option ι) (values : κ → Option ν) (back : ι → Option κ) : Prop :=
  ∀ i k, back i = some k ↔ ∃ v, values k = some v ∧ name v = some i

/-- The map back without a name. -/
def forgetName [DecidableEq ι] (back : ι → Option κ) : Option ι → ι → Option κ
  | some i => Function.update back i none
  | none => back

namespace LeadsBack

variable {name : ν → Option ι} {values : κ → Option ν} {back : ι → Option κ} {k k' : κ} {i : ι}
  {v v' : ν}

theorem empty (name : ν → Option ι) :
    LeadsBack name (fun _ : κ ↦ none) (fun _ ↦ none) :=
  fun _ _ ↦ ⟨fun h ↦ (by cases h), fun ⟨_, h, _⟩ ↦ by cases h⟩

theorem back_eq (h : LeadsBack name values back) (hvalue : values k = some v)
    (hname : name v = some i) : back i = some k :=
  (h i k).mpr ⟨v, hvalue, hname⟩

/-- All names are taken away. -/
theorem clear (hnames : ∀ k v, values k = some v → name v = none) :
    LeadsBack name values (fun _ ↦ none) := by
  refine fun i k ↦ ⟨fun hnone ↦ (by cases hnone), ?_⟩
  rintro ⟨v, hvalue, hname⟩
  rw [hnames k v hvalue] at hname
  cases hname

/-- A value without a name takes the place of none. -/
theorem add [DecidableEq κ] (h : LeadsBack name values back) (habsent : values k = none)
    (hname : name v = none) : LeadsBack name (Function.update values k (some v)) back := by
  intro i k'
  by_cases hk : k' = k
  · subst hk
    rw [h, habsent, Function.update_self]
    refine ⟨fun ⟨_, hnone, _⟩ ↦ (by cases hnone), ?_⟩
    rintro ⟨_, ⟨⟩, hsome⟩
    rw [hname] at hsome
    cases hsome
  · rw [h, Function.update_of_ne hk]

variable [DecidableEq ι]

/-- To forget the name of a value is to forget what leads to its key. -/
theorem forgetName_eq [DecidableEq κ] (h : LeadsBack name values back) (hvalue : values k = some v)
    (i : ι) : forgetName back (name v) i = if back i = some k then none else back i := by
  have hcarried (hback : back i = some k) : name v = some i := by
    obtain ⟨w, hw, hwname⟩ := (h i k).mp hback
    obtain rfl := Option.some.inj (hvalue.symm.trans hw)
    exact hwname
  cases hname : name v with
  | none =>
    have hback : back i ≠ some k := fun hback ↦ by cases hname.symm.trans (hcarried hback)
    rw [forgetName, if_neg hback]
  | some old =>
    rw [forgetName]
    by_cases hi : i = old
    · subst hi
      rw [Function.update_self, if_pos (h.back_eq hvalue hname)]
    · have hback : back i ≠ some k :=
        fun hback ↦ hi (Option.some.inj ((hcarried hback).symm.trans hname))
      rw [Function.update_of_ne hi, if_neg hback]

/-- What leads to another key than that of the forgotten name. -/
theorem forgetName_eq_some [DecidableEq κ] (h : LeadsBack name values back)
    (hvalue : values k = some v) :
    forgetName back (name v) i = some k' ↔ back i = some k' ∧ k' ≠ k := by
  rw [h.forgetName_eq hvalue]
  split_ifs with hback
  · rw [hback]
    exact ⟨fun hnone ↦ (by cases hnone), fun ⟨heq, hne⟩ ↦ absurd (Option.some.inj heq).symm hne⟩
  · refine ⟨fun hother ↦ ⟨hother, ?_⟩, And.left⟩
    rintro rfl
    exact hback hother

variable [DecidableEq κ]

/-- A value is replaced by one with another name, which leads nowhere else. -/
theorem rename (h : LeadsBack name values back) (hvalue : values k = some v)
    (hname : name v' = some i) (hfree : ∀ k', back i = some k' → k' = k) :
    LeadsBack name (Function.update values k (some v'))
      (Function.update (forgetName back (name v)) i (some k)) := by
  intro j k'
  by_cases hj : j = i
  · subst hj
    rw [Function.update_self]
    by_cases hk : k' = k
    · subst hk
      rw [Function.update_self]
      exact ⟨fun _ ↦ ⟨v', rfl, hname⟩, fun _ ↦ rfl⟩
    · rw [Function.update_of_ne hk]
      refine ⟨fun heq ↦ absurd (Option.some.inj heq).symm hk, ?_⟩
      exact fun hback ↦ absurd (hfree k' ((h j k').mpr hback)) hk
  · rw [Function.update_of_ne hj, h.forgetName_eq_some hvalue]
    by_cases hk : k' = k
    · subst hk
      rw [Function.update_self]
      refine ⟨fun ⟨_, hne⟩ ↦ absurd rfl hne, ?_⟩
      rintro ⟨_, ⟨⟩, hother⟩
      exact absurd (Option.some.inj (hother.symm.trans hname)) hj
    · rw [Function.update_of_ne hk, h j k']
      exact ⟨And.left, fun hback ↦ ⟨hback, hk⟩⟩

/-- A value is dropped with its name. -/
theorem drop (h : LeadsBack name values back) (hvalue : values k = some v) :
    LeadsBack name (Function.update values k none) (forgetName back (name v)) := by
  intro j k'
  rw [h.forgetName_eq_some hvalue]
  by_cases hk : k' = k
  · subst hk
    rw [Function.update_self]
    exact ⟨fun ⟨_, hne⟩ ↦ absurd rfl hne, fun ⟨_, hnone, _⟩ ↦ (by cases hnone)⟩
  · rw [Function.update_of_ne hk, h j k']
    exact ⟨And.left, fun hback ↦ ⟨hback, hk⟩⟩

end LeadsBack

section AList

variable [DecidableEq κ] {map : AList fun _ : κ ↦ ν}

theorem lookup_insert_eq_update (key : κ) (value : ν) :
    (fun other ↦ (map.insert key value).lookup other) =
      Function.update (fun other ↦ map.lookup other) key (some value) := by
  funext other
  by_cases hother : other = key
  · subst hother
    rw [Function.update_self, AList.lookup_insert]
  · rw [Function.update_of_ne hother, AList.lookup_insert_ne hother]

theorem lookup_erase_eq_update (key : κ) :
    (fun other ↦ (map.erase key).lookup other) =
      Function.update (fun other ↦ map.lookup other) key none := by
  funext other
  by_cases hother : other = key
  · subst hother
    rw [Function.update_self, AList.lookup_erase]
  · rw [Function.update_of_ne hother, AList.lookup_erase_ne hother]

end AList

end Seidrum.Foundation
