import Mathlib.Data.List.Perm.Basic

/-!
# Elements of a list by position

Systems keep their parties in lists and name them by position: parties are added at the end, and a
step changes one of them in place.  What stands at a position after such a change is one of two
things.
-/

namespace Seidrum.Foundation

variable {α : Type*} {l : List α} {i j : ℕ} {a b : α} {f : α → α}

/-- Who stands where after one element was replaced. -/
theorem at_of_set (h : (l.set i a)[j]? = some b) :
    (i = j ∧ b = a) ∨ (i ≠ j ∧ l[j]? = some b) := by
  rw [List.getElem?_set] at h
  split_ifs at h with hij
  · exact .inl ⟨hij, (Option.some.inj h).symm⟩
  · exact .inr ⟨hij, h⟩

/-- Who stands where after one element was changed. -/
theorem at_of_modify (h : (l.modify i f)[j]? = some b) :
    (i = j ∧ ∃ before, l[j]? = some before ∧ b = f before) ∨ (i ≠ j ∧ l[j]? = some b) := by
  rw [List.getElem?_modify] at h
  obtain ⟨before, hbefore, hb⟩ := Option.map_eq_some_iff.mp h
  split_ifs at hb with hij
  · exact .inl ⟨hij, before, hbefore, hb.symm⟩
  · exact .inr ⟨hij, hb ▸ hbefore⟩

theorem mem_of_concat (h : b ∈ l ++ [a]) : b ∈ l ∨ b = a :=
  (List.mem_append.mp h).imp_right List.mem_singleton.mp

/-- Who stands where after one element was added. -/
theorem at_of_concat (h : (l ++ [a])[j]? = some b) :
    l[j]? = some b ∨ (j = l.length ∧ b = a) := by
  rw [List.getElem?_append] at h
  split_ifs at h with hj
  · exact .inl h
  · rw [List.getElem?_singleton] at h
    split_ifs at h with hzero
    exact .inr ⟨by omega, (Option.some.inj h).symm⟩

/-- Adding an element at the end keeps the positions of the others. -/
theorem at_concat (hat : l[i]? = some a) (b : α) : (l ++ [b])[i]? = some a := by
  rw [List.getElem?_append_left (List.getElem?_eq_some_iff.mp hat).1, hat]

theorem at_set_self (hat : l[i]? = some a) (b : α) : (l.set i b)[i]? = some b :=
  List.getElem?_set_self (List.getElem?_eq_some_iff.mp hat).1

theorem at_set_of_ne (hat : l[j]? = some a) (hne : j ≠ i) (b : α) : (l.set i b)[j]? = some a := by
  rw [List.getElem?_set_ne (Ne.symm hne), hat]

theorem modify_eq_set (hat : l[i]? = some a) (f : α → α) : l.modify i f = l.set i (f a) := by
  have : Inhabited α := ⟨a⟩
  rw [List.modify_eq_set, hat, Option.getD_some]

/-- Changing elements one after the other, where a second change does nothing. -/
theorem getElem?_foldl_modify (hf : ∀ a, f (f a) = f a) (positions : List ℕ) :
    (positions.foldl (fun l i ↦ l.modify i f) l)[j]? =
      if j ∈ positions then l[j]?.map f else l[j]? := by
  induction positions generalizing l with
  | nil => rfl
  | cons i rest ih =>
    rw [List.foldl_cons, ih, List.getElem?_modify]
    by_cases hij : i = j
    · subst hij
      cases l[i]? with
      | none => simp
      | some a => simp [hf]
    · have hmem : j ∈ i :: rest ↔ j ∈ rest :=
        ⟨fun h ↦ (List.mem_cons.mp h).resolve_left (Ne.symm hij), List.mem_cons_of_mem i⟩
      simp only [if_neg hij, hmem, Option.map_eq_map, Option.map_id_fun', id_eq]

theorem length_foldl_modify {β : Type*} (positions : List β) (g : β → ℕ) :
    (positions.foldl (fun l b ↦ l.modify (g b) f) l).length = l.length := by
  induction positions generalizing l with
  | nil => rfl
  | cons b rest ih => rw [List.foldl_cons, ih, List.length_modify]

/-- Replacing one element keeps the others. -/
theorem mem_set_of_ne (hat : l[i]? = some a) {a' : α} (hmem : b ∈ l) (hne : b ≠ a) :
    b ∈ l.set i a' := by
  obtain ⟨j, hatj⟩ := List.mem_iff_getElem?.mp hmem
  have hij : i ≠ j := by
    rintro rfl
    exact hne (Option.some.inj (hatj.symm.trans hat))
  apply List.mem_iff_getElem?.mpr
  exact ⟨j, by rw [List.getElem?_set_ne hij, hatj]⟩

/-- A change that keeps a field keeps the list of that field. -/
theorem map_modify {β : Type*} {g : α → β} (h : ∀ a, g (f a) = g a) :
    (l.modify i f).map g = l.map g := by
  apply List.ext_getElem?
  intro j
  rw [List.getElem?_map, List.getElem?_map, List.getElem?_modify]
  cases l[j]? with
  | none => rfl
  | some a =>
    change some (g (if i = j then f a else a)) = some (g a)
    split_ifs
    · rw [h]
    · rfl

theorem map_set_of_eq {β : Type*} {g : α → β} (hat : l[i]? = some a) (h : g b = g a) :
    (l.set i b).map g = l.map g := by
  obtain ⟨hi, rfl⟩ := List.getElem?_eq_some_iff.mp hat
  rw [List.map_set, h, ← List.getElem_map g (h := by rwa [List.length_map]),
    List.set_getElem_self]

theorem mem_eraseIdx_of_ne (hat : l[i]? = some a) (hmem : b ∈ l) (hne : b ≠ a) :
    b ∈ l.eraseIdx i := by
  obtain ⟨hi, rfl⟩ := List.getElem?_eq_some_iff.mp hat
  have hcons := (List.getElem_cons_eraseIdx_perm hi).mem_iff.mpr hmem
  exact (List.mem_cons.mp hcons).resolve_left hne

section Count

variable {β : Type*} [BEq β] (f : α → List β) (x : β)

theorem count_flatMap_eraseIdx (hat : l[i]? = some a) :
    (l.flatMap f).count x = (f a).count x + ((l.eraseIdx i).flatMap f).count x := by
  obtain ⟨hi, rfl⟩ := List.getElem?_eq_some_iff.mp hat
  have hperm := (List.getElem_cons_eraseIdx_perm hi).symm.flatMap_right f
  rw [hperm.count_eq, List.flatMap_cons, List.count_append]

theorem count_map_eraseIdx (g : α → β) (hat : l[i]? = some a) :
    (l.map g).count x = (g a :: (l.eraseIdx i).map g).count x := by
  obtain ⟨hi, rfl⟩ := List.getElem?_eq_some_iff.mp hat
  exact ((List.getElem_cons_eraseIdx_perm hi).symm.map g).count_eq x

theorem count_flatMap_set (hat : l[i]? = some a) (b : α) :
    (f a).count x + ((l.set i b).flatMap f).count x = (f b).count x + (l.flatMap f).count x := by
  have hi := (List.getElem?_eq_some_iff.mp hat).1
  have hperm := (List.set_perm_cons_eraseIdx hi b).flatMap_right f
  rw [hperm.count_eq, List.flatMap_cons, List.count_append, count_flatMap_eraseIdx f x hat]
  omega

end Count

end Seidrum.Foundation
