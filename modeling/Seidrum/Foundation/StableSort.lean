import Mathlib.Data.List.Lex
import Mathlib.Data.List.Sort

/-!
# Stable sorting by a key

A list sorted stably by a key is the list in ascending order whose elements of each key are those of
the original list, in their original order.  Grouping by ascending keys sorts stably, and sorting
first by one key and then by another loses nothing exactly when elements of equal second keys are
already in the order of the first.
-/

namespace Seidrum.Foundation

variable {α β κ μ : Type*} [LinearOrder κ] [LinearOrder μ] {key : α → κ} {l l' : List α}

/-- Sort by a key; elements of equal keys keep their order. -/
def sortByKey (key : α → κ) (l : List α) : List α := l.insertionSort fun a b ↦ key a ≤ key b

theorem sortByKey_perm (key : α → κ) (l : List α) : (sortByKey key l).Perm l :=
  List.perm_insertionSort _ l

variable {a : α} {p : α → Bool} {limit : ℕ} {groups : List β}

theorem mem_sortByKey : a ∈ sortByKey key l ↔ a ∈ l := (sortByKey_perm key l).mem_iff

theorem sortByKey_sorted (key : α → κ) (l : List α) :
    (sortByKey key l).Pairwise fun a b ↦ key a ≤ key b := by
  have : IsTrans α fun a b ↦ key a ≤ key b := ⟨fun _ _ _ ↦ le_trans⟩
  have : Std.Total fun a b ↦ key a ≤ key b := ⟨fun a b ↦ le_total (key a) (key b)⟩
  exact List.pairwise_insertionSort _ l

/-- Stability: the elements of each key stay in order. -/
theorem filter_sortByKey (key : α → κ) (l : List α) (k : κ) :
    (sortByKey key l).filter (key · = k) = l.filter (key · = k) := by
  have hclass : (l.filter (key · = k)).Pairwise fun a b ↦ key a ≤ key b := by
    refine List.pairwise_filter.mpr (List.pairwise_of_forall fun a b ha hb ↦ ?_)
    rw [of_decide_eq_true ha, of_decide_eq_true hb]
  have hsublist : (l.filter (key · = k)).Sublist (sortByKey key l) :=
    List.sublist_insertionSort hclass List.filter_sublist
  have hfiltered := hsublist.filter (key · = k)
  rw [List.filter_filter] at hfiltered
  simp only [Bool.and_self] at hfiltered
  exact (hfiltered.eq_of_length ((sortByKey_perm key l).filter _).length_eq.symm).symm

/-- A sorted list is determined by its elements of each key. -/
theorem eq_of_filter_eq (hl : l.Pairwise fun a b ↦ key a ≤ key b)
    (hl' : l'.Pairwise fun a b ↦ key a ≤ key b)
    (h : ∀ k, l.filter (key · = k) = l'.filter (key · = k)) : l = l' := by
  have hmem (a : α) : a ∈ l ↔ a ∈ l' := by
    have hclass : a ∈ l.filter (key · = key a) ↔ a ∈ l'.filter (key · = key a) := by rw [h]
    simpa using hclass
  induction l generalizing l' with
  | nil =>
    cases l' with
    | nil => rfl
    | cons b rest => exact absurd ((hmem b).mpr List.mem_cons_self) List.not_mem_nil
  | cons a rest ih =>
    cases l' with
    | nil => exact absurd ((hmem a).mp List.mem_cons_self) List.not_mem_nil
    | cons b rest' =>
      obtain ⟨hhead, hrest⟩ := List.pairwise_cons.mp hl
      obtain ⟨hhead', hrest'⟩ := List.pairwise_cons.mp hl'
      have hab : key a ≤ key b := by
        rcases List.mem_cons.mp ((hmem b).mpr List.mem_cons_self) with rfl | hold
        · exact le_rfl
        · exact hhead b hold
      have hba : key b ≤ key a := by
        rcases List.mem_cons.mp ((hmem a).mp List.mem_cons_self) with rfl | hold
        · exact le_rfl
        · exact hhead' a hold
      have heq : key a = key b := le_antisymm hab hba
      have hfirst := h (key a)
      simp only [List.filter_cons, heq, decide_true, if_true] at hfirst
      obtain rfl := (List.cons.inj hfirst).1
      have htails (k : κ) : rest.filter (key · = k) = rest'.filter (key · = k) := by
        have hk := h k
        by_cases hkey : key a = k
        · simp only [List.filter_cons, hkey, decide_true, if_true] at hk
          exact (List.cons.inj hk).2
        · simpa only [List.filter_cons, hkey, decide_false, Bool.false_eq_true, if_false] using hk
      have hmems (c : α) : c ∈ rest ↔ c ∈ rest' := by
        have hclass : c ∈ rest.filter (key · = key c) ↔ c ∈ rest'.filter (key · = key c) := by
          rw [htails]
        simpa using hclass
      rw [ih hrest hrest' htails hmems]

/-- What sorting stably means. -/
theorem eq_sortByKey_iff : l' = sortByKey key l ↔
    (l'.Pairwise fun a b ↦ key a ≤ key b) ∧ ∀ k, l'.filter (key · = k) = l.filter (key · = k) := by
  constructor
  · rintro rfl
    exact ⟨sortByKey_sorted key l, filter_sortByKey key l⟩
  · rintro ⟨hsorted, hclass⟩
    exact eq_of_filter_eq hsorted (sortByKey_sorted key l)
      fun k ↦ (hclass k).trans (filter_sortByKey key l k).symm

theorem filter_comm' (p q : α → Bool) (l : List α) : (l.filter p).filter q = (l.filter q).filter p := by
  rw [List.filter_filter, List.filter_filter]
  simp only [Bool.and_comm]

/-- Sorting commutes with keeping some elements. -/
theorem sortByKey_filter (p : α → Bool) (l : List α) :
    sortByKey key (l.filter p) = (sortByKey key l).filter p := by
  refine (eq_sortByKey_iff.mpr ⟨(sortByKey_sorted key l).filter p, fun k ↦ ?_⟩).symm
  rw [filter_comm', filter_sortByKey, filter_comm']

theorem sortByKey_eq_self_iff :
    sortByKey key l = l ↔ l.Pairwise fun a b ↦ key a ≤ key b := by
  constructor
  · intro h
    rw [← h]
    exact sortByKey_sorted key l
  · exact fun h ↦ (eq_sortByKey_iff.mpr ⟨h, fun _ ↦ rfl⟩).symm

/-- Sorting by another key first changes nothing exactly when elements of equal keys are already in
the order of the other. -/
theorem sortByKey_sortByKey_eq_iff (key : α → κ) (first : α → μ) :
    sortByKey key (sortByKey first l) = sortByKey key l ↔
      l.Pairwise fun a b ↦ key a = key b → first a ≤ first b := by
  have hclass : (l.Pairwise fun a b ↦ key a = key b → first a ≤ first b) ↔
      ∀ k, (l.filter (key · = k)).Pairwise fun a b ↦ first a ≤ first b := by
    constructor
    · intro h k
      refine List.pairwise_filter.mpr (h.imp fun hab ha hb ↦ hab ?_)
      rw [of_decide_eq_true ha, of_decide_eq_true hb]
    · intro h
      refine List.pairwise_iff_forall_sublist.mpr fun {a b} hab heq ↦ ?_
      exact List.pairwise_iff_forall_sublist.mp (List.pairwise_filter.mp (h (key b))) hab
        (decide_eq_true heq) (decide_eq_true rfl)
  rw [hclass, eq_sortByKey_iff]
  constructor
  · rintro ⟨-, h⟩ k
    rw [← sortByKey_eq_self_iff, sortByKey_filter, ← filter_sortByKey key (sortByKey first l) k]
    exact h k
  · intro h
    refine ⟨sortByKey_sorted key _, fun k ↦ ?_⟩
    rw [filter_sortByKey, ← sortByKey_filter]
    exact sortByKey_eq_self_iff.mpr (h k)

theorem take_filter_eq_take_iff {n : ℕ} : (l.filter p).take n = l.take n ↔ ∀ a ∈ l.take n, p a := by
  constructor
  · intro h a ha
    rw [← h] at ha
    exact (List.mem_filter.mp (List.mem_of_mem_take ha)).2
  · intro h
    induction l generalizing n with
    | nil => rfl
    | cons a rest ih =>
      cases n with
      | zero => rfl
      | succ n =>
        obtain ⟨ha, hrest⟩ := List.forall_mem_cons.mp (List.take_succ_cons ▸ h)
        rw [List.filter_cons_of_pos ha, List.take_succ_cons, List.take_succ_cons, ih hrest]

/-- The first elements by descending key. -/
def topByKey (key : α → κ) (limit : ℕ) (l : List α) : List α :=
  (sortByKey (fun a ↦ OrderDual.toDual (key a)) l).take limit

theorem mem_of_mem_topByKey (ha : a ∈ topByKey key limit l) : a ∈ l :=
  mem_sortByKey.mp (List.mem_of_mem_take ha)

/-- Leaving elements out leaves the first ones unchanged exactly when it leaves out none of them. -/
theorem topByKey_filter_eq_iff :
    topByKey key limit (l.filter p) = topByKey key limit l ↔
      ∀ a ∈ topByKey key limit l, p a := by
  unfold topByKey
  rw [sortByKey_filter]
  exact take_filter_eq_take_iff

/-- The same of what a map shows of the elements. -/
theorem map_topByKey_filter_eq_iff {f : α → β} (hf : ∀ a b, f a = f b → p a = p b) :
    (topByKey key limit (l.filter p)).map f = (topByKey key limit l).map f ↔
      ∀ a ∈ topByKey key limit l, p a := by
  constructor
  · intro h a ha
    have hmem : f a ∈ (topByKey key limit (l.filter p)).map f := h ▸ List.mem_map_of_mem ha
    obtain ⟨b, hb, heq⟩ := List.mem_map.mp hmem
    rw [← hf b a heq]
    exact (List.mem_filter.mp (mem_of_mem_topByKey hb)).2
  · exact fun h ↦ congrArg (List.map f) (topByKey_filter_eq_iff.mpr h)

/-- All groups but one are empty. -/
theorem flatMap_eq_of_unique {f : β → List α} {b : β} (hnodup : groups.Nodup) (hb : b ∈ groups)
    (hempty : ∀ c ∈ groups, c ≠ b → f c = []) : groups.flatMap f = f b := by
  obtain ⟨before, after, rfl⟩ := List.append_of_mem hb
  obtain ⟨-, hafter, hdisjoint⟩ := List.nodup_append.mp hnodup
  have hbefore : before.flatMap f = [] := List.flatMap_eq_nil_iff.mpr fun c hc ↦
    hempty c (List.mem_append_left _ hc) (hdisjoint c hc b List.mem_cons_self)
  have hrest : after.flatMap f = [] := List.flatMap_eq_nil_iff.mpr fun c hc ↦
    hempty c (List.mem_append_right _ (List.mem_cons_of_mem _ hc))
      fun heq ↦ (List.nodup_cons.mp hafter).1 (heq ▸ hc)
  rw [List.flatMap_append, List.flatMap_cons, hbefore, hrest, List.append_nil, List.nil_append]

/-- Groups laid out by ascending rank are the list sorted by the rank of its groups. -/
theorem flatMap_filter_eq_sortByKey [DecidableEq β] {group : α → β} {rank : β → κ}
    (hgroups : groups.Pairwise fun b c ↦ rank b < rank c) (hl : ∀ a ∈ l, group a ∈ groups) :
    (groups.flatMap fun b ↦ l.filter (group · = b)) = sortByKey (fun a ↦ rank (group a)) l := by
  refine eq_sortByKey_iff.mpr ⟨?_, fun k ↦ ?_⟩
  · refine List.pairwise_flatMap.mpr ⟨fun b _ ↦ ?_, hgroups.imp fun {b c} hlt x hx y hy ↦ ?_⟩
    · refine List.pairwise_filter.mpr (List.pairwise_of_forall fun x y hx hy ↦ ?_)
      rw [of_decide_eq_true hx, of_decide_eq_true hy]
    · rw [of_decide_eq_true (List.mem_filter.mp hx).2, of_decide_eq_true (List.mem_filter.mp hy).2]
      exact hlt.le
  · have hnodup : (groups.map rank).Nodup :=
      List.pairwise_map.mpr (hgroups.imp fun hlt ↦ hlt.ne)
    rw [List.filter_flatMap]
    by_cases hk : ∃ b ∈ groups, rank b = k
    · obtain ⟨b, hb, rfl⟩ := hk
      rw [flatMap_eq_of_unique (List.Nodup.of_map rank hnodup) hb]
      · rw [List.filter_filter]
        refine List.filter_congr fun a ha ↦ ?_
        by_cases hgroup : group a = b
        · simp [hgroup]
        · have hrank : rank (group a) ≠ rank b := fun heq ↦
            hgroup (List.inj_on_of_nodup_map hnodup (hl a ha) hb heq)
          simp [hrank]
      · intro c hc hne
        refine List.filter_eq_nil_iff.mpr fun a ha hrank ↦ hne ?_
        rw [of_decide_eq_true (List.mem_filter.mp ha).2] at hrank
        exact List.inj_on_of_nodup_map hnodup hc hb (of_decide_eq_true hrank)
    · have hnone : l.filter (fun a ↦ rank (group a) = k) = [] :=
        List.filter_eq_nil_iff.mpr fun a ha hrank ↦
          hk ⟨group a, hl a ha, of_decide_eq_true hrank⟩
      rw [hnone]
      refine List.flatMap_eq_nil_iff.mpr fun b hb ↦ List.filter_eq_nil_iff.mpr fun a ha hrank ↦ ?_
      rw [of_decide_eq_true (List.mem_filter.mp ha).2] at hrank
      exact hk ⟨b, hb, of_decide_eq_true hrank⟩

end Seidrum.Foundation
