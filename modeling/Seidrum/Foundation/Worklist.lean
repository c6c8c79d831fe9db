import Mathlib.Data.Finset.Card
import Mathlib.Logic.Relation

/-!
# Closure by a worklist

A worklist visits everything that links lead to from its seeds, each thing once.  Links that lead to
finitely many things are followed in finitely many steps.
-/

namespace Seidrum.Foundation

/-- Links that lead to finitely many things. -/
structure Links (α : Type*) where
  next : α → List α
  targets : List α
  mem_targets : ∀ a, ∀ b ∈ next a, b ∈ targets

namespace Links

variable {α : Type*} (links : Links α)

def Leads (a b : α) : Prop := b ∈ links.next a

/-- Push what something leads to on a stack, the last link on top. -/
def push (a : α) (stack : List α) : List α := (links.next a).reverse ++ stack

theorem mem_push {a b : α} {stack : List α} :
    b ∈ links.push a stack ↔ links.Leads a b ∨ b ∈ stack := by
  simp [push, Leads]

variable [DecidableEq α]

/-- What is on the stack or may be pushed on it, and is not visited. -/
def remaining (stack visited : List α) : Finset α := (links.targets ++ stack).toFinset \ visited.toFinset

theorem remaining_pop (a : α) (rest visited : List α) :
    links.remaining rest visited ⊆ links.remaining (a :: rest) visited := by
  refine Finset.sdiff_subset_sdiff (fun b hb ↦ ?_) le_rfl
  simp only [List.mem_toFinset, List.mem_append, List.mem_cons] at hb ⊢
  exact hb.imp_right .inr

theorem remaining_push {a : α} {visited : List α} (ha : a ∉ visited) (rest : List α) :
    links.remaining (links.push a rest) (a :: visited) ⊂ links.remaining (a :: rest) visited := by
  refine Finset.ssubset_iff_of_subset (fun b hb ↦ ?_) |>.mpr ⟨a, by simp [remaining, ha], by simp [remaining]⟩
  simp only [remaining, Finset.mem_sdiff, List.mem_toFinset, List.mem_append, mem_push, List.mem_cons,
    not_or] at hb ⊢
  refine ⟨?_, hb.2.2⟩
  rcases hb.1 with htarget | hlink | hrest
  · exact .inl htarget
  · exact .inl (links.mem_targets a b hlink)
  · exact .inr (.inr hrest)

/-- Follow the links from a stack of things, the top first. -/
def visit (stack visited : List α) : List α :=
  match stack with
  | [] => visited
  | a :: rest =>
      if a ∈ visited then visit rest visited
      else visit (links.push a rest) (a :: visited)
termination_by ((links.remaining stack visited).card, stack.length)
decreasing_by
  · rcases (Finset.card_le_card (links.remaining_pop a rest visited)).lt_or_eq with hless | hsame
    · exact .left _ _ hless
    · rw [hsame]
      exact .right _ (Nat.lt_succ_self _)
  · exact .left _ _ (Finset.card_lt_card (links.remaining_push ‹_› rest))

variable {links} {stack visited : List α}

/-- Nothing is visited that the links do not lead to. -/
theorem of_mem_visit {P : α → Prop} (hclosed : ∀ a b, P a → links.Leads a b → P b)
    (hstack : ∀ a ∈ stack, P a) (hvisited : ∀ a ∈ visited, P a) :
    ∀ a ∈ links.visit stack visited, P a := by
  fun_induction visit links stack visited with
  | case1 visited => exact hvisited
  | case2 visited a rest hmem ih =>
    exact ih (fun b hb ↦ hstack b (List.mem_cons_of_mem a hb)) hvisited
  | case3 visited a rest hmem ih =>
    have ha : P a := hstack a List.mem_cons_self
    refine ih (fun b hb ↦ ?_) (List.forall_mem_cons.mpr ⟨ha, hvisited⟩)
    rcases links.mem_push.mp hb with hlink | hrest
    · exact hclosed a b ha hlink
    · exact hstack b (List.mem_cons_of_mem a hrest)

/-- What is on the stack or visited is visited in the end, and so is all it leads to. -/
theorem visit_closed
    (h : ∀ a ∈ visited, ∀ b, links.Leads a b → b ∈ visited ∨ b ∈ stack) :
    (∀ a, a ∈ visited ∨ a ∈ stack → a ∈ links.visit stack visited) ∧
      ∀ a ∈ links.visit stack visited, ∀ b, links.Leads a b → b ∈ links.visit stack visited := by
  fun_induction visit links stack visited with
  | case1 visited =>
    simp only [List.not_mem_nil, or_false] at h ⊢
    exact ⟨fun _ ha ↦ ha, h⟩
  | case2 visited a rest hmem ih =>
    obtain ⟨hkept, hclosed⟩ := ih fun b hb c hbc ↦ by
      rcases h b hb c hbc with hc | hc
      · exact .inl hc
      · rcases List.mem_cons.mp hc with rfl | hrest
        · exact .inl hmem
        · exact .inr hrest
    refine ⟨fun b hb ↦ hkept b ?_, hclosed⟩
    rcases hb with hb | hb
    · exact .inl hb
    · rcases List.mem_cons.mp hb with rfl | hrest
      · exact .inl hmem
      · exact .inr hrest
  | case3 visited a rest hmem ih =>
    obtain ⟨hkept, hclosed⟩ := ih fun b hb c hbc ↦ by
      rcases List.mem_cons.mp hb with rfl | hb
      · exact .inr (links.mem_push.mpr (.inl hbc))
      · rcases h b hb c hbc with hc | hc
        · exact .inl (List.mem_cons_of_mem a hc)
        · rcases List.mem_cons.mp hc with rfl | hrest
          · exact .inl List.mem_cons_self
          · exact .inr (links.mem_push.mpr (.inr hrest))
    refine ⟨fun b hb ↦ hkept b ?_, hclosed⟩
    rcases hb with hb | hb
    · exact .inl (List.mem_cons_of_mem a hb)
    · rcases List.mem_cons.mp hb with rfl | hrest
      · exact .inl List.mem_cons_self
      · exact .inr (links.mem_push.mpr (.inr hrest))

theorem visit_singleton {a : α} (h : links.next a = []) : links.visit [a] [] = [a] := by
  simp [visit, push, h]

theorem mem_visit_of_mem {a : α} (h : a ∈ visited) : a ∈ links.visit stack visited := by
  fun_induction visit links stack visited with
  | case1 visited => exact h
  | case2 visited b rest hmem ih => exact ih h
  | case3 visited b rest hmem ih => exact ih (List.mem_cons_of_mem b h)

/-- Links that differ only at what is not visited visit the same. -/
theorem visit_congr {other : Links α}
    (h : ∀ a ∈ links.visit stack visited, other.next a = links.next a) :
    other.visit stack visited = links.visit stack visited := by
  fun_induction visit links stack visited with
  | case1 visited => rw [visit]
  | case2 visited a rest hmem ih => rw [visit, if_pos hmem, ih h]
  | case3 visited a rest hmem ih =>
    have hnext : other.next a = links.next a := h a (mem_visit_of_mem List.mem_cons_self)
    rw [visit, if_neg hmem, push, hnext, ← push, ih h]

/-- Exactly what the links lead to from the seeds is visited. -/
theorem mem_visit_iff {seeds : List α} {a : α} :
    a ∈ links.visit seeds [] ↔ ∃ seed ∈ seeds, Relation.ReflTransGen links.Leads seed a := by
  constructor
  · exact of_mem_visit (P := fun a ↦ ∃ seed ∈ seeds, Relation.ReflTransGen links.Leads seed a)
      (fun _ _ ⟨seed, hseed, hpath⟩ hlink ↦ ⟨seed, hseed, hpath.tail hlink⟩)
      (fun a ha ↦ ⟨a, ha, .refl⟩) (fun _ ha ↦ absurd ha List.not_mem_nil) a
  · rintro ⟨seed, hseed, hpath⟩
    obtain ⟨hkept, hclosed⟩ : (∀ a, a ∈ [] ∨ a ∈ seeds → a ∈ links.visit seeds []) ∧
        ∀ a ∈ links.visit seeds [], ∀ b, links.Leads a b → b ∈ links.visit seeds [] :=
      visit_closed fun _ ha ↦ absurd ha List.not_mem_nil
    induction hpath with
    | refl => exact hkept seed (.inr hseed)
    | tail _ hlink ih => exact hclosed _ ih _ hlink

end Links

end Seidrum.Foundation
