import Mathlib.Data.Finset.Defs
import Mathlib.Logic.Function.Basic
import Mathlib.Logic.Relation

/-!
# Successions

Entries of which each is current, closed, or superseded by another one.  They are a succession when at
most one of them is current, and from every superseded one the links to successors lead to it.  An
entry is replaced in two steps: the current one is superseded by an entry that is not there yet, and
then that entry is put there.
-/

namespace Seidrum.Foundation

variable {K : Type*}

inductive Node (K : Type*)
  | current
  | closed
  | superseded (next : K)
  deriving DecidableEq, Repr

/-- The entries by their keys. -/
abbrev Nodes (K : Type*) := K → Option (Node K)

namespace Nodes

variable {nodes : Nodes K} {key old k k' : K}

/-- The first entry is superseded by the second. -/
def Link (nodes : Nodes K) (k k' : K) : Prop := nodes k = some (.superseded k')

/-- At most one entry is current, and the links from every superseded one lead to it. -/
structure Succession (nodes : Nodes K) : Prop where
  one : ∀ k k', nodes k = some .current → nodes k' = some .current → k = k'
  ends : ∀ k next, nodes k = some (.superseded next) →
    ∃ last, nodes last = some .current ∧ Relation.ReflTransGen nodes.Link k last

/-- The last entry of a succession is superseded by one that is not there yet. -/
structure Pending (nodes : Nodes K) (old key : K) : Prop where
  noCurrent : ∀ k, nodes k ≠ some .current
  link : nodes.Link old key
  ends : ∀ k next, nodes k = some (.superseded next) → Relation.ReflTransGen nodes.Link k old

theorem succession_of_empty (h : ∀ k, nodes k = none) : nodes.Succession where
  one k _ hk := by
    rw [h k] at hk
    cases hk
  ends k _ hk := by
    rw [h k] at hk
    cases hk

/-- Without a current entry nothing is superseded. -/
theorem Succession.not_superseded (h : nodes.Succession) (hnone : ∀ k, nodes k ≠ some .current)
    (next : K) : nodes k ≠ some (.superseded next) := by
  intro hk
  obtain ⟨last, hlast, -⟩ := h.ends k next hk
  exact hnone last hlast

section

variable [DecidableEq K] {node : Node K}

/-- Links survive a change at an entry that is not superseded. -/
theorem Link.update (h : nodes.Link k k') (hkey : ¬∃ next, nodes key = some (.superseded next)) :
    Link (Function.update nodes key (some node)) k k' := by
  have hne : k ≠ key := by
    rintro rfl
    exact hkey ⟨k', h⟩
  rw [Link, Function.update_of_ne hne]
  exact h

theorem reflTransGen_update (h : Relation.ReflTransGen nodes.Link k k')
    (hkey : ¬∃ next, nodes key = some (.superseded next)) :
    Relation.ReflTransGen (Link (Function.update nodes key (some node))) k k' :=
  Relation.ReflTransGen.mono (fun _ _ hlink ↦ Link.update hlink hkey) _ _ h

/-- The current entry is superseded. -/
theorem Succession.supersede (h : nodes.Succession) (hold : nodes old = some .current) :
    Pending (Function.update nodes old (some (.superseded key))) old key := by
  have hkept : ¬∃ next, nodes old = some (.superseded next) := by simp [hold]
  constructor
  · intro k hk
    by_cases heq : k = old
    · rw [heq, Function.update_self] at hk
      cases hk
    · rw [Function.update_of_ne heq] at hk
      exact heq (h.one k old hk hold)
  · rw [Link, Function.update_self]
  · intro k next hk
    by_cases heq : k = old
    · rw [heq]
    · rw [Function.update_of_ne heq] at hk
      obtain ⟨last, hlast, hpath⟩ := h.ends k next hk
      rw [h.one last old hlast hold] at hpath
      exact reflTransGen_update hpath hkept

/-- The entry that supersedes the last one is put there. -/
theorem Pending.insert (h : nodes.Pending old key) (hfree : nodes key = none) :
    Succession (Function.update nodes key (some .current)) := by
  have hkept : ¬∃ next, nodes key = some (.superseded next) := by simp [hfree]
  have hcurrent : ∀ k, Function.update nodes key (some .current) k = some .current → k = key := by
    intro k hk
    by_contra heq
    rw [Function.update_of_ne heq] at hk
    exact h.noCurrent k hk
  constructor
  · intro k k' hk hk'
    rw [hcurrent k hk, hcurrent k' hk']
  · intro k next hk
    have hne : k ≠ key := by
      rintro rfl
      rw [Function.update_self] at hk
      cases hk
    rw [Function.update_of_ne hne] at hk
    have hpath : Relation.ReflTransGen (Link (Function.update nodes key (some .current))) k old :=
      reflTransGen_update (h.ends k next hk) hkept
    exact ⟨key, Function.update_self .., hpath.tail (h.link.update hkept)⟩

/-- A first entry is put there. -/
theorem Succession.insert (h : nodes.Succession) (hnone : ∀ k, nodes k ≠ some .current) :
    Succession (Function.update nodes key (some .current)) := by
  have hcurrent : ∀ k, Function.update nodes key (some .current) k = some .current → k = key := by
    intro k hk
    by_contra heq
    rw [Function.update_of_ne heq] at hk
    exact hnone k hk
  constructor
  · intro k k' hk hk'
    rw [hcurrent k hk, hcurrent k' hk']
  · intro k next hk
    have hne : k ≠ key := by
      rintro rfl
      rw [Function.update_self] at hk
      cases hk
    rw [Function.update_of_ne hne] at hk
    exact absurd hk (h.not_superseded hnone next)

end

end Nodes

end Seidrum.Foundation
