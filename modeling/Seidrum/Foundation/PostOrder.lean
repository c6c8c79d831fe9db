import Mathlib.Data.List.Nodup
import Mathlib.Logic.Relation

/-!
# Visits in post-order

A walk without a memory visits the children of a node one after the other, and then the node itself.
It visits a node once for every chain of positions that leads there.  So no node is visited twice
exactly if no two chains lead to one node.
-/

namespace Seidrum.Foundation

/-- The chain is visited earlier: it goes on from the other, or branches off before it. -/
def Earlier : List ℕ → List ℕ → Prop
  | [], _ => False
  | _ :: _, [] => True
  | i :: rest, j :: other => i < j ∨ i = j ∧ Earlier rest other

theorem earlier_asymm {first second : List ℕ} (h : Earlier first second) : ¬ Earlier second first := by
  induction first generalizing second with
  | nil => exact fun _ ↦ h
  | cons i rest ih =>
    cases second with
    | nil => exact id
    | cons j other =>
      rintro (hji | ⟨rfl, hother⟩)
      · rcases h with hij | ⟨rfl, -⟩
        · exact Nat.lt_asymm hij hji
        · exact Nat.lt_irrefl _ hji
      · rcases h with hij | ⟨-, hrest⟩
        · exact Nat.lt_irrefl _ hij
        · exact ih hrest hother

theorem earlier_irrefl (path : List ℕ) : ¬ Earlier path path := fun h ↦ earlier_asymm h h

variable {ν : Type*} {children : ν → List ν}

/-- A chain of positions leads from a node to another. -/
inductive Leads (children : ν → List ν) : ν → List ℕ → ν → Prop
  | here (node : ν) : Leads children node [] node
  | down {node child target : ν} {i : ℕ} {path : List ℕ} (hchild : (children node)[i]? = some child)
      (hpath : Leads children child path target) : Leads children node (i :: path) target

variable {node target : ν} {path : List ℕ} {i : ℕ} {nodes : List ν}

/-- A chain goes on to a child of its end. -/
theorem Leads.snoc {child : ν} (h : Leads children node path target)
    (hchild : (children target)[i]? = some child) : Leads children node (path ++ [i]) child := by
  induction h with
  | here node => exact .down hchild (.here child)
  | down hfirst _ ih => exact .down hfirst (ih hchild)

theorem Leads.reflTransGen (h : Leads children node path target) :
    Relation.ReflTransGen (fun parent child ↦ child ∈ children parent) node target := by
  induction h with
  | here node => exact .refl
  | down hchild _ ih => exact .head (List.mem_of_getElem? hchild) ih

theorem earlier_snoc (path : List ℕ) (i : ℕ) : Earlier (path ++ [i]) path := by
  induction path with
  | nil => trivial
  | cons j rest ih => exact .inr ⟨rfl, ih⟩

/-- All visits of a walk from a node, each with the chain that leads there. -/
structure PostOrder (children : ν → List ν) (node : ν) (visits : List (List ℕ × ν)) : Prop where
  ordered : visits.Pairwise fun first second ↦ Earlier first.1 second.1
  mem_iff : ∀ path target, (path, target) ∈ visits ↔ Leads children node path target

/-- The visits of children from a position on, seen from their parent. -/
def below (visits : ν → List (List ℕ × ν)) : ℕ → List ν → List (List ℕ × ν)
  | _, [] => []
  | i, child :: rest =>
      (visits child).map (fun visit ↦ (i :: visit.1, visit.2)) ++ below visits (i + 1) rest

variable {visits : ν → List (List ℕ × ν)} {node : ν}

theorem mem_below :
    (path, target) ∈ below visits i nodes ↔ ∃ k rest, path = (i + k) :: rest ∧
      ∃ child, nodes[k]? = some child ∧ (rest, target) ∈ visits child := by
  induction nodes generalizing i with
  | nil => simp [below]
  | cons first more ih =>
    rw [below, List.mem_append, List.mem_map, ih]
    constructor
    · rintro (⟨⟨rest, target⟩, hmem, heq⟩ | ⟨k, rest, rfl, child, hchild, hmem⟩)
      · cases heq
        exact ⟨0, rest, rfl, first, rfl, hmem⟩
      · exact ⟨k + 1, rest, by rw [Nat.add_right_comm, Nat.add_assoc], child, hchild, hmem⟩
    · rintro ⟨_ | k, rest, rfl, child, hchild, hmem⟩
      · cases hchild
        exact .inl ⟨(rest, target), hmem, rfl⟩
      · exact .inr ⟨k, rest, by rw [Nat.add_right_comm, Nat.add_assoc], child, hchild, hmem⟩

theorem pairwise_below
    (h : ∀ child ∈ nodes, (visits child).Pairwise fun first second ↦ Earlier first.1 second.1) :
    (below visits i nodes).Pairwise fun first second ↦ Earlier first.1 second.1 := by
  induction nodes generalizing i with
  | nil => exact .nil
  | cons first more ih =>
    obtain ⟨hfirst, hmore⟩ := List.forall_mem_cons.mp h
    rw [below, List.pairwise_append, List.pairwise_map]
    refine ⟨hfirst.imp fun hearlier ↦ .inr ⟨rfl, hearlier⟩, ih hmore, ?_⟩
    rintro ⟨path, target⟩ hpath ⟨later, node⟩ hlater
    obtain ⟨visit, -, heq⟩ := List.mem_map.mp hpath
    obtain ⟨rfl, -⟩ := Prod.mk.inj heq
    obtain ⟨k, rest, rfl, -⟩ := mem_below.mp hlater
    exact .inl (by omega)

theorem map_snd_below (i : ℕ) (nodes : List ν) :
    (below visits i nodes).map Prod.snd = nodes.flatMap fun child ↦ (visits child).map Prod.snd := by
  induction nodes generalizing i with
  | nil => rfl
  | cons first more ih =>
    rw [below, List.map_append, ih, List.map_map, List.flatMap_cons]
    rfl

/-- The visits of a node are those of its children, and that of the node. -/
theorem PostOrder.of_children
    (h : ∀ child ∈ children node, PostOrder children child (visits child)) :
    PostOrder children node (below visits 0 (children node) ++ [([], node)]) where
  ordered := by
    rw [List.pairwise_append]
    refine ⟨pairwise_below fun child hchild ↦ (h child hchild).ordered,
      List.pairwise_singleton _ _, ?_⟩
    rintro ⟨path, target⟩ hpath visit hvisit
    obtain rfl := List.mem_singleton.mp hvisit
    obtain ⟨k, rest, rfl, -⟩ := mem_below.mp hpath
    trivial
  mem_iff path target := by
    rw [List.mem_append, List.mem_singleton, mem_below]
    constructor
    · rintro (⟨k, rest, rfl, child, hchild, hmem⟩ | heq)
      · rw [Nat.zero_add]
        exact .down hchild (((h child (List.mem_of_getElem? hchild)).mem_iff _ _).mp hmem)
      · cases heq
        exact .here _
    · intro hleads
      cases hleads with
      | here => exact .inr rfl
      | @down _ child _ k rest hchild hpath =>
        exact .inl ⟨k, rest, by rw [Nat.zero_add], child, hchild,
          ((h child (List.mem_of_getElem? hchild)).mem_iff _ _).mpr hpath⟩

namespace PostOrder

variable {visits : List (List ℕ × ν)} {target : ν}

theorem mem_map_iff (h : PostOrder children node visits) :
    target ∈ visits.map Prod.snd ↔ ∃ path, Leads children node path target := by
  simp only [List.mem_map, Prod.exists, exists_eq_right, h.mem_iff]

/-- No node is visited twice exactly if no two chains lead to one. -/
theorem nodup_iff (h : PostOrder children node visits) : (visits.map Prod.snd).Nodup ↔
    ∀ path other target, Leads children node path target → Leads children node other target →
      path = other := by
  have hnodup : visits.Nodup := by
    refine h.ordered.imp ?_
    rintro first second hearlier rfl
    exact earlier_irrefl _ hearlier
  rw [List.nodup_map_iff_inj_on hnodup]
  constructor
  · intro hinj path other target hpath hother
    have hsame := hinj (path, target) ((h.mem_iff _ _).mpr hpath) (other, target)
      ((h.mem_iff _ _).mpr hother) rfl
    exact congrArg Prod.fst hsame
  · rintro hsingle ⟨path, target⟩ hpath ⟨other, _⟩ hother rfl
    rw [hsingle path other target ((h.mem_iff _ _).mp hpath) ((h.mem_iff _ _).mp hother)]

theorem mem_before_iff {before after : List (List ℕ × ν)} {visit : List ℕ × ν}
    (h : PostOrder children node (before ++ visit :: after)) {path : List ℕ} :
    (path, target) ∈ before ↔ Leads children node path target ∧ Earlier path visit.1 := by
  obtain ⟨-, hrest, hbefore⟩ := List.pairwise_append.mp h.ordered
  constructor
  · intro hmem
    exact ⟨(h.mem_iff _ _).mp (List.mem_append_left _ hmem),
      hbefore _ hmem _ List.mem_cons_self⟩
  · rintro ⟨hleads, hearlier⟩
    rcases List.mem_append.mp ((h.mem_iff _ _).mpr hleads) with hmem | hmem
    · exact hmem
    · rcases List.mem_cons.mp hmem with heq | hafter
      · rw [← heq] at hearlier
        exact absurd hearlier (earlier_irrefl path)
      · exact absurd ((List.pairwise_cons.mp hrest).1 _ hafter) (earlier_asymm hearlier)

end PostOrder

end Seidrum.Foundation
