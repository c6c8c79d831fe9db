import Seidrum.EventBus.Dispatch.Filter

/-!
# The subject index

A trie over pattern tokens.  A node keeps the entries attached to it, the entries whose pattern
ends in `>` below it, its literal children and its `*` child.  The children of a node stand for a
hash map: the order in which they are iterated is not specified, and no result below depends on it
except up to permutation.
-/

namespace Seidrum.EventBus

/-- Where a subscription's events are delivered. -/
inductive ChannelConfig
  | inProcess
  | webSocket
  | webhook (url : String)
  | custom (channelType : String)
  deriving DecidableEq, Repr

/-- Sync subscriptions run in the sync chain, async ones in the fan-out after it. -/
inductive SubscriptionMode
  | sync
  | async
  deriving DecidableEq, Repr

/-- A subscription entry in the subject index; the timeout is in milliseconds. -/
structure SubscriptionEntry where
  id : String
  subjectPattern : String
  priority : ℕ
  mode : SubscriptionMode
  channel : ChannelConfig
  timeout : ℕ
  filter : Option EventFilter

inductive TrieNode (ε : Type) where
  | node (subscriptions : List ε) (children : List (String × TrieNode ε))
      (wildcard : Option (TrieNode ε)) (terminalWildcard : List ε)

namespace TrieNode

variable {ε : Type}

def new : TrieNode ε := node [] [] none []

def isEmpty : TrieNode ε → Bool
  | node subscriptions children wildcard terminalWildcard =>
      subscriptions.isEmpty && children.isEmpty && wildcard.isNone && terminalWildcard.isEmpty

/-- Change the child of a token, or add it. -/
def insertChild (insert : TrieNode ε → TrieNode ε) (token : String) :
    List (String × TrieNode ε) → List (String × TrieNode ε)
  | [] => [(token, insert new)]
  | (other, child) :: rest =>
      if other = token then (other, insert child) :: rest
      else (other, child) :: insertChild insert token rest

def insert (entry : ε) : List String → TrieNode ε → TrieNode ε
  | [], node subscriptions children wildcard terminalWildcard =>
      node (subscriptions ++ [entry]) children wildcard terminalWildcard
  | token :: rest, node subscriptions children wildcard terminalWildcard =>
      if token = ">" then node subscriptions children wildcard (terminalWildcard ++ [entry])
      else if token = "*" then
        node subscriptions children (some (insert entry rest (wildcard.getD new))) terminalWildcard
      else node subscriptions (insertChild (insert entry rest) token children) wildcard
        terminalWildcard

mutual

/-- Keep the entries a predicate accepts and prune the nodes this empties. -/
def remove (keep : ε → Bool) : TrieNode ε → TrieNode ε
  | node subscriptions children wildcard terminalWildcard =>
      node (subscriptions.filter keep) (removeChildren keep children)
        (removeWildcard keep wildcard) (terminalWildcard.filter keep)

def removeChildren (keep : ε → Bool) : List (String × TrieNode ε) → List (String × TrieNode ε)
  | [] => []
  | (token, child) :: rest =>
      if (remove keep child).isEmpty then removeChildren keep rest
      else (token, remove keep child) :: removeChildren keep rest

def removeWildcard (keep : ε → Bool) : Option (TrieNode ε) → Option (TrieNode ε)
  | none => none
  | some child => if (remove keep child).isEmpty then none else some (remove keep child)

end

/-- The child of a literal token. -/
def child (children : List (String × TrieNode ε)) (token : String) : Option (TrieNode ε) :=
  (children.find? fun entry ↦ entry.1 = token).map Prod.snd

/-- The entries matching the tokens of a subject. -/
def collect : List String → TrieNode ε → List ε
  | [], node subscriptions _ _ _ => subscriptions
  | token :: rest, node _ children wildcard terminalWildcard =>
      terminalWildcard ++ (((child children token).elim [] (collect rest)) ++
        wildcard.elim [] (collect rest))

mutual

/-- All entries a predicate accepts. -/
def collectAll (accept : ε → Bool) : TrieNode ε → List ε
  | node subscriptions children wildcard terminalWildcard =>
      subscriptions.filter accept ++ (terminalWildcard.filter accept ++
        (collectAllChildren accept children ++ collectAllWildcard accept wildcard))

def collectAllChildren (accept : ε → Bool) : List (String × TrieNode ε) → List ε
  | [] => []
  | (_, child) :: rest => collectAll accept child ++ collectAllChildren accept rest

def collectAllWildcard (accept : ε → Bool) : Option (TrieNode ε) → List ε
  | none => []
  | some child => collectAll accept child

end

mutual

/-- The first entry a predicate accepts, in the order of the walk. -/
def findInner (accept : ε → Bool) : TrieNode ε → Option ε
  | node subscriptions children wildcard terminalWildcard =>
      (subscriptions.find? accept).or <| (terminalWildcard.find? accept).or <|
        (findChildren accept children).or (findWildcard accept wildcard)

def findChildren (accept : ε → Bool) : List (String × TrieNode ε) → Option ε
  | [] => none
  | (_, child) :: rest => (findInner accept child).or (findChildren accept rest)

def findWildcard (accept : ε → Bool) : Option (TrieNode ε) → Option ε
  | none => none
  | some child => findInner accept child

end

/-- The hypothesis of an induction over the trie. -/
def InductionStep (P : TrieNode ε → Prop) : Prop :=
  ∀ subscriptions children wildcard terminalWildcard, (∀ entry ∈ children, P entry.2) →
    (∀ child ∈ wildcard, P child) → P (node subscriptions children wildcard terminalWildcard)

mutual

variable {P : TrieNode ε → Prop}

theorem induction (hnode : InductionStep P) : ∀ trie : TrieNode ε, P trie
  | node subscriptions children wildcard terminalWildcard =>
      hnode subscriptions children wildcard terminalWildcard (induction_children hnode children)
        (induction_wildcard hnode wildcard)

theorem induction_children (hnode : InductionStep P) :
    ∀ children : List (String × TrieNode ε), ∀ entry ∈ children, P entry.2
  | [] => fun _ hmem ↦ absurd hmem List.not_mem_nil
  | (token, child) :: rest => fun entry hmem ↦ by
      obtain rfl | hmem := List.mem_cons.mp hmem
      · exact induction hnode child
      · exact induction_children hnode rest entry hmem

theorem induction_wildcard (hnode : InductionStep P) :
    ∀ wildcard : Option (TrieNode ε), ∀ child ∈ wildcard, P child
  | none => fun _ hmem ↦ absurd hmem (by simp)
  | some child => fun other hmem ↦ by
      cases hmem
      exact induction hnode child

end

/-! ## Well-formed tries -/

/-- No literal child under a wildcard token, one child per token, and no empty node below. -/
inductive WellFormed : TrieNode ε → Prop
  | node {subscriptions : List ε} {children : List (String × TrieNode ε)}
      {wildcard : Option (TrieNode ε)} {terminalWildcard : List ε}
      (literal : ∀ entry ∈ children, entry.1 ≠ "*" ∧ entry.1 ≠ ">")
      (distinct : children.Pairwise fun a b ↦ a.1 ≠ b.1)
      (child_nonempty : ∀ entry ∈ children, entry.2.isEmpty = false)
      (child_wellFormed : ∀ entry ∈ children, WellFormed entry.2)
      (wildcard_nonempty : ∀ child ∈ wildcard, child.isEmpty = false)
      (wildcard_wellFormed : ∀ child ∈ wildcard, WellFormed child) :
      WellFormed (node subscriptions children wildcard terminalWildcard)

theorem wellFormed_new : (new : TrieNode ε).WellFormed :=
  .node (by simp) List.Pairwise.nil (by simp) (by simp) (by simp) (by simp)

variable {token : String} {children : List (String × TrieNode ε)} {entry : String × TrieNode ε}
  {trie : TrieNode ε} {keep : ε → Bool}

theorem mem_insertChild {insert : TrieNode ε → TrieNode ε}
    (h : entry ∈ insertChild insert token children) :
    entry ∈ children ∨ entry.1 = token ∧
      ∃ old, (old = new ∨ ∃ key, (key, old) ∈ children) ∧ entry.2 = insert old := by
  induction children with
  | nil =>
    rw [insertChild, List.mem_singleton] at h
    exact .inr ⟨congrArg Prod.fst h, new, .inl rfl, congrArg Prod.snd h⟩
  | cons head rest ih =>
    obtain ⟨other, child⟩ := head
    unfold insertChild at h
    split_ifs at h with htoken
    · obtain rfl | hmem := List.mem_cons.mp h
      · exact .inr ⟨htoken, child, .inr ⟨other, List.mem_cons_self⟩, rfl⟩
      · exact .inl (List.mem_cons_of_mem _ hmem)
    · obtain rfl | hmem := List.mem_cons.mp h
      · exact .inl List.mem_cons_self
      · obtain hold | ⟨hkey, old, hfrom, hinsert⟩ := ih hmem
        · exact .inl (List.mem_cons_of_mem _ hold)
        · refine .inr ⟨hkey, old, ?_, hinsert⟩
          exact hfrom.imp_right fun ⟨key, hmem⟩ ↦ ⟨key, List.mem_cons_of_mem _ hmem⟩

theorem insertChild_distinct {insert : TrieNode ε → TrieNode ε}
    (h : children.Pairwise fun a b ↦ a.1 ≠ b.1) :
    (insertChild insert token children).Pairwise fun a b ↦ a.1 ≠ b.1 := by
  induction children with
  | nil => exact List.pairwise_singleton _ _
  | cons head rest ih =>
    obtain ⟨other, child⟩ := head
    obtain ⟨hhead, hrest⟩ := List.pairwise_cons.mp h
    unfold insertChild
    split_ifs with htoken
    · exact List.pairwise_cons.mpr ⟨hhead, hrest⟩
    · refine List.pairwise_cons.mpr ⟨fun entry hmem ↦ ?_, ih hrest⟩
      obtain hold | ⟨hkey, _⟩ := mem_insertChild hmem
      · exact hhead entry hold
      · rw [hkey]
        exact htoken

theorem insert_nonempty (entry : ε) (pattern : List String) (trie : TrieNode ε) :
    (trie.insert entry pattern).isEmpty = false := by
  obtain ⟨subscriptions, children, wildcard, terminalWildcard⟩ := trie
  cases pattern with
  | nil => simp [insert, isEmpty]
  | cons token rest =>
    unfold insert
    split_ifs
    · simp [isEmpty]
    · simp [isEmpty]
    · cases children with
      | nil => simp [isEmpty, insertChild]
      | cons head others =>
        obtain ⟨other, child⟩ := head
        unfold insertChild
        split_ifs <;> simp [isEmpty]

theorem WellFormed.insert (h : trie.WellFormed) (entry : ε) (pattern : List String) :
    (trie.insert entry pattern).WellFormed := by
  induction pattern generalizing trie with
  | nil =>
    obtain ⟨hliteral, hdistinct, hchild, hchildren, hwildcard, hwildcards⟩ := h
    exact .node hliteral hdistinct hchild hchildren hwildcard hwildcards
  | cons token rest ih =>
    obtain ⟨hliteral, hdistinct, hchild, hchildren, hwildcard, hwildcards⟩ := h
    rename_i subscriptions children wildcard terminalWildcard
    unfold TrieNode.insert
    split_ifs with hrest hany
    · exact .node hliteral hdistinct hchild hchildren hwildcard hwildcards
    · refine .node hliteral hdistinct hchild hchildren ?_ ?_
      · intro child hmem
        cases hmem
        exact insert_nonempty entry rest _
      · intro child hmem
        cases hmem
        cases wildcard with
        | none => exact ih wellFormed_new
        | some old => exact ih (hwildcards old rfl)
    · have hmem {other : String × TrieNode ε}
          (h : other ∈ insertChild (TrieNode.insert entry rest) token children) :
          (other.1 ≠ "*" ∧ other.1 ≠ ">") ∧ other.2.isEmpty = false ∧ other.2.WellFormed := by
        obtain hold | ⟨hkey, old, hfrom, hinsert⟩ := mem_insertChild h
        · exact ⟨hliteral other hold, hchild other hold, hchildren other hold⟩
        · rw [hkey, hinsert]
          refine ⟨⟨hany, hrest⟩, insert_nonempty entry rest old, ih ?_⟩
          obtain rfl | ⟨key, hold⟩ := hfrom
          · exact wellFormed_new
          · exact hchildren _ hold
      exact .node (fun other h ↦ (hmem h).1) (insertChild_distinct hdistinct)
        (fun other h ↦ (hmem h).2.1) (fun other h ↦ (hmem h).2.2) hwildcard hwildcards

theorem removeChildren_eq (keep : ε → Bool) (children : List (String × TrieNode ε)) :
    removeChildren keep children =
      (children.map fun entry ↦ (entry.1, entry.2.remove keep)).filter fun entry ↦
        !entry.2.isEmpty := by
  induction children with
  | nil => simp [removeChildren]
  | cons head rest ih =>
    obtain ⟨token, child⟩ := head
    rw [removeChildren, ih, List.map_cons]
    by_cases hempty : (child.remove keep).isEmpty <;> simp [hempty]

theorem mem_removeChildren :
    entry ∈ removeChildren keep children ↔
      entry.2.isEmpty = false ∧ ∃ old ∈ children, (old.1, old.2.remove keep) = entry := by
  rw [removeChildren_eq, List.mem_filter, List.mem_map, Bool.not_eq_true', and_comm]

theorem mem_removeWildcard {wildcard : Option (TrieNode ε)} {child : TrieNode ε} :
    child ∈ removeWildcard keep wildcard ↔
      child.isEmpty = false ∧ ∃ old ∈ wildcard, old.remove keep = child := by
  cases wildcard with
  | none => simp [removeWildcard]
  | some old =>
    unfold removeWildcard
    split_ifs with hempty
    · simp only [Option.not_mem_none, Option.mem_some_iff, exists_eq_left', false_iff, not_and]
      rintro hchild rfl
      exact absurd hempty (by simp [hchild])
    · simp only [Option.mem_some_iff, exists_eq_left', iff_and_self]
      rintro rfl
      simpa using hempty

/-- Removal prunes every node it empties. -/
theorem WellFormed.remove (h : trie.WellFormed) (keep : ε → Bool) :
    (trie.remove keep).WellFormed := by
  induction h with
  | node hliteral hdistinct _ _ _ _ ihchildren ihwildcard =>
    unfold TrieNode.remove
    refine .node ?_ ?_ ?_ ?_ ?_ ?_
    · intro entry hmem
      obtain ⟨_, old, hold, rfl⟩ := mem_removeChildren.mp hmem
      exact hliteral old hold
    · rw [removeChildren_eq]
      apply List.Pairwise.filter
      exact List.pairwise_map.mpr hdistinct
    · intro entry hmem
      exact (mem_removeChildren.mp hmem).1
    · intro entry hmem
      obtain ⟨_, old, hold, rfl⟩ := mem_removeChildren.mp hmem
      exact ihchildren old hold
    · intro child hmem
      exact (mem_removeWildcard.mp hmem).1
    · intro child hmem
      obtain ⟨_, old, hold, rfl⟩ := mem_removeWildcard.mp hmem
      exact ihwildcard old hold

end TrieNode

/-- A trie of subscription entries that is kept well formed. -/
structure SubjectIndex where
  root : TrieNode SubscriptionEntry
  wellFormed : root.WellFormed

namespace SubjectIndex

def new : SubjectIndex := ⟨.new, TrieNode.wellFormed_new⟩

def subscribe (entry : SubscriptionEntry) (index : SubjectIndex) :
    Except EventBusError SubjectIndex :=
  match validatePattern (tokens entry.subjectPattern) with
  | .error error => .error error
  | .ok () => .ok ⟨index.root.insert entry (tokens entry.subjectPattern),
      index.wellFormed.insert entry _⟩

def unsubscribe (id : String) (index : SubjectIndex) : SubjectIndex :=
  ⟨index.root.remove fun entry ↦ entry.id ≠ id, index.wellFormed.remove _⟩

/-- The subscriptions matching a concrete subject, in ascending priority; equal priorities keep the
order of the walk. -/
def lookup (subject : String) (index : SubjectIndex) : List SubscriptionEntry :=
  (index.root.collect (tokens subject)).insertionSort fun a b ↦ a.priority ≤ b.priority

/-- All subscriptions, or those with exactly a given pattern. -/
def list (filter : Option String) (index : SubjectIndex) : List SubscriptionEntry :=
  index.root.collectAll fun entry ↦ filter.all (entry.subjectPattern = ·)

def findById (id : String) (index : SubjectIndex) : Option SubscriptionEntry :=
  index.root.findInner fun entry ↦ entry.id = id

end SubjectIndex

end Seidrum.EventBus
