import Mathlib.Data.List.Induction
import Seidrum.Foundation.Transition
import Seidrum.EventBus.Dispatch.SubjectIndex

/-!
# The subject index answers by the pattern semantics

The index is compared with the plain list of live entries: a subscription whose pattern is accepted
is added at the end, and an unsubscription removes the entries with its id.  The trie keeps, at the
position of every pattern, exactly the live entries with that pattern in the order of the list, so
a lookup is determined by the list alone.
-/

namespace Seidrum.EventBus

open Seidrum.Foundation

namespace TrieNode

variable {ε : Type}

/-- The entries stored at the position of a pattern. -/
def entriesAt : List String → TrieNode ε → List ε
  | [], node subscriptions _ _ _ => subscriptions
  | token :: rest, node _ children wildcard terminalWildcard =>
      if token = ">" then terminalWildcard
      else if token = "*" then wildcard.elim [] (entriesAt rest)
      else (child children token).elim [] (entriesAt rest)

theorem entriesAt_new (pattern : List String) : (new : TrieNode ε).entriesAt pattern = [] := by
  cases pattern with
  | nil => rfl
  | cons token rest => simp [new, entriesAt, child]

variable {trie : TrieNode ε} {keep : ε → Bool} {f : TrieNode ε → List ε}

theorem eq_new_of_isEmpty (h : trie.isEmpty = true) : trie = new := by
  obtain ⟨subscriptions, children, wildcard, terminalWildcard⟩ := trie
  simpa [isEmpty, new, and_assoc] using h

theorem child_insertChild (insert : TrieNode ε → TrieNode ε) (token other : String)
    (children : List (String × TrieNode ε)) :
    child (insertChild insert token children) other =
      if other = token then some (insert ((child children token).getD new))
      else child children other := by
  induction children with
  | nil => by_cases h : token = other <;> simp [child, insertChild, h, eq_comm]
  | cons head rest ih =>
    obtain ⟨key, old⟩ := head
    unfold insertChild
    by_cases hkey : key = token
    · subst hkey
      by_cases h : key = other
      · simp [child, h]
      · simp [child, h, Ne.symm h]
    · rw [if_neg hkey]
      unfold child at ih ⊢
      by_cases h : key = other
      · subst h
        simp [hkey]
      · simp [h, hkey, ih]

/-- An insertion adds its entry at the position of its pattern and nowhere else. -/
theorem entriesAt_insert (entry : ε) {pattern other : List String} (hpattern : FinalRest pattern)
    (hother : FinalRest other) (trie : TrieNode ε) :
    (trie.insert entry pattern).entriesAt other =
      if pattern = other then trie.entriesAt other ++ [entry] else trie.entriesAt other := by
  induction pattern generalizing other trie with
  | nil =>
    obtain ⟨subscriptions, children, wildcard, terminalWildcard⟩ := trie
    cases other with
    | nil | cons token rest => simp [insert, entriesAt]
  | cons token rest ih =>
    obtain ⟨subscriptions, children, wildcard, terminalWildcard⟩ := trie
    cases other with
    | nil =>
      rw [if_neg (by simp)]
      unfold insert
      split_ifs <;> rfl
    | cons token' rest' =>
      have hrest := ih hpattern.tail hother.tail
      simp only [List.cons.injEq]
      unfold insert
      by_cases hterminal : token = ">"
      · subst hterminal
        obtain rfl := hpattern.eq_nil
        by_cases htoken : token' = ">"
        · subst htoken
          obtain rfl := hother.eq_nil
          simp [entriesAt]
        · simp [entriesAt, htoken, eq_comm]
      · rw [if_neg hterminal]
        by_cases hany : token = "*"
        · subst hany
          by_cases htoken : token' = "*"
          · subst htoken
            cases wildcard with
            | none => simp [entriesAt, hrest, entriesAt_new]
            | some old => simp [entriesAt, hrest]
          · simp [entriesAt, eq_comm, htoken]
        · rw [if_neg hany]
          by_cases htoken : token' = token
          · subst htoken
            cases hchild : child children token' with
            | none =>
              simp [entriesAt, hterminal, hany, child_insertChild, hchild, hrest, entriesAt_new]
            | some old => simp [entriesAt, hterminal, hany, child_insertChild, hchild, hrest]
          · simp [entriesAt, child_insertChild, htoken, Ne.symm htoken]

theorem child_removeChildren {children : List (String × TrieNode ε)}
    (hdistinct : children.Pairwise fun a b ↦ a.1 ≠ b.1) (token : String) (hf : f new = []) :
    (child (removeChildren keep children) token).elim [] f =
      (child children token).elim [] fun old ↦ f (old.remove keep) := by
  induction children with
  | nil => simp [removeChildren, child]
  | cons head rest ih =>
    obtain ⟨key, old⟩ := head
    obtain ⟨hhead, hrest⟩ := List.pairwise_cons.mp hdistinct
    have hrest := ih hrest
    unfold child at hrest ⊢
    rw [removeChildren]
    by_cases hkey : key = token
    · subst hkey
      by_cases hempty : (old.remove keep).isEmpty
      · -- the pruned child held nothing, and no other child has its token
        have hnone : rest.find? (fun entry ↦ entry.1 = key) = none :=
          List.find?_eq_none.mpr fun entry hmem ↦ by simpa using (hhead entry hmem).symm
        rw [if_pos hempty, hrest, hnone]
        simp [eq_new_of_isEmpty hempty, hf]
      · simp [hempty]
    · by_cases hempty : (old.remove keep).isEmpty <;> simp [hempty, hkey, hrest]

theorem wildcard_removeWildcard (wildcard : Option (TrieNode ε)) (hf : f new = []) :
    (removeWildcard keep wildcard).elim [] f =
      wildcard.elim [] fun old ↦ f (old.remove keep) := by
  cases wildcard with
  | none => rfl
  | some old =>
    unfold removeWildcard
    split_ifs with hempty
    · simp [eq_new_of_isEmpty hempty, hf]
    · rfl

theorem entriesAt_remove (h : trie.WellFormed) (keep : ε → Bool) (pattern : List String) :
    (trie.remove keep).entriesAt pattern = (trie.entriesAt pattern).filter keep := by
  induction pattern generalizing trie with
  | nil =>
    obtain ⟨subscriptions, children, wildcard, terminalWildcard⟩ := trie
    rfl
  | cons token rest ih =>
    obtain ⟨hliteral, hdistinct, hchild, hchildren, hwildcard, hwildcards⟩ := h
    rename_i subscriptions children wildcard terminalWildcard
    unfold TrieNode.remove entriesAt
    split_ifs with hterminal hany
    · rfl
    · rw [wildcard_removeWildcard wildcard (entriesAt_new rest)]
      cases wildcard with
      | none => rfl
      | some old => exact ih (hwildcards old rfl)
    · rw [child_removeChildren hdistinct token (entriesAt_new rest)]
      cases hfound : child children token with
      | none => rfl
      | some old =>
        obtain ⟨entry, hentry, rfl⟩ := Option.map_eq_some_iff.mp hfound
        exact ih (hchildren entry (List.mem_of_find?_eq_some hentry))

/-- A lookup reads the positions of the patterns that match. -/
theorem collect_eq (h : trie.WellFormed) (subject : List String) :
    trie.collect subject = (patternsFor subject).flatMap fun pattern ↦ trie.entriesAt pattern := by
  induction subject generalizing trie with
  | nil =>
    obtain ⟨subscriptions, children, wildcard, terminalWildcard⟩ := trie
    simp [collect, patternsFor, entriesAt]
  | cons token rest ih =>
    obtain ⟨hliteral, hdistinct, hchild, hchildren, hwildcard, hwildcards⟩ := h
    rename_i subscriptions children wildcard terminalWildcard
    have hany : wildcard.elim [] (collect rest) = (patternsFor rest).flatMap fun pattern ↦
        wildcard.elim [] (entriesAt pattern) := by
      cases wildcard with
      | none => simp
      | some old => exact ih (hwildcards old rfl)
    have htoken : (child children token).elim [] (collect rest) =
        (patternsFor rest).flatMap fun pattern ↦
          (child children token).elim [] (entriesAt pattern) := by
      cases hfound : child children token with
      | none => simp
      | some old =>
        obtain ⟨entry, hentry, rfl⟩ := Option.map_eq_some_iff.mp hfound
        exact ih (hchildren entry (List.mem_of_find?_eq_some hentry))
    rw [collect, hany, htoken, patternsFor]
    split_ifs with hwild
    · -- no child hangs under a wildcard token
      have hnone : child children token = none := by
        rw [child, Option.map_eq_none_iff, List.find?_eq_none]
        intro entry hmem
        have hkey := hliteral entry hmem
        rintro hentry
        obtain rfl := of_decide_eq_true hentry
        exact hwild.elim hkey.1 hkey.2
      simp [hnone, entriesAt, List.flatMap_map]
    · rw [not_or] at hwild
      simp [entriesAt, List.flatMap_map, hwild]

/-! ## The walk over the whole trie -/

/-- Every entry of the trie, in the order of the walk. -/
def entries (trie : TrieNode ε) : List ε := trie.collectAll fun _ ↦ true

theorem collectAllChildren_eq (accept : ε → Bool) (children : List (String × TrieNode ε)) :
    collectAllChildren accept children = children.flatMap fun entry ↦ entry.2.collectAll accept := by
  induction children with
  | nil => simp [collectAllChildren]
  | cons head rest ih => rw [collectAllChildren, ih, List.flatMap_cons]

theorem collectAllWildcard_eq (accept : ε → Bool) (wildcard : Option (TrieNode ε)) :
    collectAllWildcard accept wildcard = wildcard.elim [] (collectAll accept) := by
  cases wildcard <;> simp [collectAllWildcard]

theorem entries_node (subscriptions : List ε) (children : List (String × TrieNode ε))
    (wildcard : Option (TrieNode ε)) (terminalWildcard : List ε) :
    (node subscriptions children wildcard terminalWildcard).entries =
      subscriptions ++ (terminalWildcard ++
        (children.flatMap (fun entry ↦ entry.2.entries) ++ wildcard.elim [] entries)) := by
  unfold entries
  rw [collectAll, collectAllChildren_eq, collectAllWildcard_eq, List.filter_true, List.filter_true]

@[simp]
theorem entries_new : (new : TrieNode ε).entries = [] := by
  simp [new, entries_node]

theorem collectAll_eq_filter (accept : ε → Bool) (trie : TrieNode ε) :
    trie.collectAll accept = trie.entries.filter accept := by
  refine induction (P := fun trie ↦ trie.collectAll accept = trie.entries.filter accept) ?_ trie
  intro subscriptions children wildcard terminalWildcard hchildren hwildcard
  have hbelow : children.flatMap (fun entry ↦ entry.2.collectAll accept) =
      (children.flatMap fun entry ↦ entry.2.entries).filter accept := by
    rw [List.filter_flatMap]
    exact List.flatMap_congr fun entry hmem ↦ hchildren entry hmem
  have hany : wildcard.elim [] (collectAll accept) = (wildcard.elim [] entries).filter accept := by
    cases wildcard with
    | none => rfl
    | some old => exact hwildcard old rfl
  rw [collectAll, collectAllChildren_eq, collectAllWildcard_eq, entries_node, hbelow, hany]
  simp only [List.filter_append]

theorem findInner_eq_find (accept : ε → Bool) (trie : TrieNode ε) :
    trie.findInner accept = trie.entries.find? accept := by
  refine induction (P := fun trie ↦ trie.findInner accept = trie.entries.find? accept) ?_ trie
  intro subscriptions children wildcard terminalWildcard hchildren hwildcard
  have hbelow : findChildren accept children =
      (children.flatMap fun entry ↦ entry.2.entries).find? accept := by
    clear hwildcard
    induction children with
    | nil => simp [findChildren]
    | cons head rest ih =>
      have hrest := ih fun entry hmem ↦ hchildren entry (List.mem_cons_of_mem _ hmem)
      rw [findChildren, hrest, hchildren head List.mem_cons_self, List.flatMap_cons,
        List.find?_append]
  have hany : findWildcard accept wildcard = (wildcard.elim [] entries).find? accept := by
    cases wildcard with
    | none => rfl
    | some old => exact hwildcard old rfl
  rw [findInner, hbelow, hany, entries_node]
  simp only [List.find?_append]

theorem entries_remove (keep : ε → Bool) (trie : TrieNode ε) :
    (trie.remove keep).entries = trie.entries.filter keep := by
  refine induction (P := fun trie ↦ (trie.remove keep).entries = trie.entries.filter keep) ?_ trie
  intro subscriptions children wildcard terminalWildcard hchildren hwildcard
  have hbelow : (removeChildren keep children).flatMap (fun entry ↦ entry.2.entries) =
      (children.flatMap fun entry ↦ entry.2.entries).filter keep := by
    clear hwildcard
    induction children with
    | nil => simp [removeChildren]
    | cons head rest ih =>
      have hrest := ih fun entry hmem ↦ hchildren entry (List.mem_cons_of_mem _ hmem)
      have hhead := hchildren head List.mem_cons_self
      rw [removeChildren, List.flatMap_cons, List.filter_append, ← hrest, ← hhead]
      split_ifs with hempty
      · rw [eq_new_of_isEmpty hempty, entries_new, List.nil_append]
      · rw [List.flatMap_cons]
  have hany : (removeWildcard keep wildcard).elim [] entries =
      (wildcard.elim [] entries).filter keep := by
    rw [wildcard_removeWildcard wildcard entries_new]
    cases wildcard with
    | none => rfl
    | some old => exact hwildcard old rfl
  rw [remove, entries_node, entries_node, hbelow, hany]
  simp only [List.filter_append]

theorem flatMap_insertChild {insert : TrieNode ε → TrieNode ε} {entry : ε}
    (hinsert : ∀ trie : TrieNode ε, (insert trie).entries.Perm (entry :: trie.entries))
    (token : String) (children : List (String × TrieNode ε)) :
    ((insertChild insert token children).flatMap fun child ↦ child.2.entries).Perm
      (entry :: children.flatMap fun child ↦ child.2.entries) := by
  induction children with
  | nil => simpa [insertChild] using hinsert new
  | cons head rest ih =>
    obtain ⟨key, old⟩ := head
    unfold insertChild
    split_ifs
    · simp only [List.flatMap_cons]
      exact (hinsert old).append_right _
    · simp only [List.flatMap_cons]
      exact (ih.append_left _).trans List.perm_middle

theorem entries_insert (entry : ε) (pattern : List String) (trie : TrieNode ε) :
    (trie.insert entry pattern).entries.Perm (entry :: trie.entries) := by
  induction pattern generalizing trie with
  | nil =>
    obtain ⟨subscriptions, children, wildcard, terminalWildcard⟩ := trie
    simp only [insert, entries_node, List.append_assoc, List.singleton_append]
    exact List.perm_middle
  | cons token rest ih =>
    obtain ⟨subscriptions, children, wildcard, terminalWildcard⟩ := trie
    unfold insert
    split_ifs
    · simp only [entries_node, List.append_assoc, List.singleton_append]
      exact (List.perm_middle.append_left _).trans List.perm_middle
    · have hchild : (wildcard.getD new).entries = wildcard.elim [] entries := by
        cases wildcard <;> simp
      simp only [entries_node, Option.elim_some]
      refine ((((ih _).append_left _).append_left _).append_left _).trans ?_
      rw [hchild]
      refine ((List.perm_middle.append_left _).append_left _).trans ?_
      exact (List.perm_middle.append_left _).trans List.perm_middle
    · simp only [entries_node]
      refine ((((flatMap_insertChild ih token children).append_right _).append_left _).append_left
        _).trans ?_
      exact (List.perm_middle.append_left _).trans List.perm_middle

/-- A node reached from another by one or more child links. -/
inductive Below : TrieNode ε → TrieNode ε → Prop
  | child {subscriptions : List ε} {children : List (String × TrieNode ε)}
      {wildcard : Option (TrieNode ε)} {terminalWildcard : List ε} {entry : String × TrieNode ε}
      (hmem : entry ∈ children) :
      Below (node subscriptions children wildcard terminalWildcard) entry.2
  | wildcard {subscriptions : List ε} {children : List (String × TrieNode ε)}
      {wildcard : Option (TrieNode ε)} {terminalWildcard : List ε} {child : TrieNode ε}
      (hmem : child ∈ wildcard) :
      Below (node subscriptions children wildcard terminalWildcard) child
  | trans {a b c : TrieNode ε} : Below a b → Below b c → Below a c

theorem WellFormed.nonempty_of_below {other : TrieNode ε} (h : trie.WellFormed)
    (hbelow : trie.Below other) : other.isEmpty = false ∧ other.WellFormed := by
  induction hbelow with
  | child hmem =>
    obtain ⟨_, _, hchild, hchildren, _, _⟩ := h
    exact ⟨hchild _ hmem, hchildren _ hmem⟩
  | wildcard hmem =>
    obtain ⟨_, _, _, _, hwildcard, hwildcards⟩ := h
    exact ⟨hwildcard _ hmem, hwildcards _ hmem⟩
  | trans _ _ ihfirst ihsecond => exact ihsecond (ihfirst h).2

end TrieNode

/-- A call that changes the index. -/
inductive IndexOp
  | subscribe (entry : SubscriptionEntry)
  | unsubscribe (id : String)

namespace IndexOp

/-- The entry a call tries to add. -/
def entry? : IndexOp → Option SubscriptionEntry
  | subscribe entry => some entry
  | unsubscribe _ => none

/-- Every subscription has an id of its own. -/
def DistinctIds (ops : List IndexOp) : Prop :=
  ((ops.filterMap entry?).map (·.id)).Nodup

instance (ops : List IndexOp) : Decidable (DistinctIds ops) :=
  inferInstanceAs (Decidable (List.Nodup _))

/-- The calls without the subscription of an id. -/
def without (id : String) (ops : List IndexOp) : List IndexOp :=
  ops.filter fun op ↦ op.entry?.all (·.id ≠ id)

end IndexOp

/-- The live entries after one more call. -/
def liveStep (live : List SubscriptionEntry) : IndexOp → List SubscriptionEntry
  | .subscribe entry =>
      match validatePattern (tokens entry.subjectPattern) with
      | .ok () => live ++ [entry]
      | .error _ => live
  | .unsubscribe id => live.filter fun entry ↦ entry.id ≠ id

/-- The live entries after some calls, oldest first. -/
def liveEntries (ops : List IndexOp) : List SubscriptionEntry := ops.foldl liveStep []

theorem liveEntries_concat (ops : List IndexOp) (op : IndexOp) :
    liveEntries (ops ++ [op]) = liveStep (liveEntries ops) op := by
  rw [liveEntries, List.foldl_append]
  rfl

theorem liveStep_sublist (live : List SubscriptionEntry) (op : IndexOp) :
    (liveStep live op).Sublist (live ++ op.entry?.toList) := by
  cases op with
  | subscribe entry =>
    simp only [liveStep]
    cases validatePattern (tokens entry.subjectPattern) with
    | ok _ => exact List.Sublist.refl _
    | error _ => exact List.sublist_append_left _ _
  | unsubscribe id =>
    rw [IndexOp.entry?, Option.toList_none, List.append_nil]
    exact List.filter_sublist

theorem liveEntries_sublist (ops : List IndexOp) :
    (liveEntries ops).Sublist (ops.filterMap IndexOp.entry?) := by
  induction ops using List.reverseRecOn with
  | nil => exact List.Sublist.refl _
  | append_singleton ops op ih =>
    rw [liveEntries_concat, List.filterMap_append]
    have hop : [op].filterMap IndexOp.entry? = op.entry?.toList := by
      cases hentry : op.entry? <;> simp [hentry]
    rw [hop]
    exact (liveStep_sublist _ _).trans (ih.append_right _)

/-- Unsubscribing an id leaves the entries there would be had it never subscribed. -/
theorem liveEntries_unsubscribe (ops : List IndexOp) (id : String) :
    liveEntries (ops ++ [.unsubscribe id]) = liveEntries (IndexOp.without id ops) := by
  rw [liveEntries_concat]
  induction ops using List.reverseRecOn with
  | nil => rfl
  | append_singleton ops op ih =>
    rw [liveEntries_concat, IndexOp.without, List.filter_append, ← IndexOp.without]
    cases op with
    | subscribe entry =>
      by_cases hid : entry.id = id
      · have hdropped : [IndexOp.subscribe entry].filter (fun op ↦ op.entry?.all (·.id ≠ id)) =
            [] := by simp [IndexOp.entry?, hid]
        rw [hdropped, List.append_nil, ← ih]
        simp only [liveStep]
        split <;> simp [hid]
      · have hkept : [IndexOp.subscribe entry].filter (fun op ↦ op.entry?.all (·.id ≠ id)) =
            [.subscribe entry] := by simp [IndexOp.entry?, hid]
        rw [hkept, liveEntries_concat, ← ih]
        simp only [liveStep]
        split <;> simp [hid]
    | unsubscribe other =>
      have hkept : [IndexOp.unsubscribe other].filter (fun op ↦ op.entry?.all (·.id ≠ id)) =
          [.unsubscribe other] := by simp [IndexOp.entry?]
      rw [hkept, liveEntries_concat, ← ih]
      simp only [liveStep, List.filter_filter, Bool.and_comm]

/-! ## The index refines the list of live entries -/

namespace SubjectIndex

/-- The index driven by calls; a rejected subscription leaves it as it was. -/
def machine : Machine SubjectIndex IndexOp (Except EventBusError Unit)
  | index, .subscribe entry =>
      match index.subscribe entry with
      | .ok next => (.ok (), next)
      | .error error => (.error error, index)
  | index, .unsubscribe id => (.ok (), index.unsubscribe id)

/-- The trie holds the live entries, each at the position of its pattern, in order. -/
structure Represents (index : SubjectIndex) (live : List SubscriptionEntry) : Prop where
  positions : ∀ {pattern}, FinalRest pattern →
    index.root.entriesAt pattern = live.filter fun entry ↦ tokens entry.subjectPattern = pattern
  walk : index.root.entries.Perm live

theorem represents_new : Represents new [] where
  positions _ := TrieNode.entriesAt_new _
  walk := by simp [new]

variable {live : List SubscriptionEntry} {index : SubjectIndex}

theorem Represents.step (h : Represents index live) (op : IndexOp) :
    Represents (machine index op).2 (liveStep live op) := by
  cases op with
  | subscribe entry =>
    simp only [machine, subscribe, liveStep]
    cases hvalid : validatePattern (tokens entry.subjectPattern) with
    | error error => exact h
    | ok _ =>
      constructor
      · intro pattern hpattern
        rw [TrieNode.entriesAt_insert entry (finalRest_of_validate hvalid) hpattern,
          h.positions hpattern, List.filter_append]
        split_ifs with heq <;> simp [heq]
      · apply (TrieNode.entries_insert entry _ _).trans
        exact (h.walk.cons entry).trans (List.perm_append_singleton entry live).symm
  | unsubscribe id =>
    constructor
    · intro pattern hpattern
      rw [machine, unsubscribe, TrieNode.entriesAt_remove index.wellFormed, h.positions hpattern]
      simp only [liveStep, List.filter_filter, Bool.and_comm]
    · rw [machine, unsubscribe, TrieNode.entries_remove]
      exact h.walk.filter _

variable {next : SubjectIndex} {entry : SubscriptionEntry} {subject : String}

theorem Represents.subscribe (h : Represents index live)
    (hsubscribed : index.subscribe entry = .ok next) : Represents next (live ++ [entry]) := by
  have hstep := h.step (.subscribe entry)
  simp only [machine, hsubscribed, liveStep] at hstep
  cases hvalid : validatePattern (tokens entry.subjectPattern) with
  | error error => simp [SubjectIndex.subscribe, hvalid] at hsubscribed
  | ok _ => simpa only [hvalid] using hstep

theorem represents_run (ops : List IndexOp) :
    Represents (machine.run new ops) (liveEntries ops) := by
  induction ops using List.reverseRecOn with
  | nil => exact represents_new
  | append_singleton ops op ih =>
    rw [Machine.run_concat, liveEntries_concat]
    exact ih.step op

/-- Grouping a list by a key and keeping some groups keeps their elements. -/
theorem flatMap_filter_perm {α κ : Type} [DecidableEq κ] (f : α → κ) (l : List α)
    {keys : List κ} (h : keys.Nodup) {p : α → Bool} (hp : ∀ a, p a = true ↔ f a ∈ keys) :
    (keys.flatMap fun key ↦ l.filter fun a ↦ f a = key).Perm (l.filter p) := by
  induction keys generalizing p with
  | nil =>
    have hnone : l.filter p = [] := List.filter_eq_nil_iff.mpr fun a _ ↦ by simp [hp]
    rw [hnone, List.flatMap_nil]
  | cons key rest ih =>
    obtain ⟨hkey, hrest⟩ := List.nodup_cons.mp h
    have hout := ih (p := fun a ↦ !decide (f a = key) && p a) hrest fun a ↦ by
      rw [Bool.and_eq_true, hp, Bool.not_eq_true', decide_eq_false_iff_not, List.mem_cons]
      constructor
      · intro ha
        exact ha.2.resolve_left ha.1
      · intro ha
        exact ⟨fun heq ↦ hkey (heq ▸ ha), .inr ha⟩
    have hin : l.filter (fun a ↦ f a = key) = (l.filter p).filter fun a ↦ f a = key := by
      rw [List.filter_filter]
      apply List.filter_congr
      intro a _
      by_cases ha : f a = key
      · simp [ha, (hp a).mpr (ha ▸ List.mem_cons_self)]
      · simp [ha]
    rw [List.flatMap_cons, hin]
    apply (hout.append_left _).trans
    rw [← List.filter_filter]
    exact List.filter_append_perm _ _

theorem Represents.collect_eq (h : Represents index live) (subject : String) :
    index.root.collect (tokens subject) = (patternsFor (tokens subject)).flatMap fun pattern ↦
      live.filter fun entry ↦ tokens entry.subjectPattern = pattern := by
  rw [TrieNode.collect_eq index.wellFormed]
  apply List.flatMap_congr
  intro pattern hmem
  exact h.positions (finalRest_of_matches (mem_patternsFor_iff.mp hmem))

/-- A lookup finds the live entries whose pattern matches the subject. -/
theorem Represents.mem_lookup_iff (h : Represents index live) :
    entry ∈ index.lookup subject ↔
      entry ∈ live ∧ patternMatches (tokens entry.subjectPattern) (tokens subject) = true := by
  rw [lookup, (List.perm_insertionSort _ _).mem_iff, h.collect_eq]
  simp only [List.mem_flatMap, List.mem_filter, decide_eq_true_eq, mem_patternsFor_iff]
  constructor
  · rintro ⟨pattern, hmatches, hlive, rfl⟩
    exact ⟨hlive, hmatches⟩
  · rintro ⟨hlive, hmatches⟩
    exact ⟨_, hmatches, hlive, rfl⟩

/-- The answers of an index that holds exactly the given live entries. -/
structure Answers (index : SubjectIndex) (live : List SubscriptionEntry) : Prop where
  lookup_perm : ∀ subject, (index.lookup subject).Perm <| live.filter fun entry ↦
    patternMatches (tokens entry.subjectPattern) (tokens subject)
  lookup_sorted : ∀ subject, (index.lookup subject).Pairwise fun a b ↦ a.priority ≤ b.priority
  list_perm : ∀ filter, (index.list filter).Perm <| live.filter fun entry ↦
    filter.all (entry.subjectPattern = ·)
  findById_eq : ∀ id, index.findById id = live.find? fun entry ↦ entry.id = id

/-- Two indexes that cannot be told apart; the order of a list is not specified. -/
structure SameAnswers (index other : SubjectIndex) : Prop where
  lookup_eq : ∀ subject, index.lookup subject = other.lookup subject
  list_perm : ∀ filter, (index.list filter).Perm (other.list filter)
  findById_eq : ∀ id, index.findById id = other.findById id

theorem find_eq_of_perm {l l' : List SubscriptionEntry} (h : l.Perm l')
    (hdistinct : (l'.map (·.id)).Nodup) (id : String) :
    (l.find? fun entry ↦ entry.id = id) = l'.find? fun entry ↦ entry.id = id := by
  cases hfind : l.find? fun entry ↦ entry.id = id with
  | none =>
    rw [List.find?_eq_none] at hfind
    exact (List.find?_eq_none.mpr fun entry hmem ↦ hfind entry (h.mem_iff.mpr hmem)).symm
  | some entry =>
    have hmem := h.mem_iff.mp (List.mem_of_find?_eq_some hfind)
    have hid : entry.id = id := by simpa using List.find?_some hfind
    cases hfind' : l'.find? fun entry ↦ entry.id = id with
    | none => exact absurd hid (by simpa using List.find?_eq_none.mp hfind' entry hmem)
    | some other =>
      have hid' : other.id = id := by simpa using List.find?_some hfind'
      have hmem' := List.mem_of_find?_eq_some hfind'
      rw [List.inj_on_of_nodup_map hdistinct hmem hmem' (hid.trans hid'.symm)]

theorem Represents.lookup_perm (h : Represents index live) (subject : String) :
    (index.lookup subject).Perm <| live.filter fun entry ↦
      patternMatches (tokens entry.subjectPattern) (tokens subject) := by
  rw [lookup, h.collect_eq]
  apply (List.perm_insertionSort _ _).trans
  have hgroups := flatMap_filter_perm (fun entry ↦ tokens entry.subjectPattern) live
    (patternsFor_nodup (tokens subject)) fun entry ↦ mem_patternsFor_iff.symm
  exact hgroups

theorem Represents.answers (h : Represents index live) (hdistinct : (live.map (·.id)).Nodup) :
    Answers index live where
  lookup_perm := h.lookup_perm
  lookup_sorted subject := by
    have : IsTrans SubscriptionEntry fun a b ↦ a.priority ≤ b.priority :=
      ⟨fun _ _ _ hab hbc ↦ hab.trans hbc⟩
    have : Std.Total fun a b : SubscriptionEntry ↦ a.priority ≤ b.priority :=
      ⟨fun a b ↦ Nat.le_total a.priority b.priority⟩
    exact List.pairwise_insertionSort _ _
  list_perm filter := by
    rw [list, TrieNode.collectAll_eq_filter]
    exact h.walk.filter _
  findById_eq id := by
    rw [findById, TrieNode.findInner_eq_find]
    exact find_eq_of_perm h.walk hdistinct id

theorem Represents.sameAnswers {other : SubjectIndex} (h : Represents index live)
    (h' : Represents other live) (hdistinct : (live.map (·.id)).Nodup) :
    SameAnswers index other where
  lookup_eq subject := by
    rw [lookup, lookup, h.collect_eq, h'.collect_eq]
  list_perm filter :=
    ((h.answers hdistinct).list_perm filter).trans ((h'.answers hdistinct).list_perm filter).symm
  findById_eq id := by
    rw [(h.answers hdistinct).findById_eq, (h'.answers hdistinct).findById_eq]

theorem mem_list_subscribe {other : SubscriptionEntry} (h : index.subscribe entry = .ok next) :
    other ∈ next.list none ↔ other = entry ∨ other ∈ index.list none := by
  unfold subscribe at h
  split at h
  · cases h
  · cases h
    exact (TrieNode.entries_insert entry _ _).mem_iff.trans List.mem_cons

theorem mem_list_unsubscribe {id : String} :
    entry ∈ (index.unsubscribe id).list none ↔ entry ∈ index.list none ∧ entry.id ≠ id := by
  have hentries := TrieNode.entries_remove (fun entry : SubscriptionEntry ↦ entry.id ≠ id)
    index.root
  change entry ∈ (index.root.remove _).entries ↔ _
  rw [hentries, List.mem_filter, decide_eq_true_eq]
  rfl

theorem Represents.mem_list_of_mem_lookup (h : Represents index live)
    (hmem : entry ∈ index.lookup subject) : entry ∈ index.list none ∧
      patternMatches (tokens entry.subjectPattern) (tokens subject) = true := by
  obtain ⟨hlive, hmatches⟩ := h.mem_lookup_iff.mp hmem
  exact ⟨h.walk.mem_iff.mpr hlive, hmatches⟩

theorem distinct_liveEntries {ops : List IndexOp} (h : IndexOp.DistinctIds ops) :
    ((liveEntries ops).map (·.id)).Nodup :=
  h.sublist ((liveEntries_sublist ops).map _)

/-- After any calls with distinct ids, the index answers from the live entries by the pattern
semantics, holds no empty node, and after an unsubscription answers as if the entry had never been
added. -/
theorem answers_run (ops : List IndexOp) (hdistinct : IndexOp.DistinctIds ops) :
    Answers (machine.run new ops) (liveEntries ops) ∧
      (∀ node, (machine.run new ops).root.Below node → node.isEmpty = false) ∧
      ∀ id, SameAnswers (machine.run new (ops ++ [.unsubscribe id]))
        (machine.run new (IndexOp.without id ops)) := by
  refine ⟨?_, ?_, ?_⟩
  · exact (represents_run ops).answers (distinct_liveEntries hdistinct)
  · intro node hbelow
    exact ((machine.run new ops).wellFormed.nonempty_of_below hbelow).1
  · intro id
    have hlive := represents_run (ops ++ [.unsubscribe id])
    rw [liveEntries_unsubscribe] at hlive
    have hsublist : (IndexOp.without id ops).Sublist ops := List.filter_sublist
    have hwithout : IndexOp.DistinctIds (IndexOp.without id ops) :=
      hdistinct.sublist ((hsublist.filterMap _).map _)
    exact hlive.sameAnswers (represents_run _) (distinct_liveEntries hwithout)

/-- The answers with two overlapping wildcards, one of them unsubscribed. -/
theorem answers_run_overlapping :
    let entry (id subjectPattern : String) (priority : ℕ) : SubscriptionEntry :=
      { id, subjectPattern, priority, mode := .async, channel := .inProcess, timeout := 5000,
        filter := none }
    let ops : List IndexOp :=
      [.subscribe (entry "s1" "a.*" 20), .subscribe (entry "s2" "a.>" 10),
        .subscribe (entry "s3" "a.b" 10), .unsubscribe "s1"]
    Answers (machine.run new ops) (liveEntries ops) ∧
      (∀ node, (machine.run new ops).root.Below node → node.isEmpty = false) ∧
      ∀ id, SameAnswers (machine.run new (ops ++ [.unsubscribe id]))
        (machine.run new (IndexOp.without id ops)) :=
  answers_run _ (by decide)

end SubjectIndex

end Seidrum.EventBus
