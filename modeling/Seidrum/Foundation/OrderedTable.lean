import Mathlib.Data.List.Pairwise
import Mathlib.Data.List.Sort
import Mathlib.Data.Prod.Lex

/-!
# Ordered tables

A table is a finite map whose entries are kept in strictly ascending key order, as an embedded
ordered key-value engine presents it: point reads, inserts and removals, the last entry, and a
scan from a given key on.  The order is a field of the table, so two tables with the same entries
are equal, and a scan is determined by membership alone.
-/

namespace Seidrum.Foundation

/-- A finite map with its entries in strictly ascending key order. -/
@[ext]
structure Table (κ ν : Type*) [LinearOrder κ] where
  entries : List (κ × ν)
  sorted : entries.Pairwise fun a b ↦ a.1 < b.1

namespace Table

variable {κ ν : Type*} [LinearOrder κ]

def empty : Table κ ν := ⟨[], List.Pairwise.nil⟩

def get (t : Table κ ν) (key : κ) : Option ν :=
  (t.entries.find? fun entry ↦ entry.1 = key).map Prod.snd

/-- Place an entry before the first larger key, replacing an entry of the same key. -/
def insertEntry (key : κ) (value : ν) : List (κ × ν) → List (κ × ν)
  | [] => [(key, value)]
  | entry :: rest =>
      if key < entry.1 then (key, value) :: entry :: rest
      else if key = entry.1 then (key, value) :: rest
      else entry :: insertEntry key value rest

variable {key : κ} {value : ν} {entries : List (κ × ν)} {entry : κ × ν} {other : κ} {α β : Type*}

theorem mem_insertEntry_imp (h : entry ∈ insertEntry key value entries) :
    entry = (key, value) ∨ entry ∈ entries := by
  induction entries with
  | nil => simpa [insertEntry] using h
  | cons head rest ih =>
    unfold insertEntry at h
    split at h
    · simpa using h
    · split at h
      · rcases List.mem_cons.mp h with h | h
        · exact .inl h
        · exact .inr (List.mem_cons_of_mem _ h)
      · rcases List.mem_cons.mp h with h | h
        · exact .inr (h ▸ List.mem_cons_self)
        · exact (ih h).imp_right (List.mem_cons_of_mem _)

theorem insertEntry_sorted (key : κ) (value : ν) (h : entries.Pairwise fun a b ↦ a.1 < b.1) :
    (insertEntry key value entries).Pairwise fun a b ↦ a.1 < b.1 := by
  induction entries with
  | nil => simp [insertEntry]
  | cons head rest ih =>
    have hhead := List.pairwise_cons.mp h
    unfold insertEntry
    split
    · rename_i hlt
      refine List.pairwise_cons.mpr ⟨fun entry hmem ↦ ?_, h⟩
      rcases List.mem_cons.mp hmem with rfl | hmem
      · exact hlt
      · exact hlt.trans (hhead.1 entry hmem)
    · split
      · rename_i heq
        exact List.pairwise_cons.mpr ⟨fun entry hmem ↦ heq ▸ hhead.1 entry hmem, hhead.2⟩
      · rename_i hnlt hne
        refine List.pairwise_cons.mpr ⟨fun entry hmem ↦ ?_, ih hhead.2⟩
        rcases mem_insertEntry_imp hmem with rfl | hmem
        · exact lt_of_le_of_ne (not_lt.mp hnlt) (Ne.symm hne)
        · exact hhead.1 entry hmem

theorem insertEntry_above (h : ∀ entry ∈ entries, entry.1 < key) :
    insertEntry key value entries = entries ++ [(key, value)] := by
  induction entries with
  | nil => rfl
  | cons head rest ih =>
    have hhead : head.1 < key := h head List.mem_cons_self
    have hrest := ih fun entry hmem ↦ h entry (List.mem_cons_of_mem _ hmem)
    rw [insertEntry, if_neg hhead.not_gt, if_neg hhead.ne', hrest, List.cons_append]

def insert (t : Table κ ν) (key : κ) (value : ν) : Table κ ν :=
  ⟨insertEntry key value t.entries, insertEntry_sorted key value t.sorted⟩

def remove (t : Table κ ν) (key : κ) : Table κ ν :=
  ⟨t.entries.filter fun entry ↦ entry.1 ≠ key, t.sorted.filter _⟩

/-- Remove every key of a list, in its order. -/
def removeAll (t : Table κ ν) (keys : List κ) : Table κ ν := keys.foldl remove t

/-- The entry with the largest key. -/
def last (t : Table κ ν) : Option (κ × ν) := t.entries.getLast?

/-- The entries from a key on, in ascending order. -/
def rangeFrom (t : Table κ ν) (key : κ) : List (κ × ν) :=
  t.entries.filter fun entry ↦ key ≤ entry.1

def keys (t : Table κ ν) : List κ := t.entries.map Prod.fst

/-! ## Membership -/

theorem entry_unique (t : Table κ ν) {a b : κ × ν} (ha : a ∈ t.entries) (hb : b ∈ t.entries)
    (h : a.1 = b.1) : a = b := by
  by_contra hne
  have : Std.Symm (fun a b : κ × ν ↦ a.1 ≠ b.1) := ⟨fun _ _ hab ↦ hab.symm⟩
  have hdistinct : t.entries.Pairwise fun a b ↦ a.1 ≠ b.1 := t.sorted.imp fun hlt ↦ ne_of_lt hlt
  exact hdistinct.forall ha hb hne h

theorem get_eq_some_iff (t : Table κ ν) : t.get key = some value ↔ (key, value) ∈ t.entries := by
  unfold get
  rw [Option.map_eq_some_iff]
  constructor
  · rintro ⟨entry, hfind, rfl⟩
    have hkey : entry.1 = key := by simpa using List.find?_some hfind
    rw [← hkey]
    exact List.mem_of_find?_eq_some hfind
  · intro hmem
    cases hfind : t.entries.find? fun entry ↦ entry.1 = key with
    | none =>
      have := List.find?_eq_none.mp hfind _ hmem
      simp at this
    | some entry =>
      have hkey : entry.1 = key := by simpa using List.find?_some hfind
      have heq := t.entry_unique (List.mem_of_find?_eq_some hfind) hmem hkey
      exact ⟨entry, rfl, by rw [heq]⟩

theorem get_eq_none_iff (t : Table κ ν) :
    t.get key = none ↔ ∀ entry ∈ t.entries, entry.1 ≠ key := by
  simp [get]

@[simp]
theorem mem_empty (entry : κ × ν) : entry ∈ (empty : Table κ ν).entries ↔ False := by
  simp [empty]

theorem mem_insert (t : Table κ ν) :
    entry ∈ (t.insert key value).entries ↔
      entry = (key, value) ∨ (entry ∈ t.entries ∧ entry.1 ≠ key) := by
  have hself : (key, value) ∈ (t.insert key value).entries := by
    unfold insert
    simp only
    induction t.entries with
    | nil => simp [insertEntry]
    | cons head rest ih => unfold insertEntry; split_ifs <;> simp [ih]
  have hkept (hmem : entry ∈ t.entries) (hne : entry.1 ≠ key) :
      entry ∈ (t.insert key value).entries := by
    unfold insert
    simp only
    revert hmem
    induction t.entries with
    | nil => simp
    | cons head rest ih =>
      intro hmem
      unfold insertEntry
      split_ifs with hlt heq
      · exact List.mem_cons_of_mem _ hmem
      · rcases List.mem_cons.mp hmem with rfl | hmem
        · exact absurd heq.symm hne
        · exact List.mem_cons_of_mem _ hmem
      · rcases List.mem_cons.mp hmem with rfl | hmem
        · exact List.mem_cons_self
        · exact List.mem_cons_of_mem _ (ih hmem)
  constructor
  · intro hmem
    by_cases hkey : entry.1 = key
    · exact .inl (entry_unique _ hmem hself hkey)
    · exact (mem_insertEntry_imp hmem).imp_right fun h ↦ ⟨h, hkey⟩
  · rintro (rfl | ⟨hmem, hne⟩)
    · exact hself
    · exact hkept hmem hne

theorem mem_remove (t : Table κ ν) :
    entry ∈ (t.remove key).entries ↔ entry ∈ t.entries ∧ entry.1 ≠ key := by
  simp [remove]

theorem mem_removeAll (t : Table κ ν) {keys : List κ} :
    entry ∈ (t.removeAll keys).entries ↔ entry ∈ t.entries ∧ entry.1 ∉ keys := by
  unfold removeAll
  induction keys generalizing t with
  | nil => simp
  | cons key rest ih =>
    rw [List.foldl_cons, ih, mem_remove, List.mem_cons, not_or, and_assoc]

theorem get_insert (t : Table κ ν) (key other : κ) (value : ν) :
    (t.insert key value).get other = if other = key then some value else t.get other := by
  ext found
  rw [get_eq_some_iff, mem_insert]
  by_cases h : other = key
  · simp [h, eq_comm]
  · simp [h, get_eq_some_iff]

theorem mem_keys (t : Table κ ν) : key ∈ t.keys ↔ ∃ value, (key, value) ∈ t.entries := by
  simp [keys]

/-- No key is larger than the last one. -/
theorem le_last (t : Table κ ν) {last : κ × ν} (hlast : t.last = some last)
    (hmem : entry ∈ t.entries) : entry.1 ≤ last.1 := by
  obtain ⟨front, hsplit⟩ := List.getLast?_eq_some_iff.mp hlast
  have hsorted := t.sorted
  rw [hsplit, List.pairwise_append] at hsorted
  rw [hsplit, List.mem_append, List.mem_singleton] at hmem
  obtain hfront | rfl := hmem
  · exact (hsorted.2.2 entry hfront last List.mem_cons_self).le
  · exact le_rfl

/-- The key an append-only table gives out next. -/
def nextKey (t : Table ℕ ν) : ℕ := (t.last.map Prod.fst).getD 0 + 1

theorem entries_insert_nextKey (t : Table ℕ ν) (value : ν) :
    (t.insert t.nextKey value).entries = t.entries ++ [(t.nextKey, value)] := by
  apply insertEntry_above
  intro entry hmem
  cases hlast : t.last with
  | none =>
    have hnil : t.entries = [] := List.getLast?_eq_none_iff.mp hlast
    exact absurd hmem (hnil ▸ List.not_mem_nil)
  | some last =>
    have hle := t.le_last hlast hmem
    rw [nextKey, hlast]
    exact Nat.lt_succ_of_le hle

@[simp]
theorem keys_empty : (empty : Table κ ν).keys = [] := rfl

theorem mem_keys_insert (t : Table κ ν) :
    other ∈ (t.insert key value).keys ↔ other = key ∨ other ∈ t.keys := by
  simp only [mem_keys, mem_insert, Prod.mk.injEq]
  by_cases h : other = key <;> simp [h]

theorem mem_keys_remove (t : Table κ ν) :
    other ∈ (t.remove key).keys ↔ other ∈ t.keys ∧ other ≠ key := by
  simp [mem_keys, mem_remove]

theorem mem_keys_removeAll (t : Table κ ν) {removed : List κ} :
    other ∈ (t.removeAll removed).keys ↔ other ∈ t.keys ∧ other ∉ removed := by
  simp [mem_keys, mem_removeAll]

section MapValues

variable {μ : Type*} (f : ν → μ)

/-- Change every value, whatever its key. -/
def mapValues (t : Table κ ν) : Table κ μ where
  entries := t.entries.map fun entry ↦ (entry.1, f entry.2)
  sorted := List.pairwise_map.mpr t.sorted

theorem get_mapValues (t : Table κ ν) (key : κ) : (t.mapValues f).get key = (t.get key).map f := by
  ext found
  simp [get_eq_some_iff, mapValues, Option.map_eq_some_iff]

theorem mapValues_eq_self {f : ν → ν} {t : Table κ ν}
    (h : ∀ entry ∈ t.entries, f entry.2 = entry.2) : t.mapValues f = t := by
  ext1
  have hentries : t.entries.map (fun entry ↦ (entry.1, f entry.2)) = t.entries.map id :=
    List.map_congr_left fun entry hmem ↦ Prod.ext rfl (h entry hmem)
  exact hentries.trans (List.map_id _)

end MapValues

/-- The entries are determined by membership: any ascending list with the same members is the
table's own. -/
theorem entries_eq_of_mem_iff (t : Table κ ν) (hsorted : entries.Pairwise fun a b ↦ a.1 < b.1)
    (hmem : ∀ entry, entry ∈ t.entries ↔ entry ∈ entries) : t.entries = entries := by
  have : Std.Antisymm (fun a b : κ × ν ↦ a.1 < b.1) := ⟨fun _ _ hab hba ↦ absurd hab hba.asymm⟩
  have : Std.Irrefl (fun a b : κ × ν ↦ a.1 < b.1) := ⟨fun a ↦ lt_irrefl a.1⟩
  exact t.sorted.eq_of_mem_iff hsorted hmem

/-- Tables with the same values are equal. -/
theorem ext_get {t u : Table κ ν} (h : ∀ key, t.get key = u.get key) : t = u := by
  ext1
  refine t.entries_eq_of_mem_iff u.sorted fun entry ↦ ?_
  rw [← t.get_eq_some_iff, ← u.get_eq_some_iff, h]

theorem mapValues_insert {μ : Type*} (f : ν → μ) (t : Table κ ν) (key : κ) (value : ν) :
    (t.insert key value).mapValues f = (t.mapValues f).insert key (f value) := by
  refine ext_get fun other ↦ ?_
  rw [get_mapValues, get_insert, get_insert, get_mapValues]
  split_ifs <;> rfl

theorem keys_sorted (t : Table κ ν) : t.keys.Pairwise (· < ·) :=
  List.pairwise_map.mpr t.sorted

theorem keys_eq_of_mem_iff (t : Table κ ν) {keys : List κ} (hsorted : keys.Pairwise (· < ·))
    (hmem : ∀ key, key ∈ t.keys ↔ key ∈ keys) : t.keys = keys :=
  t.keys_sorted.eq_of_mem_iff hsorted hmem

/-- A scan over a compound key, started at `(a, b)` and stopped at the first other first
component, reads exactly the keys `(a, b')` with `b ≤ b'`. -/
theorem takeWhile_rangeFrom_lex [LinearOrder α] [LinearOrder β] (t : Table (α ×ₗ β) ν) (a : α)
    (b : β) :
    (t.rangeFrom (toLex (a, b))).takeWhile (fun entry ↦ (ofLex entry.1).1 = a) =
      t.entries.filter fun entry ↦ (ofLex entry.1).1 = a ∧ b ≤ (ofLex entry.1).2 := by
  unfold rangeFrom
  have hsorted := t.sorted
  revert hsorted
  induction t.entries with
  | nil => simp
  | cons head rest ih =>
    intro hsorted
    have hhead := List.pairwise_cons.mp hsorted
    have hle : toLex (a, b) ≤ head.1 ↔
        a < (ofLex head.1).1 ∨ a = (ofLex head.1).1 ∧ b ≤ (ofLex head.1).2 := Prod.Lex.le_iff
    rcases lt_trichotomy a (ofLex head.1).1 with hlt | heq | hgt
    · -- every later key has an even larger first component, so the scan stops for good
      have hrest : rest.filter (fun entry ↦ (ofLex entry.1).1 = a ∧ b ≤ (ofLex entry.1).2) = [] := by
        refine List.filter_eq_nil_iff.mpr fun entry hmem ↦ ?_
        have hfst : (ofLex head.1).1 ≤ (ofLex entry.1).1 := by
          rcases Prod.Lex.lt_iff.mp (hhead.1 entry hmem) with h | h
          · exact h.le
          · exact h.1.le
        simp [(hlt.trans_le hfst).ne']
      rw [List.filter_cons_of_pos (by simp [hle, hlt]),
        List.takeWhile_cons_of_neg (by simp [hlt.ne']),
        List.filter_cons_of_neg (by simp [hlt.ne']), hrest]
    · subst heq
      by_cases hb : b ≤ (ofLex head.1).2 <;> simp [hle, hb, ih hhead.2]
    · simp [hle, hgt.not_gt, hgt.ne, hgt.ne', ih hhead.2]

/-- The second components a compound scan reads are determined by the keys it can meet. -/
theorem scan_lex_eq [LinearOrder α] [LinearOrder β] (t : Table (α ×ₗ β) ν) (a : α) (b : β)
    {seconds : List β} (hsorted : seconds.Pairwise (· < ·))
    (hmem : ∀ second, second ∈ seconds ↔ toLex (a, second) ∈ t.keys ∧ b ≤ second) :
    ((t.rangeFrom (toLex (a, b))).takeWhile fun entry ↦ (ofLex entry.1).1 = a).map
      (fun entry ↦ (ofLex entry.1).2) = seconds := by
  rw [takeWhile_rangeFrom_lex]
  have hscan : ((t.entries.filter fun entry ↦ (ofLex entry.1).1 = a ∧ b ≤ (ofLex entry.1).2).map
      fun entry ↦ (ofLex entry.1).2).Pairwise (· < ·) := by
    apply List.pairwise_map.mpr
    apply (t.sorted.filter _).imp_of_mem
    intro x y hx hy hlt
    have hxa : (ofLex x.1).1 = a := (of_decide_eq_true (List.mem_filter.mp hx).2).1
    have hya : (ofLex y.1).1 = a := (of_decide_eq_true (List.mem_filter.mp hy).2).1
    obtain h | h := Prod.Lex.lt_iff.mp hlt
    · rw [hxa, hya] at h
      exact absurd h (lt_irrefl a)
    · exact h.2
  apply hscan.eq_of_mem_iff hsorted
  intro second
  rw [hmem, mem_keys, List.mem_map]
  constructor
  · intro h
    obtain ⟨⟨key, value⟩, hentry, rfl⟩ := h
    obtain ⟨hin, hrange⟩ := List.mem_filter.mp hentry
    obtain ⟨rfl, hb⟩ := of_decide_eq_true hrange
    exact ⟨⟨value, hin⟩, hb⟩
  · intro h
    obtain ⟨⟨value, hentry⟩, hb⟩ := h
    exact ⟨(toLex (a, second), value), List.mem_filter.mpr ⟨hentry, by simp [hb]⟩, rfl⟩

end Table

end Seidrum.Foundation
