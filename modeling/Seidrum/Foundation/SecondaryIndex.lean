import Seidrum.Foundation.OrderedTable

/-!
# Secondary indexes

A collection of records with distinct ids, and a table of keys derived from them beside it.  A
record has at most one key in the index, and a key names the record it came from.  The rules below
are the four ways such an index is maintained by hand: a record is added, records are dropped, a
record is replaced by another of the same id, or replaced without a change of its key.
-/

namespace Seidrum.Foundation

/-- How records are identified and how an index key is read off a record and back. -/
structure IndexKey (ρ ι κ : Type*) where
  id : ρ → ι
  key : ρ → Option κ
  idOf : κ → ι
  idOf_key : ∀ {record k}, key record = some k → idOf k = id record

section

variable {ρ ι κ : Type*} [LinearOrder κ] (K : IndexKey ρ ι κ)

/-- The table holds exactly the keys of the records. -/
def IsIndex (index : Table κ Unit) (records : List ρ) : Prop :=
  ∀ k, k ∈ index.keys ↔ ∃ record ∈ records, K.key record = some k

/-- At most one record has a given id. -/
def DistinctIds (records : List ρ) : Prop :=
  ∀ a ∈ records, ∀ b ∈ records, K.id a = K.id b → a = b

variable {K} {index index' : Table κ Unit} {records records' : List ρ}

theorem isIndex_empty : IsIndex K Table.empty [] := fun k ↦ by simp

theorem IsIndex.key_eq (h : IsIndex K index records) (hdistinct : DistinctIds K records)
    {record : ρ} (hmem : record ∈ records) {k : κ} (hk : k ∈ index.keys)
    (hid : K.idOf k = K.id record) : K.key record = some k := by
  obtain ⟨other, hother, hkey⟩ := (h k).mp hk
  have heq : other = record := hdistinct _ hother _ hmem (by rw [← K.idOf_key hkey, hid])
  rw [← heq]
  exact hkey

/-- A record is added and its key inserted. -/
theorem IsIndex.add (h : IsIndex K index records) {new : ρ}
    (hrecords : ∀ record, record ∈ records' ↔ record ∈ records ∨ record = new)
    (hindex : ∀ k, k ∈ index'.keys ↔ K.key new = some k ∨ k ∈ index.keys) :
    IsIndex K index' records' := by
  intro k
  rw [hindex, h k]
  constructor
  · intro hk
    obtain hk | ⟨record, hmem, hk⟩ := hk
    · exact ⟨new, (hrecords new).mpr (.inr rfl), hk⟩
    · exact ⟨record, (hrecords record).mpr (.inl hmem), hk⟩
  · intro hk
    obtain ⟨record, hmem, hk⟩ := hk
    obtain hmem | heq := (hrecords record).mp hmem
    · exact .inr ⟨record, hmem, hk⟩
    · exact .inl (heq ▸ hk)

section

variable (h : IsIndex K index records) (hdistinct : DistinctIds K records)
include h hdistinct

/-- Records are dropped and the keys they may have removed. -/
theorem IsIndex.removeAll {keyOf : ρ → κ}
    (hkeyOf : ∀ record k, K.key record = some k → keyOf record = k)
    (hidOf : ∀ record, K.idOf (keyOf record) = K.id record) {removed : List ρ}
    (hremoved : ∀ record ∈ removed, record ∈ records)
    (hrecords : ∀ record, record ∈ records' ↔ record ∈ records ∧ record ∉ removed) :
    IsIndex K (index.removeAll (removed.map keyOf)) records' := by
  intro k
  rw [Table.mem_keys_removeAll, h k]
  constructor
  · intro hk
    obtain ⟨⟨record, hmem, hk⟩, hnot⟩ := hk
    refine ⟨record, (hrecords record).mpr ⟨hmem, fun hgone ↦ hnot ?_⟩, hk⟩
    rw [← hkeyOf record k hk]
    exact List.mem_map_of_mem hgone
  · intro hk
    obtain ⟨record, hmem, hk⟩ := hk
    obtain ⟨hmem, hkept⟩ := (hrecords record).mp hmem
    refine ⟨⟨record, hmem, hk⟩, fun hin ↦ hkept ?_⟩
    obtain ⟨other, hother, hkother⟩ := List.mem_map.mp hin
    have hid : K.id record = K.id other := by rw [← K.idOf_key hk, ← hkother, hidOf]
    rw [hdistinct _ hmem _ (hremoved other hother) hid]
    exact hother

/-- A record is replaced by another of the same id: its old key goes, the new one comes. -/
theorem IsIndex.replace {old new : ρ} (hold : old ∈ records)
    (hrecords : ∀ record, record ∈ records' ↔
      record = new ∨ (record ∈ records ∧ K.id record ≠ K.id old))
    (hindex : ∀ k, k ∈ index'.keys ↔ K.key new = some k ∨ (k ∈ index.keys ∧ K.key old ≠ some k)) :
    IsIndex K index' records' := by
  intro k
  rw [hindex, h k]
  constructor
  · intro hk
    obtain hk | ⟨⟨record, hmem, hk⟩, hne⟩ := hk
    · exact ⟨new, (hrecords new).mpr (.inl rfl), hk⟩
    · refine ⟨record, (hrecords record).mpr (.inr ⟨hmem, fun hid ↦ hne ?_⟩), hk⟩
      rw [← hdistinct _ hmem _ hold hid]
      exact hk
  · intro hk
    obtain ⟨record, hmem, hk⟩ := hk
    obtain heq | ⟨hmem, hid⟩ := (hrecords record).mp hmem
    · exact .inl (heq ▸ hk)
    · refine .inr ⟨⟨record, hmem, hk⟩, fun hkold ↦ hid ?_⟩
      rw [← K.idOf_key hk, ← K.idOf_key hkold]

/-- A record is replaced by another of the same id and key, and the index is not touched. -/
theorem IsIndex.keep {old new : ρ} (hold : old ∈ records) (hkey : K.key new = K.key old)
    (hrecords : ∀ record, record ∈ records' ↔
      record = new ∨ (record ∈ records ∧ K.id record ≠ K.id old)) : IsIndex K index records' := by
  refine h.replace hdistinct hold hrecords fun k ↦ ?_
  have hmem (hk : K.key old = some k) : k ∈ index.keys := (h k).mpr ⟨old, hold, hk⟩
  rw [hkey]
  tauto

end

end

end Seidrum.Foundation
