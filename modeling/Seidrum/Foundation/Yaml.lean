import Mathlib.Data.List.Forall2
import Mathlib.Data.List.Nodup
import Mathlib.Data.String.Basic
import Seidrum.Foundation.OrderedTable

/-!
# Documents read by types and as values

A parsed document keeps the text of its scalars, of which some are keys.  A typed reader takes a string
from the text, whatever kind the scalar is of; reading the document as a generic value keeps the value of
a number, a Boolean or a null only, of a key as of any other scalar, which is printed in one way, and
refuses a mapping with a repeated key.
-/

namespace Seidrum.Foundation

/-- What a scalar is read as; the printed form of a number stands for its value, and an integer of more
than 64 bits is no value. -/
inductive ScalarKind
  | null
  | bool (value : Bool)
  | number (printed : String)
  | wide
  | string
  deriving DecidableEq, Repr

/-- A number has a digit, unless it is infinite or none. -/
def Numeric (text : String) : Prop :=
  text.toList.any Char.isDigit ∨ text ∈ [".inf", ".Inf", ".INF", "+.inf", "+.Inf", "+.INF", "-.inf", "-.Inf",
    "-.INF", ".nan", ".NaN", ".NAN"]

instance (text : String) : Decidable (Numeric text) := inferInstanceAs (Decidable (_ ∨ _))

/-- The texts of a kind, and how a value of it is printed. -/
def ScalarKind.Fits (text : String) : ScalarKind → Prop
  | null => text ∈ ["", "~", "null", "Null", "NULL"]
  | bool true => text ∈ ["true", "True", "TRUE"]
  | bool false => text ∈ ["false", "False", "FALSE"]
  | number printed => Numeric text ∧ Numeric printed
  | wide => Numeric text
  | string => True

structure Scalar where
  text : String
  kind : ScalarKind
  fits : kind.Fits text
  deriving DecidableEq

namespace Scalar

/-- A string, whether it is quoted or not. -/
def ofString (text : String) : Scalar := ⟨text, .string, trivial⟩

@[simp]
theorem text_ofString (text : String) : (ofString text).text = text := rfl

def ofBool (value : Bool) : Scalar :=
  ⟨if value then "true" else "false", .bool value, by cases value <;> exact List.mem_cons_self⟩

/-- The scalar as a value, the way it is printed. -/
def generic : Scalar → Option Scalar
  | ⟨_, .null, _⟩ => some ⟨"null", .null, by simp [ScalarKind.Fits]⟩
  | ⟨_, .bool value, _⟩ => some (ofBool value)
  | ⟨_, .number printed, fits⟩ => some ⟨printed, .number printed, fits.2, fits.2⟩
  | ⟨_, .wide, _⟩ => none
  | ⟨text, .string, _⟩ => some (ofString text)

theorem generic_generic {scalar value : Scalar} (h : scalar.generic = some value) :
    value.generic = some value := by
  obtain ⟨text, kind, fits⟩ := scalar
  cases kind <;> cases h <;> rfl

/-- Only strings have this text. -/
def IsWord (text : String) : Prop := ∀ kind : ScalarKind, kind.Fits text → kind = .string

theorem IsWord.eq_ofString {text : String} (hword : IsWord text) {scalar : Scalar}
    (h : scalar.text = text) : scalar = ofString text := by
  obtain ⟨_, kind, fits⟩ := scalar
  obtain rfl : _ = text := h
  obtain rfl := hword kind fits
  rfl

end Scalar

/-- A document, its aliases replaced by what they refer to; what has tags, or keys that are no scalars, is
left out. -/
inductive Yaml
  | scalar (scalar : Scalar)
  | sequence (items : List Yaml)
  | mapping (entries : List (Scalar × Yaml))

namespace Yaml

/-- A string, as it is written by a typed writer. -/
def ofString (text : String) : Yaml := scalar (.ofString text)

def ofBool (value : Bool) : Yaml := scalar (.ofBool value)

/-- Entries whose keys are strings. -/
def ofFields (fields : List (String × Yaml)) : Yaml :=
  mapping (fields.map fun field ↦ (.ofString field.1, field.2))

mutual

/-- The document as a generic value. -/
def generic : Yaml → Option Yaml
  | scalar found => found.generic.map scalar
  | sequence items => (genericItems items).map sequence
  | mapping entries =>
      (genericEntries entries).bind fun entries' ↦
        if (entries'.map Prod.fst).Nodup then some (mapping entries') else none

def genericItems : List Yaml → Option (List Yaml)
  | [] => some []
  | item :: rest => (generic item).bind fun item' ↦ (genericItems rest).map (item' :: ·)

def genericEntries : List (Scalar × Yaml) → Option (List (Scalar × Yaml))
  | [] => some []
  | (key, value) :: rest =>
      key.generic.bind fun key' ↦ (generic value).bind fun value' ↦
        (genericEntries rest).map ((key', value') :: ·)

end

variable {entries result : List (Scalar × Yaml)} {fields : List (String × Yaml)}

/-- The entries keep their order. -/
theorem genericEntries_eq_some_iff :
    genericEntries entries = some result ↔
      List.Forall₂ (fun entry entry' ↦ entry.1.generic = some entry'.1 ∧ generic entry.2 = some entry'.2)
        entries result := by
  induction entries generalizing result with
  | nil =>
    rw [genericEntries, List.forall₂_nil_left_iff, Option.some_inj]
    exact eq_comm
  | cons entry rest ih =>
    obtain ⟨key, value⟩ := entry
    rw [genericEntries, List.forall₂_cons_left_iff]
    simp only [Option.bind_eq_some_iff, Option.map_eq_some_iff]
    constructor
    · rintro ⟨key', hkey, value', hvalue, rest', hrest, rfl⟩
      exact ⟨(key', value'), rest', ⟨hkey, hvalue⟩, ih.mp hrest, rfl⟩
    · rintro ⟨⟨key', value'⟩, rest', ⟨hkey, hvalue⟩, hrest, rfl⟩
      exact ⟨key', hkey, value', hvalue, rest', ih.mpr hrest, rfl⟩

theorem generic_mapping_eq_some_iff {doc : Yaml} :
    generic (mapping entries) = some doc ↔
      ∃ result, genericEntries entries = some result ∧ (result.map Prod.fst).Nodup ∧ doc = mapping result := by
  rw [generic, Option.bind_eq_some_iff]
  refine exists_congr fun result ↦ and_congr_right fun _ ↦ ?_
  rw [Option.ite_none_right_eq_some, Option.some_inj, eq_comm]

mutual

/-- A generic value is printed and read as itself. -/
theorem generic_generic : ∀ {doc value : Yaml}, generic doc = some value → generic value = some value
  | scalar _, _, h => by
      obtain ⟨found, hfound, rfl⟩ := Option.map_eq_some_iff.mp h
      rw [generic, Scalar.generic_generic hfound]
      rfl
  | sequence items, _, h => by
      obtain ⟨result, hresult, rfl⟩ := Option.map_eq_some_iff.mp h
      rw [generic, genericItems_generic hresult]
      rfl
  | mapping entries, _, h => by
      obtain ⟨result, hresult, hnodup, rfl⟩ := generic_mapping_eq_some_iff.mp h
      exact generic_mapping_eq_some_iff.mpr ⟨result, genericEntries_generic hresult, hnodup, rfl⟩

theorem genericItems_generic : ∀ {items result : List Yaml}, genericItems items = some result →
    genericItems result = some result
  | [], _, h => by
      cases h
      rfl
  | item :: rest, _, h => by
      obtain ⟨item', hitem, hmap⟩ := Option.bind_eq_some_iff.mp h
      obtain ⟨rest', hrest, rfl⟩ := Option.map_eq_some_iff.mp hmap
      rw [genericItems, generic_generic hitem, Option.bind_some, genericItems_generic hrest]
      rfl

theorem genericEntries_generic : ∀ {entries result : List (Scalar × Yaml)},
    genericEntries entries = some result → genericEntries result = some result
  | [], _, h => by
      cases h
      rfl
  | (key, value) :: rest, _, h => by
      obtain ⟨key', hkey, hbind⟩ := Option.bind_eq_some_iff.mp h
      obtain ⟨value', hvalue, hmap⟩ := Option.bind_eq_some_iff.mp hbind
      obtain ⟨rest', hrest, rfl⟩ := Option.map_eq_some_iff.mp hmap
      rw [genericEntries, Scalar.generic_generic hkey, Option.bind_some, generic_generic hvalue,
        Option.bind_some, genericEntries_generic hrest]
      rfl

end

/-- A document that is a generic value. -/
def IsGeneric (doc : Yaml) : Prop := generic doc = some doc

theorem isGeneric_ofString (text : String) : IsGeneric (ofString text) := rfl

theorem isGeneric_ofBool (value : Bool) : IsGeneric (ofBool value) := rfl

theorem isGeneric_mapping :
    IsGeneric (mapping entries) ↔ (entries.map Prod.fst).Nodup ∧
      ∀ entry ∈ entries, entry.1.generic = some entry.1 ∧ IsGeneric entry.2 := by
  have hentries : genericEntries entries = some entries ↔
      ∀ entry ∈ entries, entry.1.generic = some entry.1 ∧ IsGeneric entry.2 := by
    rw [genericEntries_eq_some_iff, List.forall₂_same]
    rfl
  rw [IsGeneric, generic_mapping_eq_some_iff, ← hentries, and_comm]
  refine ⟨?_, fun h ↦ ⟨entries, h.1, h.2, rfl⟩⟩
  rintro ⟨result, hresult, hnodup, heq⟩
  obtain rfl := mapping.inj heq
  exact ⟨hresult, hnodup⟩

theorem isGeneric_ofFields (hnodup : (fields.map Prod.fst).Nodup)
    (h : ∀ field ∈ fields, IsGeneric field.2) : IsGeneric (ofFields fields) := by
  refine isGeneric_mapping.mpr ⟨?_, fun entry hmem ↦ ?_⟩
  · rw [List.map_map]
    refine List.pairwise_map.mpr ((List.pairwise_map.mp hnodup).imp fun hne heq ↦ hne ?_)
    exact congrArg Scalar.text heq
  · obtain ⟨field, hfield, rfl⟩ := List.mem_map.mp hmem
    exact ⟨rfl, h field hfield⟩

theorem isGeneric_sequence {items : List Yaml} (h : ∀ item ∈ items, IsGeneric item) :
    IsGeneric (sequence items) := by
  have hitems : genericItems items = some items := by
    induction items with
    | nil => rfl
    | cons item rest ih =>
      have hitem : generic item = some item := h item List.mem_cons_self
      rw [genericItems, hitem, ih fun other hmem ↦ h other (List.mem_cons_of_mem _ hmem)]
      rfl
  rw [IsGeneric, generic, hitems, Option.map_some]

/-! ## Entries by their keys -/

section Edits

variable {κ β : Type*} [DecidableEq κ]

/-- Replace the value of a key in its place, or add the key at the end. -/
def setEntry (key : κ) (value : β) : List (κ × β) → List (κ × β)
  | [] => [(key, value)]
  | entry :: rest => if entry.1 = key then (key, value) :: rest else entry :: setEntry key value rest

/-- Remove a key; the last entry takes its place. -/
def swapRemove (key : κ) : List (κ × β) → List (κ × β)
  | [] => []
  | entry :: rest =>
      if entry.1 = key then rest.getLast?.toList ++ rest.dropLast else entry :: swapRemove key rest

variable {key : κ} {value : β} {entries : List (κ × β)} {entry : κ × β}

theorem setEntry_append {front back : List (κ × β)} : setEntry key value (front ++ back) =
    if key ∈ front.map Prod.fst then setEntry key value front ++ back
    else front ++ setEntry key value back := by
  induction front with
  | nil => rfl
  | cons first rest ih =>
    by_cases hkey : first.1 = key
    · simp [setEntry, hkey]
    · by_cases hmem : key ∈ rest.map Prod.fst <;> simp_all [setEntry, Ne.symm hkey]

theorem filter_ne_of_not_mem (h : key ∉ entries.map Prod.fst) :
    entries.filter (fun entry ↦ entry.1 ≠ key) = entries :=
  List.filter_eq_self.mpr fun entry hmem ↦ decide_eq_true fun heq ↦ h (List.mem_map.mpr ⟨entry, hmem, heq⟩)

theorem setEntry_setEntry :
    setEntry key value (setEntry key value entries) = setEntry key value entries := by
  induction entries with
  | nil => simp [setEntry]
  | cons first rest ih => by_cases hkey : first.1 = key <;> simp [setEntry, hkey, ih]

section

variable (hnodup : (entries.map Prod.fst).Nodup)
include hnodup

theorem filter_key_of_mem (hmem : (key, value) ∈ entries) :
    entries.filter (fun entry ↦ entry.1 = key) = [(key, value)] := by
  induction entries with
  | nil => cases hmem
  | cons entry rest ih =>
    obtain ⟨hentry, hrest⟩ := List.nodup_cons.mp hnodup
    rcases List.mem_cons.mp hmem with rfl | hmem
    · have hnil : rest.filter (fun entry ↦ entry.1 = key) = [] :=
        List.filter_eq_nil_iff.mpr fun other hother heq ↦
          hentry (List.mem_map.mpr ⟨other, hother, of_decide_eq_true heq⟩)
      rw [List.filter_cons_of_pos (by simp), hnil]
    · have hne : entry.1 ≠ key := fun heq ↦ hentry (List.mem_map.mpr ⟨_, hmem, heq.symm⟩)
      rw [List.filter_cons_of_neg (by simpa using hne), ih hrest hmem]

theorem lookup_of_mem (hmem : (key, value) ∈ entries) : entries.lookup key = some value := by
  obtain ⟨front, back, rfl⟩ := List.append_of_mem hmem
  rw [List.map_append] at hnodup
  refine List.lookup_eq_some_iff.mpr ⟨front, back, rfl, fun entry hentry ↦ bne_iff_ne.mpr fun heq ↦ ?_⟩
  exact List.disjoint_of_nodup_append hnodup (List.mem_map_of_mem hentry) (heq ▸ List.mem_cons_self)

theorem setEntry_perm :
    (setEntry key value entries).Perm ((key, value) :: entries.filter fun entry ↦ entry.1 ≠ key) := by
  induction entries with
  | nil => exact List.Perm.refl _
  | cons first rest ih =>
    obtain ⟨hfirst, hrest⟩ := List.nodup_cons.mp hnodup
    unfold setEntry
    split_ifs with hkey
    · rw [List.filter_cons_of_neg (by simpa using hkey), filter_ne_of_not_mem (hkey ▸ hfirst)]
    · rw [List.filter_cons_of_pos (by simpa using hkey)]
      exact ((ih hrest).cons first).trans (List.Perm.swap _ _ _)

theorem mem_setEntry :
    entry ∈ setEntry key value entries ↔ entry = (key, value) ∨ entry ∈ entries ∧ entry.1 ≠ key := by
  rw [(setEntry_perm hnodup).mem_iff, List.mem_cons, List.mem_filter, decide_eq_true_eq]

theorem nodup_setEntry : ((setEntry key value entries).map Prod.fst).Nodup := by
  refine ((setEntry_perm hnodup).map Prod.fst).nodup_iff.mpr (List.nodup_cons.mpr ⟨fun hmem ↦ ?_, ?_⟩)
  · obtain ⟨entry, hentry, heq⟩ := List.mem_map.mp hmem
    exact of_decide_eq_true (List.mem_filter.mp hentry).2 heq
  · exact hnodup.sublist (List.filter_sublist.map Prod.fst)

/-- Setting a key changes the last entry to its new one, unless the last entry stays behind it. -/
theorem getLast?_setEntry :
    (setEntry key value entries).getLast? =
      if key ∈ entries.map Prod.fst ∧ ∃ last ∈ entries.getLast?, last.1 ≠ key then entries.getLast?
      else some (key, value) := by
  rcases List.eq_nil_or_concat' entries with rfl | ⟨front, last, rfl⟩
  · simp [setEntry]
  · have hlast : key ∈ front.map Prod.fst → last.1 ≠ key := by
      rintro hmem rfl
      rw [List.map_append] at hnodup
      exact List.disjoint_of_nodup_append hnodup hmem List.mem_cons_self
    by_cases hmem : key ∈ front.map Prod.fst
    · simp [setEntry_append, hmem, hlast hmem]
    · by_cases hkey : last.1 = key
      · simp [setEntry_append, setEntry, hmem, hkey]
      · simp [setEntry_append, setEntry, hmem, hkey, Ne.symm hkey]

theorem swapRemove_perm : (swapRemove key entries).Perm (entries.filter fun entry ↦ entry.1 ≠ key) := by
  induction entries with
  | nil => exact List.Perm.refl _
  | cons first rest ih =>
    obtain ⟨hfirst, hrest⟩ := List.nodup_cons.mp hnodup
    unfold swapRemove
    split_ifs with hkey
    · rw [List.filter_cons_of_neg (by simpa using hkey), filter_ne_of_not_mem (hkey ▸ hfirst)]
      rcases List.eq_nil_or_concat' rest with rfl | ⟨front, last, rfl⟩
      · exact List.Perm.refl _
      · rw [List.getLast?_concat, List.dropLast_concat]
        exact List.perm_append_comm
    · rw [List.filter_cons_of_pos (by simpa using hkey)]
      exact (ih hrest).cons first

theorem mem_swapRemove : entry ∈ swapRemove key entries ↔ entry ∈ entries ∧ entry.1 ≠ key := by
  rw [(swapRemove_perm hnodup).mem_iff, List.mem_filter, decide_eq_true_eq]

theorem nodup_swapRemove : ((swapRemove key entries).map Prod.fst).Nodup := by
  refine ((swapRemove_perm hnodup).map Prod.fst).nodup_iff.mpr ?_
  exact hnodup.sublist (List.filter_sublist.map Prod.fst)

end

end Edits

/-! ## Typed readers -/

section Readers

variable {α : Type*}

def readString : Yaml → Option String
  | scalar found => some found.text
  | _ => none

@[simp]
theorem readString_ofString (text : String) : readString (ofString text) = some text := rfl

def readBool : Yaml → Option Bool
  | scalar ⟨_, .bool value, _⟩ => some value
  | _ => none

@[simp]
theorem readBool_ofBool (value : Bool) : readBool (ofBool value) = some value := rfl

/-- A null is read as nothing. -/
def readOption (read : Yaml → Option α) : Yaml → Option (Option α)
  | scalar ⟨_, .null, _⟩ => some none
  | doc => (read doc).map some

/-- Later entries replace earlier ones whose keys have the same text. -/
def readEntries (read : Yaml → Option α) :
    List (Scalar × Yaml) → Table String α → Option (Table String α)
  | [], table => some table
  | (key, doc) :: rest, table =>
      (read doc).bind fun value ↦ readEntries read rest (table.insert key.text value)

/-- A blank is read as an empty table. -/
def readTable (read : Yaml → Option α) : Yaml → Option (Table String α)
  | mapping entries => readEntries read entries .empty
  | scalar ⟨"", .null, _⟩ => some .empty
  | _ => none

def readList (read : Yaml → Option α) : Yaml → Option (List α)
  | sequence items => items.mapM read
  | _ => none

variable {read : Yaml → Option α} {write : α → Yaml}

/-- What is written item by item is read again. -/
theorem readList_map (h : ∀ value, read (write value) = some value) (values : List α) :
    readList read (sequence (values.map write)) = some values := by
  induction values with
  | nil => rfl
  | cons value rest ih =>
    rw [readList] at ih ⊢
    rw [List.map_cons, List.mapM_cons, h, ih]
    rfl

/-- The fields of a record. -/
def readFields : Yaml → Option (List (Scalar × Yaml))
  | mapping entries => some entries
  | scalar ⟨"", .null, _⟩ => some []
  | _ => none

@[simp]
theorem readFields_ofFields (fields : List (String × Yaml)) :
    readFields (ofFields fields) = some (fields.map fun field ↦ (.ofString field.1, field.2)) := rfl

/-- The field of a name, which must not be repeated. -/
def field (name : String) (fields : List (Scalar × Yaml)) : Option (Option Yaml) :=
  match fields.filter fun entry ↦ entry.1.text = name with
  | [] => some none
  | [entry] => some (some entry.2)
  | _ => none

def required (read : Yaml → Option α) (name : String) (fields : List (Scalar × Yaml)) : Option α :=
  (field name fields).bind fun found ↦ found.bind read

def defaulted (read : Yaml → Option α) (default : α) (name : String)
    (fields : List (Scalar × Yaml)) : Option α :=
  (field name fields).bind fun found ↦
    match found with
    | none => some default
    | some doc => read doc

variable {entries' : List (Scalar × Yaml)} {table result : Table String α} {key : String} {value : α} {β : Type*} {f : α → β} {doc : Yaml}

/-- The entry of a text that counts, as later ones replace earlier ones. -/
def lastOf (text : String) (entries : List (Scalar × Yaml)) : Option (Scalar × Yaml) :=
  (entries.filter fun entry ↦ entry.1.text = text).getLast?

theorem filter_setEntry {key : Scalar} {text : String} :
    (setEntry key doc entries).filter (fun entry ↦ entry.1.text = text) =
      if key.text = text then setEntry key doc (entries.filter fun entry ↦ entry.1.text = text)
      else entries.filter fun entry ↦ entry.1.text = text := by
  induction entries with
  | nil => by_cases htext : key.text = text <;> simp [setEntry, htext]
  | cons first rest ih =>
    by_cases hkey : first.1 = key
    · subst hkey
      by_cases htext : first.1.text = text <;> simp [setEntry, htext]
    · by_cases hfirst : first.1.text = text <;> by_cases htext : key.text = text <;>
        simp_all [setEntry]

/-- A field whose name only a string has is an entry of a mapping without repeated keys. -/
theorem field_of_mem {name : String} (hword : Scalar.IsWord name) (hnodup : (entries.map Prod.fst).Nodup)
    (hmem : (.ofString name, doc) ∈ entries) : field name entries = some (some doc) := by
  have hfilter : entries.filter (fun entry ↦ entry.1.text = name) =
      entries.filter fun entry ↦ entry.1 = .ofString name := by
    refine List.filter_congr fun entry _ ↦ decide_eq_decide.mpr ⟨hword.eq_ofString, fun h ↦ ?_⟩
    rw [h, Scalar.text_ofString]
  rw [field, hfilter, filter_key_of_mem hnodup hmem]

/-- Such a field is kept by a reading as a generic value. -/
theorem field_generic {name : String} (hword : Scalar.IsWord name)
    (h : genericEntries entries = some entries') (hfield : field name entries = some (some doc)) :
    ∃ value, generic doc = some value ∧ (.ofString name, value) ∈ entries' := by
  obtain ⟨key, hmem, rfl⟩ : ∃ key, (key, doc) ∈ entries ∧ key = .ofString name := by
    unfold field at hfield
    split at hfield
    · cases hfield
    · rename_i entry hfilter
      obtain rfl := Option.some.inj (Option.some.inj hfield)
      have hmem : entry ∈ entries.filter fun entry ↦ entry.1.text = name := hfilter ▸ List.mem_singleton_self _
      obtain ⟨hentry, htext⟩ := List.mem_filter.mp hmem
      exact ⟨entry.1, hentry, hword.eq_ofString (of_decide_eq_true htext)⟩
    · cases hfield
  have hforall := genericEntries_eq_some_iff.mp h
  clear h hfield
  induction hforall with
  | nil => cases hmem
  | cons hhead _ ih =>
    rcases List.mem_cons.mp hmem with rfl | hrest
    · exact ⟨_, hhead.2, Option.some.inj hhead.1 ▸ List.mem_cons_self⟩
    · obtain ⟨value, hvalue, hmem'⟩ := ih hrest
      exact ⟨value, hvalue, List.mem_cons_of_mem _ hmem'⟩

/-- A table is read exactly if every value of an entry is. -/
theorem readEntries_isSome_iff :
    (readEntries read entries table).isSome ↔ ∀ entry ∈ entries, (read entry.2).isSome := by
  induction entries generalizing table with
  | nil => simp [readEntries]
  | cons entry rest ih =>
    obtain ⟨key, doc⟩ := entry
    rw [readEntries, List.forall_mem_cons]
    cases read doc with
    | none => simp
    | some value => simpa using ih

theorem get_readEntries (h : readEntries read entries table = some result) :
    result.get key = (lastOf key entries).elim (table.get key) fun entry ↦ read entry.2 := by
  induction entries generalizing table with
  | nil =>
    cases h
    rfl
  | cons entry rest ih =>
    obtain ⟨other, doc⟩ := entry
    obtain ⟨found, hfound, hrest⟩ := Option.bind_eq_some_iff.mp h
    rw [ih hrest, Table.get_insert]
    by_cases hkey : other.text = key
    · have hlast : lastOf key ((other, doc) :: rest) = some ((lastOf key rest).getD (other, doc)) := by
        rw [lastOf, List.filter_cons_of_pos (by simpa using hkey), List.getLast?_cons]
        rfl
      rw [hlast, if_pos hkey.symm]
      cases lastOf key rest with
      | none => exact hfound.symm
      | some last => rfl
    · have hlast : lastOf key ((other, doc) :: rest) = lastOf key rest := by
        rw [lastOf, List.filter_cons_of_neg (by simpa using hkey)]
        rfl
      rw [hlast, if_neg (Ne.symm hkey)]

/-- A table holds what is read of the entries that count. -/
theorem get_readTable (h : readTable read (mapping entries) = some result) (key : String) :
    result.get key = (lastOf key entries).bind fun entry ↦ read entry.2 := by
  rw [get_readEntries h]
  cases lastOf key entries <;> rfl

/-- A table as it is written by a typed writer. -/
def ofTable (write : α → Yaml) (table : Table String α) : Yaml :=
  ofFields (table.entries.map fun entry ↦ (entry.1, write entry.2))

theorem isGeneric_ofTable (h : ∀ value, (write value).IsGeneric) (table : Table String α) :
    (ofTable write table).IsGeneric := by
  refine isGeneric_ofFields ?_ fun field hmem ↦ ?_
  · rw [List.map_map]
    exact (List.pairwise_map.mpr table.sorted).imp fun h ↦ ne_of_lt h
  · obtain ⟨_, _, rfl⟩ := List.mem_map.mp hmem
    exact h _

theorem lastOf_ofTable (table : Table String α) (key : String) :
    lastOf key (table.entries.map fun entry ↦ (.ofString entry.1, write entry.2)) =
      (table.get key).map fun value ↦ (.ofString key, write value) := by
  have hfilter : (table.entries.map fun entry ↦ (Scalar.ofString entry.1, write entry.2)).filter
      (fun entry ↦ entry.1.text = key) =
        (table.entries.filter fun entry ↦ entry.1 = key).map fun entry ↦ (.ofString entry.1, write entry.2) :=
    List.filter_map
  rw [lastOf, hfilter]
  cases hget : table.get key with
  | some value =>
    have hnodup : (table.entries.map Prod.fst).Nodup :=
      (List.pairwise_map.mpr table.sorted).imp fun h ↦ ne_of_lt h
    rw [filter_key_of_mem hnodup (table.get_eq_some_iff.mp hget)]
    rfl
  | none =>
    have hnil : table.entries.filter (fun entry ↦ entry.1 = key) = [] := by
      refine List.filter_eq_nil_iff.mpr fun entry hmem heq ↦ ?_
      have hsome := table.get_eq_some_iff.mpr (of_decide_eq_true heq ▸ hmem : (key, entry.2) ∈ table.entries)
      rw [hget] at hsome
      cases hsome
    rw [hnil]
    rfl

/-- What is written of a table is read value by value. -/
theorem readTable_ofTable {read : Yaml → Option β} (h : ∀ value, read (write value) = some (f value))
    (table : Table String α) : readTable read (ofTable write table) = some (table.mapValues f) := by
  have hentries : ofTable write table =
      mapping (table.entries.map fun entry ↦ (.ofString entry.1, write entry.2)) := by
    rw [ofTable, ofFields, List.map_map]
    rfl
  have hsome : (readTable read (ofTable write table)).isSome := by
    rw [hentries, readTable, readEntries_isSome_iff]
    intro entry hmem
    obtain ⟨_, _, rfl⟩ := List.mem_map.mp hmem
    exact Option.isSome_iff_exists.mpr ⟨_, h _⟩
  obtain ⟨result, hresult⟩ := Option.isSome_iff_exists.mp hsome
  rw [hresult, Option.some_inj]
  refine Table.ext_get fun key ↦ ?_
  rw [get_readTable (hentries ▸ hresult), lastOf_ofTable, Table.get_mapValues]
  cases table.get key with
  | none => rfl
  | some value => exact h value

/-- A reader that reads less of each value reads a table of it. -/
theorem readTable_map {read' : Yaml → Option β}
    (h : ∀ {doc value}, read doc = some value → read' doc = some (f value))
    (htable : readTable read doc = some table) : readTable read' doc = some (table.mapValues f) := by
  have hentries : ∀ {entries : List (Scalar × Yaml)} {before : Table String α},
      readEntries read entries before = some table →
        readEntries read' entries (before.mapValues f) = some (table.mapValues f) := by
    intro entries before hread
    induction entries generalizing before with
    | nil =>
      cases hread
      rfl
    | cons entry rest ih =>
      obtain ⟨key, doc⟩ := entry
      obtain ⟨value, hvalue, hrest⟩ := Option.bind_eq_some_iff.mp hread
      rw [readEntries, h hvalue, Option.bind_some, ← Table.mapValues_insert]
      exact ih hrest
  unfold readTable at htable ⊢
  split at htable
  · exact hentries htable
  · cases htable
    rfl
  · cases htable

end Readers

end Yaml

/-- A reader of texts and a printer of documents that loses no generic value. -/
structure YamlFormat (Text : Type*) where
  parse : Text → Option Yaml
  print : Yaml → Text
  parse_print : ∀ {doc : Yaml}, doc.IsGeneric → parse (print doc) = some doc

end Seidrum.Foundation
