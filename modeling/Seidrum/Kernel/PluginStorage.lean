import Mathlib.Data.List.AList
import Mathlib.Data.List.Induction
import Seidrum.Foundation.Transition
import Seidrum.Kernel.DatabaseClient

/-!
# Plugin storage

Each plugin keeps values under keys of its namespaces.  All of them are documents of one collection;
the document key joins plugin, namespace and key by colons, and the keys of a namespace are listed by
a prefix of the document key.  The collection is an atomic map of document keys; an upsert merges the
fields of a value into those of the one it meets.
-/

namespace Seidrum.Kernel

open EventBus (Value)
open Foundation

/-- What a value is stored under. -/
structure StorageTriple where
  pluginId : String
  namespace_ : String
  key : String
  deriving DecidableEq, Repr

structure StorageDocument where
  triple : StorageTriple
  value : Value
  updatedAt : String

def StorageDocument.toValue (doc : StorageDocument) : Value :=
  .object [
    ("plugin_id", .string doc.triple.pluginId),
    ("namespace", .string doc.triple.namespace_),
    ("key", .string doc.triple.key),
    ("value", doc.value),
    ("updated_at", .string doc.updatedAt)]

/-- The documents by their keys; the order in which they are listed is not specified. -/
abbrev StorageCollection := AList fun _ : String ↦ StorageDocument

inductive StorageRequest
  | get (triple : StorageTriple)
  | set (triple : StorageTriple) (value : Value) (updatedAt : String)
  | delete (triple : StorageTriple)
  | list (pluginId namespace_ : String)

inductive StorageResponse
  | get (found : Bool) (value : Option Value)
  | set (success : Bool) (error : Option String)
  | delete (success existed : Bool)
  | list (keys : List String)

/-- What the service finds in the database: how paths are read, the documents of other collections, and
what an update makes of a value that is there. -/
structure StorageDatabase where
  reading : PathReading
  others : String → Option Value
  mergeObjects : Value → Value → Value

/-- The compound document key. -/
def docKey (triple : StorageTriple) : String :=
  triple.pluginId ++ ":" ++ triple.namespace_ ++ ":" ++ triple.key

def listPrefix (pluginId namespace_ : String) : String := pluginId ++ ":" ++ namespace_

def handleGet : Except String (Option Value) → StorageResponse
  | .ok (some doc) => .get (doc.get "value").isSome (doc.get "value")
  | .ok none => .get false none
  | .error _ => .get false none

def handleSet : Except String Unit → StorageResponse
  | .ok () => .set true none
  | .error error => .set false (some error)

def handleDelete : Except String Bool → StorageResponse
  | .ok existed => .delete true existed
  | .error _ => .delete false false

def handleList : Except String (List StorageDocument) → StorageResponse
  | .ok docs => .list (docs.map fun doc ↦ doc.triple.key)
  | .error _ => .list []

/-- The documents whose key begins with a prefix. -/
def StorageCollection.startingWith (keyPrefix : String) (collection : StorageCollection) :
    List StorageDocument :=
  (collection.entries.filter fun entry ↦ keyPrefix.toList <+: entry.1.toList).map fun entry ↦ entry.2

def storageId (key : String) : String := "plugin_storage/" ++ key

namespace StorageDatabase

variable (database : StorageDatabase)

/-- The document that is read for a key. -/
def getDocument (collection : StorageCollection) (key : String) : Option Value := do
  let id ← database.reading (storageId key)
  match collection.entries.find? fun entry ↦ storageId entry.1 = id with
  | some entry => some entry.2.toValue
  | none => database.others id

/-- The value after an upsert. -/
def upserted (old : Option StorageDocument) (value : Value) : Value :=
  (old.map fun doc ↦ database.mergeObjects doc.value value).getD value

/-- One request after the other, on a collection whose operations succeed. -/
def serveStorage : Machine StorageCollection StorageRequest StorageResponse
  | collection, .get triple =>
      (handleGet (.ok (database.getDocument collection (docKey triple))), collection)
  | collection, .set triple value updatedAt =>
      let merged := database.upserted (collection.lookup (docKey triple)) value
      (handleSet (.ok ()), collection.insert (docKey triple) ⟨triple, merged, updatedAt⟩)
  | collection, .delete triple =>
      (handleDelete (.ok (collection.lookup (docKey triple)).isSome),
        collection.erase (docKey triple))
  | collection, .list pluginId namespace_ =>
      (handleList (.ok (batch (collection.startingWith (listPrefix pluginId namespace_)))), collection)

end StorageDatabase

/-! ## A map on triples -/

/-- What is stored under each triple. -/
abbrev TripleMap := StorageTriple → Option Value

/-- What a request does to a map on triples. -/
def TripleMap.record (map : TripleMap) : StorageRequest → TripleMap
  | .set triple value _ => Function.update map triple (some value)
  | .delete triple => Function.update map triple none
  | _ => map

/-- The value last set and not since deleted. -/
def TripleMap.contents (requests : List StorageRequest) : TripleMap :=
  requests.foldl TripleMap.record fun _ ↦ none

/-- The response a map on triples gives. -/
def TripleMap.IsAnswer (map : TripleMap) : StorageRequest → StorageResponse → Prop
  | .get triple, response => response = .get (map triple).isSome (map triple)
  | .set .., response => response = .set true none
  | .delete triple, response => response = .delete true (map triple).isSome
  | .list pluginId namespace_, response => ∃ keys, response = .list keys ∧ keys.Nodup ∧
      ∀ key, key ∈ keys ↔ (map ⟨pluginId, namespace_, key⟩).isSome

/-- The request meets no document of another triple: a get reads what is stored under its document key, a
set leaves the value it was given, and a list gets all of what begins with its prefix. -/
def StorageDatabase.KeepsApart (database : StorageDatabase) (collection : StorageCollection) :
    StorageRequest → Prop
  | .get triple =>
      database.getDocument collection (docKey triple) =
          (collection.lookup (docKey triple)).map StorageDocument.toValue ∧
        ∀ doc ∈ collection.lookup (docKey triple), doc.triple = triple
  | .set triple value _ => ∀ doc ∈ collection.lookup (docKey triple),
      doc.triple = triple ∧ database.mergeObjects doc.value value = value
  | .delete triple => ∀ doc ∈ collection.lookup (docKey triple), doc.triple = triple
  | .list pluginId namespace_ =>
      (collection.startingWith (listPrefix pluginId namespace_)).length ≤ firstBatch ∧
        ∀ doc ∈ collection.startingWith (listPrefix pluginId namespace_),
          doc.triple.pluginId = pluginId ∧ doc.triple.namespace_ = namespace_

/-- Each triple's value is in the document of its own key. -/
structure StorageCollection.Holds (collection : StorageCollection) (map : TripleMap) : Prop where
  keyed : ∀ key doc, doc ∈ collection.lookup key → key = docKey doc.triple
  values : ∀ triple, map triple =
    ((collection.lookup (docKey triple)).filter fun doc ↦ doc.triple = triple).map (·.value)

namespace StorageCollection

variable {database : StorageDatabase} {collection : StorageCollection} {map : TripleMap}
  {request : StorageRequest}

theorem holds_empty : Holds ∅ fun _ ↦ none where
  keyed := by simp
  values := by simp

theorem mem_startingWith {keyPrefix : String} {doc : StorageDocument} :
    doc ∈ collection.startingWith keyPrefix ↔
      ∃ key, doc ∈ collection.lookup key ∧ keyPrefix.toList <+: key.toList := by
  simp only [startingWith, List.mem_map, List.mem_filter, decide_eq_true_eq]
  constructor
  · rintro ⟨⟨key, doc⟩, ⟨hmem, hprefix⟩, rfl⟩
    exact ⟨key, AList.mem_lookup_iff.mpr hmem, hprefix⟩
  · rintro ⟨key, hlookup, hprefix⟩
    exact ⟨⟨key, doc⟩, ⟨AList.mem_lookup_iff.mp hlookup, hprefix⟩, rfl⟩

theorem isSome_map_iff (h : collection.Holds map) {triple : StorageTriple} :
    (map triple).isSome ↔ ∃ doc ∈ collection.lookup (docKey triple), doc.triple = triple := by
  rw [h.values]
  cases collection.lookup (docKey triple) with
  | none => simp
  | some doc => by_cases hdoc : doc.triple = triple <;> simp [Option.filter, hdoc]

theorem isAnswer_get (h : collection.Holds map) {triple : StorageTriple}
    (hapart : database.KeepsApart collection (.get triple)) :
    map.IsAnswer (.get triple) (database.serveStorage collection (.get triple)).1 := by
  obtain ⟨hread, htriple⟩ := hapart
  simp only [TripleMap.IsAnswer, StorageDatabase.serveStorage, hread, h.values]
  cases hdoc : collection.lookup (docKey triple) with
  | none => rfl
  | some doc =>
    have hown : doc.triple = triple := htriple doc hdoc
    simp [handleGet, StorageDocument.toValue, Value.get, Option.filter, hown]

theorem isAnswer_delete (h : collection.Holds map) {triple : StorageTriple}
    (hapart : database.KeepsApart collection (.delete triple)) :
    map.IsAnswer (.delete triple) (database.serveStorage collection (.delete triple)).1 := by
  simp only [TripleMap.IsAnswer, StorageDatabase.serveStorage, h.values]
  cases hdoc : collection.lookup (docKey triple) with
  | none => rfl
  | some doc =>
    have hown : doc.triple = triple := hapart doc hdoc
    simp [handleDelete, Option.filter, hown]

theorem listPrefix_docKey (triple : StorageTriple) :
    (listPrefix triple.pluginId triple.namespace_).toList <+: (docKey triple).toList := by
  refine ⟨(":" ++ triple.key).toList, ?_⟩
  simp [docKey, listPrefix, String.toList_append]

section

variable (h : collection.Holds map)
include h

/-- The keys listed for a namespace, when nothing else begins with its prefix. -/
theorem nodup_keys {pluginId namespace_ : String}
    (hapart : ∀ doc ∈ collection.startingWith (listPrefix pluginId namespace_),
      doc.triple.pluginId = pluginId ∧ doc.triple.namespace_ = namespace_) :
    ((collection.startingWith (listPrefix pluginId namespace_)).map (·.triple.key)).Nodup := by
  rw [startingWith, List.map_map]
  apply List.Nodup.of_map fun key ↦ docKey ⟨pluginId, namespace_, key⟩
  rw [List.map_map]
  have hkeys : (collection.entries.filter fun entry ↦
      (listPrefix pluginId namespace_).toList <+: entry.1.toList).map Sigma.fst =
      (collection.entries.filter fun entry ↦
        (listPrefix pluginId namespace_).toList <+: entry.1.toList).map
        ((fun key ↦ docKey ⟨pluginId, namespace_, key⟩) ∘
          (fun doc : StorageDocument ↦ doc.triple.key) ∘ fun entry ↦ entry.2) := by
    apply List.map_congr_left
    intro entry hentry
    have hdoc := hapart entry.2 (List.mem_map_of_mem hentry)
    have hkey := h.keyed entry.1 entry.2
      (AList.mem_lookup_iff.mpr (List.mem_of_mem_filter hentry))
    rw [hkey, Function.comp_apply, Function.comp_apply, ← hdoc.1, ← hdoc.2]
  rw [← hkeys]
  exact collection.keys_nodup.sublist (List.filter_sublist.map _)

theorem isAnswer_list {pluginId namespace_ : String}
    (hapart : database.KeepsApart collection (.list pluginId namespace_)) :
    map.IsAnswer (.list pluginId namespace_)
      (database.serveStorage collection (.list pluginId namespace_)).1 := by
  obtain ⟨hbatch, hapart⟩ := hapart
  simp only [StorageDatabase.serveStorage, batch_eq_self hbatch]
  refine ⟨_, rfl, nodup_keys h hapart, fun key ↦ ?_⟩
  rw [List.mem_map]
  constructor
  · rintro ⟨doc, hdoc, rfl⟩
    obtain ⟨found, hlookup, _⟩ := mem_startingWith.mp hdoc
    obtain ⟨hplugin, hnamespace⟩ := hapart doc hdoc
    refine (isSome_map_iff h).mpr ⟨doc, ?_, ?_⟩
    · rw [← hplugin, ← hnamespace, ← h.keyed found doc hlookup]
      exact hlookup
    · rw [← hplugin, ← hnamespace]
  · intro hsome
    obtain ⟨doc, hlookup, htriple⟩ := (isSome_map_iff h).mp hsome
    have hprefix := listPrefix_docKey ⟨pluginId, namespace_, key⟩
    exact ⟨doc, mem_startingWith.mpr ⟨_, hlookup, hprefix⟩, by rw [htriple]⟩

theorem isAnswer_of_keepsApart (hapart : database.KeepsApart collection request) :
    map.IsAnswer request (database.serveStorage collection request).1 := by
  cases request with
  | get triple => exact isAnswer_get h hapart
  | set triple value updatedAt => exact rfl
  | delete triple => exact isAnswer_delete h hapart
  | list pluginId namespace_ => exact isAnswer_list h hapart

theorem Holds.none_of_sharedKey {triple other : StorageTriple}
    (hapart : ∀ doc ∈ collection.lookup (docKey triple), doc.triple = triple)
    (hkey : docKey other = docKey triple) (hother : other ≠ triple) : map other = none := by
  rw [h.values, hkey]
  cases hlookup : collection.lookup (docKey triple) with
  | none => rfl
  | some doc =>
    have hdoc := hapart doc hlookup
    simp [Option.filter, hdoc, Ne.symm hother]

theorem Holds.step (hapart : database.KeepsApart collection request) :
    (database.serveStorage collection request).2.Holds (map.record request) := by
  cases request with
  | get triple | list pluginId namespace_ => exact h
  | set triple value updatedAt =>
    have hkept : database.upserted (collection.lookup (docKey triple)) value = value := by
      cases hold : collection.lookup (docKey triple) with
      | none => rfl
      | some old => exact (hapart old hold).2
    constructor
    · intro key doc hdoc
      simp only [StorageDatabase.serveStorage] at hdoc
      by_cases hkey : key = docKey triple
      · subst hkey
        rw [AList.lookup_insert] at hdoc
        cases hdoc
        rfl
      · rw [AList.lookup_insert_ne hkey] at hdoc
        exact h.keyed key doc hdoc
    · intro other
      simp only [StorageDatabase.serveStorage, TripleMap.record, hkept]
      by_cases hother : other = triple
      · subst hother
        simp [Option.filter]
      · rw [Function.update_of_ne hother]
        by_cases hkey : docKey other = docKey triple
        · -- the other triple had no document of its own under the shared key
          have hnone := h.none_of_sharedKey (fun doc hdoc ↦ (hapart doc hdoc).1) hkey hother
          rw [hnone, hkey, AList.lookup_insert]
          simp [Option.filter, Ne.symm hother]
        · rw [AList.lookup_insert_ne hkey]
          exact h.values other
  | delete triple =>
    constructor
    · intro key doc hdoc
      simp only [StorageDatabase.serveStorage] at hdoc
      by_cases hkey : key = docKey triple
      · subst hkey
        rw [AList.lookup_erase] at hdoc
        cases hdoc
      · rw [AList.lookup_erase_ne hkey] at hdoc
        exact h.keyed key doc hdoc
    · intro other
      simp only [StorageDatabase.serveStorage, TripleMap.record]
      by_cases hother : other = triple
      · subst hother
        simp
      · rw [Function.update_of_ne hother]
        by_cases hkey : docKey other = docKey triple
        · have hnone := h.none_of_sharedKey hapart hkey hother
          rw [hnone, hkey, AList.lookup_erase]
          rfl
        · rw [AList.lookup_erase_ne hkey]
          exact h.values other

end

variable (database) in
def after (requests : List StorageRequest) : StorageCollection := database.serveStorage.run ∅ requests

theorem holds_after {requests : List StorageRequest}
    (hapart : Throughout (fun before request ↦ database.KeepsApart (after database before) request)
      requests) :
    (after database requests).Holds (TripleMap.contents requests) := by
  induction requests using List.reverseRecOn with
  | nil => exact holds_empty
  | append_singleton before request ih =>
    obtain ⟨hbefore, hrequest⟩ := throughout_concat.mp hapart
    have hstep := (ih hbefore).step hrequest
    rw [after, Machine.run_concat, TripleMap.contents, List.foldl_append]
    exact hstep

/-- A database without other collections, in which an update replaces what is no object. -/
def plainStorage : StorageDatabase where
  reading := untilQuery
  others _ := none
  mergeObjects
    | .object old, .object new =>
        .object (new ++ old.filter fun field ↦ ((Value.object new).get field.1).isNone)
    | _, new => new

end StorageCollection

end Seidrum.Kernel
