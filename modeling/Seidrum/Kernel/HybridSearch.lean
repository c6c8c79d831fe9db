import Mathlib.Data.List.Count
import Seidrum.Kernel.BrainQueries

/-!
# The results of a hybrid search

A hybrid search lists every match of its vector phase, and after each match what the graph links to it,
unless the key is one it has seen.  Keys name documents of a collection only, and a match may be met as a
neighbor first.  So documents are listed once exactly if the matches are distinct and the first document
met under the key of a neighbor is that neighbor, except where the neighbor is itself a match.
-/

namespace Seidrum.Kernel

open EventBus (Value)
open Foundation

variable {doc doc' : Document}

theorem Document.id_eq_of_value (h : doc.value = doc'.value) : doc.id = doc'.id := by
  simp only [Document.value, Value.object.injEq, List.cons.injEq, Prod.mk.injEq,
    Value.string.injEq] at h
  exact h.1.2

/-- A document that a hybrid search comes to, as a match or as a neighbor of one. -/
structure Encounter where
  doc : Document
  item : Value
  isMatch : Bool

namespace Encounter

/-- Every match is listed, and every neighbor under a key not met before. -/
def listed : List String → List Encounter → List Value
  | _, [] => []
  | met, encounter :: rest =>
      if encounter.isMatch ∨ encounter.doc.key ∉ met then
        encounter.item :: listed (encounter.doc.key :: met) rest
      else listed (encounter.doc.key :: met) rest

variable {met met' : List String} {encounters : List Encounter}

theorem listed_congr (h : ∀ key, key ∈ met ↔ key ∈ met') :
    listed met encounters = listed met' encounters := by
  induction encounters generalizing met met' with
  | nil => rfl
  | cons encounter rest ih =>
    have hrest : listed (encounter.doc.key :: met) rest = listed (encounter.doc.key :: met') rest :=
      ih fun key ↦ by simp only [List.mem_cons, h]
    simp only [listed, h, hrest]

theorem mem_of_mem_listed {item : Value} (h : item ∈ listed met encounters) :
    ∃ encounter ∈ encounters, encounter.item = item := by
  induction encounters generalizing met with
  | nil => exact absurd h List.not_mem_nil
  | cons encounter rest ih =>
    have hrest (h : item ∈ listed (encounter.doc.key :: met) rest) :
        ∃ other ∈ encounter :: rest, other.item = item := by
      obtain ⟨other, hother, heq⟩ := ih h
      exact ⟨other, List.mem_cons_of_mem _ hother, heq⟩
    unfold listed at h
    split at h
    · rcases List.mem_cons.mp h with rfl | h
      · exact ⟨encounter, List.mem_cons_self, rfl⟩
      · exact hrest h
    · exact hrest h

/-- One more document come to. -/
def addTo (merged : Merged) (encounter : Encounter) : Merged :=
  if encounter.isMatch ∨ encounter.doc.key ∉ merged.seenKeys then
    merged.push encounter.doc.key encounter.item
  else merged

theorem results_foldl_addTo {merged : Merged} (h : ∀ key, key ∈ merged.seenKeys ↔ key ∈ met) :
    (encounters.foldl addTo merged).results = merged.results ++ listed met encounters := by
  induction encounters generalizing merged met with
  | nil => simp [listed]
  | cons encounter rest ih =>
    rw [List.foldl_cons, listed, addTo]
    by_cases hlisted : encounter.isMatch ∨ encounter.doc.key ∉ merged.seenKeys
    · have hlisted' : encounter.isMatch ∨ encounter.doc.key ∉ met := by rwa [← h]
      rw [if_pos hlisted, if_pos hlisted', @ih (encounter.doc.key :: met) _]
      · simp [Merged.push]
      · simp [Merged.push, h]
    · have hlisted' : ¬ (encounter.isMatch ∨ encounter.doc.key ∉ met) := by rwa [← h]
      rw [if_neg hlisted, if_neg hlisted', @ih (encounter.doc.key :: met) _]
      intro key
      rw [h, List.mem_cons, iff_or_self]
      rintro rfl
      exact not_not.mp (not_or.mp hlisted').2

end Encounter

/-- The item says which document it is about, and how it was come to. -/
structure Encounter.Shows (encounter : Encounter) : Prop where
  doc : encounter.item.get (if encounter.isMatch then "doc" else "vertex") = some encounter.doc.value
  source : encounter.item.get "source" =
    some (.string (if encounter.isMatch then "vector_match" else "graph_neighbor"))

theorem Encounter.Shows.eq_of_item {e e' : Encounter} (h : e.Shows) (h' : e'.Shows)
    (hitem : e.item = e'.item) : e.isMatch = e'.isMatch ∧ e.doc.id = e'.doc.id := by
  have hsource := h.source
  rw [hitem, h'.source] at hsource
  have hmatch : e.isMatch = e'.isMatch := by
    cases he : e.isMatch <;> cases he' : e'.isMatch <;> simp_all
  have hdoc := h.doc
  rw [hitem, hmatch, h'.doc] at hdoc
  exact ⟨hmatch, (Document.id_eq_of_value (Option.some.inj hdoc)).symm⟩

/-- A result of a traversal; an edge may lead to no document. -/
structure Neighbor where
  vertex : Option Document
  edge : EdgeDocument
  depth : ℕ

def Neighbor.item (neighbor : Neighbor) : Value :=
  .object [("depth", .ofNat neighbor.depth), ("edge", neighbor.edge.value),
    ("source", .string "graph_neighbor"),
    ("vertex", (neighbor.vertex.map Document.value).getD .null)]

/-- A match of the vector phase and the result of the traversal from it, unless that failed. -/
structure TraversedMatch where
  found : VectorMatch
  traversal : Option (List Neighbor)

namespace TraversedMatch

def neighbors (one : TraversedMatch) : List Neighbor := one.traversal.getD []

/-- A match is listed, then its neighbors are. -/
def addTo (merged : Merged) (one : TraversedMatch) : Merged :=
  merged.addMatch (fun _ ↦ one.neighbors.map Neighbor.item) one.found.item

/-- The neighbors that have a document. -/
def neighborEncounters (one : TraversedMatch) : List Encounter :=
  one.neighbors.filterMap fun neighbor ↦ neighbor.vertex.map fun doc ↦ ⟨doc, neighbor.item, false⟩

/-- Everything come to, in the order of the search. -/
def encounters (phase : List TraversedMatch) : List Encounter :=
  phase.flatMap fun one ↦ ⟨one.found.doc, one.found.item, true⟩ :: one.neighborEncounters

def matchDocs (phase : List TraversedMatch) : List Document := phase.map (·.found.doc)

def neighborDocs (phase : List TraversedMatch) : List Document :=
  phase.flatMap fun one ↦ one.neighbors.filterMap (·.vertex)

end TraversedMatch

/-- What a hybrid search returns for the results of its queries. -/
def mergeResults (phase : List TraversedMatch) : List Value :=
  (phase.foldl TraversedMatch.addTo ⟨[], []⟩).results

namespace TraversedMatch

theorem foldl_addNeighbor (neighbors : List Neighbor) (merged : Merged) :
    (neighbors.map Neighbor.item).foldl Merged.addNeighbor merged =
      (neighbors.filterMap fun neighbor ↦ neighbor.vertex.map fun doc ↦
        (⟨doc, neighbor.item, false⟩ : Encounter)).foldl Encounter.addTo merged := by
  induction neighbors generalizing merged with
  | nil => rfl
  | cons neighbor rest ih =>
    rw [List.map_cons, List.foldl_cons, ih, List.filterMap_cons]
    cases hvertex : neighbor.vertex with
    | none => simp [Merged.addNeighbor, Merged.keyOf, Neighbor.item, hvertex, Value.get]
    | some doc =>
      have hkey : Merged.keyOf neighbor.item "vertex" = some doc.key := by
        simp [Merged.keyOf, Neighbor.item, hvertex, Value.get, Document.value, Value.asStr]
      have hadd : merged.addNeighbor neighbor.item =
          Encounter.addTo merged ⟨doc, neighbor.item, false⟩ := by
        rw [Merged.addNeighbor, hkey, Encounter.addTo]
        by_cases hseen : doc.key ∈ merged.seenKeys <;> simp [hseen]
      rw [hadd]
      rfl

theorem keyOf_item (found : VectorMatch) : Merged.keyOf found.item "doc" = some found.doc.key := by
  simp [Merged.keyOf, VectorMatch.item, Value.get, Document.value, Value.asStr]

theorem foldl_addTo (phase : List TraversedMatch) (merged : Merged) :
    phase.foldl addTo merged = (encounters phase).foldl Encounter.addTo merged := by
  induction phase generalizing merged with
  | nil => rfl
  | cons one rest ih =>
    rw [List.foldl_cons, ih, addTo, Merged.addMatch, keyOf_item]
    simp only [encounters, List.flatMap_cons, List.foldl_append, List.foldl_cons, foldl_addNeighbor]
    simp [Encounter.addTo, neighborEncounters]

theorem mergeResults_eq (phase : List TraversedMatch) :
    mergeResults phase = Encounter.listed [] (encounters phase) := by
  rw [mergeResults, foldl_addTo]
  exact Encounter.results_foldl_addTo (by simp)

end TraversedMatch

namespace Brain

/-- A match of a search of the database, with what the graph links to it. -/
def traversed (db : Brain) (visits : String → List Visit) (one : VectorMatch) : TraversedMatch where
  found := one
  traversal := some ((visits one.doc.key).map fun visit ↦
    ⟨db.vertex visit.vertex, visit.edge, visit.depth⟩)

theorem foldl_addMatch (db : Brain) (visits : String → List Visit) (found : List VectorMatch) :
    ((found.map VectorMatch.item).foldl
      (Merged.addMatch fun key ↦ (visits key).map db.neighborItem) ⟨[], []⟩).results =
        mergeResults (found.map (db.traversed visits)) := by
  have hstep (merged : Merged) (one : VectorMatch) :
      merged.addMatch (fun key ↦ (visits key).map db.neighborItem) one.item =
        (db.traversed visits one).addTo merged := by
    rw [TraversedMatch.addTo, Merged.addMatch, Merged.addMatch]
    simp only [traversed, TraversedMatch.keyOf_item, TraversedMatch.neighbors, Option.getD_some,
      List.map_map]
    rfl
  rw [mergeResults, List.foldl_map, List.foldl_map]
  simp only [hstep]

end Brain

/-! ## Documents listed once -/

/-- The full id of a document, with its key. -/
def Document.identity (doc : Document) : String × String := (doc.id, doc.key)

/-- The document a result is about. -/
def itemIdentity (item : Value) : Option (String × String) := do
  let doc ← item.get "doc" <|> item.get "vertex"
  let id ← (← doc.get "_id").asStr
  let key ← (← doc.get "_key").asStr
  return (id, key)

def timesListed (results : List Value) (doc : Document) : ℕ :=
  (results.map itemIdentity).count (some doc.identity)

/-- Every match is listed once and marked, every neighbor that is no match is listed once, and nothing
else is listed. -/
structure MergesOnce (matchDocs neighborDocs : List Document) (results : List Value) : Prop where
  matchOnce : ∀ doc ∈ matchDocs, timesListed results doc = 1
  marked : ∀ doc ∈ matchDocs, ∀ item ∈ results, itemIdentity item = some doc.identity →
    item.get "source" = some (.string "vector_match")
  neighborOnce : ∀ doc ∈ neighborDocs, doc.identity ∉ matchDocs.map Document.identity →
    timesListed results doc = 1
  nothingElse : ∀ item ∈ results, ∃ doc ∈ matchDocs ++ neighborDocs,
    itemIdentity item = some doc.identity

namespace Encounter

/-- The first document met under the key is this one, as a neighbor. -/
def MetFirst (encounters : List Encounter) (doc : Document) : Prop :=
  ∃ first ∈ encounters.find? (·.doc.key = doc.key),
    first.isMatch = false ∧ first.doc.identity = doc.identity

def kept : List String → List Encounter → List Encounter
  | _, [] => []
  | met, encounter :: rest =>
      if encounter.isMatch ∨ encounter.doc.key ∉ met then
        encounter :: kept (encounter.doc.key :: met) rest
      else kept (encounter.doc.key :: met) rest

variable {met : List String} {encounters : List Encounter}

theorem listed_eq (met : List String) (encounters : List Encounter) :
    listed met encounters = (kept met encounters).map (·.item) := by
  induction encounters generalizing met with
  | nil => rfl
  | cons encounter rest ih =>
    rw [listed, kept, ih]
    split <;> rfl

theorem kept_subset : kept met encounters ⊆ encounters := by
  induction encounters generalizing met with
  | nil => exact List.Subset.refl _
  | cons encounter rest ih =>
    rw [kept]
    split
    · exact List.cons_subset_cons _ ih
    · exact List.subset_cons_of_subset _ ih

variable {encounter : Encounter} {rest : List Encounter} {doc : Document}

theorem metFirst_cons_of_ne (hkey : encounter.doc.key ≠ doc.key) :
    MetFirst (encounter :: rest) doc ↔ MetFirst rest doc := by
  rw [MetFirst, MetFirst, List.find?_cons_of_neg (by simpa using hkey)]

theorem metFirst_cons_of_eq (hkey : encounter.doc.key = doc.key) : MetFirst (encounter :: rest) doc ↔
      encounter.isMatch = false ∧ encounter.doc.identity = doc.identity := by
  rw [MetFirst, List.find?_cons_of_pos (by simpa using hkey)]
  simp

/-- A neighbor is listed if it is the first document met under its key. -/
theorem metFirst_of_mem_kept (hkept : encounter ∈ kept met encounters)
    (hneighbor : encounter.isMatch = false) :
    encounter.doc.key ∉ met ∧ MetFirst encounters encounter.doc := by
  induction encounters generalizing met with
  | nil => exact absurd hkept List.not_mem_nil
  | cons first rest ih =>
    have hrest (h : encounter ∈ kept (first.doc.key :: met) rest) :
        encounter.doc.key ∉ met ∧ MetFirst (first :: rest) encounter.doc := by
      obtain ⟨hmet, hfirst⟩ := ih h
      obtain ⟨hkey, hmet⟩ := not_or.mp (mt List.mem_cons.mpr hmet)
      exact ⟨hmet, (metFirst_cons_of_ne (Ne.symm hkey)).mpr hfirst⟩
    rw [kept] at hkept
    split at hkept
    · rename_i hlisted
      rcases List.mem_cons.mp hkept with rfl | hkept
      · rw [hneighbor] at hlisted
        exact ⟨by simpa using hlisted, (metFirst_cons_of_eq rfl).mpr ⟨hneighbor, rfl⟩⟩
      · exact hrest hkept
    · exact hrest hkept

instance (encounters : List Encounter) (doc : Document) : Decidable (MetFirst encounters doc) :=
  inferInstanceAs (Decidable (∃ first ∈ encounters.find? _, _))

/-- A document is listed once for each time it is a match, and once more if it is the first one met under
its key and a neighbor. -/
theorem count_kept (doc : Document) :
    ((kept met encounters).map (·.doc.identity)).count doc.identity =
      ((encounters.filter (·.isMatch)).map (·.doc.identity)).count doc.identity +
        if doc.key ∉ met ∧ MetFirst encounters doc then 1 else 0 := by
  induction encounters generalizing met with
  | nil => simp [kept, MetFirst]
  | cons encounter rest ih =>
    have hrest := @ih (encounter.doc.key :: met)
    by_cases hkey : encounter.doc.key = doc.key
    · -- later documents under the key count as matches only
      rw [if_neg (fun h ↦ h.1 (hkey ▸ List.mem_cons_self)), Nat.add_zero] at hrest
      rw [if_congr (and_congr_right' (metFirst_cons_of_eq hkey)) rfl rfl, ← hkey, kept]
      cases hmatch : encounter.isMatch with
      | true => simp [hmatch, hrest, List.count_cons]
      | false =>
        by_cases hmet : encounter.doc.key ∈ met
        · simp [hmatch, hmet, hrest]
        · simp [hmatch, hmet, hrest, List.count_cons]
    · have hidentity : encounter.doc.identity ≠ doc.identity := fun h ↦ hkey (congrArg Prod.snd h)
      have hmet : doc.key ∉ encounter.doc.key :: met ↔ doc.key ∉ met := by
        simp [Ne.symm hkey]
      rw [if_congr (and_congr_left' hmet) rfl rfl] at hrest
      rw [if_congr (and_congr_right' (metFirst_cons_of_ne hkey)) rfl rfl, kept]
      cases hmatch : encounter.isMatch with
      | true => simp [hmatch, hrest, hidentity]
      | false =>
        split
        · simp [hmatch, hrest, hidentity]
        · simp [hmatch, hrest]

end Encounter

namespace TraversedMatch

variable {phase : List TraversedMatch} {encounter : Encounter}

theorem itemIdentity_of_mem (h : encounter ∈ encounters phase) :
    itemIdentity encounter.item = some encounter.doc.identity := by
  obtain ⟨one, _, h⟩ := List.mem_flatMap.mp h
  rcases List.mem_cons.mp h with rfl | h
  · simp [itemIdentity, VectorMatch.item, Value.get, Document.value, Value.asStr, Document.identity]
  · obtain ⟨neighbor, _, h⟩ := List.mem_filterMap.mp h
    obtain ⟨doc, hdoc, rfl⟩ := Option.map_eq_some_iff.mp h
    simp [itemIdentity, Neighbor.item, hdoc, Value.get, Document.value, Value.asStr,
      Document.identity]

theorem source_of_mem (h : encounter ∈ encounters phase) (hmatch : encounter.isMatch) :
    encounter.item.get "source" = some (.string "vector_match") := by
  obtain ⟨one, _, h⟩ := List.mem_flatMap.mp h
  rcases List.mem_cons.mp h with rfl | h
  · rfl
  · obtain ⟨neighbor, _, h⟩ := List.mem_filterMap.mp h
    obtain ⟨doc, _, rfl⟩ := Option.map_eq_some_iff.mp h
    cases hmatch

theorem doc_mem_of_mem (h : encounter ∈ encounters phase) :
    encounter.doc ∈ if encounter.isMatch then matchDocs phase else neighborDocs phase := by
  obtain ⟨one, hone, h⟩ := List.mem_flatMap.mp h
  rcases List.mem_cons.mp h with rfl | h
  · exact List.mem_map.mpr ⟨one, hone, rfl⟩
  · obtain ⟨neighbor, hneighbor, h⟩ := List.mem_filterMap.mp h
    obtain ⟨doc, hdoc, rfl⟩ := Option.map_eq_some_iff.mp h
    exact List.mem_flatMap.mpr ⟨one, hone, List.mem_filterMap.mpr ⟨neighbor, hneighbor, hdoc⟩⟩

theorem map_filter_isMatch (phase : List TraversedMatch) :
    ((encounters phase).filter (·.isMatch)).map (·.doc) = matchDocs phase := by
  induction phase with
  | nil => rfl
  | cons one rest ih =>
    have hneighbors : one.neighborEncounters.filter (·.isMatch) = [] := by
      apply List.filter_eq_nil_iff.mpr
      intro encounter hmem
      obtain ⟨neighbor, _, h⟩ := List.mem_filterMap.mp hmem
      obtain ⟨doc, _, rfl⟩ := Option.map_eq_some_iff.mp h
      simp
    unfold encounters matchDocs at *
    simp [hneighbors, ih]

theorem timesListed_mergeResults (phase : List TraversedMatch) (doc : Document) :
    timesListed (mergeResults phase) doc =
      ((matchDocs phase).map Document.identity).count doc.identity +
        if Encounter.MetFirst (encounters phase) doc then 1 else 0 := by
  have hitems : (mergeResults phase).map itemIdentity =
      ((Encounter.kept [] (encounters phase)).map (·.doc.identity)).map some := by
    rw [mergeResults_eq, Encounter.listed_eq, List.map_map, List.map_map]
    exact List.map_congr_left fun encounter h ↦ itemIdentity_of_mem (Encounter.kept_subset h)
  rw [timesListed, hitems, List.count_map_of_injective _ _ (Option.some_injective _),
    Encounter.count_kept, ← map_filter_isMatch, List.map_map]
  simp [Function.comp_def]

end TraversedMatch

open TraversedMatch

/-- Documents are listed once exactly if the matches are distinct, and a neighbor is no match if and only
if it is the first document met under its key, and met as a neighbor. -/
theorem mergeResults_once_iff (phase : List TraversedMatch) :
    MergesOnce (matchDocs phase) (neighborDocs phase) (mergeResults phase) ↔
      ((matchDocs phase).map Document.identity).Nodup ∧ ∀ doc ∈ neighborDocs phase,
        doc.identity ∉ (matchDocs phase).map Document.identity ↔
          Encounter.MetFirst (encounters phase) doc := by
  constructor
  · intro h
    constructor
    · apply List.nodup_iff_count_le_one.mpr
      intro identity
      by_cases hmem : identity ∈ (matchDocs phase).map Document.identity
      · obtain ⟨doc, hdoc, rfl⟩ := List.mem_map.mp hmem
        have honce := h.matchOnce doc hdoc
        rw [timesListed_mergeResults] at honce
        omega
      · rw [List.count_eq_zero_of_not_mem hmem]
        exact Nat.zero_le 1
    · intro doc hdoc
      constructor
      · intro hmatch
        have honce := h.neighborOnce doc hdoc hmatch
        rw [timesListed_mergeResults, List.count_eq_zero_of_not_mem hmatch] at honce
        by_contra hfirst
        rw [if_neg hfirst] at honce
        omega
      · intro hfirst hmatch
        obtain ⟨found, hfound, hidentity⟩ := List.mem_map.mp hmatch
        have honce := h.matchOnce found hfound
        rw [timesListed, hidentity] at honce
        have hcount := timesListed_mergeResults phase doc
        rw [timesListed, honce, if_pos hfirst] at hcount
        have hpos := List.count_pos_iff.mpr hmatch
        omega
  · rintro ⟨hnodup, hneighbors⟩
    have hnotFirst (doc : Document) (hdoc : doc ∈ matchDocs phase) :
        ¬Encounter.MetFirst (encounters phase) doc := by
      rintro ⟨first, hfind, hneighbor, hidentity⟩
      have hmem := doc_mem_of_mem (List.mem_of_find?_eq_some hfind)
      rw [hneighbor] at hmem
      apply (hneighbors first.doc hmem).mpr
      · have hkey : first.doc.key = doc.key := congrArg Prod.snd hidentity
        exact ⟨first, by rwa [hkey], hneighbor, rfl⟩
      · rw [hidentity]
        exact List.mem_map_of_mem hdoc
    have hlisted (item : Value) (hitem : item ∈ mergeResults phase) :
        ∃ encounter ∈ Encounter.kept [] (encounters phase), encounter.item = item := by
      rw [mergeResults_eq, Encounter.listed_eq] at hitem
      exact List.mem_map.mp hitem
    constructor
    · intro doc hdoc
      rw [timesListed_mergeResults, if_neg (hnotFirst doc hdoc), Nat.add_zero]
      exact List.count_eq_one_of_mem hnodup (List.mem_map_of_mem hdoc)
    · intro doc hdoc item hitem hidentity
      obtain ⟨encounter, hkept, rfl⟩ := hlisted item hitem
      have hmem := Encounter.kept_subset hkept
      rw [itemIdentity_of_mem hmem, Option.some.injEq] at hidentity
      cases hmatch : encounter.isMatch with
      | true => exact source_of_mem hmem hmatch
      | false =>
        obtain ⟨first, hfind, hneighbor, hfirst⟩ := (Encounter.metFirst_of_mem_kept hkept hmatch).2
        have hkey : encounter.doc.key = doc.key := congrArg Prod.snd hidentity
        rw [hkey] at hfind
        exact absurd ⟨first, hfind, hneighbor, hfirst.trans hidentity⟩ (hnotFirst doc hdoc)
    · intro doc hdoc hmatch
      rw [timesListed_mergeResults, List.count_eq_zero_of_not_mem hmatch,
        if_pos ((hneighbors doc hdoc).mp hmatch)]
    · intro item hitem
      obtain ⟨encounter, hkept, rfl⟩ := hlisted item hitem
      have hmem := Encounter.kept_subset hkept
      refine ⟨encounter.doc, List.mem_append.mpr ?_, itemIdentity_of_mem hmem⟩
      have hdoc := doc_mem_of_mem hmem
      split at hdoc
      · exact .inl hdoc
      · exact .inr hdoc

/-- Two notes that are linked to each other. -/
def linkedNotes : List TraversedMatch :=
  let note (key : String) : Document := ⟨"content", key, []⟩
  let link : EdgeDocument := ⟨⟨"related_to", "1", []⟩, "content/first", "content/second"⟩
  [⟨⟨note "first", .number "0.9"⟩, some [⟨some (note "second"), link, 1⟩]⟩,
    ⟨⟨note "second", .number "0.8"⟩, some [⟨some (note "first"), link, 1⟩]⟩]

/-- The second note is listed as a neighbor of the first one, and then as a match. -/
theorem mergeResults_once_false :
    ¬∀ phase : List TraversedMatch,
      MergesOnce (matchDocs phase) (neighborDocs phase) (mergeResults phase) := by
  intro h
  have honce := (h linkedNotes).matchOnce ⟨"content", "second", []⟩ (by simp [matchDocs, linkedNotes])
  exact absurd honce (by decide +kernel)

end Seidrum.Kernel
