import Seidrum.Kernel.HybridSearch

/-!
# What a scope keeps from a query

Brains that agree on all documents in an allowed scope or in none may differ in what is hidden.  A
query answers both alike as long as it meets nothing hidden: only the candidates of a text and the
matches of a search are filtered, and not what the graph links to them, nor facts.
-/

namespace Seidrum.Kernel

open EventBus (Value)
open Foundation

theorem BrainQueryResponse.ofResult_inj {scopesApplied : List String}
    {result result' : Except String Value} :
    ofResult scopesApplied result = ofResult scopesApplied result' ↔ result = result' := by
  unfold ofResult
  split <;> split <;> grind

/-- Text of the request is put in the query: all of it, or what stands for a collection. -/
def BrainQueryRequest.PutsInText (req : BrainQueryRequest) : Prop :=
  QueryType.ofString req.queryType = .aql ∨
    QueryType.ofString req.queryType = .vectorSearch ∧ req.collection.getD "content" ∉ vertexCollections

namespace Brain

variable {db db' : Brain} {allowed : List String} {id : String}

/-- A hidden document stands under the identifier. -/
def Meets (db : Brain) (allowed : List String) (id : String) : Prop :=
  db.Hidden allowed id ∧ db.vertex id ≠ none

/-- A document that is not hidden is found by what it is scoped to, and that is not hidden either. -/
def FoundOpenly (db : Brain) (allowed : List String) (id : String) : Prop :=
  ¬ db.Hidden allowed id ∧ (db.visible allowed).Found allowed id

instance (db : Brain) (allowed : List String) (id : String) : Decidable (db.FoundOpenly allowed id) :=
  inferInstanceAs (Decidable (_ ∧ _))

theorem found_of_visible (h : (db.visible allowed).Found allowed id) : db.Found allowed id := by
  obtain ⟨target, htarget, scope, hscope, hkey⟩ := h
  rw [visible_vertex] at hscope
  split at hscope
  · exact absurd hscope (Option.not_mem_none scope)
  · exact ⟨target, htarget, scope, hscope, hkey⟩

theorem fetchScope_vertices {reading : PathReading} {scopeKey : String} :
    fetchScope db.vertices reading scopeKey =
      ((reading ("scopes/" ++ scopeKey)).bind db.vertex).filter (¬ ·.marked) := by
  rw [fetchScope, getDocument]
  refine congrArg (Option.filter _) ?_
  cases hread : reading ("scopes/" ++ scopeKey) with
  | none =>
    refine List.find?_eq_none.mpr fun doc _ hread' ↦ ?_
    rw [decide_eq_true_eq] at hread'
    exact absurd (hread.symm.trans hread') (by simp)
  | some id =>
    have hpath : reading ("scopes" ++ "/" ++ scopeKey) = some id := hread
    simp only [hpath, Option.some_inj]
    exact List.find?_congr fun doc _ ↦ decide_eq_decide.mpr eq_comm

theorem vertexValue_visible_eq_iff :
    (db.visible allowed).vertexValue id = db.vertexValue id ↔ ¬ db.Meets allowed id := by
  unfold vertexValue Meets
  rw [visible_vertex]
  by_cases hhidden : db.Hidden allowed id
  · cases db.vertex id <;> simp [hhidden, Document.value]
  · simp [hhidden]

end Brain

theorem mem_walk_inbound_one {edges : List EdgeDocument} {start : String} {visit : Visit}
    (h : visit ∈ walk edges .inbound 1 [] start) :
    ∃ edge ∈ edges, edge.target = start ∧ visit.vertex = edge.source := by
  simp only [walk, EdgeDocument.follow, List.mem_flatMap] at h
  obtain ⟨edge, hedge, h⟩ := h
  by_cases htarget : edge.target = start
  · have hvisit : visit = ⟨edge.source, edge, 1⟩ := by simpa [htarget] using h
    exact ⟨edge, hedge, htarget, congrArg Visit.vertex hvisit⟩
  · simp [htarget] at h

namespace BrainServices

variable {κ : Type} [LinearOrder κ] {services : BrainServices κ} {db : Brain} {allowed : List String}
  {scope collection : String} {req : BrainQueryRequest} {limit : ℕ} {embedding : List Value}

theorem currentFacts_visible {subject : String} {minConfidence : Value} :
    (services.currentFacts (db.visible allowed) subject minConfidence limit).map Document.value =
        (services.currentFacts db subject minConfidence limit).map Document.value ↔
      ∀ fact ∈ services.currentFacts db subject minConfidence limit,
        ¬ db.Hidden allowed fact.id := by
  unfold currentFacts
  rw [Brain.visible_collection, List.filter_comm]
  rw [map_topByKey_filter_eq_iff fun a b hab ↦ by rw [Document.id_eq_of_value hab]]
  simp only [decide_eq_true_eq]

omit [LinearOrder κ] in
theorem scopeEntities_visible (hscope : scope ∈ allowed) :
    services.scopeEntities (db.visible allowed) scope = services.scopeEntities db scope := by
  unfold scopeEntities traverse
  rw [Brain.visible_scopedTo]
  split
  · refine congrArg (fun docs : List Document ↦ some (batch (docs.filter (·.collection = "entities"))))
      (List.filterMap_congr fun visit hvisit ↦ ?_)
    obtain ⟨edge, hedge, htarget, hvertex⟩ := mem_walk_inbound_one hvisit
    have hopen : ¬ db.Hidden allowed visit.vertex := fun hhidden ↦ hhidden.1 <| .inr
      ⟨edge.target, List.mem_map.mpr ⟨edge, by simp [hedge, hvertex], rfl⟩,
        htarget ▸ List.mem_map_of_mem hscope⟩
    rw [Brain.visible_vertex, if_neg hopen]
  · rfl

omit [LinearOrder κ] in
theorem similarDocuments_visible :
    services.similarDocuments (db.visible allowed) collection embedding =
      (services.similarDocuments db collection embedding).filter
        (¬ db.Hidden allowed ·.doc.id) := by
  unfold similarDocuments
  rw [Brain.visible_collection, List.filter_comm, List.filter_map (p := fun found : VectorMatch ↦
    decide (¬ db.Hidden allowed found.doc.id))]
  rfl

/-- In the visible part the search is left with the matches that are found openly. -/
theorem vectorMatches_visible :
    services.vectorMatches (db.visible allowed) collection embedding limit (some allowed) =
      topByKey (fun found ↦ services.rank found.distance) (min limit firstBatch)
        (((services.similarDocuments db collection embedding).filter
          (db.Found allowed ·.doc.id)).filter (db.FoundOpenly allowed ·.doc.id)) := by
  unfold vectorMatches
  simp only [similarDocuments_visible, List.filter_filter]
  refine congrArg (topByKey _ (min limit firstBatch)) (List.filter_congr fun found _ ↦ ?_)
  rw [Bool.eq_iff_iff]
  simp only [Bool.and_eq_true, decide_eq_true_eq]
  exact ⟨fun ⟨hfound, hopen⟩ ↦ ⟨⟨hopen, hfound⟩, Brain.found_of_visible hfound⟩,
    fun ⟨⟨hopen, hfound⟩, _⟩ ↦ ⟨hfound, hopen⟩⟩

/-- What a map shows of the matches is the same exactly when all of them are found openly. -/
theorem map_vectorMatches_visible_eq_iff {f : VectorMatch → β} (hf : ∀ a b, f a = f b → a.doc.id = b.doc.id) :
    (services.vectorMatches (db.visible allowed) collection embedding limit (some allowed)).map f =
        (services.vectorMatches db collection embedding limit (some allowed)).map f ↔
      ∀ found ∈ services.vectorMatches db collection embedding limit (some allowed),
        db.FoundOpenly allowed found.doc.id := by
  rw [vectorMatches_visible]
  unfold vectorMatches
  rw [map_topByKey_filter_eq_iff fun a b hab ↦ by rw [hf a b hab]]
  simp only [decide_eq_true_eq]

theorem vectorMatches_visible_eq_iff :
    services.vectorMatches (db.visible allowed) collection embedding limit (some allowed) =
        services.vectorMatches db collection embedding limit (some allowed) ↔
      ∀ found ∈ services.vectorMatches db collection embedding limit (some allowed),
        db.FoundOpenly allowed found.doc.id := by
  rw [← map_vectorMatches_visible_eq_iff (f := id) fun _ _ hab ↦ congrArg (·.doc.id) hab,
    List.map_id, List.map_id]

end BrainServices

namespace Encounter

/-- Every hidden document is a neighbor under a key met before. -/
def Shadowed (hidden : Document → Prop) : List String → List Encounter → Prop
  | _, [] => True
  | met, encounter :: rest =>
      (hidden encounter.doc → encounter.isMatch = false ∧ encounter.doc.key ∈ met) ∧
        Shadowed hidden (encounter.doc.key :: met) rest

variable {met : List String} {encounters : List Encounter}

theorem item_mem_listed {encounter : Encounter} (hmem : encounter ∈ encounters)
    (hmatch : encounter.isMatch) : encounter.item ∈ listed met encounters := by
  induction encounters generalizing met with
  | nil => exact absurd hmem List.not_mem_nil
  | cons first rest ih =>
    rcases List.mem_cons.mp hmem with rfl | hrest
    · simp [listed, hmatch]
    · unfold listed
      split
      · exact List.mem_cons_of_mem _ (ih hrest)
      · exact ih hrest

/-- Leaving the hidden documents out leaves the list unchanged exactly when none of them is listed. -/
theorem listed_filter_eq_iff (hidden : Document → Prop) [DecidablePred hidden]
    (hitem : ∀ e ∈ encounters, ∀ e' ∈ encounters, e.item = e'.item → (hidden e.doc ↔ hidden e'.doc)) :
    listed met (encounters.filter (¬ hidden ·.doc)) = listed met encounters ↔
      Shadowed hidden met encounters := by
  induction encounters generalizing met with
  | nil => simp [listed, Shadowed]
  | cons encounter rest ih =>
    have hrest := @ih (encounter.doc.key :: met) fun e he e' he' ↦
      hitem e (List.mem_cons_of_mem _ he) e' (List.mem_cons_of_mem _ he')
    by_cases hhidden : hidden encounter.doc
    · rw [List.filter_cons_of_neg (by simpa using hhidden), Shadowed]
      by_cases hlisted : encounter.isMatch ∨ encounter.doc.key ∉ met
      · refine iff_of_false (fun heq ↦ ?_) (fun h ↦ ?_)
        · have hmem : encounter.item ∈ listed met (rest.filter (¬ hidden ·.doc)) := by
            rw [heq, listed, if_pos hlisted]
            exact List.mem_cons_self
          obtain ⟨other, hother, hsame⟩ := mem_of_mem_listed hmem
          obtain ⟨hother, hseen⟩ := List.mem_filter.mp hother
          exact of_decide_eq_true hseen ((hitem other (List.mem_cons_of_mem _ hother) encounter
            List.mem_cons_self hsame).mpr hhidden)
        · obtain ⟨hneighbor, hkey⟩ := h.1 hhidden
          rcases hlisted with hmatch | hnew
          · exact absurd hmatch (by simp [hneighbor])
          · exact hnew hkey
      · obtain ⟨hneighbor, hkey⟩ := not_or.mp hlisted
        have hkey : encounter.doc.key ∈ met := not_not.mp hkey
        have hmet : listed met (rest.filter (¬ hidden ·.doc)) =
            listed (encounter.doc.key :: met) (rest.filter (¬ hidden ·.doc)) :=
          listed_congr fun key ↦ by
            simp only [List.mem_cons, iff_or_self]
            rintro rfl
            exact hkey
        rw [listed, if_neg hlisted, hmet, hrest]
        exact (and_iff_right fun _ ↦ ⟨eq_false_of_ne_true hneighbor, hkey⟩).symm
    · rw [List.filter_cons_of_pos (by simpa using hhidden), Shadowed, listed, listed,
        and_iff_right (fun h ↦ absurd h hhidden), ← hrest]
      split
      · exact List.cons_inj_right encounter.item
      · exact Iff.rfl

end Encounter

namespace Brain

variable {db : Brain} {allowed : List String} {visits : String → List Visit}
  {found : List VectorMatch}

/-- The neighbors that have a document. -/
def neighborEncounters (db : Brain) (visits : List Visit) : List Encounter :=
  visits.filterMap fun visit ↦
    (db.vertex visit.vertex).map fun doc ↦ ⟨doc, db.neighborItem visit, false⟩

/-- Everything come to: every match and its neighbors. -/
def encounters (db : Brain) (visits : String → List Visit) (found : List VectorMatch) :
    List Encounter :=
  found.flatMap fun one ↦
    ⟨one.doc, one.item, true⟩ :: db.neighborEncounters (visits one.doc.key)

variable {encounter : Encounter}

theorem shows_of_mem_encounters (h : encounter ∈ db.encounters visits found) : encounter.Shows := by
  obtain ⟨one, _, h⟩ := List.mem_flatMap.mp h
  rcases List.mem_cons.mp h with rfl | h
  · exact ⟨rfl, rfl⟩
  · obtain ⟨visit, _, h⟩ := List.mem_filterMap.mp h
    obtain ⟨doc, hdoc, rfl⟩ := Option.map_eq_some_iff.mp h
    exact ⟨by simp [neighborItem, vertexValue, hdoc, Value.get], rfl⟩

theorem match_of_mem_encounters (h : encounter ∈ db.encounters visits found) (hmatch : encounter.isMatch) :
    ∃ one ∈ found, one.doc = encounter.doc := by
  obtain ⟨one, hone, h⟩ := List.mem_flatMap.mp h
  rcases List.mem_cons.mp h with rfl | h
  · exact ⟨one, hone, rfl⟩
  · obtain ⟨visit, _, h⟩ := List.mem_filterMap.mp h
    obtain ⟨doc, hdoc, rfl⟩ := Option.map_eq_some_iff.mp h
    cases hmatch

theorem encounters_traversed :
    TraversedMatch.encounters (found.map (db.traversed visits)) = db.encounters visits found := by
  unfold TraversedMatch.encounters encounters
  rw [List.flatMap_map]
  refine List.flatMap_congr fun one _ ↦ ?_
  unfold TraversedMatch.neighborEncounters neighborEncounters
  rw [TraversedMatch.neighbors, traversed, Option.getD_some, List.filterMap_map]
  rfl

theorem results_hybrid : ((found.map VectorMatch.item).foldl
    (Merged.addMatch fun key ↦ (visits key).map db.neighborItem) ⟨[], []⟩).results =
      Encounter.listed [] (db.encounters visits found) := by
  rw [foldl_addMatch, TraversedMatch.mergeResults_eq, encounters_traversed]

theorem neighborEncounters_visible (visits : List Visit) :
    (db.visible allowed).neighborEncounters visits =
      (db.neighborEncounters visits).filter (¬ db.Hidden allowed ·.doc.id) := by
  unfold neighborEncounters
  rw [List.filter_filterMap]
  refine List.filterMap_congr fun visit _ ↦ ?_
  have hvertex : (db.visible allowed).vertex visit.vertex =
      if db.Hidden allowed visit.vertex then none else db.vertex visit.vertex :=
    visible_vertex visit.vertex
  by_cases hhidden : db.Hidden allowed visit.vertex
  · rw [hvertex, if_pos hhidden]
    cases hdoc : db.vertex visit.vertex with
    | none => rfl
    | some doc => simp [Option.filter_some, id_of_vertex hdoc, hhidden]
  · rw [if_neg hhidden] at hvertex
    cases hdoc : db.vertex visit.vertex with
    | none => simp [hvertex, hdoc]
    | some doc => simp [Option.filter_some, hvertex, hdoc, neighborItem, vertexValue,
        id_of_vertex hdoc, hhidden]

theorem encounters_visible (hfound : ∀ one ∈ found, ¬ db.Hidden allowed one.doc.id) :
    (db.visible allowed).encounters visits found =
      (db.encounters visits found).filter (¬ db.Hidden allowed ·.doc.id) := by
  unfold encounters
  rw [List.filter_flatMap]
  refine List.flatMap_congr fun one hone ↦ ?_
  rw [List.filter_cons_of_pos (by simpa using hfound one hone), neighborEncounters_visible]

end Brain

/-! ## Queries that meet nothing hidden -/

namespace BrainServices

variable {κ : Type} [LinearOrder κ] (services : BrainServices κ) (db : Brain) (allowed : List String)
  (req : BrainQueryRequest)

/-- What a text makes of a database without some documents is what it makes of the database, less the
candidates with the `_id` of one of them. -/
def ByDocument (aql : String) (bindVars : BindVars) : Prop :=
  ∀ (db : Brain) (gone : String → Bool), (∀ scope ∈ db.scopes, gone scope.id = false) →
    services.execute aql bindVars { db with documents := db.documents.filter (!gone ·.id) } =
      (services.execute aql bindVars db).map (·.filter fun candidate ↦
        !(((candidate.get "_id").bind Value.asStr).any gone))

/-- The text stays in the subquery it is put in, and goes by document. -/
def AqlUndisturbed : Prop := ∀ aql ∈ req.aql, selfContained (originalQuery aql) ∧
  services.ByDocument (originalQuery aql) (scopeVars (req.bindVars.getD ∅) allowed)

/-- A collection is named, and all matches are found openly. -/
def VectorUndisturbed : Prop := ∀ embedding ∈ services.queryEmbedding req,
  let collection := req.collection.getD "content"
  collection ∈ vertexCollections ∧
    ∀ found ∈ services.vectorMatches db collection embedding (req.limit.getD 10) (some allowed),
      db.FoundOpenly allowed found.doc.id

/-- All matches are found openly, and hidden neighbors stand under keys met before. -/
def HybridUndisturbed : Prop := ∀ embedding ∈ services.queryEmbedding req,
  let collection := safeCollection (req.collection.getD "content")
  let found := services.vectorMatches db collection embedding (req.limit.getD 5) (some allowed)
  let visits := fun key : String ↦ services.neighbors db (req.depth.getD 2) (collection ++ "/" ++ key)
  (∀ one ∈ found, db.FoundOpenly allowed one.doc.id) ∧
    Encounter.Shadowed (fun doc ↦ db.Hidden allowed doc.id) [] (db.encounters visits found)

/-- No walk comes to a hidden document. -/
def TraverseUndisturbed : Prop := ∀ start ∈ req.startVertex,
  ∀ visits ∈ services.traverse db.edges (Direction.ofString (req.direction.getD "any"))
    (req.depth.getD 2) start,
  ∀ visit ∈ batch visits, ¬ db.Meets allowed visit.vertex

/-- None of an entity's current facts is hidden, as far as the limit goes. -/
def FactsUndisturbed : Prop := ∀ startVertex ∈ req.startVertex,
  ∀ fact ∈ services.currentFacts db (entityId startVertex) (req.minConfidence.getD (.number "0.5"))
    (min (req.limit.getD 50) firstBatch),
  ¬ db.Hidden allowed fact.id

/-- The same for every entity of a scope. -/
def ContextUndisturbed (scope : String) : Prop := ∀ entities ∈ services.scopeEntities db scope,
  ∀ entity ∈ entities,
  ∀ fact ∈ services.currentFacts db entity.id (req.minConfidence.getD (.number "0.5"))
    (req.maxFacts.getD 50),
  ¬ db.Hidden allowed fact.id

variable {services db allowed req}

theorem not_hidden_of_keeps {candidate : Value} {id : String} (hkeeps : db.Keeps allowed candidate)
    (hid : (candidate.get "_id").bind Value.asStr = some id) : ¬ db.Hidden allowed id := by
  have hedges : db.scopeEdges candidate = db.scopesOf id := by simp [Brain.scopeEdges, hid]
  rw [Brain.Keeps, hedges] at hkeeps
  exact fun hhidden ↦ hhidden.1 hkeeps

omit [LinearOrder κ] in
theorem handleAqlQuery_visible (hallowed : allowed ≠ []) (h : services.AqlUndisturbed allowed req) :
    services.handleAqlQuery (db.visible allowed) req (some allowed) =
      services.handleAqlQuery db req (some allowed) := by
  unfold handleAqlQuery injectScopeFilter
  cases haql : req.aql with
  | none => rfl
  | some aql =>
    obtain ⟨hcontained, hbyDocument⟩ := h aql haql
    have hvisible := hbyDocument db (fun id ↦ db.Hidden allowed id) fun scope hscope ↦
      decide_eq_false fun hhidden ↦ hhidden.2 scope hscope rfl
    have hexecuted : services.execute (originalQuery aql)
          (scopeVars (req.bindVars.getD ∅) allowed) (db.visible allowed) =
        (services.execute (originalQuery aql) (scopeVars (req.bindVars.getD ∅) allowed) db).map
          (·.filter fun candidate ↦ !(((candidate.get "_id").bind Value.asStr).any
            fun id ↦ db.Hidden allowed id)) := by
      rw [← hvisible]
      simp only [Brain.visible, decide_not]
    have hfiltered (values : List Value) : (values.filter fun candidate ↦
        !(((candidate.get "_id").bind Value.asStr).any fun id ↦ db.Hidden allowed id)).filter
          ((db.visible allowed).Keeps allowed ·) = values.filter (db.Keeps allowed ·) := by
      rw [List.filter_filter]
      refine List.filter_congr fun candidate _ ↦ ?_
      have hkeeps : (db.visible allowed).Keeps allowed candidate = db.Keeps allowed candidate := rfl
      rw [Bool.eq_iff_iff, Bool.and_eq_true, decide_eq_true_eq, decide_eq_true_eq, hkeeps]
      refine and_iff_left_of_imp fun hkept ↦ ?_
      cases hid : (candidate.get "_id").bind Value.asStr with
      | none => rfl
      | some id => simpa using not_hidden_of_keeps hkept hid
    simp only [if_neg hallowed, hcontained, if_true, hexecuted, Option.map_map, Function.comp_def,
      hfiltered]

theorem handleVectorSearch_visible (hnamed : req.collection.getD "content" ∈ vertexCollections) :
    services.handleVectorSearch (db.visible allowed) req (some allowed) =
        services.handleVectorSearch db req (some allowed) ↔
      services.VectorUndisturbed db allowed req := by
  unfold handleVectorSearch VectorUndisturbed
  cases hembedding : services.queryEmbedding req with
  | none => simp
  | some embedding =>
    simp only [Option.mem_def, Option.some.injEq, forall_eq', hnamed, if_true, Value.array.injEq,
      true_and]
    refine map_vectorMatches_visible_eq_iff fun a b hab ↦ ?_
    simp only [VectorMatch.merged, Value.object.injEq, List.cons.injEq, Prod.mk.injEq,
      Value.string.injEq] at hab
    exact hab.1.2

/-- A hybrid search lists the same exactly when its matches are found openly and hidden neighbors
stand under keys met before. -/
theorem listed_visible_iff {collection : String} {embedding : List Value} {limit : ℕ}
    {visits : String → List Visit} :
    Encounter.listed [] ((db.visible allowed).encounters visits
        (services.vectorMatches (db.visible allowed) collection embedding limit (some allowed))) =
      Encounter.listed [] (db.encounters visits
        (services.vectorMatches db collection embedding limit (some allowed))) ↔
    (∀ one ∈ services.vectorMatches db collection embedding limit (some allowed),
      db.FoundOpenly allowed one.doc.id) ∧
    Encounter.Shadowed (fun doc ↦ db.Hidden allowed doc.id) [] (db.encounters visits
      (services.vectorMatches db collection embedding limit (some allowed))) := by
  set found := services.vectorMatches db collection embedding limit (some allowed) with hfound
  have hlisted (hopen : ∀ one ∈ found, db.FoundOpenly allowed one.doc.id) :
      Encounter.listed [] ((db.visible allowed).encounters visits found) =
          Encounter.listed [] (db.encounters visits found) ↔
        Encounter.Shadowed (fun doc ↦ db.Hidden allowed doc.id) [] (db.encounters visits found) := by
    rw [Brain.encounters_visible fun one hone ↦ (hopen one hone).1]
    refine Encounter.listed_filter_eq_iff (db.Hidden allowed ·.id) fun e he e' he' hitem ↦ ?_
    rw [((Brain.shows_of_mem_encounters he).eq_of_item (Brain.shows_of_mem_encounters he') hitem).2]
  constructor
  · intro heq
    have hopen : ∀ one ∈ found, db.FoundOpenly allowed one.doc.id := by
      intro one hone
      have hmem : (⟨one.doc, one.item, true⟩ : Encounter) ∈ db.encounters visits found :=
        List.mem_flatMap.mpr ⟨one, hone, List.mem_cons_self⟩
      -- the match is listed in the visible part too, and there every match is found openly
      have hitem : one.item ∈ Encounter.listed [] (db.encounters visits found) :=
        Encounter.item_mem_listed hmem rfl
      rw [← heq] at hitem
      obtain ⟨other, hother, hsame⟩ := Encounter.mem_of_mem_listed hitem
      obtain ⟨hmatch, hid⟩ := (Brain.shows_of_mem_encounters hother).eq_of_item
        (Brain.shows_of_mem_encounters hmem) hsame
      obtain ⟨one', hone', hdoc⟩ := Brain.match_of_mem_encounters hother hmatch
      rw [vectorMatches_visible] at hone'
      have hopen' := (List.mem_filter.mp (mem_of_mem_topByKey hone')).2
      rw [hdoc, hid] at hopen'
      exact of_decide_eq_true hopen'
    rw [vectorMatches_visible_eq_iff.mpr hopen] at heq
    exact ⟨hopen, (hlisted hopen).mp heq⟩
  · rintro ⟨hopen, hshadowed⟩
    rw [vectorMatches_visible_eq_iff.mpr hopen]
    exact (hlisted hopen).mpr hshadowed

theorem handleHybridSearch_visible :
    services.handleHybridSearch (db.visible allowed) req (some allowed) =
        services.handleHybridSearch db req (some allowed) ↔
      services.HybridUndisturbed db allowed req := by
  unfold handleHybridSearch HybridUndisturbed
  cases services.queryEmbedding req with
  | none => simp
  | some embedding =>
    simp only [Option.mem_def, Option.some.injEq, forall_eq', Value.array.injEq, Brain.results_hybrid]
    exact listed_visible_iff

omit [LinearOrder κ] in
theorem handleGraphTraverse_visible :
    services.handleGraphTraverse (db.visible allowed) req = services.handleGraphTraverse db req ↔
      services.TraverseUndisturbed db allowed req := by
  unfold handleGraphTraverse TraverseUndisturbed
  cases hstart : req.startVertex with
  | none => simp
  | some start =>
    simp only [Option.mem_def, Option.some.injEq, forall_eq', Brain.visible_edges]
    cases services.traverse db.edges (Direction.ofString (req.direction.getD "any"))
      (req.depth.getD 2) start with
    | none => simp
    | some visits => simp [List.map_inj_left, Brain.vertexValue_visible_eq_iff]

theorem handleGetFacts_visible :
    services.handleGetFacts (db.visible allowed) req = services.handleGetFacts db req ↔
      services.FactsUndisturbed db allowed req := by
  unfold handleGetFacts FactsUndisturbed
  cases hstart : req.startVertex with
  | none => simp
  | some start => simp [← currentFacts_visible]

theorem handleGetContext_visible (hscope : scope ∈ allowed) :
    services.handleGetContext (db.visible allowed) req (some scope) =
        services.handleGetContext db req (some scope) ↔
      services.ContextUndisturbed db allowed req scope := by
  unfold handleGetContext ContextUndisturbed
  rw [Option.getD_some, scopeEntities_visible hscope]
  cases services.scopeEntities db scope with
  | none => simp
  | some entities => simp [List.map_inj_left, ← currentFacts_visible]

/-- The query meets nothing hidden. -/
def QueryUndisturbed (services : BrainServices κ) (db : Brain) (allowed : List String) (scope : String)
    (req : BrainQueryRequest) : Prop :=
  match QueryType.ofString req.queryType with
  | .aql => services.AqlUndisturbed allowed req
  | .vectorSearch => services.VectorUndisturbed db allowed req
  | .hybridSearch => services.HybridUndisturbed db allowed req
  | .graphTraverse => services.TraverseUndisturbed db allowed req
  | .getFacts => services.FactsUndisturbed db allowed req
  | .getContext => services.ContextUndisturbed db allowed req scope
  | .unknown _ => True

/-- None of the documents read for the allowed scopes is hidden, and the query meets nothing hidden. -/
structure Undisturbed (services : BrainServices κ) (db : Brain) (allowed : List String) (scope : String)
    (req : BrainQueryRequest) : Prop where
  scopes : ∀ scopeKey ∈ allowed, ∀ doc ∈ fetchScope db.vertices services.reading scopeKey,
    ¬ db.Hidden allowed doc.id
  query : services.QueryUndisturbed db allowed scope req

theorem handleQuery_visible_iff (hscope : scope ∈ allowed) (htext : ¬ req.PutsInText) :
    services.handleQuery (db.visible allowed) req (some scope) (some allowed) =
        services.handleQuery db req (some scope) (some allowed) ↔
      services.QueryUndisturbed db allowed scope req := by
  unfold handleQuery QueryUndisturbed
  rw [BrainQueryRequest.PutsInText, not_or, not_and, not_not] at htext
  cases htype : QueryType.ofString req.queryType with
  | aql => exact absurd htype htext.1
  | vectorSearch =>
    simpa only [Except.ok.injEq] using handleVectorSearch_visible (htext.2 htype)
  | hybridSearch => simpa only [Except.ok.injEq] using handleHybridSearch_visible
  | graphTraverse => exact handleGraphTraverse_visible
  | getFacts => exact handleGetFacts_visible
  | getContext => exact handleGetContext_visible hscope
  | unknown other => simp

theorem handleQuery_visible (hscope : scope ∈ allowed)
    (h : services.QueryUndisturbed db allowed scope req) :
    services.handleQuery (db.visible allowed) req (some scope) (some allowed) =
      services.handleQuery db req (some scope) (some allowed) := by
  by_cases htext : req.PutsInText
  · unfold handleQuery
    unfold QueryUndisturbed at h
    rcases htext with haql | ⟨hvector, hunnamed⟩
    · simp only [haql] at h ⊢
      exact handleAqlQuery_visible (List.ne_nil_of_mem hscope) h
    · simp only [hvector] at h ⊢
      unfold handleVectorSearch
      cases hembedding : services.queryEmbedding req with
      | none => rfl
      | some embedding => exact absurd (h embedding hembedding).1 hunnamed
  · exact (handleQuery_visible_iff hscope htext).mpr h

omit [LinearOrder κ] in
theorem fetchScope_visible {scopeKey : String}
    (h : ∀ doc ∈ fetchScope db.vertices services.reading scopeKey, ¬ db.Hidden allowed doc.id) :
    fetchScope (db.visible allowed).vertices services.reading scopeKey =
      fetchScope db.vertices services.reading scopeKey := by
  rw [Brain.fetchScope_vertices] at h
  rw [Brain.fetchScope_vertices, Brain.fetchScope_vertices]
  cases hread : services.reading ("scopes/" ++ scopeKey) with
  | none => rfl
  | some id =>
    rw [hread, Option.bind_some] at h
    rw [Option.bind_some, Option.bind_some, Brain.visible_vertex]
    split
    · rename_i hhidden
      cases hfetch : (db.vertex id).filter (¬ ·.marked) with
      | none => rfl
      | some doc =>
        have hdoc := Brain.id_of_vertex (Option.filter_eq_some_iff.mp hfetch).1
        exact absurd hhidden (hdoc ▸ h doc hfetch)
    · rfl

omit [LinearOrder κ] in
/-- The scopes that are allowed in a brain are allowed in every brain that agrees with it, if none of the
documents read for them is hidden in either of the brains. -/
theorem allowedScopes_eq {db' : Brain} (hagrees : db.Agrees (services.allowedScopes db scope) db')
    (h : ∀ scopeKey ∈ services.allowedScopes db scope,
      ∀ doc ∈ fetchScope db.vertices services.reading scopeKey,
        ¬ db.Hidden (services.allowedScopes db scope) doc.id)
    (h' : ∀ scopeKey ∈ services.allowedScopes db scope,
      ∀ doc ∈ fetchScope db'.vertices services.reading scopeKey,
        ¬ db'.Hidden (services.allowedScopes db scope) doc.id) :
    services.allowedScopes db' scope = services.allowedScopes db scope := by
  have hfetch : ∀ scopeKey ∈ services.allowedScopes db scope,
      fetchScope db'.vertices services.reading scopeKey =
        fetchScope db.vertices services.reading scopeKey := by
    intro scopeKey hmem
    have hvisible : db.visible (services.allowedScopes db scope) =
        db'.visible (services.allowedScopes db scope) := hagrees
    rw [← fetchScope_visible (h' scopeKey hmem), ← hvisible, fetchScope_visible (h scopeKey hmem)]
  unfold allowedScopes resolveScopes
  refine congrArg (List.insert "scope_root") (Links.visit_congr fun scopeKey hmem ↦ ?_)
  simp only [scopeLinks, hfetch scopeKey (List.mem_insert_of_mem hmem)]

/-- A query is answered alike in brains that agree on what is not hidden, if it meets nothing hidden in
either of them. -/
theorem noninterference_of_undisturbed (services : BrainServices κ) (db db' : Brain) (scope : String)
    (req : BrainQueryRequest) (hagrees : db.Agrees (services.allowedScopes db scope) db')
    (h : services.Undisturbed db (services.allowedScopes db scope) scope req)
    (h' : services.Undisturbed db' (services.allowedScopes db scope) scope req) :
    services.handleQueryRequest db' (some scope) req =
      services.handleQueryRequest db (some scope) req := by
  have hscope : scope ∈ services.allowedScopes db scope := primaryScope_mem_allowed
  have hvisible : db.visible (services.allowedScopes db scope) =
      db'.visible (services.allowedScopes db scope) := hagrees
  simp only [handleQueryRequest, Option.map_some, Option.getD_some]
  rw [allowedScopes_eq hagrees h.scopes h'.scopes, ← handleQuery_visible hscope h.query, ← handleQuery_visible hscope h'.query, hvisible]

/-- Of a query whose text is not put together from the request, this is all that can be asked. -/
theorem undisturbed_of_noninterference (services : BrainServices κ) (db : Brain) (scope : String)
    (req : BrainQueryRequest) (htext : ¬ req.PutsInText)
    (hscopes : ∀ scopeKey ∈ services.allowedScopes db scope,
      ∀ doc ∈ fetchScope db.vertices services.reading scopeKey,
        ¬ db.Hidden (services.allowedScopes db scope) doc.id)
    (h : services.handleQueryRequest (db.visible (services.allowedScopes db scope)) (some scope) req =
      services.handleQueryRequest db (some scope) req) :
    services.Undisturbed db (services.allowedScopes db scope) scope req := by
  have hsame : services.allowedScopes (db.visible (services.allowedScopes db scope)) scope =
      services.allowedScopes db scope := by
    refine allowedScopes_eq Brain.visible_visible.symm hscopes fun scopeKey hmem doc hdoc ↦ ?_
    rw [fetchScope_visible (hscopes scopeKey hmem)] at hdoc
    exact hscopes scopeKey hmem doc hdoc
  simp only [handleQueryRequest, Option.map_some, Option.getD_some] at h
  rw [hsame, BrainQueryResponse.ofResult_inj] at h
  exact ⟨hscopes, (handleQuery_visible_iff primaryScope_mem_allowed htext).mp h⟩

end BrainServices

/-- Services without order, similarities or embeddings. -/
def plainServices : BrainServices ℕ where
  rank _ := 0
  cosineSimilarity _ _ := .null
  execute _ _ _ := none
  accepts _ _ := true
  embed _ := none
  reading := untilQuery
  fetchFails _ := false

/-- A fact of an entity. -/
def salaryFact : Document where
  collection := "facts"
  key := "fact_1"
  fields := [("confidence", .number "0.9"), ("predicate", .string "earns"),
    ("subject", .string "entities/entity_alex"), ("value", .string "90000")]

/-- Its assignment to a scope. -/
def salaryScope : EdgeDocument where
  collection := "scoped_to"
  key := "1"
  fields := []
  source := "facts/fact_1"
  target := "scopes/scope_payroll"

def factsOfAlex : BrainQueryRequest where
  queryType := "get_facts"
  aql := none
  bindVars := none
  embedding := none
  collection := none
  limit := none
  startVertex := some "entity_alex"
  direction := none
  depth := none
  queryText := none
  maxFacts := none
  minConfidence := none

theorem allowedScopes_salary (db : Brain) (h : db.vertices = [salaryFact] ∨ db.vertices = []) :
    plainServices.allowedScopes db "scope_support" = ["scope_root", "scope_support"] := by
  rw [BrainServices.allowedScopes, allowed_of_fetchScope]
  · rfl
  · rcases h with h | h <;> rw [h] <;> decide +kernel

theorem noninterference_of_undisturbed_otherEntity :
    let req := { factsOfAlex with startVertex := some "entity_bob" }
    plainServices.handleQueryRequest ⟨[], [], [salaryScope]⟩ (some "scope_support") req =
      plainServices.handleQueryRequest ⟨[], [salaryFact], [salaryScope]⟩ (some "scope_support") req := by
  have hallowed := allowedScopes_salary ⟨[], [salaryFact], [salaryScope]⟩ (.inl rfl)
  refine BrainServices.noninterference_of_undisturbed plainServices _ _ _ _ ?_ ⟨?_, ?_⟩ ⟨?_, ?_⟩
  all_goals rw [hallowed]
  · have hhidden : (⟨[], [salaryFact], [salaryScope]⟩ : Brain).Hidden
        ["scope_root", "scope_support"] salaryFact.id := by decide +kernel
    simp [Brain.Agrees, Brain.visible, hhidden]
  · decide +kernel
  · intro start hstart
    obtain rfl := Option.some.inj hstart
    decide +kernel
  · decide +kernel
  · intro start hstart
    obtain rfl := Option.some.inj hstart
    decide +kernel

/-- The facts of an entity are answered whatever scope they belong to. -/
theorem facts_interfere : ¬ ∀ (services : BrainServices ℕ) (db db' : Brain) (scope : String)
    (req : BrainQueryRequest), db.Agrees (services.allowedScopes db scope) db' →
      services.handleQueryRequest db (some scope) req =
        services.handleQueryRequest db' (some scope) req := by
  intro h
  have hagrees : (⟨[], [salaryFact], [salaryScope]⟩ : Brain).Agrees
      (plainServices.allowedScopes ⟨[], [salaryFact], [salaryScope]⟩ "scope_support")
      ⟨[], [], [salaryScope]⟩ := by
    have hhidden : (⟨[], [salaryFact], [salaryScope]⟩ : Brain).Hidden
        (plainServices.allowedScopes ⟨[], [salaryFact], [salaryScope]⟩ "scope_support")
        salaryFact.id := by
      rw [allowedScopes_salary _ (.inl rfl)]
      decide +kernel
    simp [Brain.Agrees, Brain.visible, hhidden]
  have hcount := congrArg BrainQueryResponse.count (h _ _ _ _ factsOfAlex hagrees)
  exact absurd hcount (by decide +kernel)

end Seidrum.Kernel
