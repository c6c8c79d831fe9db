import Mathlib.Data.List.AList
import Seidrum.EventBus.Transport.RemotePattern
import Seidrum.Foundation.StableSort
import Seidrum.Kernel.Scopes

/-!
# Queries of the brain

A query names its type: a text in the database's language, a search for similar documents, alone or
together with what the graph links to the matches, a walk of the graph, the current facts of an
entity, or the context of a scope.  The scope of the request's envelope decides what is read, in a way
of its own for every type.
-/

namespace Seidrum.Kernel

open EventBus (Value)
open Foundation

abbrev BindVars := AList fun _ : String ↦ Value

inductive QueryType
  | aql
  | vectorSearch
  | hybridSearch
  | graphTraverse
  | getFacts
  | getContext
  | unknown (name : String)
  deriving DecidableEq, Repr

def QueryType.ofString : String → QueryType
  | "aql" => aql
  | "vector_search" => vectorSearch
  | "hybrid_search" => hybridSearch
  | "graph_traverse" => graphTraverse
  | "get_facts" => getFacts
  | "get_context" => getContext
  | other => unknown other

structure BrainQueryRequest where
  queryType : String
  aql : Option String
  bindVars : Option BindVars
  embedding : Option (List Value)
  collection : Option String
  limit : Option ℕ
  startVertex : Option String
  direction : Option String
  depth : Option ℕ
  queryText : Option String
  maxFacts : Option ℕ
  minConfidence : Option Value

structure BrainQueryResponse where
  results : Value
  count : ℕ
  scopesApplied : List String

def BrainQueryResponse.ofResult (scopesApplied : List String) :
    Except String Value → BrainQueryResponse
  | .ok (.array values) => ⟨.array values, values.length, scopesApplied⟩
  | .ok value => ⟨value, 1, scopesApplied⟩
  | .error error => ⟨.object [("error", .string error)], 0, scopesApplied⟩

/-- What the handlers rely on: the order of values, the similarity of vectors and the meaning of a text
in the database's language (none when it fails), which traversals the database accepts, the embedding
of texts, how the server reads paths, and the scopes whose documents cannot be fetched. -/
structure BrainServices (κ : Type) where
  rank : Value → κ
  cosineSimilarity : Value → Value → Value
  execute : String → BindVars → Brain → Option (List Value)
  accepts : ℕ → String → Bool
  embed : String → Option (List Value)
  reading : PathReading
  fetchFails : String → Bool

inductive Direction
  | outbound
  | inbound
  | any
  deriving DecidableEq, Repr

def Direction.ofString : String → Direction
  | "outbound" => .outbound
  | "inbound" => .inbound
  | _ => .any

/-- The other end of an edge at a vertex, when the edge may be walked from there. -/
def EdgeDocument.follow (edge : EdgeDocument) (direction : Direction) (vertex : String) :
    Option String :=
  if edge.source = vertex ∧ direction ≠ .inbound then some edge.target
  else if edge.target = vertex ∧ direction ≠ .outbound then some edge.source
  else none

/-- A vertex met on a walk, with the edge that led there. -/
structure Visit where
  vertex : String
  edge : EdgeDocument
  depth : ℕ

/-- All walks from a vertex up to a depth, each with its last edge; no walk takes an edge twice. -/
def walk (edges : List EdgeDocument) (direction : Direction) :
    ℕ → List String → String → List Visit
  | 0, _, _ => []
  | depth + 1, used, vertex => edges.flatMap fun edge ↦
      match edge.follow direction vertex with
      | some next =>
          if edge.id ∈ used then []
          else ⟨next, edge, used.length + 1⟩ :: walk edges direction depth (edge.id :: used) next
      | none => []

/-- The document of a vertex; an edge may lead to none. -/
def Brain.vertexValue (db : Brain) (id : String) : Value :=
  ((db.vertex id).map Document.value).getD .null

/-! ## Handlers -/

/-- The text without whitespace around it and semicolons after it. -/
def originalQuery (aql : String) : String :=
  String.ofList ((EventBus.trim aql).toList.reverse.dropWhile (· = ';')).reverse

/-- What the characters of a text are part of. -/
inductive AqlPart
  | code
  | slash
  | quoted (mark : Char)
  | escaped (mark : Char)
  | lineComment
  | blockComment
  | star

/-- One more character; the count is that of open parentheses. -/
def AqlPart.next (count : ℕ) : AqlPart → Char → Option (ℕ × AqlPart)
  | slash, '/' => some (count, lineComment)
  | slash, '*' => some (count, blockComment)
  | code, c | slash, c =>
      if c = '(' then some (count + 1, code)
      else if c = ')' then if count = 0 then none else some (count - 1, code)
      else if c = '/' then some (count, slash)
      else if c ∈ ['"', '\'', '\x60', '´'] then some (count, quoted c)
      else some (count, code)
  | quoted mark, c =>
      some (count, if c = mark then code else if c = '\\' then escaped mark else quoted mark)
  | escaped mark, _ => some (count, quoted mark)
  | lineComment, c => some (count, if c = '\n' then code else lineComment)
  | blockComment, c => some (count, if c = '*' then star else blockComment)
  | star, c => some (count, if c = '/' then code else if c = '*' then star else blockComment)

/-- Every parenthesis, quotation and comment of the text ends in it, and none that it did not begin. -/
def selfContained (aql : String) : Bool :=
  match aql.toList.foldlM (fun (count, part) ↦ AqlPart.next count part) (0, AqlPart.code) with
  | some (0, .code) | some (0, .slash) | some (0, .lineComment) => true
  | _ => false

/-- The text with the filter around it. -/
def wrappedAql (original : String) : String :=
  "LET __scope_allowed = @__scope_allowed_scopes" ++
    "\nLET __scope_candidates = (" ++
    "\n" ++ original ++
    "\n)" ++
    "\nFOR __scope_doc IN __scope_candidates" ++
    "\n    LET __scope_edges = (" ++
    "\n        FOR __se IN scoped_to" ++
    "\n            FILTER __se._from == __scope_doc._id" ++
    "\n            RETURN __se._to" ++
    "\n    )" ++
    "\n    FILTER LENGTH(__scope_edges) == 0" ++
    "\n        OR LENGTH(INTERSECTION(__scope_edges, __scope_allowed)) > 0" ++
    "\n    RETURN __scope_doc"

/-- What a candidate is scoped to, by its `_id`; nothing when it has none. -/
def Brain.scopeEdges (db : Brain) (candidate : Value) : List String :=
  (((candidate.get "_id").bind Value.asStr).map db.scopesOf).getD []

/-- Does the filter around a query keep a candidate? -/
def Brain.Keeps (db : Brain) (allowed : List String) (candidate : Value) : Prop :=
  db.scopeEdges candidate = [] ∨ ∃ scope ∈ db.scopeEdges candidate, scope ∈ allowed.map scopeId

instance (db : Brain) (allowed : List String) (candidate : Value) :
    Decidable (db.Keeps allowed candidate) :=
  inferInstanceAs (Decidable (_ ∨ _))

def scopeVars (bindVars : BindVars) (allowed : List String) : BindVars :=
  bindVars.insert "__scope_allowed_scopes" (.array ((allowed.map scopeId).map .string))

/-- A document is among the search's when the key of something it is scoped to is allowed. -/
def Brain.Found (db : Brain) (allowed : List String) (id : String) : Prop :=
  ∃ target ∈ db.scopesOf id, ∃ scope ∈ db.vertex target, scope.key ∈ allowed

instance (db : Brain) (allowed : List String) (id : String) : Decidable (db.Found allowed id) :=
  inferInstanceAs (Decidable (∃ target ∈ _, ∃ scope ∈ _, _))

/-- The text of the search; the name of the collection is put in as it stands. -/
def vectorAql (collection : String) (filtered : Bool) : String :=
  "FOR doc IN " ++ collection ++
    "\n                LET distance = COSINE_SIMILARITY(doc.embedding, @query_embedding)" ++
    "\n                FILTER distance != null" ++
    (if filtered then
      "\n                LET doc_scopes = (" ++
        "\n                    FOR s IN 1..1 OUTBOUND doc._id scoped_to" ++
        "\n                        RETURN s._key" ++
        "\n                )" ++
        "\n                FILTER LENGTH(INTERSECTION(doc_scopes, @allowed_scopes)) > 0"
    else "") ++
    "\n                SORT distance DESC" ++
    "\n                LIMIT @limit" ++
    "\n                RETURN MERGE(doc, { _similarity: distance })"

def vectorVars (embedding : List Value) (limit : ℕ) (scopes : Option (List String)) : BindVars :=
  let vars := ((∅ : BindVars).insert "query_embedding" (.array embedding)).insert "limit" (.ofNat limit)
  match scopes with
  | some allowed => vars.insert "allowed_scopes" (.array (allowed.map .string))
  | none => vars

/-- A document together with its similarity. -/
structure VectorMatch where
  doc : Document
  distance : Value

/-- The document of a match with its similarity merged in. -/
def VectorMatch.merged (found : VectorMatch) : Value :=
  .object (("_id", .string found.doc.id) :: ("_key", .string found.doc.key) ::
    ("_similarity", found.distance) :: found.doc.fields.filter (·.1 ≠ "_similarity"))

def VectorMatch.item (found : VectorMatch) : Value :=
  .object [("distance", found.distance), ("doc", found.doc.value), ("source", .string "vector_match")]

def Brain.neighborItem (db : Brain) (visit : Visit) : Value :=
  .object [("depth", .ofNat visit.depth), ("edge", visit.edge.value),
    ("source", .string "graph_neighbor"), ("vertex", db.vertexValue visit.vertex)]

/-- The results of a hybrid search so far, and the keys they stand under. -/
structure Merged where
  results : List Value
  seenKeys : List String

namespace Merged

def push (merged : Merged) (key : String) (item : Value) : Merged where
  results := merged.results ++ [item]
  seenKeys := key :: merged.seenKeys

def keyOf (item : Value) (field : String) : Option String :=
  ((item.get field).bind (·.get "_key")).bind Value.asStr

def addNeighbor (merged : Merged) (neighbor : Value) : Merged :=
  match keyOf neighbor "vertex" with
  | some key => if key ∈ merged.seenKeys then merged else merged.push key neighbor
  | none => merged

/-- A match, and what the graph links to it. -/
def addMatch (neighbors : String → List Value) (merged : Merged) (item : Value) : Merged :=
  match keyOf item "doc" with
  | some key => (neighbors key).foldl addNeighbor (merged.push key item)
  | none => merged

end Merged

/-- The collection a hybrid search reads. -/
def safeCollection (collection : String) : String :=
  if collection ∈ ["content", "entities", "facts", "tasks", "skills"] then collection else "content"

/-- An entity is named by its identifier or by its key. -/
def entityId (startVertex : String) : String :=
  if '/' ∈ startVertex.toList then startVertex else "entities/" ++ startVertex

namespace BrainServices

variable {κ : Type} [LinearOrder κ] (services : BrainServices κ) (db : Brain)

/-- The walks of the database, from a start that it accepts. -/
def traverse (edges : List EdgeDocument) (direction : Direction) (depth : ℕ) (start : String) :
    Option (List Visit) :=
  if services.accepts depth start then some (walk edges direction depth [] start) else none

/-- The original query as a subquery of the filter on its candidates; one that is not contained in the
subquery may be any text. -/
def injectScopeFilter (aql : String) (bindVars : BindVars) (allowed : List String) :
    Option (List Value) :=
  let original := originalQuery aql
  if allowed = [] then services.execute aql bindVars db
  else if selfContained original then
    (services.execute original (scopeVars bindVars allowed) db).map (·.filter (db.Keeps allowed ·))
  else services.execute (wrappedAql original) (scopeVars bindVars allowed) db

def handleAqlQuery (req : BrainQueryRequest) (scopes : Option (List String)) : Except String Value :=
  match req.aql with
  | none => .error "aql field is required for query_type 'aql'"
  | some aql =>
      let bindVars := req.bindVars.getD ∅
      let result := match scopes with
        | some allowed => services.injectScopeFilter db aql bindVars allowed
        | none => services.execute aql bindVars db
      match result with
      | some values => .ok (.array (batch values))
      | none => .error "AQL execution failed"

def queryEmbedding (req : BrainQueryRequest) : Option (List Value) :=
  req.embedding <|> req.queryText.bind services.embed

def similarDocuments (collection : String) (embedding : List Value) : List VectorMatch :=
  ((db.collection collection).map fun doc ↦
    ⟨doc, services.cosineSimilarity (doc.field "embedding") (.array embedding)⟩).filter
      fun found ↦ !found.distance.isNull

/-- The most similar documents of a collection, among those the scopes allow. -/
def vectorMatches (collection : String) (embedding : List Value) (limit : ℕ)
    (scopes : Option (List String)) : List VectorMatch :=
  let similar := services.similarDocuments db collection embedding
  let found := match scopes with
    | some allowed => similar.filter (db.Found allowed ·.doc.id)
    | none => similar
  topByKey (fun found ↦ services.rank found.distance) (min limit firstBatch) found

def handleVectorSearch (req : BrainQueryRequest) (scopes : Option (List String)) : Value :=
  let collection := req.collection.getD "content"
  let limit := req.limit.getD 10
  match services.queryEmbedding req with
  | none => .array []
  | some embedding =>
      if collection ∈ vertexCollections then
        .array ((services.vectorMatches db collection embedding limit scopes).map VectorMatch.merged)
      else
        .array (batch ((services.execute (vectorAql collection scopes.isSome)
          (vectorVars embedding limit scopes) db).getD []))

/-- What the graph links to a document. -/
def neighbors (depth : ℕ) (start : String) : List Visit :=
  batch ((services.traverse db.edges .any depth start).getD [])

def handleHybridSearch (req : BrainQueryRequest) (scopes : Option (List String)) : Value :=
  let collection := safeCollection (req.collection.getD "content")
  let vectorLimit := req.limit.getD 5
  let graphDepth := req.depth.getD 2
  match services.queryEmbedding req with
  | none => .array []
  | some embedding =>
      let items := (services.vectorMatches db collection embedding vectorLimit scopes).map
        VectorMatch.item
      let neighbors := fun key : String ↦
        (services.neighbors db graphDepth (collection ++ "/" ++ key)).map db.neighborItem
      .array (items.foldl (Merged.addMatch neighbors) ⟨[], []⟩).results

def handleGraphTraverse (req : BrainQueryRequest) : Except String Value :=
  match req.startVertex with
  | none => .error "start_vertex is required for query_type 'graph_traverse'"
  | some start =>
      let direction := Direction.ofString (req.direction.getD "any")
      match services.traverse db.edges direction (req.depth.getD 2) start with
      | some visits => .ok (.array ((batch visits).map fun visit ↦
          .object [("edge", visit.edge.value), ("vertex", db.vertexValue visit.vertex)]))
      | none => .error "graph traversal failed"

/-- The current facts of a subject, the most confident ones first. -/
def currentFacts (subject : String) (minConfidence : Value) (limit : ℕ) : List Document :=
  topByKey (fun fact ↦ services.rank (fact.field "confidence")) limit
    ((db.collection "facts").filter fun fact ↦
      (fact.field "subject").asStr = some subject ∧ (fact.field "valid_to").isNull ∧
        (fact.field "superseded_by").isNull ∧
        services.rank minConfidence ≤ services.rank (fact.field "confidence"))

def handleGetFacts (req : BrainQueryRequest) : Except String Value :=
  match req.startVertex with
  | none => .error "start_vertex is required for query_type 'get_facts'"
  | some startVertex =>
      let minConfidence := req.minConfidence.getD (.number "0.5")
      .ok (.array ((services.currentFacts db (entityId startVertex) minConfidence
        (min (req.limit.getD 50) firstBatch)).map Document.value))

def scopeEntities (scope : String) : Option (List Document) :=
  (services.traverse db.scopedTo .inbound 1 (scopeId scope)).map fun visits ↦
    batch ((visits.filterMap fun visit ↦ db.vertex visit.vertex).filter (·.collection = "entities"))

def handleGetContext (req : BrainQueryRequest) (scope : Option String) : Except String Value :=
  let maxFacts := req.maxFacts.getD 50
  let minConfidence := req.minConfidence.getD (.number "0.5")
  match services.scopeEntities db (scope.getD "scope_root") with
  | some entities => .ok (.array (entities.map fun entity ↦
      .object [("entity", entity.value), ("facts", .array
        ((services.currentFacts db entity.id minConfidence maxFacts).map Document.value))]))
  | none => .error "get_context query failed"

def handleQuery (req : BrainQueryRequest) (scope : Option String) (scopes : Option (List String)) :
    Except String Value :=
  match QueryType.ofString req.queryType with
  | .aql => services.handleAqlQuery db req scopes
  | .vectorSearch => .ok (services.handleVectorSearch db req scopes)
  | .hybridSearch => .ok (services.handleHybridSearch db req scopes)
  | .graphTraverse => services.handleGraphTraverse db req
  | .getFacts => services.handleGetFacts db req
  | .getContext => services.handleGetContext db req scope
  | .unknown other => .ok (.object [("error", .string ("unknown query_type: " ++ other))])

/-- The scopes the envelope's scope gives access to. -/
def allowedScopes (scope : String) : List String :=
  (resolveScopes db.vertices services.reading services.fetchFails scope []).allowed

def handleQueryRequest (scope : Option String) (req : BrainQueryRequest) : BrainQueryResponse :=
  let scopes := scope.map (services.allowedScopes db)
  .ofResult (scopes.getD []) (services.handleQuery db req scope scopes)

end BrainServices

end Seidrum.Kernel
