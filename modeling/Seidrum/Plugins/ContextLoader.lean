import Seidrum.Kernel.BrainQueries
import Seidrum.Plugins.Messages

/-!
# The graph context loader

For every inbound message the loader asks the brain for similar content, for the context of the
message, for the active tasks and for the recent messages of the chat, and publishes all of it for the
router.  A query that fails leaves its part of the context empty.
-/

namespace Seidrum.Plugins

open EventBus (Value)
open Foundation Kernel

/-- What the plugins read of an inbound message of a channel. -/
structure InboundMessage where
  userId : String
  chatId : String
  text : String
  deriving DecidableEq, Repr

structure LoaderConfig where
  maxFacts : ℕ
  minConfidence : Value
  historyLength : ℕ

/-- A query of the brain as it stands in its envelope. -/
structure BrainCall where
  source : String
  correlationId : Option String
  scope : Option String
  request : BrainQueryRequest

/-- The loader's queries name neither the event they serve nor its scope. -/
def brainQuery (request : BrainQueryRequest) : BrainCall where
  source := "graph-context-loader"
  correlationId := none
  scope := none
  request := request

/-- A request of a type, the rest of it left out. -/
def plainRequest (queryType : String) : BrainQueryRequest :=
  ⟨queryType, none, none, none, none, none, none, none, none, none, none, none⟩

def vectorSearchRequest (embedding : List Value) (limit : ℕ) : BrainQueryRequest :=
  { plainRequest "vector_search" with
    embedding := some embedding
    collection := some "content"
    limit := some limit }

def getContextRequest (text : String) (maxFacts : ℕ) (minConfidence : Value) : BrainQueryRequest :=
  { plainRequest "get_context" with
    queryText := some text
    maxFacts := some maxFacts
    minConfidence := some minConfidence }

def historyAql (userId : Option String) : String :=
  "FOR c IN content FILTER c.channel_id == @chat_id " ++
    (if userId.isSome then "FILTER c.user_id == @user_id " else "") ++
    "SORT c.timestamp DESC LIMIT @limit RETURN c"

def historyVars (chatId : String) (limit : ℕ) (userId : Option String) : BindVars :=
  let vars := ((∅ : BindVars).insert "chat_id" (.string chatId)).insert "limit" (.ofNat limit)
  match userId with
  | some userId => vars.insert "user_id" (.string userId)
  | none => vars

def conversationHistoryRequest (chatId : String) (limit : ℕ) (userId : Option String) :
    BrainQueryRequest :=
  { plainRequest "aql" with
    aql := some (historyAql userId)
    bindVars := some (historyVars chatId limit userId)
    limit := some limit }

def tasksAql (userId : Option String) : String :=
  "FOR t IN tasks FILTER t.status IN ['pending', 'in_progress'] " ++
    (if userId.isSome then "FILTER t.user_id == @user_id " else "") ++
    "SORT t.priority == 'high' ? 0 : t.priority == 'medium' ? 1 : 2 RETURN t"

def activeTasksRequest (userId : Option String) : BrainQueryRequest :=
  { plainRequest "aql" with
    aql := some (tasksAql userId)
    bindVars := userId.map fun userId ↦ (∅ : BindVars).insert "user_id" (.string userId) }

namespace InboundMessage

def requestUser (inbound : InboundMessage) : Option String :=
  if inbound.userId = "" then none else some inbound.userId

/-- The queries made for a message, in order; without an embedding there is no vector search. -/
def brainCalls (config : LoaderConfig) (embedding : Option (List Value)) (inbound : InboundMessage) :
    List BrainCall :=
  (embedding.map fun embedding ↦ brainQuery (vectorSearchRequest embedding 10)).toList ++
    [brainQuery (getContextRequest inbound.text config.maxFacts config.minConfidence),
      brainQuery (activeTasksRequest inbound.requestUser),
      brainQuery (conversationHistoryRequest inbound.chatId config.historyLength inbound.requestUser)]

end InboundMessage

structure AgentContextLoaded where
  originalEvent : EventEnvelope
  entities : List Value
  facts : List Value
  similarContent : List Value
  activeTasks : List Value
  conversationHistory : List Value
  skillSnippets : List Value

def arrayItems : Value → List Value
  | .array items => items
  | _ => []

def arrayField (value : Value) (field : String) : List Value :=
  ((value.get field).map arrayItems).getD []

def assembleLoaded (originalEvent : EventEnvelope)
    (contextResp vectorResp tasksResp historyResp : Option BrainQueryResponse)
    (skillSnippets : List Value) : AgentContextLoaded where
  originalEvent := originalEvent
  entities := (contextResp.map fun resp ↦ arrayField resp.results "entities").getD []
  facts := (contextResp.map fun resp ↦ arrayField resp.results "facts").getD []
  similarContent := (vectorResp.map fun resp ↦ arrayItems resp.results).getD []
  activeTasks := (tasksResp.map fun resp ↦ arrayItems resp.results).getD []
  conversationHistory := (historyResp.map fun resp ↦ arrayItems resp.results).getD []
  skillSnippets := skillSnippets

/-- The handling of an inbound message, given how queries are answered. -/
def loadContext (config : LoaderConfig) (embedding : Option (List Value))
    (ask : BrainCall → Option BrainQueryResponse) (skillSnippets : List Value)
    (envelope : EventEnvelope) (inbound : InboundMessage) : AgentContextLoaded :=
  assembleLoaded envelope
    (ask (brainQuery (getContextRequest inbound.text config.maxFacts config.minConfidence)))
    (embedding.bind fun embedding ↦ ask (brainQuery (vectorSearchRequest embedding 10)))
    (ask (brainQuery (activeTasksRequest inbound.requestUser)))
    (ask (brainQuery (conversationHistoryRequest inbound.chatId config.historyLength
      inbound.requestUser)))
    skillSnippets

section Answer

variable {κ : Type} [LinearOrder κ] (services : BrainServices κ) (db : Brain)

/-- The brain's answer to a query. -/
def BrainCall.answer (call : BrainCall) : BrainQueryResponse :=
  services.handleQueryRequest db call.scope call.request

/-- The entities of an answer to a query for context. -/
def answeredEntities (response : BrainQueryResponse) : List Value :=
  (arrayItems response.results).filterMap (·.get "entity")

/-- The facts of an answer to a query for context. -/
def answeredFacts (response : BrainQueryResponse) : List Value :=
  (arrayItems response.results).flatMap fun item ↦ arrayField item "facts"

def RootEntity : Prop :=
  ∃ edge ∈ db.scopedTo, edge.target = "scopes/scope_root" ∧
    ∃ doc ∈ db.vertex edge.source, doc.collection = "entities"

instance : Decidable (RootEntity db) := by
  unfold RootEntity
  infer_instance

variable {services db}

omit [LinearOrder κ] in
/-- One step against the edges. -/
theorem vertex_walk_one (edges : List EdgeDocument) (start : String) :
    (walk edges .inbound 1 [] start).map (·.vertex) =
      (edges.filter (·.target = start)).map (·.source) := by
  have hsteps : walk edges .inbound 1 [] start = edges.flatMap fun edge ↦
      if edge.target = start then [⟨edge.source, edge, 1⟩] else [] := by
    rw [walk]
    apply List.flatMap_congr
    intro edge _
    by_cases htarget : edge.target = start
    · simp [EdgeDocument.follow, htarget, walk]
    · simp [EdgeDocument.follow, htarget]
  rw [hsteps]
  clear hsteps
  induction edges with
  | nil => rfl
  | cons edge rest ih => by_cases htarget : edge.target = start <;> simp [htarget, ih]

omit [LinearOrder κ] in
theorem scopeEntities_eq_nil_iff {entities : List Document}
    (h : services.scopeEntities db "scope_root" = some entities) :
    entities = [] ↔ ¬RootEntity db := by
  obtain ⟨visits, hvisits, rfl⟩ := Option.map_eq_some_iff.mp h
  have hwalk : visits = walk db.scopedTo .inbound 1 [] "scopes/scope_root" := by
    unfold BrainServices.traverse at hvisits
    split_ifs at hvisits
    exact (Option.some.inj hvisits).symm
  have hsources := vertex_walk_one db.scopedTo "scopes/scope_root"
  rw [← hwalk] at hsources
  have hdocs : visits.filterMap (fun visit ↦ db.vertex visit.vertex) =
      ((db.scopedTo.filter (·.target = "scopes/scope_root")).map (·.source)).filterMap db.vertex := by
    rw [← hsources, List.filterMap_map]
    rfl
  rw [hdocs, batch_eq_nil, List.filter_eq_nil_iff, RootEntity]
  simp only [List.mem_filterMap, List.mem_map, List.mem_filter, decide_eq_true_eq]
  constructor
  · rintro hnone ⟨edge, hedge, htarget, doc, hdoc, hcollection⟩
    exact hnone doc ⟨edge.source, ⟨edge, ⟨hedge, htarget⟩, rfl⟩, hdoc⟩ hcollection
  · rintro hnone doc ⟨_, ⟨edge, ⟨hedge, htarget⟩, rfl⟩, hdoc⟩ hcollection
    exact hnone ⟨edge, hedge, htarget, doc, hdoc, hcollection⟩

/-- What a successful answer to the loader's query for context holds. -/
theorem answer_getContext (text : String) (maxFacts : ℕ) (minConfidence : Value)
    {entities : List Document} (h : services.scopeEntities db "scope_root" = some entities) :
    ((brainQuery (getContextRequest text maxFacts minConfidence)).answer services db).results =
      .array (entities.map fun entity ↦ .object [("entity", entity.value), ("facts", .array
        ((services.currentFacts db entity.id minConfidence maxFacts).map Document.value))]) := by
  have hhandled : services.handleGetContext db (getContextRequest text maxFacts minConfidence) none =
      .ok (.array (entities.map fun entity ↦ .object [("entity", entity.value), ("facts", .array
        ((services.currentFacts db entity.id minConfidence maxFacts).map Document.value))])) := by
    rw [BrainServices.handleGetContext, Option.getD_none, h]
    rfl
  have htype : QueryType.ofString
      (getContextRequest text maxFacts minConfidence).queryType = .getContext := rfl
  simp only [BrainCall.answer, BrainServices.handleQueryRequest, brainQuery, Option.map_none,
    BrainServices.handleQuery, htype, hhandled, BrainQueryResponse.ofResult]

/-- The published context is that of the brain's answer exactly if the answer has no entity. -/
theorem context_exact_iff (config : LoaderConfig) (embedding : Option (List Value))
    {ask : BrainCall → Option BrainQueryResponse} (skillSnippets : List Value)
    (envelope : EventEnvelope) (inbound : InboundMessage)
    (hask : ask (brainQuery (getContextRequest inbound.text config.maxFacts config.minConfidence)) =
      some ((brainQuery (getContextRequest inbound.text config.maxFacts
        config.minConfidence)).answer services db))
    (hsuccess : ∀ error, services.handleGetContext db
      (getContextRequest inbound.text config.maxFacts config.minConfidence) none ≠ .error error) :
    ((loadContext config embedding ask skillSnippets envelope inbound).entities =
        answeredEntities ((brainQuery (getContextRequest inbound.text config.maxFacts
          config.minConfidence)).answer services db) ∧
      (loadContext config embedding ask skillSnippets envelope inbound).facts =
        answeredFacts ((brainQuery (getContextRequest inbound.text config.maxFacts
          config.minConfidence)).answer services db)) ↔ ¬RootEntity db := by
  obtain ⟨entities, hentities⟩ : ∃ entities,
      services.scopeEntities db "scope_root" = some entities := by
    cases hfound : services.scopeEntities db "scope_root" with
    | none =>
      refine absurd ?_ (hsuccess "get_context query failed")
      rw [BrainServices.handleGetContext, Option.getD_none, hfound]
    | some entities => exact ⟨entities, rfl⟩
  have hanswer := answer_getContext inbound.text config.maxFacts config.minConfidence
    hentities
  rw [← scopeEntities_eq_nil_iff hentities]
  -- an array has no fields, so nothing is read from the answer
  have hentitiesRead : (loadContext config embedding ask skillSnippets envelope inbound).entities =
      [] := by
    simp only [loadContext, assembleLoaded, hask, Option.map_some, hanswer]
    rfl
  have hfactsRead : (loadContext config embedding ask skillSnippets envelope inbound).facts = [] := by
    simp only [loadContext, assembleLoaded, hask, Option.map_some, hanswer]
    rfl
  rw [hentitiesRead, hfactsRead, answeredEntities, answeredFacts, hanswer]
  constructor
  · rintro ⟨hnone, -⟩
    cases entities with
    | nil => rfl
    | cons entity rest => simp [arrayItems, Value.get] at hnone
  · rintro rfl
    exact ⟨rfl, rfl⟩

end Answer

/-- Services in which all documents are equally similar and no text in the database's language runs. -/
def listingServices : BrainServices ℕ where
  rank _ := 0
  cosineSimilarity _ _ := .number "1"
  execute _ _ _ := none
  accepts _ _ := true
  embed _ := none
  reading := untilQuery
  fetchFails _ := false

def scopingEdge (source target : String) : EdgeDocument where
  collection := "scoped_to"
  key := source ++ target
  fields := []
  source := source
  target := target

def sampleLoader : LoaderConfig := ⟨50, .number "0.5", 20⟩

def sampleInbound : InboundMessage := ⟨"alex", "42", "hello"⟩

def sampleContextCall : BrainCall :=
  brainQuery (getContextRequest sampleInbound.text sampleLoader.maxFacts sampleLoader.minConfidence)

/-- An entity of another scope. -/
def teamBrain : Brain :=
  ⟨[], [⟨"entities", "entity_alex", []⟩], [scopingEdge "entities/entity_alex" "scopes/scope_team"]⟩

theorem context_exact_elsewhere :
    let loaded := loadContext sampleLoader none
      (fun call ↦ some (call.answer listingServices teamBrain)) [] .sample sampleInbound
    loaded.entities = answeredEntities (sampleContextCall.answer listingServices teamBrain) ∧
      loaded.facts = answeredFacts (sampleContextCall.answer listingServices teamBrain) := by
  refine (context_exact_iff sampleLoader none [] .sample sampleInbound rfl ?_).mpr
    (by decide +kernel)
  intro error herror
  have hok : ∃ results,
      listingServices.handleGetContext teamBrain sampleContextCall.request none = .ok results :=
    ⟨_, rfl⟩
  obtain ⟨results, hok⟩ := hok
  rw [sampleContextCall, brainQuery] at hok
  rw [hok] at herror
  cases herror

/-- One entity in the root scope, which the brain answers with and the loader does not find. -/
def rootBrain : Brain :=
  ⟨[], [⟨"entities", "entity_alex", []⟩], [scopingEdge "entities/entity_alex" "scopes/scope_root"]⟩

theorem entity_not_loaded :
    (∃ results, listingServices.handleGetContext rootBrain sampleContextCall.request none = .ok results) ∧
      (loadContext sampleLoader none (fun call ↦ some (call.answer listingServices rootBrain)) []
          .sample sampleInbound).entities ≠
        answeredEntities (sampleContextCall.answer listingServices rootBrain) := by
  refine ⟨⟨_, rfl⟩, fun hsame ↦ ?_⟩
  exact absurd (congrArg List.length hsame) (by decide +kernel)

end Seidrum.Plugins
