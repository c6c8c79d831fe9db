import Mathlib.Data.List.Find
import Seidrum.Foundation.Worklist
import Seidrum.Kernel.DatabaseClient

/-!
# Scopes of the brain

An agent may read what belongs to the scopes it can reach from its own: the parents of a scope and the
scopes its rules name.  Edges of the collection `scoped_to` assign documents to scopes; a document
without one is visible to all.
-/

namespace Seidrum.Kernel

open EventBus (Value)
open Foundation

structure EdgeDocument extends Document where
  source : String
  target : String

def EdgeDocument.value (edge : EdgeDocument) : Value :=
  .object (("_from", .string edge.source) :: ("_id", .string edge.id) ::
    ("_key", .string edge.key) :: ("_to", .string edge.target) :: edge.fields)

/-- The graph: what documents are scoped to (the scopes and the users), the other documents, and the
edges between all of them. -/
structure Brain where
  scopes : List Document
  documents : List Document
  edges : List EdgeDocument

def vertexCollections : List String :=
  ["entities", "content", "facts", "scopes", "tasks", "event_types", "capabilities",
    "plugin_storage", "conversations", "skills", "users", "audit_log", "api_keys"]

namespace Brain

variable (db : Brain)

def vertices : List Document := db.scopes ++ db.documents

def collection (name : String) : List Document := db.vertices.filter (·.collection = name)

/-- A document by its identifier. -/
def vertex (id : String) : Option Document := db.vertices.find? (·.id = id)

def scopedTo : List EdgeDocument := db.edges.filter (·.collection = "scoped_to")

/-- The identifiers of what a document is scoped to. -/
def scopesOf (id : String) : List String := (db.scopedTo.filter (·.source = id)).map (·.target)

end Brain

/-- The scopes a scope leads to: its parent and those its rules let it read. -/
def Document.scopeLinks (doc : Document) : List String :=
  let parent := ((doc.value.get "parent_scope").bind Value.asStr).toList.filter (· ≠ "")
  let crossScopeRead :=
    match (doc.value.get "access_rules").bind (·.get "cross_scope_read") with
    | some (.array entries) => entries.filterMap Value.asStr
    | _ => []
  parent ++ crossScopeRead

section

variable (documents : List Document) (reading : PathReading)

def fetchScope (scopeKey : String) : Option Document := getDocument documents reading "scopes" scopeKey

/-- What the walk goes on to from a scope: nothing when its document is not found or not fetched. -/
def scopeLinks (fetchFails : String → Bool) : Links String where
  next scopeKey :=
    if fetchFails scopeKey then []
    else ((fetchScope documents reading scopeKey).map Document.scopeLinks).getD []
  targets := documents.flatMap Document.scopeLinks
  mem_targets scopeKey other hother := by
    split at hother
    · exact absurd hother List.not_mem_nil
    · cases hfetch : fetchScope documents reading scopeKey with
      | none => simp [hfetch] at hother
      | some doc =>
        obtain ⟨hfound, -⟩ := Option.filter_eq_some_iff.mp hfetch
        exact List.mem_flatMap.mpr ⟨doc, List.mem_of_find?_eq_some hfound, by simpa [hfetch] using hother⟩

structure ResolvedScopes where
  allowed : List String
  primary : String

def resolveScopes (fetchFails : String → Bool) (primaryScope : String)
    (additionalScopes : List String) : ResolvedScopes where
  allowed := ((scopeLinks documents reading fetchFails).visit
    (primaryScope :: additionalScopes).reverse []).insert "scope_root"
  primary := primaryScope

end

variable {documents : List Document} {reading : PathReading} {fetchFails : String → Bool}
  {primaryScope : String} {additionalScopes seeds : List String} {scopeKey other : String}

theorem mem_allowed_iff :
    scopeKey ∈ (resolveScopes documents reading fetchFails primaryScope additionalScopes).allowed ↔
      scopeKey = "scope_root" ∨ ∃ seed ∈ primaryScope :: additionalScopes,
        Relation.ReflTransGen (scopeLinks documents reading fetchFails).Leads seed scopeKey := by
  simp only [resolveScopes, List.mem_insert_iff, Links.mem_visit_iff, List.mem_reverse]

theorem primaryScope_mem_allowed : primaryScope ∈
    (resolveScopes documents reading fetchFails primaryScope additionalScopes).allowed :=
  mem_allowed_iff.mpr (.inr ⟨primaryScope, List.mem_cons_self, .refl⟩)

theorem allowed_of_fetchScope (hfetch : fetchScope documents reading primaryScope = none) :
    (resolveScopes documents reading fetchFails primaryScope []).allowed =
      [primaryScope].insert "scope_root" := by
  rw [resolveScopes, List.reverse_singleton, Links.visit_singleton (by simp [scopeLinks, hfetch])]

/-- The document names another scope as its parent, or among those its rules let it read. -/
def Document.NamesScope (doc : Document) (other : String) : Prop :=
  (doc.value.get "parent_scope" = some (.string other) ∧ other ≠ "") ∨
    ∃ rules entries, doc.value.get "access_rules" = some rules ∧
      rules.get "cross_scope_read" = some (.array entries) ∧ .string other ∈ entries

/-- The document that has the key of a scope names another one. -/
def ScopeLink (documents : List Document) (scopeKey other : String) : Prop :=
  ∃ doc ∈ documents.find? (·.id = "scopes/" ++ scopeKey), doc.NamesScope other

/-- What the links lead to from the seeds, and the root. -/
def ScopeClosure (documents : List Document) (seeds : List String) (scopeKey : String) : Prop :=
  scopeKey = "scope_root" ∨ ∃ seed ∈ seeds, Relation.ReflTransGen (ScopeLink documents) seed scopeKey

/-- The document that has the key of a scope, and no other, is read for it, and is not marked. -/
structure ReadsOwn (documents : List Document) (reading : PathReading) (scopeKey : String) : Prop where
  read_iff : ∀ doc ∈ documents,
    reading ("scopes/" ++ scopeKey) = some doc.id ↔ doc.id = "scopes/" ++ scopeKey
  unmarked : ∀ doc ∈ documents, doc.id = "scopes/" ++ scopeKey → ¬ doc.marked

theorem asStr_eq_some_iff {value : Value} {text : String} :
    value.asStr = some text ↔ value = .string text := by
  cases value <;> simp [Value.asStr]

theorem Document.mem_scopeLinks_iff {doc : Document} : other ∈ doc.scopeLinks ↔ doc.NamesScope other := by
  simp only [scopeLinks, NamesScope, List.mem_append, List.mem_filter, Option.mem_toList,
    Option.bind_eq_some_iff, asStr_eq_some_iff, decide_eq_true_eq]
  refine or_congr ?_ ?_
  · simp
  · split
    · rename_i entries hentries
      obtain ⟨rules, hrules, hread⟩ := Option.bind_eq_some_iff.mp hentries
      simp [List.mem_filterMap, asStr_eq_some_iff, hrules, hread]
    · rename_i hnone
      refine iff_of_false List.not_mem_nil ?_
      rintro ⟨rules, entries, hrules, hread, -⟩
      exact hnone entries (Option.bind_eq_some_iff.mpr ⟨rules, hrules, hread⟩)

theorem ReadsOwn.fetchScope_eq (h : ReadsOwn documents reading scopeKey) :
    fetchScope documents reading scopeKey = documents.find? (·.id = "scopes/" ++ scopeKey) := by
  have hfound : (documents.find? fun doc ↦ reading ("scopes" ++ "/" ++ scopeKey) = some doc.id) =
      documents.find? (·.id = "scopes/" ++ scopeKey) :=
    List.find?_congr fun doc hdoc ↦ decide_eq_decide.mpr (h.read_iff doc hdoc)
  rw [fetchScope, getDocument, hfound]
  cases hown : documents.find? (·.id = "scopes/" ++ scopeKey) with
  | none => rfl
  | some doc =>
    have hid : doc.id = "scopes/" ++ scopeKey := by simpa using List.find?_some hown
    have hunmarked := h.unmarked doc (List.mem_of_find?_eq_some hown) hid
    exact Option.filter_some_pos (decide_eq_true hunmarked)

theorem ReadsOwn.leads_iff (h : ReadsOwn documents reading scopeKey) :
    (scopeLinks documents reading fetchFails).Leads scopeKey other ↔
      fetchFails scopeKey = false ∧ ScopeLink documents scopeKey other := by
  unfold Links.Leads ScopeLink
  simp only [scopeLinks, h.fetchScope_eq]
  split_ifs with hfails
  · simp [hfails]
  · cases documents.find? (·.id = "scopes/" ++ scopeKey) with
    | none => simp
    | some doc => simp [hfails, Document.mem_scopeLinks_iff]

/-- The allowed scopes are the closure of the seeds under the links between scopes, whatever the graph,
if for every scope of the closure its own document is read.  When documents cannot be fetched, they are
part of it, and the seeds and the root are among them. -/
theorem resolveScopes_closure (documents : List Document) (reading : PathReading)
    (primaryScope : String) (additionalScopes : List String)
    (hown : ∀ scopeKey, ScopeClosure documents (primaryScope :: additionalScopes) scopeKey →
      ReadsOwn documents reading scopeKey) :
    (∀ scopeKey, scopeKey ∈
        (resolveScopes documents reading (fun _ ↦ false) primaryScope additionalScopes).allowed ↔
      ScopeClosure documents (primaryScope :: additionalScopes) scopeKey) ∧
    ∀ fetchFails : String → Bool,
      let allowed := (resolveScopes documents reading fetchFails primaryScope additionalScopes).allowed
      (∀ scopeKey ∈ allowed, ScopeClosure documents (primaryScope :: additionalScopes) scopeKey) ∧
        "scope_root" ∈ allowed ∧ ∀ seed ∈ primaryScope :: additionalScopes, seed ∈ allowed := by
  have hreached (fetchFails : String → Bool) {seed other : String}
      (hseed : seed ∈ primaryScope :: additionalScopes)
      (hpath : Relation.ReflTransGen (scopeLinks documents reading fetchFails).Leads seed other) :
      Relation.ReflTransGen (ScopeLink documents) seed other := by
    induction hpath with
    | refl => exact .refl
    | tail _ hlink ih => exact ih.tail ((hown _ (.inr ⟨seed, hseed, ih⟩)).leads_iff.mp hlink).2
  constructor
  · intro scopeKey
    rw [mem_allowed_iff, ScopeClosure]
    refine or_congr_right (exists_congr fun seed ↦ and_congr_right fun hseed ↦ ⟨hreached _ hseed, ?_⟩)
    intro hpath
    induction hpath with
    | refl => exact .refl
    | tail hbefore hlink ih =>
      exact ih.tail ((hown _ (.inr ⟨seed, hseed, hbefore⟩)).leads_iff.mpr ⟨rfl, hlink⟩)
  · intro fetchFails
    refine ⟨fun scopeKey hmem ↦ ?_, mem_allowed_iff.mpr (.inl rfl), fun seed hseed ↦ ?_⟩
    · rcases mem_allowed_iff.mp hmem with hroot | ⟨seed, hseed, hpath⟩
      · exact .inl hroot
      · exact .inr ⟨seed, hseed, hreached fetchFails hseed hpath⟩
    · exact mem_allowed_iff.mpr (.inr ⟨seed, hseed, .refl⟩)

def payrollScope : Document :=
  ⟨"scopes", "scope_payroll", [("parent_scope", .string "scope_board")]⟩

theorem resolveScopes_closure_payroll :
    (∀ scopeKey, scopeKey ∈
        (resolveScopes [payrollScope] some (fun _ ↦ false) "scope_payroll" []).allowed ↔
      ScopeClosure [payrollScope] ["scope_payroll"] scopeKey) ∧
    ∀ fetchFails : String → Bool,
      let allowed := (resolveScopes [payrollScope] some fetchFails "scope_payroll" []).allowed
      (∀ scopeKey ∈ allowed, ScopeClosure [payrollScope] ["scope_payroll"] scopeKey) ∧
        "scope_root" ∈ allowed ∧ ∀ seed ∈ ["scope_payroll"], seed ∈ allowed :=
  resolveScopes_closure [payrollScope] some "scope_payroll" [] fun _ _ ↦
    ⟨fun _ _ ↦ by rw [Option.some_inj, eq_comm], by simp [payrollScope, Document.marked, Document.value,
      Value.get]⟩

/-- What follows a question mark is not part of the key: another scope is read, and its links followed. -/
theorem resolveScopes_widens :
    ¬ ∀ scopeKey ∈ (resolveScopes [payrollScope] untilQuery (fun _ ↦ false) "scope_payroll?x" []).allowed,
      ScopeClosure [payrollScope] ["scope_payroll?x"] scopeKey := by
  intro hsubset
  have hboard : "scope_board" ∈
      (resolveScopes [payrollScope] untilQuery (fun _ ↦ false) "scope_payroll?x" []).allowed :=
    mem_allowed_iff.mpr (.inr ⟨"scope_payroll?x", List.mem_cons_self, .single (by
      unfold Links.Leads
      decide +kernel)⟩)
  rcases hsubset _ hboard with hroot | ⟨seed, hseed, hpath⟩
  · exact absurd hroot (by decide)
  · obtain rfl := List.mem_singleton.mp hseed
    have hnone : [payrollScope].find? (·.id = "scopes/" ++ "scope_payroll?x") = none := by
      decide +kernel
    rcases hpath.cases_head with hsame | ⟨next, ⟨doc, hdoc, -⟩, -⟩
    · exact absurd hsame (by decide)
    · rw [hnone] at hdoc
      exact absurd hdoc (by simp)

/-- The identifier of a scope; a scope may be named by it. -/
def scopeId (scope : String) : String := if '/' ∈ scope.toList then scope else "scopes/" ++ scope

namespace Brain

variable (db : Brain) (allowed : List String)

/-- Is what has the identifier in no scope, or in an allowed one? -/
def InScope (id : String) : Prop :=
  db.scopesOf id = [] ∨ ∃ scope ∈ db.scopesOf id, scope ∈ allowed.map scopeId

instance (id : String) : Decidable (db.InScope allowed id) := inferInstanceAs (Decidable (_ ∨ _))

/-- A document scoped only to scopes outside the allowed ones. -/
def Hidden (id : String) : Prop := ¬ db.InScope allowed id ∧ ∀ scope ∈ db.scopes, scope.id ≠ id

instance (id : String) : Decidable (db.Hidden allowed id) := inferInstanceAs (Decidable (_ ∧ _))

/-- The brain without the hidden documents. -/
def visible : Brain := { db with documents := db.documents.filter (¬ db.Hidden allowed ·.id) }

/-- The brains agree on every document that is in an allowed scope or in none. -/
def Agrees (db' : Brain) : Prop := db.visible allowed = db'.visible allowed

variable {db allowed}

@[simp]
theorem visible_scopes : (db.visible allowed).scopes = db.scopes := rfl

@[simp]
theorem visible_edges : (db.visible allowed).edges = db.edges := rfl

@[simp]
theorem visible_scopedTo : (db.visible allowed).scopedTo = db.scopedTo := rfl

theorem visible_vertices :
    (db.visible allowed).vertices = db.vertices.filter (¬ db.Hidden allowed ·.id) := by
  have hscopes : db.scopes.filter (¬ db.Hidden allowed ·.id) = db.scopes :=
    List.filter_eq_self.mpr fun scope hscope ↦ decide_eq_true fun hhidden ↦
      hhidden.2 scope hscope rfl
  rw [vertices.eq_def db, List.filter_append, hscopes]
  rfl

theorem visible_collection (name : String) : (db.visible allowed).collection name =
    (db.collection name).filter (¬ db.Hidden allowed ·.id) := by
  rw [collection, visible_vertices, List.filter_comm]
  rfl

theorem visible_visible : (db.visible allowed).visible allowed = db.visible allowed := by
  simp only [visible, List.filter_filter, Brain.mk.injEq, true_and, and_true]
  exact List.filter_congr fun doc _ ↦ Bool.and_self _

theorem id_of_vertex {id : String} {doc : Document} (h : db.vertex id = some doc) : doc.id = id := by
  simpa using List.find?_some h

theorem visible_vertex (id : String) : (db.visible allowed).vertex id =
    if db.Hidden allowed id then none else db.vertex id := by
  rw [vertex, visible_vertices, List.find?_filter]
  split
  · refine List.find?_eq_none.mpr fun doc _ h ↦ ?_
    obtain ⟨hseen, hid⟩ : ¬ db.Hidden allowed doc.id ∧ doc.id = id := by simpa using h
    exact hseen (hid ▸ ‹_›)
  · refine congrArg (List.find? · db.vertices) (funext fun doc ↦ ?_)
    by_cases hid : doc.id = id <;> simp_all

end Brain

end Seidrum.Kernel
