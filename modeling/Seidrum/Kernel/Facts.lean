import Mathlib.Data.List.AList
import Seidrum.EventBus.Dispatch.Filter
import Seidrum.Foundation.Program
import Seidrum.Foundation.Succession

/-!
# Facts of the brain

A fact says something of a subject under a predicate.  A new fact of a pair supersedes the one that
was current.  The handler of a request looks for the current fact, and marks it, inserts the new one
and links the two in calls of the database of its own; the handlers of all requests run as tasks beside
each other.
-/

namespace Seidrum.Kernel

open EventBus (Value)
open Foundation

/-- What a fact is about. -/
structure FactPair where
  subject : String
  predicate : String
  deriving DecidableEq, Repr

structure Fact where
  pair : FactPair
  object : Option String
  value : Option String
  confidence : Value
  sourceContent : String
  validFrom : String
  validTo : Option String
  supersededBy : Option String
  lastReinforced : String
  reinforcementCount : ℕ
  extractionMethod : String
  createdAt : String

abbrev Facts := AList fun _ : String ↦ Fact

structure Edge where
  collection : String
  source : String
  target : String
  deriving DecidableEq, Repr

structure FactUpserted where
  factKey : String
  pair : FactPair
  isNew : Bool
  supersededFact : Option String
  deriving DecidableEq, Repr

/-- A request with what is taken over from its envelope. -/
structure FactUpsertRequest where
  correlationId : Option String
  scope : Option String
  pair : FactPair
  object : Option String
  value : Option String
  confidence : Value
  sourceContent : String
  validFrom : Option String

structure BrainDb where
  facts : Facts
  edges : List Edge
  published : List (FactUpsertRequest × FactUpserted)

/-- What the query for the current fact of a pair finds. -/
def Fact.IsCurrent (fact : Fact) (pair : FactPair) : Prop :=
  fact.pair = pair ∧ fact.validTo = none ∧ fact.supersededBy = none

instance (fact : Fact) (pair : FactPair) : Decidable (fact.IsCurrent pair) :=
  inferInstanceAs (Decidable (_ ∧ _))

def FactUpsertRequest.fact (req : FactUpsertRequest) (now : String) : Fact where
  pair := req.pair
  object := req.object
  value := req.value
  confidence := req.confidence
  sourceContent := req.sourceContent
  validFrom := req.validFrom.getD now
  validTo := none
  supersededBy := none
  lastReinforced := now
  reinforcementCount := 0
  extractionMethod := "plugin"
  createdAt := now

def Fact.reinforce (fact : Fact) (now : String) (confidence : Value) : Fact :=
  { fact with
    lastReinforced := now
    reinforcementCount := fact.reinforcementCount + 1
    confidence := confidence }

def Fact.supersede (fact : Fact) (newKey now : String) : Fact :=
  { fact with supersededBy := some newKey, validTo := some now }

def Facts.modify (facts : Facts) (key : String) (change : Fact → Fact) : Option Facts :=
  (facts.lookup key).map fun fact ↦ facts.insert key (change fact)

/-- The calls of the handler, to the clock, the generator of keys, the database and the bus. -/
inductive FactOp
  | now
  | findCurrent (pair : FactPair)
  | generateFactKey
  | reinforce (key now : String) (confidence : Value)
  | supersede (oldKey newKey now : String)
  | insertEdge (edge : Edge)
  | insertFact (key : String) (fact : Fact)
  | publish (req : FactUpsertRequest) (response : FactUpserted)

abbrev FactAnswer : FactOp → Type
  | .now | .generateFactKey => String
  | .findCurrent _ => Except String (Option (String × Fact))
  | _ => Except String Unit

/-- Does the fact say what is requested? -/
def FactUpsertRequest.SameContent (req : FactUpsertRequest) (fact : Fact) : Prop :=
  fact.object = req.object ∧ fact.value = req.value

instance (req : FactUpsertRequest) (fact : Fact) : Decidable (req.SameContent fact) :=
  inferInstanceAs (Decidable (_ ∧ _))

def publishUpserted (req : FactUpsertRequest) (response : FactUpserted) :
    Program FactAnswer (Except String FactUpserted) := do
  match ← Program.ask (FactOp.publish req response) with
  | .error error => return .error error
  | .ok () => return .ok response

def derivedFrom (key : String) (req : FactUpsertRequest) : Edge :=
  ⟨"derived_from", "facts/" ++ key, "content/" ++ req.sourceContent⟩

def supersedesEdge (key oldKey : String) : Edge :=
  ⟨"supersedes", "facts/" ++ key, "facts/" ++ oldKey⟩

/-- The document of a new fact and its edge; `context` says what failed. -/
def insertNewFact (req : FactUpsertRequest) (key now context : String) (superseded : Option String) :
    Program FactAnswer (Except String FactUpserted) := do
  match ← Program.ask (FactOp.insertFact key (req.fact now)) with
  | .error _ => return .error context
  | .ok () =>
      let _ ← Program.ask (FactOp.insertEdge (derivedFrom key req))
      publishUpserted req ⟨key, req.pair, true, superseded⟩

def handleFactUpsert (req : FactUpsertRequest) :
    Program FactAnswer (Except String FactUpserted) := do
  let now ← Program.ask FactOp.now
  match ← Program.ask (FactOp.findCurrent req.pair) with
  | .error _ => return .error "failed to query existing facts"
  | .ok (some (oldKey, oldFact)) =>
      if req.SameContent oldFact then
        let _ ← Program.ask (FactOp.reinforce oldKey now req.confidence)
        publishUpserted req ⟨oldKey, req.pair, false, none⟩
      else
        let key ← Program.ask FactOp.generateFactKey
        let _ ← Program.ask (FactOp.supersede oldKey key now)
        let _ ← Program.ask (FactOp.insertEdge (supersedesEdge key oldKey))
        insertNewFact req key now "failed to insert new fact" (some oldKey)
  | .ok none =>
      let key ← Program.ask FactOp.generateFactKey
      insertNewFact req key now "failed to insert fact" none

/-- How a call that changes something ends. -/
inductive WriteOutcome
  | applied
  | refused (error : String)
  /-- The change is made, but the handler is told of an error. -/
  | unacknowledged (error : String)
  deriving DecidableEq, Repr

def WriteOutcome.IsApplied : WriteOutcome → Prop
  | refused _ => False
  | _ => True

instance : DecidablePred WriteOutcome.IsApplied
  | .refused _ => isFalse id
  | .applied | .unacknowledged _ => isTrue trivial

/-- What the environment contributes to a call: the time or a new key, which current fact is found
first, and how the call ends. -/
structure FactEnv where
  text : String
  found : Option String
  outcome : WriteOutcome

/-- A change of the database; one that cannot be made is refused. -/
def FactEnv.write (env : FactEnv) (db : BrainDb) (change : Option BrainDb) :
    Except String Unit × BrainDb :=
  match env.outcome, change with
  | .refused error, _ => (.error error, db)
  | _, none => (.error "AQL execution failed", db)
  | .applied, some db => (.ok (), db)
  | .unacknowledged error, some db => (.error error, db)

theorem FactEnv.snd_write (env : FactEnv) (db : BrainDb) (change : Option BrainDb) :
    (env.write db change).2 = db ∨ change = some (env.write db change).2 := by
  unfold write
  split
  · exact .inl rfl
  · exact .inl rfl
  all_goals exact .inr rfl

theorem FactEnv.facts_write (env : FactEnv) (db : BrainDb) (edges : List Edge)
    (published : List (FactUpsertRequest × FactUpserted)) :
    (env.write db (some { db with edges := edges, published := published })).2.facts = db.facts := by
  rcases env.snd_write db (some { db with edges := edges, published := published }) with hsame | hchange
  · rw [hsame]
  · rw [← Option.some.inj hchange]

theorem FactEnv.snd_write_of_applied {env : FactEnv} {db db' : BrainDb}
    (h : env.outcome.IsApplied) : (env.write db (some db')).2 = db' := by
  unfold write
  cases houtcome : env.outcome with
  | refused error =>
    rw [houtcome] at h
    exact h.elim
  | applied | unacknowledged error => rfl

/-- Which fact the query returns, if its single result is a current fact of the pair, or there is
none. -/
def BrainDb.findCurrent (db : BrainDb) (pair : FactPair) :
    Option String → Option (Option (String × Fact))
  | some key =>
      match db.facts.lookup key with
      | some fact => if fact.IsCurrent pair then some (some (key, fact)) else none
      | none => none
  | none =>
      if ∃ entry ∈ db.facts.entries, entry.2.IsCurrent pair then none else some none

def BrainDb.setFacts (db : BrainDb) (facts : Facts) : BrainDb := { db with facts }

def BrainDb.perform (db : BrainDb) : (op : FactOp) → FactEnv → Option (FactAnswer op × BrainDb)
  | .now, env | .generateFactKey, env => some (env.text, db)
  | .findCurrent pair, env =>
      match env.outcome with
      | .applied => (db.findCurrent pair env.found).map fun found ↦ (.ok found, db)
      | .refused error | .unacknowledged error => some (.error error, db)
  | .reinforce key now confidence, env =>
      some (env.write db ((db.facts.modify key (·.reinforce now confidence)).map db.setFacts))
  | .supersede oldKey newKey now, env =>
      some (env.write db ((db.facts.modify oldKey (·.supersede newKey now)).map db.setFacts))
  | .insertEdge edge, env => some (env.write db (some { db with edges := db.edges ++ [edge] }))
  | .insertFact key fact, env =>
      some (env.write db (if (db.facts.lookup key).isSome then none
        else some (db.setFacts (db.facts.insert key fact))))
  | .publish req response, env =>
      some (env.write db (some { db with published := db.published ++ [(req, response)] }))

/-- Handlers interleaved at every call, one for each request that has come in. -/
abbrev FactUpserts := Tasks BrainDb FactUpsertRequest FactAnswer (Except String FactUpserted)

def factUpserts : Steps FactUpserts (Move FactUpsertRequest FactEnv) :=
  Tasks.step handleFactUpsert BrainDb.perform

/-- No handler is on its way. -/
def FactUpserts.Quiescent (state : FactUpserts) : Prop :=
  ∀ task ∈ state.tasks, task.program.isDone

def Fact.node (fact : Fact) : Node String :=
  match fact.supersededBy with
  | some next => .superseded next
  | none => if fact.validTo = none then .current else .closed

def Facts.nodes (facts : Facts) (pair : FactPair) : Nodes String := fun key ↦
  (facts.lookup key).bind fun fact ↦ if fact.pair = pair then some fact.node else none

variable {fact : Fact} {facts : Facts} {key : String} {facts' : Facts}

theorem Fact.node_eq_current_iff : fact.node = .current ↔ fact.validTo = none ∧ fact.supersededBy = none := by
  unfold node
  cases fact.supersededBy with
  | some next => simp
  | none => by_cases h : fact.validTo = none <;> simp [h]

theorem Facts.nodes_of_lookup (h : facts.lookup key = some fact) :
    facts.nodes fact.pair key = some fact.node := by
  simp [nodes, h]

theorem Facts.nodes_eq_none (h : facts.lookup key = none) (pair : FactPair) :
    facts.nodes pair key = none := by
  simp [nodes, h]

/-- A new document changes the facts of its own pair, at its key. -/
theorem Facts.nodes_insert (facts : Facts) (hpair : ∀ old ∈ facts.lookup key, old.pair = fact.pair)
    (pair : FactPair) :
    Facts.nodes (facts.insert key fact) pair =
      if fact.pair = pair then Function.update (facts.nodes pair) key (some fact.node)
      else facts.nodes pair := by
  funext k
  by_cases hk : k = key
  · subst hk
    split_ifs with hsame
    · rw [Function.update_self]
      simp [nodes, hsame]
    · cases hold : facts.lookup k with
      | none => simp [nodes, hold, hsame]
      | some old =>
        have hother : old.pair ≠ pair := fun heq ↦ hsame ((hpair old hold).symm.trans heq)
        simp [nodes, hold, hsame, hother]
  · split_ifs with hsame
    · rw [Function.update_of_ne hk]
      simp [nodes, AList.lookup_insert_ne hk]
    · simp [nodes, AList.lookup_insert_ne hk]

/-- A change of a fact changes the facts of its pair, at its key. -/
theorem Facts.nodes_modify {change : Fact → Fact} (hlookup : facts.lookup key = some fact)
    (hpair : (change fact).pair = fact.pair) (hmodify : facts.modify key change = some facts')
    (pair : FactPair) :
    Facts.nodes facts' pair =
      if fact.pair = pair then Function.update (facts.nodes pair) key (some (change fact).node)
      else facts.nodes pair := by
  rw [modify, hlookup] at hmodify
  cases hmodify
  rw [← hpair]
  refine Facts.nodes_insert facts (fun old hold ↦ ?_) pair
  rw [hlookup] at hold
  rw [← Option.some.inj hold, hpair]

theorem Facts.nodes_reinforce {now : String} {confidence : Value}
    (hmodify : facts.modify key (·.reinforce now confidence) = some facts') (pair : FactPair) :
    Facts.nodes facts' pair = facts.nodes pair := by
  obtain ⟨fact, hlookup, -⟩ := Option.map_eq_some_iff.mp hmodify
  rw [Facts.nodes_modify hlookup rfl hmodify]
  split_ifs with hpair
  · rw [Function.update_eq_self_iff, ← hpair]
    exact (Facts.nodes_of_lookup hlookup).symm
  · rfl

end Seidrum.Kernel
