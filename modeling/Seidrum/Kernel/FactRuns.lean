import Seidrum.Kernel.Facts

/-!
# Runs of fact handlers

A handler that has found no fact of its own content will write: it is the writer of its pair until the
new fact is inserted.  As long as nobody looks for a pair's current fact while another handler is its
writer, and the writes that replace a fact are made, the facts of every pair are a succession whenever
no handler stands between the two of them.
-/

namespace Seidrum.Kernel

open Foundation

inductive UpsertPhase
  | starting
  | found (key : String) (fact : Fact)
  | foundNone
  /-- a key is generated for the fact that supersedes another one -/
  | replacing (oldKey key : String)
  | superseded (oldKey key : String)
  | creating (key : String)
  /-- the fact is reinforced or inserted, or the handler has failed -/
  | ended

namespace UpsertPhase

/-- The operations of each phase. -/
def Allows (req : FactUpsertRequest) : UpsertPhase → FactOp → Prop
  | starting, .now => True
  | starting, .findCurrent pair => pair = req.pair
  | found key fact, .reinforce other _ _ => other = key ∧ req.SameContent fact
  | found _ fact, .generateFactKey => ¬req.SameContent fact
  | foundNone, .generateFactKey => True
  | replacing oldKey key, .supersede old new _ => old = oldKey ∧ new = key
  | superseded _ _, .insertEdge _ => True
  | superseded _ key, .insertFact other fact => other = key ∧ ∃ now, fact = req.fact now
  | creating key, .insertFact other fact => other = key ∧ ∃ now, fact = req.fact now
  | ended, .insertEdge _ => True
  | ended, .publish _ _ => True
  | _, _ => False

/-- The phase after an operation. -/
def next : UpsertPhase → (op : FactOp) → FactAnswer op → UpsertPhase
  | starting, .findCurrent _, .ok (some (key, fact)) => found key fact
  | starting, .findCurrent _, .ok none => foundNone
  | starting, .findCurrent _, .error _ => ended
  | found _ _, .reinforce .., _ => ended
  | found key _, .generateFactKey, new => replacing key new
  | foundNone, .generateFactKey, key => creating key
  | replacing _ _, .supersede old new _, _ => superseded old new
  | superseded _ _, .insertFact .., _ => ended
  | creating _, .insertFact .., _ => ended
  | phase, _, _ => phase

def protocol (req : FactUpsertRequest) : Protocol FactAnswer UpsertPhase where
  allowed := Allows req
  after := next

/-- The handler is going to write a new fact. -/
def Writing (req : FactUpsertRequest) : UpsertPhase → Prop
  | found _ fact => ¬req.SameContent fact
  | foundNone | replacing _ _ | superseded _ _ | creating _ => True
  | starting | ended => False

instance (req : FactUpsertRequest) : DecidablePred (Writing req)
  | found _ fact => inferInstanceAs (Decidable ¬req.SameContent fact)
  | foundNone | replacing _ _ | superseded _ _ | creating _ => isTrue trivial
  | starting | ended => isFalse id

section

variable {req : FactUpsertRequest}

theorem follows_publishUpserted (response : FactUpserted) :
    (publishUpserted req response).Follows (protocol req) (fun phase _ ↦ phase = ended) ended := by
  refine ⟨trivial, fun answer ↦ ?_⟩
  cases answer <;> rfl

theorem follows_insertNewFact (key now context : String) (replaced : Option String)
    {phase : UpsertPhase} (hphase : phase = creating key ∨ ∃ oldKey, phase = superseded oldKey key) :
    (insertNewFact req key now context replaced).Follows (protocol req)
      (fun phase _ ↦ phase = ended) phase := by
  have hallowed : phase.Allows req (.insertFact key (req.fact now)) := by
    obtain rfl | ⟨oldKey, rfl⟩ := hphase <;> exact ⟨rfl, now, rfl⟩
  have hnext (answer : Except String Unit) :
      phase.next (.insertFact key (req.fact now)) answer = ended := by
    obtain rfl | ⟨oldKey, rfl⟩ := hphase <;> rfl
  refine ⟨hallowed, fun answer ↦ ?_⟩
  rw [show (protocol req).after phase _ answer = ended from hnext answer]
  cases answer with
  | error error => rfl
  | ok _ => exact ⟨trivial, fun _ ↦ follows_publishUpserted _⟩

/-- Whatever a handler is answered, it keeps to the phases, and it ends as no writer. -/
theorem follows_handleFactUpsert (req : FactUpsertRequest) :
    (handleFactUpsert req).Follows (protocol req) (fun phase _ ↦ phase = ended) starting := by
  refine ⟨trivial, fun now ↦ ⟨rfl, fun found ↦ ?_⟩⟩
  match found with
  | .error error => rfl
  | .ok none =>
    refine ⟨trivial, fun key ↦ ?_⟩
    exact follows_insertNewFact key now _ none (.inl rfl)
  | .ok (some (oldKey, oldFact)) =>
    simp only [Program.done_bind]
    split
    next hsame => exact ⟨⟨rfl, hsame⟩, fun _ ↦ follows_publishUpserted _⟩
    next hother =>
      refine ⟨hother, fun key ↦ ⟨⟨rfl, rfl⟩, fun _ ↦ ⟨trivial, fun _ ↦ ?_⟩⟩⟩
      exact follows_insertNewFact key now _ (some oldKey) (.inr ⟨oldKey, rfl⟩)

end

/-- What the writer of a pair knows of its facts. -/
def Holds (req : FactUpsertRequest) (nodes : Nodes String) : UpsertPhase → Prop
  | found key fact => ¬req.SameContent fact → nodes key = some .current
  | replacing oldKey _ => nodes oldKey = some .current
  | foundNone | creating _ => ∀ key, nodes key ≠ some .current
  | superseded oldKey key => nodes.Pending oldKey key
  | starting | ended => True

theorem holds_of_not_writing {req : FactUpsertRequest} {nodes : Nodes String} {phase : UpsertPhase}
    (h : ¬phase.Writing req) : phase.Holds req nodes := by
  cases phase with
  | found key fact => exact fun hother ↦ absurd hother h
  | starting | ended => trivial
  | foundNone | replacing | superseded | creating => exact absurd trivial h

end UpsertPhase

/-! ## The invariant -/

/-- The phases of the handlers. -/
def FactUpserts.phases (state : FactUpserts) : ℕ → UpsertPhase :=
  Tasks.locals ⟨fun _ _ ↦ True, UpsertPhase.next⟩ .starting state

theorem FactUpserts.replay_eq (state : FactUpserts) (req : FactUpsertRequest) (i : ℕ) :
    (UpsertPhase.protocol req).replay .starting (state.events i) = state.phases i := rfl

theorem FactUpserts.phases_answered (state : FactUpserts) (i : ℕ) (req : FactUpsertRequest)
    (op : FactOp) (next : FactAnswer op → Program FactAnswer (Except String FactUpserted))
    (answer : FactAnswer op) (db : BrainDb) :
    FactUpserts.phases (state.answered i req op next answer db) =
      Function.update state.phases i ((state.phases i).next op answer) :=
  Tasks.locals_answered ⟨fun _ _ ↦ True, UpsertPhase.next⟩ .starting state i req op next answer db

/-- No other handler is the writer of the pair. -/
def FactUpserts.Sole (state : FactUpserts) (i : ℕ) (pair : FactPair) : Prop :=
  ∀ (j : ℕ) task, state.tasks[j]? = some task → j ≠ i → task.input.pair = pair →
    ¬(state.phases j).Writing task.input

/-- The look for a current fact succeeds and finds none of the requested content. -/
def BrainDb.Missing (db : BrainDb) (req : FactUpsertRequest) (env : FactEnv) : Prop :=
  env.outcome = .applied ∧ ∀ key ∈ env.found, ∀ fact ∈ db.facts.lookup key, ¬req.SameContent fact

instance (db : BrainDb) (req : FactUpsertRequest) (env : FactEnv) : Decidable (db.Missing req env) := by
  unfold BrainDb.Missing
  infer_instance

/-- A handler becomes the writer of a pair only when no other one is, and the two writes that replace
a fact are made. -/
def FactUpserts.KeepsOrder (state : FactUpserts) : Move FactUpsertRequest FactEnv → Prop
  | .spawn _ => True
  | .run i env => ∀ task ∈ state.tasks[i]?,
      match task.program.next? with
      | some (.findCurrent pair) => state.shared.Missing task.input env →
          ∀ j < state.tasks.length, ∀ other ∈ state.tasks[j]?, j ≠ i → other.input.pair = pair →
            ¬(state.phases j).Writing other.input
      | some (.supersede ..) => env.outcome.IsApplied
      | some (.insertFact key _) =>
          match state.phases i with
          | .superseded .. => env.outcome.IsApplied ∧ state.shared.facts.lookup key = none
          | _ => True
      | _ => True

instance (state : FactUpserts) : DecidablePred state.KeepsOrder
  | .spawn _ => isTrue trivial
  | .run i env => by
      refine @Option.decidableForallMem _ _ (fun task ↦ ?_) _
      split
      · infer_instance
      · infer_instance
      · split <;> infer_instance
      · infer_instance

/-- A pair has one writer, the writer knows the facts of its pair, and without a writer between the
two writes they are a succession. -/
structure UpsertInvariant (state : FactUpserts) : Prop where
  alone : ∀ (i : ℕ) task, state.tasks[i]? = some task → (state.phases i).Writing task.input →
    state.Sole i task.input.pair
  holds : ∀ (i : ℕ) task, state.tasks[i]? = some task →
    (state.phases i).Holds task.input (state.shared.facts.nodes task.input.pair)
  settled : ∀ pair, (∀ (i : ℕ) task oldKey key, state.tasks[i]? = some task →
    task.input.pair = pair → state.phases i ≠ .superseded oldKey key) →
      (state.shared.facts.nodes pair).Succession

namespace UpsertInvariant

variable {state : FactUpserts} {i : ℕ} {req : FactUpsertRequest} {op : FactOp}
  {next : FactAnswer op → Program FactAnswer (Except String FactUpserted)} {answer : FactAnswer op}
  {db : BrainDb}

/-- A handler's operation that changes at most the facts of its own pair, and those only as their
writer. -/
theorem answered (h : UpsertInvariant state)
    (hat : state.tasks[i]? = some ⟨req, .call op next⟩)
    (hothers : ∀ pair, pair ≠ req.pair → db.facts.nodes pair = state.shared.facts.nodes pair)
    (hown : db.facts.nodes req.pair = state.shared.facts.nodes req.pair ∨ state.Sole i req.pair)
    (hsole : ((state.phases i).next op answer).Writing req → state.Sole i req.pair)
    (hholds : ((state.phases i).next op answer).Holds req (db.facts.nodes req.pair))
    (hsettled : (∀ (j : ℕ) task oldKey key, state.tasks[j]? = some task → j ≠ i →
      task.input.pair = req.pair → state.phases j ≠ .superseded oldKey key) →
      (∀ oldKey key, (state.phases i).next op answer ≠ .superseded oldKey key) →
      (db.facts.nodes req.pair).Succession) :
    UpsertInvariant (state.answered i req op next answer db) := by
  have hself : FactUpserts.phases (state.answered i req op next answer db) i =
      (state.phases i).next op answer := by
    rw [FactUpserts.phases_answered, Function.update_self]
  have hother {j : ℕ} (hj : j ≠ i) :
      FactUpserts.phases (state.answered i req op next answer db) j = state.phases j := by
    rw [FactUpserts.phases_answered, Function.update_of_ne hj]
  constructor
  · intro j task hatj hwriting k other hatk hkj hpair
    rcases at_of_set hatj with ⟨rfl, rfl⟩ | ⟨hij, hold⟩
    · rw [hself] at hwriting
      rcases at_of_set hatk with ⟨rfl, -⟩ | ⟨-, hold'⟩
      · exact absurd rfl hkj
      · rw [hother hkj]
        exact hsole hwriting k other hold' hkj hpair
    · rw [hother (Ne.symm hij)] at hwriting
      rcases at_of_set hatk with ⟨rfl, rfl⟩ | ⟨hik, hold'⟩
      · rw [hself]
        intro hwrites
        exact hsole hwrites j task hold (Ne.symm hij) hpair.symm hwriting
      · rw [hother (Ne.symm hik)]
        exact h.alone j task hold hwriting k other hold' hkj hpair
  · intro j task hatj
    rcases at_of_set hatj with ⟨rfl, rfl⟩ | ⟨hij, hold⟩
    · rw [hself]
      exact hholds
    · rw [hother (Ne.symm hij)]
      by_cases hpair : task.input.pair = req.pair
      · rcases hown with hsame | hsole
        · rw [hpair, Tasks.answered, hsame, ← hpair]
          exact h.holds j task hold
        · exact UpsertPhase.holds_of_not_writing (hsole j task hold (Ne.symm hij) hpair)
      · rw [Tasks.answered, hothers _ hpair]
        exact h.holds j task hold
  · intro pair hclear
    have hold (j : ℕ) task oldKey key (hatj : state.tasks[j]? = some task) (hj : j ≠ i)
        (hpair : task.input.pair = pair) : state.phases j ≠ .superseded oldKey key := by
      rw [← hother hj]
      exact hclear j task oldKey key (at_set_of_ne hatj hj _) hpair
    by_cases hpair : pair = req.pair
    · subst hpair
      refine hsettled hold fun oldKey key ↦ ?_
      rw [← hself]
      exact hclear i _ oldKey key (at_set_self hat _) rfl
    · rw [Tasks.answered, hothers pair hpair]
      refine h.settled pair fun j task oldKey key hatj hpair' ↦ ?_
      by_cases hj : j = i
      · subst hj
        rw [hat] at hatj
        cases hatj
        exact absurd hpair'.symm hpair
      · exact hold j task oldKey key hatj hj hpair'

theorem unchanged (h : UpsertInvariant state) (hat : state.tasks[i]? = some ⟨req, .call op next⟩)
    (hnodes : ∀ pair, db.facts.nodes pair = state.shared.facts.nodes pair)
    (hsole : ((state.phases i).next op answer).Writing req → state.Sole i req.pair)
    (hholds : ((state.phases i).next op answer).Holds req (state.shared.facts.nodes req.pair))
    (hkept : ∀ oldKey key, state.phases i = .superseded oldKey key →
      (state.phases i).next op answer = .superseded oldKey key) :
    UpsertInvariant (state.answered i req op next answer db) := by
  refine h.answered hat (fun pair _ ↦ hnodes pair) (.inl (hnodes _)) hsole ?_ fun hclear hleft ↦ ?_
  · rw [hnodes]
    exact hholds
  · rw [hnodes]
    refine h.settled _ fun j task oldKey key hatj hpair hphase ↦ ?_
    by_cases hj : j = i
    · subst hj
      exact hleft oldKey key (hkept oldKey key hphase)
    · exact hclear j task oldKey key hatj hj hpair hphase

/-- A writer finds a succession until it marks the current fact itself. -/
theorem succession_of_writer (h : UpsertInvariant state) {task : Task FactUpsertRequest FactAnswer
      (Except String FactUpserted)} (hat : state.tasks[i]? = some task)
    (hwriting : (state.phases i).Writing task.input)
    (hphase : ∀ oldKey key, state.phases i ≠ .superseded oldKey key) :
    (state.shared.facts.nodes task.input.pair).Succession := by
  refine h.settled _ fun j other oldKey key hatj hpair hsuperseded ↦ ?_
  by_cases hj : j = i
  · exact hphase oldKey key (hj ▸ hsuperseded)
  · refine h.alone i task hat hwriting j other hatj hj hpair ?_
    rw [hsuperseded]
    trivial

theorem same (h : UpsertInvariant state) (hat : state.tasks[i]? = some ⟨req, .call op next⟩)
    (hnodes : ∀ pair, db.facts.nodes pair = state.shared.facts.nodes pair)
    (hphase : (state.phases i).next op answer = state.phases i) :
    UpsertInvariant (state.answered i req op next answer db) := by
  refine h.unchanged hat hnodes ?_ ?_ fun oldKey key hbefore ↦ hphase.trans hbefore
  · rw [hphase]
    exact h.alone i _ hat
  · rw [hphase]
    exact h.holds i _ hat

end UpsertInvariant

variable {facts : Facts} {pair : FactPair}

theorem Facts.nodes_of_isCurrent {key : String} {fact : Fact} (hlookup : facts.lookup key = some fact)
    (h : fact.IsCurrent pair) : facts.nodes pair key = some .current := by
  rw [← h.1, Facts.nodes_of_lookup hlookup, Fact.node_eq_current_iff.mpr h.2]

theorem Facts.nodes_ne_current (h : ¬∃ entry ∈ facts.entries, entry.2.IsCurrent pair) (key : String) :
    facts.nodes pair key ≠ some .current := by
  intro hcurrent
  obtain ⟨fact, hlookup, hnode⟩ := Option.bind_eq_some_iff.mp hcurrent
  obtain ⟨hpair, hnode⟩ := Option.ite_none_right_eq_some.mp hnode
  have hstate := Fact.node_eq_current_iff.mp (Option.some.inj hnode)
  exact h ⟨⟨key, fact⟩, AList.mem_lookup_iff.mp hlookup, hpair, hstate⟩

namespace UpsertInvariant

variable {state : FactUpserts} {i : ℕ} {req : FactUpsertRequest} {env : FactEnv} {db : BrainDb}
  {key now : String}

section

variable (h : UpsertInvariant state)
include h

theorem findCurrent {pair : FactPair}
    {next : FactAnswer (.findCurrent pair) → Program FactAnswer (Except String FactUpserted)}
    {answer : FactAnswer (.findCurrent pair)}
    (hat : state.tasks[i]? = some ⟨req, .call (.findCurrent pair) next⟩) (hphase : state.phases i = .starting)
    (hpair : pair = req.pair) (horder : state.KeepsOrder (.run i env))
    (hperform : state.shared.perform (.findCurrent pair) env = some (answer, db)) :
    UpsertInvariant (state.answered i req (.findCurrent pair) next answer db) := by
  subst hpair
  have hsole (hmissing : state.shared.Missing req env) : state.Sole i req.pair := by
    intro j other hatj hj hsame
    exact horder _ hat hmissing j (List.getElem?_eq_some_iff.mp hatj).1 other hatj hj hsame
  have hkept (oldKey key : String) (hbefore : state.phases i = .superseded oldKey key) :
      (state.phases i).next (.findCurrent req.pair) answer = .superseded oldKey key := by
    rw [hphase] at hbefore
    cases hbefore
  simp only [BrainDb.perform] at hperform
  cases houtcome : env.outcome with
  | applied =>
    rw [houtcome] at hperform
    obtain ⟨found, hfound, heq⟩ := Option.map_eq_some_iff.mp hperform
    cases heq
    cases hchosen : env.found with
    | none =>
      rw [hchosen, BrainDb.findCurrent] at hfound
      obtain ⟨hnone, heq⟩ := Option.ite_none_left_eq_some.mp hfound
      cases heq
      refine h.unchanged hat (fun _ ↦ rfl) ?_ ?_ hkept
      · exact fun _ ↦ hsole ⟨houtcome, by simp [hchosen]⟩
      · rw [hphase]
        exact Facts.nodes_ne_current hnone
    | some key =>
      rw [hchosen, BrainDb.findCurrent] at hfound
      split at hfound
      next fact hlookup =>
        obtain ⟨hcurrent, heq⟩ := Option.ite_none_right_eq_some.mp hfound
        cases heq
        refine h.unchanged hat (fun _ ↦ rfl) ?_ ?_ hkept
        · rw [hphase]
          intro hother
          refine hsole ⟨houtcome, fun key' hkey' fact' hfact' ↦ ?_⟩
          rw [hchosen] at hkey'
          obtain rfl := Option.some.inj hkey'
          rw [hlookup] at hfact'
          obtain rfl := Option.some.inj hfact'
          exact hother
        · rw [hphase]
          exact fun _ ↦ Facts.nodes_of_isCurrent hlookup hcurrent
      next => cases hfound
  | refused error | unacknowledged error =>
    rw [houtcome] at hperform
    cases hperform
    refine h.unchanged hat (fun _ ↦ rfl) ?_ ?_ hkept
    · rw [hphase]
      exact False.elim
    · rw [hphase]
      trivial

/-- The current fact of the pair is marked, and the pair waits for the fact that supersedes it. -/
theorem supersede {oldKey : String}
    {next : FactAnswer (.supersede oldKey key now) → Program FactAnswer (Except String FactUpserted)}
    {answer : FactAnswer (.supersede oldKey key now)}
    (hat : state.tasks[i]? = some ⟨req, .call (.supersede oldKey key now) next⟩)
    (hphase : state.phases i = .replacing oldKey key) (horder : state.KeepsOrder (.run i env))
    (hperform : state.shared.perform (.supersede oldKey key now) env = some (answer, db)) :
    UpsertInvariant (state.answered i req (.supersede oldKey key now) next answer db) := by
  have happlied : env.outcome.IsApplied := horder _ hat
  have hcurrent : state.shared.facts.nodes req.pair oldKey = some .current := by
    have hholds := h.holds i _ hat
    rwa [hphase] at hholds
  obtain ⟨fact, hlookup, hnode⟩ := Option.bind_eq_some_iff.mp hcurrent
  obtain ⟨hpair, -⟩ := Option.ite_none_right_eq_some.mp hnode
  have hmodify : state.shared.facts.modify oldKey (·.supersede key now) =
      some (state.shared.facts.insert oldKey (fact.supersede key now)) := by
    rw [Facts.modify, hlookup]
    rfl
  have hdb : db = state.shared.setFacts
      (state.shared.facts.insert oldKey (fact.supersede key now)) := by
    have heq := congrArg Prod.snd (Option.some.inj hperform)
    rw [hmodify, Option.map_some, FactEnv.snd_write_of_applied happlied] at heq
    exact heq.symm
  have hnodes (pair : FactPair) : db.facts.nodes pair =
      if fact.pair = pair then
        Function.update (state.shared.facts.nodes pair) oldKey (some (.superseded key))
      else state.shared.facts.nodes pair := by
    rw [hdb]
    exact Facts.nodes_modify hlookup rfl hmodify pair
  have hwriting : (state.phases i).Writing req := by
    rw [hphase]
    trivial
  have hsole : state.Sole i req.pair := h.alone i _ hat hwriting
  have hsettled := h.succession_of_writer hat hwriting (by simp [hphase])
  refine h.answered hat ?_ (.inr hsole) (fun _ ↦ hsole) ?_ ?_
  · intro pair hother
    rw [hnodes, if_neg]
    exact fun heq ↦ hother (heq.symm.trans hpair)
  · rw [hphase, hnodes, if_pos hpair]
    exact hsettled.supersede hcurrent
  · intro _ hleft
    rw [hphase] at hleft
    exact absurd rfl (hleft oldKey key)

/-- A new fact is the current one of its pair, where none was, or where the last one waits for it. -/
theorem insertFact {fact : Fact}
    {next : FactAnswer (.insertFact key fact) → Program FactAnswer (Except String FactUpserted)}
    {answer : FactAnswer (.insertFact key fact)}
    (hat : state.tasks[i]? = some ⟨req, .call (.insertFact key fact) next⟩)
    (hphase : state.phases i = .creating key ∨ ∃ oldKey, state.phases i = .superseded oldKey key)
    (hfact : fact = req.fact now) (horder : state.KeepsOrder (.run i env))
    (hperform : state.shared.perform (.insertFact key fact) env = some (answer, db)) :
    UpsertInvariant (state.answered i req (.insertFact key fact) next answer db) := by
  have hover : (state.phases i).next (.insertFact key fact) answer = .ended := by
    obtain hphase | ⟨oldKey, hphase⟩ := hphase <;> rw [hphase] <;> rfl
  have hwriting : (state.phases i).Writing req := by
    obtain hphase | ⟨oldKey, hphase⟩ := hphase <;> rw [hphase] <;> trivial
  have hsole : state.Sole i req.pair := h.alone i _ hat hwriting
  have hshared := congrArg Prod.snd (Option.some.inj hperform)
  have hinserted (hfree : state.shared.facts.lookup key = none)
      (hdb : db = state.shared.setFacts (state.shared.facts.insert key fact)) (pair : FactPair) :
      db.facts.nodes pair = if req.pair = pair then
        Function.update (state.shared.facts.nodes pair) key (some .current)
      else state.shared.facts.nodes pair := by
    rw [hdb, hfact]
    exact Facts.nodes_insert _ (by simp [hfree]) pair
  -- what is left to show of an insertion, once it is known to give a succession
  have happlied (hfree : state.shared.facts.lookup key = none)
      (hdb : db = state.shared.setFacts (state.shared.facts.insert key fact))
      (hgrown : Nodes.Succession
        (Function.update (state.shared.facts.nodes req.pair) key (some .current))) :
      UpsertInvariant (state.answered i req (.insertFact key fact) next answer db) := by
    refine h.answered hat ?_ (.inr hsole) ?_ ?_ fun _ _ ↦ ?_
    · intro pair hother
      rw [hinserted hfree hdb, if_neg (Ne.symm hother)]
    · rw [hover]
      exact False.elim
    · rw [hover]
      trivial
    · rw [hinserted hfree hdb, if_pos rfl]
      exact hgrown
  obtain hphase | ⟨oldKey, hphase⟩ := hphase
  · have hnone : ∀ k, state.shared.facts.nodes req.pair k ≠ some .current := by
      have hholds := h.holds i _ hat
      rwa [hphase] at hholds
    have hsettled := h.succession_of_writer hat hwriting (by simp [hphase])
    rcases FactEnv.snd_write env state.shared (if (state.shared.facts.lookup key).isSome then none
      else some (state.shared.setFacts (state.shared.facts.insert key fact))) with hsame | hchange
    · have hdb : db = state.shared := hshared.symm.trans hsame
      subst hdb
      refine h.unchanged hat (fun _ ↦ rfl) ?_ ?_ fun oldKey key hbefore ↦ ?_
      · rw [hover]
        exact False.elim
      · rw [hover]
        trivial
      · rw [hphase] at hbefore
        cases hbefore
    · obtain ⟨hfree, hdb⟩ := Option.ite_none_left_eq_some.mp hchange
      have hfree : state.shared.facts.lookup key = none := by simpa using hfree
      have hdb := (Option.some.inj hdb).trans hshared
      exact happlied hfree hdb.symm (hsettled.insert hnone)
  · have hkeeps : env.outcome.IsApplied ∧ state.shared.facts.lookup key = none := by
      have hguard := horder _ hat
      simpa only [Program.next?, hphase] using hguard
    have hpending : (state.shared.facts.nodes req.pair).Pending oldKey key := by
      have hholds := h.holds i _ hat
      rwa [hphase] at hholds
    have hdb : db = state.shared.setFacts (state.shared.facts.insert key fact) := by
      rw [hkeeps.2] at hshared
      exact hshared.symm.trans (FactEnv.snd_write_of_applied hkeeps.1)
    exact happlied hkeeps.2 hdb (hpending.insert (Facts.nodes_eq_none hkeeps.2 req.pair))

/-- The key of a new fact is generated by the writer of its pair. -/
theorem generateFactKey {key : FactAnswer .generateFactKey}
    {next : FactAnswer .generateFactKey → Program FactAnswer (Except String FactUpserted)}
    (hat : state.tasks[i]? = some ⟨req, .call .generateFactKey next⟩)
    (hallowed : (state.phases i).Allows req .generateFactKey) :
    UpsertInvariant (state.answered i req .generateFactKey next key state.shared) := by
  have hwriting : (state.phases i).Writing req := by
    cases hphase : state.phases i with
    | found other fact =>
      rw [hphase] at hallowed
      exact hallowed
    | foundNone => trivial
    | _ => exact absurd hallowed (by simp [hphase, UpsertPhase.Allows])
  refine h.unchanged hat (fun _ ↦ rfl) (fun _ ↦ h.alone i _ hat hwriting) ?_ ?_
  · have hholds := h.holds i _ hat
    cases hphase : state.phases i with
    | found other fact =>
      rw [hphase] at hwriting hholds
      exact hholds hwriting
    | foundNone =>
      rw [hphase] at hholds
      exact hholds
    | _ => exact absurd hallowed (by simp [hphase, UpsertPhase.Allows])
  · intro oldKey key hphase
    rw [hphase] at hallowed
    exact hallowed.elim

theorem reinforce {confidence : EventBus.Value}
    {next : FactAnswer (.reinforce key now confidence) → Program FactAnswer (Except String FactUpserted)}
    {answer : FactAnswer (.reinforce key now confidence)}
    (hat : state.tasks[i]? = some ⟨req, .call (.reinforce key now confidence) next⟩)
    (hallowed : (state.phases i).Allows req (.reinforce key now confidence))
    (hperform : state.shared.perform (.reinforce key now confidence) env = some (answer, db)) :
    UpsertInvariant (state.answered i req (.reinforce key now confidence) next answer db) := by
  have hnodes (pair : FactPair) : db.facts.nodes pair = state.shared.facts.nodes pair := by
    obtain rfl := congrArg Prod.snd (Option.some.inj hperform)
    rcases env.snd_write state.shared ((state.shared.facts.modify key
      (·.reinforce now confidence)).map state.shared.setFacts) with hsame | hchange
    · rw [hsame]
    · obtain ⟨facts, hmodify, heq⟩ := Option.map_eq_some_iff.mp hchange
      rw [← heq]
      exact Facts.nodes_reinforce hmodify pair
  cases hphase : state.phases i with
  | found other fact =>
    refine h.unchanged hat hnodes ?_ ?_ (by simp [hphase])
    · rw [hphase]
      exact False.elim
    · rw [hphase]
      trivial
  | _ => exact absurd hallowed (by simp [hphase, UpsertPhase.Allows])

theorem run {op : FactOp} {next : FactAnswer op → Program FactAnswer (Except String FactUpserted)}
    {answer : FactAnswer op} (hat : state.tasks[i]? = some ⟨req, .call op next⟩)
    (hallowed : (state.phases i).Allows req op) (horder : state.KeepsOrder (.run i env))
    (hperform : state.shared.perform op env = some (answer, db)) :
    UpsertInvariant (state.answered i req op next answer db) := by
  cases op with
  | now =>
    obtain rfl := congrArg Prod.snd (Option.some.inj hperform)
    cases hphase : state.phases i with
    | starting => exact h.same hat (fun _ ↦ rfl) (by rw [hphase]; rfl)
    | _ => exact absurd hallowed (by simp [hphase, UpsertPhase.Allows])
  | findCurrent pair =>
    cases hphase : state.phases i with
    | starting =>
      rw [hphase] at hallowed
      exact h.findCurrent hat hphase hallowed horder hperform
    | _ => exact absurd hallowed (by simp [hphase, UpsertPhase.Allows])
  | generateFactKey =>
    obtain rfl := congrArg Prod.snd (Option.some.inj hperform)
    exact h.generateFactKey hat hallowed
  | reinforce key now confidence => exact h.reinforce hat hallowed hperform
  | supersede oldKey key now =>
    cases hphase : state.phases i with
    | replacing old new =>
      rw [hphase] at hallowed
      obtain ⟨rfl, rfl⟩ := hallowed
      exact h.supersede hat hphase horder hperform
    | _ => exact absurd hallowed (by simp [hphase, UpsertPhase.Allows])
  | insertEdge edge =>
    obtain rfl := congrArg Prod.snd (Option.some.inj hperform)
    refine h.same hat (fun pair ↦ congrArg (·.nodes pair) (env.facts_write ..)) ?_
    cases hphase : state.phases i with
    | superseded | ended => rfl
    | _ => exact absurd hallowed (by simp [hphase, UpsertPhase.Allows])
  | insertFact key fact =>
    cases hphase : state.phases i with
    | superseded oldKey new =>
      rw [hphase] at hallowed
      obtain ⟨rfl, now, hfact⟩ := hallowed
      exact h.insertFact hat (.inr ⟨oldKey, hphase⟩) hfact horder hperform
    | creating new =>
      rw [hphase] at hallowed
      obtain ⟨rfl, now, hfact⟩ := hallowed
      exact h.insertFact hat (.inl hphase) hfact horder hperform
    | _ => exact absurd hallowed (by simp [hphase, UpsertPhase.Allows])
  | publish request response =>
    obtain rfl := congrArg Prod.snd (Option.some.inj hperform)
    refine h.same hat (fun pair ↦ congrArg (·.nodes pair) (env.facts_write ..)) ?_
    cases hphase : state.phases i with
    | ended => rfl
    | _ => exact absurd hallowed (by simp [hphase, UpsertPhase.Allows])

end

theorem init (h : ∀ pair, (db.facts.nodes pair).Succession) :
    UpsertInvariant (Tasks.init db) where
  alone _ _ hat := by cases hat
  holds _ _ hat := by cases hat
  settled pair _ := h pair

theorem phases_of_length_le (hknown : state.Known) : state.phases state.tasks.length = .starting := by
  rw [FactUpserts.phases, Tasks.locals, hknown.events_eq_nil (Nat.le_refl _)]
  rfl

theorem spawn (h : UpsertInvariant state) (hknown : state.Known) (req : FactUpsertRequest) :
    UpsertInvariant (state.spawn handleFactUpsert req) := by
  have hstarting := phases_of_length_le hknown
  constructor
  · intro i task hat hwriting j other hatj hj hpair
    rcases at_of_concat hatj with hold' | ⟨rfl, rfl⟩
    · rcases at_of_concat hat with hold | ⟨rfl, rfl⟩
      · exact h.alone i task hold hwriting j other hold' hj hpair
      · rw [show FactUpserts.phases (state.spawn handleFactUpsert req) state.tasks.length =
          .starting from hstarting] at hwriting
        exact hwriting.elim
    · rw [show FactUpserts.phases (state.spawn handleFactUpsert req) state.tasks.length =
        .starting from hstarting]
      exact id
  · intro i task hat
    rcases at_of_concat hat with hold | ⟨rfl, rfl⟩
    · exact h.holds i task hold
    · rw [show FactUpserts.phases (state.spawn handleFactUpsert req) state.tasks.length =
        .starting from hstarting]
      trivial
  · intro pair hclear
    exact h.settled pair fun i task oldKey key hat ↦ hclear i task oldKey key (at_concat hat _)

end UpsertInvariant

/-- If handlers keep the order, the facts of every pair are a succession in every quiescent state. -/
theorem succession_of_keepsOrder {db : BrainDb} {state : FactUpserts}
    (hinit : ∀ pair, (db.facts.nodes pair).Succession)
    (hreach : Steps.Reach factUpserts FactUpserts.KeepsOrder (Tasks.init db) state)
    (hquiescent : state.Quiescent) (pair : FactPair) :
    (state.shared.facts.nodes pair).Succession := by
  have hfollowing := Tasks.following_of_reach UpsertPhase.follows_handleFactUpsert hreach
  have hinv : UpsertInvariant state := by
    refine Tasks.invariant_of_follows UpsertPhase.follows_handleFactUpsert hreach
      (UpsertInvariant.init hinit) ?_ ?_
    · exact fun before req hfollowing h ↦ h.spawn hfollowing.known req
    · intro before i req op next env answer db _ h hat hguard hallowed hperform
      exact h.run hat hallowed hguard hperform
  refine hinv.settled pair fun i task oldKey key hat _ hsuperseded ↦ ?_
  have hdone := hquiescent task (List.mem_of_getElem? hat)
  have hfollows := hfollowing.follows i task hat
  rw [FactUpserts.replay_eq, hsuperseded] at hfollows
  cases hprogram : task.program with
  | done value =>
    rw [hprogram] at hfollows
    cases hfollows
  | call op next =>
    rw [hprogram] at hdone
    cases hdone

def emptyBrain : BrainDb := ⟨∅, [], []⟩

theorem succession_emptyBrain (pair : FactPair) : (emptyBrain.facts.nodes pair).Succession :=
  Nodes.succession_of_empty fun _ ↦ rfl

def whereabouts : FactPair := ⟨"entities/alice", "lives in"⟩

def FactUpsertRequest.sample (place : String) : FactUpsertRequest :=
  ⟨none, none, whereabouts, none, some place, .number "0.9", "c1", none⟩

/-- The next call of a handler succeeds. -/
def succeed (i : ℕ) : Move FactUpsertRequest FactEnv := .run i ⟨"2025-01-01T00:00:00Z", none, .applied⟩

def find (i : ℕ) (key : Option String) : Move FactUpsertRequest FactEnv := .run i ⟨"", key, .applied⟩

def generate (i : ℕ) (key : String) : Move FactUpsertRequest FactEnv := .run i ⟨key, none, .applied⟩

/-- A first fact, and then one that supersedes it. -/
theorem succession_of_keepsOrder_moved :
    ∃ state ∈ Steps.execute factUpserts (Tasks.init emptyBrain)
        [.spawn (.sample "Oslo"), .spawn (.sample "Bergen"),
          succeed 0, find 0 none, generate 0 "fact_1", succeed 0, succeed 0, succeed 0,
          succeed 1, find 1 (some "fact_1"), generate 1 "fact_2", succeed 1, succeed 1, succeed 1,
          succeed 1, succeed 1],
      state.shared.facts.nodes whereabouts "fact_1" = some (.superseded "fact_2") ∧
        (state.shared.facts.nodes whereabouts).Succession := by
  have hrun : ∃ state ∈ Steps.execute factUpserts (Tasks.init emptyBrain)
        [.spawn (.sample "Oslo"), .spawn (.sample "Bergen"),
          succeed 0, find 0 none, generate 0 "fact_1", succeed 0, succeed 0, succeed 0,
          succeed 1, find 1 (some "fact_1"), generate 1 "fact_2", succeed 1, succeed 1, succeed 1,
          succeed 1, succeed 1],
      (∀ task ∈ state.tasks, task.program.isDone) ∧
        state.shared.facts.nodes whereabouts "fact_1" = some (.superseded "fact_2") := by
    decide +kernel
  obtain ⟨state, hstate, hquiescent, hnode⟩ := hrun
  exact ⟨state, hstate, hnode, succession_of_keepsOrder succession_emptyBrain
    (Steps.reach_of_execute (by decide +kernel) hstate) hquiescent whereabouts⟩

/-- Two handlers that both look before either inserts leave two current facts. -/
theorem two_current_facts :
    ∃ state, Steps.Reach factUpserts (fun _ _ ↦ True) (Tasks.init emptyBrain) state ∧
      state.Quiescent ∧ ¬(state.shared.facts.nodes whereabouts).Succession := by
  have hrun : ∃ state ∈ Steps.execute factUpserts (Tasks.init emptyBrain)
        [.spawn (.sample "Oslo"), .spawn (.sample "Bergen"),
          succeed 0, find 0 none, succeed 1, find 1 none,
          generate 0 "fact_1", succeed 0, succeed 0, succeed 0,
          generate 1 "fact_2", succeed 1, succeed 1, succeed 1],
      (∀ task ∈ state.tasks, task.program.isDone) ∧
        state.shared.facts.nodes whereabouts "fact_1" = some .current ∧
        state.shared.facts.nodes whereabouts "fact_2" = some .current := by
    decide +kernel
  obtain ⟨state, hstate, hquiescent, hfirst, hsecond⟩ := hrun
  refine ⟨state, Steps.reach_of_execute (Steps.guarded_of_forall (fun _ _ ↦ trivial) _ _) hstate,
    hquiescent, fun hsuccession ↦ ?_⟩
  exact absurd (hsuccession.one "fact_1" "fact_2" hfirst hsecond) (by decide)

end Seidrum.Kernel
