import Seidrum.Kernel.FactRuns

/-!
# Facts when a handler is cut short

The handler that replaces a fact marks the old one first and stores the new one afterwards, and ignores
whether the mark was made.  Cut short between the two, or refused the second, it leaves a pair without a
current fact and a link to a fact that is not there.  In every other case no knowledge is lost.
-/

namespace Seidrum.Kernel

open Foundation

namespace Facts

/-- A current fact of the pair is stored. -/
def HasCurrent (facts : Facts) (pair : FactPair) : Prop :=
  ∃ key, ∃ fact ∈ facts.lookup key, fact.IsCurrent pair

/-- A fact that is superseded is superseded by a stored fact of the same pair. -/
def Linked (facts : Facts) : Prop :=
  ∀ key, ∀ fact ∈ facts.lookup key, ∀ next ∈ fact.supersededBy,
    ∃ newer ∈ facts.lookup next, newer.pair = fact.pair

/-- Every pair with a current fact still has one, and links lead to stored facts. -/
structure Keeps (before after : Facts) : Prop where
  current : ∀ pair, before.HasCurrent pair → after.HasCurrent pair
  linked : after.Linked

variable {facts : Facts} {key : String} {fact : Fact} {pair : FactPair}

theorem keeps_refl (hlinked : facts.Linked) : facts.Keeps facts := ⟨fun _ h ↦ h, hlinked⟩

theorem hasCurrent_insert_iff : HasCurrent (facts.insert key fact) pair ↔
    fact.IsCurrent pair ∨ ∃ other, other ≠ key ∧ ∃ old ∈ facts.lookup other, old.IsCurrent pair := by
  constructor
  · rintro ⟨other, found, hfound, hcurrent⟩
    by_cases hother : other = key
    · subst hother
      rw [AList.lookup_insert] at hfound
      cases hfound
      exact .inl hcurrent
    · rw [AList.lookup_insert_ne hother] at hfound
      exact .inr ⟨other, hother, found, hfound, hcurrent⟩
  · rintro (hcurrent | ⟨other, hother, old, hold, hcurrent⟩)
    · exact ⟨key, fact, AList.lookup_insert facts, hcurrent⟩
    · exact ⟨other, old, by rwa [AList.lookup_insert_ne hother], hcurrent⟩

/-- A fact is put in the place of one of the same pair, or in a free place. -/
theorem linked_insert (hlinked : facts.Linked) (hpair : ∀ old ∈ facts.lookup key, old.pair = fact.pair)
    (hnext : ∀ next ∈ fact.supersededBy, next = key ∨
      ∃ newer ∈ facts.lookup next, newer.pair = fact.pair) :
    Linked (facts.insert key fact) := by
  have hstored (next : String) (about : FactPair)
      (h : next = key ∧ fact.pair = about ∨ ∃ newer ∈ facts.lookup next, newer.pair = about) :
      ∃ newer ∈ AList.lookup next (facts.insert key fact), newer.pair = about := by
    by_cases hsame : next = key
    · subst hsame
      refine ⟨fact, AList.lookup_insert facts, ?_⟩
      rcases h with ⟨-, h⟩ | ⟨newer, hnewer, h⟩
      · exact h
      · rw [← hpair newer hnewer, h]
    · rw [AList.lookup_insert_ne hsame]
      exact h.resolve_left fun h ↦ hsame h.1
  intro other found hfound next hsuperseded
  by_cases hother : other = key
  · subst hother
    rw [AList.lookup_insert] at hfound
    cases hfound
    exact hstored next fact.pair ((hnext next hsuperseded).imp_left fun h ↦ ⟨h, rfl⟩)
  · rw [AList.lookup_insert_ne hother] at hfound
    exact hstored next found.pair (.inr (hlinked other found hfound next hsuperseded))

theorem keeps_insert (hlinked : facts.Linked) (hfree : facts.lookup key = none)
    (hnew : fact.supersededBy = none) : facts.Keeps (facts.insert key fact) := by
  refine ⟨?_, linked_insert hlinked (by simp [hfree]) (by simp [hnew])⟩
  rintro pair ⟨other, old, hold, hcurrent⟩
  refine hasCurrent_insert_iff.mpr (.inr ⟨other, ?_, old, hold, hcurrent⟩)
  rintro rfl
  rw [hfree] at hold
  cases hold

theorem keeps_congr {after after' : Facts} (h : ∀ key, after.lookup key = after'.lookup key)
    (hkeeps : facts.Keeps after) : facts.Keeps after' := by
  obtain ⟨hcurrent, hlinked⟩ := hkeeps
  unfold HasCurrent at hcurrent
  unfold Linked at hlinked
  simp only [h] at hcurrent hlinked
  exact ⟨hcurrent, hlinked⟩

/-- A fact of the same content is reinforced. -/
theorem keeps_reinforce (hlinked : facts.Linked) (hfact : facts.lookup key = some fact) (now : String)
    (confidence : EventBus.Value) : facts.Keeps (facts.insert key (fact.reinforce now confidence)) := by
  constructor
  · rintro pair ⟨other, old, hold, hcurrent⟩
    refine hasCurrent_insert_iff.mpr ?_
    by_cases hother : other = key
    · subst hother
      rw [hfact] at hold
      cases hold
      exact .inl hcurrent
    · exact .inr ⟨other, hother, old, hold, hcurrent⟩
  · refine linked_insert hlinked (fun old hold ↦ ?_)
      fun next hnext ↦ .inr (hlinked key fact hfact next hnext)
    rw [hfact] at hold
    rw [← Option.some.inj hold]
    rfl

/-- Without the current fact under the key the pair has a current fact, and a fact of the pair is stored
under the new key. -/
def Spared (facts : Facts) (pair : FactPair) (key newKey : String) : Prop :=
  (∃ other, other ≠ key ∧ ∃ old ∈ facts.lookup other, old.IsCurrent pair) ∧
    ∃ newer ∈ facts.lookup newKey, newer.pair = pair

section Superseding

variable {newKey now : String}

/-- The current fact is marked and the new one is not stored. -/
theorem keeps_supersede_iff (hlinked : facts.Linked) (hfact : facts.lookup key = some fact)
    (hcurrent : fact.IsCurrent pair) :
    facts.Keeps (facts.insert key (fact.supersede newKey now)) ↔ facts.Spared pair key newKey := by
  constructor
  · rintro ⟨hkept, hlinks⟩
    constructor
    · have hstill := hasCurrent_insert_iff.mp (hkept pair ⟨key, fact, hfact, hcurrent⟩)
      exact hstill.resolve_left fun h ↦ by cases h.2.2
    · obtain ⟨newer, hnewer, hpair⟩ := hlinks key _ (AList.lookup_insert facts) newKey rfl
      by_cases hsame : newKey = key
      · exact ⟨fact, by rw [hsame, hfact]; rfl, hcurrent.1⟩
      · rw [AList.lookup_insert_ne hsame] at hnewer
        exact ⟨newer, hnewer, hpair.trans hcurrent.1⟩
  · rintro ⟨hother, newer, hnewer, hpair⟩
    constructor
    · rintro pair' ⟨other, old, hold, hcurrent'⟩
      refine hasCurrent_insert_iff.mpr (.inr ?_)
      by_cases hsame : other = key
      · rw [hsame, hfact] at hold
        cases hold
        rw [← hcurrent'.1, hcurrent.1]
        exact hother
      · exact ⟨other, hsame, old, hold, hcurrent'⟩
    · refine linked_insert hlinked (fun old hold ↦ ?_) fun next hnext ↦ ?_
      · rw [hfact] at hold
        rw [← Option.some.inj hold]
        rfl
      · cases hnext
        exact .inr ⟨newer, hnewer, hpair.trans hcurrent.1.symm⟩

/-- The current fact is marked and the new one is stored. -/
theorem keeps_replace (hlinked : facts.Linked) (hfact : facts.lookup key = some fact)
    (hcurrent : fact.IsCurrent pair) (hfree : facts.lookup newKey = none) {new : Fact}
    (hnew : new.IsCurrent pair) :
    facts.Keeps (AList.insert newKey new (facts.insert key (fact.supersede newKey now))) := by
  have hne : key ≠ newKey := by
    rintro rfl
    rw [hfree] at hfact
    cases hfact
  have hinserted : facts.Keeps (facts.insert newKey new) := keeps_insert hlinked hfree hnew.2.2
  have hold : AList.lookup key (facts.insert newKey new) = some fact := by
    rwa [AList.lookup_insert_ne hne]
  -- the writes of two keys commute, and once the new fact is stored it spares the mark
  have hmarked : Keeps (facts.insert newKey new)
      (AList.insert key (fact.supersede newKey now) (facts.insert newKey new)) :=
    (keeps_supersede_iff hinserted.linked hold hcurrent).mpr
      ⟨⟨newKey, hne.symm, new, AList.lookup_insert facts, hnew⟩, new, AList.lookup_insert facts, hnew.1⟩
  apply keeps_congr _ ⟨fun pair h ↦ hmarked.current pair (hinserted.current pair h), hmarked.linked⟩
  intro other
  by_cases hother : other = key
  · rw [hother, AList.lookup_insert, AList.lookup_insert_ne hne, AList.lookup_insert]
  · rw [AList.lookup_insert_ne hother]
    by_cases hnewer : other = newKey
    · rw [hnewer, AList.lookup_insert, AList.lookup_insert]
    · rw [AList.lookup_insert_ne hnewer, AList.lookup_insert_ne hnewer, AList.lookup_insert_ne hother]

end Superseding

end Facts

/-! ## The calls of a handler -/

def FactOp.LeavesFacts : FactOp → Prop
  | .reinforce .. | .supersede .. | .insertFact .. => False
  | _ => True

variable {db after : BrainDb}

theorem BrainDb.facts_perform {op : FactOp} {env : FactEnv} {answer : FactAnswer op}
    (hleaves : op.LeavesFacts) (hperform : db.perform op env = some (answer, after)) :
    after.facts = db.facts := by
  cases op with
  | now | generateFactKey =>
    obtain rfl := congrArg Prod.snd (Option.some.inj hperform)
    rfl
  | findCurrent pair =>
    cases houtcome : env.outcome with
    | applied =>
      simp only [perform, houtcome] at hperform
      obtain ⟨found, -, heq⟩ := Option.map_eq_some_iff.mp hperform
      exact congrArg BrainDb.facts (congrArg Prod.snd heq).symm
    | refused error | unacknowledged error =>
      simp only [perform, houtcome] at hperform
      exact congrArg BrainDb.facts (congrArg Prod.snd (Option.some.inj hperform)).symm
  | insertEdge _ | publish _ _ =>
    obtain rfl := congrArg Prod.snd (Option.some.inj hperform)
    exact env.facts_write ..
  | reinforce _ _ _ | supersede _ _ _ | insertFact _ _ => exact hleaves.elim

theorem FactEnv.snd_write_eq (env : FactEnv) (db : BrainDb) (change : Option BrainDb) :
    (env.write db change).2 = if env.outcome.IsApplied then change.getD db else db := by
  unfold write
  cases env.outcome <;> cases change <;> rfl

/-- The protocol of calls that leave the facts. -/
def leavingFacts : Protocol FactAnswer Unit where
  allowed _ := FactOp.LeavesFacts
  after _ _ _ := ()

section Handler

variable {req : FactUpsertRequest} {db after : BrainDb} {calls : List FactEnv}
variable {rest program : Program FactAnswer (Except String FactUpserted)}

theorem facts_of_leaving (hleaves : program.Follows leavingFacts (fun _ _ ↦ True) ())
    (hadvance : program.advance BrainDb.perform calls db = some (rest, after)) :
    after.facts = db.facts := by
  refine hleaves.invariant (P := fun state ↦ state.facts = db.facts) ?_ hadvance rfl
  intro _ op hop before env answer next hperform hbefore
  rw [BrainDb.facts_perform hop hperform, hbefore]

theorem leaving_publishUpserted (response : FactUpserted) :
    (publishUpserted req response).Follows leavingFacts (fun _ _ ↦ True) () := by
  refine ⟨trivial, fun answer ↦ ?_⟩
  cases answer <;> trivial

/-- Is a fact stored under the key, by the next call? -/
def Facts.Stores (facts : Facts) (key : String) : List FactEnv → Prop
  | insert :: _ => insert.outcome.IsApplied ∧ facts.lookup key = none
  | [] => False

instance (facts : Facts) (key : String) : DecidablePred (facts.Stores key)
  | _ :: _ => inferInstanceAs (Decidable (_ ∧ _))
  | [] => isFalse id

variable {facts : Facts} {key oldKey : String} {oldFact fact : Fact} {now context : String}
  {superseded : Option String} {pair : FactPair}

theorem Facts.lookup_of_stores (h : facts.Stores key calls) : facts.lookup key = none := by
  cases calls with
  | nil => exact h.elim
  | cons insert more => exact h.2

/-- A change of a stored fact leaves the free keys free. -/
theorem Facts.stores_insert_iff (hfact : facts.lookup oldKey = some oldFact) :
    Facts.Stores (facts.insert oldKey fact) key calls ↔ facts.Stores key calls := by
  cases calls with
  | nil => exact Iff.rfl
  | cons insert more =>
    refine and_congr_right' ?_
    by_cases hkey : key = oldKey
    · rw [hkey, AList.lookup_insert, hfact]
      simp
    · rw [AList.lookup_insert_ne hkey]

theorem facts_insertNewFact
    (hadvance : (insertNewFact req key now context superseded).advance BrainDb.perform calls db =
      some (rest, after)) :
    after.facts = if db.facts.Stores key calls then db.facts.insert key (req.fact now) else db.facts := by
  cases calls with
  | nil =>
    cases hadvance
    rw [if_neg (show ¬db.facts.Stores key [] from id)]
  | cons insert more =>
    obtain ⟨⟨answer, stored⟩, hperform, hmore⟩ := Option.bind_eq_some_iff.mp hadvance
    have hafter : after.facts = stored.facts := by
      refine facts_of_leaving ?_ hmore
      cases answer with
      | error error => trivial
      | ok _ => exact ⟨trivial, fun _ ↦ leaving_publishUpserted _⟩
    have hstored : _ = stored := congrArg Prod.snd (Option.some.inj hperform)
    have hiff : db.facts.Stores key (insert :: more) ↔
        insert.outcome.IsApplied ∧ db.facts.lookup key = none := Iff.rfl
    rw [hafter, ← hstored, FactEnv.snd_write_eq, if_congr hiff rfl rfl]
    by_cases happlied : insert.outcome.IsApplied
    · cases db.facts.lookup key <;> simp [happlied, BrainDb.setFacts]
    · simp [happlied]

/-- Once the old fact is marked the new one is stored, or the mark is harmless. -/
def BrainDb.MendsMark (db : BrainDb) (pair : FactPair) (oldKey key : String) : List FactEnv → Prop
  | mark :: rest => mark.outcome.IsApplied → db.facts.Stores key rest.tail ∨ db.facts.Spared pair oldKey key
  | [] => True

/-- The calls that replace a fact. -/
theorem replace_keeps_iff (hlinked : db.facts.Linked) {edge : Edge}
    (hfact : db.facts.lookup oldKey = some oldFact) (hcurrent : oldFact.IsCurrent req.pair)
    (hadvance : Program.advance BrainDb.perform (do
      let _ ← Program.ask (FactOp.supersede oldKey key now)
      let _ ← Program.ask (FactOp.insertEdge edge)
      insertNewFact req key now context superseded) calls db = some (rest, after)) :
    db.facts.Keeps after.facts ↔ db.MendsMark req.pair oldKey key calls := by
  cases calls with
  | nil =>
    cases hadvance
    exact iff_of_true (Facts.keeps_refl hlinked) trivial
  | cons mark rest =>
    obtain ⟨⟨answer, marked⟩, hperform, hadvance⟩ := Option.bind_eq_some_iff.mp hadvance
    have hmarked : _ = marked := congrArg Prod.snd (Option.some.inj hperform)
    rw [FactEnv.snd_write_eq, Facts.modify, hfact] at hmarked
    -- the facts after the mark, and after the new fact as well
    have hfacts : marked.facts = if mark.outcome.IsApplied then
        db.facts.insert oldKey (oldFact.supersede key now) else db.facts := by
      rw [← hmarked]
      split <;> rfl
    have hafter : after.facts = if marked.facts.Stores key rest.tail then
        marked.facts.insert key (req.fact now) else marked.facts := by
      cases rest with
      | nil =>
        cases hadvance
        exact (if_neg (show ¬marked.facts.Stores key [] from id)).symm
      | cons link rest =>
        obtain ⟨⟨_, linked⟩, hlink, hadvance⟩ := Option.bind_eq_some_iff.mp hadvance
        have hsame : linked.facts = marked.facts :=
          BrainDb.facts_perform (show (FactOp.insertEdge edge).LeavesFacts from trivial) hlink
        have hinserted := facts_insertNewFact hadvance
        rw [show (answer, marked).2 = marked from rfl] at *
        rw [hsame] at hinserted
        exact hinserted
    rw [hafter, BrainDb.MendsMark]
    by_cases happlied : mark.outcome.IsApplied
    · rw [if_pos happlied] at hfacts
      rw [hfacts, if_congr (Facts.stores_insert_iff hfact) rfl rfl]
      simp only [happlied, true_implies]
      split
      next hstores =>
        exact iff_of_true (Facts.keeps_replace hlinked hfact hcurrent (Facts.lookup_of_stores hstores)
          ⟨rfl, rfl, rfl⟩) (.inl hstores)
      next hstores =>
        rw [Facts.keeps_supersede_iff hlinked hfact hcurrent]
        exact (or_iff_right hstores).symm
    · rw [if_neg happlied] at hfacts
      refine iff_of_true ?_ fun h ↦ absurd h happlied
      rw [hfacts]
      split
      next hstores => exact Facts.keeps_insert hlinked (Facts.lookup_of_stores hstores) rfl
      next => exact Facts.keeps_refl hlinked

theorem BrainDb.perform_findCurrent {searched : BrainDb} {find : FactEnv}
    {found : FactAnswer (.findCurrent pair)}
    (hfind : db.perform (.findCurrent pair) find = some (found, searched)) :
    searched = db ∧ match found with
      | .error _ => find.outcome ≠ .applied
      | .ok hit => find.outcome = .applied ∧ db.findCurrent pair find.found = some hit := by
  cases houtcome : find.outcome with
  | applied =>
    simp only [perform, houtcome] at hfind
    obtain ⟨hit, hhit, heq⟩ := Option.map_eq_some_iff.mp hfind
    cases heq
    exact ⟨rfl, rfl, hhit⟩
  | refused error | unacknowledged error =>
    simp only [perform, houtcome] at hfind
    cases hfind
    exact ⟨rfl, by simp⟩

theorem BrainDb.isCurrent_of_findCurrent {asked : Option String}
    (h : db.findCurrent pair asked = some (some (key, fact))) :
    db.facts.lookup key = some fact ∧ fact.IsCurrent pair := by
  unfold findCurrent at h
  split at h
  · split at h
    next hlookup =>
      split at h
      next hcurrent =>
        obtain ⟨rfl, rfl⟩ := Prod.mk.inj (Option.some.inj (Option.some.inj h))
        exact ⟨hlookup, hcurrent⟩
      next => cases h
    next => cases h
  · split at h <;> cases h

theorem keeps_insertNewFact (hlinked : db.facts.Linked)
    (hadvance : (insertNewFact req key now context superseded).advance BrainDb.perform calls db =
      some (rest, after)) : db.facts.Keeps after.facts := by
  rw [facts_insertNewFact hadvance]
  split
  next hstores => exact Facts.keeps_insert hlinked (Facts.lookup_of_stores hstores) rfl
  next => exact Facts.keeps_refl hlinked

/-- The old fact is marked only if the new one is stored, or the mark is harmless. -/
def BrainDb.Completes (db : BrainDb) (req : FactUpsertRequest) : List FactEnv → Prop
  | _ :: find :: generate :: rest => ∀ oldKey oldFact, find.outcome = .applied →
      db.findCurrent req.pair find.found = some (some (oldKey, oldFact)) → ¬req.SameContent oldFact →
        db.MendsMark req.pair oldKey generate.text rest
  | _ => True

/-- A request, cut short anywhere and with any of its calls refused, loses no knowledge exactly if it does
not mark an old fact that it does not replace. -/
theorem upsert_keeps_iff (hlinked : db.facts.Linked)
    (hadvance : (handleFactUpsert req).advance BrainDb.perform calls db = some (rest, after)) :
    db.facts.Keeps after.facts ↔ db.Completes req calls := by
  have hsame (h : after.facts = db.facts) : db.facts.Keeps after.facts := by
    rw [h]
    exact Facts.keeps_refl hlinked
  obtain _ | ⟨clock, _ | ⟨find, calls⟩⟩ := calls
  · cases hadvance
    exact iff_of_true (hsame rfl) trivial
  · cases hadvance
    exact iff_of_true (hsame rfl) trivial
  · -- the clock is read and the current fact looked for
    obtain ⟨⟨now, before⟩, hclock, hadvance⟩ := Option.bind_eq_some_iff.mp hadvance
    obtain rfl : db = before := congrArg Prod.snd (Option.some.inj hclock)
    obtain ⟨⟨found, searched⟩, hfind, hadvance⟩ := Option.bind_eq_some_iff.mp hadvance
    obtain ⟨rfl, hfound⟩ := BrainDb.perform_findCurrent hfind
    obtain error | _ | ⟨oldKey, oldFact⟩ := found
    · have hkeeps : searched.facts.Keeps after.facts := by
        cases calls with
        | nil =>
          cases hadvance
          exact hsame rfl
        | cons => cases hadvance
      refine iff_of_true hkeeps ?_
      cases calls with
      | nil => trivial
      | cons generate calls => exact fun _ _ happlied ↦ absurd happlied hfound
    · cases calls with
      | nil =>
        cases hadvance
        exact iff_of_true (hsame rfl) trivial
      | cons generate calls =>
        obtain ⟨⟨key, between⟩, hgenerate, hadvance⟩ := Option.bind_eq_some_iff.mp hadvance
        obtain rfl : searched = between := congrArg Prod.snd (Option.some.inj hgenerate)
        refine iff_of_true (keeps_insertNewFact hlinked hadvance) fun oldKey oldFact _ hold ↦ ?_
        rw [hfound.2] at hold
        cases hold
    · obtain ⟨happlied, hfound⟩ := hfound
      obtain ⟨hlookup, hcurrent⟩ := BrainDb.isCurrent_of_findCurrent hfound
      by_cases hcontent : req.SameContent oldFact
      · simp only [Program.done_bind, if_pos hcontent] at hadvance
        have hkeeps : searched.facts.Keeps after.facts := by
          cases calls with
          | nil =>
            cases hadvance
            exact hsame rfl
          | cons reinforce calls =>
            obtain ⟨⟨_, reinforced⟩, hreinforce, hadvance⟩ := Option.bind_eq_some_iff.mp hadvance
            have hreinforced : _ = reinforced := congrArg Prod.snd (Option.some.inj hreinforce)
            rw [facts_of_leaving (leaving_publishUpserted _) hadvance, ← hreinforced,
              FactEnv.snd_write_eq, Facts.modify, hlookup]
            split
            · exact Facts.keeps_reinforce hlinked hlookup now req.confidence
            · exact Facts.keeps_refl hlinked
        refine iff_of_true hkeeps ?_
        cases calls with
        | nil => trivial
        | cons generate calls =>
          intro otherKey otherFact _ hother hdiffers
          rw [hfound, Option.some.injEq, Option.some.injEq] at hother
          cases hother
          exact absurd hcontent hdiffers
      · simp only [Program.done_bind, if_neg hcontent] at hadvance
        cases calls with
        | nil =>
          cases hadvance
          exact iff_of_true (hsame rfl) trivial
        | cons generate calls =>
          obtain ⟨⟨key, between⟩, hgenerate, hadvance⟩ := Option.bind_eq_some_iff.mp hadvance
          cases hgenerate
          rw [replace_keeps_iff hlinked hlookup hcurrent hadvance]
          refine ⟨fun hmends otherKey otherFact _ hother _ ↦ ?_, fun hcompletes ↦
            hcompletes oldKey oldFact happlied hfound hcontent⟩
          rw [hfound, Option.some.injEq, Option.some.injEq] at hother
          obtain ⟨rfl, -⟩ := Prod.mk.inj hother
          exact hmends

end Handler

/-- A request with what becomes of the calls its handler makes before it ends or is cut short. -/
abbrev Upsert := FactUpsertRequest × List FactEnv

def factUpsert : Steps BrainDb Upsert := fun db upsert ↦
  ((handleFactUpsert upsert.1).advance BrainDb.perform upsert.2 db).map Prod.snd

def BrainDb.Finishes (db : BrainDb) (upsert : Upsert) : Prop := db.Completes upsert.1 upsert.2

theorem keeps_iff_finishes {upsert : Upsert} (hlinked : db.facts.Linked)
    (hstep : factUpsert db upsert = some after) : db.facts.Keeps after.facts ↔ db.Finishes upsert := by
  obtain ⟨⟨rest, state⟩, hadvance, rfl⟩ := Option.map_eq_some_iff.mp hstep
  exact upsert_keeps_iff hlinked hadvance

/-- Requests that finish lose no knowledge, however many are handled, and among the others none keeps
all. -/
theorem supersession_keeps {db state : BrainDb} (hlinked : db.facts.Linked)
    (hreach : Steps.Reach factUpsert BrainDb.Finishes db state) :
    db.facts.Keeps state.facts ∧ ∀ upsert after, factUpsert state upsert = some after →
      (state.facts.Keeps after.facts ↔ state.Finishes upsert) := by
  have hkeeps : db.facts.Keeps state.facts := by
    apply hreach.invariant (Facts.keeps_refl hlinked)
    intro before upsert next hbefore hfinishes hstep
    have hnext := (keeps_iff_finishes hbefore.linked hstep).mpr hfinishes
    exact ⟨fun pair h ↦ hnext.current pair (hbefore.current pair h), hnext.linked⟩
  exact ⟨hkeeps, fun upsert after hstep ↦ keeps_iff_finishes hkeeps.linked hstep⟩

theorem linked_emptyBrain : emptyBrain.facts.Linked := by
  intro key fact hfact
  cases hfact

/-- A brain that knows a place. -/
def osloBrain : BrainDb where
  facts := emptyBrain.facts.insert "fact_1"
    ((FactUpsertRequest.sample "Oslo").fact "2025-01-01T00:00:00Z")
  edges := [derivedFrom "fact_1" (.sample "Oslo")]
  published := [(.sample "Oslo", ⟨"fact_1", whereabouts, true, none⟩)]

theorem linked_osloBrain : osloBrain.facts.Linked :=
  (Facts.keeps_insert linked_emptyBrain rfl rfl).linked

/-- The handler that stores the place. -/
def firstPlace : Upsert :=
  (.sample "Oslo", [⟨"2025-01-01T00:00:00Z", none, .applied⟩, ⟨"", none, .applied⟩,
    ⟨"fact_1", none, .applied⟩, ⟨"", none, .applied⟩, ⟨"", none, .applied⟩, ⟨"", none, .applied⟩])

/-- The handler that replaces it by another one, with so many calls made. -/
def secondPlace (made : ℕ) : Upsert :=
  (.sample "Bergen", [⟨"2025-01-02T00:00:00Z", none, .applied⟩, ⟨"", some "fact_1", .applied⟩,
    ⟨"fact_2", none, .applied⟩, ⟨"", none, .applied⟩, ⟨"", none, .applied⟩, ⟨"", none, .applied⟩,
    ⟨"", none, .applied⟩, ⟨"", none, .applied⟩].take made)

theorem supersession_keeps_moved :
    emptyBrain.facts.Keeps osloBrain.facts ∧ ∃ after ∈ factUpsert osloBrain (secondPlace 8),
      osloBrain.facts.Keeps after.facts := by
  have hfirst : emptyBrain.Finishes firstPlace := fun _ _ _ hfound ↦ by cases hfound
  have hreach : Steps.Reach factUpsert BrainDb.Finishes emptyBrain osloBrain :=
    .next .init hfirst rfl
  have hsecond : osloBrain.Finishes (secondPlace 8) := fun _ _ _ _ _ _ ↦ .inl ⟨trivial, rfl⟩
  obtain ⟨hkeeps, hiff⟩ := supersession_keeps linked_emptyBrain hreach
  exact ⟨hkeeps, _, rfl, (hiff (secondPlace 8) _ rfl).mpr hsecond⟩

/-- Cut short after the mark, the second handler leaves neither place current. -/
theorem supersession_loses :
    ¬∀ (db after : BrainDb) (upsert : Upsert), db.facts.Linked → factUpsert db upsert = some after →
      db.facts.Keeps after.facts := by
  intro h
  have hkeeps := h osloBrain _ (secondPlace 4) linked_osloBrain rfl
  have hfact : osloBrain.facts.lookup "fact_1" =
      some ((FactUpsertRequest.sample "Oslo").fact "2025-01-01T00:00:00Z") := rfl
  obtain ⟨-, newer, hnewer, -⟩ :=
    (Facts.keeps_supersede_iff linked_osloBrain hfact ⟨rfl, rfl, rfl⟩).mp hkeeps
  cases hnewer

end Seidrum.Kernel
