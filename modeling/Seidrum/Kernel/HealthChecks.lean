import Mathlib.Data.List.AList
import Mathlib.Logic.Function.Basic
import Seidrum.Foundation.Positions
import Seidrum.Foundation.Transition

/-!
# Health checks

Every thirty seconds a job of the scheduler takes the list of the registered plugins, pings them one by
one, and then, holding the lock of the failure counts, resets the counts of those that answered and
counts a failure for each of the others.  A plugin with three counted failures is deregistered: a message
goes to the registry, and its count is removed.

The counts are kept by plugin id and know nothing of registrations.  Plugins register, register again
and deregister at any time, also while a round is under way; and a slow round runs into the next.
-/

namespace Seidrum.Kernel

open Foundation

/-- Number of consecutive failures before a plugin is deregistered. -/
def maxHealthFailures : ℕ := 3

/-- A round under way: the plugins still to be pinged and those that have been, whose results are not
counted yet. -/
structure HealthRound where
  unchecked : List String
  active : List String
  failed : List String
  /-- The round holds the lock, and has reset the counts of the active plugins. -/
  counting : Bool
  deriving DecidableEq, Repr

/-- A round after the ping of its next plugin. -/
def HealthRound.pinged (id : String) (unchecked : List String) (responsive : Bool)
    (round : HealthRound) : HealthRound :=
  { round with
    unchecked
    active := if responsive then round.active ++ [id] else round.active
    failed := if responsive then round.failed else round.failed ++ [id] }

theorem HealthRound.mem_pinged {id other : String} {unchecked : List String} {responsive : Bool}
    (round : HealthRound) :
    other ∈ (round.pinged id unchecked responsive).active ∨
        other ∈ (round.pinged id unchecked responsive).failed ↔
      other = id ∨ other ∈ round.active ∨ other ∈ round.failed := by
  cases responsive <;> simp [pinged] <;> tauto

/-- The registry and the rounds; `checks`, `told` and `decisions` are the history. -/
structure HealthChecks where
  plugins : List String
  failureCounts : AList fun _ : String ↦ ℕ
  rounds : List HealthRound
  /-- Deregistrations published by rounds, on their way to the registry. -/
  outgoing : List String
  /-- The health checks of a plugin since its current registration, the last first. -/
  checks : String → List Bool
  /-- The plugins for which a deregistration was published since their current registration. -/
  told : List String
  /-- The deregistrations that were published, with the checks made until then. -/
  decisions : List (String × List Bool)

namespace HealthChecks

def init : HealthChecks := ⟨[], ∅, [], [], fun _ ↦ [], [], []⟩

inductive HealthLabel
  /-- The registry handles a registration, also of a plugin that is registered already. -/
  | register (id : String)
  /-- The registry handles a deregistration that no round published. -/
  | deregister (id : String)
  /-- The registry handles a deregistration that a round published. -/
  | deliver (id : String)
  /-- The job starts and lists the plugins in some order. -/
  | start (order : List String)
  /-- The next plugin of a round is pinged. -/
  | ping (round : ℕ) (responsive : Bool)
  /-- A round that has pinged all its plugins gets the lock. -/
  | lock (round : ℕ)
  /-- A round counts a failure; if the plugin is to be deregistered, whether publishing that succeeds. -/
  | countFailure (round : ℕ) (published : Bool)
  | finish (round : ℕ)
  deriving DecidableEq, Repr

def count (state : HealthChecks) (id : String) : ℕ := (state.failureCounts.lookup id).getD 0

/-- Remove the counts of plugins. -/
def resetCounts (ids : List String) (counts : AList fun _ : String ↦ ℕ) : AList fun _ : String ↦ ℕ :=
  ids.foldl (fun counts id ↦ counts.erase id) counts

def pingStep (r : ℕ) (round : HealthRound) (responsive : Bool) (state : HealthChecks) :
    Option HealthChecks :=
  match round.unchecked with
  | [] => none
  | id :: unchecked =>
      some { state with
        rounds := state.rounds.set r (round.pinged id unchecked responsive)
        checks := Function.update state.checks id (responsive :: state.checks id) }

def lockStep (r : ℕ) (round : HealthRound) (state : HealthChecks) : Option HealthChecks :=
  if round.unchecked = [] ∧ ∀ other ∈ state.rounds, other.counting = false then
    some { state with
      rounds := state.rounds.set r { round with active := [], counting := true }
      failureCounts := resetCounts round.active state.failureCounts }
  else none

def countStep (r : ℕ) (round : HealthRound) (published : Bool) (state : HealthChecks) :
    Option HealthChecks :=
  match round.failed with
  | [] => none
  | id :: failed =>
      if round.counting then
        let counted := { state with rounds := state.rounds.set r { round with failed } }
        if maxHealthFailures ≤ state.count id + 1 then
          if published then
            some { counted with
              failureCounts := state.failureCounts.erase id
              outgoing := state.outgoing ++ [id]
              told := id :: state.told
              decisions := state.decisions ++ [(id, state.checks id)] }
          else some { counted with failureCounts := state.failureCounts.erase id }
        else some { counted with
          failureCounts := state.failureCounts.insert id (state.count id + 1) }
      else none

def step : Steps HealthChecks HealthLabel
  | state, .register id =>
      some { state with
        plugins := state.plugins.insert id
        checks := Function.update state.checks id []
        told := state.told.filter (· ≠ id) }
  | state, .deregister id => some { state with plugins := state.plugins.erase id }
  | state, .deliver id =>
      if id ∈ state.outgoing then
        some { state with
          plugins := state.plugins.erase id
          outgoing := state.outgoing.erase id }
      else none
  | state, .start order =>
      if order.Perm state.plugins then
        some { state with rounds := state.rounds ++ [⟨order, [], [], false⟩] }
      else none
  | state, .ping r responsive => state.rounds[r]?.bind fun round ↦ state.pingStep r round responsive
  | state, .lock r => state.rounds[r]?.bind fun round ↦ state.lockStep r round
  | state, .countFailure r published =>
      state.rounds[r]?.bind fun round ↦ state.countStep r round published
  | state, .finish r => state.rounds[r]?.bind fun round ↦
      if round.counting ∧ round.failed = [] then
        some { state with rounds := state.rounds.eraseIdx r }
      else none

/-- The last three checks failed. -/
def ThreeFailed (checks : List Bool) : Prop := checks.take 3 = [false, false, false]

instance : DecidablePred ThreeFailed := fun checks ↦
  inferInstanceAs (Decidable (checks.take 3 = [false, false, false]))

/-- A result of a plugin is not counted yet. -/
def Uncounted (state : HealthChecks) (id : String) : Prop :=
  ∃ round ∈ state.rounds, id ∈ round.active ∨ id ∈ round.failed

instance (state : HealthChecks) : DecidablePred state.Uncounted := fun id ↦ by
  unfold Uncounted
  infer_instance

/-- Deregistrations are published only after three failed checks, and concern the current registration;
and once the last three checks of a plugin failed and are counted, its deregistration was published. -/
structure Justified (state : HealthChecks) : Prop where
  decided : ∀ decision ∈ state.decisions, ThreeFailed decision.2
  current : ∀ id ∈ state.outgoing, id ∈ state.told
  prompt : ∀ id, ¬state.Uncounted id → ThreeFailed (state.checks id) → id ∈ state.told

/-- No failure of a plugin is on record when it registers and no deregistration of it is on its way, a
round starts when the one before is over, and publishing a deregistration succeeds. -/
def Orderly (state : HealthChecks) : HealthLabel → Prop
  | .register id => id ∉ state.failureCounts ∧ ¬state.Uncounted id ∧ id ∉ state.outgoing
  | .start _ => state.rounds = []
  | .countFailure _ published => published = true
  | _ => True

instance (state : HealthChecks) (label : HealthLabel) : Decidable (state.Orderly label) := by
  cases label <;> unfold Orderly <;> infer_instance

/-! ## The invariant -/

/-- The checks of a plugin whose results are counted, the last first. -/
def settled (state : HealthChecks) (id : String) : List Bool :=
  if state.Uncounted id then (state.checks id).tail else state.checks id

/-- The count of a plugin is the number of its last checks that failed in a row, as long as no
deregistration was published; afterwards it may be smaller. -/
structure Counted (count : ℕ) (settled : List Bool) (told : Prop) : Prop where
  below : count < maxHealthFailures
  failed : settled.take count = List.replicate count false
  all : ¬told → settled[count]? ≠ some false

structure RoundSound (checks : String → List Bool) (round : HealthRound) : Prop where
  distinct : (round.unchecked ++ (round.active ++ round.failed)).Nodup
  active : ∀ id ∈ round.active, (checks id).head? = some true
  failed : ∀ id ∈ round.failed, (checks id).head? = some false
  counting : round.counting = true → round.unchecked = [] ∧ round.active = []

variable {checks : String → List Bool} {round : HealthRound} {id : String} {unchecked : List String}
  {count : ℕ} {settled : List Bool} {told : Prop}

theorem RoundSound.fresh (h : RoundSound checks round) (hunchecked : round.unchecked = id :: unchecked) :
    ¬(id ∈ round.active ∨ id ∈ round.failed) := by
  have hdistinct := h.distinct
  rw [hunchecked, List.cons_append, List.nodup_cons] at hdistinct
  intro hmem
  exact hdistinct.1 (List.mem_append_right _ (List.mem_append.mpr hmem))

theorem RoundSound.pinged (h : RoundSound checks round) (hunchecked : round.unchecked = id :: unchecked)
    (responsive : Bool) :
    RoundSound (Function.update checks id (responsive :: checks id))
      (round.pinged id unchecked responsive) := by
  have hfresh := h.fresh hunchecked
  have hsame {other : String} (hmem : other ∈ round.active ∨ other ∈ round.failed) :
      Function.update checks id (responsive :: checks id) other = checks other := by
    refine Function.update_of_ne ?_ _ _
    rintro rfl
    exact hfresh hmem
  have hself : Function.update checks id (responsive :: checks id) id = responsive :: checks id :=
    Function.update_self ..
  have hcounting : round.counting ≠ true := by
    intro hcounting
    have hnone := (h.counting hcounting).1
    rw [hunchecked] at hnone
    cases hnone
  have hdistinct := h.distinct
  rw [hunchecked, List.cons_append] at hdistinct
  cases responsive with
  | true =>
    refine ⟨?_, fun other hmem ↦ ?_, fun other hmem ↦ ?_, fun h ↦ absurd h hcounting⟩
    · change (unchecked ++ ((round.active ++ [id]) ++ round.failed)).Nodup
      rw [List.append_assoc, List.singleton_append]
      exact ((List.perm_middle.append_left _).trans List.perm_middle).nodup_iff.mpr hdistinct
    · rcases List.mem_append.mp hmem with hmem | hmem
      · rw [hsame (.inl hmem)]
        exact h.active other hmem
      · rw [List.mem_singleton.mp hmem, hself]
        rfl
    · rw [hsame (.inr hmem)]
      exact h.failed other hmem
  | false =>
    refine ⟨?_, fun other hmem ↦ ?_, fun other hmem ↦ ?_, fun h ↦ absurd h hcounting⟩
    · change (unchecked ++ (round.active ++ (round.failed ++ [id]))).Nodup
      rw [← List.append_assoc, ← List.append_assoc]
      refine (List.perm_append_singleton _ _).nodup_iff.mpr ?_
      rw [List.append_assoc]
      exact hdistinct
    · rw [hsame (.inl hmem)]
      exact h.active other hmem
    · rcases List.mem_append.mp hmem with hmem | hmem
      · rw [hsame (.inr hmem)]
        exact h.failed other hmem
      · rw [List.mem_singleton.mp hmem, hself]
        rfl

structure Sound (state : HealthChecks) : Prop where
  plugins : state.plugins.Nodup
  single : state.rounds.length ≤ 1
  rounds : ∀ round ∈ state.rounds, RoundSound state.checks round
  counted : ∀ id, Counted (state.count id) (state.settled id) (id ∈ state.told)
  decided : ∀ decision ∈ state.decisions, ThreeFailed decision.2
  current : ∀ id ∈ state.outgoing, id ∈ state.told

theorem counted_nil (told : Prop) : Counted 0 [] told :=
  ⟨Nat.zero_lt_succ _, rfl, fun _ h ↦ by cases h⟩

theorem sound_init : init.Sound where
  plugins := List.nodup_nil
  single := Nat.zero_le _
  rounds := fun _ hmem ↦ absurd hmem List.not_mem_nil
  counted := fun _ ↦ counted_nil _
  decided := fun _ hmem ↦ absurd hmem List.not_mem_nil
  current := fun _ hmem ↦ absurd hmem List.not_mem_nil

variable {state : HealthChecks} {id : String} {r : ℕ} {round : HealthRound}

theorem Counted.threeFailed (h : Counted count settled told) (hfailed : ThreeFailed settled) : told := by
  by_contra htold
  apply h.all htold
  have hbelow : count < 3 := h.below
  have hat : (settled.take 3)[count]? = some false := by
    rw [hfailed]
    match count, hbelow with
    | 0, _ | 1, _ | 2, _ => rfl
  rw [List.getElem?_take_of_lt hbelow] at hat
  exact hat

theorem Counted.failedAgain (h : Counted count settled told) (hbelow : ¬maxHealthFailures ≤ count + 1) :
    Counted (count + 1) (false :: settled) told where
  below := not_le.mp hbelow
  failed := by rw [List.take_succ_cons, h.failed, List.replicate_succ]
  all := h.all

theorem Counted.third (h : Counted count settled told) (hthird : maxHealthFailures ≤ count + 1) :
    ThreeFailed (false :: settled) := by
  have hcount : count = 2 := Nat.le_antisymm (Nat.le_of_lt_succ h.below) (Nat.le_of_succ_le_succ hthird)
  have hfailed := h.failed
  rw [hcount] at hfailed
  rw [ThreeFailed, List.take_succ_cons, hfailed]
  rfl

theorem settled_of_counted (h : ¬state.Uncounted id) : state.settled id = state.checks id := if_neg h

theorem Sound.justified (h : state.Sound) : state.Justified where
  decided := h.decided
  current := h.current
  prompt := fun id hcounted hfailed ↦
    (h.counted id).threeFailed (by rw [settled_of_counted hcounted]; exact hfailed)

theorem Sound.rounds_eq (h : state.Sound) (hat : state.rounds[r]? = some round) :
    r = 0 ∧ state.rounds = [round] := by
  have hsingle := h.single
  match hrounds : state.rounds, r with
  | [], _ => rw [hrounds] at hat; cases hat
  | [only], 0 =>
    rw [hrounds] at hat
    exact ⟨rfl, congrArg (fun only ↦ [only]) (Option.some.inj hat)⟩
  | [_], _ + 1 => rw [hrounds] at hat; cases hat
  | _ :: _ :: _, _ =>
    rw [hrounds, List.length_cons, List.length_cons] at hsingle
    omega

theorem uncounted_single (hrounds : state.rounds = [round]) (id : String) :
    state.Uncounted id ↔ id ∈ round.active ∨ id ∈ round.failed := by
  simp [Uncounted, hrounds]

namespace Sound

theorem register (h : state.Sound) (hcount : id ∉ state.failureCounts) (hcounted : ¬state.Uncounted id)
    (houtgoing : id ∉ state.outgoing) :
    { state with
      plugins := state.plugins.insert id
      checks := Function.update state.checks id []
      told := state.told.filter (· ≠ id) }.Sound where
  plugins := h.plugins.insert
  single := h.single
  rounds := by
    intro round hmem
    have hround := h.rounds round hmem
    have hne (other : String) (hother : other ∈ round.active ∨ other ∈ round.failed) : other ≠ id := by
      rintro rfl
      exact hcounted ⟨round, hmem, hother⟩
    refine ⟨hround.distinct, fun other hother ↦ ?_, fun other hother ↦ ?_, hround.counting⟩
    · have hsame := Function.update_of_ne (hne other (.inl hother)) [] state.checks
      exact (congrArg List.head? hsame).trans (hround.active other hother)
    · have hsame := Function.update_of_ne (hne other (.inr hother)) [] state.checks
      exact (congrArg List.head? hsame).trans (hround.failed other hother)
  counted := by
    intro other
    by_cases hother : other = id
    · subst hother
      have hzero : state.count other = 0 := by
        rw [count, AList.lookup_eq_none.mpr hcount, Option.getD_none]
      have hsettled : settled { state with
          plugins := state.plugins.insert other
          checks := Function.update state.checks other []
          told := state.told.filter (· ≠ other) } other = [] :=
        (if_neg hcounted).trans (Function.update_self ..)
      rw [hsettled]
      exact hzero ▸ counted_nil _
    · have hsettled : settled { state with
          plugins := state.plugins.insert id
          checks := Function.update state.checks id []
          told := state.told.filter (· ≠ id) } other = state.settled other := by
        simp only [settled, Function.update_of_ne hother]
        rfl
      have hbefore := h.counted other
      rw [hsettled]
      refine ⟨hbefore.below, hbefore.failed, fun htold ↦ hbefore.all fun hmem ↦ htold ?_⟩
      exact List.mem_filter.mpr ⟨hmem, decide_eq_true hother⟩
  decided := h.decided
  current := by
    intro other hmem
    refine List.mem_filter.mpr ⟨h.current other hmem, decide_eq_true ?_⟩
    rintro rfl
    exact houtgoing hmem

theorem start (h : state.Sound) {order : List String} (horder : order.Perm state.plugins)
    (hrounds : state.rounds = []) :
    { state with
      rounds := state.rounds ++ [(⟨order, [], [], false⟩ : HealthRound)] }.Sound := by
  have huncounted (id : String) :
      Uncounted { state with rounds := state.rounds ++ [⟨order, [], [], false⟩] } id ↔
        state.Uncounted id := by
    simp [Uncounted, hrounds]
  have hsettled : settled { state with rounds := state.rounds ++ [⟨order, [], [], false⟩] } =
      state.settled := by
    funext id
    simp only [settled, huncounted]
  exact { h with
    single := by
      rw [hrounds]
      exact le_rfl
    rounds := by
      intro round hmem
      rw [hrounds, List.nil_append, List.mem_singleton] at hmem
      subst hmem
      refine ⟨?_, fun _ hmem ↦ absurd hmem List.not_mem_nil,
        fun _ hmem ↦ absurd hmem List.not_mem_nil, fun hcounting ↦ absurd hcounting Bool.false_ne_true⟩
      rw [List.append_nil, List.append_nil]
      exact horder.nodup_iff.mpr h.plugins
    counted := fun id ↦ by
      rw [hsettled]
      exact h.counted id }

variable {next : HealthChecks}

/-- A state with one round. -/
theorem of_round (hrounds : next.rounds = [round]) (hround : RoundSound next.checks round)
    (hplugins : next.plugins.Nodup)
    (hcounted : ∀ id, Counted (next.count id) (next.settled id) (id ∈ next.told))
    (hdecided : ∀ decision ∈ next.decisions, ThreeFailed decision.2)
    (hcurrent : ∀ id ∈ next.outgoing, id ∈ next.told) : next.Sound where
  plugins := hplugins
  single := by
    rw [hrounds]
    exact le_rfl
  rounds := by
    intro other hmem
    rw [hrounds] at hmem
    rw [List.mem_singleton.mp hmem]
    exact hround
  counted := hcounted
  decided := hdecided
  current := hcurrent

/-- The result of a ping is there, but not counted. -/
theorem ping (h : state.Sound) (hat : state.rounds[r]? = some round) {responsive : Bool}
    (hstep : state.pingStep r round responsive = some next) : next.Sound := by
  obtain ⟨rfl, hrounds⟩ := h.rounds_eq hat
  have hround := h.rounds round (List.mem_of_getElem? hat)
  unfold pingStep at hstep
  cases hunchecked : round.unchecked with
  | nil => rw [hunchecked] at hstep; cases hstep
  | cons id unchecked =>
    rw [hunchecked] at hstep
    have hnext := (Option.some.inj hstep).symm
    have hrounds' : next.rounds = [round.pinged id unchecked responsive] := by
      rw [hnext, hrounds]
      rfl
    have hchecks : next.checks = Function.update state.checks id (responsive :: state.checks id) := by
      rw [hnext]
    have hfresh : ¬state.Uncounted id := by
      rw [uncounted_single hrounds]
      exact hround.fresh hunchecked
    have hsettled : next.settled = state.settled := by
      funext other
      have huncounted := uncounted_single hrounds' other
      rw [round.mem_pinged] at huncounted
      by_cases hother : other = id
      · subst hother
        rw [settled, if_pos (huncounted.mpr (.inl rfl)), settled_of_counted hfresh, hchecks,
          Function.update_self]
        rfl
      · have hsame : next.checks other = state.checks other := by
          rw [hchecks, Function.update_of_ne hother]
        simp only [settled, huncounted, uncounted_single hrounds, hother, false_or, hsame]
    refine of_round hrounds' ?_ (hnext ▸ h.plugins) (fun other ↦ ?_) (hnext ▸ h.decided)
      (hnext ▸ h.current)
    · rw [hchecks]
      exact hround.pinged hunchecked responsive
    · rw [hsettled]
      exact hnext ▸ h.counted other

theorem lookup_resetCounts (ids : List String) (counts : AList fun _ : String ↦ ℕ) (id : String) :
    (resetCounts ids counts).lookup id = if id ∈ ids then none else counts.lookup id := by
  induction ids generalizing counts with
  | nil => rfl
  | cons first rest ih =>
    rw [resetCounts, List.foldl_cons, ← resetCounts, ih]
    by_cases hid : id = first
    · subst hid
      simp [AList.lookup_erase]
    · simp [hid, AList.lookup_erase_ne hid]

/-- The active plugins are counted as such: nothing has failed since. -/
theorem lock (h : state.Sound) (hat : state.rounds[r]? = some round)
    (hstep : state.lockStep r round = some next) : next.Sound := by
  obtain ⟨rfl, hrounds⟩ := h.rounds_eq hat
  have hround := h.rounds round (List.mem_of_getElem? hat)
  unfold lockStep at hstep
  split_ifs at hstep with hready
  have hnext := (Option.some.inj hstep).symm
  have hrounds' : next.rounds = [{ round with active := [], counting := true }] := by
    rw [hnext, hrounds]
    rfl
  have hchecks : next.checks = state.checks := by rw [hnext]
  refine of_round hrounds' ?_ (hnext ▸ h.plugins) (fun id ↦ ?_) (hnext ▸ h.decided)
    (hnext ▸ h.current)
  · rw [hchecks]
    refine ⟨?_, fun _ hmem ↦ absurd hmem List.not_mem_nil, hround.failed, fun _ ↦ ⟨hready.1, rfl⟩⟩
    exact hround.distinct.sublist ((List.sublist_append_right _ _).append_left _)
  · have huncounted := uncounted_single hrounds' id
    have hcount : next.count id = if id ∈ round.active then 0 else state.count id := by
      rw [count, hnext, lookup_resetCounts]
      split_ifs <;> rfl
    by_cases hactive : id ∈ round.active
    · have hanswered := hround.active id hactive
      have hfailed : id ∉ round.failed := by
        have hdistinct := (List.nodup_append.mp hround.distinct).2.1
        exact fun hmem ↦ (List.nodup_append.mp hdistinct).2.2 id hactive id hmem rfl
      have hsettled : next.settled id = state.checks id := by
        rw [settled_of_counted, hchecks]
        rw [huncounted]
        exact not_or.mpr ⟨List.not_mem_nil, hfailed⟩
      rw [hcount, if_pos hactive, hsettled]
      refine ⟨Nat.zero_lt_succ _, rfl, fun _ hfalse ↦ ?_⟩
      rw [← List.head?_eq_getElem?, hanswered] at hfalse
      cases hfalse
    · have hsettled : next.settled id = state.settled id := by
        simp only [settled, huncounted, uncounted_single hrounds, hactive, hchecks, List.not_mem_nil]
      rw [hcount, if_neg hactive, hsettled]
      exact hnext ▸ h.counted id

theorem settled_countFailure (hrounds : state.rounds = [round]) (hround : RoundSound state.checks round)
    {failed : List String} (hfailed : round.failed = id :: failed) (hcounting : round.counting = true)
    (hrounds' : next.rounds = [{ round with failed }]) (hchecks : next.checks = state.checks) :
    RoundSound next.checks { round with failed } ∧
      state.checks id = false :: state.settled id ∧ next.settled id = state.checks id ∧
      ∀ other, other ≠ id → next.settled other = state.settled other := by
  have hactive : round.active = [] := (hround.counting hcounting).2
  have hdistinct := hround.distinct
  rw [(hround.counting hcounting).1, hactive, List.nil_append, List.nil_append, hfailed,
    List.nodup_cons] at hdistinct
  have huncounted := uncounted_single hrounds
  have huncounted' := uncounted_single hrounds'
  refine ⟨?_, ?_, ?_, fun other hother ↦ ?_⟩
  · rw [hchecks]
    refine ⟨?_, hround.active, fun other hmem ↦ hround.failed other ?_, hround.counting⟩
    · change (round.unchecked ++ (round.active ++ failed)).Nodup
      rw [(hround.counting hcounting).1, hactive]
      exact hdistinct.2
    · rw [hfailed]
      exact List.mem_cons_of_mem _ hmem
  · have hmissed := hround.failed id (by rw [hfailed]; exact List.mem_cons_self)
    have hbefore : state.Uncounted id := by
      rw [huncounted, hfailed]
      exact .inr List.mem_cons_self
    rw [settled, if_pos hbefore]
    exact (List.cons_head?_tail hmissed).symm
  · have hafter : ¬next.Uncounted id := by
      rw [huncounted']
      exact not_or.mpr ⟨by rw [hactive]; exact List.not_mem_nil, hdistinct.1⟩
    rw [settled_of_counted hafter, hchecks]
  · simp only [settled, huncounted, huncounted', hchecks, hfailed, List.mem_cons, hother, false_or]

/-- A counted failure either is one more or leads to a deregistration. -/
theorem countStep_cases (hstep : state.countStep r round true = some next) :
    ∃ id failed, round.failed = id :: failed ∧ round.counting = true ∧
      next.rounds = state.rounds.set r { round with failed } ∧
      next.plugins = state.plugins ∧ next.checks = state.checks ∧
      (maxHealthFailures ≤ state.count id + 1 ∧
          next.failureCounts = state.failureCounts.erase id ∧
          next.outgoing = state.outgoing ++ [id] ∧ next.told = id :: state.told ∧
          next.decisions = state.decisions ++ [(id, state.checks id)] ∨
        ¬maxHealthFailures ≤ state.count id + 1 ∧
          next.failureCounts = state.failureCounts.insert id (state.count id + 1) ∧
          next.outgoing = state.outgoing ∧ next.told = state.told ∧
          next.decisions = state.decisions) := by
  unfold countStep at hstep
  cases hfailed : round.failed with
  | nil => rw [hfailed] at hstep; cases hstep
  | cons id failed =>
    rw [hfailed] at hstep
    simp only [reduceIte] at hstep
    split_ifs at hstep with hcounting hthird
    · cases hstep
      exact ⟨id, failed, rfl, hcounting, rfl, rfl, rfl, .inl ⟨hthird, rfl, rfl, rfl, rfl⟩⟩
    · cases hstep
      exact ⟨id, failed, rfl, hcounting, rfl, rfl, rfl, .inr ⟨hthird, rfl, rfl, rfl, rfl⟩⟩

/-- One failure more is counted; the third leads to a deregistration. -/
theorem countFailure (h : state.Sound) (hat : state.rounds[r]? = some round)
    (hstep : state.countStep r round true = some next) : next.Sound := by
  obtain ⟨rfl, hrounds⟩ := h.rounds_eq hat
  have hround := h.rounds round (List.mem_of_getElem? hat)
  obtain ⟨id, failed, hfailed, hcounting, hrounds', hplugins, hchecks, hcases⟩ := countStep_cases hstep
  rw [hrounds] at hrounds'
  obtain ⟨hround', hmissed, hself, hothers⟩ :=
    settled_countFailure hrounds hround hfailed hcounting hrounds' hchecks
  have hnodup : next.plugins.Nodup := hplugins ▸ h.plugins
  rcases hcases with ⟨hthird, hcounts, houtgoing, htold, hdecisions⟩ |
    ⟨hbelow, hcounts, houtgoing, htold, hdecisions⟩
  · refine of_round hrounds' hround' hnodup (fun other ↦ ?_) ?_ ?_
    · rw [count, hcounts, htold]
      by_cases hother : other = id
      · subst hother
        rw [AList.lookup_erase]
        exact ⟨Nat.zero_lt_succ _, rfl, fun hnot ↦ absurd List.mem_cons_self hnot⟩
      · have hsame := h.counted other
        rw [AList.lookup_erase_ne hother, hothers other hother]
        exact ⟨hsame.below, hsame.failed, fun hnot ↦ hsame.all fun hmem ↦
          hnot (List.mem_cons_of_mem _ hmem)⟩
    · rw [hdecisions]
      intro decision hmem
      rcases List.mem_append.mp hmem with hmem | hmem
      · exact h.decided decision hmem
      · rw [List.mem_singleton.mp hmem, hmissed]
        exact (h.counted id).third hthird
    · rw [houtgoing, htold]
      intro other hmem
      rcases List.mem_append.mp hmem with hmem | hmem
      · exact List.mem_cons_of_mem _ (h.current other hmem)
      · rw [List.mem_singleton.mp hmem]
        exact List.mem_cons_self
  · refine of_round hrounds' hround' hnodup (fun other ↦ ?_) (hdecisions ▸ h.decided) ?_
    · rw [count, hcounts, htold]
      by_cases hother : other = id
      · subst hother
        rw [AList.lookup_insert, hself, hmissed]
        exact (h.counted other).failedAgain hbelow
      · rw [AList.lookup_insert_ne hother, hothers other hother]
        exact h.counted other
    · rw [houtgoing, htold]
      exact h.current

theorem finish (h : state.Sound) (hat : state.rounds[r]? = some round)
    (hover : round.counting = true ∧ round.failed = []) :
    { state with rounds := state.rounds.eraseIdx r }.Sound := by
  obtain ⟨rfl, hrounds⟩ := h.rounds_eq hat
  have hround := h.rounds round (List.mem_of_getElem? hat)
  have hempty : state.rounds.eraseIdx 0 = [] := by
    rw [hrounds]
    rfl
  have hsettled : settled { state with rounds := state.rounds.eraseIdx 0 } = state.settled := by
    funext id
    have hbefore : ¬state.Uncounted id := by
      rw [uncounted_single hrounds, hover.2, (hround.counting hover.1).2]
      exact not_or.mpr ⟨List.not_mem_nil, List.not_mem_nil⟩
    have hafter : ¬Uncounted { state with rounds := state.rounds.eraseIdx 0 } id := by
      simp [Uncounted, hempty]
    rw [settled_of_counted hafter, settled_of_counted hbefore]
  exact { h with
    single := by
      rw [hempty]
      exact Nat.zero_le _
    rounds := by
      rw [hempty]
      exact fun _ hmem ↦ absurd hmem List.not_mem_nil
    counted := fun id ↦ by
      rw [hsettled]
      exact h.counted id }

theorem step (h : state.Sound) {label : HealthLabel} (horderly : state.Orderly label)
    (hstep : HealthChecks.step state label = some next) : next.Sound := by
  cases label with
  | register id =>
    cases hstep
    exact h.register horderly.1 horderly.2.1 horderly.2.2
  | deregister id =>
    cases hstep
    exact { h with plugins := h.plugins.erase id }
  | deliver id =>
    simp only [HealthChecks.step] at hstep
    split_ifs at hstep
    cases hstep
    exact { h with
      plugins := h.plugins.erase id
      current := fun other hmem ↦ h.current other (List.mem_of_mem_erase hmem) }
  | start order =>
    simp only [HealthChecks.step] at hstep
    split_ifs at hstep with horder
    cases hstep
    exact h.start horder horderly
  | ping r responsive =>
    obtain ⟨round, hat, hstep⟩ := Option.bind_eq_some_iff.mp hstep
    exact h.ping hat hstep
  | lock r =>
    obtain ⟨round, hat, hstep⟩ := Option.bind_eq_some_iff.mp hstep
    exact h.lock hat hstep
  | countFailure r published =>
    obtain ⟨round, hat, hstep⟩ := Option.bind_eq_some_iff.mp hstep
    obtain rfl := horderly
    exact h.countFailure hat hstep
  | finish r =>
    obtain ⟨round, hat, hstep⟩ := Option.bind_eq_some_iff.mp hstep
    split_ifs at hstep with hover
    cases hstep
    exact h.finish hat hover

end Sound

/-- In every run whose steps are orderly, rounds deregister a plugin exactly when its last three checks
since its current registration failed. -/
theorem deregistered_when_failing
    (hreach : Steps.Reach step (fun state label ↦ state.Orderly label) init state) :
    state.Justified :=
  (hreach.invariant sound_init fun _ _ _ h horderly hstep ↦ h.step horderly hstep).justified

/-- A round that checks one plugin, which does not answer. -/
def failingRound (id : String) : List HealthLabel :=
  [.start [id], .ping 0 false, .lock 0, .countFailure 0 true, .finish 0]

theorem deregistered_when_failing_three :
    ∃ state, Steps.execute step init
        (.register "search" :: (List.replicate 3 (failingRound "search")).flatten) = some state ∧
      state.decisions = [("search", [false, false, false])] ∧ state.outgoing = ["search"] ∧
      state.Justified := by
  have hexecute : ∃ state, Steps.execute step init
        (.register "search" :: (List.replicate 3 (failingRound "search")).flatten) = some state ∧
      state.decisions = [("search", [false, false, false])] ∧ state.outgoing = ["search"] :=
    ⟨_, rfl, by decide, by decide⟩
  obtain ⟨state, hexecute, hdecisions, houtgoing⟩ := hexecute
  have hguarded : Steps.Guarded step (fun state label ↦ state.Orderly label) init
      (.register "search" :: (List.replicate 3 (failingRound "search")).flatten) := by
    decide
  exact ⟨state, hexecute, hdecisions, houtgoing,
    deregistered_when_failing (Steps.reach_of_execute hguarded hexecute)⟩

/-- A plugin that failed twice, deregistered and registered again, and then fails once. -/
def staleCount : List HealthLabel :=
  .register "search" :: (List.replicate 2 (failingRound "search")).flatten ++
    [.deregister "search", .register "search"] ++ failingRound "search"

theorem deregistered_when_failing_false :
    ∃ state, Steps.execute step init staleCount = some state ∧ ¬state.Justified := by
  have hexecute : ∃ state, Steps.execute step init staleCount = some state ∧
      ("search", [false]) ∈ state.decisions := ⟨_, rfl, by decide⟩
  obtain ⟨state, hexecute, hdecision⟩ := hexecute
  exact ⟨state, hexecute, fun h ↦ absurd (h.decided _ hdecision) (by decide)⟩

end HealthChecks

end Seidrum.Kernel
