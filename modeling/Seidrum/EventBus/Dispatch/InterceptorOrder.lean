import Seidrum.EventBus.Dispatch.SubjectIndexSpec
import Seidrum.EventBus.System
import Seidrum.Foundation.StableSort

/-!
# The order of interceptors

A dispatch runs its sync subscriptions in the order in which the lookup returned them: by priority,
and those of equal priority in the order in which the walk of the trie meets their patterns.  The
walk goes to `>` first, then to the literal token, then to `*`.  The order of registration decides
only among subscriptions of one pattern, so it is kept exactly when no two subscriptions of equal
priority were registered against the order of the walk.
-/

namespace Seidrum.EventBus

open Seidrum.Foundation

/-- When the walk goes to a token of a pattern. -/
def tokenRank (token : String) : ℕ := if token = ">" then 0 else if token = "*" then 2 else 1

/-- When the walk meets a pattern; patterns are compared at the first token that differs. -/
def walkRank (pattern : List String) : List ℕ := pattern.map tokenRank

def SubscriptionEntry.walkRank (entry : SubscriptionEntry) : List ℕ :=
  EventBus.walkRank (tokens entry.subjectPattern)

/-- The patterns of a subject are visited by ascending rank. -/
theorem patternsFor_ascending (subject : List String) :
    (patternsFor subject).Pairwise fun a b ↦ walkRank a < walkRank b := by
  induction subject with
  | nil => simp [patternsFor]
  | cons token rest ih =>
    have hbelow (first : String) :
        ((patternsFor rest).map (first :: ·)).Pairwise fun a b ↦ walkRank a < walkRank b :=
      List.pairwise_map.mpr (ih.imp fun hlt ↦ List.cons_lt_cons_iff.mpr (.inr ⟨rfl, hlt⟩))
    have hfirst {a b : String} {as bs : List String} (hlt : tokenRank a < tokenRank b) :
        walkRank (a :: as) < walkRank (b :: bs) := List.cons_lt_cons_iff.mpr (.inl hlt)
    unfold patternsFor
    split_ifs with hwild
    · refine List.pairwise_cons.mpr ⟨fun pattern hmem ↦ ?_, hbelow "*"⟩
      obtain ⟨other, -, rfl⟩ := List.mem_map.mp hmem
      exact hfirst (by decide)
    · rw [not_or] at hwild
      have hliteral : tokenRank token = 1 := by simp [tokenRank, hwild]
      refine List.pairwise_cons.mpr ⟨fun pattern hmem ↦ ?_,
        List.pairwise_append.mpr ⟨hbelow token, hbelow "*", fun a ha b hb ↦ ?_⟩⟩
      · rcases List.mem_append.mp hmem with hmem | hmem
        · obtain ⟨other, -, rfl⟩ := List.mem_map.mp hmem
          exact hfirst (by rw [hliteral]; decide)
        · obtain ⟨other, -, rfl⟩ := List.mem_map.mp hmem
          exact hfirst (by decide)
      · obtain ⟨a, -, rfl⟩ := List.mem_map.mp ha
        obtain ⟨b, -, rfl⟩ := List.mem_map.mp hb
        exact hfirst (by rw [hliteral]; decide)

namespace SubjectIndex

/-- The live entries whose pattern matches a subject, in the order of their registration. -/
def matching (subject : String) (live : List SubscriptionEntry) : List SubscriptionEntry :=
  live.filter fun entry ↦ patternMatches (tokens entry.subjectPattern) (tokens subject)

/-- A lookup sorts the matching entries by the walk, and then by priority. -/
theorem Represents.lookup_eq {index : SubjectIndex} {live : List SubscriptionEntry}
    (h : Represents index live) (subject : String) :
    index.lookup subject = sortByKey (·.priority) (sortByKey (·.walkRank) (matching subject live)) := by
  have hmatching : ∀ pattern ∈ patternsFor (tokens subject),
      live.filter (fun entry ↦ tokens entry.subjectPattern = pattern) =
        (matching subject live).filter fun entry ↦ tokens entry.subjectPattern = pattern := by
    intro pattern hpattern
    rw [matching, List.filter_filter]
    refine List.filter_congr fun entry _ ↦ ?_
    by_cases heq : tokens entry.subjectPattern = pattern
    · simp [heq, mem_patternsFor_iff.mp hpattern]
    · simp [heq]
  have hwalk : index.root.collect (tokens subject) =
      sortByKey (·.walkRank) (matching subject live) := by
    rw [h.collect_eq, List.flatMap_congr hmatching]
    exact flatMap_filter_eq_sortByKey (patternsFor_ascending _) fun entry hmem ↦
      mem_patternsFor_iff.mpr (List.mem_filter.mp hmem).2
  rw [lookup, hwalk]
  rfl

end SubjectIndex

namespace Stage

/-- The sync subscriptions still to run, once the matching ones have been looked up. -/
def ahead (config : Config) (payload : Payload) : Stage → List String
  | .mark entries => (entries.filter fun entry ↦
      entry.filter.all (·.matches config.json payload) ∧ entry.mode = .sync).map (·.id)
  | .snapshot sync _ => sync.map (·.id)
  | .chain todo _ => todo.map (·.id)
  | .record _ next => next.ahead config payload
  | _ => []

/-- The matching subscriptions have been looked up. -/
def isResolved : Stage → Bool
  | .resolve => false
  | .record _ next => next.isResolved
  | _ => true

end Stage

namespace Dispatch

/-- The sync subscription that the next step runs. -/
def turn (d : Dispatch) : Option String :=
  match d.stage with
  | .chain (entry :: _) _ => some entry.id
  | _ => none

/-- The sync subscriptions that some steps of a dispatch run, whatever the bus is in each step. -/
def intercepted (config : Config) : List (DispatchInput × Bus) → Dispatch → List String
  | [], _ => []
  | (input, bus) :: rest, d => d.turn.toList ++ intercepted config rest (d.step config input bus).2

/-- A dispatch intercepts with the sync subscriptions that match and whose filter accepts the
payload. -/
def Intercepts (config : Config) (d : Dispatch) (entry : SubscriptionEntry) : Prop :=
  patternMatches (tokens entry.subjectPattern) (tokens d.subject) ∧
    entry.filter.all (·.matches config.json d.current) ∧ entry.mode = .sync

instance (config : Config) (d : Dispatch) (entry : SubscriptionEntry) :
    Decidable (d.Intercepts config entry) := inferInstanceAs (Decidable (_ ∧ _ ∧ _))

/-- A step runs the next sync subscription, and leaves at most the others. -/
theorem ahead_step (config : Config) {d : Dispatch} (hresolved : d.stage.isResolved)
    (input : DispatchInput) (bus : Bus) :
    (d.step config input bus).2.stage.isResolved ∧
      d.turn.toList ++
          (d.step config input bus).2.stage.ahead config (d.step config input bus).2.current <+:
        d.stage.ahead config d.current := by
  obtain ⟨seq, subject, payload, replySubject, isReply, current, anyFailed, stage⟩ := d
  cases stage with
  | resolve => cases hresolved
  | mark entries =>
    simp only [step, turn, Option.toList_none, List.nil_append]
    split_ifs with hempty
    · exact ⟨rfl, List.nil_prefix⟩
    · refine ⟨rfl, ?_⟩
      simp [Stage.ahead, List.filter_filter, and_comm]
  | snapshot sync async =>
    refine ⟨rfl, ?_⟩
    simp [step, turn, Stage.ahead, Bus.syncEntry, Function.comp_def]
  | chain todo async =>
    cases todo with
    | nil => exact ⟨rfl, List.nil_prefix⟩
    | cons entry todo =>
      simp only [step, finishAttempt, turn, Stage.isResolved, Stage.ahead, Option.toList_some,
        List.map_cons, List.singleton_append, List.prefix_cons_inj]
      split_ifs
      · exact ⟨rfl, List.nil_prefix⟩
      · exact ⟨rfl, List.prefix_rfl⟩
  | fanOut todo =>
    cases todo with
    | nil => exact ⟨rfl, List.nil_prefix⟩
    | cons head todo =>
      simp only [step, finishAttempt, turn, Stage.isResolved, Stage.ahead, Option.toList_none,
        List.nil_append]
      split_ifs <;> exact ⟨rfl, List.prefix_rfl⟩
  | record report next => exact ⟨hresolved, List.prefix_rfl⟩
  | close status | returned => exact ⟨rfl, List.prefix_rfl⟩

theorem intercepted_prefix_ahead (config : Config) {d : Dispatch} (hresolved : d.stage.isResolved)
    (inputs : List (DispatchInput × Bus)) :
    d.intercepted config inputs <+: d.stage.ahead config d.current := by
  induction inputs generalizing d with
  | nil => exact List.nil_prefix
  | cons head rest ih =>
    obtain ⟨input, bus⟩ := head
    obtain ⟨hnext, hahead⟩ := ahead_step config hresolved input bus
    exact ((List.prefix_append_right_inj _).mpr (ih hnext)).trans hahead

/-- Every interceptor passes the event on, and the store serves. -/
def passing : DispatchInput := ⟨.completed .pass [], 0, true⟩

theorem not_dropped_of_passing (entry : SyncEntry) (event : DispatchedEvent) (bus : Bus) :
    (bus.syncAttempt (.completed .pass []) entry event).dropped = false := by
  unfold Bus.syncAttempt Bus.sendResult
  split
  · rfl
  · split
    · split <;> rfl
    · rfl

/-- When nothing is dropped, every sync subscription of the chain is run. -/
theorem exists_intercepted_chain (config : Config) (bus : Bus) (todo : List SyncEntry)
    (async : List SubscriptionEntry) (d : Dispatch) (hstage : d.stage = .chain todo async) :
    ∃ inputs, (∀ input ∈ inputs, input.2 = bus) ∧
      d.intercepted config inputs = todo.map (·.id) := by
  induction todo generalizing d with
  | nil => exact ⟨[], by simp, rfl⟩
  | cons entry todo ih =>
    have hstep := not_dropped_of_passing entry d.event bus
    obtain ⟨inputs, hbus, hinputs⟩ := ih
      ((d.step config passing bus).2.step config passing bus).2
      (by simp [step, hstage, finishAttempt, passing, hstep])
    refine ⟨(passing, bus) :: (passing, bus) :: inputs, by simpa using hbus, ?_⟩
    simp only [intercepted, hinputs]
    simp [turn, step, hstage, finishAttempt]

end Dispatch

namespace Dispatch

variable {config : Config} {d : Dispatch}

/-- The sync subscriptions a dispatch finds, sorted by the walk and then by priority. -/
theorem filter_lookup_eq {index : SubjectIndex} {live : List SubscriptionEntry}
    (h : index.Represents live) (d : Dispatch) :
    ((index.lookup d.subject).filter fun entry ↦
        entry.filter.all (·.matches config.json d.current) ∧ entry.mode = .sync) =
      sortByKey (·.priority) (sortByKey (·.walkRank) (live.filter (d.Intercepts config))) := by
  have hfilter : live.filter (d.Intercepts config) =
      (SubjectIndex.matching d.subject live).filter fun entry ↦
        entry.filter.all (·.matches config.json d.current) ∧ entry.mode = .sync := by
    rw [SubjectIndex.matching, List.filter_filter]
    refine List.filter_congr fun entry _ ↦ ?_
    have hiff : d.Intercepts config entry ↔
        (entry.filter.all (·.matches config.json d.current) ∧ entry.mode = .sync) ∧
          patternMatches (tokens entry.subjectPattern) (tokens d.subject) := and_comm
    rw [decide_eq_decide.mpr hiff, Bool.decide_and, Bool.decide_eq_true]
  rw [h.lookup_eq, hfilter, sortByKey_filter, sortByKey_filter]

/-- The lookup of a dispatch. -/
theorem ahead_resolve (config : Config) (hstart : d.stage = .resolve) (input : DispatchInput) (bus : Bus) :
    (d.step config input bus).2.stage.isResolved ∧
      (d.step config input bus).2.stage.ahead config d.current =
        ((bus.index.lookup d.subject).filter fun entry ↦
          entry.filter.all (·.matches config.json d.current) ∧ entry.mode = .sync).map (·.id) := by
  simp only [step, hstart]
  split_ifs with hempty
  · rw [List.isEmpty_iff.mp hempty]
    exact ⟨rfl, rfl⟩
  · exact ⟨rfl, rfl⟩

/-- When nothing is dropped, every sync subscription that was found is run. -/
theorem exists_intercepted_mark (config : Config) (bus : Bus) (d : Dispatch)
    {entries : List SubscriptionEntry} (hstage : d.stage = .mark entries) :
    ∃ inputs, d.intercepted config inputs = d.stage.ahead config d.current := by
  by_cases hkept : (entries.filter fun entry ↦
      entry.filter.all (·.matches config.json d.current)).isEmpty
  · refine ⟨[], ?_⟩
    have hnone : (entries.filter fun entry ↦ entry.filter.all (·.matches config.json d.current)) =
        [] := List.isEmpty_iff.mp hkept
    rw [List.filter_eq_nil_iff] at hnone
    have hahead : (entries.filter fun entry ↦
        entry.filter.all (·.matches config.json d.current) ∧ entry.mode = .sync) = [] :=
      List.filter_eq_nil_iff.mpr fun entry hmem haccept ↦
        hnone entry hmem (of_decide_eq_true haccept).1
    rw [hstage, Stage.ahead, hahead]
    rfl
  · obtain ⟨inputs, -, hinputs⟩ := exists_intercepted_chain config bus _ _
      ((d.step config passing bus).2.step config passing bus).2
      (by simp only [step, hstage, if_neg hkept]; rfl)
    refine ⟨(passing, bus) :: (passing, bus) :: inputs, ?_⟩
    simp only [intercepted, hinputs]
    simp [turn, step, hstage, hkept, Stage.ahead, Bus.syncEntry, Function.comp_def,
      List.filter_filter, and_comm]

/-- The ids of the subscriptions that a dispatch should run: by priority, and those of equal priority
in the order in which they were registered. -/
def interceptOrder (config : Config) (d : Dispatch) (live : List SubscriptionEntry) : List String :=
  (sortByKey (·.priority) (live.filter (d.Intercepts config))).map (·.id)

theorem eq_of_map_id_eq {l l' live : List SubscriptionEntry} (hdistinct : (live.map (·.id)).Nodup)
    (hl : ∀ entry ∈ l, entry ∈ live) (hl' : ∀ entry ∈ l', entry ∈ live)
    (h : l.map (·.id) = l'.map (·.id)) : l = l' := by
  have hlength : l.length = l'.length := by simpa using congrArg List.length h
  refine List.ext_getElem hlength fun i hi hi' ↦ ?_
  refine List.inj_on_of_nodup_map hdistinct (hl _ (List.getElem_mem hi)) (hl' _ (List.getElem_mem hi'))
    ?_
  have hid := List.getElem_of_eq h (by simpa using hi)
  simpa using hid

/-- A dispatch runs its sync subscriptions in the order of priority and registration, whatever
happens beside it, if and only if no two of equal priority that it finds were registered against the
order of the walk. -/
theorem intercepted_in_order_iff (config : Config) (ops : List IndexOp)
    (hdistinct : IndexOp.DistinctIds ops) (d : Dispatch) (hstart : d.stage = .resolve) :
    (∀ input bus rest, bus.index = SubjectIndex.machine.run .new ops →
        d.intercepted config ((input, bus) :: rest) <+: d.interceptOrder config (liveEntries ops)) ↔
      ((liveEntries ops).filter (d.Intercepts config)).Pairwise fun a b ↦
        a.priority = b.priority → a.walkRank ≤ b.walkRank := by
  have hlive := SubjectIndex.distinct_liveEntries hdistinct
  have hrepresents := SubjectIndex.represents_run ops
  have hcurrent (input : DispatchInput) (bus : Bus) :
      (d.step config input bus).2.current = d.current := by simp [step, hstart]
  have hturn : d.turn = none := by simp [turn, hstart]
  rw [← sortByKey_sortByKey_eq_iff fun entry : SubscriptionEntry ↦ entry.priority]
  constructor
  · intro h
    let bus : Bus := { Bus.onStore .empty 0 with index := SubjectIndex.machine.run .new ops }
    have hahead := (ahead_resolve config hstart passing bus).2
    rw [filter_lookup_eq hrepresents] at hahead
    have hfull : ∃ rest, (d.step config passing bus).2.intercepted config rest =
        (d.step config passing bus).2.stage.ahead config d.current := by
      by_cases hempty : (bus.index.lookup d.subject).isEmpty
      · refine ⟨[], ?_⟩
        simp only [step, hstart, if_pos hempty]
        rfl
      · rw [← hcurrent passing bus]
        have hmark : (d.step config passing bus).2.stage = .mark (bus.index.lookup d.subject) := by
          simp only [step, hstart, if_neg hempty]
        exact exists_intercepted_mark config bus _ hmark
    obtain ⟨rest, hrest⟩ := hfull
    have hprefix := h passing bus rest rfl
    rw [intercepted, hturn, Option.toList_none, List.nil_append, hrest, hahead] at hprefix
    have hperm := (sortByKey_perm (fun entry : SubscriptionEntry ↦ entry.priority)
      (sortByKey (·.walkRank) ((liveEntries ops).filter (d.Intercepts config)))).trans
        ((sortByKey_perm _ _).trans (sortByKey_perm (fun entry : SubscriptionEntry ↦ entry.priority)
          ((liveEntries ops).filter (d.Intercepts config))).symm)
    have heq := hprefix.eq_of_length (by simpa [interceptOrder] using hperm.length_eq)
    refine eq_of_map_id_eq hlive (fun entry hmem ↦ ?_) (fun entry hmem ↦ ?_) heq
    · exact (List.mem_filter.mp (mem_sortByKey.mp (mem_sortByKey.mp hmem))).1
    · exact (List.mem_filter.mp (mem_sortByKey.mp hmem)).1
  · intro h input bus rest hindex
    obtain ⟨hresolved, hahead⟩ := ahead_resolve config hstart input bus
    rw [hindex, filter_lookup_eq hrepresents, h] at hahead
    have hprefix := intercepted_prefix_ahead config hresolved rest
    rw [hcurrent, hahead] at hprefix
    rwa [intercepted, hturn, Option.toList_none, List.nil_append]

end Dispatch

/-- A sync subscription without a filter. -/
def syncSubscription (id subjectPattern : String) (priority : ℕ) : IndexOp :=
  .subscribe
    { id, subjectPattern, priority, mode := .sync, channel := .inProcess, timeout := 5000,
      filter := none }

/-- A dispatch on `a.b` that has just started. -/
def startedDispatch : Dispatch where
  seq := 1
  subject := "a.b"
  payload := [1]
  replySubject := none
  isReply := false
  current := [1]
  anyFailed := false
  stage := .resolve

/-- Patterns registered in the order of the walk, and one that comes earlier by its priority. -/
theorem intercepted_in_order_of_walk :
    let ops := [syncSubscription "first" "a.b" 5, syncSubscription "second" "a.*" 5,
      syncSubscription "third" "a.b" 1]
    ∀ input bus rest, bus.index = SubjectIndex.machine.run .new ops →
      startedDispatch.intercepted (.plain 5) ((input, bus) :: rest) <+:
        startedDispatch.interceptOrder (.plain 5) (liveEntries ops) :=
  (Dispatch.intercepted_in_order_iff (.plain 5) _ (by decide) startedDispatch rfl).mpr
    (by decide +kernel)

/-- The interceptor on `a.b` runs before the one on `a.*` that was registered first. -/
theorem literal_runs_before_earlier_wildcard :
    let ops := [syncSubscription "first" "a.*" 5, syncSubscription "second" "a.b" 5]
    ¬∀ input bus rest, bus.index = SubjectIndex.machine.run .new ops →
      startedDispatch.intercepted (.plain 5) ((input, bus) :: rest) <+:
        startedDispatch.interceptOrder (.plain 5) (liveEntries ops) := by
  intro ops h
  let bus : Bus := { Bus.onStore .empty 0 with index := SubjectIndex.machine.run .new ops }
  have hprefix := h Dispatch.passing bus (List.replicate 3 (Dispatch.passing, bus)) rfl
  revert hprefix
  decide +kernel

end Seidrum.EventBus
