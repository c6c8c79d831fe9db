import Mathlib.Data.List.Nodup
import Seidrum.Foundation.Program

/-!
# Numbering by a count read beforehand

Tasks share logs, each under a key.  A task that adds entries counts a log once, gives its first
entry the next number and counts on by itself from there.  The numbers come out as 1, 2, 3, … in
the order of the log exactly when no task adds an entry after another has added to the log since
the task counted it; otherwise some number is given twice.
-/

namespace Seidrum.Foundation

/-! ## Accesses to the logs -/

/-- What an operation means to the logs. -/
inductive Access (Key : Type*)
  | count (key : Key) (length : ℕ)
  | add (key : Key) (number : ℕ)
  | other

variable {Key : Type*} [DecidableEq Key]

/-- The numbers in a log, in its order. -/
def numbers (key : Key) (history : List (ℕ × Access Key)) : List ℕ :=
  history.filterMap fun entry ↦
    match entry.2 with
    | .add key' number => if key' = key then some number else none
    | _ => none

/-- The number a task gives next: one past its count of the log and its own additions since. -/
def nextNumber (task : ℕ) (key : Key) (history : List (ℕ × Access Key)) : Option ℕ :=
  history.foldl (fun next entry ↦
    if entry.1 ≠ task then next
    else match entry.2 with
      | .count key' length => if key' = key then some (length + 1) else next
      | .add key' _ => if key' = key then next.map (· + 1) else next
      | .other => next) none

/-- What the other tasks have added to a log since a task counted it. -/
def addedByOthers (task : ℕ) (key : Key) (history : List (ℕ × Access Key)) : ℕ :=
  history.foldl (fun added entry ↦
    match entry.2 with
    | .count key' _ => if entry.1 = task ∧ key' = key then 0 else added
    | .add key' _ => if entry.1 ≠ task ∧ key' = key then added + 1 else added
    | .other => added) 0

/-- Counts are right when they are taken. -/
def Truthful : List (ℕ × Access Key) → Prop :=
  Throughout fun before entry ↦
    ∀ key length, entry.2 = .count key length → length = (numbers key before).length

/-- Tasks count on from what they counted. -/
def CountsOn : List (ℕ × Access Key) → Prop :=
  Throughout fun before entry ↦
    ∀ key number, entry.2 = .add key number → nextNumber entry.1 key before = some number

/-- No task adds to a log after another has added to it since the task counted it. -/
def Undisturbed (key : Key) : List (ℕ × Access Key) → Prop :=
  Throughout fun before entry ↦
    ∀ number, entry.2 = .add key number → addedByOthers entry.1 key before = 0

section History

variable {key : Key} {history : List (ℕ × Access Key)} {task : ℕ}

theorem numbers_concat (entry : ℕ × Access Key) :
    numbers key (history ++ [entry]) = numbers key history ++
      (match entry.2 with
        | .add key' number => if key' = key then [number] else []
        | _ => []) := by
  obtain ⟨i, access⟩ := entry
  rw [numbers, numbers, List.filterMap_append]
  congr 1
  cases access with
  | add key' number => by_cases h : key' = key <;> simp [h]
  | count key' length | other => rfl

theorem nextNumber_concat (entry : ℕ × Access Key) :
    nextNumber task key (history ++ [entry]) =
      if entry.1 ≠ task then nextNumber task key history
      else match entry.2 with
        | .count key' length => if key' = key then some (length + 1) else nextNumber task key history
        | .add key' _ =>
            if key' = key then (nextNumber task key history).map (· + 1)
            else nextNumber task key history
        | .other => nextNumber task key history :=
  List.foldl_concat _ _ _ _

theorem addedByOthers_concat (entry : ℕ × Access Key) :
    addedByOthers task key (history ++ [entry]) =
      match entry.2 with
      | .count key' _ => if entry.1 = task ∧ key' = key then 0 else addedByOthers task key history
      | .add key' _ =>
          if entry.1 ≠ task ∧ key' = key then addedByOthers task key history + 1
          else addedByOthers task key history
      | .other => addedByOthers task key history :=
  List.foldl_concat _ _ _ _

/-- A task's next number and what the others have added make up the length of the log. -/
theorem nextNumber_add_addedByOthers (htruthful : Truthful history) {next : ℕ}
    (hnext : nextNumber task key history = some next) :
    0 < next ∧ next + addedByOthers task key history = (numbers key history).length + 1 := by
  induction history using List.reverseRecOn generalizing next with
  | nil => cases hnext
  | append_singleton history entry ih =>
    obtain ⟨hbefore, hentry⟩ := throughout_concat.mp htruthful
    obtain ⟨i, access⟩ := entry
    rw [nextNumber_concat] at hnext
    rw [addedByOthers_concat, numbers_concat]
    cases access with
    | other =>
      have hsame : nextNumber task key history = some next := by simpa using hnext
      simpa using ih hbefore hsame
    | count key' length =>
      by_cases hown : i = task ∧ key' = key
      · obtain ⟨rfl, rfl⟩ := hown
        have hlength := hentry key' length rfl
        obtain rfl : length + 1 = next := by simpa using hnext
        simp [← hlength]
      · have hsame : nextNumber task key history = some next := by
          by_cases hi : i = task
          · simpa [hi, show key' ≠ key from fun h ↦ hown ⟨hi, h⟩] using hnext
          · simpa [hi] using hnext
        simpa [hown] using ih hbefore hsame
    | add key' number =>
      by_cases hkey : key' = key
      · by_cases hi : i = task
        · obtain ⟨own, hown, rfl⟩ : ∃ own, nextNumber task key history = some own ∧
              own + 1 = next := by simpa [hi, hkey] using hnext
          have hold := ih hbefore hown
          simp only [hi, hkey, ne_eq, not_true_eq_false, false_and, if_false, if_true,
            List.length_append, List.length_singleton]
          omega
        · have hsame : nextNumber task key history = some next := by simpa [hi] using hnext
          have hold := ih hbefore hsame
          simp only [hi, hkey, ne_eq, not_false_eq_true, true_and, if_true,
            List.length_append, List.length_singleton]
          omega
      · have hsame : nextNumber task key history = some next := by
          by_cases hi : i = task <;> simpa [hi, hkey] using hnext
        simpa [hkey] using ih hbefore hsame

/-- Undisturbed logs are numbered without gaps in their order. -/
theorem numbers_eq_range' (htruthful : Truthful history) (hcounts : CountsOn history)
    (hundisturbed : Undisturbed key history) :
    numbers key history = List.range' 1 (numbers key history).length := by
  induction history using List.reverseRecOn with
  | nil => rfl
  | append_singleton history entry ih =>
    obtain ⟨htruthBefore, -⟩ := throughout_concat.mp htruthful
    obtain ⟨hcountsBefore, hnumber⟩ := throughout_concat.mp hcounts
    obtain ⟨hundisturbedBefore, halone⟩ := throughout_concat.mp hundisturbed
    have hbefore := ih htruthBefore hcountsBefore hundisturbedBefore
    rw [numbers_concat]
    obtain ⟨i, access⟩ := entry
    cases access with
    | other | count key' length => simpa using hbefore
    | add key' number =>
      by_cases hkey : key' = key
      · subst hkey
        have hnext := (nextNumber_add_addedByOthers htruthBefore (hnumber key' number rfl)).2
        rw [halone number rfl] at hnext
        dsimp only
        rw [if_pos rfl, List.length_append, List.length_singleton, List.range'_1_concat, ← hbefore,
          show number = 1 + (numbers key' history).length by omega]
      · simpa [hkey] using hbefore

/-- A log whose numbers differ was never disturbed. -/
theorem undisturbed_of_nodup (htruthful : Truthful history) (hcounts : CountsOn history)
    (hnodup : (numbers key history).Nodup) : Undisturbed key history := by
  induction history using List.reverseRecOn with
  | nil => exact throughout_nil
  | append_singleton history entry ih =>
    obtain ⟨htruthBefore, -⟩ := throughout_concat.mp htruthful
    obtain ⟨hcountsBefore, hnumber⟩ := throughout_concat.mp hcounts
    rw [numbers_concat] at hnodup
    obtain ⟨hbefore, -, hdisjoint⟩ := List.nodup_append.mp hnodup
    have hundisturbed := ih htruthBefore hcountsBefore hbefore
    refine throughout_concat.mpr ⟨hundisturbed, ?_⟩
    intro number hadd
    obtain ⟨i, access⟩ := entry
    obtain rfl : access = .add key number := hadd
    obtain ⟨hpos, hnext⟩ := nextNumber_add_addedByOthers htruthBefore (hnumber key number rfl)
    -- a number below the length of the log is already taken
    have hrange := numbers_eq_range' htruthBefore hcountsBefore hundisturbed
    have hnew : number ∉ numbers key history :=
      fun hmem ↦ hdisjoint number hmem number (by simp) rfl
    rw [hrange, List.mem_range'_1] at hnew
    dsimp only at hnext ⊢
    omega

/-- Numbers given by a count read beforehand are distinct in the undisturbed histories only. -/
theorem nodup_iff_undisturbed (htruthful : Truthful history) (hcounts : CountsOn history) :
    (numbers key history).Nodup ↔ Undisturbed key history := by
  constructor
  · exact undisturbed_of_nodup htruthful hcounts
  · intro h
    rw [numbers_eq_range' htruthful hcounts h]
    exact List.nodup_range'

end History

section Ledger

universe u v w

variable {Op : Type u} {Answer : Op → Type v} {α : Type w} {σ Input Env : Type*}
variable {perform : σ → (op : Op) → Env → Option (Answer op × σ)}

/-- The logs in a shared state, and what each operation means to them. -/
structure Ledger (perform : σ → (op : Op) → Env → Option (Answer op × σ)) (Key : Type*)
    [DecidableEq Key] where
  access : (op : Op) → Answer op → Access Key
  log : Key → σ → List ℕ
  log_count : ∀ {shared op env answer shared' key length},
    perform shared op env = some (answer, shared') → access op answer = .count key length →
      length = (log key shared).length
  log_step : ∀ {shared op env answer shared'} (key : Key),
    perform shared op env = some (answer, shared') →
      log key shared' = log key shared ++
        (match access op answer with
          | .add key' number => if key' = key then [number] else []
          | _ => [])

namespace Ledger

variable (ledger : Ledger perform Key)

def history (trace : List (Performed Answer)) : List (ℕ × Access Key) :=
  trace.map fun event ↦ (event.task, ledger.access event.op event.answer)

/-- A task adds to a log only the number that follows from its count and its own additions. -/
def protocol : Protocol Answer (Key → Option ℕ) where
  allowed next op := ∀ answer key number, ledger.access op answer = .add key number →
    next key = some number
  after next op answer :=
    match ledger.access op answer with
    | .count key length => Function.update next key (some (length + 1))
    | .add key _ => Function.update next key ((next key).map (· + 1))
    | .other => next

variable {ledger}

theorem protocol_after (next : Key → Option ℕ) (op : Op) (answer : Answer op) :
    ledger.protocol.after next op answer =
      match ledger.access op answer with
      | .count key length => Function.update next key (some (length + 1))
      | .add key _ => Function.update next key ((next key).map (· + 1))
      | .other => next := rfl

theorem history_concat (trace : List (Performed Answer)) (event : Performed Answer) :
    ledger.history (trace ++ [event]) =
      ledger.history trace ++ [(event.task, ledger.access event.op event.answer)] := by
  simp [history]

/-- Where a task stands in the protocol is its next number for each log. -/
theorem replay_events (trace : List (Performed Answer)) (i : ℕ) (key : Key) :
    ledger.protocol.replay (fun _ ↦ none) (trace.filter fun event ↦ event.task = i) key =
      nextNumber i key (ledger.history trace) := by
  induction trace using List.reverseRecOn with
  | nil => rfl
  | append_singleton trace event ih =>
    rw [history_concat, nextNumber_concat, List.filter_append]
    by_cases htask : event.task = i
    · have hfilter : [event].filter (fun event ↦ event.task = i) = [event] := by simp [htask]
      rw [hfilter, Protocol.replay_concat, protocol_after]
      simp only [htask, ne_eq, not_true_eq_false, if_false]
      cases ledger.access event.op event.answer with
      | count key' length =>
        by_cases hkey : key' = key
        · subst hkey
          simp
        · simpa [hkey, Function.update_of_ne (Ne.symm hkey)] using ih
      | add key' number =>
        by_cases hkey : key' = key
        · subst hkey
          simpa using congrArg (Option.map (· + 1)) ih
        · simpa [hkey, Function.update_of_ne (Ne.symm hkey)] using ih
      | other => exact ih
    · have hfilter : [event].filter (fun event ↦ event.task = i) = [] := by simp [htask]
      rw [hfilter, List.append_nil, ih, if_pos htask]

variable {body : Input → Program Answer α} {final : Input → (Key → Option ℕ) → α → Prop}
variable {guard : Tasks σ Input Answer α → Move Input Env → Prop} {shared : σ}
variable {state : Tasks σ Input Answer α}

structure Accounted (ledger : Ledger perform Key) (state : Tasks σ Input Answer α) : Prop where
  log : ∀ key, ledger.log key state.shared = numbers key (ledger.history state.trace)
  truthful : Truthful (ledger.history state.trace)
  countsOn : CountsOn (ledger.history state.trace)

section

variable (hbody : ∀ input, (body input).Follows ledger.protocol (final input) fun _ ↦ none)
  (hreach : Steps.Reach (Tasks.step body perform) guard (Tasks.init shared) state)
  (hempty : ∀ key, ledger.log key shared = [])
include hbody hreach hempty

/-- In every interleaving of tasks that keep to their numbers the history accounts for the logs. -/
theorem accounted : Accounted ledger state := by
  apply Tasks.invariant_of_follows (fun input ↦ hbody input) hreach
  · exact ⟨hempty, throughout_nil, throughout_nil⟩
  · exact fun before _ _ hbefore ↦ ⟨hbefore.log, hbefore.truthful, hbefore.countsOn⟩
  · intro before i input op next env answer shared' _ hbefore _ _ hallowed hperform
    have htrace : ledger.history (before.answered i input op next answer shared').trace =
        ledger.history before.trace ++ [(i, ledger.access op answer)] := history_concat _ _
    constructor
    · intro key
      rw [htrace, numbers_concat, ← hbefore.log]
      exact ledger.log_step key hperform
    · rw [htrace]
      refine throughout_concat.mpr ⟨hbefore.truthful, fun key length hcount ↦ ?_⟩
      rw [← hbefore.log, ledger.log_count hperform hcount]
    · rw [htrace]
      refine throughout_concat.mpr ⟨hbefore.countsOn, fun key number hadd ↦ ?_⟩
      rw [← replay_events]
      exact hallowed answer key number hadd

/-- A log holds distinct numbers exactly in the undisturbed interleavings. -/
theorem nodup_iff (key : Key) :
    (ledger.log key state.shared).Nodup ↔ Undisturbed key (ledger.history state.trace) := by
  have haccounted := accounted hbody hreach hempty
  rw [haccounted.log]
  exact nodup_iff_undisturbed haccounted.truthful haccounted.countsOn

/-- A log with distinct numbers is numbered 1, 2, 3, … in its order. -/
theorem eq_range'_of_nodup {key : Key} (hnodup : (ledger.log key state.shared).Nodup) :
    ledger.log key state.shared = List.range' 1 (ledger.log key state.shared).length := by
  have haccounted := accounted hbody hreach hempty
  have hundisturbed := (nodup_iff hbody hreach hempty key).mp hnodup
  rw [haccounted.log]
  exact numbers_eq_range' haccounted.truthful haccounted.countsOn hundisturbed

end

end Ledger

end Ledger

end Seidrum.Foundation
