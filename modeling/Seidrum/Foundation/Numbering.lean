import Mathlib.Data.List.Induction
import Mathlib.Order.Nat
import Seidrum.Foundation.Transition

/-!
# Numbering by the largest live number

A log numbers each new entry with the least positive number above all entries it still holds, and
remembers nothing else.  Such a log never gives the same number twice exactly when, each time it
gives a number, the entry it numbered last is still there.
-/

namespace Seidrum.Foundation

/-- A machine that numbers entries above the live ones. -/
structure NumberedLog {σ Input Output : Type*} (machine : Machine σ Input Output) where
  /-- The inputs that ask for a number. -/
  Issues : Input → Prop
  /-- The number an input was given, read off its output. -/
  issued : Input → Output → Option ℕ
  live : σ → ℕ → Prop
  issued_ne_none : ∀ state input, issued input (machine state input).1 ≠ none ↔ Issues input
  issued_pos : ∀ {state input n}, issued input (machine state input).1 = some n → 0 < n
  issued_above : ∀ {state input n}, issued input (machine state input).1 = some n →
    ∀ k, live state k → k < n
  issued_least : ∀ {state input n}, issued input (machine state input).1 = some n →
    ∀ m, 0 < m → (∀ k, live state k → k < m) → n ≤ m
  live_step : ∀ {state input k}, live (machine state input).2 k →
    live state k ∨ issued input (machine state input).1 = some k

namespace NumberedLog

variable {σ Input Output : Type*} {machine : Machine σ Input Output} (log : NumberedLog machine)

/-- The numbers issued along a list of inputs, in order. -/
def numbers (state : σ) (inputs : List Input) : List ℕ :=
  (inputs.zip (machine.outputs state inputs)).filterMap fun entry ↦ log.issued entry.1 entry.2

/-- Whenever a number is asked for, the one issued last is live. -/
def LastKept (state : σ) (inputs : List Input) : Prop :=
  ∀ before input after, inputs = before ++ input :: after → log.Issues input →
    ∀ n ∈ (log.numbers state before).getLast?, log.live (machine.run state before) n

theorem numbers_concat (state : σ) (inputs : List Input) (input : Input) :
    log.numbers state (inputs ++ [input]) = log.numbers state inputs ++
      (log.issued input (machine (machine.run state inputs) input).1).toList := by
  unfold numbers
  rw [Machine.outputs_concat, List.zip_append (by simp), List.filterMap_append]
  cases hissued : log.issued input (machine (machine.run state inputs) input).1 <;>
    simp [hissued]

theorem numbers_pos (state : σ) (inputs : List Input) : ∀ n ∈ log.numbers state inputs, 0 < n := by
  induction inputs using List.reverseRecOn with
  | nil => simp [numbers]
  | append_singleton inputs input ih =>
    intro n hn
    rw [numbers_concat, List.mem_append, Option.mem_toList] at hn
    exact hn.elim (ih n) fun hissued ↦ log.issued_pos hissued

/-- Every live number was issued. -/
theorem live_run {state : σ} (hinit : ∀ k, ¬ log.live state k) (inputs : List Input) {k : ℕ}
    (hlive : log.live (machine.run state inputs) k) : k ∈ log.numbers state inputs := by
  induction inputs using List.reverseRecOn with
  | nil => exact absurd hlive (hinit k)
  | append_singleton inputs input ih =>
    rw [Machine.run_concat] at hlive
    rw [numbers_concat, List.mem_append, Option.mem_toList]
    exact (log.live_step hlive).imp_left ih

theorem lastKept_concat (state : σ) (inputs : List Input) (input : Input) :
    log.LastKept state (inputs ++ [input]) ↔ log.LastKept state inputs ∧
      (log.Issues input →
        ∀ n ∈ (log.numbers state inputs).getLast?, log.live (machine.run state inputs) n) := by
  constructor
  · intro h
    constructor
    · intro before other after hsplit
      exact h before other (after ++ [input]) (by rw [hsplit, List.append_assoc, List.cons_append])
    · exact h inputs input [] rfl
  · intro h before other after hsplit
    obtain rfl | ⟨after, last, rfl⟩ := List.eq_nil_or_concat after
    · obtain ⟨rfl, hlast⟩ := List.append_inj' hsplit rfl
      obtain rfl := List.singleton_inj.mp hlast
      exact h.2
    · rw [List.concat_eq_append, ← List.cons_append, ← List.append_assoc] at hsplit
      exact h.1 before other after (List.append_inj' hsplit rfl).1

/-- A number issued after increasing ones is larger than all of them exactly when the last of them
is live. -/
theorem above_iff_last_live {state : σ} (hinit : ∀ k, ¬ log.live state k) {inputs : List Input}
    (hincreasing : (log.numbers state inputs).Pairwise (· < ·)) {input : Input} {n : ℕ}
    (hissued : log.issued input (machine (machine.run state inputs) input).1 = some n) :
    (∀ m ∈ log.numbers state inputs, m < n) ↔
      ∀ m ∈ (log.numbers state inputs).getLast?, log.live (machine.run state inputs) m := by
  obtain hnil | ⟨front, last, hsplit⟩ := List.eq_nil_or_concat (log.numbers state inputs)
  · simp [hnil]
  rw [List.concat_eq_append] at hsplit
  have hfront : ∀ m ∈ front, m < last := by
    rw [hsplit, List.pairwise_append] at hincreasing
    exact fun m hm ↦ hincreasing.2.2 m hm last List.mem_cons_self
  have hlast : last ∈ log.numbers state inputs := by simp [hsplit]
  have hle (m : ℕ) (hm : m ∈ log.numbers state inputs) : m ≤ last := by
    rw [hsplit, List.mem_append, List.mem_singleton] at hm
    exact hm.elim (fun h ↦ (hfront m h).le) fun h ↦ h.le
  have hgetLast : (log.numbers state inputs).getLast? = some last := by
    rw [hsplit, List.getLast?_concat]
  simp only [hgetLast, Option.mem_def, Option.some.injEq, forall_eq']
  constructor
  · intro habove
    by_contra hdead
    -- without the last one, every live number is below it
    have hbelow (k : ℕ) (hk : log.live (machine.run state inputs) k) : k < last :=
      lt_of_le_of_ne (hle k (log.live_run hinit inputs hk)) fun heq ↦ hdead (heq ▸ hk)
    have hleast := log.issued_least hissued last (log.numbers_pos state inputs last hlast) hbelow
    exact absurd (habove last hlast) hleast.not_gt
  · intro hlive m hm
    exact (hle m hm).trans_lt (log.issued_above hissued last hlive)

/-- The numbers issued along a run increase exactly when each is issued while the one before it is
still live. -/
theorem numbers_increasing_iff {state : σ} (hinit : ∀ k, ¬ log.live state k)
    (inputs : List Input) :
    (log.numbers state inputs).Pairwise (· < ·) ↔ log.LastKept state inputs := by
  induction inputs using List.reverseRecOn with
  | nil => simp [numbers, LastKept]
  | append_singleton inputs input ih =>
    rw [numbers_concat, lastKept_concat, List.pairwise_append, ih,
      ← log.issued_ne_none (machine.run state inputs) input]
    apply and_congr_right
    intro hkept
    cases hissued : log.issued input (machine (machine.run state inputs) input).1 with
    | none => simp
    | some n =>
      have habove := log.above_iff_last_live hinit (ih.mpr hkept) hissued
      simpa using habove

end NumberedLog

end Seidrum.Foundation
