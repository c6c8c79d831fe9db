import Mathlib.Algebra.Group.Nat.Defs
import Mathlib.Data.Nat.Notation
import Mathlib.Order.Nat
import Mathlib.Tactic.Common

/-!
# Retry backoff

The waiting time before the next attempt: exponential in the attempt number, capped, with up to a
quarter taken off at random.  The random draw is an argument.  The backoff itself is computed without
overflow for all numbers; the sum with the clock is not.  Where overflow is checked the task panics there,
and elsewhere the sum wraps around.
-/

namespace Seidrum.EventBus

/-- The largest 64-bit unsigned number, at which the saturating operations stop. -/
def u64Max : ℕ := 2 ^ 64 - 1

/-- Configuration for delivery retries; backoffs are in milliseconds. -/
structure RetryConfig where
  maxAttempts : ℕ
  initialBackoffMs : ℕ
  maxBackoffMs : ℕ
  deriving DecidableEq, Repr

/-- The configuration used when none is given. -/
def RetryConfig.default : RetryConfig :=
  { maxAttempts := 5, initialBackoffMs := 100, maxBackoffMs := 30000 }

/-- Exponential backoff with subtractive jitter.  The attempt number is 1-indexed; the draw stands
for a uniform one below the jitter range. -/
def calculateBackoff (attempt initialMs maxMs draw : ℕ) : ℕ :=
  let exp := attempt - 1
  let baseMs := min (initialMs * min (2 ^ exp) u64Max) u64Max
  let cappedMs := min baseMs maxMs
  let jitterRange := max (cappedMs / 4) 1
  let jitterMs := draw % jitterRange
  cappedMs - jitterMs

/-- The next retry timestamp of a delivery with a number of failures recorded, in a build that does not
check for overflow. -/
def nextRetryAfter (now attempts : ℕ) (config : RetryConfig) (draw : ℕ) : ℕ :=
  (now + calculateBackoff attempts config.initialBackoffMs config.maxBackoffMs draw) % 2 ^ 64

def saturatingMul (a b : ℕ) : ℕ := min (a * b) u64Max

def saturatingPow (base exp : ℕ) : ℕ := min (base ^ exp) u64Max

/-- A sum that overflows has no result. -/
def checkedAdd (a b : ℕ) : Option ℕ := if a + b ≤ u64Max then some (a + b) else none

/-- A difference that underflows has no result. -/
def checkedSub (a b : ℕ) : Option ℕ := if b ≤ a then some (a - b) else none

/-- A number drawn below a bound; from an empty range nothing is drawn. -/
def randomRange (bound draw : ℕ) : Option ℕ := if bound = 0 then none else some (draw % bound)

/-- `calculateBackoff` in machine arithmetic; without a result it has panicked. -/
def calculateBackoffChecked (attempt initialMs maxMs draw : ℕ) : Option ℕ := do
  let exp := attempt - 1
  let baseMs := saturatingMul initialMs (saturatingPow 2 exp)
  let cappedMs := min baseMs maxMs
  let jitterRange := max (cappedMs / 4) 1
  let jitterMs ← randomRange jitterRange draw
  checkedSub cappedMs jitterMs

/-- `nextRetryAfter` in machine arithmetic; without a result it has panicked. -/
def nextRetryAfterChecked (now attempts : ℕ) (config : RetryConfig) (draw : ℕ) : Option ℕ := do
  let backoff ← calculateBackoffChecked attempts config.initialBackoffMs config.maxBackoffMs draw
  checkedAdd now backoff

/-- The backoff before a random part is taken off, computed without bounds. -/
def cappedBackoff (attempt initialMs maxMs : ℕ) : ℕ := min (initialMs * 2 ^ (attempt - 1)) maxMs

/-- Whatever is drawn, the backoff is computed, and at most a quarter of the capped one is missing. -/
def BacksOff (attempt initialMs maxMs : ℕ) : Prop :=
  ∀ draw, ∃ backoff, calculateBackoffChecked attempt initialMs maxMs draw = some backoff ∧
    cappedBackoff attempt initialMs maxMs - cappedBackoff attempt initialMs maxMs / 4 ≤ backoff ∧
    backoff ≤ cappedBackoff attempt initialMs maxMs

/-- Whatever is drawn, the next retry has a timestamp, which is not in the past. -/
def SchedulesRetry (now attempts : ℕ) (config : RetryConfig) : Prop :=
  ∀ draw, ∃ timestamp, nextRetryAfterChecked now attempts config draw = some timestamp ∧
    now ≤ timestamp

section

variable {now attempt initialMs maxMs : ℕ}

/-- Saturation is hidden by the cap. -/
theorem min_saturating (hmax : maxMs ≤ u64Max) :
    min (saturatingMul initialMs (saturatingPow 2 (attempt - 1))) maxMs =
      cappedBackoff attempt initialMs maxMs := by
  unfold saturatingMul saturatingPow cappedBackoff
  rw [Nat.min_assoc, Nat.min_eq_right hmax]
  rcases Nat.le_total (2 ^ (attempt - 1)) u64Max with hpow | hpow
  · rw [Nat.min_eq_left hpow]
  · rw [Nat.min_eq_right hpow]
    cases initialMs with
    | zero => simp
    | succ n =>
      have hsaturated : maxMs ≤ (n + 1) * u64Max := hmax.trans (Nat.le_mul_of_pos_left _ n.succ_pos)
      have hlarge : (n + 1) * u64Max ≤ (n + 1) * 2 ^ (attempt - 1) := Nat.mul_le_mul_left _ hpow
      rw [Nat.min_eq_right hsaturated, Nat.min_eq_right (hsaturated.trans hlarge)]

/-- A draw below the jitter range takes off no more than a quarter. -/
theorem mod_jitterRange_le (capped draw : ℕ) : draw % max (capped / 4) 1 ≤ capped / 4 := by
  have hlt : draw % max (capped / 4) 1 < max (capped / 4) 1 := Nat.mod_lt _ (by omega)
  omega

theorem calculateBackoffChecked_eq (hmax : maxMs ≤ u64Max) (draw : ℕ) :
    calculateBackoffChecked attempt initialMs maxMs draw =
      some (cappedBackoff attempt initialMs maxMs -
        draw % max (cappedBackoff attempt initialMs maxMs / 4) 1) := by
  have hjitter := mod_jitterRange_le (cappedBackoff attempt initialMs maxMs) draw
  have hrange : max (cappedBackoff attempt initialMs maxMs / 4) 1 ≠ 0 := by omega
  have hfits : draw % max (cappedBackoff attempt initialMs maxMs / 4) 1 ≤
      cappedBackoff attempt initialMs maxMs := by omega
  simp only [calculateBackoffChecked, min_saturating hmax, randomRange, if_neg hrange,
    Option.bind_eq_bind, Option.bind_some, checkedSub, if_pos hfits]

/-- The arithmetic of the machine agrees with the one without bounds. -/
theorem calculateBackoffChecked_eq_some (hmax : maxMs ≤ u64Max) (draw : ℕ) :
    calculateBackoffChecked attempt initialMs maxMs draw =
      some (calculateBackoff attempt initialMs maxMs draw) := by
  rw [calculateBackoffChecked_eq hmax, ← min_saturating hmax]
  rfl

theorem backsOff (attempt initialMs : ℕ) (hmax : maxMs ≤ u64Max) : BacksOff attempt initialMs maxMs := by
  intro draw
  have hjitter := mod_jitterRange_le (cappedBackoff attempt initialMs maxMs) draw
  exact ⟨_, calculateBackoffChecked_eq hmax draw, Nat.sub_le_sub_left hjitter _, Nat.sub_le _ _⟩

theorem calculateBackoff_le (attempt initialMs maxMs draw : ℕ) :
    calculateBackoff attempt initialMs maxMs draw ≤ cappedBackoff attempt initialMs maxMs := by
  refine (Nat.sub_le _ _).trans (Nat.le_min.mpr ⟨?_, Nat.min_le_right _ _⟩)
  calc min (min (initialMs * min (2 ^ (attempt - 1)) u64Max) u64Max) maxMs
      ≤ initialMs * min (2 ^ (attempt - 1)) u64Max := (Nat.min_le_left _ _).trans (Nat.min_le_left _ _)
    _ ≤ initialMs * 2 ^ (attempt - 1) := Nat.mul_le_mul_left _ (Nat.min_le_left _ _)

section

variable {config : RetryConfig} {attempts : ℕ}
  (hfits : now + cappedBackoff attempts config.initialBackoffMs config.maxBackoffMs ≤ u64Max)
include hfits

theorem nextRetryAfter_eq (draw : ℕ) : nextRetryAfter now attempts config draw =
    now + calculateBackoff attempts config.initialBackoffMs config.maxBackoffMs draw := by
  have hle := calculateBackoff_le attempts config.initialBackoffMs config.maxBackoffMs draw
  exact Nat.mod_eq_of_lt (Nat.lt_of_le_pred (by decide) ((Nat.add_le_add_left hle now).trans hfits))

theorem le_nextRetryAfter (draw : ℕ) : now ≤ nextRetryAfter now attempts config draw := by
  rw [nextRetryAfter_eq hfits]
  exact Nat.le_add_right _ _

/-- Where the sum fits, builds with and without overflow checks agree. -/
theorem nextRetryAfterChecked_eq (hmax : config.maxBackoffMs ≤ u64Max) (draw : ℕ) :
    nextRetryAfterChecked now attempts config draw = some (nextRetryAfter now attempts config draw) := by
  have hle := calculateBackoff_le attempts config.initialBackoffMs config.maxBackoffMs draw
  rw [nextRetryAfterChecked, calculateBackoffChecked_eq_some hmax, nextRetryAfter_eq hfits]
  exact if_pos ((Nat.add_le_add_left hle now).trans hfits)

end

/-- The draw of nothing gives the longest backoff. -/
theorem schedulesRetry_iff {config : RetryConfig} (hmax : config.maxBackoffMs ≤ u64Max)
    (attempts : ℕ) : SchedulesRetry now attempts config ↔
      now + cappedBackoff attempts config.initialBackoffMs config.maxBackoffMs ≤ u64Max := by
  constructor
  · intro hschedules
    obtain ⟨timestamp, hnext, -⟩ := hschedules 0
    rw [nextRetryAfterChecked, calculateBackoffChecked_eq hmax, Nat.zero_mod, Nat.sub_zero] at hnext
    by_contra hover
    simp [checkedAdd, hover] at hnext
  · intro hfits draw
    obtain ⟨backoff, hbackoff, -, hle⟩ := backsOff attempts config.initialBackoffMs hmax draw
    refine ⟨now + backoff, ?_, Nat.le_add_right _ _⟩
    rw [nextRetryAfterChecked, hbackoff]
    exact if_pos ((Nat.add_le_add_left hle now).trans hfits)

end

/-- The backoff is always within its bounds; the timestamp of the retry is computed exactly if the sum of
the clock and the capped backoff does not overflow. -/
theorem backoff_within_bounds_iff (now attempts : ℕ) (config : RetryConfig)
    (hmax : config.maxBackoffMs ≤ u64Max) :
    (BacksOff attempts config.initialBackoffMs config.maxBackoffMs ∧
      SchedulesRetry now attempts config) ↔
      now + cappedBackoff attempts config.initialBackoffMs config.maxBackoffMs ≤ u64Max := by
  rw [and_iff_right (backsOff _ _ hmax), schedulesRetry_iff hmax]

theorem backoff_within_bounds_default : BacksOff 3 100 30000 ∧
    SchedulesRetry 1700000000000 3 RetryConfig.default :=
  (backoff_within_bounds_iff 1700000000000 3 RetryConfig.default (by decide)).mpr (by decide)

/-- A configuration without a cap overflows at once. -/
theorem backoff_within_bounds_false :
    ¬∀ (now attempts : ℕ) (config : RetryConfig), now ≤ u64Max → attempts < 2 ^ 32 →
      config.initialBackoffMs ≤ u64Max → config.maxBackoffMs ≤ u64Max →
      BacksOff attempts config.initialBackoffMs config.maxBackoffMs ∧
        SchedulesRetry now attempts config := by
  intro hall
  obtain ⟨-, hschedules⟩ := hall 1700000000000 1 ⟨5, u64Max, u64Max⟩ (by decide) (by decide)
    le_rfl le_rfl
  obtain ⟨timestamp, hnext, -⟩ := hschedules 0
  have hnone : nextRetryAfterChecked 1700000000000 1 ⟨5, u64Max, u64Max⟩ 0 = none := by decide
  rw [hnone] at hnext
  cases hnext

end Seidrum.EventBus
