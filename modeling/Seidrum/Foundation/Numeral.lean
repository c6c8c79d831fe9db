import Mathlib.Algebra.Group.Nat.Defs
import Mathlib.Algebra.GroupWithZero.Nat
import Mathlib.Data.List.Basic
import Mathlib.Data.Nat.Basic

/-!
# Numerals of a fixed width

The digits of a number in a base, the most significant first, as many as a width says.  The first digits of
a numeral are a numeral of a quotient, and a numeral gives back a number that fits its width.
-/

namespace Seidrum.Foundation

/-- The numeral of a number in a base, with a fixed number of digits. -/
def numeral (base : ℕ) : ℕ → ℕ → List ℕ
  | 0, _ => []
  | width + 1, n => numeral base width (n / base) ++ [n % base]

variable {base width n m : ℕ}

@[simp]
theorem length_numeral (base width n : ℕ) : (numeral base width n).length = width := by
  induction width generalizing n with
  | zero => rfl
  | succ width ih => rw [numeral, List.length_append, ih, List.length_singleton]

/-- The first digits of a numeral are those of a quotient. -/
theorem take_numeral (base width rest n : ℕ) :
    (numeral base (width + rest) n).take width = numeral base width (n / base ^ rest) := by
  induction rest generalizing n with
  | zero =>
    rw [Nat.add_zero, Nat.pow_zero, Nat.div_one,
      List.take_of_length_le (Nat.le_of_eq (length_numeral _ _ _))]
  | succ rest ih =>
    have hlength : width ≤ (numeral base (width + rest) (n / base)).length := by
      rw [length_numeral]
      exact Nat.le_add_right width rest
    rw [← Nat.add_assoc, numeral, List.take_append_of_le_length hlength, ih, Nat.div_div_eq_div_mul,
      Nat.pow_succ']

/-- A numeral that is wide enough and printed with distinct digits gives its number back. -/
theorem map_numeral_inj {α : Type*} {digit : ℕ → α} (hbase : 0 < base)
    (hdigit : ∀ a < base, ∀ b < base, digit a = digit b → a = b) (hn : n < base ^ width)
    (hm : m < base ^ width) :
    (numeral base width n).map digit = (numeral base width m).map digit ↔ n = m := by
  refine ⟨fun h ↦ ?_, fun h ↦ by rw [h]⟩
  induction width generalizing n m with
  | zero =>
    rw [Nat.pow_zero, Nat.lt_one_iff] at hn hm
    rw [hn, hm]
  | succ width ih =>
    rw [numeral, numeral, List.map_append, List.map_append] at h
    obtain ⟨hinit, hlast⟩ := List.append_inj' h rfl
    rw [Nat.pow_succ'] at hn hm
    have hquotient : n / base = m / base :=
      ih (Nat.div_lt_of_lt_mul hn) (Nat.div_lt_of_lt_mul hm) hinit
    have hremainder : n % base = m % base :=
      hdigit _ (Nat.mod_lt n hbase) _ (Nat.mod_lt m hbase) (List.singleton_inj.mp hlast)
    rw [← Nat.div_add_mod n base, ← Nat.div_add_mod m base, hquotient, hremainder]

end Seidrum.Foundation
