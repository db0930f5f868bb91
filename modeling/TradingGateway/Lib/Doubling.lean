import Mathlib.Algebra.Order.Group.Nat
import Mathlib.Order.Nat

/-!
# Delays that double up to a cap

`Doubling.delay base cap k` is the delay after `k` doublings, over the natural numbers. A delay with
an exponent that stops at `e` is the same exactly if it was not doubled more often, or `e` doublings
reach the cap (`Doubling.delay_min_eq_iff`).
-/

namespace Doubling

/-- `base`, doubled `k` times, or the cap. -/
def delay (base cap k : ℕ) : ℕ := min (base * 2 ^ k) cap

variable {base : ℕ} (cap : ℕ)

theorem delay_succ (base k : ℕ) : delay base cap (k + 1) = min (delay base cap k * 2) cap := by
  unfold delay
  rw [Nat.pow_succ, ← Nat.mul_assoc]
  omega

theorem delay_mono (base : ℕ) {k k' : ℕ} (h : k ≤ k') : delay base cap k ≤ delay base cap k' := by
  have hpow : 2 ^ k ≤ 2 ^ k' := Nat.pow_le_pow_right (by omega) h
  have hmul : base * 2 ^ k ≤ base * 2 ^ k' := Nat.mul_le_mul_left base hpow
  unfold delay
  omega

/-- Two delays are the same if they were doubled as often, or both are the cap. -/
theorem delay_eq_iff (hbase : 0 < base) (m n : ℕ) :
    delay base cap m = delay base cap n ↔
      m = n ∨ cap ≤ base * 2 ^ m ∧ cap ≤ base * 2 ^ n := by
  unfold delay
  constructor
  · intro h
    by_cases hm : cap ≤ base * 2 ^ m
    · right
      omega
    · left
      have hpow : base * 2 ^ m = base * 2 ^ n := by omega
      exact Nat.pow_right_injective le_rfl (Nat.eq_of_mul_eq_mul_left hbase hpow)
  · rintro (rfl | h)
    · rfl
    · omega

theorem delay_min_eq_iff (base k e : ℕ) :
    delay base cap (min k e) = delay base cap k ↔ k ≤ e ∨ base = 0 ∨ cap ≤ base * 2 ^ e := by
  by_cases hk : k ≤ e
  · rw [Nat.min_eq_left hk]
    exact iff_of_true rfl (.inl hk)
  · rw [Nat.min_eq_right (by omega)]
    rcases Nat.eq_zero_or_pos base with rfl | hbase
    · refine iff_of_true ?_ (.inr (.inl rfl))
      rw [delay, delay, Nat.zero_mul, Nat.zero_mul]
    · have hpow : base * 2 ^ e ≤ base * 2 ^ k :=
        Nat.mul_le_mul_left base (Nat.pow_le_pow_right (by omega) (by omega))
      rw [delay_eq_iff cap hbase]
      omega

end Doubling
