import Mathlib

/-!
# `Lib.TokenBucket` — what a token bucket admits

A bucket holds up to `capacity` tokens and gains `rate` of them per unit of time. `level` is what it holds at
each of a series of visits, the `i`-th made at `time i` and spending `spent i`; it is the recurrence an
implementation runs.

Unfolded, the recurrence is a minimum over all earlier visits: the level covers an amount exactly when the
amount fits into **every** window that ends at the visit (`le_level_iff`). A bucket that never lends then
admits no more in any window than its capacity and the window's refill (`window_bound`).
-/

namespace NestSdk
namespace Lib
namespace TokenBucket

variable {K : Type*} [Field K] [LinearOrder K]

/-- What is left of `tokens` after `elapsed` time without spending. -/
def refilled (capacity rate tokens elapsed : K) : K := min capacity (tokens + elapsed * rate)

/-- What the bucket holds at visit `i`, before that visit spends anything. It starts full. -/
def level (capacity rate : K) (time spent : ℕ → K) : ℕ → K
  | 0 => capacity
  | i + 1 => refilled capacity rate (level capacity rate time spent i - spent i) (time (i + 1) - time i)

variable {capacity rate : K} {time spent : ℕ → K}

theorem refilled_le_capacity (capacity rate tokens elapsed : K) :
    refilled capacity rate tokens elapsed ≤ capacity := min_le_left _ _

/-- No time, no refill. -/
theorem refilled_zero {tokens : K} (h : tokens ≤ capacity) :
    refilled capacity rate tokens 0 = tokens := by
  rw [refilled, zero_mul, add_zero, min_eq_right h]

theorem level_le_capacity (i : ℕ) : level capacity rate time spent i ≤ capacity := by
  cases i with
  | zero => exact le_refl capacity
  | succ i => exact refilled_le_capacity _ _ _ _

variable [IsStrictOrderedRing K]

theorem le_refilled_iff {amount tokens elapsed : K} :
    amount ≤ refilled capacity rate tokens elapsed ↔
      amount ≤ capacity ∧ amount - elapsed * rate ≤ tokens := by
  rw [refilled, le_min_iff, sub_le_iff_le_add]

/-- A bucket left alone for long enough is full. -/
theorem refilled_of_full {tokens elapsed : K} (h : capacity - tokens ≤ elapsed * rate) :
    refilled capacity rate tokens elapsed = capacity := by
  apply min_eq_left
  linarith

/-- **The level is the tightest of all windows.** An amount is covered at visit `i` exactly when, together with
    what was spent since `j`, it fits the capacity and the refill since `j`, for every earlier `j`. -/
theorem le_level_iff (i : ℕ) : ∀ amount : K, amount ≤ level capacity rate time spent i ↔
    ∀ j ≤ i, (∑ k ∈ Finset.Ico j i, spent k) + amount ≤ capacity + rate * (time i - time j) := by
  induction i with
  | zero =>
      intro amount
      constructor
      · intro h j hj
        obtain rfl : j = 0 := Nat.le_zero.mp hj
        simpa [level] using h
      · intro h
        simpa [level] using h 0 (le_refl 0)
  | succ i ih =>
      intro amount
      show amount ≤ refilled capacity rate _ _ ↔ _
      -- Before visit `i`, the amount needed is what is asked for now and what `i` spent, less the refill.
      rw [le_refilled_iff, le_sub_iff_add_le, ih]
      constructor
      · rintro ⟨hcapacity, hearlier⟩ j hj
        rcases Nat.lt_or_ge i j with hlast | hbefore
        · obtain rfl : j = i + 1 := by omega
          simpa using hcapacity
        · have hwindow := hearlier j hbefore
          rw [Finset.sum_Ico_succ_top hbefore]
          linarith
      · intro h
        refine ⟨by simpa using h (i + 1) (le_refl _), ?_⟩
        intro j hj
        have hwindow := h j (by omega)
        rw [Finset.sum_Ico_succ_top hj] at hwindow
        linarith

/-- A bucket that spends what it has, and nothing once it has nothing, never owes. -/
theorem level_nonneg (hcapacity : 0 ≤ capacity) (hrate : 0 ≤ rate) (htime : Monotone time)
    (hspent : ∀ k, 0 ≤ level capacity rate time spent k → spent k ≤ level capacity rate time spent k)
    (i : ℕ) : 0 ≤ level capacity rate time spent i := by
  induction i with
  | zero => exact hcapacity
  | succ i ih =>
      have hleft : 0 ≤ level capacity rate time spent i - spent i := sub_nonneg.mpr (hspent i ih)
      have hgain : 0 ≤ (time (i + 1) - time i) * rate :=
        mul_nonneg (sub_nonneg.mpr (htime (Nat.le_succ i))) hrate
      exact le_min hcapacity (add_nonneg hleft hgain)

/-- **No window admits more than the capacity and the window's refill.** -/
theorem window_bound {j i : ℕ} (h : j ≤ i) (hspent : spent i ≤ level capacity rate time spent i) :
    ∑ k ∈ Finset.Ico j (i + 1), spent k ≤ capacity + rate * (time i - time j) := by
  rw [Finset.sum_Ico_succ_top h]
  exact (le_level_iff i (spent i)).mp hspent j h

end TokenBucket
end Lib
end NestSdk
