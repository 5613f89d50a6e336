import Mathlib

/-!
# `Lib.Ieee` — arithmetic that rounds

The numbers of a binary format: finite ones, two infinities and `nan`. Every operation is the exact one with a rounding
after it, and the rounding is a parameter. `Number.finite` itself rounds nothing; `Format.nearest` rounds to the nearest
number of a format, ties to even, and over- and underflows as the format does.

There is one zero here. Its sign would show only in the sign of the infinity that a division by it gives.
-/

namespace NestSdk
namespace Lib
namespace Ieee

inductive Number
  | finite (x : ℚ)
  | infinity (negative : Bool)
  | nan
deriving DecidableEq

/-- What becomes of an exact result. -/
abbrev Rounding := ℚ → Number

namespace Number

/-! ## Operations -/

def neg : Number → Number
  | finite x => finite (-x)
  | infinity negative => infinity !negative
  | nan => nan

section Arithmetic

variable (rnd : Rounding)

def add : Number → Number → Number
  | finite x, finite y => rnd (x + y)
  | nan, _ | _, nan => nan
  | infinity negative, infinity negative' => if negative = negative' then infinity negative else nan
  | infinity negative, finite _ | finite _, infinity negative => infinity negative

def sub (x y : Number) : Number := add rnd x y.neg

def mul : Number → Number → Number
  | finite x, finite y => rnd (x * y)
  | nan, _ | _, nan => nan
  | infinity negative, infinity negative' => infinity (negative != negative')
  | infinity negative, finite x | finite x, infinity negative =>
      if x = 0 then nan else infinity (negative != decide (x < 0))

/-- A quotient by 0 is an infinity, or `nan` for 0 by 0. -/
def div : Number → Number → Number
  | finite x, finite y =>
      if y ≠ 0 then rnd (x / y) else if x = 0 then nan else infinity (x < 0)
  | nan, _ | _, nan => nan
  | infinity _, infinity _ => nan
  | infinity negative, finite x => infinity (negative != decide (x < 0))
  | finite _, infinity _ => finite 0

end Arithmetic

/-- `x < y`, false of `nan`. -/
def lt : Number → Number → Bool
  | finite x, finite y => x < y
  | nan, _ | _, nan => false
  | infinity negative, infinity negative' => negative && !negative'
  | infinity negative, finite _ => negative
  | finite _, infinity negative => !negative

/-- `x ≤ y`, false of `nan`. -/
def le : Number → Number → Bool
  | finite x, finite y => x ≤ y
  | nan, _ | _, nan => false
  | infinity negative, infinity negative' => negative || !negative'
  | infinity negative, finite _ => negative
  | finite _, infinity negative => !negative

def ceil : Number → Number
  | finite x => finite ⌈x⌉
  | x => x

def floor : Number → Number
  | finite x => finite ⌊x⌋
  | x => x

theorem div_finite {rnd : Rounding} {x y : ℚ} (hy : y ≠ 0) : (finite x).div rnd (finite y) = rnd (x / y) := if_pos hy

/-- A quotient that is a number has not been divided by 0. -/
theorem ne_zero_of_div_finite {rnd : Rounding} {x y : Number} {q : ℚ} (h : div rnd x y = finite q) : y ≠ finite 0 := by
  rintro rfl
  cases x with
  | finite x =>
      by_cases hx : x = 0
      · simp [div, hx] at h
      · simp [div, hx] at h
  | infinity negative => cases h
  | nan => cases h

/-! ### Numbers that are not negative -/

section Nonneg

variable {rnd : Rounding} (hrnd : ∀ x, 0 ≤ x → (finite 0).le (rnd x) = true)

include hrnd

theorem add_nonneg {x y : Number} (hx : (finite 0).le x = true) (hy : (finite 0).le y = true) :
    (finite 0).le (x.add rnd y) = true := by
  cases x with
  | nan => cases hx
  | infinity negative =>
      cases negative with
      | true => cases hx
      | false =>
          cases y with
          | nan => cases hy
          | finite y => rfl
          | infinity negative' =>
              cases negative' with
              | true => cases hy
              | false => rfl
  | finite x =>
      cases y with
      | nan => cases hy
      | infinity negative => exact hy
      | finite y => exact hrnd _ (Left.add_nonneg (of_decide_eq_true hx) (of_decide_eq_true hy))

theorem mul_nonneg {x : Number} {r : ℚ} (hx : (finite 0).le x = true) (hr : 0 < r) :
    (finite 0).le (x.mul rnd (finite r)) = true := by
  cases x with
  | nan => cases hx
  | infinity negative =>
      cases negative with
      | true => cases hx
      | false =>
          have hproduct : (infinity false).mul rnd (finite r) = infinity (false != decide (r < 0)) := if_neg hr.ne'
          rw [hproduct, decide_eq_false (not_lt.mpr hr.le)]
          rfl
  | finite x => exact hrnd _ (by have h := of_decide_eq_true hx; positivity)

end Nonneg

/-- The integers are the numbers `ceil` gives, if they are finite. -/
theorem ceil_eq_finite {x : Number} {q : ℚ} (h : x.ceil = finite q) : ∃ y, x = finite y ∧ q = ⌈y⌉ := by
  cases x with
  | finite y => exact ⟨y, rfl, (Number.finite.inj h).symm⟩
  | infinity negative => cases h
  | nan => cases h

end Number

/-! ## Rounding to the nearest -/

/-- The integer nearest to a number, and of two the even one. -/
def halfEven (q : ℚ) : ℤ :=
  if Int.fract q < 1 / 2 then ⌊q⌋ else if 1 / 2 < Int.fract q then ⌊q⌋ + 1 else if Even ⌊q⌋ then ⌊q⌋ else ⌊q⌋ + 1

theorem halfEven_intCast (n : ℤ) : halfEven n = n := by
  unfold halfEven
  rw [Int.fract_intCast, Int.floor_intCast]
  exact if_pos (by norm_num)

theorem floor_le_halfEven (q : ℚ) : ⌊q⌋ ≤ halfEven q ∧ halfEven q ≤ ⌊q⌋ + 1 := by
  unfold halfEven
  split_ifs <;> omega

theorem halfEven_mono {q r : ℚ} (h : q ≤ r) : halfEven q ≤ halfEven r := by
  rcases lt_or_eq_of_le (Int.floor_mono h) with hlt | heq
  · exact (floor_le_halfEven q).2.trans (le_trans (Int.add_one_le_iff.mpr hlt) (floor_le_halfEven r).1)
  · have hfract : Int.fract q ≤ Int.fract r := by
      rw [Int.fract, Int.fract, heq]
      linarith
    unfold halfEven
    rw [heq]
    split_ifs <;> first | omega | linarith

/-- No more than a half is nothing. -/
theorem halfEven_eq_zero {q : ℚ} : halfEven q = 0 ↔ |q| ≤ 1 / 2 := by
  have hlow := Int.floor_le q
  have hhigh := Int.lt_floor_add_one q
  have hfract : Int.fract q = q - ⌊q⌋ := rfl
  have hbounds := floor_le_halfEven q
  rw [abs_le]
  by_cases hzero : ⌊q⌋ = 0
  · -- between 0 and 1, and a tie goes down
    rw [hzero, Int.cast_zero] at hlow
    unfold halfEven
    rw [hfract, hzero, Int.cast_zero, sub_zero, if_pos Even.zero]
    by_cases hhalf : q ≤ 1 / 2
    · rw [if_neg (not_lt.mpr hhalf), ite_self]
      exact ⟨fun _ => ⟨by linarith, hhalf⟩, fun _ => rfl⟩
    · rw [if_neg (by linarith), if_pos (not_le.mp hhalf)]
      exact ⟨fun h => absurd h (by norm_num), fun h => absurd h.2 hhalf⟩
  by_cases hminus : ⌊q⌋ = -1
  · -- between -1 and 0, and a tie goes up
    rw [hminus] at hhigh
    unfold halfEven
    rw [hfract, hminus, if_neg (by decide : ¬ Even (-1 : ℤ)), ite_self]
    push_cast at hhigh ⊢
    by_cases hhalf : -(1 / 2) ≤ q
    · rw [if_neg (by linarith)]
      exact ⟨fun _ => ⟨hhalf, by linarith⟩, fun _ => by norm_num⟩
    · rw [if_pos (by linarith)]
      exact ⟨fun h => absurd h (by norm_num), fun h => absurd h.1 hhalf⟩
  · -- further away than one
    have hfar : ⌊q⌋ ≤ -2 ∨ 1 ≤ ⌊q⌋ := by omega
    constructor
    · intro h
      omega
    · rintro ⟨hleft, hright⟩
      rcases hfar with hfar | hfar
      · have hfar' : (⌊q⌋ : ℚ) ≤ -2 := by exact_mod_cast hfar
        linarith
      · have hfar' : (1 : ℚ) ≤ ⌊q⌋ := by exact_mod_cast hfar
        linarith

structure Format where
  precision : ℕ
  emin : ℤ
  emax : ℤ

/-- The doubles. -/
def binary64 : Format := ⟨53, -1022, 1023⟩

namespace Format

variable (F : Format)

/-- The exponent of the last place of a number near `x`. -/
def lastPlace (x : ℚ) : ℤ := max (Int.log 2 |x|) F.emin - F.precision + 1

/-- The nearest number of the format, were there no largest one. -/
def rounded (x : ℚ) : ℚ := halfEven (x / 2 ^ F.lastPlace x) * 2 ^ F.lastPlace x

/-- **The nearest number of the format,** or an infinity if it is too large. -/
def nearest : Rounding := fun x =>
  if |F.rounded x| < 2 ^ (F.emax + 1) then .finite (F.rounded x) else .infinity (x < 0)

variable {F : Format} {x : ℚ}

theorem pow_pos_two (k : ℤ) : (0 : ℚ) < 2 ^ k := zpow_pos two_pos k

theorem pow_le_pow_two {k l : ℤ} : (2 : ℚ) ^ k ≤ 2 ^ l ↔ k ≤ l := zpow_le_zpow_iff_right₀ one_lt_two

/-- A power of two is a whole number of smaller ones. -/
theorem pow_eq_mul {k l : ℤ} (h : l ≤ k) : ∃ n : ℤ, (2 : ℚ) ^ k = n * 2 ^ l := by
  refine ⟨2 ^ (k - l).toNat, ?_⟩
  push_cast
  rw [← zpow_natCast, Int.toNat_of_nonneg (by omega), ← zpow_add₀ two_ne_zero]
  congr 1
  omega

theorem pow_log_le (hx : x ≠ 0) : (2 : ℚ) ^ Int.log 2 |x| ≤ |x| := by
  have h := Int.zpow_log_le_self (b := 2) one_lt_two (abs_pos.mpr hx)
  exact_mod_cast h

theorem log_le_of_le {k : ℤ} (hx : x ≠ 0) (hle : |x| ≤ 2 ^ k) : Int.log 2 |x| ≤ k :=
  pow_le_pow_two.mp ((pow_log_le hx).trans hle)

theorem le_log_of_le {k : ℤ} (hle : 2 ^ k ≤ |x|) : k ≤ Int.log 2 |x| := by
  have h := Int.lt_zpow_succ_log_self (b := 2) one_lt_two |x|
  have hlt : (2 : ℚ) ^ k < 2 ^ (Int.log 2 |x| + 1) := hle.trans_lt (by exact_mod_cast h)
  have hsucc := (zpow_lt_zpow_iff_right₀ one_lt_two).mp hlt
  omega

/-- **Rounding does not pass what it can round to.** -/
theorem rounded_le {n : ℤ} (h : x ≤ n * 2 ^ F.lastPlace x) : F.rounded x ≤ n * 2 ^ F.lastPlace x := by
  have hunit := pow_pos_two (F.lastPlace x)
  have hmono := halfEven_mono ((div_le_iff₀ hunit).mpr h)
  rw [halfEven_intCast] at hmono
  exact mul_le_mul_of_nonneg_right (by exact_mod_cast hmono) hunit.le

theorem le_rounded {n : ℤ} (h : n * 2 ^ F.lastPlace x ≤ x) : n * 2 ^ F.lastPlace x ≤ F.rounded x := by
  have hunit := pow_pos_two (F.lastPlace x)
  have hmono := halfEven_mono ((le_div_iff₀ hunit).mpr h)
  rw [halfEven_intCast] at hmono
  exact mul_le_mul_of_nonneg_right (by exact_mod_cast hmono) hunit.le

theorem rounded_nonneg (hx : 0 ≤ x) : 0 ≤ F.rounded x := by
  have h := le_rounded (F := F) (x := x) (n := 0) (by simpa using hx)
  simpa using h

theorem rounded_zero : F.rounded 0 = 0 := by
  have hzero := halfEven_intCast 0
  rw [Int.cast_zero] at hzero
  rw [rounded, zero_div, hzero, Int.cast_zero, zero_mul]

theorem nearest_zero : F.nearest 0 = .finite 0 := by
  unfold nearest
  rw [rounded_zero, abs_zero, if_pos (pow_pos_two _)]

/-- What is less than a power of two leaves its place. -/
theorem lastPlace_le {k : ℤ} (hprecision : 1 ≤ F.precision) (hx : x ≠ 0) (hle : |x| ≤ 2 ^ k)
    (hmin : F.emin - F.precision + 1 ≤ k) : F.lastPlace x ≤ k := by
  have hlog := log_le_of_le hx hle
  unfold lastPlace
  omega

theorem rounded_le_pow {k : ℤ} (hprecision : 1 ≤ F.precision) (hx : 0 ≤ x) (hle : x ≤ 2 ^ k)
    (hmin : F.emin - F.precision + 1 ≤ k) : F.rounded x ≤ 2 ^ k := by
  rcases eq_or_lt_of_le hx with rfl | hpos
  · rw [rounded_zero]
    exact (pow_pos_two k).le
  · obtain ⟨n, hn⟩ := pow_eq_mul (lastPlace_le hprecision hpos.ne' ((abs_of_pos hpos).trans_le hle) hmin)
    rw [hn] at hle ⊢
    exact rounded_le hle

theorem le_rounded_pow {k : ℤ} (hprecision : 1 ≤ F.precision) (hle : 2 ^ k ≤ x) (hmin : F.emin ≤ k) :
    2 ^ k ≤ F.rounded x := by
  have hpos : 0 < x := (pow_pos_two k).trans_le hle
  have hlog : k ≤ Int.log 2 |x| := le_log_of_le (by rwa [abs_of_pos hpos])
  have hplace : F.lastPlace x ≤ Int.log 2 |x| := by
    unfold lastPlace
    omega
  have hpow := pow_log_le hpos.ne'
  rw [abs_of_pos hpos] at hpow hlog hplace
  obtain ⟨n, hn⟩ := pow_eq_mul hplace
  rw [hn] at hpow
  calc (2 : ℚ) ^ k ≤ 2 ^ Int.log 2 x := pow_le_pow_two.mpr hlog
    _ = n * 2 ^ F.lastPlace x := hn
    _ ≤ F.rounded x := le_rounded hpow

/-- **What is no more than a power of two is rounded to a number** no more than that. -/
theorem nearest_le_pow {k : ℤ} (hprecision : 1 ≤ F.precision) (hx : 0 ≤ x) (hle : x ≤ 2 ^ k)
    (hmin : F.emin - F.precision + 1 ≤ k) (hmax : k ≤ F.emax) :
    F.nearest x = .finite (F.rounded x) ∧ 0 ≤ F.rounded x ∧ F.rounded x ≤ 2 ^ k := by
  have hrounded := rounded_le_pow hprecision hx hle hmin
  have hnonneg : 0 ≤ F.rounded x := rounded_nonneg hx
  have hfits : |F.rounded x| < 2 ^ (F.emax + 1) := by
    rw [abs_of_nonneg hnonneg]
    exact hrounded.trans_lt ((zpow_lt_zpow_iff_right₀ one_lt_two).mpr (by omega))
  exact ⟨if_pos hfits, hnonneg, hrounded⟩

/-- What is not negative is not rounded to anything negative. -/
theorem nearest_nonneg (hx : 0 ≤ x) : (Number.finite 0).le (F.nearest x) = true := by
  unfold nearest
  split
  · exact decide_eq_true (rounded_nonneg hx)
  · exact (congrArg not (decide_eq_false (not_lt.mpr hx))).trans rfl

/-- A multiple of the last place is not rounded. -/
theorem rounded_eq_self {n : ℤ} (h : x = n * 2 ^ F.lastPlace x) : F.rounded x = x := by
  refine le_antisymm ?_ ?_
  · have hle := rounded_le h.le
    rwa [← h] at hle
  · have hle := le_rounded h.symm.le
    rwa [← h] at hle

/-- A number of no more than the format's precision is rounded to a fraction, or an integer. -/
theorem intCast_eq_mul (hprecision : 1 ≤ F.precision) (hmin : F.emin < F.precision) (hx : |x| < 2 ^ F.precision) (n : ℤ) :
    ∃ m : ℤ, (n : ℚ) = m * 2 ^ F.lastPlace x := by
  have hplace : F.lastPlace x ≤ 0 := by
    by_cases hzero : x = 0
    · unfold lastPlace
      rw [hzero, abs_zero, Int.log_zero_right]
      omega
    · have hx' : |x| < 2 ^ (F.precision : ℤ) := by rwa [zpow_natCast]
      have hlog := (zpow_lt_zpow_iff_right₀ one_lt_two).mp ((pow_log_le hzero).trans_lt hx')
      unfold lastPlace
      omega
  obtain ⟨m, hm⟩ := pow_eq_mul hplace
  refine ⟨n * m, ?_⟩
  push_cast
  rw [mul_assoc, ← hm, zpow_zero, mul_one]

/-- Integers of no more than the format's precision are not rounded. -/
theorem nearest_intCast (hprecision : 1 ≤ F.precision) (hmin : F.emin < F.precision) (hmax : F.precision ≤ F.emax + 1) {n : ℤ}
    (hn : |(n : ℚ)| < 2 ^ F.precision) : F.nearest n = .finite n := by
  obtain ⟨m, hm⟩ := intCast_eq_mul hprecision hmin hn n
  have hn' : |(n : ℚ)| < 2 ^ (F.precision : ℤ) := by rwa [zpow_natCast]
  unfold nearest
  rw [rounded_eq_self hm, if_pos (hn'.trans_le (pow_le_pow_two.mpr hmax))]

/-- And rounding does not pass them. -/
theorem rounded_le_intCast (hprecision : 1 ≤ F.precision) (hmin : F.emin < F.precision) (hx : 0 ≤ x) {n : ℤ} (hle : x ≤ n)
    (hn : (n : ℚ) < 2 ^ F.precision) : F.rounded x ≤ n := by
  obtain ⟨m, hm⟩ := intCast_eq_mul hprecision hmin ((abs_of_nonneg hx).trans_lt (hle.trans_lt hn)) n
  rw [hm] at hle ⊢
  exact rounded_le hle

/-- **What is rounded to nothing:** no more than half the smallest number of the format. -/
theorem nearest_eq_zero_iff (hprecision : 1 ≤ F.precision) :
    F.nearest x = .finite 0 ↔ |x| ≤ 2 ^ (F.emin - F.precision) := by
  have hnothing : F.nearest x = .finite 0 ↔ F.rounded x = 0 := by
    unfold nearest
    constructor
    · intro h
      split at h
      · exact Number.finite.inj h
      · cases h
    · intro h
      rw [h, abs_zero, if_pos (pow_pos_two _)]
  have hhalf : F.rounded x = 0 ↔ |x| ≤ 2 ^ (F.lastPlace x - 1) := by
    have hunit := pow_pos_two (F.lastPlace x)
    unfold rounded
    rw [mul_eq_zero_iff_right hunit.ne', Int.cast_eq_zero, halfEven_eq_zero, abs_div, abs_of_pos hunit,
      div_le_iff₀ hunit, zpow_sub_one₀ two_ne_zero, one_div, mul_comm]
  rw [hnothing, hhalf]
  by_cases hx : x = 0
  · rw [hx, abs_zero]
    exact iff_of_true (pow_pos_two _).le (pow_pos_two _).le
  -- below the normal numbers the last place is the least there is
  by_cases hnormal : Int.log 2 |x| ≤ F.emin
  · have hplace : F.lastPlace x - 1 = F.emin - F.precision := by
      unfold lastPlace
      omega
    rw [hplace]
  · -- a number with a full significand is far from nothing
    have hlarge : ∀ k, k < Int.log 2 |x| → ¬ |x| ≤ 2 ^ k := fun k hk hle =>
      absurd (log_le_of_le hx hle) (not_le.mpr hk)
    refine iff_of_false (hlarge _ ?_) (hlarge _ ?_)
    · unfold lastPlace
      omega
    · omega

end Format

end Ieee
end Lib
end NestSdk
