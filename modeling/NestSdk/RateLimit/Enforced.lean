import NestSdk.RateLimit.Conformance
import NestSdk.RateLimit.Rounded

/-!
# `RateLimit.Enforced` — which rates are limits

In doubles. The script divides by the refill rate twice, after it has written the bucket back, and the first quotient is
how long the key is to stay. A rate of 0, or one so small that a thousandth of a sixtieth of it is 0, leaves no number
for that; a rate that is hardly larger leaves one that Redis refuses. The script then stops with an error, and `consume`
takes that for an unreachable Redis and allows the request.
-/

namespace NestSdk
namespace RateLimit
namespace Rounded

open Js Lib Ieee

/-- The rounding of doubles. -/
abbrev double : Rounding := binary64.nearest

section

variable (redis : Redis) (toLowerCase : Str → Str) (expires : ℤ → ℤ → Bool) (store : Store Number) (call : Call Number)

/-- The arguments a call's script gets. -/
def callArgs : Args Number := args double call.input.policy call.input.now

/-- The bucket a call finds. -/
def found : Bucket Number := (store (call.key toLowerCase)).visible expires call.redisNow

/-- What a call leaves in the bucket. -/
def callLeft : Number := left double (callArgs call) (refilled double (callArgs call) (found toLowerCase expires store call)).1

/-- The argument a call's `PEXPIRE` gets. -/
def callExpiry : Number := expiry double (callArgs call) (callLeft toLowerCase expires store call)

/-- **The call is enforced:** the script does not divide by 0, gives `PEXPIRE` an integer and runs to its end, and the
    call is told an enforced decision. -/
structure Enforced : Prop where
  divides : (callArgs call).refillPerMs ≠ .finite 0
  expiry : ∃ n : ℤ, callExpiry toLowerCase expires store call = .finite n
  completes : ∃ reply, (script double redis (callArgs call) call.redisNow (found toLowerCase expires store call)).2
    = some reply
  isEnforced : (run double redis toLowerCase expires call store).2.isEnforced = true

/-- How many of the first `n` calls are allowed. -/
def admitted (calls : ℕ → Call Number) (n : ℕ) : ℕ :=
  ((Finset.range n).filter fun i => (decisionAt double redis toLowerCase expires calls i).isAllowed).card

end

/-- At a rate of 0, what is there is all there is: no run of calls to one bucket gets more than the burst. -/
def AdmitsBurst (redis : Redis) (policy : RateLimitPolicy Number) : Prop :=
  policy.perMinute = .finite 0 → ∀ toLowerCase expires calls key, OneBucket toLowerCase calls key policy →
    ∀ n, (Number.finite (admitted redis toLowerCase expires calls n)).le policy.burst = true

/-! ## How a call ends -/

variable {redis : Redis} {toLowerCase : Str → Str} {expires : ℤ → ℤ → Bool} {store : Store Number} {call : Call Number}

/-- The script runs to its end exactly if `PEXPIRE` takes its argument. -/
theorem script_completes {args : Args Number} {redisNow : ℤ} {bucket : Bucket Number} :
    (∃ reply, (script double redis args redisNow bucket).2 = some reply) ↔
      ∃ n, pexpire redis (expiry double args (left double args (refilled double args bucket).1)) = some n := by
  unfold script
  dsimp only
  cases pexpire redis (expiry double args (left double args (refilled double args bucket).1)) with
  | none => exact ⟨nofun, nofun⟩
  | some n => exact ⟨fun _ => ⟨n, rfl⟩, fun _ => ⟨_, rfl⟩⟩

/-- A script that stops leaves nobody who counts. -/
theorem run_of_stopped
    (h : (script double redis (callArgs call) call.redisNow (found toLowerCase expires store call)).2 = none) :
    (run double redis toLowerCase expires call store).2 = unenforced call.input.policy := by
  rw [run_eq]
  dsimp only
  rw [show (script double redis (args double call.input.policy call.input.now) call.redisNow
    ((store (call.key toLowerCase)).visible expires call.redisNow)).2 = none from h]

theorem enforced_iff_pexpire : Enforced redis toLowerCase expires store call ↔
    ∃ n, pexpire redis (callExpiry toLowerCase expires store call) = some n := by
  constructor
  · intro h
    exact script_completes.mp h.completes
  · rintro ⟨n, hn⟩
    obtain ⟨reply, hreply⟩ := script_completes.mpr ⟨n, hn⟩
    have hexpiry := (pexpire_eq_some.mp hn).1
    refine ⟨rate_ne_zero_of_expiry hexpiry, ⟨n, hexpiry⟩, ⟨reply, hreply⟩, ?_⟩
    rw [run_eq]
    dsimp only
    rw [show (script double redis (args double call.input.policy call.input.now) call.redisNow
      ((store (call.key toLowerCase)).visible expires call.redisNow)).2 = some reply from hreply]
    rfl

/-! ## Rates that are nothing -/

/-- The rate per minute up to which a rate per millisecond is rounded to 0. -/
def leastPerMinute : ℚ := MS_PER_MINUTE * 2 ^ (-1075 : ℤ)

/-- **A rate is none** exactly if it is no more than `leastPerMinute`. -/
theorem toRefillPerMs_eq_zero_iff {policy : RateLimitPolicy Number}
    (hrate : (Number.finite 0).le policy.perMinute = true) :
    toRefillPerMs double policy = .finite 0 ↔ policy.perMinute.le (.finite leastPerMinute) = true := by
  have hminute : (0 : ℚ) < (MS_PER_MINUTE : ℕ) := by norm_num [MS_PER_MINUTE]
  unfold toRefillPerMs
  cases hper : policy.perMinute with
  | nan =>
      rw [hper] at hrate
      cases hrate
  | infinity negative =>
      rw [hper] at hrate
      cases negative with
      | true => cases hrate
      | false => exact iff_of_false (fun h => by cases h) (fun h => by cases h)
  | finite perMinute =>
      rw [hper] at hrate
      have hnonneg : 0 ≤ perMinute := of_decide_eq_true hrate
      rw [Number.div_finite hminute.ne', Format.nearest_eq_zero_iff (by decide), abs_of_nonneg (by positivity),
        div_le_iff₀ hminute, mul_comm]
      exact decide_eq_true_iff.symm

/-! ## Every configured rate -/

/-- Nobody counts at a rate that is none. -/
theorem run_of_rate_zero (hrate : toRefillPerMs double call.input.policy = .finite 0) (redis : Redis)
    (toLowerCase : Str → Str) (expires : ℤ → ℤ → Bool) (store : Store Number) :
    (run double redis toLowerCase expires call store).2 = unenforced call.input.policy := by
  apply run_of_stopped
  cases hreply : (script double redis (callArgs call) call.redisNow (found toLowerCase expires store call)).2 with
  | none => rfl
  | some reply =>
      obtain ⟨n, hn⟩ := script_completes.mp ⟨reply, hreply⟩
      exact absurd hrate (rate_ne_zero_of_expiry (pexpire_eq_some.mp hn).1)

theorem toRefillPerMs_of_zero {policy : RateLimitPolicy Number} (hzero : policy.perMinute = .finite 0) :
    toRefillPerMs double policy = .finite 0 := by
  have hminute : ((MS_PER_MINUTE : ℕ) : ℚ) ≠ 0 := by norm_num [MS_PER_MINUTE]
  unfold toRefillPerMs
  rw [hzero, Number.div_finite hminute, zero_div]
  exact Format.nearest_zero

/-- Every call is allowed at a rate that is none. -/
theorem admitted_of_rate_zero (hrate : toRefillPerMs double call.input.policy = .finite 0) (redis : Redis)
    (toLowerCase : Str → Str) (expires : ℤ → ℤ → Bool) (n : ℕ) :
    admitted redis toLowerCase expires (fun _ => call) n = n := by
  have hallowed : ∀ i, (decisionAt double redis toLowerCase expires (fun _ => call) i).isAllowed = true := by
    intro i
    have hunenforced := run_of_rate_zero hrate redis toLowerCase expires
      (storeAt double redis toLowerCase expires (fun _ => call) i)
    exact congrArg RateLimitDecision.isAllowed hunenforced
  simp [admitted, hallowed]

/-- Only the infinite is no less than every natural number. -/
theorem eq_infinity_of_forall_le {x : Number} (h : ∀ n : ℕ, (Number.finite n).le x = true) : x = .infinity false := by
  cases x with
  | finite x =>
      obtain ⟨n, hn⟩ := exists_nat_gt x
      exact absurd (of_decide_eq_true (h n)) (not_le.mpr hn)
  | infinity negative =>
      cases negative with
      | false => rfl
      | true => cases h 0
  | nan => cases h 0

/-- **Every configured rate is a limit, where there is a number for it.** For every bucket and all clocks a call is
    enforced exactly if the rate per millisecond is not rounded to 0 and the time until the bucket is full is an integer
    that `PEXPIRE` takes. The rate is rounded to 0 exactly up to `leastPerMinute`; and at a rate of 0 the burst is no
    bound, unless it is infinite. -/
theorem enforced_iff (redis : Redis) {policy : RateLimitPolicy Number}
    (hrate : (Number.finite 0).le policy.perMinute = true) :
    (∀ toLowerCase expires store (call : Call Number), call.input.policy = policy →
      (Enforced redis toLowerCase expires store call ↔
        policy.perMinute.le (.finite leastPerMinute) = false ∧
          ∃ n : ℤ, callExpiry toLowerCase expires store call = .finite n ∧ redis.takesExpiry n = true)) ∧
    (AdmitsBurst redis policy ↔ policy.perMinute ≠ .finite 0 ∨ policy.burst = .infinity false) := by
  refine ⟨?_, ?_⟩
  · rintro toLowerCase expires store call rfl
    rw [enforced_iff_pexpire]
    constructor
    · rintro ⟨n, hn⟩
      obtain ⟨hexpiry, htakes⟩ := pexpire_eq_some.mp hn
      refine ⟨?_, n, hexpiry, htakes⟩
      apply Bool.eq_false_iff.mpr
      intro hnone
      exact rate_ne_zero_of_expiry hexpiry ((toRefillPerMs_eq_zero_iff hrate).mpr hnone)
    · rintro ⟨-, n, hexpiry, htakes⟩
      exact ⟨n, pexpire_eq_some.mpr ⟨hexpiry, htakes⟩⟩
  · constructor
    · intro h
      by_contra hneither
      push Not at hneither
      obtain ⟨hzero, hburst⟩ := hneither
      let call : Call Number := ⟨[], ⟨[], [], none, policy, 0⟩, 0⟩
      -- as many calls as one likes, all at one instant: every one of them is allowed
      have hall : ∀ n, admitted redis id never (fun _ => call) n = n :=
        admitted_of_rate_zero (toRefillPerMs_of_zero hzero) redis id never
      have hbound : ∀ n : ℕ, (Number.finite n).le policy.burst = true := by
        intro n
        have hle := h hzero id never (fun _ => call) _ ⟨fun _ => rfl, fun _ => rfl⟩ n
        rwa [hall] at hle
      exact hburst (eq_infinity_of_forall_le hbound)
    · rintro (hrate' | hburst) hzero toLowerCase expires calls key hcalls n
      · exact absurd hzero hrate'
      · rw [hburst]
        rfl

/-! ## Rates too small -/

/-- The operator's way to say "no more than the burst". -/
def frozen : Call Number := ⟨str "conduit", ⟨str "ingress", str "caller", none, ⟨.finite 0, .finite 2⟩, 0⟩, 0⟩

/-- The smallest rate there is. -/
def glacial : Call Number :=
  ⟨str "conduit", ⟨str "ingress", str "caller", none, ⟨.finite (2 ^ (-1074 : ℤ)), .finite 2⟩, 0⟩, 0⟩

/-- A rate at which a bucket fills in more milliseconds than an integer can count. -/
def slow : Call Number :=
  ⟨str "conduit", ⟨str "ingress", str "caller", none, ⟨.finite (2 ^ (-996 : ℤ)), .finite 2⟩, 0⟩, 0⟩

/-- A Redis whose integers have 64 bits. -/
def redis64 : Redis where
  takesExpiry n := -2 ^ 63 ≤ n && n < 2 ^ 63
  toInteger
    | .finite x => ⌊x⌋
    | .infinity _ | .nan => -2 ^ 63

/-- With a rate of 0 and a burst of 2, three calls of three are allowed and none is enforced; and neither is a call at a
    rate that is rounded to 0, or at one that is not. -/
theorem frozen_unenforced :
    (¬ Enforced redis64 id never Store.empty frozen ∧ admitted redis64 id never (fun _ => frozen) 3 = 3) ∧
    ¬ Enforced redis64 id never Store.empty glacial ∧ ¬ Enforced redis64 id never Store.empty slow := by
  have hstops : ∀ call : Call Number, pexpire redis64 (callExpiry id never Store.empty call) = none →
      ¬ Enforced redis64 id never Store.empty call := by
    intro call hnone h
    obtain ⟨n, hn⟩ := enforced_iff_pexpire.mp h
    rw [hnone] at hn
    cases hn
  exact ⟨⟨hstops frozen (by decide +kernel), admitted_of_rate_zero (toRefillPerMs_of_zero rfl) redis64 id never 3⟩,
    hstops glacial (by decide +kernel), hstops slow (by decide +kernel)⟩

/-- At 600 a minute the first call is enforced. -/
theorem enforced_spike : Enforced redis64 id never Store.empty (ofCall (spike 0)) :=
  ((enforced_iff redis64 (by decide +kernel)).1 id never Store.empty (ofCall (spike 0)) rfl).mpr
    ⟨by decide +kernel, 1100, by decide +kernel, by decide +kernel⟩

end Rounded
end RateLimit
end NestSdk
