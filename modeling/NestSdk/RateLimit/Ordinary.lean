import NestSdk.RateLimit.Enforced

/-!
# `RateLimit.Ordinary` — the policies one configures

At one request a minute or more, and with no more than `2 ^ 32` of them at once, doubles do no harm: no quotient is too
large, and what is stored stays between nothing and the burst. **`enforced_ordinary`**: such a policy is a limit, call
after call.
-/

namespace NestSdk
namespace RateLimit
namespace Rounded

open Js Lib Ieee

/-- A policy as one configures it. -/
structure Ordinary (policy : RateLimitPolicy Number) (burst : ℕ) : Prop where
  perMinute : ∃ x : ℚ, policy.perMinute = .finite x ∧ 1 ≤ x ∧ x ≤ 2 ^ 64
  burst_eq : policy.burst = .finite burst
  burst_le : burst ≤ 2 ^ 32

/-- A number of tokens there can be. -/
def Within (burst : ℕ) (tokens : Number) : Prop := ∃ x : ℚ, tokens = .finite x ∧ 0 ≤ x ∧ x ≤ burst

/-- Such a number is stored, if any. -/
def Holds (burst : ℕ) (bucket : Bucket Number) : Prop := ∀ tokens ∈ bucket.tokens, Within burst tokens

section

variable {policy : RateLimitPolicy Number} {burst : ℕ} {bucket : Bucket Number} {tokens : Number}

/-- The rate per millisecond is a number, and not too small. -/
theorem Ordinary.rate (h : Ordinary policy burst) :
    ∃ r : ℚ, toRefillPerMs double policy = .finite r ∧ 2 ^ (-16 : ℤ) ≤ r := by
  obtain ⟨x, hx, hlow, hhigh⟩ := h.perMinute
  have hminute : ((MS_PER_MINUTE : ℕ) : ℚ) = 60000 := by norm_num [MS_PER_MINUTE]
  have hbelow : x / 60000 ≤ 2 ^ (64 : ℤ) := by
    rw [div_le_iff₀ (by norm_num)]
    norm_num
    linarith
  have habove : (2 : ℚ) ^ (-16 : ℤ) ≤ x / 60000 := by
    rw [le_div_iff₀ (by norm_num)]
    norm_num
    linarith
  have hnonneg : 0 ≤ x / 60000 := by positivity
  have hnearest : double (x / 60000) = .finite (binary64.rounded (x / 60000)) :=
    (Format.nearest_le_pow (by decide) hnonneg hbelow (by decide) (by decide)).1
  refine ⟨binary64.rounded (x / 60000), ?_, Format.le_rounded_pow (by decide) habove (by decide)⟩
  unfold toRefillPerMs
  rw [hx, hminute, Number.div_finite (by norm_num), hnearest]

theorem nonneg_of_within (h : Within burst tokens) : (Number.finite 0).le tokens = true := by
  obtain ⟨x, rfl, hlow, -⟩ := h
  exact decide_eq_true hlow

/-- The smaller of the burst and anything that is not negative. -/
theorem within_luaMin (hnonneg : (Number.finite 0).le tokens = true) : Within burst (luaMin (.finite burst) tokens) := by
  unfold luaMin
  split
  · next hlt =>
      cases tokens with
      | finite x => exact ⟨x, rfl, of_decide_eq_true hnonneg, (of_decide_eq_true hlt : x < burst).le⟩
      | infinity negative =>
          cases negative with
          | true => cases hnonneg
          | false => cases hlt
      | nan => cases hnonneg
  · exact ⟨burst, rfl, Nat.cast_nonneg _, le_refl _⟩

theorem within_refilled (h : Ordinary policy burst) (hbucket : Holds burst bucket) (now : ℤ) :
    Within burst (refilled double (args double policy now) bucket).1 := by
  have hcapacity : Within burst policy.burst := ⟨burst, h.burst_eq, Nat.cast_nonneg _, le_refl _⟩
  have hstored : Within burst ((args double policy now).stored bucket).1 := by
    obtain ⟨tokens, updatedAt, expireAt⟩ := bucket
    cases tokens with
    | none => exact hcapacity
    | some tokens =>
        cases updatedAt with
        | none => exact hcapacity
        | some updatedAt => exact hbucket tokens rfl
  unfold refilled
  dsimp only
  split
  · next hforward =>
      obtain ⟨r, hr, hlow⟩ := h.rate
      have helapsed : (Number.finite 0).le ((Number.finite now).sub double
          (.finite ((args double policy now).stored bucket).2)) = true := by
        apply Format.nearest_nonneg
        have hcast : (((args double policy now).stored bucket).2 : ℚ) ≤ now := by exact_mod_cast hforward.le
        linarith
      have hrate : (args double policy now).refillPerMs = .finite r := hr
      have hburst : (args double policy now).capacity = .finite burst := h.burst_eq
      rw [hrate, hburst]
      -- whatever flows in, no more than the burst is kept
      apply within_luaMin
      apply Number.add_nonneg (fun x => Format.nearest_nonneg) (nonneg_of_within hstored)
      exact Number.mul_nonneg (fun x => Format.nearest_nonneg) helapsed (by positivity)
  · exact hstored

/-- What is no more than the burst is rounded to a number no more than that: the burst is an integer. -/
theorem double_le_burst (h : Ordinary policy burst) {x : ℚ} (hlow : 0 ≤ x) (hhigh : x ≤ burst) :
    ∃ y : ℚ, double x = .finite y ∧ 0 ≤ y ∧ y ≤ burst := by
  have hburst : (burst : ℚ) ≤ 2 ^ 32 := by exact_mod_cast h.burst_le
  have hpow : x ≤ 2 ^ (32 : ℤ) := hhigh.trans (by exact_mod_cast hburst)
  obtain ⟨hnearest, hnonneg, -⟩ :=
    Format.nearest_le_pow (F := binary64) (by decide) hlow hpow (by decide) (by decide)
  have hprecision : ((burst : ℤ) : ℚ) < 2 ^ binary64.precision := by
    have hlarge : (2 : ℚ) ^ 32 < 2 ^ binary64.precision := by norm_num [binary64]
    exact_mod_cast hburst.trans_lt hlarge
  refine ⟨_, hnearest, hnonneg, ?_⟩
  exact_mod_cast Format.rounded_le_intCast (by decide) (by decide) hlow (n := burst) (by exact_mod_cast hhigh) hprecision

/-- **What is left is within the burst.** -/
theorem within_left (h : Ordinary policy burst) (htokens : Within burst tokens) (now : ℤ) :
    Within burst (left double (args double policy now) tokens) := by
  obtain ⟨x, rfl, hlow, hhigh⟩ := htokens
  unfold left
  split
  · next hcost =>
      have hone : ((RATE_LIMIT_DEFAULT_COST : ℕ) : ℚ) = 1 := by norm_num [RATE_LIMIT_DEFAULT_COST]
      have henough : (1 : ℚ) ≤ x := hone ▸ of_decide_eq_true hcost
      have hleft : (Number.finite x).sub double (args double policy now).cost = double (x + -1) := by
        rw [← hone]
        rfl
      rw [hleft]
      exact double_le_burst h (by linarith) (by linarith)
  · exact ⟨x, rfl, hlow, hhigh⟩

/-- **The time until the bucket is full is an integer,** and not too large. -/
theorem expiry_ordinary (h : Ordinary policy burst) (htokens : Within burst tokens) (now : ℤ) :
    ∃ n : ℤ, expiry double (args double policy now) tokens = .finite n ∧ 0 ≤ n ∧ n ≤ 2 ^ 49 := by
  obtain ⟨x, rfl, hlow, hhigh⟩ := htokens
  obtain ⟨r, hr, hrate⟩ := h.rate
  have hpos : 0 < r := (Format.pow_pos_two _).trans_le hrate
  -- what is missing
  obtain ⟨missing, hmissing, hmissing0, hmissingB⟩ :=
    double_le_burst h (x := burst + -x) (by linarith) (by linarith)
  have hsub : (args double policy now).capacity.sub double (.finite x) = .finite missing := by
    show policy.burst.sub double (.finite x) = _
    rw [h.burst_eq]
    exact hmissing
  -- how long that takes
  have hquotient0 : 0 ≤ missing / r := div_nonneg hmissing0 hpos.le
  have hquotientB : missing / r ≤ 2 ^ (48 : ℤ) := by
    have hburst : (burst : ℚ) ≤ 2 ^ 32 := by exact_mod_cast h.burst_le
    rw [div_le_iff₀ hpos]
    norm_num at hrate ⊢
    linarith
  obtain ⟨hnearest, htime0, htimeB⟩ :=
    Format.nearest_le_pow (F := binary64) (by decide) hquotient0 hquotientB (by decide) (by decide)
  have hdiv : (Number.finite missing).div double (args double policy now).refillPerMs
      = .finite (binary64.rounded (missing / r)) := by
    show (Number.finite missing).div double (toRefillPerMs double policy) = _
    rw [hr, Number.div_finite hpos.ne']
    exact hnearest
  -- and a second of slack
  have hceil0 : 0 ≤ ⌈binary64.rounded (missing / r)⌉ := Int.ceil_nonneg htime0
  have hceilB : ⌈binary64.rounded (missing / r)⌉ ≤ 2 ^ 48 := Int.ceil_le.mpr (by exact_mod_cast htimeB)
  refine ⟨⌈binary64.rounded (missing / r)⌉ + 1000, ?_, by omega, by omega⟩
  unfold expiry
  rw [hsub, hdiv]
  show double ((⌈binary64.rounded (missing / r)⌉ : ℚ) + 1000) = _
  have hcast : ((⌈binary64.rounded (missing / r)⌉ : ℚ) + 1000) = ((⌈binary64.rounded (missing / r)⌉ + 1000 : ℤ) : ℚ) := by
    push_cast
    ring
  rw [hcast]
  apply Format.nearest_intCast (by decide) (by decide) (by decide)
  rw [abs_of_nonneg (by exact_mod_cast (by omega : 0 ≤ ⌈binary64.rounded (missing / r)⌉ + 1000))]
  have hlarge : ⌈binary64.rounded (missing / r)⌉ + 1000 < 2 ^ 53 := by omega
  exact_mod_cast hlarge

end

/-! ## Call after call -/

variable {redis : Redis} {toLowerCase : Str → Str} {expires : ℤ → ℤ → Bool} {calls : ℕ → Call Number} {key : Str}
  {policy : RateLimitPolicy Number} {burst : ℕ}

theorem holds_visible {bucket : Bucket Number} (h : Holds burst bucket) (redisNow : ℤ) :
    Holds burst (bucket.visible expires redisNow) := by
  unfold Bucket.visible
  split
  · split
    · intro tokens hnone
      cases hnone
    · exact h
  · exact h

/-- The script leaves a number of tokens there can be. -/
theorem holds_script (h : Ordinary policy burst) {bucket : Bucket Number} (hbucket : Holds burst bucket) (now redisNow : ℤ) :
    Holds burst (script double redis (args double policy now) redisNow bucket).1 := by
  have hleft := within_left h (within_refilled h hbucket now) now
  unfold script
  dsimp only
  split
  · intro tokens htokens
    obtain rfl := Option.some.inj htokens
    exact hleft
  · intro tokens htokens
    obtain rfl := Option.some.inj htokens
    exact hleft

/-- **A policy as one configures it is a limit,** for every call of every run. -/
theorem enforced_ordinary (hredis : ∀ n : ℤ, 0 ≤ n → n ≤ 2 ^ 49 → redis.takesExpiry n = true)
    (h : Ordinary policy burst) (hcalls : OneBucket toLowerCase calls key policy) (i : ℕ) :
    Enforced redis toLowerCase expires (storeAt double redis toLowerCase expires calls i) (calls i) := by
  have hholds : ∀ i, Holds burst (storeAt double redis toLowerCase expires calls i key) := by
    intro i
    induction i with
    | zero => exact fun tokens hnone => by cases hnone
    | succ i ih =>
        show Holds burst ((run double redis toLowerCase expires (calls i) _).1 key)
        rw [run_eq, hcalls.key_eq i, hcalls.policy_eq i]
        dsimp only
        rw [Function.update_self]
        exact holds_script h (holds_visible ih _) _ _
  -- Redis may have dropped the bucket, and nothing is stored then
  have hfound : Holds burst (found toLowerCase expires (storeAt double redis toLowerCase expires calls i) (calls i)) := by
    unfold found
    rw [hcalls.key_eq i]
    exact holds_visible (hholds i) _
  have hpolicy := hcalls.policy_eq i
  have hordinary : Ordinary (calls i).input.policy burst := hpolicy ▸ h
  have hrefilled := within_refilled hordinary hfound (calls i).input.now
  have hleft := within_left hordinary hrefilled (calls i).input.now
  obtain ⟨n, hn, hlow, hhigh⟩ := expiry_ordinary hordinary hleft (calls i).input.now
  exact enforced_iff_pexpire.mpr ⟨n, pexpire_eq_some.mpr ⟨hn, hredis n hlow hhigh⟩⟩

/-- At 600 a minute with a burst of 200, so is the two hundred and first call of a spike. -/
theorem enforced_ordinary_spike :
    Enforced redis64 id never (storeAt double redis64 id never (fun i => ofCall (spike i)) 200) (ofCall (spike 200)) := by
  have hexpiry : ∀ n : ℤ, 0 ≤ n → n ≤ 2 ^ 49 → redis64.takesExpiry n = true := by
    intro n hlow hhigh
    show (decide (-2 ^ 63 ≤ n) && decide (n < 2 ^ 63)) = true
    rw [Bool.and_eq_true, decide_eq_true_iff, decide_eq_true_iff]
    omega
  have hordinary : Ordinary (ofPolicy ⟨600, 200⟩) 200 := ⟨⟨600, rfl, by norm_num, by norm_num⟩, rfl, by norm_num⟩
  exact enforced_ordinary hexpiry hordinary ⟨fun _ => rfl, fun _ => rfl⟩ 200

end Rounded
end RateLimit
end NestSdk
