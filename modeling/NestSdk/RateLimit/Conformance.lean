import NestSdk.RateLimit.Service

/-!
# `RateLimit.Conformance` — what the limiter admits

A run of calls to one bucket that stays. The script's incremental state is the general token bucket's level
(`refilled_eq`), its time the highest clock any caller has shown so far; what the bucket admits is then what every
window has room for.

**`conformance`** is that equivalence, with the bound on each window it implies.
-/

namespace NestSdk
namespace RateLimit

open Js Lib

variable {K : Type} [Field K] [LinearOrder K] [IsStrictOrderedRing K] [FloorRing K]

/-- The highest clock any of the calls up to `i` brought. -/
def highest (calls : ℕ → Call K) (i : ℕ) : ℤ := partialSups (fun k => (calls k).input.now) i

omit [Field K] [LinearOrder K] [IsStrictOrderedRing K] [FloorRing K] in
theorem highest_zero (calls : ℕ → Call K) : highest calls 0 = (calls 0).input.now :=
  partialSups_zero _

omit [Field K] [LinearOrder K] [IsStrictOrderedRing K] [FloorRing K] in
theorem highest_succ (calls : ℕ → Call K) (i : ℕ) :
    highest calls (i + 1) = max (highest calls i) (calls (i + 1)).input.now :=
  partialSups_succ _ i

omit [FloorRing K] in
theorem highest_monotone (calls : ℕ → Call K) : Monotone fun i => (highest calls i : K) :=
  fun _ _ h => Int.cast_le.mpr ((partialSups fun k => (calls k).input.now).monotone h)

section Level

variable (toLowerCase : Str → Str) (calls : ℕ → Call K) (store : Store K) (policy : RateLimitPolicy K)

/-- The token a call spends, if it was allowed. -/
def spentAt (i : ℕ) : K := if (decisionAt toLowerCase never calls store i).isAllowed then 1 else 0

/-- What the bucket holds when call `i` comes. -/
def levelAt : ℕ → K :=
  TokenBucket.level policy.burst (toRefillPerMs policy) (fun i => (highest calls i : K))
    (spentAt toLowerCase calls store)

end Level

variable {toLowerCase : Str → Str} {calls : ℕ → Call K} {store : Store K} {key : Str}
  {policy : RateLimitPolicy K}

omit [IsStrictOrderedRing K] in
theorem levelAt_succ (i : ℕ) : levelAt toLowerCase calls store policy (i + 1) =
    TokenBucket.refilled policy.burst (toRefillPerMs policy)
      (levelAt toLowerCase calls store policy i - spentAt toLowerCase calls store i)
      ((max (highest calls i) (calls (i + 1)).input.now - highest calls i : ℤ) : K) := by
  rw [Int.cast_sub, ← highest_succ]
  rfl

omit [FloorRing K] in
theorem toRefillPerMs_pos (hrate : 0 < policy.perMinute) : 0 < toRefillPerMs policy :=
  div_pos hrate (by norm_num [MS_PER_MINUTE])

omit [IsStrictOrderedRing K] [FloorRing K] in
/-- A call spends one token if there is one. -/
theorem left_args (now : ℤ) (tokens : K) :
    (policy.args now).left tokens = tokens - if 1 ≤ tokens then 1 else 0 := by
  unfold Args.left RateLimitPolicy.args RATE_LIMIT_DEFAULT_COST
  by_cases h : 1 ≤ tokens <;> simp [h]

omit [FloorRing K] in
theorem left_args_le (now : ℤ) {tokens : K} (h : tokens ≤ policy.burst) :
    (policy.args now).left tokens ≤ policy.burst :=
  (left_le (by simp [RateLimitPolicy.args]) tokens).trans h

section OneBucket

variable (hcalls : OneBucket toLowerCase calls key policy) (hrate : 0 < policy.perMinute)
include hcalls

omit [LinearOrder K] [IsStrictOrderedRing K] [FloorRing K] in
theorem args_eq (i : ℕ) : (calls i).args = policy.args (calls i).input.now := by
  unfold Call.args
  rw [hcalls.policy_eq]

include hrate

omit [FloorRing K] in
theorem args_rate_pos (i : ℕ) : 0 < (calls i).args.refillPerMs := by
  rw [args_eq hcalls]
  exact toRefillPerMs_pos hrate

/-- **One call:** with so many tokens available, this is the reply. -/
theorem reply_of_refilled {expires : ℤ → ℤ → Bool} {i : ℕ} {available : K} {updatedAt : ℤ}
    (h : (calls i).args.refilled (bucketAt toLowerCase expires calls store i) = (available, updatedAt)) :
    replyAt toLowerCase expires calls store i = some ((calls i).args.reply available) := by
  unfold replyAt
  rw [script_of_rate_pos (args_rate_pos hcalls hrate i), h]

/-- The call is allowed if a whole token is available. -/
theorem decision_of_refilled {expires : ℤ → ℤ → Bool} {i : ℕ} {available : K} {updatedAt : ℤ}
    (h : (calls i).args.refilled (bucketAt toLowerCase expires calls store i) = (available, updatedAt)) :
    (decisionAt toLowerCase expires calls store i).isAllowed = true ↔ 1 ≤ available := by
  rw [decisionAt_eq, reply_of_refilled hcalls hrate h]
  show decide ((if available ≥ ((RATE_LIMIT_DEFAULT_COST : ℕ) : K) then (1 : ℤ) else 0) = 1) = true ↔ _
  by_cases hone : 1 ≤ available <;> simp [RATE_LIMIT_DEFAULT_COST, hone]

/-- The bucket a call leaves behind. -/
theorem bucket_of_refilled {expires : ℤ → ℤ → Bool} {i : ℕ} {available : K} {updatedAt : ℤ}
    (h : (calls i).args.refilled (bucketAt toLowerCase expires calls store i) = (available, updatedAt)) :
    storeAt toLowerCase expires calls store (i + 1) key =
      let left := (policy.args (calls i).input.now).left available
      ⟨some left, some updatedAt,
        some ((calls i).redisNow + (⌈(policy.burst - left) / toRefillPerMs policy⌉ + 1000))⟩ := by
  rw [storeAt_succ hcalls, script_of_rate_pos (args_rate_pos hcalls hrate i), h, args_eq hcalls]
  rfl

variable (hstart : store key = Bucket.absent)
include hstart

/-- **The script's state is the token bucket's level**, by induction on the calls. -/
theorem refilled_eq (i : ℕ) :
    (calls i).args.refilled (bucketAt toLowerCase never calls store i) =
      (levelAt toLowerCase calls store policy i, highest calls i) := by
  induction i with
  | zero =>
      have hbucket : bucketAt toLowerCase never calls store 0 = Bucket.absent := by
        unfold bucketAt
        rw [visible_never, hcalls.key_eq]
        exact hstart
      rw [hbucket, refilled_absent, args_eq hcalls, highest_zero]
      rfl
  | succ i ih =>
      have hbucket := bucket_of_refilled hcalls hrate ih
      have hallowed := decision_of_refilled hcalls hrate ih
      have hspent : (policy.args (calls i).input.now).left (levelAt toLowerCase calls store policy i) =
          levelAt toLowerCase calls store policy i - spentAt toLowerCase calls store i := by
        rw [left_args]
        unfold spentAt
        simp only [hallowed]
      unfold bucketAt
      rw [visible_never, hcalls.key_eq, hbucket, args_eq hcalls]
      dsimp only
      rw [refilled_present _ (left_args_le _ (TokenBucket.level_le_capacity i)), hspent, highest_succ,
        levelAt_succ]
      rfl

/-- A call is allowed exactly when the level holds a token. -/
theorem allowed_iff (i : ℕ) : (decisionAt toLowerCase never calls store i).isAllowed = true ↔
    1 ≤ levelAt toLowerCase calls store policy i :=
  decision_of_refilled hcalls hrate (refilled_eq hcalls hrate hstart i)

/-- What a call spends, it has. -/
theorem spentAt_le (hburst : 0 ≤ policy.burst) (i : ℕ) :
    spentAt toLowerCase calls store i ≤ levelAt toLowerCase calls store policy i := by
  have hfits : ∀ k, 0 ≤ levelAt toLowerCase calls store policy k →
      spentAt toLowerCase calls store k ≤ levelAt toLowerCase calls store policy k := by
    intro k hlevel
    unfold spentAt
    by_cases hallowed : (decisionAt toLowerCase never calls store k).isAllowed = true
    · rw [if_pos hallowed]
      exact (allowed_iff hcalls hrate hstart k).mp hallowed
    · rw [if_neg hallowed]
      exact hlevel
  exact hfits i (TokenBucket.level_nonneg hburst (toRefillPerMs_pos hrate).le (highest_monotone calls)
    hfits i)

end OneBucket

/-- The calls from `j` up to `i`, `i` apart, that were allowed. -/
def allowedIn (toLowerCase : Str → Str) (calls : ℕ → Call K) (store : Store K) (j i : ℕ) : ℕ :=
  ((Finset.Ico j i).filter fun k => (decisionAt toLowerCase never calls store k).isAllowed).card

omit [IsStrictOrderedRing K] in
theorem sum_spentAt (j i : ℕ) :
    ∑ k ∈ Finset.Ico j i, spentAt toLowerCase calls store k = allowedIn toLowerCase calls store j i := by
  unfold spentAt allowedIn
  rw [Finset.sum_boole]

/-- **Token-bucket conformance.** On a bucket that starts absent and stays, under one policy of positive rate
    and whatever the callers' clocks: a call is allowed exactly when, for every earlier call, it and the calls
    allowed since fit the burst and the refill between the two, on the highest clock shown so far. So no window
    admits more than the burst and its refill. -/
theorem conformance (hcalls : OneBucket toLowerCase calls key policy) (hburst : 0 ≤ policy.burst)
    (hrate : 0 < policy.perMinute) (hstart : store key = Bucket.absent) (i : ℕ) :
    ((decisionAt toLowerCase never calls store i).isAllowed = true ↔
      ∀ j ≤ i, (allowedIn toLowerCase calls store j i : K) + 1 ≤
        policy.burst + policy.perMinute / 60000 * (highest calls i - highest calls j)) ∧
    ∀ j ≤ i, (allowedIn toLowerCase calls store j (i + 1) : K) ≤
      policy.burst + policy.perMinute / 60000 * (highest calls i - highest calls j) := by
  have hrefill : policy.perMinute / 60000 = toRefillPerMs policy := by
    simp [toRefillPerMs, MS_PER_MINUTE]
  simp only [hrefill, ← sum_spentAt]
  refine ⟨?_, ?_⟩
  · rw [allowed_iff hcalls hrate hstart]
    exact TokenBucket.le_level_iff i 1
  · intro j hj
    exact TokenBucket.window_bound hj (spentAt_le hcalls hrate hstart hburst i)

/-! ## Calls at one instant -/

/-- One caller calling again and again without the clock moving. -/
def spike : ℕ → Call ℚ := fun _ => ⟨str "conduit", ⟨str "ingress", str "caller", none, ⟨600, 200⟩, 0⟩, 0⟩

theorem spike_oneBucket : OneBucket id spike ((spike 0).key id) ⟨600, 200⟩ :=
  ⟨fun _ => rfl, fun _ => rfl⟩

/-- Of three hundred calls at once, no more than the burst pass. -/
theorem conformance_spike : (allowedIn id spike Store.empty 0 300 : ℚ) ≤ 200 := by
  have hsame : ∀ i, highest spike i = 0 := 
    fun i => congrFun monotone_const.partialSups_eq i
  have hstart : (Store.empty : Store ℚ) ((spike 0).key id) = Bucket.absent := rfl
  have hwindow := (conformance spike_oneBucket (by norm_num) (by norm_num) hstart 299).2 0 (by norm_num)
  rw [hsame, hsame] at hwindow
  simpa using hwindow

end RateLimit
end NestSdk
