import NestSdk.RateLimit.Conformance

/-!
# `RateLimit.Expiry` — a key that expires and a key that stays

The expiry the script sets is the time the bucket needs to fill, plus a second. It is counted on Redis's clock
and the refill on the callers', so the second is what their skew may use up (`Skewed`): an expired bucket is
then one the refill would have filled (`refilled_expired`), and two runs, with expiry and without, find equal
buckets at every call.

`expires` may be any rule that keeps a key until its expiry has come.
-/

namespace NestSdk
namespace RateLimit

open Js Lib

variable {K : Type} [Field K] [LinearOrder K] [IsStrictOrderedRing K] [FloorRing K]

/-- Up to call `i`, Redis's clock does not run backwards and the callers' stay between `behind` before it and
    `ahead` after it, at most a second apart. -/
structure Skewed (calls : ℕ → Call K) (behind ahead : K) (i : ℕ) : Prop where
  forward : ∀ j k, j ≤ k → k ≤ i → (calls j).redisNow ≤ (calls k).redisNow
  behind_le : ∀ j ≤ i, ((calls j).redisNow : K) - behind ≤ (calls j).input.now
  le_ahead : ∀ j ≤ i, ((calls j).input.now : K) ≤ (calls j).redisNow + ahead
  within : behind + ahead ≤ 1000

omit [IsStrictOrderedRing K] [FloorRing K] in
theorem Skewed.mono {calls : ℕ → Call K} {behind ahead : K} {i j : ℕ} (h : Skewed calls behind ahead i)
    (hij : j ≤ i) : Skewed calls behind ahead j where
  forward := fun k l hkl hl => h.forward k l hkl (hl.trans hij)
  behind_le := fun k hk => h.behind_le k (hk.trans hij)
  le_ahead := fun k hk => h.le_ahead k (hk.trans hij)
  within := h.within

omit [FloorRing K] in
/-- No caller's clock has been further ahead than Redis's time of the last call allows. -/
theorem Skewed.highest_le {calls : ℕ → Call K} {behind ahead : K} {i : ℕ}
    (h : Skewed calls behind ahead i) : (highest calls i : K) ≤ (calls i).redisNow + ahead := by
  obtain ⟨j, hj, hhighest⟩ := exists_partialSups_eq (fun k => (calls k).input.now) i
  have hnow : highest calls i = (calls j).input.now := hhighest
  have hforward : ((calls j).redisNow : K) ≤ (calls i).redisNow :=
    Int.cast_le.mpr (h.forward j i hj (le_refl i))
  rw [hnow]
  exact (h.le_ahead j hj).trans (by linarith)

/-- **An expired bucket is interchangeable with a full one.** Once the clock has moved on by what the bucket
    needed to fill, the refill of what was stored and the absent bucket come to the same. -/
theorem refilled_expired {args : Args K} (hrate : 0 < args.refillPerMs) {tokens : K}
    (htokens : tokens ≤ args.capacity) {updatedAt : ℤ} (expireAt : Option ℤ)
    (hfull : updatedAt + ⌈(args.capacity - tokens) / args.refillPerMs⌉ ≤ args.now) :
    args.refilled ⟨some tokens, some updatedAt, expireAt⟩ = args.refilled Bucket.absent := by
  have hwait : 0 ≤ (args.capacity - tokens) / args.refillPerMs :=
    div_nonneg (sub_nonneg.mpr htokens) hrate.le
  have hceil : 0 ≤ ⌈(args.capacity - tokens) / args.refillPerMs⌉ := Int.ceil_nonneg hwait
  have hforward : updatedAt ≤ args.now := by omega
  have helapsed : (args.capacity - tokens) / args.refillPerMs ≤ ((args.now - updatedAt : ℤ) : K) := by
    refine (Int.le_ceil _).trans (Int.cast_le.mpr ?_)
    omega
  rw [refilled_present args htokens, refilled_absent, max_eq_right hforward,
    TokenBucket.refilled_of_full ((div_le_iff₀ hrate).mp helapsed)]

variable {toLowerCase : Str → Str} {expires : ℤ → ℤ → Bool} {calls : ℕ → Call K} {store : Store K}
  {key : Str} {policy : RateLimitPolicy K}

/-- **One call:** whether the key it left behind has expired by the next call makes no difference to it. -/
theorem refilled_visible (hrate : 0 < policy.perMinute)
    (hexpires : ∀ expireAt redisNow, expires expireAt redisNow = true → expireAt ≤ redisNow)
    {behind ahead : K} {i : ℕ} (hskew : Skewed calls behind ahead (i + 1)) {tokens : K}
    (htokens : tokens ≤ policy.burst) (bucket : Bucket K)
    (hbucket : bucket = ⟨some tokens, some (highest calls i),
      some ((calls i).redisNow + (⌈(policy.burst - tokens) / toRefillPerMs policy⌉ + 1000))⟩) :
    (policy.args (calls (i + 1)).input.now).refilled (bucket.visible expires (calls (i + 1)).redisNow) =
      (policy.args (calls (i + 1)).input.now).refilled bucket := by
  subst hbucket
  unfold Bucket.visible
  dsimp only
  split
  · next hgone =>
    have hdue := hexpires _ _ hgone
    have hhighest := (hskew.mono (Nat.le_succ i)).highest_le
    have hbehind := hskew.behind_le (i + 1) (le_refl _)
    have hwithin := hskew.within
    refine (refilled_expired (toRefillPerMs_pos hrate) htokens _ ?_).symm
    -- The second of slack pays for the skew of the clocks the two ends were read on.
    have hdue' : ((calls i).redisNow + (⌈(policy.burst - tokens) / toRefillPerMs policy⌉ + 1000) : K) ≤
        (calls (i + 1)).redisNow := by exact_mod_cast hdue
    have hnow : ((highest calls i + ⌈(policy.burst - tokens) / toRefillPerMs policy⌉ : ℤ) : K) ≤
        (calls (i + 1)).input.now := by
      push_cast
      linarith
    exact Int.cast_le.mp hnow
  · rfl

/-- **The two runs keep equal buckets**, by induction on the calls. -/
theorem storeAt_expires (hcalls : OneBucket toLowerCase calls key policy) (hrate : 0 < policy.perMinute)
    (hstart : store key = Bucket.absent)
    (hexpires : ∀ expireAt redisNow, expires expireAt redisNow = true → expireAt ≤ redisNow)
    {behind ahead : K} (i : ℕ) : Skewed calls behind ahead i →
      storeAt toLowerCase expires calls store i key = storeAt toLowerCase never calls store i key ∧
      (calls i).args.refilled (bucketAt toLowerCase expires calls store i) =
        (calls i).args.refilled (bucketAt toLowerCase never calls store i) := by
  induction i with
  | zero =>
      intro _
      refine ⟨rfl, ?_⟩
      have hvisible : ∀ redisNow, (Bucket.absent : Bucket K).visible expires redisNow = Bucket.absent :=
        fun _ => rfl
      unfold bucketAt
      rw [visible_never, hcalls.key_eq]
      show (calls 0).args.refilled ((store key).visible expires _) = (calls 0).args.refilled (store key)
      rw [hstart, hvisible]
  | succ i ih =>
      intro hskew
      obtain ⟨-, havailable⟩ := ih (hskew.mono (Nat.le_succ i))
      rw [refilled_eq hcalls hrate hstart] at havailable
      have hbucket := bucket_of_refilled hcalls hrate havailable
      have hbucket' := bucket_of_refilled hcalls hrate (refilled_eq hcalls hrate hstart i)
      refine ⟨hbucket.trans hbucket'.symm, ?_⟩
      unfold bucketAt
      rw [visible_never, hcalls.key_eq, hbucket, hbucket', args_eq hcalls]
      exact refilled_visible hrate hexpires hskew
        (left_args_le _ (TokenBucket.level_le_capacity i)) _ rfl

/-- **Key expiry never changes a decision.** On a bucket that starts absent, under one policy of positive rate,
    with the callers' clocks within a second of Redis's: the script gives every call one and the same reply,
    whether Redis deletes the key when its expiry comes or never. -/
theorem expiry_transparent (hcalls : OneBucket toLowerCase calls key policy)
    (hrate : 0 < policy.perMinute) (hstart : store key = Bucket.absent)
    (hexpires : ∀ expireAt redisNow, expires expireAt redisNow = true → expireAt ≤ redisNow)
    {behind ahead : K} {i : ℕ} (hskew : Skewed calls behind ahead i) :
    (∃ reply, replyAt toLowerCase expires calls store i = some reply ∧
      replyAt toLowerCase never calls store i = some reply) ∧
    decisionAt toLowerCase expires calls store i = decisionAt toLowerCase never calls store i := by
  obtain ⟨-, havailable⟩ := storeAt_expires hcalls hrate hstart hexpires i hskew
  have hnever := refilled_eq hcalls hrate hstart i
  have hreply := reply_of_refilled hcalls hrate (havailable.trans hnever)
  have hreply' := reply_of_refilled hcalls hrate hnever
  refine ⟨⟨_, hreply, hreply'⟩, ?_⟩
  rw [decisionAt_eq, decisionAt_eq, hreply, hreply']

/-! ## Calls with pauses between them -/

/-- One caller calling every five seconds, by when a bucket of one token has expired. -/
def sparse : ℕ → Call ℚ := fun i =>
  ⟨str "conduit", ⟨str "ingress", str "caller", none, ⟨600, 1⟩, 5000 * i⟩, 5000 * i⟩

theorem sparse_skewed (i : ℕ) : Skewed sparse 0 0 i where
  forward := by
    intro j k hjk _
    simp only [sparse]
    omega
  behind_le := by
    intro j _
    exact (sub_zero _).le
  le_ahead := by
    intro j _
    exact (add_zero _).ge
  within := by norm_num

/-- The second call finds its key gone or not, and is told the same. -/
theorem expiry_transparent_sparse :
    decisionAt id (fun expireAt redisNow => expireAt ≤ redisNow) sparse Store.empty 1 =
      decisionAt id never sparse Store.empty 1 := by
  have hcalls : OneBucket id sparse ((sparse 0).key id) ⟨600, 1⟩ := ⟨fun _ => rfl, fun _ => rfl⟩
  have hstart : (Store.empty : Store ℚ) ((sparse 0).key id) = Bucket.absent := rfl
  exact (expiry_transparent hcalls (by norm_num) hstart (fun _ _ => of_decide_eq_true)
    (sparse_skewed 1)).2

end RateLimit
end NestSdk
