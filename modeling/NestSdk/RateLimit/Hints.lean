import NestSdk.RateLimit.Expiry

/-!
# `RateLimit.Hints` — what a decision says of the calls to come

With no other caller in between, the tokens a decision leaves behind decide every later call: `remaining` is
how many more the instant has room for, `retryAfterMs` the first moment there is a whole token again. A key that
expires in between changes neither, since by then the bucket would be full (`refilled_later`).
-/

namespace NestSdk
namespace RateLimit

open Js Lib

variable {K : Type} [Field K] [LinearOrder K] [FloorRing K]

/-- What calls under one policy make of a bucket that was not there, whatever the clocks. -/
inductive ReachableBucket (policy : RateLimitPolicy K) (expires : ℤ → ℤ → Bool) : Bucket K → Prop
  | absent : ReachableBucket policy expires Bucket.absent
  | call {bucket : Bucket K} (now redisNow : ℤ) (h : ReachableBucket policy expires bucket) :
      ReachableBucket policy expires (script (policy.args now) redisNow (bucket.visible expires redisNow)).1

/-- The same call, so many milliseconds later on both clocks. -/
def Call.later (call : Call K) (ms : ℤ) : Call K :=
  { call with
    input := { call.input with now := call.input.now + ms }
    redisNow := call.redisNow + ms }

section Hints

variable (toLowerCase : Str → Str) (expires : ℤ → ℤ → Bool) (call : Call K) (store : Store K)

/-- Whether the call would be allowed `ms` after it was made. -/
def AllowedLater (ms : ℤ) : Prop :=
  ((call.later ms).run toLowerCase expires (call.run toLowerCase expires store).1).2.isAllowed = true

/-- **The decision's hints are exact.** Made again and again at its own instant, the call is allowed `remaining`
    more times and not once more; a refused call is allowed from `retryAfterMs` on and no sooner, and when the
    client comes back after `retryAfterSeconds`. -/
structure ExactHints : Prop where
  remaining : ∃ k : ℕ, (call.run toLowerCase expires store).2.remaining = k ∧
    (∀ i, i < k → (decisionAt toLowerCase expires (fun _ => call) store (i + 1)).isAllowed = true) ∧
    (decisionAt toLowerCase expires (fun _ => call) store (k + 1)).isAllowed = false
  refused : (call.run toLowerCase expires store).2.isAllowed = false →
    (∃ reply, (script call.args call.redisNow
        ((store (call.key toLowerCase)).visible expires call.redisNow)).2 = some reply ∧
      IsLeast {ms : ℤ | 0 ≤ ms ∧ AllowedLater toLowerCase expires call store ms} reply.retryAfterMs) ∧
    1 ≤ (call.run toLowerCase expires store).2.retryAfterSeconds ∧
    AllowedLater toLowerCase expires call store
      (1000 * (call.run toLowerCase expires store).2.retryAfterSeconds)
  allowed : (call.run toLowerCase expires store).2.isAllowed = true →
    (call.run toLowerCase expires store).2.retryAfterSeconds = 0

end Hints

/-! ## Reachable buckets -/

section Reachable

variable [IsStrictOrderedRing K] {policy : RateLimitPolicy K} {expires : ℤ → ℤ → Bool}

/-- The bucket is absent or holds no less than nothing and no more than the burst. -/
def Bucket.Bounded (capacity : K) (bucket : Bucket K) : Prop :=
  bucket = Bucket.absent ∨ ∃ tokens updatedAt expireAt,
    bucket = ⟨some tokens, some updatedAt, expireAt⟩ ∧ 0 ≤ tokens ∧ tokens ≤ capacity

omit [FloorRing K] [IsStrictOrderedRing K] in
theorem bounded_visible {capacity : K} {bucket : Bucket K} (h : bucket.Bounded capacity)
    (expires : ℤ → ℤ → Bool) (redisNow : ℤ) :
    (bucket.visible expires redisNow).Bounded capacity := by
  unfold Bucket.visible
  split
  · split
    · exact .inl rfl
    · exact h
  · exact h

omit [Field K] [LinearOrder K] [FloorRing K] [IsStrictOrderedRing K] in
/-- What is visible was written no later than what is stored. -/
theorem visible_updatedAt {bucket : Bucket K} {now redisNow : ℤ}
    (h : ∀ updatedAt, bucket.updatedAt = some updatedAt → updatedAt ≤ now) :
    ∀ updatedAt, (bucket.visible expires redisNow).updatedAt = some updatedAt → updatedAt ≤ now := by
  intro updatedAt hvisible
  unfold Bucket.visible at hvisible
  split at hvisible
  · split at hvisible
    · exact absurd hvisible (by simp [Bucket.absent])
    · exact h updatedAt hvisible
  · exact h updatedAt hvisible

/-- Such a bucket is refilled within the same bounds. -/
theorem refilled_bounds {args : Args K} (hcapacity : 0 ≤ args.capacity) (hrate : 0 ≤ args.refillPerMs)
    {bucket : Bucket K} (h : bucket.Bounded args.capacity) :
    0 ≤ (args.refilled bucket).1 ∧ (args.refilled bucket).1 ≤ args.capacity := by
  rcases h with rfl | ⟨tokens, updatedAt, expireAt, rfl, hnonneg, hle⟩
  · rw [refilled_absent]
    exact ⟨hcapacity, le_refl _⟩
  · rw [refilled_present args hle]
    have helapsed : (0 : K) ≤ ((max updatedAt args.now - updatedAt : ℤ) : K) :=
      Int.cast_nonneg (sub_nonneg.mpr (le_max_left _ _))
    refine ⟨le_min hcapacity (add_nonneg hnonneg (mul_nonneg helapsed hrate)), ?_⟩
    exact TokenBucket.refilled_le_capacity _ _ _ _

omit [FloorRing K] in
/-- Only what is there is spent. -/
theorem left_nonneg {now : ℤ} {tokens : K} (h : 0 ≤ tokens) : 0 ≤ (policy.args now).left tokens := by
  rw [left_args]
  split
  · next hone => exact sub_nonneg.mpr hone
  · exact (sub_zero tokens).symm ▸ h

/-- **Every reachable bucket is bounded,** by induction on the calls. -/
theorem bounded_of_reachable (hburst : 0 ≤ policy.burst) (hrate : 0 < policy.perMinute) {bucket : Bucket K}
    (h : ReachableBucket policy expires bucket) : bucket.Bounded policy.burst := by
  induction h with
  | absent => exact .inl rfl
  | @call bucket now redisNow _ ih =>
      have hargs : 0 < (policy.args now).refillPerMs := toRefillPerMs_pos hrate
      obtain ⟨hnonneg, hle⟩ := refilled_bounds (show 0 ≤ (policy.args now).capacity from hburst) hargs.le
        (bounded_visible ih expires redisNow)
      rw [script_of_rate_pos hargs]
      exact .inr ⟨_, _, _, rfl, left_nonneg hnonneg, left_args_le now hle⟩

omit [IsStrictOrderedRing K] in
/-- The buckets of a run to one key are reachable. -/
theorem reachable_storeAt {toLowerCase : Str → Str} {calls : ℕ → Call K} {key : Str}
    (hcalls : OneBucket toLowerCase calls key policy) (i : ℕ) :
    ReachableBucket policy expires (storeAt toLowerCase expires calls Store.empty i key) := by
  induction i with
  | zero => exact .absent
  | succ i ih =>
      rw [storeAt_succ hcalls, args_eq hcalls]
      unfold bucketAt
      rw [hcalls.key_eq]
      exact .call _ _ ih

end Reachable

/-! ## The bucket a call leaves behind -/

section Settled

variable [IsStrictOrderedRing K] {toLowerCase : Str → Str} {expires : ℤ → ℤ → Bool} {call : Call K}
  {store : Store K}

/-- The bucket with so many tokens left at the instant of the call. -/
def Call.settled (call : Call K) (tokens : K) : Bucket K :=
  ⟨some tokens, some call.input.now,
    some (call.redisNow + (⌈(call.input.policy.burst - tokens) / toRefillPerMs call.input.policy⌉ + 1000))⟩

/-- The decision on a call that finds so many tokens. -/
def Call.decision (call : Call K) (available : K) : RateLimitDecision K :=
  call.input.policy.decision (call.args.reply available)

omit [IsStrictOrderedRing K] in
theorem decision_isAllowed (call : Call K) (available : K) :
    (call.decision available).isAllowed = true ↔ 1 ≤ available := by
  show decide ((if available ≥ ((RATE_LIMIT_DEFAULT_COST : ℕ) : K) then (1 : ℤ) else 0) = 1) = true ↔ _
  by_cases hone : 1 ≤ available <;> simp [RATE_LIMIT_DEFAULT_COST, hone]

omit [IsStrictOrderedRing K] in
/-- The wait the script tells. -/
theorem reply_retryAfterMs (call : Call K) (available : K) :
    (call.args.reply available).retryAfterMs = if 1 ≤ available then 0 else
      ⌈(1 - call.args.left available) / toRefillPerMs call.input.policy⌉ := by
  simp only [Args.reply, Call.args, RateLimitPolicy.args, RATE_LIMIT_DEFAULT_COST, Nat.cast_one, ge_iff_le]

/-- **One call:** with so many tokens available at its instant, this is what it decides and leaves behind. -/
theorem run_of_refilled (hrate : 0 < call.input.policy.perMinute) {available : K}
    (h : call.args.refilled ((store (call.key toLowerCase)).visible expires call.redisNow) =
      (available, call.input.now)) :
    call.run toLowerCase expires store =
      (Function.update store (call.key toLowerCase) (call.settled (call.args.left available)),
        call.decision available) := by
  rw [run_eq, script_of_rate_pos (show 0 < call.args.refillPerMs from toRefillPerMs_pos hrate), h]
  rfl

/-- **What is left is refilled as if the key stayed:** by when it expires, the bucket would be full. -/
theorem refilled_later (hrate : 0 < call.input.policy.perMinute)
    (hexpires : ∀ expireAt redisNow, expires expireAt redisNow = true → expireAt ≤ redisNow)
    {tokens : K} (htokens : tokens ≤ call.input.policy.burst)
    {ms : ℤ} (hms : 0 ≤ ms) :
    (call.later ms).args.refilled ((call.settled tokens).visible expires (call.later ms).redisNow) =
      (min call.input.policy.burst (tokens + ms * toRefillPerMs call.input.policy),
        (call.later ms).input.now) := by
  have hpos : 0 < (call.later ms).args.refillPerMs := toRefillPerMs_pos hrate
  have hforward : max call.input.now (call.input.now + ms) = call.input.now + ms :=
    max_eq_right (le_add_of_nonneg_right hms)
  have hstays : (call.later ms).args.refilled (call.settled tokens) =
      (min call.input.policy.burst (tokens + ms * toRefillPerMs call.input.policy),
        (call.later ms).input.now) := by
    refine (refilled_present (call.later ms).args htokens _ _).trans ?_
    show (TokenBucket.refilled _ _ tokens
      ((max call.input.now (call.input.now + ms) - call.input.now : ℤ) : K), _) = _
    rw [hforward, add_sub_cancel_left]
    exact congrArg (Prod.mk _) hforward
  unfold Bucket.visible
  dsimp only [Call.settled]
  split
  · next hgone =>
    have hdue : call.redisNow + (_ + 1000) ≤ call.redisNow + ms := hexpires _ _ hgone
    have hfull : call.input.now + ⌈(call.input.policy.burst - tokens) / toRefillPerMs call.input.policy⌉ ≤
        call.input.now + ms := by omega
    exact (refilled_expired hpos htokens _ hfull).symm.trans hstays
  · exact hstays

omit [Field K] [LinearOrder K] [FloorRing K] [IsStrictOrderedRing K] in
theorem later_zero (call : Call K) : call.later 0 = call := by
  unfold Call.later
  rw [add_zero, add_zero]

/-- **Made again at its own instant,** the call finds what it left. -/
theorem run_settled (hrate : 0 < call.input.policy.perMinute)
    (hexpires : ∀ expireAt redisNow, expires expireAt redisNow = true → expireAt ≤ redisNow)
    {tokens : K} (htokens : tokens ≤ call.input.policy.burst)
    (hstore : store (call.key toLowerCase) = call.settled tokens) :
    call.run toLowerCase expires store =
      (Function.update store (call.key toLowerCase) (call.settled (call.args.left tokens)),
        call.decision tokens) := by
  have hlater := refilled_later hrate hexpires htokens (le_refl 0)
  rw [later_zero, Int.cast_zero, zero_mul, add_zero, min_eq_right htokens] at hlater
  exact run_of_refilled hrate (hstore ▸ hlater)

/-- **The tokens the calls at one instant find**, by induction on the calls: each allowed one takes a token. -/
theorem store_again (hrate : 0 < call.input.policy.perMinute)
    (hexpires : ∀ expireAt redisNow, expires expireAt redisNow = true → expireAt ≤ redisNow)
    {tokens : K} (htokens : tokens ≤ call.input.policy.burst)
    (hfirst : storeAt toLowerCase expires (fun _ => call) store 1 (call.key toLowerCase) =
      call.settled tokens) (i : ℕ) : (i : K) ≤ tokens →
    storeAt toLowerCase expires (fun _ => call) store (i + 1) (call.key toLowerCase) =
      call.settled (tokens - i) := by
  induction i with
  | zero =>
      intro _
      rw [hfirst, Nat.cast_zero, sub_zero]
  | succ i ih =>
      intro hi
      push_cast at hi
      have hbefore := ih (by linarith)
      have hle : tokens - i ≤ call.input.policy.burst := by
        have hnonneg : (0 : K) ≤ i := Nat.cast_nonneg i
        linarith
      -- there is a token left for this call, and it takes it
      have hleft : call.args.left (tokens - i) = tokens - (i + 1 : ℕ) := by
        refine (left_args call.input.now (tokens - i)).trans ?_
        rw [if_pos (by linarith)]
        push_cast
        ring
      show (call.run toLowerCase expires _).1 (call.key toLowerCase) = _
      rw [run_settled hrate hexpires hle hbefore, hleft]
      exact Function.update_self _ _ _

/-- What the calls at one instant are told. -/
theorem decision_again (hrate : 0 < call.input.policy.perMinute)
    (hexpires : ∀ expireAt redisNow, expires expireAt redisNow = true → expireAt ≤ redisNow)
    {tokens : K} (htokens : tokens ≤ call.input.policy.burst)
    (hfirst : storeAt toLowerCase expires (fun _ => call) store 1 (call.key toLowerCase) =
      call.settled tokens) {i : ℕ} (hi : (i : K) ≤ tokens) :
    decisionAt toLowerCase expires (fun _ => call) store (i + 1) = call.decision (tokens - i) := by
  have hle : tokens - i ≤ call.input.policy.burst := by
    have hnonneg : (0 : K) ≤ i := Nat.cast_nonneg i
    linarith
  unfold decisionAt
  rw [run_settled hrate hexpires hle (store_again hrate hexpires htokens hfirst i hi)]

/-- Whether a refused call is allowed later is a matter of the refill alone. -/
theorem allowedLater_iff (hburst : 1 ≤ call.input.policy.burst) (hrate : 0 < call.input.policy.perMinute)
    (hexpires : ∀ expireAt redisNow, expires expireAt redisNow = true → expireAt ≤ redisNow)
    {tokens : K} (htokens : tokens ≤ call.input.policy.burst)
    (hleft : (call.run toLowerCase expires store).1 (call.key toLowerCase) = call.settled tokens) {ms : ℤ}
    (hms : 0 ≤ ms) :
    AllowedLater toLowerCase expires call store ms ↔
      ⌈(1 - tokens) / toRefillPerMs call.input.policy⌉ ≤ ms := by
  have hlater := refilled_later hrate hexpires htokens hms
  rw [← hleft] at hlater
  unfold AllowedLater
  rw [run_of_refilled (show 0 < (call.later ms).input.policy.perMinute from hrate) hlater, decision_isAllowed, le_min_iff, Int.ceil_le,
    div_le_iff₀ (toRefillPerMs_pos hrate), sub_le_iff_le_add']
  exact and_iff_right hburst

omit [FloorRing K] [IsStrictOrderedRing K] in
/-- A bucket last written no later than the call is refilled up to the call. -/
theorem refilled_now {args : Args K} {bucket : Bucket K} (hbounded : bucket.Bounded args.capacity)
    (hnow : ∀ updatedAt, bucket.updatedAt = some updatedAt → updatedAt ≤ args.now) :
    (args.refilled bucket).2 = args.now := by
  rcases hbounded with rfl | ⟨tokens, updatedAt, expireAt, rfl, -, hle⟩
  · rw [refilled_absent]
  · rw [refilled_present args hle]
    exact max_eq_right (hnow updatedAt rfl)

end Settled

/-! ## The hints -/

section ExactHints

variable [IsStrictOrderedRing K] {toLowerCase : Str → Str} {expires : ℤ → ℤ → Bool} {call : Call K}
  {store : Store K}

/-- The wait of a refused call, in whole seconds, covers the wait in milliseconds and is never nothing. -/
theorem seconds_bounds {ms : ℤ} (hms : 0 < ms) : 1 ≤ ⌈(ms : ℚ) / 1000⌉ ∧ ms ≤ 1000 * ⌈(ms : ℚ) / 1000⌉ := by
  have hpos : (0 : ℚ) < (ms : ℚ) / 1000 := div_pos (Int.cast_pos.mpr hms) (by norm_num)
  refine ⟨Int.one_le_ceil_iff.mpr hpos, ?_⟩
  have hceil : (ms : ℚ) / 1000 ≤ ⌈(ms : ℚ) / 1000⌉ := Int.le_ceil _
  have hcast : (ms : ℚ) ≤ ((1000 * ⌈(ms : ℚ) / 1000⌉ : ℤ) : ℚ) := by
    push_cast
    linarith
  exact_mod_cast hcast

/-- `remaining` counts the calls this instant still has room for. -/
theorem remaining_exact (hrate : 0 < call.input.policy.perMinute)
    (hexpires : ∀ expireAt redisNow, expires expireAt redisNow = true → expireAt ≤ redisNow)
    {available : K} (hdecision : (call.run toLowerCase expires store).2 = call.decision available)
    (hnonneg : 0 ≤ call.args.left available) (hle : call.args.left available ≤ call.input.policy.burst)
    (hleft : (call.run toLowerCase expires store).1 (call.key toLowerCase) =
      call.settled (call.args.left available)) :
    ∃ k : ℕ, (call.run toLowerCase expires store).2.remaining = k ∧
      (∀ i, i < k → (decisionAt toLowerCase expires (fun _ => call) store (i + 1)).isAllowed = true) ∧
      (decisionAt toLowerCase expires (fun _ => call) store (k + 1)).isAllowed = false := by
  have hfloor : ((⌊call.args.left available⌋₊ : ℕ) : K) ≤ call.args.left available := Nat.floor_le hnonneg
  have hlt : call.args.left available < (⌊call.args.left available⌋₊ : ℕ) + 1 := Nat.lt_floor_add_one _
  refine ⟨⌊call.args.left available⌋₊, ?_, ?_, ?_⟩
  · rw [hdecision]
    exact (natCast_floor_eq_intCast_floor hnonneg).symm
  · intro i hi
    have hroom : ((i + 1 : ℕ) : K) ≤ call.args.left available := (Nat.cast_le.mpr hi).trans hfloor
    push_cast at hroom
    rw [decision_again hrate hexpires hle hleft (by linarith), decision_isAllowed]
    linarith
  · rw [decision_again hrate hexpires hle hleft hfloor, ← Bool.not_eq_true, decision_isAllowed]
    linarith

/-- A refused call is told the first whole millisecond with a token in it. -/
theorem retry_exact (hburst : 1 ≤ call.input.policy.burst) (hrate : 0 < call.input.policy.perMinute)
    (hexpires : ∀ expireAt redisNow, expires expireAt redisNow = true → expireAt ≤ redisNow)
    {tokens : K} (hrefused : tokens < 1)
    (hleft : (call.run toLowerCase expires store).1 (call.key toLowerCase) = call.settled tokens) :
    0 < ⌈(1 - tokens) / toRefillPerMs call.input.policy⌉ ∧
    IsLeast {ms : ℤ | 0 ≤ ms ∧ AllowedLater toLowerCase expires call store ms}
      ⌈(1 - tokens) / toRefillPerMs call.input.policy⌉ := by
  have hle : tokens ≤ call.input.policy.burst := hrefused.le.trans hburst
  have hwait : 0 < (1 - tokens) / toRefillPerMs call.input.policy :=
    div_pos (sub_pos.mpr hrefused) (toRefillPerMs_pos hrate)
  have hceil := Int.ceil_pos.mpr hwait
  refine ⟨hceil, ⟨hceil.le, ?_⟩, ?_⟩
  · exact (allowedLater_iff hburst hrate hexpires hle hleft hceil.le).mpr (le_refl _)
  · rintro ms ⟨hms, hallowed⟩
    exact (allowedLater_iff hburst hrate hexpires hle hleft hms).mp hallowed

/-- **Exact hints,** for every bucket calls under the policy can have left, whichever rule keys expire by, at every
    instant from the bucket's own clock on. -/
theorem exactHints (hburst : 1 ≤ call.input.policy.burst) (hrate : 0 < call.input.policy.perMinute)
    (hexpires : ∀ expireAt redisNow, expires expireAt redisNow = true → expireAt ≤ redisNow)
    (hreach : ReachableBucket call.input.policy expires (store (call.key toLowerCase)))
    (hnow : ∀ updatedAt, (store (call.key toLowerCase)).updatedAt = some updatedAt →
      updatedAt ≤ call.input.now) : ExactHints toLowerCase expires call store := by
  have hzero : (0 : K) ≤ call.input.policy.burst := zero_le_one.trans hburst
  have hpos : 0 < call.args.refillPerMs := toRefillPerMs_pos hrate
  have hbounded := bounded_visible (bounded_of_reachable hzero hrate hreach) expires call.redisNow
  obtain ⟨hnonneg, hle⟩ := refilled_bounds (show 0 ≤ call.args.capacity from hzero) hpos.le hbounded
  have hclock := refilled_now (show Bucket.Bounded call.args.capacity _ from hbounded)
    (visible_updatedAt hnow)
  generalize havailable : (call.args.refilled
    ((store (call.key toLowerCase)).visible expires call.redisNow)).1 = available at hnonneg hle
  have hrefilled : call.args.refilled ((store (call.key toLowerCase)).visible expires call.redisNow) =
      (available, call.input.now) := Prod.ext havailable hclock
  have hrun := run_of_refilled hrate hrefilled
  have hdecision := congrArg Prod.snd hrun
  have hleft : (call.run toLowerCase expires store).1 (call.key toLowerCase) =
      call.settled (call.args.left available) := by
    rw [hrun]
    exact Function.update_self _ _ _
  refine ⟨?_, ?_, ?_⟩
  · exact remaining_exact hrate hexpires hdecision (left_nonneg hnonneg)
      (left_args_le call.input.now hle) hleft
  · intro hrefused
    have hless : available < 1 := by
      rw [hdecision, ← Bool.not_eq_true, decision_isAllowed] at hrefused
      exact not_le.mp hrefused
    -- nothing was spent, so what is left is what was found
    have hsame : call.args.left available = available := by
      refine (left_args call.input.now available).trans ?_
      rw [if_neg (not_le.mpr hless), sub_zero]
    rw [hsame] at hleft
    obtain ⟨hwait, hleast⟩ := retry_exact hburst hrate hexpires hless hleft
    have hms : (call.args.reply available).retryAfterMs =
        ⌈(1 - available) / toRefillPerMs call.input.policy⌉ := by
      rw [reply_retryAfterMs, if_neg (not_le.mpr hless), hsame]
    have hseconds : (call.run toLowerCase expires store).2.retryAfterSeconds =
        ⌈((⌈(1 - available) / toRefillPerMs call.input.policy⌉ : ℤ) : ℚ) / 1000⌉ := by
      rw [hdecision, ← hms]
      rfl
    obtain ⟨hone, hcovers⟩ := seconds_bounds hwait
    rw [hseconds]
    refine ⟨⟨call.args.reply available, ?_, hms ▸ hleast⟩, hone, ?_⟩
    · rw [script_of_rate_pos hpos, hrefilled]
    · exact (allowedLater_iff hburst hrate hexpires hle hleft (hwait.le.trans hcovers)).mpr hcovers
  · intro hallowed
    rw [hdecision, decision_isAllowed] at hallowed
    have hms : (call.args.reply available).retryAfterMs = 0 := by
      rw [reply_retryAfterMs, if_pos hallowed]
    rw [hdecision]
    show ⌈((call.args.reply available).retryAfterMs : ℚ) / 1000⌉ = 0
    rw [hms]
    simp

end ExactHints

/-! ## A caller at the end of its burst -/

/-- A bucket of one token, ten tokens a second. -/
def tight : Call ℚ := ⟨str "conduit", ⟨str "ingress", str "caller", none, ⟨600, 1⟩, 0⟩, 0⟩

/-- The second call is refused, and its hints are exact. -/
theorem exactHints_tight :
    ExactHints id (fun expireAt redisNow => expireAt ≤ redisNow) tight
      (tight.run id (fun expireAt redisNow => expireAt ≤ redisNow) Store.empty).1 := by
  have hcalls : OneBucket id (fun _ => tight) (tight.key id) ⟨600, 1⟩ := ⟨fun _ => rfl, fun _ => rfl⟩
  refine exactHints (by norm_num [tight]) (by norm_num [tight]) (fun _ _ => of_decide_eq_true) ?_ ?_
  · exact reachable_storeAt hcalls 1
  · decide +kernel

end RateLimit
end NestSdk
