import NestSdk.Lib.Ieee
import NestSdk.RateLimit.Service

/-!
# `RateLimit.Rounded` — the script and the service in the numbers they have

JavaScript and Lua calculate with doubles: every operation rounds, a quotient can be an infinity or a `nan`, and a
positive rate can be rounded to none. The rounding is a parameter here. A number goes from one of them to the other, and
into the hash and back, by its text, which loses nothing but the sign of a zero.

**`script_finite`**: rounding nothing, the script is the exact one.
-/

namespace NestSdk
namespace RateLimit
namespace Rounded

open Js Lib Ieee

/-- What the script needs of Redis: the integers `PEXPIRE` takes, and what a number becomes in an integer reply. -/
structure Redis where
  takesExpiry : ℤ → Bool
  toInteger : Number → ℤ

section

variable (rnd : Rounding)

/-! ## The script -/

/-- `math.min(x, y)`: the first, unless the second is smaller. -/
def luaMin (x y : Number) : Number := if y.lt x then y else x

/-- Only ever move forward. -/
def refilled (args : Args Number) (bucket : Bucket Number) : Number × ℤ :=
  let (tokens, updatedAt) := args.stored bucket
  if args.now > updatedAt then
    let elapsed := (Number.finite args.now).sub rnd (.finite updatedAt)
    (luaMin args.capacity (tokens.add rnd (elapsed.mul rnd args.refillPerMs)), args.now)
  else (tokens, updatedAt)

/-- The tokens left once the request has spent what it costs, if it could. -/
def left (args : Args Number) (tokens : Number) : Number :=
  if args.cost.le tokens then tokens.sub rnd args.cost else tokens

/-- `math.ceil((capacity - tokens) / refillPerMs) + 1000`. -/
def expiry (args : Args Number) (tokens : Number) : Number :=
  (((args.capacity.sub rnd tokens).div rnd args.refillPerMs).ceil).add rnd (.finite 1000)

/-- What `PEXPIRE` makes of its argument; `none` is an error. -/
def pexpire (redis : Redis) : Number → Option ℤ
  | .finite x => if x = ⌊x⌋ && redis.takesExpiry ⌊x⌋ then some ⌊x⌋ else none
  | .infinity _ | .nan => none

/-- `TOKEN_BUCKET_SCRIPT`, run at Redis's time `redisNow`; no reply is an error. -/
def script (redis : Redis) (args : Args Number) (redisNow : ℤ) (bucket : Bucket Number) :
    Bucket Number × Option Reply :=
  let (available, updatedAt) := refilled rnd args bucket
  let allowed : ℤ := if args.cost.le available then 1 else 0
  let tokens := left rnd args available
  -- HSET
  let written : Bucket Number := { bucket with tokens := some tokens, updatedAt := some updatedAt }
  match pexpire redis (expiry rnd args tokens) with
  | none => (written, none)
  | some milliseconds =>
      let expiring := { written with expireAt := some (redisNow + milliseconds) }
      let retryAfterMs := if allowed = 0 then ((args.cost.sub rnd tokens).div rnd args.refillPerMs).ceil else .finite 0
      (expiring, some ⟨allowed, redis.toInteger tokens.floor, redis.toInteger retryAfterMs⟩)

/-! ## The service -/

/-- Tokens per millisecond. -/
def toRefillPerMs (policy : RateLimitPolicy Number) : Number := policy.perMinute.div rnd (.finite MS_PER_MINUTE)

/-- The arguments `consume` passes. -/
def args (policy : RateLimitPolicy Number) (now : ℤ) : Args Number where
  capacity := policy.burst
  refillPerMs := toRefillPerMs rnd policy
  now := now
  cost := .finite RATE_LIMIT_DEFAULT_COST

/-- `Math.ceil(retryAfterMs / 1_000)`. The reply is an integer of 64 bits, and a thousandth of it finite. -/
def toSeconds (retryAfterMs : ℤ) : ℤ :=
  match (Number.finite retryAfterMs).div rnd (.finite 1000) with
  | .finite seconds => ⌈seconds⌉
  | .infinity _ | .nan => 0

/-- What `consume` makes of a reply. -/
def decision (policy : RateLimitPolicy Number) (reply : Reply) : RateLimitDecision Number where
  isAllowed := reply.allowed = 1
  isEnforced := true
  limit := policy.burst
  remaining := rnd reply.remaining
  retryAfterSeconds := toSeconds rnd reply.retryAfterMs

/-- Spends one token from a caller's bucket. -/
def consume (toLowerCase : Str → Str) (client : Option (Client Number)) (nameSpace : Str)
    (input : ConsumeRateLimitInput Number) (store : Store Number) : Store Number × RateLimitDecision Number :=
  match client with
  | none => (store, unenforced input.policy)
  | some iveriTokenBucket =>
      let key := buildRateLimitKey toLowerCase nameSpace input.scope input.hashTag input.suffix
      match iveriTokenBucket key (args rnd input.policy input.now) store with
      | (store, some reply) => (store, decision rnd input.policy reply)
      | (store, none) => (store, unenforced input.policy)

/-! ## A reachable Redis -/

/-- A client whose Redis runs the script. -/
def reachable (redis : Redis) (expires : ℤ → ℤ → Bool) (redisNow : ℤ) : Client Number := fun key args store =>
  let (bucket, reply) := script rnd redis args redisNow ((store key).visible expires redisNow)
  (Function.update store key bucket, reply)

def run (redis : Redis) (toLowerCase : Str → Str) (expires : ℤ → ℤ → Bool) (call : Call Number)
    (store : Store Number) : Store Number × RateLimitDecision Number :=
  consume rnd toLowerCase (some (reachable rnd redis expires call.redisNow)) call.nameSpace call.input store

section Runs

variable (redis : Redis) (toLowerCase : Str → Str) (expires : ℤ → ℤ → Bool) (calls : ℕ → Call Number)

/-- The store before call `i`. It starts without keys. -/
def storeAt : ℕ → Store Number
  | 0 => Store.empty
  | i + 1 => (run rnd redis toLowerCase expires (calls i) (storeAt i)).1

/-- The decision of call `i`. -/
def decisionAt (i : ℕ) : RateLimitDecision Number :=
  (run rnd redis toLowerCase expires (calls i) (storeAt rnd redis toLowerCase expires calls i)).2

end Runs

variable {rnd}

/-- **A run of a call, in terms of the script.** -/
theorem run_eq (redis : Redis) (toLowerCase : Str → Str) (expires : ℤ → ℤ → Bool) (call : Call Number)
    (store : Store Number) :
    run rnd redis toLowerCase expires call store =
      let result := script rnd redis (args rnd call.input.policy call.input.now) call.redisNow
        ((store (call.key toLowerCase)).visible expires call.redisNow)
      (Function.update store (call.key toLowerCase) result.1,
        match result.2 with
        | some reply => decision rnd call.input.policy reply
        | none => unenforced call.input.policy) := by
  show (match reachable rnd redis expires call.redisNow (call.key toLowerCase)
        (args rnd call.input.policy call.input.now) store with
      | (store, some reply) => (store, decision rnd call.input.policy reply)
      | (store, none) => (store, unenforced call.input.policy)) = _
  unfold reachable
  dsimp only
  rcases script rnd redis (args rnd call.input.policy call.input.now) call.redisNow
      ((store (call.key toLowerCase)).visible expires call.redisNow) with ⟨bucket, _ | reply⟩
  · rfl
  · rfl

end

/-! ## What `PEXPIRE` takes -/

theorem pexpire_intCast {redis : Redis} (n : ℤ) :
    pexpire redis (.finite n) = if redis.takesExpiry n = true then some n else none := by
  simp [pexpire]

theorem pexpire_eq_some {redis : Redis} {argument : Number} {n : ℤ} :
    pexpire redis argument = some n ↔ argument = .finite n ∧ redis.takesExpiry n = true := by
  constructor
  · intro h
    cases argument with
    | finite x =>
        obtain ⟨htaken, hfloor⟩ := Option.ite_none_right_eq_some.mp h
        obtain ⟨hinteger, htakes⟩ := Bool.and_eq_true_iff.mp htaken
        obtain rfl := Option.some.inj hfloor
        exact ⟨congrArg Number.finite (of_decide_eq_true hinteger), htakes⟩
    | infinity negative => cases h
    | nan => cases h
  · rintro ⟨rfl, htakes⟩
    rw [pexpire_intCast, if_pos htakes]

/-- A rate of 0 leaves no number to expire by. -/
theorem rate_ne_zero_of_expiry {rnd : Rounding} {args : Args Number} {tokens : Number} {q : ℚ}
    (h : expiry rnd args tokens = .finite q) : args.refillPerMs ≠ .finite 0 := by
  have hceil : ∃ p, (((args.capacity.sub rnd tokens).div rnd args.refillPerMs).ceil) = .finite p := by
    unfold expiry at h
    cases hceil : ((args.capacity.sub rnd tokens).div rnd args.refillPerMs).ceil with
    | finite p => exact ⟨p, rfl⟩
    | infinity negative =>
        rw [hceil] at h
        cases h
    | nan =>
        rw [hceil] at h
        cases h
  obtain ⟨p, hp⟩ := hceil
  obtain ⟨y, hquotient, -⟩ := Number.ceil_eq_finite hp
  exact Number.ne_zero_of_div_finite hquotient

theorem pexpire_of_rate_zero {rnd : Rounding} {redis : Redis} {args : Args Number} (hrate : args.refillPerMs = .finite 0)
    (tokens : Number) : pexpire redis (expiry rnd args tokens) = none := by
  cases hpexpire : pexpire redis (expiry rnd args tokens) with
  | none => rfl
  | some n => exact absurd hrate (rate_ne_zero_of_expiry (pexpire_eq_some.mp hpexpire).1)

/-! ## Rounding nothing -/

/-- The arguments, as numbers. -/
def ofArgs (args : RateLimit.Args ℚ) : Args Number :=
  ⟨.finite args.capacity, .finite args.refillPerMs, args.now, .finite args.cost⟩

/-- The bucket, with its tokens as a number. -/
def ofBucket (bucket : Bucket ℚ) : Bucket Number := ⟨bucket.tokens.map .finite, bucket.updatedAt, bucket.expireAt⟩

/-- A Redis that takes every integer for an expiry, and whose integers are exact. -/
structure Redis.Exact (redis : Redis) : Prop where
  takesExpiry : ∀ n, redis.takesExpiry n = true
  toInteger : ∀ n : ℤ, redis.toInteger (.finite n) = n

theorem stored_ofBucket (args : RateLimit.Args ℚ) (bucket : Bucket ℚ) :
    (ofArgs args).stored (ofBucket bucket) = (.finite (args.stored bucket).1, (args.stored bucket).2) := by
  unfold Args.stored ofArgs ofBucket
  rcases bucket with ⟨_ | tokens, _ | updatedAt, expireAt⟩ <;> rfl

theorem luaMin_finite (x y : ℚ) : luaMin (.finite x) (.finite y) = .finite (min x y) := by
  unfold luaMin
  by_cases h : y < x
  · rw [min_eq_right h.le]
    exact if_pos (decide_eq_true h)
  · rw [min_eq_left (not_lt.mp h)]
    exact if_neg (by simpa [Number.lt] using h)

theorem refilled_finite (args : RateLimit.Args ℚ) (bucket : Bucket ℚ) :
    refilled .finite (ofArgs args) (ofBucket bucket) = (.finite (args.refilled bucket).1, (args.refilled bucket).2) := by
  unfold refilled Args.refilled
  rw [stored_ofBucket]
  dsimp only
  by_cases h : args.now > (args.stored bucket).2
  · rw [if_pos h]
    refine (if_pos h).trans ?_
    refine Prod.ext ?_ rfl
    refine (luaMin_finite _ _).trans ?_
    push_cast
    rw [sub_eq_add_neg]
    rfl
  · rw [if_neg h]
    exact if_neg h

theorem sub_finite (x y : ℚ) : (Number.finite x).sub .finite (.finite y) = .finite (x - y) := by
  rw [sub_eq_add_neg]
  rfl

theorem left_finite (args : RateLimit.Args ℚ) (tokens : ℚ) :
    left .finite (ofArgs args) (.finite tokens) = .finite (args.left tokens) := by
  unfold left Args.left
  by_cases h : tokens ≥ args.cost
  · rw [if_pos h]
    refine (if_pos (decide_eq_true h)).trans ?_
    apply sub_finite
  · rw [if_neg h]
    apply if_neg
    simpa [ofArgs, Number.le] using h

theorem expiry_finite {args : RateLimit.Args ℚ} (hrate : args.refillPerMs ≠ 0) (tokens : ℚ) :
    expiry .finite (ofArgs args) (.finite tokens)
      = .finite ((⌈(args.capacity - tokens) / args.refillPerMs⌉ + 1000 : ℤ) : ℚ) := by
  unfold expiry ofArgs
  rw [sub_finite]
  simp [Number.div, Number.ceil, Number.add, hrate]

/-- **Rounding nothing, the script is the exact one.** -/
theorem script_finite {redis : Redis} (hredis : redis.Exact) (args : RateLimit.Args ℚ) (redisNow : ℤ)
    (bucket : Bucket ℚ) :
    script .finite redis (ofArgs args) redisNow (ofBucket bucket) =
      (ofBucket (RateLimit.script args redisNow bucket).1, (RateLimit.script args redisNow bucket).2) := by
  unfold script RateLimit.script
  rw [refilled_finite]
  obtain ⟨available, updatedAt⟩ := args.refilled bucket
  dsimp only
  rw [left_finite]
  unfold luaDiv
  by_cases hrate : args.refillPerMs = 0
  · -- both stop with the bucket written
    rw [if_pos hrate, pexpire_of_rate_zero (congrArg Number.finite hrate)]
    rfl
  · rw [if_neg hrate, if_neg hrate, expiry_finite hrate, pexpire_intCast, if_pos (hredis.takesExpiry _)]
    have htokens : redis.toInteger (Number.finite (args.left available)).floor = ⌊args.left available⌋ :=
      hredis.toInteger _
    have hwait : redis.toInteger ((((ofArgs args).cost.sub .finite (.finite (args.left available))).div .finite
        (ofArgs args).refillPerMs).ceil) = ⌈(args.cost - args.left available) / args.refillPerMs⌉ := by
      have hquotient : ((ofArgs args).cost.sub .finite (.finite (args.left available))).div .finite
          (ofArgs args).refillPerMs = .finite ((args.cost - args.left available) / args.refillPerMs) :=
        (congrArg (Number.div .finite · _) (sub_finite _ _)).trans (Number.div_finite hrate)
      rw [hquotient]
      exact hredis.toInteger _
    have hnothing : redis.toInteger (.finite 0) = 0 := by
      have h := hredis.toInteger 0
      rwa [Int.cast_zero] at h
    dsimp only
    rw [htokens]
    -- only a refused call divides again
    by_cases hallowed : available ≥ args.cost
    · have hle : (ofArgs args).cost.le (.finite available) = true := decide_eq_true hallowed
      rw [if_pos hallowed, if_pos hle, if_neg one_ne_zero, hnothing]
      rfl
    · have hle : ¬ (ofArgs args).cost.le (.finite available) = true := by
        simpa [ofArgs, Number.le] using hallowed
      rw [if_neg hallowed, if_neg hle, if_pos rfl, hwait]
      rfl

/-! ### The service -/

def ofPolicy (policy : RateLimitPolicy ℚ) : RateLimitPolicy Number := ⟨.finite policy.perMinute, .finite policy.burst⟩

def ofCall (call : Call ℚ) : Call Number :=
  ⟨call.nameSpace, ⟨call.input.scope, call.input.hashTag, call.input.suffix, ofPolicy call.input.policy, call.input.now⟩,
    call.redisNow⟩

def ofStore (store : Store ℚ) : Store Number := fun key => ofBucket (store key)

def ofDecision (decision : RateLimitDecision ℚ) : RateLimitDecision Number :=
  ⟨decision.isAllowed, decision.isEnforced, .finite decision.limit, .finite decision.remaining,
    decision.retryAfterSeconds⟩

theorem args_ofPolicy (policy : RateLimitPolicy ℚ) (now : ℤ) :
    args .finite (ofPolicy policy) now = ofArgs (policy.args now) := by
  have hminute : ((MS_PER_MINUTE : ℕ) : ℚ) ≠ 0 := by norm_num [MS_PER_MINUTE]
  have hrate : toRefillPerMs .finite (ofPolicy policy) = .finite (RateLimit.toRefillPerMs policy) :=
    Number.div_finite hminute
  unfold args ofArgs
  rw [hrate]
  rfl

theorem decision_ofPolicy (policy : RateLimitPolicy ℚ) (reply : Reply) :
    decision .finite (ofPolicy policy) reply = ofDecision (policy.decision reply) := by
  have hthousand : (1000 : ℚ) ≠ 0 := by norm_num
  have hquotient : (Number.finite reply.retryAfterMs).div .finite (.finite 1000)
      = .finite ((reply.retryAfterMs : ℚ) / 1000) := Number.div_finite hthousand
  have hseconds : toSeconds .finite reply.retryAfterMs = ⌈(reply.retryAfterMs : ℚ) / 1000⌉ := by
    unfold toSeconds
    rw [hquotient]
  unfold decision ofDecision
  rw [hseconds]
  rfl

theorem visible_ofBucket (expires : ℤ → ℤ → Bool) (redisNow : ℤ) (bucket : Bucket ℚ) :
    (ofBucket bucket).visible expires redisNow = ofBucket (bucket.visible expires redisNow) := by
  obtain ⟨tokens, updatedAt, _ | expireAt⟩ := bucket
  · rfl
  · unfold Bucket.visible ofBucket
    dsimp only
    cases expires expireAt redisNow <;> rfl

theorem ofStore_update (store : Store ℚ) (key : Str) (bucket : Bucket ℚ) :
    ofStore (Function.update store key bucket) = Function.update (ofStore store) key (ofBucket bucket) :=
  Function.comp_update ofBucket store key bucket

/-- **And the service is the exact one.** -/
theorem run_finite {redis : Redis} (hredis : redis.Exact) (toLowerCase : Str → Str) (expires : ℤ → ℤ → Bool)
    (call : Call ℚ) (store : Store ℚ) :
    run .finite redis toLowerCase expires (ofCall call) (ofStore store) =
      (ofStore (call.run toLowerCase expires store).1, ofDecision (call.run toLowerCase expires store).2) := by
  have hargs : args .finite (ofCall call).input.policy (ofCall call).input.now = ofArgs call.args :=
    args_ofPolicy call.input.policy call.input.now
  have hfound : (ofStore store ((ofCall call).key toLowerCase)).visible expires (ofCall call).redisNow
      = ofBucket ((store (call.key toLowerCase)).visible expires call.redisNow) := visible_ofBucket _ _ _
  rw [run_eq, RateLimit.run_eq, hargs, hfound]
  dsimp only
  rw [ofStore_update]
  have hscript := script_finite hredis call.args call.redisNow
    ((store (call.key toLowerCase)).visible expires call.redisNow)
  have hnow : (ofCall call).redisNow = call.redisNow := rfl
  rw [hnow, hscript]
  refine Prod.ext rfl ?_
  cases (RateLimit.script call.args call.redisNow ((store (call.key toLowerCase)).visible expires call.redisNow)).2 with
  | none => rfl
  | some reply => exact decision_ofPolicy call.input.policy reply

end Rounded
end RateLimit
end NestSdk
