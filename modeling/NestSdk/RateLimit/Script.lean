import NestSdk.Js.Text
import NestSdk.Lib.TokenBucket

/-!
# `RateLimit.Script` — `TOKEN_BUCKET_SCRIPT`

The Lua script over the hash of one key, in exact arithmetic: `K` is any ordered field with a floor, clocks
are whole milliseconds. A division by zero gives Lua an infinity or a NaN, which Redis refuses as an expiry;
the script then stops with an error, its `HSET` already done.

**`script_of_rate_pos`** says what a run does at a positive rate, in terms of the tokens the bucket holds at the
moment (`Args.refilled`).
-/

namespace NestSdk
namespace RateLimit

open Lib

variable {K : Type} [Field K] [LinearOrder K] [FloorRing K]

/-- The script's `ARGV`. -/
structure Args (K : Type) where
  capacity : K
  refillPerMs : K
  now : ℤ
  cost : K

/-- `{ allowed, remaining, retryAfterMs }`. -/
structure Reply where
  allowed : ℤ
  remaining : ℤ
  retryAfterMs : ℤ
deriving DecidableEq

/-- What Redis holds under a bucket's key. A key that does not exist has no fields and no expiry. -/
structure Bucket (K : Type) where
  tokens : Option K
  updatedAt : Option ℤ
  expireAt : Option ℤ
deriving DecidableEq

/-- The key that does not exist. -/
def Bucket.absent : Bucket K := ⟨none, none, none⟩

/-- Lua's division, `none` where the result is no number an integer argument can be made of. -/
def luaDiv (x y : K) : Option K := if y = 0 then none else some (x / y)

/-- The stored tokens and clock; an absent bucket and a full bucket are the same thing. -/
def Args.stored (args : Args K) (bucket : Bucket K) : K × ℤ :=
  match bucket.tokens, bucket.updatedAt with
  | some tokens, some updatedAt => (tokens, updatedAt)
  | _, _ => (args.capacity, args.now)

/-- Only ever move forward. -/
def Args.refilled (args : Args K) (bucket : Bucket K) : K × ℤ :=
  let (tokens, updatedAt) := args.stored bucket
  if args.now > updatedAt then
    (min args.capacity (tokens + ((args.now - updatedAt : ℤ) : K) * args.refillPerMs), args.now)
  else (tokens, updatedAt)

/-- The tokens left once the request has spent what it costs, if it could. -/
def Args.left (args : Args K) (tokens : K) : K := if tokens ≥ args.cost then tokens - args.cost else tokens

/-- `TOKEN_BUCKET_SCRIPT`, run at Redis's time `redisNow`; no reply is an error. -/
def script (args : Args K) (redisNow : ℤ) (bucket : Bucket K) : Bucket K × Option Reply :=
  let (available, updatedAt) := args.refilled bucket
  let allowed : ℤ := if available ≥ args.cost then 1 else 0
  let tokens := args.left available
  -- HSET
  let written : Bucket K := { bucket with tokens := some tokens, updatedAt := some updatedAt }
  match luaDiv (args.capacity - tokens) args.refillPerMs with
  | none => (written, none)
  | some untilFull =>
      -- PEXPIRE
      let expiring := { written with expireAt := some (redisNow + (⌈untilFull⌉ + 1000)) }
      if allowed = 0 then
        match luaDiv (args.cost - tokens) args.refillPerMs with
        | none => (expiring, none)
        | some wait => (expiring, some ⟨allowed, ⌊tokens⌋, ⌈wait⌉⟩)
      else (expiring, some ⟨allowed, ⌊tokens⌋, 0⟩)

/-! ## A run at a positive rate -/

omit [FloorRing K] in
theorem luaDiv_of_pos [IsStrictOrderedRing K] {x y : K} (hy : 0 < y) : luaDiv x y = some (x / y) :=
  if_neg hy.ne'

/-- The reply to a request that found `available` tokens. -/
def Args.reply (args : Args K) (available : K) : Reply where
  allowed := if available ≥ args.cost then 1 else 0
  remaining := ⌊args.left available⌋
  retryAfterMs := if available ≥ args.cost then 0 else ⌈(args.cost - args.left available) / args.refillPerMs⌉

/-- **What a run does:** it depends on the key only through the tokens available and the clock they go with. -/
theorem script_of_rate_pos [IsStrictOrderedRing K] {args : Args K} (hrate : 0 < args.refillPerMs)
    (redisNow : ℤ) (bucket : Bucket K) :
    script args redisNow bucket =
      let (available, updatedAt) := args.refilled bucket
      (⟨some (args.left available), some updatedAt,
          some (redisNow + (⌈(args.capacity - args.left available) / args.refillPerMs⌉ + 1000))⟩,
        some (args.reply available)) := by
  unfold script Args.reply
  simp only [luaDiv_of_pos hrate]
  by_cases hallowed : (args.refilled bucket).1 ≥ args.cost
  · simp [hallowed]
  · simp [hallowed]

/-! ## The tokens available -/

omit [Field K] [LinearOrder K] [FloorRing K] in
theorem stored_absent (args : Args K) (expireAt : Option ℤ) :
    args.stored ⟨none, none, expireAt⟩ = (args.capacity, args.now) := rfl

omit [Field K] [LinearOrder K] [FloorRing K] in
theorem stored_present (args : Args K) (tokens : K) (updatedAt : ℤ) (expireAt : Option ℤ) :
    args.stored ⟨some tokens, some updatedAt, expireAt⟩ = (tokens, updatedAt) := rfl

omit [FloorRing K] in
/-- An absent bucket is full. -/
theorem refilled_absent (args : Args K) :
    args.refilled Bucket.absent = (args.capacity, args.now) := by
  unfold Args.refilled Bucket.absent
  rw [stored_absent]
  exact if_neg (lt_irrefl _)

omit [FloorRing K] in
/-- **The refill is the token bucket's, over the time the clock moved forward by.** -/
theorem refilled_present (args : Args K) {tokens : K} (htokens : tokens ≤ args.capacity)
    (updatedAt : ℤ) (expireAt : Option ℤ) :
    args.refilled ⟨some tokens, some updatedAt, expireAt⟩ =
      (TokenBucket.refilled args.capacity args.refillPerMs tokens
        (((max updatedAt args.now - updatedAt : ℤ)) : K), max updatedAt args.now) := by
  unfold Args.refilled
  rw [stored_present]
  dsimp only
  by_cases hforward : args.now > updatedAt
  · rw [if_pos hforward, max_eq_right (le_of_lt hforward)]
    rfl
  · have hback : args.now ≤ updatedAt := not_lt.mp hforward
    rw [if_neg hforward, max_eq_left hback, sub_self, Int.cast_zero,
      TokenBucket.refilled_zero htokens]

omit [FloorRing K] in
/-- Spending never leaves more than there was. -/
theorem left_le [IsStrictOrderedRing K] {args : Args K} (hcost : 0 ≤ args.cost) (tokens : K) :
    args.left tokens ≤ tokens := by
  unfold Args.left
  split
  · linarith
  · exact le_refl tokens

end RateLimit
end NestSdk
