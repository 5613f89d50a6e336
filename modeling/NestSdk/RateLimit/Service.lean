import NestSdk.RateLimit.Script

/-!
# `RateLimit.Service` — `RateLimitService.consume` and runs of it

`consume` turns a policy and a clock into the script's arguments and the script's reply into a decision, and
fails open: without a client, or when the command rejects, it allows the request and says nobody counted.

A run is an endless sequence of calls that Redis executes one after the other; a finite run is an initial
segment of one. Each call brings the caller's clock, inside its input, and Redis's own, which only expiry looks
at. `expires` is Redis's rule for when a key whose expiry has come is gone.
-/

namespace NestSdk
namespace RateLimit

open Js

variable {K : Type} [Field K] [LinearOrder K] [FloorRing K]

structure RateLimitPolicy (K : Type) where
  perMinute : K
  burst : K

structure ConsumeRateLimitInput (K : Type) where
  scope : Str
  hashTag : Str
  suffix : Option Str
  policy : RateLimitPolicy K
  now : ℤ

structure RateLimitDecision (K : Type) where
  isAllowed : Bool
  isEnforced : Bool
  limit : K
  remaining : K
  retryAfterSeconds : ℤ

def RATE_LIMIT_KEY_ENTITY : Str := str "ratelimit"

def RATE_LIMIT_DEFAULT_COST : ℕ := 1

def MS_PER_MINUTE : ℕ := 60000

/-- `<namespace>:ratelimit:<scope>:{<hashTag>}[:<suffix>]`. `toLowerCase` is the language's. -/
def buildRateLimitKey (toLowerCase : Str → Str) (nameSpace scope hashTag : Str) (suffix : Option Str) :
    Str :=
  let key := nameSpace ++ str ":" ++ RATE_LIMIT_KEY_ENTITY ++ str ":" ++ toLowerCase scope ++
    str ":\x7b" ++ hashTag ++ str "\x7d"
  match suffix with
  | none | some [] => key
  | some suffix => key ++ str ":" ++ suffix

/-- Tokens per millisecond, not rounded. -/
def toRefillPerMs (policy : RateLimitPolicy K) : K := policy.perMinute / (MS_PER_MINUTE : ℕ)

/-- The decision when no limit could be applied. -/
def unenforced (policy : RateLimitPolicy K) : RateLimitDecision K where
  isAllowed := true
  isEnforced := false
  limit := policy.burst
  remaining := policy.burst
  retryAfterSeconds := 0

/-- The bucket of every key. -/
abbrev Store (K : Type) := Str → Bucket K

/-- The store without keys. -/
def Store.empty : Store K := fun _ => Bucket.absent

/-- What the client's command does to the store, with its reply, or none if its promise rejects. -/
abbrev Client (K : Type) := Str → Args K → Store K → Store K × Option Reply

/-- The arguments `consume` passes. -/
def RateLimitPolicy.args (policy : RateLimitPolicy K) (now : ℤ) : Args K where
  capacity := policy.burst
  refillPerMs := toRefillPerMs policy
  now := now
  cost := (RATE_LIMIT_DEFAULT_COST : ℕ)

/-- What `consume` makes of a reply. -/
def RateLimitPolicy.decision (policy : RateLimitPolicy K) (reply : Reply) : RateLimitDecision K where
  isAllowed := reply.allowed = 1
  isEnforced := true
  limit := policy.burst
  remaining := reply.remaining
  retryAfterSeconds := ⌈(reply.retryAfterMs : ℚ) / 1000⌉

/-- Spends one token from a caller's bucket. -/
def consume (toLowerCase : Str → Str) (client : Option (Client K)) (nameSpace : Str)
    (input : ConsumeRateLimitInput K) (store : Store K) : Store K × RateLimitDecision K :=
  match client with
  | none => (store, unenforced input.policy)
  | some iveriTokenBucket =>
      let key := buildRateLimitKey toLowerCase nameSpace input.scope input.hashTag input.suffix
      match iveriTokenBucket key (input.policy.args input.now) store with
      | (store, some reply) => (store, input.policy.decision reply)
      | (store, none) => (store, unenforced input.policy)

/-! ## A reachable Redis -/

/-- The bucket as a script finds it at Redis's time `redisNow`. -/
def Bucket.visible (expires : ℤ → ℤ → Bool) (redisNow : ℤ) (bucket : Bucket K) : Bucket K :=
  match bucket.expireAt with
  | some expireAt => if expires expireAt redisNow then Bucket.absent else bucket
  | none => bucket

/-- A client whose Redis runs the script. -/
def reachable (expires : ℤ → ℤ → Bool) (redisNow : ℤ) : Client K := fun key args store =>
  let (bucket, reply) := script args redisNow ((store key).visible expires redisNow)
  (Function.update store key bucket, reply)

/-- Keys that stay. -/
def never : ℤ → ℤ → Bool := fun _ _ => false

omit [Field K] [LinearOrder K] [FloorRing K] in
theorem visible_never (redisNow : ℤ) (bucket : Bucket K) : bucket.visible never redisNow = bucket := by
  unfold Bucket.visible never
  cases bucket.expireAt <;> rfl

/-! ## Runs -/

/-- A `consume` of some service, and when Redis executes it. -/
structure Call (K : Type) where
  nameSpace : Str
  input : ConsumeRateLimitInput K
  redisNow : ℤ

/-- The key a call's bucket is under. -/
def Call.key (toLowerCase : Str → Str) (call : Call K) : Str :=
  buildRateLimitKey toLowerCase call.nameSpace call.input.scope call.input.hashTag call.input.suffix

/-- The arguments its script gets. -/
def Call.args (call : Call K) : Args K := call.input.policy.args call.input.now

section Runs

variable (toLowerCase : Str → Str) (expires : ℤ → ℤ → Bool) (calls : ℕ → Call K) (store : Store K)

def Call.run (call : Call K) (store : Store K) : Store K × RateLimitDecision K :=
  consume toLowerCase (some (reachable expires call.redisNow)) call.nameSpace call.input store

/-- The store before call `i`. -/
def storeAt : ℕ → Store K
  | 0 => store
  | i + 1 => ((calls i).run toLowerCase expires (storeAt i)).1

/-- The decision of call `i`. -/
def decisionAt (i : ℕ) : RateLimitDecision K :=
  ((calls i).run toLowerCase expires (storeAt toLowerCase expires calls store i)).2

/-- The bucket call `i` finds under its key. -/
def bucketAt (i : ℕ) : Bucket K :=
  (storeAt toLowerCase expires calls store i ((calls i).key toLowerCase)).visible expires (calls i).redisNow

/-- The script's reply to call `i`. -/
def replyAt (i : ℕ) : Option Reply :=
  (script (calls i).args (calls i).redisNow (bucketAt toLowerCase expires calls store i)).2

/-- The calls all go to one bucket under one policy. -/
structure OneBucket (key : Str) (policy : RateLimitPolicy K) : Prop where
  key_eq : ∀ i, (calls i).key toLowerCase = key
  policy_eq : ∀ i, (calls i).input.policy = policy

end Runs

variable {toLowerCase : Str → Str} {expires : ℤ → ℤ → Bool} {calls : ℕ → Call K} {store : Store K}

/-- **A run of a call, in terms of the script:** it leaves the script's bucket under its key and makes the
    script's reply its decision. -/
theorem run_eq (call : Call K) (store : Store K) :
    call.run toLowerCase expires store =
      let result := script call.args call.redisNow
        ((store (call.key toLowerCase)).visible expires call.redisNow)
      (Function.update store (call.key toLowerCase) result.1,
        match result.2 with
        | some reply => call.input.policy.decision reply
        | none => unenforced call.input.policy) := by
  show (match reachable expires call.redisNow (call.key toLowerCase) call.args store with
      | (store, some reply) => (store, call.input.policy.decision reply)
      | (store, none) => (store, unenforced call.input.policy)) = _
  unfold reachable
  dsimp only
  rcases script call.args call.redisNow
      ((store (call.key toLowerCase)).visible expires call.redisNow) with ⟨bucket, _ | reply⟩
  · rfl
  · rfl

/-- A call's decision is its script's reply, or unenforced. -/
theorem decisionAt_eq (i : ℕ) : decisionAt toLowerCase expires calls store i =
    match replyAt toLowerCase expires calls store i with
    | some reply => (calls i).input.policy.decision reply
    | none => unenforced (calls i).input.policy := by
  unfold decisionAt
  rw [run_eq]
  rfl

/-- What the script leaves under a shared key is what the next call finds there. -/
theorem storeAt_succ {key : Str} {policy : RateLimitPolicy K}
    (hcalls : OneBucket toLowerCase calls key policy) (i : ℕ) :
    storeAt toLowerCase expires calls store (i + 1) key =
      (script (calls i).args (calls i).redisNow (bucketAt toLowerCase expires calls store i)).1 := by
  show ((calls i).run toLowerCase expires _).1 key = _
  rw [run_eq, hcalls.key_eq i]
  unfold bucketAt
  rw [hcalls.key_eq i]
  exact Function.update_self _ _ _

end RateLimit
end NestSdk
