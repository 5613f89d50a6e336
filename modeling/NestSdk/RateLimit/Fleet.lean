import NestSdk.RateLimit.Hints

/-!
# `RateLimit.Fleet` — many callers, one unreliable Redis

Any number of services spend from any number of buckets, in whatever order Redis executes them. A service may have no
Redis configured; a command may not arrive, or be executed and its answer lost; and a key may go at any moment, by
expiry, eviction or a restart. `consume` fails open in each of these cases, so two things are worth knowing.

**`decision_of_own_calls`**: a decision that was enforced is the one the bucket's own executed calls lead to, whatever
happened to other keys, to commands that never arrived and to answers on their way back.

**`admitted_le`**: while a key is lost `r` times, no more is admitted under enforcement than `r + 1` bursts and refills.
-/

namespace NestSdk
namespace RateLimit

open Js Lib

variable {K : Type} [Field K] [LinearOrder K] [FloorRing K]

/-! ## What can go wrong -/

/-- What stands between a call and Redis: no URL, no connection, a connection that loses the answer, or nothing. -/
inductive Link
  | unconfigured
  | down
  | lossy
  | up
deriving DecidableEq, Repr

/-- The script is executed. -/
def Link.executes : Link → Bool
  | .lossy | .up => true
  | .unconfigured | .down => false

/-- What `consume` is handed as the client. Keys go when they are `removed`, not by themselves. -/
def Link.client (redisNow : ℤ) : Link → Option (Client K)
  | .unconfigured => none
  | .down => some fun _ _ store => (store, none)
  | .lossy => some fun key args store => ((reachable never redisNow key args store).1, none)
  | .up => some (reachable never redisNow)

/-- A `consume` of some service, over the link it has. -/
structure Attempt (K : Type) where
  call : Call K
  link : Link

def Attempt.run (toLowerCase : Str → Str) (a : Attempt K) (store : Store K) : Store K × RateLimitDecision K :=
  consume toLowerCase (a.link.client a.call.redisNow) a.call.nameSpace a.call.input store

/-- What happens to Redis: a service calls, or a key is gone. -/
inductive Happening (K : Type)
  | attempt (a : Attempt K)
  | removed (key : Str)

def Happening.step (toLowerCase : Str → Str) (store : Store K) : Happening K → Store K
  | .attempt a => (a.run toLowerCase store).1
  | .removed key => Function.update store key Bucket.absent

/-- The store after what happened, oldest first. -/
def storeAfter (toLowerCase : Str → Str) (store : Store K) (happenings : List (Happening K)) : Store K :=
  happenings.foldl (Happening.step toLowerCase) store

/-- The same call over a link that works. -/
def Attempt.answered (a : Attempt K) : Attempt K := { a with link := .up }

/-- What happens to one bucket, were its calls the only ones and all of them answered. -/
def Happening.own (toLowerCase : Str → Str) (key : Str) : Happening K → Option (Happening K)
  | .attempt a => if a.link.executes = true ∧ a.call.key toLowerCase = key then some (.attempt a.answered) else none
  | .removed key' => if key' = key then some (.removed key') else none

/-- How often a key was lost. -/
def removals (key : Str) (happenings : List (Happening K)) : ℕ :=
  happenings.countP fun
    | .attempt _ => false
    | .removed key' => key' = key

/-- An attempt is admitted under enforcement. -/
def Attempt.admits (toLowerCase : Str → Str) (key : Str) (a : Attempt K) (store : Store K) : Prop :=
  a.call.key toLowerCase = key ∧ (a.run toLowerCase store).2.isEnforced = true ∧
    (a.run toLowerCase store).2.isAllowed = true

instance (toLowerCase : Str → Str) (key : Str) (a : Attempt K) (store : Store K) :
    Decidable (a.admits toLowerCase key store) := inferInstanceAs (Decidable (_ ∧ _ ∧ _))

/-- How many attempts at a bucket were admitted under enforcement. -/
def admittedUnder (toLowerCase : Str → Str) (key : Str) : List (Happening K) → Store K → ℕ
  | [], _ => 0
  | h :: happenings, store =>
      (match h with
        | .attempt a => if a.admits toLowerCase key store then 1 else 0
        | .removed _ => 0) + admittedUnder toLowerCase key happenings (h.step toLowerCase store)

/-! ## One attempt -/

section Attempt

variable {toLowerCase : Str → Str} {a : Attempt K} {store : Store K} {key : Str}

/-- An attempt that is not executed leaves the store and does not count. -/
theorem run_of_not_executes (h : a.link.executes = false) :
    a.run toLowerCase store = (store, unenforced a.call.input.policy) := by
  obtain ⟨call, link⟩ := a
  cases link with
  | unconfigured | down => rfl
  | lossy | up => cases h

/-- An attempt that is executed leaves what an answered one leaves. -/
theorem run_store_of_executes (h : a.link.executes = true) :
    (a.run toLowerCase store).1 = (a.call.run toLowerCase never store).1 := by
  obtain ⟨call, link⟩ := a
  cases link with
  | unconfigured | down => cases h
  | up => rfl
  | lossy =>
      rw [run_eq]
      rfl

/-- A lost answer is no answer. -/
theorem run_decision_of_not_up (h : a.link ≠ .up) :
    (a.run toLowerCase store).2 = unenforced a.call.input.policy := by
  obtain ⟨call, link⟩ := a
  cases link with
  | unconfigured | down | lossy => rfl
  | up => exact absurd rfl h

theorem run_up (h : a.link = .up) : a.run toLowerCase store = a.call.run toLowerCase never store := by
  obtain ⟨call, link⟩ := a
  cases h
  rfl

/-- **A call is confined to its key:** what it leaves there and decides depends on nothing else. -/
theorem call_run_congr (call : Call K) {store store' : Store K}
    (h : store (call.key toLowerCase) = store' (call.key toLowerCase)) :
    (call.run toLowerCase never store).1 (call.key toLowerCase)
        = (call.run toLowerCase never store').1 (call.key toLowerCase) ∧
      (call.run toLowerCase never store).2 = (call.run toLowerCase never store').2 := by
  rw [run_eq, run_eq, h]
  dsimp only
  rw [Function.update_self, Function.update_self]
  exact ⟨rfl, rfl⟩

theorem call_run_others (call : Call K) (store : Store K) (hkey : call.key toLowerCase ≠ key) :
    (call.run toLowerCase never store).1 key = store key := by
  rw [run_eq]
  exact Function.update_of_ne (Ne.symm hkey) _ _

/-- Stores that agree on a key agree on it after what happened to one and its own part of that to the other. -/
theorem step_own (toLowerCase : Str → Str) (h : Happening K) {store store' : Store K} (hkey : store key = store' key) :
    h.step toLowerCase store key = (h.own toLowerCase key).elim store' (Happening.step toLowerCase store') key := by
  cases h with
  | removed key' =>
      by_cases hsame : key' = key
      · have hown : (Happening.removed key' : Happening K).own toLowerCase key = some (.removed key') := if_pos hsame
        subst hsame
        rw [hown]
        show Function.update store key' Bucket.absent key' = Function.update store' key' Bucket.absent key'
        rw [Function.update_self, Function.update_self]
      · have hown : (Happening.removed key' : Happening K).own toLowerCase key = none := if_neg hsame
        rw [hown]
        exact (Function.update_of_ne (Ne.symm hsame) _ _).trans hkey
  | attempt a =>
      by_cases hits : a.link.executes = true ∧ a.call.key toLowerCase = key
      · have hown : (Happening.attempt a).own toLowerCase key = some (.attempt a.answered) := if_pos hits
        obtain ⟨hexecutes, rfl⟩ := hits
        rw [hown]
        show (a.run toLowerCase store).1 _ = (a.answered.run toLowerCase store').1 _
        rw [run_store_of_executes hexecutes, run_up (a := a.answered) rfl]
        exact (call_run_congr a.call hkey).1
      · have hown : (Happening.attempt a).own toLowerCase key = none := if_neg hits
        rw [hown]
        show (a.run toLowerCase store).1 key = store' key
        cases hexecutes : a.link.executes with
        | false =>
            rw [run_of_not_executes hexecutes]
            exact hkey
        | true =>
            rw [run_store_of_executes hexecutes, call_run_others a.call store fun hsame => hits ⟨hexecutes, hsame⟩]
            exact hkey

/-- **A bucket is the work of its own calls,** by induction on what happened. -/
theorem storeAfter_own (happenings : List (Happening K)) {store store' : Store K} (hkey : store key = store' key) :
    storeAfter toLowerCase store happenings key
      = storeAfter toLowerCase store' (happenings.filterMap (Happening.own toLowerCase key)) key := by
  induction happenings generalizing store store' with
  | nil => exact hkey
  | cons h happenings ih =>
      have hstep := step_own toLowerCase h hkey
      rw [List.filterMap_cons]
      cases hown : h.own toLowerCase key with
      | none =>
          rw [hown] at hstep
          exact ih hstep
      | some own =>
          rw [hown] at hstep
          exact ih hstep

end Attempt

/-- **Nobody else decides.** Under a policy of positive rate, after anything at all has happened to Redis: a call is
    enforced exactly when it was answered; its decision is then the one it would get had the executed calls of its own
    bucket been the only ones, each of them answered; and otherwise it is allowed. -/
theorem decision_of_own_calls [IsStrictOrderedRing K] (toLowerCase : Str → Str) (store : Store K)
    (happenings : List (Happening K)) (a : Attempt K) (hrate : 0 < a.call.input.policy.perMinute) :
    let decision := (a.run toLowerCase (storeAfter toLowerCase store happenings)).2
    let own := happenings.filterMap (Happening.own toLowerCase (a.call.key toLowerCase))
    (decision.isEnforced = true ↔ a.link = .up) ∧
      (a.link = .up → decision = (a.answered.run toLowerCase (storeAfter toLowerCase store own)).2) ∧
      (a.link ≠ .up → decision.isAllowed = true) := by
  dsimp only
  have hup : a.link = .up → (a.run toLowerCase (storeAfter toLowerCase store happenings)).2.isEnforced = true := by
    intro hlink
    rw [run_up hlink, run_eq, script_of_rate_pos (show 0 < a.call.args.refillPerMs from toRefillPerMs_pos hrate)]
    rfl
  refine ⟨⟨fun henforced => ?_, hup⟩, fun hlink => ?_, fun hlink => ?_⟩
  · by_contra hlink
    rw [run_decision_of_not_up hlink] at henforced
    cases henforced
  · rw [run_up hlink, run_up (a := a.answered) rfl]
    exact (call_run_congr a.call (storeAfter_own happenings rfl)).2
  · rw [run_decision_of_not_up hlink]
    rfl

/-! ## A restart -/

/-- One caller's bucket is spent from, is lost, and is spent from by a call whose answer is lost; another's is spent
    from in between. -/
def restarted : List (Happening ℚ) :=
  [.attempt ⟨spike 0, .up⟩, .removed ((spike 0).key id), .attempt ⟨spike 0, .lossy⟩,
    .attempt ⟨⟨str "conduit", ⟨str "ingress", str "other", none, ⟨600, 200⟩, 5⟩, 5⟩, .up⟩, .attempt ⟨spike 0, .down⟩]

theorem decision_of_own_calls_restarted :
    (((Attempt.mk (spike 0) .up).run id (storeAfter id Store.empty restarted)).2.isEnforced = true ↔ Link.up = .up) ∧
      (Link.up = .up → ((Attempt.mk (spike 0) .up).run id (storeAfter id Store.empty restarted)).2 =
        ((Attempt.mk (spike 0) .up).run id (storeAfter id Store.empty
          (restarted.filterMap (Happening.own id ((spike 0).key id))))).2) ∧
      (Link.up ≠ .up →
        ((Attempt.mk (spike 0) .up).run id (storeAfter id Store.empty restarted)).2.isAllowed = true) :=
  decision_of_own_calls id Store.empty restarted ⟨spike 0, .up⟩ (by norm_num [spike])

/-! ## What is admitted -/

section Admitted

variable [IsStrictOrderedRing K] {policy : RateLimitPolicy K} {lo hi : ℤ}

/-- A burst and what is refilled between two instants. -/
def allowance (policy : RateLimitPolicy K) (ms : ℤ) : K := policy.burst + policy.perMinute / 60000 * ms

/-- **What the tokens account for:** all that was admitted since the key was last lost was there at first or came with
    the refill; before that, an allowance for each time it was lost. -/
def Accounted (policy : RateLimitPolicy K) (lo hi : ℤ) (admitted lost : ℕ) (bucket : Bucket K) : Prop :=
  bucket.Bounded policy.burst ∧ ((admitted : K) ≤ lost * allowance policy (hi - lo) ∨
    ∃ tokens updatedAt expireAt, bucket = ⟨some tokens, some updatedAt, expireAt⟩ ∧ lo ≤ updatedAt ∧
      admitted + tokens ≤ lost * allowance policy (hi - lo) + allowance policy (min hi updatedAt - lo))

theorem allowance_nonneg (hburst : 0 ≤ policy.burst) (hrate : 0 < policy.perMinute) {ms : ℤ} (hms : 0 ≤ ms) :
    0 ≤ allowance policy ms := by
  have hms' : (0 : K) ≤ ms := Int.cast_nonneg hms
  unfold allowance
  positivity

theorem allowance_mono (hrate : 0 < policy.perMinute) {ms ms' : ℤ} (h : ms ≤ ms') :
    allowance policy ms ≤ allowance policy ms' := by
  have hms : (ms : K) ≤ ms' := Int.cast_le.mpr h
  unfold allowance
  gcongr

/-- Whatever was accounted for fits one allowance more than the key was lost. -/
theorem Accounted.le {admitted lost : ℕ} {bucket : Bucket K} (h : Accounted policy lo hi admitted lost bucket)
    (hburst : 0 ≤ policy.burst) (hrate : 0 < policy.perMinute) (hlohi : lo ≤ hi) :
    (admitted : K) ≤ (lost + 1) * allowance policy (hi - lo) := by
  have hnonneg : 0 ≤ allowance policy (hi - lo) := allowance_nonneg hburst hrate (sub_nonneg.mpr hlohi)
  have hsplit : ((lost : K) + 1) * allowance policy (hi - lo)
      = lost * allowance policy (hi - lo) + allowance policy (hi - lo) := by ring
  rw [hsplit]
  obtain ⟨hbounded, hold | ⟨tokens, updatedAt, expireAt, rfl, -, hsum⟩⟩ := h
  · exact hold.trans (le_add_of_nonneg_right hnonneg)
  · have htokens : 0 ≤ tokens := by
      rcases hbounded with habsent | ⟨t, u, e, heq, ht, -⟩
      · cases habsent
      · cases heq
        exact ht
    have hclock : allowance policy (min hi updatedAt - lo) ≤ allowance policy (hi - lo) :=
      allowance_mono hrate (sub_le_sub_right (min_le_left _ _) lo)
    linarith

/-- A lost key costs one allowance. -/
theorem Accounted.removed {admitted lost : ℕ} {bucket : Bucket K} (h : Accounted policy lo hi admitted lost bucket)
    (hburst : 0 ≤ policy.burst) (hrate : 0 < policy.perMinute) (hlohi : lo ≤ hi) :
    Accounted policy lo hi admitted (lost + 1) (Bucket.absent : Bucket K) := by
  refine ⟨.inl rfl, .inl ?_⟩
  have hle := h.le hburst hrate hlohi
  push_cast
  exact hle

/-- What an executed call finds is accounted for. -/
theorem Accounted.refilled {admitted lost : ℕ} {bucket : Bucket K} (h : Accounted policy lo hi admitted lost bucket)
    (hrate : 0 < policy.perMinute) {now : ℤ} (hlo : lo ≤ now) (hhi : now ≤ hi) :
    lo ≤ ((policy.args now).refilled bucket).2 ∧ admitted + ((policy.args now).refilled bucket).1
      ≤ lost * allowance policy (hi - lo) + allowance policy (min hi ((policy.args now).refilled bucket).2 - lo) := by
  have hrefill : (policy.args now).refillPerMs = policy.perMinute / 60000 := by
    simp [RateLimitPolicy.args, toRefillPerMs, MS_PER_MINUTE]
  obtain ⟨hbounded, hold⟩ := h
  -- a full bucket is what a clock that is far behind, or a key that is gone, is refilled to at most
  have hfull : ∀ {available : K} {clock : ℤ}, available ≤ policy.burst → lo ≤ clock →
      (admitted : K) ≤ lost * allowance policy (hi - lo) →
      admitted + available ≤ lost * allowance policy (hi - lo) + allowance policy (min hi clock - lo) := by
    intro available clock havailable hclock hle
    have hms : (0 : K) ≤ ((min hi clock - lo : ℤ) : K) :=
      Int.cast_nonneg (sub_nonneg.mpr (le_min (hlo.trans hhi) hclock))
    have hburst' : policy.burst ≤ allowance policy (min hi clock - lo) := by
      unfold allowance
      exact le_add_of_nonneg_right (mul_nonneg (by positivity) hms)
    linarith
  rcases hbounded with rfl | ⟨tokens, updatedAt, expireAt, rfl, hnonneg, hle⟩
  · rw [refilled_absent]
    refine ⟨hlo, hfull (le_refl policy.burst) hlo ?_⟩
    rcases hold with hle | ⟨_, _, _, habsent, _⟩
    · exact hle
    · cases habsent
  · rw [refilled_present (policy.args now) hle]
    dsimp only
    have hclock : lo ≤ max updatedAt now := hlo.trans (le_max_right _ _)
    refine ⟨hclock, ?_⟩
    rcases hold with hold | ⟨t, u, e, heq, hlou, hsum⟩
    · exact hfull (TokenBucket.refilled_le_capacity _ _ _ _) hclock hold
    · cases heq
      -- the clock moves forward by what the window between `lo` and `hi` sees of it
      have hmoved : min hi (max updatedAt now) - min hi updatedAt = max updatedAt now - updatedAt := by
        rcases le_total updatedAt now with hforward | hback
        · rw [max_eq_right hforward, min_eq_right hhi, min_eq_right (hforward.trans hhi)]
        · rw [max_eq_left hback, sub_self, sub_self]
      have hrefilled : TokenBucket.refilled (policy.args now).capacity (policy.args now).refillPerMs tokens
          ((max updatedAt now - updatedAt : ℤ) : K)
          ≤ tokens + ((max updatedAt now - updatedAt : ℤ) : K) * (policy.perMinute / 60000) := by
        rw [← hrefill]
        exact min_le_right _ _
      have hsplit : allowance policy (min hi (max updatedAt now) - lo)
          = allowance policy (min hi updatedAt - lo)
            + ((max updatedAt now - updatedAt : ℤ) : K) * (policy.perMinute / 60000) := by
        rw [← hmoved]
        unfold allowance
        push_cast
        ring
      have hsum' : admitted + TokenBucket.refilled (policy.args now).capacity (policy.args now).refillPerMs tokens
          ((max updatedAt now - updatedAt : ℤ) : K)
          ≤ lost * allowance policy (hi - lo) + allowance policy (min hi (max updatedAt now) - lo) := by linarith
      exact hsum'

/-- The calls of a bucket that Redis executes come under one policy, with clocks between two instants. -/
def Within (toLowerCase : Str → Str) (key : Str) (policy : RateLimitPolicy K) (lo hi : ℤ)
    (happenings : List (Happening K)) : Prop :=
  ∀ a, .attempt a ∈ happenings → a.link.executes = true → a.call.key toLowerCase = key →
    a.call.input.policy = policy ∧ lo ≤ a.call.input.now ∧ a.call.input.now ≤ hi

/-- **An attempt spends what it is admitted for,** and may spend without being admitted. -/
theorem Accounted.attempt {toLowerCase : Str → Str} {key : Str} {store : Store K} {admitted lost : ℕ} {a : Attempt K}
    (h : Accounted policy lo hi admitted lost (store key)) (hburst : 0 ≤ policy.burst) (hrate : 0 < policy.perMinute)
    (hwithin : a.link.executes = true → a.call.key toLowerCase = key →
      a.call.input.policy = policy ∧ lo ≤ a.call.input.now ∧ a.call.input.now ≤ hi) :
    Accounted policy lo hi (admitted + if a.admits toLowerCase key store then 1 else 0) lost
      ((a.run toLowerCase store).1 key) := by
  by_cases hown : a.link.executes = true ∧ a.call.key toLowerCase = key
  · obtain ⟨hexecutes, rfl⟩ := hown
    obtain ⟨hpolicy, hlo, hhi⟩ := hwithin hexecutes rfl
    have hargs : a.call.args = policy.args a.call.input.now := by
      unfold Call.args
      rw [hpolicy]
    obtain ⟨hclock, hsum⟩ := h.refilled hrate hlo hhi
    obtain ⟨hnonneg, hle⟩ := refilled_bounds (show 0 ≤ (policy.args a.call.input.now).capacity from hburst)
      (toRefillPerMs_pos hrate).le h.1
    have hpos : 0 < a.call.args.refillPerMs := by
      rw [hargs]
      exact toRefillPerMs_pos hrate
    -- what the script finds, and what it makes of it
    generalize hfound : (policy.args a.call.input.now).refilled (store (a.call.key toLowerCase)) = found at *
    obtain ⟨available, updatedAt⟩ := found
    have hrun : a.call.run toLowerCase never store = (Function.update store (a.call.key toLowerCase)
        ⟨some ((policy.args a.call.input.now).left available), some updatedAt,
          some (a.call.redisNow
            + (⌈(a.call.args.capacity - a.call.args.left available) / a.call.args.refillPerMs⌉ + 1000))⟩,
        a.call.decision available) := by
      rw [run_eq, script_of_rate_pos hpos, visible_never, hargs, hfound, ← hargs]
      rfl
    have hadmits : a.admits toLowerCase (a.call.key toLowerCase) store → 1 ≤ available := by
      rintro ⟨-, henforced, hallowed⟩
      by_cases hup : a.link = .up
      · rw [run_up hup, hrun] at hallowed
        exact (decision_isAllowed a.call available).mp hallowed
      · rw [run_decision_of_not_up hup] at henforced
        cases henforced
    rw [run_store_of_executes hexecutes, hrun]
    dsimp only
    rw [Function.update_self]
    refine ⟨.inr ⟨_, _, _, rfl, left_nonneg hnonneg, left_args_le _ hle⟩, .inr ⟨_, _, _, rfl, hclock, ?_⟩⟩
    rw [left_args]
    by_cases hadmitted : a.admits toLowerCase (a.call.key toLowerCase) store
    · rw [if_pos hadmitted, if_pos (hadmits hadmitted)]
      push_cast
      linarith
    · rw [if_neg hadmitted]
      have hspent : (0 : K) ≤ if 1 ≤ available then 1 else 0 := by split <;> norm_num
      push_cast
      linarith
  · have hkept : (a.run toLowerCase store).1 key = store key := by
      cases hexecutes : a.link.executes with
      | false => rw [run_of_not_executes hexecutes]
      | true =>
          rw [run_store_of_executes hexecutes, call_run_others a.call store fun hsame => hown ⟨hexecutes, hsame⟩]
    have hnot : ¬ a.admits toLowerCase key store := by
      rintro ⟨hkey, henforced, -⟩
      have hnever : a.link ≠ .up := fun hup => hown ⟨by rw [hup]; rfl, hkey⟩
      rw [run_decision_of_not_up hnever] at henforced
      cases henforced
    rw [hkept, if_neg hnot]
    exact h

/-- The run lemma, by induction on what happens. -/
theorem Accounted.run {toLowerCase : Str → Str} {key : Str} {store : Store K} {admitted lost : ℕ}
    {happenings : List (Happening K)} (h : Accounted policy lo hi admitted lost (store key))
    (hburst : 0 ≤ policy.burst) (hrate : 0 < policy.perMinute) (hlohi : lo ≤ hi)
    (hwithin : Within toLowerCase key policy lo hi happenings) :
    Accounted policy lo hi (admitted + admittedUnder toLowerCase key happenings store) (lost + removals key happenings)
      (storeAfter toLowerCase store happenings key) := by
  induction happenings generalizing store admitted lost with
  | nil => exact h
  | cons happening happenings ih =>
      have hlater : Within toLowerCase key policy lo hi happenings := fun a ha => hwithin a (List.mem_cons_of_mem _ ha)
      cases happening with
      | attempt a =>
          have hstep := h.attempt hburst hrate fun hexecutes hkey => hwithin a List.mem_cons_self hexecutes hkey
          have hrest := ih hstep hlater
          rw [Nat.add_assoc] at hrest
          have hcount : removals key (.attempt a :: happenings) = removals key happenings := List.countP_cons_of_neg
            (by exact Bool.false_ne_true)
          rw [hcount]
          exact hrest
      | removed key' =>
          by_cases hsame : key' = key
          · subst hsame
            have hstep : Accounted policy lo hi admitted (lost + 1)
                (Happening.step toLowerCase store (.removed key') key') := by
              show Accounted policy lo hi admitted (lost + 1) (Function.update store key' Bucket.absent key')
              rw [Function.update_self]
              exact h.removed hburst hrate hlohi
            have hrest := ih hstep hlater
            have hcount : removals key' (.removed key' :: happenings) = removals key' happenings + 1 :=
              List.countP_cons_of_pos (decide_eq_true rfl)
            rw [hcount, ← Nat.add_assoc, Nat.add_right_comm]
            show Accounted policy lo hi (admitted + (0 + _)) _ _
            rw [Nat.zero_add]
            exact hrest
          · have hstep : Accounted policy lo hi admitted lost
                (Happening.step toLowerCase store (.removed key') key) := by
              show Accounted policy lo hi admitted lost (Function.update store key' Bucket.absent key)
              rw [Function.update_of_ne (Ne.symm hsame)]
              exact h
            have hrest := ih hstep hlater
            have hcount : removals key (.removed key' :: happenings) = removals key happenings :=
              List.countP_cons_of_neg (by simpa using hsame)
            rw [hcount]
            show Accounted policy lo hi (admitted + (0 + _)) _ _
            rw [Nat.zero_add]
            exact hrest

/-- **A key lost `r` times admits `r + 1` allowances.** However calls to any keys interleave, whichever of them never
    arrive or lose their answers, and whichever keys go and when: the calls admitted under enforcement on one bucket,
    while the clocks of its executed calls stay between two instants, are no more than a burst and the refill between
    the two, for the start and again for each time the key was lost. -/
theorem admitted_le {toLowerCase : Str → Str} {key : Str} {store : Store K} {happenings : List (Happening K)}
    (hburst : 0 ≤ policy.burst) (hrate : 0 < policy.perMinute) (hlohi : lo ≤ hi)
    (hstart : (store key).Bounded policy.burst) (hwithin : Within toLowerCase key policy lo hi happenings) :
    (admittedUnder toLowerCase key happenings store : K)
      ≤ (removals key happenings + 1) * (policy.burst + policy.perMinute / 60000 * ((hi - lo : ℤ) : K)) := by
  have hnone : Accounted policy lo hi 0 0 (store key) := by
    refine ⟨hstart, .inl ?_⟩
    push_cast
    linarith
  have hrun := (hnone.run hburst hrate hlohi hwithin).le hburst hrate hlohi
  rw [Nat.zero_add, Nat.zero_add] at hrun
  exact hrun

end Admitted

/-- With one loss, two bursts. -/
theorem admitted_le_restarted :
    (admittedUnder id ((spike 0).key id) restarted Store.empty : ℚ)
      ≤ (1 + 1) * (200 + 600 / 60000 * ((0 - 0 : ℤ) : ℚ)) := by
  have hwithin : Within id ((spike 0).key id) ⟨600, 200⟩ 0 0 restarted := by
    intro a ha hexecutes hkey
    simp only [restarted, List.mem_cons, List.not_mem_nil, or_false, Happening.attempt.injEq, reduceCtorEq,
      false_or] at ha
    rcases ha with rfl | rfl | rfl | rfl
    · exact ⟨rfl, le_rfl, le_rfl⟩
    · exact ⟨rfl, le_rfl, le_rfl⟩
    · exact absurd hkey (by decide)
    · cases hexecutes
  have hlost : removals ((spike 0).key id) restarted = 1 := by decide
  have hstart : ((Store.empty : Store ℚ) ((spike 0).key id)).Bounded
      (RateLimitPolicy.mk 600 200 : RateLimitPolicy ℚ).burst := .inl rfl
  have hle := admitted_le (by norm_num) (by norm_num) le_rfl hstart hwithin
  rw [hlost] at hle
  exact_mod_cast hle

end RateLimit
end NestSdk
