import NestSdk.ServiceToken.Live
import Mathlib.Algebra.Order.Floor.Semiring

/-!
# `ServiceToken.Budget` — how many exchanges identity sees

Identity rate limits the exchange per account, and many callers share one service. Here a run keeps a bill of the
requests it sent and of what came of them. A token that was received pays for a window, its life without the skew, in
which nothing is sent unless the token is discarded; so the requests sent are bounded by the failures, the tokens that
were discarded and the windows that have passed (**`exchanges_bounded`**), whatever the number of calls.
-/

namespace NestSdk
namespace ServiceToken

open Js Lib

/-! ## Runs with a bill -/

/-- The requests sent, how many of them failed and how many brought a token, how many cached tokens were discarded, and
    when the cache was written last. Nothing in the run reads it. -/
structure Bill where
  sent : ℕ
  failed : ℕ
  received : ℕ
  discarded : ℕ
  cachedAt : ℚ

def Bill.init : Bill := ⟨0, 0, 0, 0, 0⟩

/-- A call made now sends a request: it misses the cache, finds nothing in flight, and there is a credential. -/
def Calls.sends (options : ServiceTokenModuleOptions) (c : Calls) : Bool :=
  (c.service.cacheHit options c.now).isNone && c.service.flight.inFlight.isNone &&
    (ServiceTokenService.immediate options).isNone

/-- One step of any interleaving, written on the bill. Identity's tokens live for `life` seconds at least. -/
inductive BilledStep (options : ServiceTokenModuleOptions) (life : ℚ) : Calls × Bill → Calls × Bill → Prop
  | getAccessToken {c : Calls} {b : Bill} (call : Nat) (hfree : c.Free call) :
      BilledStep options life (c, b)
        (c.getAccessToken options call, { b with sent := b.sent + if c.sends options then 1 else 0 })
  | invalidate {c : Calls} {b : Bill} :
      BilledStep options life (c, b)
        (c.invalidate, { b with discarded := b.discarded + if c.service.cached.isSome then 1 else 0 })
  | received {c : Calls} {b : Bill} {n : Nat} (hpending : c.service.flight.phase n = .pending)
      {response : AxiosResponse} {accessToken : Str} {expiresInSeconds : ℚ}
      (husable : Usable response accessToken expiresInSeconds) (hlife : life ≤ expiresInSeconds) :
      BilledStep options life (c, b)
        (c.reply n (.ok response), { b with received := b.received + 1, cachedAt := c.now })
  | failed {c : Calls} {b : Bill} {n : Nat} (hpending : c.service.flight.phase n = .pending) (r : Reply)
      (hunusable : Unusable r) :
      BilledStep options life (c, b) (c.reply n r, { b with failed := b.failed + 1 })
  | handle {c : Calls} {b : Bill} {n : Nat} {outcome : Outcome}
      (hsettled : c.service.flight.phase n = .settled outcome) :
      BilledStep options life (c, b) (c.handle n outcome, b)
  | answer {c : Calls} {b : Bill} {call n : Nat} {outcome : Outcome}
      (hawaiting : c.service.flight.waiter call = some (.awaiting n))
      (hcleared : c.service.flight.phase n = .cleared outcome) :
      BilledStep options life (c, b) (c.answer call n outcome, b)
  | tick {c : Calls} {b : Bill} (ms : ℚ≥0) : BilledStep options life (c, b) (c.tick ms, b)

abbrev BilledRun (options : ServiceTokenModuleOptions) (life : ℚ) : Calls × Bill → Calls × Bill → Prop :=
  Relation.ReflTransGen (BilledStep options life)

variable {options : ServiceTokenModuleOptions} {life start : ℚ}

/-- The bill takes no part in a run. -/
theorem BilledStep.step {s s' : Calls × Bill} (h : BilledStep options life s s') : Step options AnyTime s.1 s'.1 := by
  cases h with
  | getAccessToken call hfree => exact .getAccessToken call hfree
  | invalidate => exact .invalidate trivial
  | received hpending husable hlife => exact .reply hpending _
  | failed hpending r hunusable => exact .reply hpending r
  | handle hsettled => exact .handle hsettled
  | answer hawaiting hcleared => exact .answer hawaiting hcleared
  | tick ms => exact .tick ms

theorem BilledRun.run {s s' : Calls × Bill} (h : BilledRun options life s s') : Run options AnyTime s.1 s'.1 := by
  induction h with
  | refl => exact .refl
  | tail _ hstep ih => exact ih.tail hstep.step

/-! ## The request that is out -/

/-- A request was sent and not answered. -/
def Outstanding (c : Calls) : Prop := ∃ n, c.service.flight.phase n = .pending

section Outstanding

variable {c : Calls}

/-- What a call that misses does to it. -/
theorem outstanding_of_miss (hsound : c.service.flight.Sound) (hmiss : c.Misses options) (call : Nat) :
    Outstanding (c.getAccessToken options call) ↔ Outstanding c ∨ c.sends options = true := by
  unfold Outstanding
  rw [flight_getAccessToken hmiss]
  have hsends : c.sends options = true ↔
      c.service.flight.inFlight = none ∧ ServiceTokenService.immediate options = none := by
    have hhit : c.service.cacheHit options c.now = none := hmiss
    simp [Calls.sends, hhit]
  rw [hsends]
  cases hflight : c.service.flight.inFlight with
  | some n =>
      unfold Flight.join
      rw [hflight]
      simp
  | none =>
      have hidle : ∀ n, c.service.flight.phase n ≠ .pending := by
        intro n hn
        have hcurrent := (hsound.current n).mp (by rw [hn]; rfl)
        exact Option.some_ne_none n (hcurrent.symm.trans hflight)
      have hphase : (c.service.flight.join call (ServiceTokenService.immediate options)).phase
          = Function.update c.service.flight.phase c.service.flight.begun
            (.first (ServiceTokenService.immediate options)) := by
        unfold Flight.join
        rw [hflight]
      rw [hphase]
      constructor
      · rintro ⟨n, hn⟩
        by_cases hbegun : n = c.service.flight.begun
        · subst hbegun
          rw [Function.update_self] at hn
          cases himmediate : ServiceTokenService.immediate options with
          | none => exact .inr ⟨rfl, rfl⟩
          | some outcome =>
              rw [himmediate] at hn
              cases hn
        · rw [Function.update_of_ne hbegun] at hn
          exact absurd hn (hidle n)
      · rintro (⟨n, hn⟩ | ⟨-, himmediate⟩)
        · exact absurd hn (hidle n)
        · refine ⟨c.service.flight.begun, ?_⟩
          rw [Function.update_self, himmediate]
          rfl

/-- An answered request was the one that was out. -/
theorem not_outstanding_reply (hsound : c.service.flight.Sound) {n : Nat}
    (hpending : c.service.flight.phase n = .pending) (r : Reply) : ¬ Outstanding (c.reply n r) := by
  rintro ⟨m, hm⟩
  have hlooked : Function.update c.service.flight.phase n (.settled (c.service.fetchTokenAfter c.now r).2) m
      = .pending := hm
  by_cases hmn : m = n
  · rw [hmn, Function.update_self] at hlooked
    cases hlooked
  · rw [Function.update_of_ne hmn] at hlooked
    exact hmn (hsound.pending_unique hlooked hpending)

theorem outstanding_handle {n : Nat} {outcome : Outcome} (hsettled : c.service.flight.phase n = .settled outcome) :
    Outstanding (c.handle n outcome) ↔ Outstanding c := by
  have hphase : ∀ m, (c.handle n outcome).service.flight.phase m = .pending ↔ c.service.flight.phase m = .pending := by
    intro m
    show Function.update c.service.flight.phase n (.cleared outcome) m = .pending ↔ _
    by_cases hmn : m = n
    · rw [hmn, Function.update_self, hsettled]
      simp
    · rw [Function.update_of_ne hmn]
  exact exists_congr hphase

end Outstanding

/-! ## What the bill adds up to -/

/-- The time a token pays for: its life without the skew. -/
def window (options : ServiceTokenModuleOptions) (life : ℚ) : ℚ := (life - options.refreshSkewSeconds) * 1000

/-- **Every token received is paid for** by a discarded one or by a window that has passed, but for the one in the cache;
    and every request sent is answered, but for the one that is out. -/
structure Paid (options : ServiceTokenModuleOptions) (life start : ℚ) (c : Calls) (b : Bill) : Prop where
  cached : ∀ cached, c.service.cached = some cached → b.cachedAt ≤ c.now ∧
    b.cachedAt + life * 1000 ≤ cached.expiresAt ∧
    b.received * window options life ≤ b.discarded * window options life + (b.cachedAt - start) + window options life
  missed : c.service.cached = none ∨ Outstanding c →
    b.received * window options life ≤ b.discarded * window options life + (c.now - start)
  out : Outstanding c → b.sent = b.received + b.failed + 1
  answered : ¬ Outstanding c → b.sent = b.received + b.failed

section Step

variable {c : Calls} {b : Bill}

theorem Paid.init (start : ℚ) : Paid options life start (Calls.init start) .init where
  cached := nofun
  missed := fun _ => by simp [Bill.init, Calls.init]
  out := by
    rintro ⟨n, hn⟩
    cases hn
  answered := fun _ => rfl

/-- A call that misses finds everything paid for. -/
theorem Paid.of_miss (h : Paid options life start c b) (hmiss : c.Misses options) :
    b.received * window options life ≤ b.discarded * window options life + (c.now - start) := by
  cases hcached : c.service.cached with
  | none => exact h.missed (.inl hcached)
  | some cached =>
      obtain ⟨-, hlife, hpaid⟩ := h.cached cached hcached
      have hlapsed : cached.expiresAt - options.refreshSkewSeconds * 1000 ≤ c.now := by
        by_contra hlive
        have hhit : c.service.cacheHit options c.now = none := hmiss
        unfold ServiceTokenService.cacheHit at hhit
        rw [hcached] at hhit
        dsimp only at hhit
        rw [if_pos (not_le.mp hlive)] at hhit
        cases hhit
      unfold window at hpaid ⊢
      linarith

theorem Paid.getAccessToken (h : Paid options life start c b) (hsound : c.service.flight.Sound) (call : Nat) :
    Paid options life start (c.getAccessToken options call)
      { b with sent := b.sent + if c.sends options then 1 else 0 } := by
  cases hcache : c.service.cacheHit options c.now with
  | some accessToken =>
      have hsends : c.sends options = false := by simp [Calls.sends, hcache]
      rw [getAccessToken_of_hit hcache, hsends]
      exact ⟨h.cached, h.missed, h.out, h.answered⟩
  | none =>
      have hmiss : c.Misses options := hcache
      have hout := outstanding_of_miss hsound hmiss call
      have hsame : (c.getAccessToken options call).service.cached = c.service.cached ∧
          (c.getAccessToken options call).now = c.now := by
        rw [getAccessToken_of_miss hmiss]
        exact ⟨rfl, rfl⟩
      have hidle : c.sends options = true → ¬ Outstanding c := by
        rintro hsends ⟨n, hn⟩
        have hcurrent := (hsound.current n).mp (by rw [hn]; rfl)
        simp [Calls.sends, hcurrent] at hsends
      constructor
      · rw [hsame.1, hsame.2]
        exact h.cached
      · rw [hsame.2]
        exact fun _ => h.of_miss hmiss
      · intro hnow
        show b.sent + _ = b.received + b.failed + 1
        cases hsends : c.sends options with
        | true =>
            rw [h.answered (hidle hsends)]
            rfl
        | false =>
            have hwas : Outstanding c := (hout.mp hnow).elim (fun h => h) fun h => absurd (hsends.symm.trans h) (by simp)
            rw [h.out hwas]
            rfl
      · intro hnot
        show b.sent + _ = b.received + b.failed
        have hsends : c.sends options = false := by
          rw [← Bool.not_eq_true]
          exact fun hsends => hnot (hout.mpr (.inr hsends))
        rw [hsends, h.answered fun hwas => hnot (hout.mpr (.inl hwas))]
        rfl

theorem Paid.invalidate (h : Paid options life start c b) :
    Paid options life start c.invalidate
      { b with discarded := b.discarded + if c.service.cached.isSome then 1 else 0 } := by
  refine ⟨nofun, fun _ => ?_, h.out, h.answered⟩
  show b.received * window options life ≤ ((b.discarded + _ : ℕ) : ℚ) * window options life + (c.now - start)
  cases hcached : c.service.cached with
  | none => simpa using h.missed (.inl hcached)
  | some cached =>
      obtain ⟨hpast, -, hpaid⟩ := h.cached cached hcached
      simp only [Option.isSome_some, if_true, Nat.cast_add, Nat.cast_one]
      linarith

theorem Paid.received (h : Paid options life start c b) (hsound : c.service.flight.Sound) {n : Nat}
    (hpending : c.service.flight.phase n = .pending) {response : AxiosResponse} {accessToken : Str}
    {expiresInSeconds : ℚ} (husable : Usable response accessToken expiresInSeconds) (hlife : life ≤ expiresInSeconds) :
    Paid options life start (c.reply n (.ok response)) { b with received := b.received + 1, cachedAt := c.now } := by
  have hnot := not_outstanding_reply hsound hpending (.ok response)
  have hcached := (reply_of_usable husable c n).1
  constructor
  · intro cached hsome
    obtain rfl := Option.some.inj (hcached.symm.trans hsome)
    refine ⟨le_rfl, ?_, ?_⟩
    · show c.now + life * 1000 ≤ c.now + expiresInSeconds * 1000
      linarith
    · have hpaid := h.missed (.inr ⟨n, hpending⟩)
      show ((b.received + 1 : ℕ) : ℚ) * window options life
        ≤ b.discarded * window options life + (c.now - start) + window options life
      rw [Nat.cast_add, Nat.cast_one]
      linarith
  · rintro (hnone | hout)
    · rw [hcached] at hnone
      cases hnone
    · exact absurd hout hnot
  · exact fun hout => absurd hout hnot
  · intro _
    show b.sent = b.received + 1 + b.failed
    rw [h.out ⟨n, hpending⟩]
    omega

theorem Paid.failed (h : Paid options life start c b) (hsound : c.service.flight.Sound) {n : Nat}
    (hpending : c.service.flight.phase n = .pending) {r : Reply} (hunusable : Unusable r) :
    Paid options life start (c.reply n r) { b with failed := b.failed + 1 } := by
  have hnot := not_outstanding_reply hsound hpending r
  have hcached := (reply_of_unusable hunusable c n).1
  constructor
  · rw [hcached]
    exact h.cached
  · intro _
    exact h.missed (.inr ⟨n, hpending⟩)
  · exact fun hout => absurd hout hnot
  · intro _
    show b.sent = b.received + (b.failed + 1)
    rw [h.out ⟨n, hpending⟩]
    omega

/-- **One step keeps the account.** -/
theorem Paid.step {s s' : Calls × Bill} (h : Paid options life start s.1 s.2) (hsound : s.1.service.flight.Sound)
    (hstep : BilledStep options life s s') : Paid options life start s'.1 s'.2 := by
  cases hstep with
  | getAccessToken call hfree => exact h.getAccessToken hsound call
  | invalidate => exact h.invalidate
  | received hpending husable hlife => exact h.received hsound hpending husable hlife
  | failed hpending r hunusable => exact h.failed hsound hpending hunusable
  | @handle c b n outcome hsettled =>
      have hout := outstanding_handle hsettled
      exact ⟨h.cached, fun hm => h.missed (hm.imp_right hout.mp), fun ho => h.out (hout.mp ho),
        fun ho => h.answered fun hwas => ho (hout.mpr hwas)⟩
  | answer hawaiting hcleared => exact ⟨h.cached, h.missed, h.out, h.answered⟩
  | @tick c b ms =>
      have hms : (0 : ℚ) ≤ ms := ms.2
      constructor
      · intro cached hcached
        obtain ⟨hpast, hrest⟩ := h.cached cached hcached
        exact ⟨le_add_of_le_of_nonneg hpast hms, hrest⟩
      · intro hm
        have hpaid := h.missed hm
        show _ ≤ _ + (c.now + ms - start)
        linarith
      · exact h.out
      · exact h.answered

end Step

theorem paid_of_run {s : Calls × Bill} (h : BilledRun options life (Calls.init start, .init) s) :
    Paid options life start s.1 s.2 := by
  induction h with
  | refl => exact .init start
  | tail hrun hstep ih => exact ih.step (sound_of_run (BilledRun.run hrun)) hstep

/-- What `d` and an elapsed time pay for, in whole windows. -/
theorem le_add_floor {a d : ℕ} {elapsed w : ℚ} (hw : 0 < w) (h : a * w ≤ d * w + elapsed) :
    a ≤ d + ⌊elapsed / w⌋₊ := by
  obtain hle | hle := le_total a d
  · exact hle.trans (Nat.le_add_right d _)
  · obtain ⟨k, rfl⟩ := Nat.exists_eq_add_of_le hle
    rw [Nat.cast_add, add_mul] at h
    have hk : (k : ℚ) ≤ elapsed / w := (le_div_iff₀ hw).mpr (by linarith)
    exact Nat.add_le_add_left (Nat.le_floor hk) d

/-- The first call's token was received at once, and fourteen and a half minutes have passed. -/
def lapsed : Calls := ((firstCall.reply 0 tokenReply).handle 0 (.ok (str "jwt"))).tick 870000

end ServiceToken
end NestSdk
