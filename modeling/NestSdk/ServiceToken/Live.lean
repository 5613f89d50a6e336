import NestSdk.ServiceToken.Invalidate

/-!
# `ServiceToken.Live` — a token served from the cache is live

The cache counts a token's life from the moment its reply was received, identity from the moment it minted it.
Here a run carries a ledger of both, by the one clock identity and the service share: which reply ended each
exchange, when its token was minted, and when each call was made. The skew taken off on every read makes up for
the latency of the reply, as long as that latency is no longer than the skew.
-/

namespace NestSdk
namespace ServiceToken

open Js Lib

/-- **A reply with a usable token:** a 2xx status, a non-empty `accessToken`, and a positive life. -/
structure Usable (response : AxiosResponse) (accessToken : Str) (expiresInSeconds : ℚ) : Prop where
  success : 200 ≤ response.status ∧ response.status < 300
  token : property response.data (str "accessToken") = some (.string accessToken)
  nonempty : accessToken ≠ []
  life : property response.data (str "expiresInSeconds") = some (.number expiresInSeconds)
  positive : 0 < expiresInSeconds

/-- The request failed, was refused, or its reply carries no usable token. -/
def Unusable (r : Reply) : Prop :=
  ∀ response accessToken expiresInSeconds, r = .ok response → ¬ Usable response accessToken expiresInSeconds

theorem usable_of_not_unusable {r : Reply} (h : ¬ Unusable r) :
    ∃ response accessToken expiresInSeconds, r = .ok response ∧
      Usable response accessToken expiresInSeconds := by
  unfold Unusable at h
  push Not at h
  exact h

/-! ## What an exchange does to the cache -/

/-- `narrowToken` lets through what has both properties as they should be. -/
theorem narrowToken_eq_ok {body : Value} {token : NarrowedToken} (h : narrowToken body = .ok token) :
    property body (str "accessToken") = some (.string token.accessToken) ∧ token.accessToken ≠ [] ∧
      property body (str "expiresInSeconds") = some (.number token.expiresInSeconds) ∧
      0 < token.expiresInSeconds := by
  unfold narrowToken at h
  split at h
  next accessToken expiresInSeconds haccess hexpires =>
    split at h
    next accessToken expiresInSeconds =>
      split at h
      next => exact absurd h (by simp)
      next hguard =>
        obtain rfl := Except.ok.inj h
        simp only [Bool.or_eq_true, decide_eq_true_eq, not_or, not_le, List.length_eq_zero_iff] at hguard
        exact ⟨haccess, hguard.1, hexpires, hguard.2⟩
    next => exact absurd h (by simp)
  next => exact absurd h (by simp)

theorem narrowToken_of_usable {response : AxiosResponse} {accessToken : Str} {expiresInSeconds : ℚ}
    (h : Usable response accessToken expiresInSeconds) :
    narrowToken response.data = .ok ⟨accessToken, expiresInSeconds⟩ := by
  have hnonempty : accessToken.length ≠ 0 := by
    rw [Ne, List.length_eq_zero_iff]
    exact h.nonempty
  unfold narrowToken
  rw [h.token, h.life]
  simp [hnonempty, h.positive]

/-- A usable reply writes the cache, counting the token's life from now. -/
theorem fetchTokenAfter_of_usable {response : AxiosResponse} {accessToken : Str} {expiresInSeconds : ℚ}
    (h : Usable response accessToken expiresInSeconds) (s : ServiceTokenService) (now : ℚ) :
    s.fetchTokenAfter now (.ok response)
      = ({ s with cached := some ⟨accessToken, now + expiresInSeconds * 1000⟩ }, .ok accessToken) := by
  have hstatus : ¬ (response.status < 200 ∨ response.status ≥ 300) := by
    have hsuccess := h.success
    omega
  simp only [ServiceTokenService.fetchTokenAfter, narrowToken_of_usable h, Bool.or_eq_true,
    decide_eq_true_eq, hstatus, if_false]

/-- **Any other reply ends the exchange with an exception, and leaves the cache as it was.** -/
theorem fetchTokenAfter_of_unusable {r : Reply} (h : Unusable r) (s : ServiceTokenService) (now : ℚ) :
    (s.fetchTokenAfter now r).1.cached = s.cached ∧
      ∃ exception, (s.fetchTokenAfter now r).2 = .error exception := by
  cases r with
  | error error => exact ⟨rfl, _, rfl⟩
  | ok response =>
      simp only [ServiceTokenService.fetchTokenAfter]
      split
      next => exact ⟨rfl, _, rfl⟩
      next hstatus =>
        cases hnarrow : narrowToken response.data with
        | error exception => exact ⟨rfl, exception, rfl⟩
        | ok token =>
            -- what was narrowed is usable, and the reply is not
            obtain ⟨haccess, hnonempty, hexpires, hpositive⟩ := narrowToken_eq_ok hnarrow
            simp only [Bool.or_eq_true, decide_eq_true_eq] at hstatus
            refine absurd ⟨?_, haccess, hnonempty, hexpires, hpositive⟩ (h response _ _ rfl)
            omega

section Reply

variable {r : Reply} {response : AxiosResponse} {accessToken : Str} {expiresInSeconds : ℚ}

theorem reply_of_usable (h : Usable response accessToken expiresInSeconds) (c : Calls) (n : Nat) :
    (c.reply n (.ok response)).service.cached = some ⟨accessToken, c.now + expiresInSeconds * 1000⟩ ∧
      (c.reply n (.ok response)).trace.cachedBy = n := by
  unfold Calls.reply
  rw [fetchTokenAfter_of_usable h]
  exact ⟨rfl, rfl⟩

theorem reply_of_unusable (h : Unusable r) (c : Calls) (n : Nat) :
    (c.reply n r).service.cached = c.service.cached ∧ (c.reply n r).trace.cachedBy = c.trace.cachedBy ∧
      ∃ exception, (c.reply n r).service.flight.phase n = .settled (.error exception) := by
  obtain ⟨hsame, exception, houtcome⟩ := fetchTokenAfter_of_unusable h c.service c.now
  unfold Calls.reply
  rw [houtcome]
  exact ⟨hsame, rfl, exception, Function.update_self ..⟩

end Reply

/-- What the cache answers with is in it, and lives for longer than the skew. -/
theorem cacheHit_eq_some {options : ServiceTokenModuleOptions} {s : ServiceTokenService} {now : ℚ}
    {accessToken : Str} (h : s.cacheHit options now = some accessToken) :
    ∃ cached, s.cached = some cached ∧ cached.accessToken = accessToken ∧
      now + options.refreshSkewSeconds * 1000 < cached.expiresAt := by
  unfold ServiceTokenService.cacheHit at h
  split at h
  next cached hcached =>
    split at h
    next hlife => exact ⟨cached, hcached, Option.some.inj h, by linarith⟩
    next => exact absurd h (by simp)
  next => exact absurd h (by simp)

/-! ## Runs with a ledger -/

/-- What ended an exchange: the reply, when its token was minted, and when the reply was received. -/
structure Receipt where
  response : AxiosResponse
  mintedAt : ℚ
  receivedAt : ℚ

/-- What a run received, exchange by exchange, and when each call was made. Nothing in the run reads it. -/
structure Ledger where
  received : Nat → Option Receipt
  calledAt : Nat → ℚ

namespace Ledger

def init : Ledger := ⟨fun _ => none, fun _ => 0⟩

def call (l : Ledger) (call : Nat) (now : ℚ) : Ledger :=
  { l with calledAt := Function.update l.calledAt call now }

def receive (l : Ledger) (n : Nat) (mintedAt now : ℚ) : Reply → Ledger
  | .ok response => { l with received := Function.update l.received n (some ⟨response, mintedAt, now⟩) }
  | .error _ => l

end Ledger

/-- One step of any interleaving, written in the ledger. A reply with a usable token is received at most the skew
    after the token was minted; other replies may take as long as they like. -/
inductive TimedStep (options : ServiceTokenModuleOptions) : Calls × Ledger → Calls × Ledger → Prop
  | getAccessToken {c : Calls} {l : Ledger} (call : Nat) (hfree : c.Free call) :
      TimedStep options (c, l) (c.getAccessToken options call, l.call call c.now)
  | invalidate {c : Calls} {l : Ledger} : TimedStep options (c, l) (c.invalidate, l)
  | reply {c : Calls} {l : Ledger} {n : Nat} (hpending : c.service.flight.phase n = .pending) (r : Reply)
      (mintedAt : ℚ)
      (htimely : Unusable r ∨ c.now ≤ mintedAt + options.refreshSkewSeconds * 1000) :
      TimedStep options (c, l) (c.reply n r, l.receive n mintedAt c.now r)
  | handle {c : Calls} {l : Ledger} {n : Nat} {outcome : Outcome}
      (hsettled : c.service.flight.phase n = .settled outcome) :
      TimedStep options (c, l) (c.handle n outcome, l)
  | answer {c : Calls} {l : Ledger} {call n : Nat} {outcome : Outcome}
      (hawaiting : c.service.flight.waiter call = some (.awaiting n))
      (hcleared : c.service.flight.phase n = .cleared outcome) :
      TimedStep options (c, l) (c.answer call n outcome, l)
  | tick {c : Calls} {l : Ledger} (ms : ℚ≥0) : TimedStep options (c, l) (c.tick ms, l)

abbrev TimedRun (options : ServiceTokenModuleOptions) : Calls × Ledger → Calls × Ledger → Prop :=
  Relation.ReflTransGen (TimedStep options)

variable {options : ServiceTokenModuleOptions}

/-- The ledger takes no part in a run. -/
theorem TimedStep.step {s s' : Calls × Ledger} (h : TimedStep options s s') :
    Step options AnyTime s.1 s'.1 := by
  cases h with
  | getAccessToken call hfree => exact .getAccessToken call hfree
  | invalidate => exact .invalidate trivial
  | reply hpending r mintedAt htimely => exact .reply hpending r
  | handle hsettled => exact .handle hsettled
  | answer hawaiting hcleared => exact .answer hawaiting hcleared
  | tick ms => exact .tick ms

theorem TimedRun.run {s s' : Calls × Ledger} (h : TimedRun options s s') : Run options AnyTime s.1 s'.1 := by
  induction h with
  | refl => exact .refl
  | tail _ hstep ih => exact ih.tail hstep.step

/-- **A call was served a live token:** one that the exchange `n` received in a usable reply, and whose life, from
    the moment it was minted, was not over when the call was made. -/
def ServedLive (l : Ledger) (n call : Nat) (accessToken : Str) : Prop :=
  ∃ receipt expiresInSeconds, l.received n = some receipt ∧
    Usable receipt.response accessToken expiresInSeconds ∧
    l.calledAt call < receipt.mintedAt + expiresInSeconds * 1000

/-- The cached token came in the reply that ended the exchange `n`, in time. -/
def Backed (options : ServiceTokenModuleOptions) (l : Ledger) (n : Nat) (cached : CachedToken) : Prop :=
  ∃ receipt expiresInSeconds, l.received n = some receipt ∧
    Usable receipt.response cached.accessToken expiresInSeconds ∧
    cached.expiresAt = receipt.receivedAt + expiresInSeconds * 1000 ∧
    receipt.receivedAt ≤ receipt.mintedAt + options.refreshSkewSeconds * 1000

/-- What the ledger accounts for: an exchange that received a reply has ended, the cached token is backed by a
    reply, and so was every token the cache answered with. -/
structure Accounted (options : ServiceTokenModuleOptions) (c : Calls) (l : Ledger) : Prop where
  ended : ∀ n, l.received n ≠ none → (c.service.flight.phase n).ended = true
  cached : ∀ cached, c.service.cached = some cached → Backed options l c.trace.cachedBy cached
  hit : ∀ call accessToken, c.hit call = some accessToken →
    ServedLive l (c.trace.hitBy call) call accessToken

theorem Accounted.init (now : ℚ) : Accounted options (Calls.init now) .init where
  ended n h := absurd rfl h
  cached cached h := absurd h (by simp [Calls.init])
  hit call accessToken h := absurd h (by simp [Calls.init])

/-- A token that outlives the skew by the cache's count has not expired by identity's. -/
theorem Backed.servedLive {l : Ledger} {n call : Nat} {cached : CachedToken} {now : ℚ}
    (h : Backed options l n cached) (hcalled : l.calledAt call = now)
    (hlife : now + options.refreshSkewSeconds * 1000 < cached.expiresAt) :
    ServedLive l n call cached.accessToken := by
  obtain ⟨receipt, expiresInSeconds, hreceived, husable, hexpiresAt, hlatency⟩ := h
  refine ⟨receipt, expiresInSeconds, hreceived, husable, ?_⟩
  rw [hcalled]
  linarith

/-- What a ledger backs stays backed when it only grows. -/
theorem Backed.mono {l l' : Ledger} {n : Nat} {cached : CachedToken} (h : Backed options l n cached)
    (hreceived : ∀ receipt, l.received n = some receipt → l'.received n = some receipt) :
    Backed options l' n cached := by
  obtain ⟨receipt, expiresInSeconds, hsome, hbacked⟩ := h
  exact ⟨receipt, expiresInSeconds, hreceived receipt hsome, hbacked⟩

theorem ServedLive.mono {l l' : Ledger} {n call : Nat} {accessToken : Str}
    (h : ServedLive l n call accessToken)
    (hreceived : ∀ receipt, l.received n = some receipt → l'.received n = some receipt)
    (hcalled : l'.calledAt call = l.calledAt call) : ServedLive l' n call accessToken := by
  obtain ⟨receipt, expiresInSeconds, hsome, husable, hlive⟩ := h
  exact ⟨receipt, expiresInSeconds, hreceived receipt hsome, husable, hcalled ▸ hlive⟩

/-! ## One step -/

section Step

variable {c : Calls} {l : Ledger}

/-- A reply is written under an exchange that none was written under before. -/
theorem Accounted.receive (h : Accounted options c l) {n : Nat}
    (hpending : c.service.flight.phase n = .pending) (mintedAt now : ℚ) (r : Reply) {m : Nat}
    {receipt : Receipt} (hreceived : l.received m = some receipt) :
    (l.receive n mintedAt now r).received m = some receipt := by
  have hne : m ≠ n := by
    rintro rfl
    have hended := h.ended m (by simp [hreceived])
    rw [hpending] at hended
    exact absurd hended (by simp [Phase.ended])
  cases r with
  | error error => exact hreceived
  | ok response =>
      show Function.update l.received n _ m = some receipt
      rw [Function.update_of_ne hne]
      exact hreceived

/-- The cache answers with a live token. -/
theorem Accounted.hits (h : Accounted options c l) {call : Nat} {accessToken : Str}
    (hhit : c.service.cacheHit options c.now = some accessToken) :
    Accounted options (c.getAccessToken options call) (l.call call c.now) := by
  obtain ⟨cached, hcached, rfl, hlife⟩ := cacheHit_eq_some hhit
  rw [getAccessToken_of_hit hhit]
  refine ⟨h.ended, h.cached, ?_⟩
  intro j token hj
  by_cases heq : j = call
  · subst heq
    simp only [Function.update_self] at hj ⊢
    obtain rfl := Option.some.inj hj
    have hbacked : Backed options (l.call j c.now) c.trace.cachedBy cached :=
      (h.cached cached hcached).mono fun _ => id
    apply hbacked.servedLive _ hlife
    exact Function.update_self ..
  · simp only [Function.update_of_ne heq] at hj ⊢
    exact (h.hit j token hj).mono (fun _ => id) (Function.update_of_ne heq ..)

/-- A call that misses the cache leaves it as it is. -/
theorem Accounted.misses (h : Accounted options c l) (hsound : c.service.flight.Sound) {call : Nat}
    (hfree : c.Free call) (hmiss : c.Misses options) :
    Accounted options (c.getAccessToken options call) (l.call call c.now) := by
  have hflight : Flight.Step c.service.flight (c.getAccessToken options call).service.flight := by
    rw [flight_getAccessToken hmiss]
    exact .join call _ hfree.1
  refine ⟨fun n hn => hsound.ended_step hflight (h.ended n hn), ?_, ?_⟩
  · rw [getAccessToken_of_miss hmiss]
    exact h.cached
  · rw [getAccessToken_of_miss hmiss]
    intro j token hj
    have hne : j ≠ call := by
      rintro rfl
      exact absurd (hfree.2.symm.trans hj) (by simp)
    exact (h.hit j token hj).mono (fun _ => id) (Function.update_of_ne hne ..)

/-- A reply that comes in time backs what it writes in the cache. -/
theorem Accounted.reply (h : Accounted options c l) (hsound : c.service.flight.Sound) {n : Nat}
    (hpending : c.service.flight.phase n = .pending) (r : Reply) (mintedAt : ℚ)
    (htimely : Unusable r ∨ c.now ≤ mintedAt + options.refreshSkewSeconds * 1000) :
    Accounted options (c.reply n r) (l.receive n mintedAt c.now r) := by
  have hflight : Flight.Step c.service.flight (c.reply n r).service.flight := .settle _ hpending
  have hkept : ∀ {m receipt}, l.received m = some receipt →
      (l.receive n mintedAt c.now r).received m = some receipt := h.receive hpending mintedAt c.now r
  have hcalled : (l.receive n mintedAt c.now r).calledAt = l.calledAt := by
    cases r <;> rfl
  refine ⟨?_, ?_, ?_⟩
  · intro m hm
    by_cases heq : m = n
    · subst heq
      show (Function.update c.service.flight.phase m _ m).ended = true
      rw [Function.update_self]
      rfl
    · refine hsound.ended_step hflight (h.ended m ?_)
      cases r with
      | error error => exact hm
      | ok response => simpa only [Ledger.receive, Function.update_of_ne heq] using hm
  · intro cached hcached
    by_cases hunusable : Unusable r
    · -- the cache is as it was
      obtain ⟨hsame, hby, -⟩ := reply_of_unusable hunusable c n
      rw [hby]
      exact (h.cached cached (hsame ▸ hcached)).mono fun _ => hkept
    · have hlatency := htimely.resolve_left hunusable
      obtain ⟨response, accessToken, expiresInSeconds, rfl, husable⟩ := usable_of_not_unusable hunusable
      obtain ⟨hwritten, hby⟩ := reply_of_usable husable c n
      obtain rfl := Option.some.inj (hwritten.symm.trans hcached)
      rw [hby]
      exact ⟨⟨response, mintedAt, c.now⟩, expiresInSeconds, Function.update_self .., husable, rfl, hlatency⟩
  · intro call accessToken hhit
    exact (h.hit call accessToken hhit).mono (fun _ => hkept) (by rw [hcalled])

end Step

/-- **One step keeps the account.** -/
theorem Accounted.step {s s' : Calls × Ledger} (h : Accounted options s.1 s.2)
    (hsound : s.1.service.flight.Sound) (hstep : TimedStep options s s') : Accounted options s'.1 s'.2 := by
  cases hstep with
  | @getAccessToken c l call hfree =>
      cases hcache : c.service.cacheHit options c.now with
      | some accessToken => exact h.hits hcache
      | none => exact h.misses hsound hfree hcache
  | invalidate =>
      refine ⟨h.ended, ?_, h.hit⟩
      intro cached hcached
      exact absurd hcached.symm (Option.some_ne_none cached)
  | reply hpending r mintedAt htimely => exact h.reply hsound hpending r mintedAt htimely
  | handle hsettled =>
      exact ⟨fun n hn => hsound.ended_step (.clear hsettled) (h.ended n hn), h.cached, h.hit⟩
  | answer hawaiting hcleared => exact ⟨h.ended, h.cached, h.hit⟩
  | tick ms => exact ⟨h.ended, h.cached, h.hit⟩

/-- **Every run is accounted for,** by induction on the run. -/
theorem accounted_of_run {now : ℚ} {s : Calls × Ledger}
    (h : TimedRun options (Calls.init now, .init) s) : Accounted options s.1 s.2 := by
  induction h with
  | refl => exact .init now
  | tail hrun hstep ih => exact ih.step (sound_of_run (TimedRun.run hrun)) hstep

/-- The steps that write the cache: `invalidate`, and a usable reply. -/
theorem cached_step {s s' : Calls × Ledger} (hstep : TimedStep options s s') :
    s'.1.service.cached = s.1.service.cached ∨ s'.1 = s.1.invalidate ∨
      ∃ n response accessToken expiresInSeconds, s'.1 = s.1.reply n (.ok response) ∧
        Usable response accessToken expiresInSeconds := by
  cases hstep with
  | @getAccessToken c l call hfree =>
      cases hcache : c.service.cacheHit options c.now with
      | some accessToken =>
          rw [getAccessToken_of_hit hcache]
          exact .inl rfl
      | none =>
          rw [getAccessToken_of_miss hcache]
          exact .inl rfl
  | invalidate => exact .inr (.inl rfl)
  | @reply c l n hpending r mintedAt htimely =>
      by_cases hunusable : Unusable r
      · exact .inl (reply_of_unusable hunusable c n).1
      · obtain ⟨response, accessToken, expiresInSeconds, rfl, husable⟩ := usable_of_not_unusable hunusable
        exact .inr (.inr ⟨n, response, accessToken, expiresInSeconds, rfl, husable⟩)
  | handle hsettled => exact .inl rfl
  | answer hawaiting hcleared => exact .inl rfl
  | tick ms => exact .inl rfl

/-- **A cached service token is live.** In every run in which usable replies arrive within the skew: every token
    served from the cache came in a usable reply and, when it was served, had not expired by the time it was
    minted at. And an exchange that fails, is refused or gets a malformed reply, or that is begun without a
    credential, ends with an exception and leaves the cached token as it was. -/
theorem cached_token_live {now : ℚ} {c : Calls} {l : Ledger}
    (h : TimedRun options (Calls.init now, .init) (c, l)) :
    (∀ call accessToken, c.hit call = some accessToken →
      ServedLive l (c.trace.hitBy call) call accessToken) ∧
    (∀ n r, c.service.flight.phase n = .pending → Unusable r →
      (c.reply n r).service.cached = c.service.cached ∧
        ∃ exception, (c.reply n r).service.flight.phase n = .settled (.error exception)) ∧
    (∀ s, TimedStep options (c, l) s → s.1.service.cached = c.service.cached ∨ s.1 = c.invalidate ∨
      ∃ n response accessToken expiresInSeconds, s.1 = c.reply n (.ok response) ∧
        Usable response accessToken expiresInSeconds) := by
  refine ⟨(accounted_of_run h).hit, ?_, fun s hstep => cached_step hstep⟩
  intro n r hpending hunusable
  obtain ⟨hsame, -, hfailed⟩ := reply_of_unusable hunusable c n
  exact ⟨hsame, hfailed⟩

/-- One call has begun an exchange, its token minted at once and received ten seconds later. -/
def slowReply : Calls × Ledger :=
  let c := firstCall.tick 10000
  (c.reply 0 tokenReply, (Ledger.init.call 0 0).receive 0 0 c.now tokenReply)

/-- A call made fourteen and a half minutes after that. -/
def lateCall : Calls × Ledger :=
  let c := (slowReply.1.handle 0 (.ok (str "jwt"))).tick 865000
  (c.getAccessToken sampleOptions 1, slowReply.2.call 1 c.now)

/-- The late call is served the token, which has less than half a minute to live. -/
theorem cached_token_live_late_call :
    lateCall.1.hit 1 = some (str "jwt") ∧ ServedLive lateCall.2 0 1 (str "jwt") := by
  have hrun : TimedRun sampleOptions (Calls.init 0, .init) lateCall :=
    .tail (.tail (.tail (.tail (.tail (.tail .refl (.getAccessToken 0 ⟨rfl, rfl⟩)) (.tick 10000))
      (.reply rfl tokenReply 0 (.inr (by decide +kernel)))) (.handle rfl)) (.tick 865000))
      (.getAccessToken 1 ⟨rfl, rfl⟩)
  have hhit : lateCall.1.hit 1 = some (str "jwt") := by decide +kernel
  have hby : lateCall.1.trace.hitBy 1 = 0 := by decide +kernel
  exact ⟨hhit, hby ▸ (cached_token_live hrun).1 1 _ hhit⟩

end ServiceToken
end NestSdk
