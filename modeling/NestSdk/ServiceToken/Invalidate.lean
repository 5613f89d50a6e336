import NestSdk.ServiceToken.SingleFlight

/-!
# `ServiceToken.Invalidate` — which tokens survive `invalidate`

`invalidate` empties the cache and nothing else: an exchange already in flight is joined by later calls and writes
the cache when it ends. Everything a run remembers of exchanges and calls is counted in `invalidate` calls, so a
call that starts after an `invalidate` and gets a token requested before it is a call with `started` above the
exchange's `sent`. Where nothing is in flight when `invalidate` is called there is no such call.
-/

namespace NestSdk
namespace ServiceToken

open Js Lib

/-- The call resolved with a token that the exchange `n` fetched. -/
inductive ResolvedBy (c : Calls) (call n : Nat) : Prop
  | exchange {accessToken : Str} (h : c.service.flight.waiter call = some (.answered n (.ok accessToken)))
  | cache {accessToken : Str} (h : c.hit call = some accessToken) (hby : c.trace.hitBy call = n)

/-- **Invalidation takes effect:** every `invalidate` that had returned when a call started had returned before
    the request was sent that fetched its token. -/
def InvalidationHolds (c : Calls) : Prop :=
  ∀ call n, ResolvedBy c call n → c.trace.started call ≤ c.trace.sent n

/-- No exchange is in flight. -/
def Quiet (s : ServiceTokenService) : Prop := s.flight.inFlight = none

/-- What holds of a run that invalidates only when no exchange is in flight: the exchange in flight and the one
    that wrote the cache are newer than every `invalidate`, and every call is older than its exchange. -/
structure Timely (c : Calls) : Prop where
  sound : c.service.flight.Sound
  flying : ∀ n, c.service.flight.inFlight = some n → c.trace.sent n = c.trace.invalidations
  cached : c.service.cached ≠ none → c.trace.cachedBy < c.service.flight.begun ∧
    c.trace.sent c.trace.cachedBy = c.trace.invalidations
  joined : ∀ call n, c.service.flight.Tracks call n → c.trace.started call ≤ c.trace.sent n
  hit : ∀ call, c.hit call ≠ none → c.trace.hitBy call < c.service.flight.begun ∧
    c.trace.started call ≤ c.trace.sent (c.trace.hitBy call)

variable {options : ServiceTokenModuleOptions}

theorem Timely.init (now : ℚ) : Timely (Calls.init now) where
  sound := Flight.Sound.init
  flying n h := absurd h (by simp [Calls.init, Flight.init])
  cached h := absurd rfl h
  joined call n h := by
    obtain h | ⟨outcome, h⟩ := h
    · exact absurd h (by simp [Calls.init, Flight.init])
    · exact absurd h (by simp [Calls.init, Flight.init])
  hit call h := absurd rfl h

/-- A timely run's calls get no token from before an `invalidate`. -/
theorem Timely.invalidationHolds {c : Calls} (h : Timely c) : InvalidationHolds c := by
  intro call n hresolved
  cases hresolved with
  | exchange hanswered => exact h.joined call n (.inr ⟨_, hanswered⟩)
  | cache hhit hby => exact hby ▸ (h.hit call (by simp [hhit])).2

/-- Whoever tracks an exchange tracks one that was begun. -/
theorem Timely.begun_of_tracks {c : Calls} (h : Timely c) {call n : Nat}
    (htracks : c.service.flight.Tracks call n) : n < c.service.flight.begun := by
  obtain hawaiting | ⟨outcome, hanswered⟩ := htracks
  · exact h.sound.awaiting call n hawaiting
  · by_contra hge
    have hcleared := h.sound.answered call n outcome hanswered
    rw [(h.sound.unstarted n).mpr (Nat.not_lt.mp hge)] at hcleared
    exact absurd hcleared (by simp)

/-! ## One call -/

section Call

variable {c : Calls} {call : Nat}

/-- Who tracks what after a call has joined: that call the exchange it joined, everybody else what they did. -/
theorem tracks_update {f f' : Flight Nat Outcome} {joined : Nat}
    (hwaiter : f'.waiter = Function.update f.waiter call (some (.awaiting joined))) {j m : Nat}
    (h : f'.Tracks j m) : (j = call ∧ m = joined) ∨ (j ≠ call ∧ f.Tracks j m) := by
  unfold Flight.Tracks at h ⊢
  rw [hwaiter] at h
  obtain h | ⟨outcome, h⟩ := h
  · obtain ⟨rfl, hm⟩ | ⟨hj, hsame⟩ := Flight.update_waiter_cases h
    · injection hm with hm
      exact .inl ⟨rfl, hm.symm⟩
    · exact .inr ⟨hj, .inl hsame⟩
  · obtain ⟨rfl, hm⟩ | ⟨hj, hsame⟩ := Flight.update_waiter_cases h
    · exact absurd hm (by simp)
    · exact .inr ⟨hj, .inr ⟨outcome, hsame⟩⟩

/-- A call answered from the cache is older than the exchange that wrote the cache. -/
theorem Timely.hits (h : Timely c) {accessToken : Str} (hfree : c.Free call)
    (hhit : c.service.cacheHit options c.now = some accessToken) :
    Timely (c.getAccessToken options call) := by
  have hcached : c.service.cached ≠ none := by
    intro hnone
    simp [ServiceTokenService.cacheHit, hnone] at hhit
  -- the exchange that wrote what is read here is newer than every `invalidate`
  obtain ⟨hbegun, hsent⟩ := h.cached hcached
  rw [getAccessToken_of_hit hhit]
  refine ⟨h.sound, h.flying, h.cached, ?_, ?_⟩
  · intro j n htracks
    have hj : j ≠ call := by
      rintro rfl
      -- a call answered from the cache joins no exchange
      obtain htracks | ⟨outcome, htracks⟩ := htracks
      · exact absurd (htracks.symm.trans hfree.1) (by simp)
      · exact absurd (htracks.symm.trans hfree.1) (by simp)
    simp only [Function.update_of_ne hj]
    exact h.joined j n htracks
  · intro j hj
    by_cases heq : j = call
    · subst heq
      simp only [Function.update_self]
      exact ⟨hbegun, hsent.ge⟩
    · simp only [Function.update_of_ne heq] at hj ⊢
      exact h.hit j hj

/-- A call that joins the exchange in flight is older than no `invalidate` that followed its request. -/
theorem Timely.joins (h : Timely c) {n : Nat} (hfree : c.Free call) (hmiss : c.Misses options)
    (hflight : c.service.flight.inFlight = some n) : Timely (c.getAccessToken options call) := by
  have hsound := h.sound.join call (ServiceTokenService.immediate options)
  rw [getAccessToken_of_miss hmiss]
  simp only [Flight.join, hflight] at hsound ⊢
  refine ⟨hsound, fun m hm => h.flying m (hflight.trans hm), h.cached, ?_, ?_⟩
  · intro j m htracks
    obtain ⟨rfl, rfl⟩ | ⟨hj, htracks⟩ := tracks_update rfl htracks
    · simp only [Function.update_self]
      exact (h.flying m hflight).ge
    · simp only [Function.update_of_ne hj]
      exact h.joined j m htracks
  · intro j hj
    have hne : j ≠ call := by
      rintro rfl
      exact hj hfree.2
    simp only [Function.update_of_ne hne]
    exact h.hit j hj

/-- A call that begins an exchange starts together with it; what was sent before stays as it was. -/
theorem Timely.begins (h : Timely c) (hfree : c.Free call) (hmiss : c.Misses options)
    (hflight : c.service.flight.inFlight = none) : Timely (c.getAccessToken options call) := by
  have hsound := h.sound.join call (ServiceTokenService.immediate options)
  have hsent : ∀ n < c.service.flight.begun,
      Function.update c.trace.sent c.service.flight.begun c.trace.invalidations n = c.trace.sent n :=
    fun n hn => Function.update_of_ne hn.ne ..
  rw [getAccessToken_of_miss hmiss]
  simp only [Flight.join, hflight] at hsound ⊢
  refine ⟨hsound, ?_, ?_, ?_, ?_⟩
  · intro n hn
    obtain rfl := Option.some.inj hn
    exact Function.update_self ..
  · -- the exchange that wrote the cache is not the one begun here
    intro hcached
    obtain ⟨hbegun, hwrote⟩ := h.cached hcached
    exact ⟨Nat.lt_succ_of_lt hbegun, (hsent _ hbegun).trans hwrote⟩
  · intro j m htracks
    obtain ⟨rfl, rfl⟩ | ⟨hj, htracks⟩ := tracks_update rfl htracks
    · simp only [Function.update_self]
      exact le_rfl
    · simp only [Function.update_of_ne hj, hsent m (h.begun_of_tracks htracks)]
      exact h.joined j m htracks
  · intro j hj
    have hne : j ≠ call := by
      rintro rfl
      exact hj hfree.2
    obtain ⟨hbegun, hle⟩ := h.hit j hj
    simp only [Function.update_of_ne hne, hsent _ hbegun]
    exact ⟨Nat.lt_succ_of_lt hbegun, hle⟩

end Call

/-! ## One step -/

/-- `fetchToken` writes the cache when it succeeds, and only then. -/
theorem fetchTokenAfter_cached (s : ServiceTokenService) (now : ℚ) (r : Reply) :
    (s.fetchTokenAfter now r).2.isOk = true ∨
      ((s.fetchTokenAfter now r).2.isOk = false ∧ (s.fetchTokenAfter now r).1.cached = s.cached) := by
  cases r with
  | error error => exact .inr ⟨rfl, rfl⟩
  | ok response =>
      simp only [ServiceTokenService.fetchTokenAfter]
      split
      · exact .inr ⟨rfl, rfl⟩
      · cases narrowToken response.data with
        | error exception => exact .inr ⟨rfl, rfl⟩
        | ok token => exact .inl rfl

/-- The exchange that ends is the one in flight, so what it writes is newer than every `invalidate`. -/
theorem Timely.reply {c : Calls} (h : Timely c) {n : Nat} (hpending : c.service.flight.phase n = .pending)
    (r : Reply) : Timely (c.reply n r) := by
  have hflight := (h.sound.current n).mp (by rw [hpending]; rfl)
  refine ⟨h.sound.step (.settle _ hpending), h.flying, ?_, h.joined, h.hit⟩
  intro hcached
  obtain hok | ⟨hfailed, hsame⟩ := fetchTokenAfter_cached c.service c.now r
  · simp only [Calls.reply, hok, if_true]
    have hbegun : n < c.service.flight.begun := by
      rw [h.sound.latest n hflight]
      exact Nat.lt_succ_self n
    exact ⟨hbegun, h.flying n hflight⟩
  · simp only [Calls.reply, hfailed]
    exact h.cached (hsame ▸ hcached)

/-- **One step keeps a run timely,** as long as nothing is in flight when `invalidate` is called. -/
theorem Timely.step {c c' : Calls} (h : Timely c) (hstep : Step options Quiet c c') : Timely c' := by
  cases hstep with
  | getAccessToken call hfree =>
      cases hcache : c.service.cacheHit options c.now with
      | some accessToken => exact h.hits hfree hcache
      | none =>
          cases hflight : c.service.flight.inFlight with
          | some n => exact h.joins hfree hcache hflight
          | none => exact h.begins hfree hcache hflight
  | invalidate hquiet =>
      -- the cache is empty now and nothing is in flight, so no later call gets an older token
      refine ⟨h.sound, ?_, fun hcached => absurd rfl hcached, h.joined, h.hit⟩
      intro n hn
      exact absurd (hquiet.symm.trans hn) (by simp)
  | reply hpending r => exact h.reply hpending r
  | handle hsettled =>
      exact ⟨h.sound.step (.clear hsettled), fun _ hn => absurd hn (by simp [Calls.handle, Flight.clear]),
        h.cached, h.joined, h.hit⟩
  | @answer call n outcome hawaiting hcleared =>
      refine ⟨h.sound.step (.deliver hawaiting hcleared), h.flying, h.cached, ?_, h.hit⟩
      intro j m htracks
      -- the call is answered by the exchange it awaited
      have hbefore : c.service.flight.Tracks j m := by
        obtain htracks | ⟨outcome', htracks⟩ := htracks
        · obtain ⟨-, hm⟩ | ⟨-, hsame⟩ := Flight.update_waiter_cases htracks
          · exact absurd hm (by simp)
          · exact .inl hsame
        · obtain ⟨rfl, hm⟩ | ⟨-, hsame⟩ := Flight.update_waiter_cases htracks
          · injection hm with hm
            exact .inl (hm ▸ hawaiting)
          · exact .inr ⟨outcome', hsame⟩
      exact h.joined j m hbefore
  | tick ms => exact ⟨h.sound, h.flying, h.cached, h.joined, h.hit⟩

/-- **Invalidation takes effect in every run that invalidates only while no exchange is in flight.** -/
theorem invalidation_holds {now : ℚ} {c : Calls} (h : Run options Quiet (Calls.init now) c) :
    InvalidationHolds c := by
  have htimely : Timely c := by
    induction h with
    | refl => exact .init now
    | tail _ hstep ih => exact ih.step hstep
  exact htimely.invalidationHolds

/-! ## Worked runs -/

/-- A reply with a token that lives for 900 seconds. -/
def tokenReply : Reply := .ok
  { status := 200
    data := .object [(str "accessToken", .string (str "jwt")), (str "expiresInSeconds", .number 900)] }

/-- Two calls, `invalidate` between them while the exchange of the first is outstanding. -/
def invalidatedCalls : Calls := firstCall.invalidate.getAccessToken sampleOptions 1

/-- The exchange ends, and the second call is answered. -/
def staleCalls : Calls :=
  ((invalidatedCalls.reply 0 tokenReply).handle 0 (.ok (str "jwt"))).answer 1 0 (.ok (str "jwt"))

/-- The second call started after `invalidate` had returned, and resolved with the token requested before. -/
theorem invalidate_misses_flight :
    Run sampleOptions AnyTime (Calls.init 0) staleCalls ∧ ResolvedBy staleCalls 1 0 ∧
      staleCalls.trace.started 1 = 1 ∧ staleCalls.trace.sent 0 = 0 ∧ ¬ InvalidationHolds staleCalls := by
  have hrun : Run sampleOptions AnyTime (Calls.init 0) staleCalls := by
    refine .tail (.tail (.tail (.tail (.tail (.tail .refl (.getAccessToken 0 ⟨rfl, rfl⟩))
      (.invalidate trivial)) (.getAccessToken 1 ⟨rfl, rfl⟩)) (.reply rfl tokenReply)) (.handle rfl))
      (.answer rfl rfl)
  have hresolved : ResolvedBy staleCalls 1 0 := .exchange rfl
  refine ⟨hrun, hresolved, rfl, rfl, ?_⟩
  intro h
  exact absurd (h 1 0 hresolved) (by decide)

/-- A reply with the token identity issues next. -/
def rotatedReply : Reply := .ok
  { status := 200
    data := .object [(str "accessToken", .string (str "jwt2")), (str "expiresInSeconds", .number 900)] }

/-- Two calls and their exchanges, `invalidate` between them. -/
def rotatedCalls : Calls :=
  (((((((firstCall.reply 0 tokenReply).handle 0 (.ok (str "jwt"))).invalidate).getAccessToken sampleOptions 1).reply 1
    rotatedReply).handle 1 (.ok (str "jwt2"))).answer 1 1 (.ok (str "jwt2")))

/-- Between two exchanges `invalidate` takes effect: the second call resolves with a token requested after it. -/
theorem invalidation_holds_between :
    ResolvedBy rotatedCalls 1 1 ∧ rotatedCalls.trace.started 1 = 1 ∧ InvalidationHolds rotatedCalls := by
  have hrun : Run sampleOptions Quiet (Calls.init 0) rotatedCalls :=
    .tail (.tail (.tail (.tail (.tail (.tail (.tail (.tail .refl (.getAccessToken 0 ⟨rfl, rfl⟩))
      (.reply rfl tokenReply)) (.handle rfl)) (.invalidate rfl)) (.getAccessToken 1 ⟨rfl, rfl⟩))
      (.reply rfl rotatedReply)) (.handle rfl)) (.answer rfl rfl)
  exact ⟨.exchange rfl, rfl, invalidation_holds hrun⟩

end ServiceToken
end NestSdk
