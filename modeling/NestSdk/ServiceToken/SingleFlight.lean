import NestSdk.ServiceToken.Service

/-!
# `ServiceToken.SingleFlight` — one exchange, shared by every concurrent caller

What a run does to the service's exchanges is a run of `Lib.SingleFlight` (`flight_run`), so its invariant is the
service's. On the service's side it remains to show that a call that finds no token in the cache joins the flight,
and that an exchange that was joined can always be brought to its end.
-/

namespace NestSdk
namespace ServiceToken

open Js Lib

/-- **The call settles with the outcome of the exchange `n`:** it awaits that one or was answered by it, with
    the exchange's own outcome; and whatever identity replies, some run answers it. -/
structure SettlesWith (options : ServiceTokenModuleOptions) (Invalidates : ServiceTokenService → Prop)
    (c : Calls) (call n : Nat) : Prop where
  tracks : c.service.flight.Tracks call n
  own : ∀ m outcome, c.service.flight.waiter call = some (.answered m outcome) →
    m = n ∧ c.service.flight.phase n = .cleared outcome
  settles : ∀ r : Reply, ∃ c' outcome, Run options Invalidates c c' ∧
    c'.service.flight.waiter call = some (.answered n outcome) ∧
    (c.service.flight.phase n = .pending → outcome = (c.service.fetchTokenAfter c.now r).2)

variable {options : ServiceTokenModuleOptions} {Invalidates : ServiceTokenService → Prop}

/-! ## The service refines a single flight -/

theorem flight_getAccessToken {c : Calls} (hmiss : c.Misses options) (call : Nat) :
    (c.getAccessToken options call).service.flight
      = c.service.flight.join call (ServiceTokenService.immediate options) := by
  rw [getAccessToken_of_miss hmiss]

/-- **A step of the service is a step of a single flight, or none at all.** -/
theorem flight_step {c c' : Calls} (hstep : Step options Invalidates c c') :
    c'.service.flight = c.service.flight ∨ Flight.Step c.service.flight c'.service.flight := by
  cases hstep with
  | getAccessToken call hfree =>
      cases hcache : c.service.cacheHit options c.now with
      | some accessToken =>
          rw [getAccessToken_of_hit hcache]
          exact .inl rfl
      | none =>
          rw [flight_getAccessToken hcache]
          exact .inr (.join call _ hfree.1)
  | invalidate _ | tick _ => exact .inl rfl
  | reply hpending r => exact .inr (.settle _ hpending)
  | handle hsettled => exact .inr (.clear hsettled)
  | answer hawaiting hcleared => exact .inr (.deliver hawaiting hcleared)

theorem flight_run {c c' : Calls} (h : Run options Invalidates c c') :
    Flight.Run c.service.flight c'.service.flight := by
  induction h with
  | refl => exact .refl
  | tail _ hstep ih =>
      obtain hsame | hflight := flight_step hstep
      · rw [hsame]
        exact ih
      · exact ih.tail hflight

theorem sound_of_run {now : ℚ} {c : Calls} (h : Run options Invalidates (Calls.init now) c) :
    c.service.flight.Sound := Flight.Sound.init.run (flight_run h)

/-! ## Every exchange comes to its end -/

/-- The `finally` handler runs, and a call is answered. -/
theorem answered_of_settled {c : Calls} {call n : Nat} {outcome : Outcome}
    (hawaiting : c.service.flight.waiter call = some (.awaiting n))
    (hsettled : c.service.flight.phase n = .settled outcome) :
    ∃ c', Run options Invalidates c c' ∧
      c'.service.flight.waiter call = some (.answered n outcome) := by
  have hcleared : (c.handle n outcome).service.flight.phase n = .cleared outcome := Function.update_self ..
  exact ⟨(c.handle n outcome).answer call n outcome,
    .tail (.single (.handle hsettled)) (.answer hawaiting hcleared), Function.update_self ..⟩

/-- **A call that awaits an exchange can be answered,** whatever identity replies. -/
theorem exists_answered {c : Calls} (hsound : c.service.flight.Sound) {call n : Nat}
    (hawaiting : c.service.flight.waiter call = some (.awaiting n)) (r : Reply) :
    ∃ c' outcome, Run options Invalidates c c' ∧
      c'.service.flight.waiter call = some (.answered n outcome) ∧
      (c.service.flight.phase n = .pending → outcome = (c.service.fetchTokenAfter c.now r).2) := by
  cases hphase : c.service.flight.phase n with
  | unstarted =>
      -- nobody awaits an exchange that was not begun
      have hbegun := hsound.awaiting call n hawaiting
      have hge := (hsound.unstarted n).mp hphase
      omega
  | pending =>
      have hsettled : (c.reply n r).service.flight.phase n
          = .settled (c.service.fetchTokenAfter c.now r).2 := Function.update_self ..
      obtain ⟨c', hrun, hanswered⟩ := answered_of_settled (c := c.reply n r) hawaiting hsettled
      exact ⟨c', _, .head (.reply hphase r) hrun, hanswered, fun _ => rfl⟩
  | settled outcome =>
      obtain ⟨c', hrun, hanswered⟩ := answered_of_settled hawaiting hphase
      exact ⟨c', outcome, hrun, hanswered, fun h => absurd h (by simp)⟩
  | cleared outcome =>
      exact ⟨c.answer call n outcome, outcome, .single (.answer hawaiting hphase), Function.update_self ..,
        fun h => absurd h (by simp)⟩

/-- **Who has joined an exchange settles with it.** -/
theorem settlesWith_of_tracks {now : ℚ} {c : Calls} (h : Run options Invalidates (Calls.init now) c)
    {call n : Nat} (htracks : c.service.flight.Tracks call n) :
    SettlesWith options Invalidates c call n := by
  have hsound := sound_of_run h
  refine ⟨htracks, ?_, ?_⟩
  · intro m outcome hanswered
    -- one answer at most: the waiter holds one value
    obtain hawaiting | ⟨outcome', hanswered'⟩ := htracks
    · exact absurd (hawaiting.symm.trans hanswered) (by simp)
    · injection hanswered'.symm.trans hanswered with heq
      injection heq with hn ho
      exact ⟨hn.symm, hsound.answered call n outcome (hn ▸ hanswered)⟩
  · intro r
    obtain hawaiting | ⟨outcome, hanswered⟩ := htracks
    · exact exists_answered hsound hawaiting r
    · refine ⟨c, outcome, .refl, hanswered, ?_⟩
      intro hpending
      exact absurd (hpending.symm.trans (hsound.answered call n outcome hanswered)) (by simp)

/-- **Single flight.** In every run: at most one exchange is outstanding; a call that misses the cache while one
    is outstanding settles with that one's outcome; and once an exchange has settled and its `finally` handler has
    run, the next call that misses the cache begins another, and settles with the outcome of that one. -/
theorem single_flight {now : ℚ} {c : Calls} (h : Run options Invalidates (Calls.init now) c) :
    (∀ m n, c.service.flight.phase m = .pending → c.service.flight.phase n = .pending → m = n) ∧
    (∀ n call, c.service.flight.phase n = .pending → c.Misses options → c.Free call →
      ∀ c', Run options Invalidates (c.getAccessToken options call) c' →
        SettlesWith options Invalidates c' call n) ∧
    (∀ n outcome, c.service.flight.phase n = .settled outcome →
      ∀ c', Run options Invalidates (c.handle n outcome) c' →
        c'.service.flight.begun = c.service.flight.begun →
        ∀ call, c'.Misses options → c'.Free call →
          (c'.getAccessToken options call).service.flight.begun = n + 2 ∧
          (c'.getAccessToken options call).service.flight.phase (n + 1)
            = .first (ServiceTokenService.immediate options) ∧
          ∀ c'', Run options Invalidates (c'.getAccessToken options call) c'' →
            SettlesWith options Invalidates c'' call (n + 1)) := by
  have hsound := sound_of_run h
  refine ⟨fun m n hm hn => hsound.pending_unique hm hn, ?_, ?_⟩
  · intro n call hpending hmiss hfree c' hrun
    have hjoined : (c.getAccessToken options call).service.flight.Tracks call n := by
      rw [flight_getAccessToken hmiss]
      exact .inl (hsound.join_pending hpending call _)
    exact settlesWith_of_tracks ((h.tail (.getAccessToken call hfree)).trans hrun)
      (hjoined.run (flight_run hrun))
  · intro n outcome hsettled c' hrun hnext call hmiss hfree
    have hhandled := h.tail (.handle hsettled)
    have hreached := hhandled.trans hrun
    -- the exchange was the last one begun, and still is
    have hlast : c'.service.flight.begun = n + 1 :=
      hnext.trans (hsound.latest n ((hsound.current n).mp (by rw [hsettled]; rfl)))
    have hcleared : c'.service.flight.phase n = .cleared outcome :=
      (sound_of_run hhandled).cleared_run (flight_run hrun) (Function.update_self ..)
    obtain ⟨hbegun, hwaiter, hphase⟩ := Flight.join_idle
      ((sound_of_run hreached).idle_of_cleared hlast hcleared) call
      (ServiceTokenService.immediate options)
    rw [hlast] at hbegun hwaiter hphase
    rw [flight_getAccessToken hmiss]
    refine ⟨hbegun, hphase, ?_⟩
    intro c'' hrun'
    have hjoined : (c'.getAccessToken options call).service.flight.Tracks call (n + 1) := by
      rw [flight_getAccessToken hmiss]
      exact .inl hwaiter
    exact settlesWith_of_tracks ((hreached.tail (.getAccessToken call hfree)).trans hrun')
      (hjoined.run (flight_run hrun'))

/-- A service with a credential. -/
def sampleOptions : ServiceTokenModuleOptions where
  identityApiUrl := some (str "http://identity/")
  identityApiKey := some (str "ik")
  timeoutMs := 5000
  refreshSkewSeconds := 30

/-- One call has begun an exchange. -/
def firstCall : Calls := (Calls.init 0).getAccessToken sampleOptions 0

/-- A second call shares it. -/
theorem single_flight_second_call :
    SettlesWith sampleOptions AnyTime (firstCall.getAccessToken sampleOptions 1) 1 0 := by
  have hrun : Run sampleOptions AnyTime (Calls.init 0) firstCall :=
    .single (.getAccessToken 0 ⟨rfl, rfl⟩)
  exact (single_flight hrun).2.1 0 1 rfl rfl ⟨rfl, rfl⟩ _ .refl

end ServiceToken
end NestSdk
