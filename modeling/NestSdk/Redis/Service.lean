import NestSdk.Js.Text
import NestSdk.Lib.Throttle

/-!
# `Redis.Service` — the connection errors of `RedisService`

`logConnectionError` is called for every `error` event of the connection, with the clock as it is then. Of the
service the two counters of the log throttle are modelled, and the lines they let through. It is a
`Lib.Throttle` (`throttle_run`), which says that it hides volume and no fact.
-/

namespace NestSdk
namespace Redis

open Js Lib

def REDIS_ERROR_LOG_INTERVAL_MS : ℤ := 60000

/-- What is logged of a connection error. -/
structure ErrorLine where
  message : Str
  error : Str
  suppressedSinceLastLog : ℕ
deriving DecidableEq

structure RedisService where
  /-- Instant of the last logged connection error, for the log throttle. -/
  lastErrorLoggedAt : ℤ
  /-- Errors swallowed by the throttle since that line, reported with the next one. -/
  suppressedErrorCount : ℕ
deriving DecidableEq

/-- The service as it is constructed. -/
def RedisService.init : RedisService := ⟨0, 0⟩

/-- Logs at most one connection error per `REDIS_ERROR_LOG_INTERVAL_MS`. -/
def RedisService.logConnectionError (s : RedisService) (now : ℤ) (error : Str) :
    RedisService × Option ErrorLine :=
  if now - s.lastErrorLoggedAt < REDIS_ERROR_LOG_INTERVAL_MS then
    ({ s with suppressedErrorCount := s.suppressedErrorCount + 1 }, none)
  else
    ({ lastErrorLoggedAt := now, suppressedErrorCount := 0 },
      some
        { message := str "Redis connection error"
          error := error
          suppressedSinceLastLog := s.suppressedErrorCount })

/-! ## Runs -/

/-- An `error` event, with what `Date.now()` says then. -/
structure ConnectionError where
  now : ℤ
  error : Str

/-- A line of the log, with when it was written. -/
structure Logged where
  now : ℤ
  line : ErrorLine

/-- The service, and what it has logged, oldest first. -/
structure Logging where
  service : RedisService
  log : List Logged

def Logging.init : Logging := ⟨.init, []⟩

/-- One `error` event. -/
def Logging.see (p : Logging) (e : ConnectionError) : Logging where
  service := (p.service.logConnectionError e.now e.error).1
  log := p.log ++ ((p.service.logConnectionError e.now e.error).2.map (Logged.mk e.now)).toList

/-- One `error` event after another, on a new service. -/
def seen (errors : List ConnectionError) : Logging := errors.foldl Logging.see .init

theorem seen_concat (errors : List ConnectionError) (e : ConnectionError) :
    seen (errors ++ [e]) = (seen errors).see e :=
  List.foldl_concat _ _ _ _

/-! ## The throttle it is -/

/-- The throttle behind the service and its log. -/
def Logging.throttle (p : Logging) : Throttle ℤ :=
  ⟨p.service.lastErrorLoggedAt, p.service.suppressedErrorCount,
    p.log.map fun l => (l.now, l.line.suppressedSinceLastLog)⟩

theorem throttle_see (p : Logging) (e : ConnectionError) :
    (p.see e).throttle = p.throttle.offer REDIS_ERROR_LOG_INTERVAL_MS e.now := by
  by_cases hheld : e.now - p.service.lastErrorLoggedAt < REDIS_ERROR_LOG_INTERVAL_MS
  · rw [Throttle.offer_held hheld]
    unfold Logging.see RedisService.logConnectionError
    simp only [if_pos hheld, Option.map_none, Option.toList_none, List.append_nil]
    rfl
  · rw [Throttle.offer_passed hheld]
    unfold Logging.see RedisService.logConnectionError
    simp only [if_neg hheld, Option.map_some, Option.toList_some, Logging.throttle, List.map_append,
      List.map_singleton]

/-- **The service is a throttle,** by induction on the errors seen. -/
theorem throttle_seen (errors : List ConnectionError) :
    (seen errors).throttle
      = (⟨0, 0, []⟩ : Throttle ℤ).run REDIS_ERROR_LOG_INTERVAL_MS (errors.map ConnectionError.now) := by
  induction errors using List.reverseRecOn with
  | nil => rfl
  | append_singleton errors e ih =>
      rw [seen_concat, throttle_see, ih, List.map_append, List.map_singleton, Throttle.run_concat]

/-! ## What the log says -/

/-- **Any two lines are an interval apart.** -/
theorem log_apart (errors : List ConnectionError) :
    (seen errors).log.Pairwise fun l l' => REDIS_ERROR_LOG_INTERVAL_MS ≤ l'.now - l.now := by
  have hspaced : (seen errors).throttle.Spaced REDIS_ERROR_LOG_INTERVAL_MS := by
    rw [throttle_seen]
    apply Throttle.run_spaced (by decide)
    exact ⟨List.Pairwise.nil, fun _ hp => absurd hp List.not_mem_nil⟩
  exact List.pairwise_map.mp hspaced.apart

/-- **No error is lost:** it has a line, is counted in one, or will be counted in the next. -/
theorem log_total (errors : List ConnectionError) :
    errors.length = (seen errors).log.length
      + ((seen errors).log.map fun l => l.line.suppressedSinceLastLog).sum
      + (seen errors).service.suppressedErrorCount := by
  have htotal : ((⟨0, 0, []⟩ : Throttle ℤ).run REDIS_ERROR_LOG_INTERVAL_MS
      (errors.map ConnectionError.now)).total = (⟨0, 0, []⟩ : Throttle ℤ).total
        + (errors.map ConnectionError.now).length := Throttle.run_total
  rw [← throttle_seen, List.length_map] at htotal
  simp only [Throttle.total, Logging.throttle, List.length_map, List.map_map, List.length_nil, List.map_nil,
    List.sum_nil, Nat.zero_add] at htotal
  exact htotal.symm

/-- An error that adds no line came within the interval of the last one. -/
theorem within_of_unlogged {p : Logging} {e : ConnectionError} (h : (p.see e).log = p.log) :
    e.now - p.service.lastErrorLoggedAt < REDIS_ERROR_LOG_INTERVAL_MS := by
  by_contra hlate
  unfold Logging.see RedisService.logConnectionError at h
  rw [if_neg hlate] at h
  have hlength := congrArg List.length h
  simp at hlength

/-- **An unlogged error follows a line closely,** if the clock never goes back and the first error comes late
    enough to be logged. -/
theorem line_before_of_unlogged {errors : List ConnectionError} {e : ConnectionError}
    (hclock : (errors ++ [e]).Pairwise fun e e' => e.now ≤ e'.now)
    (hfirst : ∀ e' ∈ (errors ++ [e]).head?, REDIS_ERROR_LOG_INTERVAL_MS ≤ e'.now)
    (h : (seen (errors ++ [e])).log = (seen errors).log) :
    ∃ l ∈ (seen errors).log, l.now ≤ e.now ∧ e.now - l.now < REDIS_ERROR_LOG_INTERVAL_MS := by
  rw [seen_concat] at h
  have hwithin := within_of_unlogged h
  cases errors with
  | nil =>
      -- the first of all: it is late enough to be logged
      have hlate := hfirst e rfl
      have hzero : e.now - 0 < REDIS_ERROR_LOG_INTERVAL_MS := hwithin
      omega
  | cons first errors =>
      have hlate : REDIS_ERROR_LOG_INTERVAL_MS ≤ first.now - 0 := by
        rw [sub_zero]
        exact hfirst first rfl
      have hheld : e.now - (seen (first :: errors)).throttle.passedAt < REDIS_ERROR_LOG_INTERVAL_MS := hwithin
      rw [throttle_seen] at hheld
      obtain ⟨p, hp, hclose⟩ := Throttle.recent_of_held hlate hheld
      have hbefore : p.1 ∈ (first :: errors).map ConnectionError.now := by
        apply (Throttle.passed_mem hp).resolve_left
        exact List.not_mem_nil
      rw [← List.map_cons, ← throttle_seen] at hp
      obtain ⟨l, hl, rfl⟩ := List.mem_map.mp hp
      obtain ⟨e', he', hnow⟩ := List.mem_map.mp hbefore
      refine ⟨l, hl, ?_, hclose⟩
      show l.now ≤ e.now
      rw [← show e'.now = l.now from hnow]
      exact (List.pairwise_append.mp hclock).2.2 e' he' e (List.mem_singleton_self e)

/-- **The throttle hides volume, not facts.** For every finite sequence of connection errors at times that never
    go back, the first of them not before one interval: the lines are an interval apart, an unlogged error
    follows a line closely, and after every error the lines, what they say was suppressed and what is still to
    be said add up to the errors seen. -/
theorem hides_volume_not_facts {errors : List ConnectionError}
    (hclock : errors.Pairwise fun e e' => e.now ≤ e'.now)
    (hfirst : ∀ e ∈ errors.head?, REDIS_ERROR_LOG_INTERVAL_MS ≤ e.now) :
    ((seen errors).log.Pairwise fun l l' => REDIS_ERROR_LOG_INTERVAL_MS ≤ l'.now - l.now) ∧
    (∀ before e, before ++ [e] <+: errors → (seen (before ++ [e])).log = (seen before).log →
      ∃ l ∈ (seen before).log, l.now ≤ e.now ∧ e.now - l.now < REDIS_ERROR_LOG_INTERVAL_MS) ∧
    (∀ before, before <+: errors → before.length = (seen before).log.length
      + ((seen before).log.map fun l => l.line.suppressedSinceLastLog).sum
      + (seen before).service.suppressedErrorCount) := by
  refine ⟨log_apart errors, ?_, fun before _ => log_total before⟩
  rintro before e ⟨rest, rfl⟩ hunlogged
  apply line_before_of_unlogged (hclock.sublist (List.sublist_append_left _ _)) _ hunlogged
  intro e' he'
  apply hfirst
  cases before with
  | nil => exact he'
  | cons first before => exact he'

/-- Three errors in a minute and a half. -/
def flapping : List ConnectionError :=
  [⟨60000, str "ECONNREFUSED"⟩, ⟨61000, str "ETIMEDOUT"⟩, ⟨150000, str "ECONNREFUSED"⟩]

theorem hides_volume_not_facts_flapping :
    ((seen flapping).log.Pairwise fun l l' => REDIS_ERROR_LOG_INTERVAL_MS ≤ l'.now - l.now) ∧
    (∀ before e, before ++ [e] <+: flapping → (seen (before ++ [e])).log = (seen before).log →
      ∃ l ∈ (seen before).log, l.now ≤ e.now ∧ e.now - l.now < REDIS_ERROR_LOG_INTERVAL_MS) ∧
    (∀ before, before <+: flapping → before.length = (seen before).log.length
      + ((seen before).log.map fun l => l.line.suppressedSinceLastLog).sum
      + (seen before).service.suppressedErrorCount) := by
  apply hides_volume_not_facts
  · simp [flapping]
  · simp [flapping, REDIS_ERROR_LOG_INTERVAL_MS]

end Redis
end NestSdk
