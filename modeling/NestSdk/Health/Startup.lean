import NestSdk.Js.Caught

/-!
# `Health.Startup` — the startup probe

`HealthController.startup` reads its latch, awaits the startup checks and then sets the latch, so calls that
began before the latch was set are still running their checks when it is. A call is modelled by the code it
runs on each side of its `await`: `startup` up to it, `startupAfter` from it on. `Step` is any interleaving of
any number of calls, and `answers` what they were answered, newest first.
-/

namespace NestSdk
namespace Health

open Js

inductive CheckStatus
  | up
  | down
deriving DecidableEq, Repr

/-- Per-dependency outcome reported by the probes. -/
structure HealthCheckResult where
  name : Str
  status : CheckStatus
  error : Option Str
deriving DecidableEq, Repr

inductive StartupStatus
  | started
  | starting
deriving DecidableEq, Repr

structure StartupResponse where
  status : StartupStatus
  checks : List HealthCheckResult
deriving DecidableEq, Repr

/-- The body of a 200, or that of the `ServiceUnavailableException` thrown instead. -/
abbrev StartupAnswer := Except StartupResponse StartupResponse

/-- How each of a list of checks ended: resolved, or rejected. -/
abbrev CheckOutcomes := List (Except Caught Unit)

/-- The controller. Its startup checks are known by name; how they end is up to each run of them. -/
structure HealthController where
  startupChecks : List Str
  started : Bool
  startupResults : List HealthCheckResult

def runOne (name : Str) : Except Caught Unit → HealthCheckResult
  | .ok () => ⟨name, .up, none⟩
  | .error error => ⟨name, .down, some (error.messageOr (str "unknown failure"))⟩

/-- `Promise.all` answers in the order of the checks. -/
def run (checks : List Str) (outcomes : CheckOutcomes) : List HealthCheckResult :=
  List.zipWith runOne checks outcomes

def allUp (checks : List HealthCheckResult) : Bool := checks.all fun result => result.status = .up

/-- `startup()` up to its `await`: the answer of a call that finds the latch set. -/
def HealthController.startup (c : HealthController) : Option StartupAnswer :=
  if c.started then some (.ok ⟨.started, c.startupResults⟩) else none

/-- `startup()` from its `await` on. -/
def HealthController.startupAfter (c : HealthController) (outcomes : CheckOutcomes) :
    HealthController × StartupAnswer :=
  let checks := run c.startupChecks outcomes
  if !allUp checks then (c, .error ⟨.starting, checks⟩)
  else ({ c with started := true, startupResults := checks }, .ok ⟨.started, checks⟩)

/-! ## Overlapping calls -/

/-- One controller with the calls that are running their checks, and what was answered, newest first. -/
structure Probe where
  controller : HealthController
  running : Nat → Bool
  answers : List StartupAnswer

/-- A controller no call was made to. -/
def Probe.init (startupChecks : List Str) : Probe := ⟨⟨startupChecks, false, []⟩, fun _ => false, []⟩

/-- A call begins, and is answered at once or left running its checks; or the checks of a running call are
    through. `Ends` says how they may end. -/
inductive Step (Ends : HealthController → CheckOutcomes → Prop) : Probe → Probe → Prop
  | answered {p : Probe} {answer : StartupAnswer} (hlatched : p.controller.startup = some answer) :
      Step Ends p { p with answers := answer :: p.answers }
  | began {p : Probe} (call : Nat) (hfree : p.running call = false)
      (hawaits : p.controller.startup = none) :
      Step Ends p { p with running := Function.update p.running call true }
  | checked {p : Probe} (call : Nat) (hrunning : p.running call = true) (outcomes : CheckOutcomes)
      (hlength : outcomes.length = p.controller.startupChecks.length)
      (hends : Ends p.controller outcomes) :
      Step Ends p ⟨(p.controller.startupAfter outcomes).1, Function.update p.running call false,
        (p.controller.startupAfter outcomes).2 :: p.answers⟩

abbrev Run (Ends : HealthController → CheckOutcomes → Prop) : Probe → Probe → Prop :=
  Relation.ReflTransGen (Step Ends)

/-- Checks may end in any way. -/
def AnyEnd : HealthController → CheckOutcomes → Prop := fun _ _ => True

/-- Once the latch is set, no call that was still running its checks has one of them fail. -/
def NoLateFailure (c : HealthController) (outcomes : CheckOutcomes) : Prop :=
  c.started = true → allUp (run c.startupChecks outcomes) = true

/-- The call was answered that boot is complete. -/
def SaysStarted (answer : StartupAnswer) : Prop := ∃ response, answer = .ok response

/-- **The probe latches:** every answer after one that says started says so too. -/
def Latches (answers : List StartupAnswer) : Prop :=
  answers.Pairwise fun newer older => SaysStarted older → SaysStarted newer

/-! ## What a call does -/

/-- What a call finds at its end: a failed check, and nothing changes; or none, and the latch is set. -/
theorem startupAfter_cases (c : HealthController) (outcomes : CheckOutcomes) :
    (allUp (run c.startupChecks outcomes) = false ∧ (c.startupAfter outcomes).1 = c ∧
      ¬ SaysStarted (c.startupAfter outcomes).2) ∨
    (allUp (run c.startupChecks outcomes) = true ∧ (c.startupAfter outcomes).1.started = true ∧
      SaysStarted (c.startupAfter outcomes).2) := by
  cases hup : allUp (run c.startupChecks outcomes) with
  | false =>
      refine .inl ⟨rfl, ?_, ?_⟩
      · simp [HealthController.startupAfter, hup]
      · simp [HealthController.startupAfter, hup, SaysStarted]
  | true =>
      refine .inr ⟨rfl, ?_, ?_⟩
      · simp [HealthController.startupAfter, hup]
      · simp [HealthController.startupAfter, hup, SaysStarted]

/-- Only a set latch answers a call at once. -/
theorem startup_eq_some {c : HealthController} {answer : StartupAnswer} (h : c.startup = some answer) :
    c.started = true ∧ SaysStarted answer := by
  unfold HealthController.startup at h
  by_cases hstarted : c.started = true
  · rw [if_pos hstarted] at h
    exact ⟨hstarted, _, (Option.some.inj h).symm⟩
  · rw [if_neg hstarted] at h
    exact absurd h (by simp)

/-! ## Over a run -/

/-- The latch is set exactly when some call was answered that boot is complete. -/
def LatchTold (p : Probe) : Prop :=
  p.controller.started = true ↔ ∃ answer ∈ p.answers, SaysStarted answer

theorem LatchTold.step {Ends : HealthController → CheckOutcomes → Prop} {p p' : Probe}
    (h : LatchTold p) (hstep : Step Ends p p') : LatchTold p' := by
  unfold LatchTold at h ⊢
  cases hstep with
  | answered hlatched =>
      obtain ⟨hstarted, hsays⟩ := startup_eq_some hlatched
      exact iff_of_true hstarted ⟨_, List.mem_cons_self, hsays⟩
  | began _ _ _ => exact h
  | checked call hrunning outcomes _ _ =>
      -- a failed check leaves the latch as it was and tells nobody that boot is complete
      obtain ⟨-, hsame, hnot⟩ | ⟨-, hstarted, hsays⟩ := startupAfter_cases p.controller outcomes
      · rw [hsame, h]
        constructor
        · rintro ⟨answer, hmem, hsays⟩
          exact ⟨answer, List.mem_cons_of_mem _ hmem, hsays⟩
        · rintro ⟨answer, hmem, hsays⟩
          obtain rfl | hmem := List.mem_cons.mp hmem
          · exact absurd hsays hnot
          · exact ⟨answer, hmem, hsays⟩
      · exact iff_of_true hstarted ⟨_, List.mem_cons_self, hsays⟩

/-- **Setting the latch is telling somebody,** however the checks end. -/
theorem latchTold_of_run {Ends : HealthController → CheckOutcomes → Prop} {startupChecks : List Str}
    {p : Probe} (h : Run Ends (Probe.init startupChecks) p) : LatchTold p := by
  induction h with
  | refl => simp [LatchTold, Probe.init]
  | tail _ hstep ih => exact ih.step hstep

/-- **One step keeps the answers latched,** as long as it is no late failure. -/
theorem latches_step {p p' : Probe} (htold : LatchTold p) (h : Latches p.answers)
    (hstep : Step NoLateFailure p p') : Latches p'.answers := by
  cases hstep with
  | answered hlatched =>
      obtain ⟨-, hsays⟩ := startup_eq_some hlatched
      exact List.pairwise_cons.mpr ⟨fun _ _ _ => hsays, h⟩
  | began _ _ _ => exact h
  | checked call hrunning outcomes _ hends =>
      refine List.pairwise_cons.mpr ⟨?_, h⟩
      intro older hmem holder
      obtain ⟨hdown, -, -⟩ | ⟨-, -, hsays⟩ := startupAfter_cases p.controller outcomes
      · -- somebody was told started, so the latch was set and this failure is a late one
        have hup := hends (htold.mpr ⟨older, hmem, holder⟩)
        exact absurd (hdown.symm.trans hup) (by simp)
      · exact hsays

/-- **A late failure breaks the latch:** it is answered that the process is still booting, after somebody was
    told that it has booted. -/
theorem not_latches_of_lateFailure {p : Probe} {outcomes : CheckOutcomes} (htold : LatchTold p)
    (hlate : ¬ NoLateFailure p.controller outcomes) :
    ¬ Latches ((p.controller.startupAfter outcomes).2 :: p.answers) := by
  intro h
  obtain ⟨hstarted, hdown⟩ : p.controller.started = true ∧
      allUp (run p.controller.startupChecks outcomes) ≠ true := Classical.not_imp.mp hlate
  obtain ⟨older, hmem, holder⟩ := htold.mp hstarted
  have hsays := (List.pairwise_cons.mp h).1 older hmem holder
  obtain ⟨-, -, hnot⟩ | ⟨hup, -, -⟩ := startupAfter_cases p.controller outcomes
  · exact hnot hsays
  · exact hdown hup

/-- **The startup probe latches in every run without a late failure.** -/
theorem startup_latches {startupChecks : List Str} {p : Probe}
    (h : Run NoLateFailure (Probe.init startupChecks) p) : Latches p.answers := by
  induction h with
  | refl => exact List.Pairwise.nil
  | tail hrun hstep ih => exact latches_step (latchTold_of_run hrun) ih hstep

/-- A call whose check passes after another one has latched: both say started. -/
theorem startup_latches_overlapping :
    ∃ p : Probe, p.answers = [.ok ⟨.started, [⟨str "database", .up, none⟩]⟩,
      .ok ⟨.started, [⟨str "database", .up, none⟩]⟩] ∧ Latches p.answers := by
  obtain ⟨p, hrun, hanswers⟩ : ∃ p : Probe, Run NoLateFailure (Probe.init [str "database"]) p ∧
      p.answers = [.ok ⟨.started, [⟨str "database", .up, none⟩]⟩,
        .ok ⟨.started, [⟨str "database", .up, none⟩]⟩] :=
    ⟨_, .tail (.tail (.tail (.tail .refl (.began 0 rfl rfl)) (.began 1 rfl rfl))
      (.checked 0 rfl [.ok ()] rfl (fun _ => rfl))) (.checked 1 rfl [.ok ()] rfl (fun _ => rfl)), rfl⟩
  exact ⟨p, hanswers, startup_latches hrun⟩

/-- Two calls overlap: the second is told that boot is complete, then the first, which began before it, that
    boot is not. -/
theorem overlapping_startup_unlatches :
    ∃ p, Run AnyEnd (Probe.init [str "database"]) p ∧
      p.answers = [.error ⟨.starting, [⟨str "database", .down, some (str "refused")⟩]⟩,
        .ok ⟨.started, [⟨str "database", .up, none⟩]⟩] ∧ ¬ Latches p.answers := by
  obtain ⟨p, hrun, hanswers⟩ : ∃ p : Probe, Run AnyEnd (Probe.init [str "database"]) p ∧
      p.answers = [.error ⟨.starting, [⟨str "database", .down, some (str "refused")⟩]⟩,
        .ok ⟨.started, [⟨str "database", .up, none⟩]⟩] :=
    ⟨_, .tail (.tail (.tail (.tail .refl (.began 0 rfl rfl)) (.began 1 rfl rfl))
      (.checked 1 rfl [.ok ()] rfl trivial)) (.checked 0 rfl [.error (.error (str "refused"))] rfl trivial),
      rfl⟩
  refine ⟨p, hrun, hanswers, ?_⟩
  rw [hanswers]
  intro h
  obtain ⟨response, hsays⟩ := (List.pairwise_cons.mp h).1 _ List.mem_cons_self ⟨_, rfl⟩
  exact absurd hsays (by simp)

end Health
end NestSdk
