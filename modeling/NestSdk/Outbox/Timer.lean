import NestSdk.Outbox.Processor

/-!
# `Outbox.Timer` — the interval of `OutboxProcessor`

`start` and `stop` over the one field that remembers an interval and the intervals the runtime has armed. `start`
overwrites the field without looking at it, so an interval it held stays armed and out of reach of `stop`.
-/

namespace NestSdk
namespace Outbox

open Js Lib

/-- What `setInterval` hands out. -/
structure Interval where
  id : Nat
  pollIntervalMs : Time
deriving DecidableEq, Repr

/-- The processor's `timer`, the intervals that tick, and how many were ever created. -/
structure Timers where
  timer : Option Interval
  armed : List Interval
  created : Nat
deriving DecidableEq, Repr

/-- A processor that was never started. -/
def Timers.init : Timers := ⟨none, [], 0⟩

/-- Arms the poll, unless this service has the processor switched off. -/
def Timers.start (t : Timers) (config : OutboxProcessorConfig) : Timers :=
  if !config.isEnabled then t
  else
    let interval : Interval := ⟨t.created, config.pollIntervalMs⟩
    ⟨some interval, interval :: t.armed, t.created + 1⟩

/-- Clears the interval the processor knows of. -/
def Timers.stop (t : Timers) : Timers :=
  match t.timer with
  | some interval => ⟨none, t.armed.erase interval, t.created⟩
  | none => t

/-- A call, with the config it reads. -/
inductive TimerCall
  | start (config : OutboxProcessorConfig)
  | stop
deriving DecidableEq, Repr

def Timers.call (t : Timers) : TimerCall → Timers
  | .start config => t.start config
  | .stop => t.stop

/-- The processor after a sequence of calls. -/
def timers (calls : List TimerCall) : Timers := calls.foldl Timers.call .init

/-- **Stopping stops polling:** at every moment of the sequence at most one interval is armed, and after a `stop`
    none is. -/
def StopsPolling (calls : List TimerCall) : Prop :=
  ∀ past, past <+: calls → (timers past).armed.length ≤ 1 ∧
    (past.getLast? = some .stop → (timers past).armed = [])

/-- Some call arms an interval while the processor still holds one. -/
def Restarts (calls : List TimerCall) : Prop :=
  ∃ past config, past ++ [.start config] <+: calls ∧ config.isEnabled = true ∧ (timers past).timer.isSome = true

theorem timers_append (past : List TimerCall) (call : TimerCall) :
    timers (past ++ [call]) = (timers past).call call := by
  simp [timers]

theorem start_of_enabled {t : Timers} {config : OutboxProcessorConfig} (h : config.isEnabled = true) :
    t.start config = ⟨some ⟨t.created, config.pollIntervalMs⟩, ⟨t.created, config.pollIntervalMs⟩ :: t.armed,
      t.created + 1⟩ := by
  simp [Timers.start, h]

theorem start_of_disabled {t : Timers} {config : OutboxProcessorConfig} (h : config.isEnabled = false) :
    t.start config = t := by
  simp [Timers.start, h]

theorem timer_stop (t : Timers) : t.stop.timer = none := by
  unfold Timers.stop
  split
  · rfl
  · next hnone => exact hnone

/-- The interval the processor holds is armed. -/
theorem timer_armed (calls : List TimerCall) :
    ∀ interval, (timers calls).timer = some interval → interval ∈ (timers calls).armed := by
  induction calls using List.reverseRecOn with
  | nil => simp [timers, Timers.init]
  | append_singleton past call ih =>
      rw [timers_append]
      cases call with
      | start config =>
          cases henabled : config.isEnabled with
          | false =>
              rw [Timers.call, start_of_disabled henabled]
              exact ih
          | true =>
              rw [Timers.call, start_of_enabled henabled]
              intro interval hinterval
              obtain rfl := Option.some.inj hinterval
              exact List.mem_cons_self
      | stop =>
          intro interval hinterval
          exact absurd ((timer_stop _).symm.trans hinterval) (by simp)

theorem Restarts.mono {past calls : List TimerCall} (h : Restarts past) (hpast : past <+: calls) :
    Restarts calls := by
  obtain ⟨earlier, config, hearlier, henabled, hheld⟩ := h
  exact ⟨earlier, config, hearlier.trans hpast, henabled, hheld⟩

/-- **Without a restart the processor holds whatever is armed,** by induction on the calls. -/
theorem armed_of_not_restarts {calls : List TimerCall} (h : ¬ Restarts calls) :
    (timers calls).armed = (timers calls).timer.toList := by
  induction calls using List.reverseRecOn with
  | nil => rfl
  | append_singleton past call ih =>
      have hpast := ih fun hrestarts => h (hrestarts.mono (List.prefix_append past [call]))
      rw [timers_append]
      cases call with
      | start config =>
          cases henabled : config.isEnabled with
          | false =>
              rw [Timers.call, start_of_disabled henabled]
              exact hpast
          | true =>
              -- nothing is held, or this start would be a restart
              have hnone : (timers past).timer = none := by
                cases hheld : (timers past).timer with
                | none => rfl
                | some interval =>
                    exact absurd ⟨past, config, List.prefix_refl _, henabled, by simp [hheld]⟩ h
              rw [Timers.call, start_of_enabled henabled, hpast, hnone]
              rfl
      | stop =>
          rw [Timers.call]
          unfold Timers.stop
          cases hheld : (timers past).timer with
          | none => rw [hpast, hheld]
          | some interval => simp [hpast, hheld]

/-- **Stopping stops polling exactly when no enabled `start` finds an interval still held.** -/
theorem stopsPolling_iff (calls : List TimerCall) : StopsPolling calls ↔ ¬ Restarts calls := by
  constructor
  · rintro h ⟨past, config, hpast, henabled, hheld⟩
    obtain ⟨interval, hinterval⟩ := Option.isSome_iff_exists.mp hheld
    -- the interval held is still armed, and the new one beside it
    have hlength := (h _ hpast).1
    rw [timers_append, Timers.call, start_of_enabled henabled, List.length_cons] at hlength
    have hpos := List.length_pos_of_mem (timer_armed past interval hinterval)
    omega
  · intro h past hpast
    have harmed := armed_of_not_restarts fun hrestarts => h (hrestarts.mono hpast)
    refine ⟨?_, ?_⟩
    · rw [harmed]
      cases (timers past).timer <;> simp
    · intro hlast
      obtain ⟨earlier, rfl⟩ := List.getLast?_eq_some_iff.mp hlast
      rw [harmed, timers_append, Timers.call, timer_stop]
      rfl

/-- Started twice and stopped: the first interval ticks on. -/
theorem restarted_keeps_polling :
    ¬ StopsPolling [.start ⟨true, 1000, 10, 100, 1, 10, 1000⟩, .start ⟨true, 1000, 10, 100, 1, 10, 1000⟩,
      .stop] := by
  intro h
  have harmed := (h _ (List.prefix_refl _)).2 rfl
  exact absurd harmed (by decide)

end Outbox
end NestSdk
