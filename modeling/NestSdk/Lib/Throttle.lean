import Mathlib

/-!
# `Lib.Throttle` — one event let through per interval

A throttle lets an event through if enough time has passed since the last one it let through, together with how
many it held back since, and holds it back otherwise. Events come at times of any ordered group.

* `run_total` — every event is let through or counted, whatever the clock does;
* `run_spaced` — the events let through are an interval apart;
* `recent_of_held` — an event is only held back soon after one that was let through.
-/

namespace NestSdk
namespace Lib

/-- When the last event was let through, how many were held back since, and the events let through, oldest
    first, each with how many were held back before it. -/
structure Throttle (T : Type*) where
  passedAt : T
  held : ℕ
  passed : List (T × ℕ)

namespace Throttle

variable {T : Type*} [AddCommGroup T] [LinearOrder T]

/-- One event. -/
def offer (interval : T) (t : Throttle T) (now : T) : Throttle T :=
  if now - t.passedAt < interval then { t with held := t.held + 1 }
  else ⟨now, 0, t.passed ++ [(now, t.held)]⟩

/-- One event after another. -/
def run (interval : T) (t : Throttle T) (times : List T) : Throttle T := times.foldl (offer interval) t

variable {interval now : T} {t : Throttle T} {times : List T}

theorem offer_held (h : now - t.passedAt < interval) : t.offer interval now = { t with held := t.held + 1 } :=
  if_pos h

theorem offer_passed (h : ¬ now - t.passedAt < interval) :
    t.offer interval now = ⟨now, 0, t.passed ++ [(now, t.held)]⟩ :=
  if_neg h

@[simp] theorem run_nil : t.run interval [] = t := rfl

@[simp] theorem run_cons : t.run interval (now :: times) = (t.offer interval now).run interval times := rfl

theorem run_concat : t.run interval (times ++ [now]) = (t.run interval times).offer interval now :=
  List.foldl_concat _ _ _ _

/-- What every event preserves, any number of events do. -/
theorem run_of_offer {P : Throttle T → Prop} (hoffer : ∀ t now, P t → P (t.offer interval now)) (h : P t) :
    P (t.run interval times) := by
  induction times generalizing t with
  | nil => exact h
  | cons now times ih =>
      apply ih
      exact hoffer t now h

/-! ### Nothing is lost -/

/-- All events so far, let through or held back. -/
def total (t : Throttle T) : ℕ := t.passed.length + (t.passed.map Prod.snd).sum + t.held

theorem offer_total : (t.offer interval now).total = t.total + 1 := by
  unfold offer
  split
  · rfl
  · simp only [total, List.length_append, List.map_append, List.sum_append, List.length_singleton,
      List.map_singleton, List.sum_singleton]
    omega

/-- **Every event is let through or counted.** -/
theorem run_total : (t.run interval times).total = t.total + times.length := by
  induction times generalizing t with
  | nil => rfl
  | cons now times ih =>
      rw [run_cons, ih, offer_total, List.length_cons]
      omega

/-! ### What is let through is apart -/

/-- The events let through are an interval apart, and none is later than the last. -/
structure Spaced (interval : T) (t : Throttle T) : Prop where
  apart : t.passed.Pairwise fun p q => interval ≤ q.1 - p.1
  last : ∀ p ∈ t.passed, p.1 ≤ t.passedAt

theorem Spaced.offer [IsOrderedAddMonoid T] (hinterval : 0 ≤ interval) (now : T) (h : t.Spaced interval) :
    (t.offer interval now).Spaced interval := by
  by_cases hheld : now - t.passedAt < interval
  · rw [offer_held hheld]
    exact ⟨h.apart, h.last⟩
  · rw [offer_passed hheld]
    have hlater : t.passedAt ≤ now := sub_nonneg.mp (hinterval.trans (not_lt.mp hheld))
    constructor
    · apply List.pairwise_append.mpr
      refine ⟨h.apart, List.pairwise_singleton _ _, ?_⟩
      intro p hp q hq
      obtain rfl := List.mem_singleton.mp hq
      show interval ≤ now - p.1
      calc interval ≤ now - t.passedAt := not_lt.mp hheld
        _ ≤ now - p.1 := sub_le_sub_left (h.last p hp) now
    · intro p hp
      show p.1 ≤ now
      rcases List.mem_append.mp hp with hp | hp
      · exact (h.last p hp).trans hlater
      · obtain rfl := List.mem_singleton.mp hp
        rfl

/-- **The events let through are an interval apart.** -/
theorem run_spaced [IsOrderedAddMonoid T] (hinterval : 0 ≤ interval) (h : t.Spaced interval) :
    (t.run interval times).Spaced interval :=
  run_of_offer (fun _ now ht => ht.offer hinterval now) h

/-! ### What is held back comes soon after -/

/-- The last event let through is among them, or there was none yet. -/
def Recorded (start : T) (t : Throttle T) : Prop :=
  (t.passed = [] ∧ t.passedAt = start) ∨ ∃ p ∈ t.passed, p.1 = t.passedAt

theorem Recorded.offer {start : T} (now : T) (h : t.Recorded start) : (t.offer interval now).Recorded start := by
  by_cases hheld : now - t.passedAt < interval
  · rw [offer_held hheld]
    exact h
  · rw [offer_passed hheld]
    right
    exact ⟨(now, t.held), List.mem_append_right _ (List.mem_singleton_self _), rfl⟩

/-- Once an event was let through, there is one. -/
theorem passed_ne_nil_of_offer (h : t.passed ≠ []) : (t.offer interval now).passed ≠ [] := by
  by_cases hheld : now - t.passedAt < interval
  · rw [offer_held hheld]
    exact h
  · rw [offer_passed hheld]
    exact List.append_ne_nil_of_right_ne_nil _ (List.cons_ne_nil _ _)

/-- The last event let through came at one of the times. -/
theorem passed_mem {p : T × ℕ} (h : p ∈ (t.run interval times).passed) : p ∈ t.passed ∨ p.1 ∈ times := by
  induction times generalizing t with
  | nil => exact .inl h
  | cons now times ih =>
      rcases ih h with hp | hp
      · by_cases hheld : now - t.passedAt < interval
        · rw [offer_held hheld] at hp
          exact .inl hp
        · rw [offer_passed hheld] at hp
          rcases List.mem_append.mp hp with hp | hp
          · exact .inl hp
          · obtain rfl := List.mem_singleton.mp hp
            exact .inr List.mem_cons_self
      · exact .inr (List.mem_cons_of_mem _ hp)

/-- **An event is held back only soon after one that was let through,** if the first of all came late enough to
    be let through itself. -/
theorem recent_of_held {start first : T} (hfirst : interval ≤ first - start)
    (hheld : now - ((⟨start, 0, []⟩ : Throttle T).run interval (first :: times)).passedAt < interval) :
    ∃ p ∈ ((⟨start, 0, []⟩ : Throttle T).run interval (first :: times)).passed, now - p.1 < interval := by
  have hrecorded : ((⟨start, 0, []⟩ : Throttle T).run interval (first :: times)).Recorded start :=
    run_of_offer (fun _ now ht => ht.offer now) (.inl ⟨rfl, rfl⟩)
  have hpassed : ((⟨start, 0, []⟩ : Throttle T).run interval (first :: times)).passed ≠ [] := by
    rw [run_cons]
    apply run_of_offer (P := fun t => t.passed ≠ []) (fun _ _ => passed_ne_nil_of_offer)
    rw [offer_passed (not_lt.mpr hfirst)]
    exact List.cons_ne_nil _ _
  rcases hrecorded with ⟨hnone, -⟩ | ⟨p, hp, htime⟩
  · exact absurd hnone hpassed
  · exact ⟨p, hp, htime ▸ hheld⟩

end Throttle

end Lib
end NestSdk
