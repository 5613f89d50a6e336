import Mathlib

/-!
# `Lib.SingleFlight` — one computation shared by everybody who wants it

Whoever wants the computation joins the one in flight, or begins one when none is. A computation settles with an
outcome; some time later it is *cleared*, which takes it out of flight, and only then are those who await it
answered. Computations are numbered in the order they begin.

* `Flight.Sound` — the one in flight is the only one begun and not cleared, and whoever was answered was
  answered with the outcome of the one they joined;
* `Flight.Step` / `Flight.Run` — any interleaving, and `Flight.Sound.run`, which is the invariant over it;
* `Flight.Tracks` — who has joined a computation stays with it.
-/

namespace NestSdk
namespace Lib

/-- How far one computation has got. -/
inductive Phase (O : Type)
  | unstarted
  | pending
  | settled (outcome : O)
  | cleared (outcome : O)

/-- Begun and not cleared. -/
def Phase.live {O : Type} : Phase O → Bool
  | .pending | .settled _ => true
  | .unstarted | .cleared _ => false

/-- Settled, and cleared or not. -/
def Phase.ended {O : Type} : Phase O → Bool
  | .settled _ | .cleared _ => true
  | .unstarted | .pending => false

/-- The phase a computation begins in: some settle as they begin. -/
def Phase.first {O : Type} : Option O → Phase O
  | none => .pending
  | some outcome => .settled outcome

/-- Somebody who joined a computation, and was answered or was not yet. -/
inductive Waiter (O : Type)
  | awaiting (n : Nat)
  | answered (n : Nat) (outcome : O)

/-- The computations begun so far, the one in flight, and everybody who joined one. -/
structure Flight (ι O : Type) where
  begun : Nat
  inFlight : Option Nat
  phase : Nat → Phase O
  waiter : ι → Option (Waiter O)

namespace Flight

variable {ι O : Type}

/-- Nothing was begun. -/
def init : Flight ι O := ⟨0, none, fun _ => .unstarted, fun _ => none⟩

variable [DecidableEq ι]

/-- `i` joins the computation in flight, or begins one. -/
def join (f : Flight ι O) (i : ι) (immediate : Option O) : Flight ι O :=
  match f.inFlight with
  | some n => { f with waiter := Function.update f.waiter i (some (.awaiting n)) }
  | none =>
      { begun := f.begun + 1
        inFlight := some f.begun
        phase := Function.update f.phase f.begun (.first immediate)
        waiter := Function.update f.waiter i (some (.awaiting f.begun)) }

/-- The computation `n` settles. -/
def settle (f : Flight ι O) (n : Nat) (outcome : O) : Flight ι O :=
  { f with phase := Function.update f.phase n (.settled outcome) }

/-- The computation `n` is taken out of flight. -/
def clear (f : Flight ι O) (n : Nat) (outcome : O) : Flight ι O :=
  { f with inFlight := none, phase := Function.update f.phase n (.cleared outcome) }

/-- `i` is answered. -/
def deliver (f : Flight ι O) (i : ι) (n : Nat) (outcome : O) : Flight ι O :=
  { f with waiter := Function.update f.waiter i (some (.answered n outcome)) }

/-- One step of any interleaving. -/
inductive Step : Flight ι O → Flight ι O → Prop
  | join {f : Flight ι O} (i : ι) (immediate : Option O) (hfree : f.waiter i = none) :
      Step f (f.join i immediate)
  | settle {f : Flight ι O} {n : Nat} (outcome : O) (hpending : f.phase n = .pending) :
      Step f (f.settle n outcome)
  | clear {f : Flight ι O} {n : Nat} {outcome : O} (hsettled : f.phase n = .settled outcome) :
      Step f (f.clear n outcome)
  | deliver {f : Flight ι O} {i : ι} {n : Nat} {outcome : O} (hawaiting : f.waiter i = some (.awaiting n))
      (hcleared : f.phase n = .cleared outcome) : Step f (f.deliver i n outcome)

abbrev Run : Flight ι O → Flight ι O → Prop := Relation.ReflTransGen Step

/-! ## The invariant -/

/-- **At most one computation is in flight, and answers are its outcomes.** -/
structure Sound (f : Flight ι O) : Prop where
  unstarted : ∀ n, f.phase n = .unstarted ↔ f.begun ≤ n
  current : ∀ n, (f.phase n).live = true ↔ f.inFlight = some n
  latest : ∀ n, f.inFlight = some n → f.begun = n + 1
  awaiting : ∀ i n, f.waiter i = some (.awaiting n) → n < f.begun
  answered : ∀ i n outcome, f.waiter i = some (.answered n outcome) → f.phase n = .cleared outcome

omit [DecidableEq ι] in
theorem Sound.init : (init : Flight ι O).Sound where
  unstarted n := iff_of_true rfl (Nat.zero_le n)
  current n := iff_of_false (by simp [Flight.init, Phase.live]) (by simp [Flight.init])
  latest n h := absurd h (by simp [Flight.init])
  awaiting i n h := absurd h (by simp [Flight.init])
  answered i n outcome h := absurd h (by simp [Flight.init])

theorem live_first (immediate : Option O) : (Phase.first immediate).live = true := by
  cases immediate with
  | none => rfl
  | some outcome => rfl

/-- A waiter after one of them changed: that one, or one as it was. -/
theorem update_waiter_cases {f : Flight ι O} {i j : ι} {x y : Waiter O}
    (h : Function.update f.waiter j (some y) i = some x) :
    (i = j ∧ y = x) ∨ (i ≠ j ∧ f.waiter i = some x) := by
  by_cases hj : i = j
  · subst hj
    rw [Function.update_self] at h
    exact .inl ⟨rfl, Option.some.inj h⟩
  · rw [Function.update_of_ne hj] at h
    exact .inr ⟨hj, h⟩

omit [DecidableEq ι] in
/-- A cleared computation is not touched by what happens to one that is not. -/
theorem cleared_update {f : Flight ι O} {m n : Nat} {phase : Phase O} {outcome : O}
    (hcleared : f.phase n = .cleared outcome) (hm : ∀ o, f.phase m ≠ .cleared o) :
    Function.update f.phase m phase n = .cleared outcome := by
  have hne : n ≠ m := by
    rintro rfl
    exact hm outcome hcleared
  rw [Function.update_of_ne hne, hcleared]

omit [DecidableEq ι] in
/-- The computations begun stay those below the count, when one that was begun goes on. -/
theorem Sound.unstarted_update {f : Flight ι O} (h : f.Sound) {n : Nat} {phase : Phase O}
    (hbegun : f.phase n ≠ .unstarted) (hphase : phase ≠ .unstarted) (m : Nat) :
    Function.update f.phase n phase m = .unstarted ↔ f.begun ≤ m := by
  by_cases hm : m = n
  · subst hm
    rw [Function.update_self]
    exact iff_of_false hphase fun hle => hbegun ((h.unstarted m).mpr hle)
  · rw [Function.update_of_ne hm]
    exact h.unstarted m

theorem Sound.join {f : Flight ι O} (h : f.Sound) (i : ι) (immediate : Option O) :
    (f.join i immediate).Sound := by
  unfold Flight.join
  cases hflight : f.inFlight with
  | some n =>
      have hbegun : n < f.begun := by
        have hlatest := h.latest n hflight
        omega
      refine ⟨h.unstarted, fun m => by rw [h.current m, hflight], ?_, ?_, ?_⟩
      · intro m hm
        exact h.latest m (hflight.trans hm)
      · intro j m hj
        obtain ⟨-, hm⟩ | ⟨-, hj⟩ := update_waiter_cases hj
        · injection hm with hm
          exact hm ▸ hbegun
        · exact h.awaiting j m hj
      · intro j m outcome hj
        obtain ⟨-, hm⟩ | ⟨-, hj⟩ := update_waiter_cases hj
        · exact absurd hm (by simp)
        · exact h.answered j m outcome hj
  | none =>
      -- nothing was in flight, so the new computation is the only live one
      have hdead : ∀ m, ¬ (f.phase m).live = true := by
        intro m hlive
        exact absurd ((h.current m).mp hlive) (by simp [hflight])
      refine ⟨?_, ?_, ?_, ?_, ?_⟩
      · intro m
        by_cases hm : m = f.begun
        · subst hm
          cases immediate <;> simp [Phase.first]
        · simp only [Function.update_of_ne hm, h.unstarted]
          omega
      · intro m
        by_cases hm : m = f.begun
        · subst hm
          simp [live_first]
        · simp only [Function.update_of_ne hm]
          exact iff_of_false (hdead m) (by simp [Ne.symm hm])
      · intro m hm
        obtain rfl := Option.some.inj hm
        rfl
      · intro j m hj
        obtain ⟨-, hm⟩ | ⟨-, hj⟩ := update_waiter_cases hj
        · injection hm with hm
          exact hm ▸ Nat.lt_succ_self _
        · exact Nat.lt_succ_of_lt (h.awaiting j m hj)
      · intro j m outcome hj
        obtain ⟨-, hm⟩ | ⟨-, hj⟩ := update_waiter_cases hj
        · exact absurd hm (by simp)
        · refine cleared_update (h.answered j m outcome hj) fun o => ?_
          rw [(h.unstarted f.begun).mpr le_rfl]
          simp

/-- **One step keeps it.** -/
theorem Sound.step {f f' : Flight ι O} (h : f.Sound) (hstep : Step f f') : f'.Sound := by
  cases hstep with
  | join i immediate hfree => exact h.join i immediate
  | @settle n outcome hpending =>
      refine ⟨h.unstarted_update (by simp [hpending]) (by simp), ?_, h.latest, h.awaiting, ?_⟩
      · -- a settled computation is in flight until it is cleared
        intro m
        by_cases hm : m = n
        · subst hm
          have hlive := h.current m
          rw [hpending] at hlive
          simpa [Flight.settle, Phase.live] using hlive
        · simp only [Flight.settle, Function.update_of_ne hm, h.current]
      · intro j m answer hj
        exact cleared_update (h.answered j m answer hj) (by simp [hpending])
  | @clear n outcome hsettled =>
      have hcurrent : f.inFlight = some n := (h.current n).mp (by rw [hsettled]; rfl)
      refine ⟨h.unstarted_update (by simp [hsettled]) (by simp), ?_,
        fun m hm => absurd hm (by simp [Flight.clear]), h.awaiting, ?_⟩
      · -- it was the only live one, so none is left
        intro m
        refine iff_of_false ?_ (by simp [Flight.clear])
        by_cases hm : m = n
        · subst hm
          simp [Flight.clear, Phase.live]
        · simp only [Flight.clear, Function.update_of_ne hm, h.current, hcurrent]
          exact fun heq => hm (Option.some.inj heq).symm
      · intro j m answer hj
        exact cleared_update (h.answered j m answer hj) (by simp [hsettled])
  | @deliver i n outcome hawaiting hcleared =>
      refine ⟨h.unstarted, h.current, h.latest, ?_, ?_⟩
      · intro j m hj
        obtain ⟨-, hm⟩ | ⟨-, hj⟩ := update_waiter_cases hj
        · exact absurd hm (by simp)
        · exact h.awaiting j m hj
      · intro j m answer hj
        obtain ⟨-, hm⟩ | ⟨-, hj⟩ := update_waiter_cases hj
        · injection hm with hm ho
          exact hm ▸ ho ▸ hcleared
        · exact h.answered j m answer hj

/-- **Every run keeps it,** by induction on the run. -/
theorem Sound.run {f f' : Flight ι O} (h : f.Sound) (hrun : Run f f') : f'.Sound := by
  induction hrun with
  | refl => exact h
  | tail _ hstep ih => exact ih.step hstep

/-! ## What it says -/

omit [DecidableEq ι] in
/-- No two computations are pending. -/
theorem Sound.pending_unique {f : Flight ι O} (h : f.Sound) {m n : Nat} (hm : f.phase m = .pending)
    (hn : f.phase n = .pending) : m = n := by
  have hflight := (h.current m).mp (by rw [hm]; rfl)
  exact Option.some.inj (hflight.symm.trans ((h.current n).mp (by rw [hn]; rfl)))

/-- Whoever joins while a computation is pending joins that one. -/
theorem Sound.join_pending {f : Flight ι O} (h : f.Sound) {n : Nat} (hpending : f.phase n = .pending) (i : ι)
    (immediate : Option O) : (f.join i immediate).waiter i = some (.awaiting n) := by
  have hflight := (h.current n).mp (by rw [hpending]; rfl)
  unfold Flight.join
  rw [hflight]
  exact Function.update_self ..

omit [DecidableEq ι] in
/-- Once the last computation begun is cleared, nothing is in flight. -/
theorem Sound.idle_of_cleared {f : Flight ι O} (h : f.Sound) {n : Nat} {outcome : O}
    (hlast : f.begun = n + 1) (hcleared : f.phase n = .cleared outcome) : f.inFlight = none := by
  cases hflight : f.inFlight with
  | none => rfl
  | some m =>
      have hlive := (h.current m).mpr hflight
      have hlatest := h.latest m hflight
      obtain rfl : m = n := by omega
      rw [hcleared] at hlive
      exact absurd hlive (by simp [Phase.live])

/-- A cleared computation stays as it is. -/
theorem Sound.cleared_step {f f' : Flight ι O} (h : f.Sound) (hstep : Step f f') {n : Nat} {outcome : O}
    (hcleared : f.phase n = .cleared outcome) : f'.phase n = .cleared outcome := by
  cases hstep with
  | join i immediate hfree =>
      unfold Flight.join
      cases f.inFlight with
      | some m => exact hcleared
      | none =>
          refine cleared_update hcleared fun o => ?_
          rw [(h.unstarted f.begun).mpr le_rfl]
          simp
  | settle outcome hpending => exact cleared_update hcleared (by simp [hpending])
  | clear hsettled => exact cleared_update hcleared (by simp [hsettled])
  | deliver hawaiting _ => exact hcleared

theorem Sound.cleared_run {f f' : Flight ι O} (h : f.Sound) (hrun : Run f f') {n : Nat} {outcome : O}
    (hcleared : f.phase n = .cleared outcome) : f'.phase n = .cleared outcome := by
  induction hrun with
  | refl => exact hcleared
  | tail hrun hstep ih => exact (h.run hrun).cleared_step hstep ih

omit [DecidableEq ι] in
theorem ended_update {f : Flight ι O} {m n : Nat} {phase : Phase O} (hended : (f.phase n).ended = true)
    (hphase : phase.ended = true) : (Function.update f.phase m phase n).ended = true := by
  by_cases hm : n = m
  · subst hm
    rw [Function.update_self]
    exact hphase
  · rw [Function.update_of_ne hm]
    exact hended

/-- A computation that has ended does not become pending again. -/
theorem Sound.ended_step {f f' : Flight ι O} (h : f.Sound) (hstep : Step f f') {n : Nat}
    (hended : (f.phase n).ended = true) : (f'.phase n).ended = true := by
  cases hstep with
  | join i immediate hfree =>
      unfold Flight.join
      cases f.inFlight with
      | some m => exact hended
      | none =>
          have hne : n ≠ f.begun := by
            rintro rfl
            rw [(h.unstarted f.begun).mpr le_rfl] at hended
            exact absurd hended (by simp [Phase.ended])
          show (Function.update f.phase f.begun _ n).ended = true
          rw [Function.update_of_ne hne]
          exact hended
  | settle outcome hpending => exact ended_update hended rfl
  | clear hsettled => exact ended_update hended rfl
  | deliver hawaiting _ => exact hended

/-- Whoever joins while nothing is in flight begins a computation of their own. -/
theorem join_idle {f : Flight ι O} (hidle : f.inFlight = none) (i : ι) (immediate : Option O) :
    (f.join i immediate).begun = f.begun + 1 ∧ (f.join i immediate).waiter i = some (.awaiting f.begun) ∧
      (f.join i immediate).phase f.begun = .first immediate := by
  unfold Flight.join
  rw [hidle]
  exact ⟨rfl, Function.update_self .., Function.update_self ..⟩

/-- `i` has joined the computation `n`. -/
def Tracks (f : Flight ι O) (i : ι) (n : Nat) : Prop :=
  f.waiter i = some (.awaiting n) ∨ ∃ outcome, f.waiter i = some (.answered n outcome)

/-- Who has joined one computation joins no other, and gets no other's answer. -/
theorem Tracks.step {f f' : Flight ι O} {i : ι} {n : Nat} (h : f.Tracks i n) (hstep : Step f f') :
    f'.Tracks i n := by
  cases hstep with
  | join j immediate hfree =>
      have hne : i ≠ j := by
        rintro rfl
        obtain h | ⟨outcome, h⟩ := h
        · exact absurd (h.symm.trans hfree) (by simp)
        · exact absurd (h.symm.trans hfree) (by simp)
      have hsame : (f.join j immediate).waiter i = f.waiter i := by
        unfold Flight.join
        cases f.inFlight with
        | some m => exact Function.update_of_ne hne ..
        | none => exact Function.update_of_ne hne ..
      unfold Tracks
      rw [hsame]
      exact h
  | settle outcome hpending => exact h
  | clear hsettled => exact h
  | @deliver j m outcome hawaiting hcleared =>
      by_cases hj : i = j
      · subst hj
        obtain h | ⟨answer, h⟩ := h
        · obtain rfl : m = n := by
            injection hawaiting.symm.trans h with hm
            injection hm
          exact .inr ⟨outcome, Function.update_self ..⟩
        · exact absurd (hawaiting.symm.trans h) (by simp)
      · unfold Tracks Flight.deliver
        simp only [Function.update_of_ne hj]
        exact h

theorem Tracks.run {f f' : Flight ι O} {i : ι} {n : Nat} (h : f.Tracks i n) (hrun : Run f f') :
    f'.Tracks i n := by
  induction hrun with
  | refl => exact h
  | tail _ hstep ih => exact ih.step hstep

end Flight

end Lib
end NestSdk
