import Mathlib.Data.List.Basic

/-!
# `Lib.Unwinding` — what one party sees of a run is what it would see alone

Many parties take the steps of one system, in any order. What a step reads and answers is part of the step. A relation
that the steps of the others keep, and that the party's own steps can follow (`Unwinding`), carries over whole runs:
with the steps of the others taken out, the rest is still a run, step for step the same (`Trace.alone`).
-/

namespace NestSdk
namespace Lib

variable {σ ε υ : Type} {Step : σ → ε → σ → Prop} {s s' s'' : σ} {e : ε} {es fs : List ε}

/-- The steps of a run, in order. -/
inductive Trace (Step : σ → ε → σ → Prop) : σ → List ε → σ → Prop
  | nil (s : σ) : Trace Step s [] s
  | cons {s s' s'' : σ} {e : ε} {es : List ε} (hstep : Step s e s') (hrest : Trace Step s' es s'') :
      Trace Step s (e :: es) s''

theorem trace_nil : Trace Step s [] s' ↔ s' = s := by
  constructor
  · rintro ⟨⟩
    rfl
  · rintro rfl
    exact .nil s'

theorem trace_cons : Trace Step s (e :: es) s'' ↔ ∃ s', Step s e s' ∧ Trace Step s' es s'' := by
  constructor
  · rintro ⟨⟩
    next s' hstep hrest => exact ⟨s', hstep, hrest⟩
  · rintro ⟨s', hstep, hrest⟩
    exact .cons hstep hrest

theorem trace_append : Trace Step s (es ++ fs) s'' ↔ ∃ s', Trace Step s es s' ∧ Trace Step s' fs s'' := by
  induction es generalizing s with
  | nil => simp [trace_nil]
  | cons e es ih =>
      rw [List.cons_append, trace_cons]
      constructor
      · rintro ⟨t, hstep, hrest⟩
        obtain ⟨s', hes, hfs⟩ := ih.mp hrest
        exact ⟨s', .cons hstep hes, hfs⟩
      · rintro ⟨s', hes, hfs⟩
        obtain ⟨t, hstep, hrest⟩ := trace_cons.mp hes
        exact ⟨t, hstep, ih.mpr ⟨s', hrest, hfs⟩⟩

/-- What holds at first and is kept by every step, of the states and of the steps taken so far, holds at the end. -/
theorem Trace.keeps {I : List ε → σ → Prop} (hrun : Trace Step s es s') (hinit : I [] s)
    (hstep : ∀ before e after t t', es = before ++ e :: after → I before t → Step t e t' → I (before ++ [e]) t') :
    I es s' := by
  suffices hall : ∀ before after t, es = before ++ after → I before t → Trace Step t after s' → I es s' from
    hall [] es s rfl hinit hrun
  intro before after
  induction after generalizing before with
  | nil =>
      intro t hes ht hrest
      obtain rfl := trace_nil.mp hrest
      rw [hes, List.append_nil]
      exact ht
  | cons e after ih =>
      intro t hes ht hrest
      obtain ⟨t', htake, hrest⟩ := trace_cons.mp hrest
      apply ih (before ++ [e]) t'
      · rw [hes, List.append_assoc]
        rfl
      · exact hstep before e after t t' hes ht htake
      · exact hrest

/-- A relation between the system and one party's own system: the others keep it, and the party can follow itself.
    `Ok` is what is known of the steps taken. -/
structure Unwinding (Step : σ → ε → σ → Prop) (Ok : ε → Prop) (party : ε → υ) (u : υ) (Like : σ → σ → Prop) :
    Prop where
  others : ∀ {s s' t e}, Step s e s' → Ok e → party e ≠ u → Like s t → Like s' t
  own : ∀ {s s' t e}, Step s e s' → Ok e → party e = u → Like s t → ∃ t', Step t e t' ∧ Like s' t'

/-- **The others can be left out.** -/
theorem Trace.alone [DecidableEq υ] {Ok : ε → Prop} {party : ε → υ} {u : υ} {Like : σ → σ → Prop}
    (h : Unwinding Step Ok party u Like) (hrun : Trace Step s es s') (hok : ∀ e ∈ es, Ok e) {t : σ}
    (hlike : Like s t) : ∃ t', Trace Step t (es.filter fun e => party e = u) t' ∧ Like s' t' := by
  induction hrun generalizing t with
  | nil s => exact ⟨t, .nil t, hlike⟩
  | @cons s s' s'' e es hstep _ ih =>
      have he : Ok e := hok e List.mem_cons_self
      have hes : ∀ f ∈ es, Ok f := fun f hf => hok f (List.mem_cons_of_mem e hf)
      by_cases hparty : party e = u
      · obtain ⟨t', htake, hlike'⟩ := h.own hstep he hparty hlike
        obtain ⟨t'', hrest, hlike''⟩ := ih hes hlike'
        have hkept : (e :: es).filter (fun e => party e = u) = e :: es.filter fun e => party e = u :=
          List.filter_cons_of_pos (by simpa using hparty)
        rw [hkept]
        exact ⟨t'', .cons htake hrest, hlike''⟩
      · rw [List.filter_cons_of_neg (by simpa using hparty)]
        exact ih hes (h.others hstep he hparty hlike)

end Lib
end NestSdk
