import Mathlib

/-!
# `Lib.Tickets` — work handed out once and done once

Clients are handed batches of tickets and spend them one at a time. A batch is handed out only if none of its
tickets was spent or is held by anyone, and replaces whatever its client still held. Then no ticket is ever
spent twice (`Tickets.spent_nodup`), however the clients interleave and whichever of them stop.
-/

namespace NestSdk
namespace Lib

variable {ι κ : Type*} [DecidableEq ι]

/-- The tickets each client holds, and the tickets spent, newest first. -/
@[ext]
structure Tickets (ι κ : Type*) where
  held : ι → List κ
  spent : List κ

namespace Tickets

/-- Nothing handed out yet. -/
def init : Tickets ι κ := ⟨fun _ => [], []⟩

/-- A batch is handed out, or a client spends its next ticket. -/
inductive Step : Tickets ι κ → Tickets ι κ → Prop
  | issue {s : Tickets ι κ} (i : ι) {batch : List κ} (hnodup : batch.Nodup)
      (hspent : ∀ k ∈ batch, k ∉ s.spent) (hheld : ∀ k ∈ batch, ∀ j, k ∉ s.held j) :
      Step s ⟨Function.update s.held i batch, s.spent⟩
  | spend {s : Tickets ι κ} (i : ι) {k : κ} {rest : List κ} (hheld : s.held i = k :: rest) :
      Step s ⟨Function.update s.held i rest, k :: s.spent⟩

/-- Any number of steps. -/
abbrev Steps : Tickets ι κ → Tickets ι κ → Prop := Relation.ReflTransGen Step

/-- A ticket is spent by a client that held it. -/
theorem Step.spent_held {s s' : Tickets ι κ} (h : Step s s') {k : κ} (hk : k ∈ s'.spent) :
    k ∈ s.spent ∨ ∃ i, k ∈ s.held i := by
  cases h with
  | issue i _ _ _ => exact .inl hk
  | @spend i t rest hheld =>
      rcases List.mem_cons.mp hk with rfl | hk
      · exact .inr ⟨i, hheld ▸ List.mem_cons_self⟩
      · exact .inl hk

/-- The invariant: no ticket is in two places, or twice in one. -/
structure Sound (s : Tickets ι κ) : Prop where
  spent : s.spent.Nodup
  held : ∀ i, (s.held i).Nodup
  unspent : ∀ i, ∀ k ∈ s.held i, k ∉ s.spent
  apart : ∀ i j, i ≠ j → ∀ k ∈ s.held i, k ∉ s.held j

omit [DecidableEq ι] in
theorem sound_init : Sound (init : Tickets ι κ) where
  spent := List.nodup_nil
  held _ := List.nodup_nil
  unspent _ _ h := absurd h List.not_mem_nil
  apart _ _ _ _ h := absurd h List.not_mem_nil

/-- A client's hand after client `i`'s has changed. -/
theorem mem_update {held : ι → List κ} {i j : ι} {hand : List κ} {k : κ}
    (h : k ∈ Function.update held i hand j) : (j = i ∧ k ∈ hand) ∨ (j ≠ i ∧ k ∈ held j) := by
  by_cases hj : j = i
  · subst hj
    rw [Function.update_self] at h
    exact .inl ⟨rfl, h⟩
  · rw [Function.update_of_ne hj] at h
    exact .inr ⟨hj, h⟩

theorem nodup_update {held : ι → List κ} {i : ι} {hand : List κ} (h : ∀ j, (held j).Nodup)
    (hhand : hand.Nodup) (j : ι) : (Function.update held i hand j).Nodup := by
  by_cases hj : j = i
  · subst hj
    rwa [Function.update_self]
  · rw [Function.update_of_ne hj]
    exact h j

/-- **One step keeps the invariant.** -/
theorem Step.sound {s s' : Tickets ι κ} (h : Step s s') (hs : Sound s) : Sound s' := by
  cases h with
  | @issue i batch hnodup hspent hheld =>
      refine ⟨hs.spent, nodup_update hs.held hnodup, ?_, ?_⟩
      · intro j k hk
        rcases mem_update hk with ⟨-, hnew⟩ | ⟨-, hold⟩
        · exact hspent k hnew
        · exact hs.unspent j k hold
      · intro j j' hne k hk hk'
        rcases mem_update hk with ⟨hj, hnew⟩ | ⟨-, hold⟩ <;>
          rcases mem_update hk' with ⟨hj', hnew'⟩ | ⟨-, hold'⟩
        · exact hne (hj.trans hj'.symm)
        · exact hheld k hnew j' hold'
        · exact hheld k hnew' j hold
        · exact hs.apart j j' hne k hold hold'
  | @spend i t rest hheld =>
      have hhand := hs.held i
      rw [hheld, List.nodup_cons] at hhand
      have hmem : t ∈ s.held i := hheld ▸ List.mem_cons_self
      have hrest : ∀ k ∈ rest, k ∈ s.held i := fun k hk => hheld ▸ List.mem_cons_of_mem t hk
      refine ⟨List.nodup_cons.mpr ⟨hs.unspent i t hmem, hs.spent⟩, nodup_update hs.held hhand.2,
        ?_, ?_⟩
      · intro j k hk hspent
        rcases mem_update hk with ⟨-, hnew⟩ | ⟨hj, hold⟩ <;>
          rcases List.mem_cons.mp hspent with heq | hspent
        · exact hhand.1 (heq ▸ hnew)
        · exact hs.unspent i k (hrest k hnew) hspent
        · exact hs.apart i j (Ne.symm hj) t hmem (heq ▸ hold)
        · exact hs.unspent j k hold hspent
      · intro j j' hne k hk hk'
        rcases mem_update hk with ⟨hj, hnew⟩ | ⟨hj, hold⟩ <;>
          rcases mem_update hk' with ⟨hj', hnew'⟩ | ⟨hj', hold'⟩
        · exact hne (hj.trans hj'.symm)
        · exact hs.apart i j' (Ne.symm hj') k (hrest k hnew) hold'
        · exact hs.apart i j (Ne.symm hj) k (hrest k hnew') hold
        · exact hs.apart j j' hne k hold hold'

/-- **No ticket is spent twice,** by induction on the run. -/
theorem spent_nodup {s : Tickets ι κ} (h : Steps init s) : s.spent.Nodup := by
  have hsound : Sound s := by
    induction h with
    | refl => exact sound_init
    | tail _ hstep ih => exact hstep.sound ih
  exact hsound.spent

end Tickets
end Lib
end NestSdk
