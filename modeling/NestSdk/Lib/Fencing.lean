import Mathlib

/-!
# `Lib.Fencing` — fencing tokens

A resource may be acquired again and again, each time under a token never used before, and it carries the
token of its latest acquisition until that acquisition is **settled**. Whoever settles presents a token; the
attempt succeeds only if the resource still carries it. This is the protocol that keeps a stalled owner
harmless: `settle_newest` says a success belongs to the latest acquisition and is its first, and
`settled_nodup` that no acquisition is ever settled twice, whatever stale tokens are still in circulation.

Nothing is said about what the resource is; a client shows that its own steps project to `Step`s.
-/

namespace NestSdk
namespace Lib

variable {τ : Type*}

/-- What fencing is about: the tokens acquisitions used and settlements succeeded with (newest first), and
    the token the resource carries now. -/
structure Fence (τ : Type*) where
  issued : List τ
  holder : Option τ
  settled : List τ

namespace Fence

/-- A resource nobody has acquired. -/
def init : Fence τ := ⟨[], none, []⟩

/-- One acquisition or one successful settlement. A refused settlement changes nothing, so it is no step. -/
inductive Step : Fence τ → Fence τ → Prop
  | acquire {f : Fence τ} {t : τ} (hfresh : t ∉ f.issued) :
      Step f ⟨t :: f.issued, some t, f.settled⟩
  | settle {f : Fence τ} {t : τ} (hheld : f.holder = some t) :
      Step f ⟨f.issued, none, t :: f.settled⟩

/-- Any number of steps. -/
abbrev Steps : Fence τ → Fence τ → Prop := Relation.ReflTransGen Step

/-- The invariant: the carried token is the newest and not yet settled, and nothing settles twice. -/
structure Sound (f : Fence τ) : Prop where
  held : ∀ t, f.holder = some t → f.issued.head? = some t ∧ t ∉ f.settled
  settled_issued : ∀ t ∈ f.settled, t ∈ f.issued
  settled_nodup : f.settled.Nodup

theorem sound_init : Sound (init : Fence τ) where
  held := by
    intro t ht
    simp [init] at ht
  settled_issued := by
    intro t ht
    simp [init] at ht
  settled_nodup := List.nodup_nil

/-- **One step keeps the invariant.** A fresh token cannot have been settled before; a settled one was held,
    hence new to the settled list. -/
theorem Step.sound {f f' : Fence τ} (h : Step f f') (hf : Sound f) : Sound f' := by
  cases h with
  | @acquire t hfresh =>
      refine ⟨?_, ?_, hf.settled_nodup⟩
      · intro t' ht'
        obtain rfl : t = t' := Option.some.inj ht'
        exact ⟨rfl, fun hs => hfresh (hf.settled_issued t hs)⟩
      · intro t' ht'
        exact List.mem_cons_of_mem t (hf.settled_issued t' ht')
  | @settle t hheld =>
      obtain ⟨hnew, hnot⟩ := hf.held t hheld
      refine ⟨?_, ?_, List.nodup_cons.mpr ⟨hnot, hf.settled_nodup⟩⟩
      · intro t' ht'
        simp at ht'
      · intro t' ht'
        rcases List.mem_cons.mp ht' with rfl | ht'
        · exact List.mem_of_head? hnew
        · exact hf.settled_issued t' ht'

/-- The invariant holds after any run from a resource nobody has acquired. -/
theorem Steps.sound {f : Fence τ} (h : Steps init f) : Sound f := by
  induction h with
  | refl => exact sound_init
  | tail _ hstep ih => exact hstep.sound ih

/-- **A success belongs to the newest acquisition and is its first.** -/
theorem settle_newest {f : Fence τ} (h : Steps init f) {t : τ} (hheld : f.holder = some t) :
    f.issued.head? = some t ∧ t ∉ f.settled :=
  (Steps.sound h).held t hheld

/-- **No acquisition is settled twice.** -/
theorem settled_nodup {f : Fence τ} (h : Steps init f) : f.settled.Nodup :=
  (Steps.sound h).settled_nodup

end Fence
end Lib
end NestSdk
