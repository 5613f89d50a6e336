import Mathlib

/-!
# `Lib.Delimiter` — parts joined by a delimiter nobody escapes

Two texts `a ++ d ++ b` and `a' ++ d ++ b'` are equal only if their parts are, or if one of them carries the
delimiter in its own part, in the very place where the other has it (`append_delimiter_eq_iff`). A delimiter
begins with a symbol it does not repeat, so that two of its occurrences never overlap.
-/

namespace NestSdk
namespace Lib

variable {α : Type*} {d a a' b b' : List α}

/-- A delimiter's first symbol does not come again in it. -/
def IsDelimiter : List α → Prop
  | [] => False
  | c :: m => c ∉ m

instance [DecidableEq α] : DecidablePred (@IsDelimiter α)
  | [] => inferInstanceAs (Decidable False)
  | c :: m => inferInstanceAs (Decidable (c ∉ m))

/-- Two occurrences of a delimiter are one, or apart. -/
theorem delimiter_apart (hd : IsDelimiter d) {x : List α} (hx : x ≠ []) (h : d ++ b = x ++ (d ++ b')) :
    ∃ v, x = d ++ v ∧ b = v ++ (d ++ b') := by
  cases d with
  | nil => exact hd.elim
  | cons c m =>
      rcases List.append_eq_append_iff.mp h with ⟨v, hv, hb⟩ | ⟨y, hy, hrest⟩
      · exact ⟨v, hv, hb⟩
      · -- the second occurrence would begin inside the first
        cases y with
        | nil =>
            rw [List.append_nil] at hy
            rw [List.nil_append] at hrest
            exact ⟨[], by rw [List.append_nil, hy], hrest.symm⟩
        | cons c' y =>
            obtain rfl : c = c' := (List.cons.inj hrest).1
            cases x with
            | nil => exact absurd rfl hx
            | cons c'' x =>
                obtain rfl := (List.cons.inj hy).2
                exact absurd (List.mem_append_right x List.mem_cons_self) hd

/-- **Where the parts of equal texts differ, one part imitates the delimiter.** -/
theorem append_delimiter_eq_iff (hd : IsDelimiter d) :
    a ++ (d ++ b) = a' ++ (d ++ b') ↔
      (a = a' ∧ b = b') ∨
      (∃ v, a' = a ++ (d ++ v) ∧ b = v ++ (d ++ b')) ∨
      ∃ v, a = a' ++ (d ++ v) ∧ b' = v ++ (d ++ b) := by
  constructor
  · intro h
    rcases List.append_eq_append_iff.mp h with ⟨x, rfl, hrest⟩ | ⟨x, rfl, hrest⟩
    · by_cases hx : x = []
      · subst hx
        exact .inl ⟨(List.append_nil a).symm, List.append_cancel_left hrest⟩
      · obtain ⟨v, rfl, hb⟩ := delimiter_apart hd hx hrest
        exact .inr (.inl ⟨v, rfl, hb⟩)
    · by_cases hx : x = []
      · subst hx
        exact .inl ⟨List.append_nil a', (List.append_cancel_left hrest).symm⟩
      · obtain ⟨v, rfl, hb⟩ := delimiter_apart hd hx hrest
        exact .inr (.inr ⟨v, rfl, hb⟩)
  · rintro (⟨rfl, rfl⟩ | ⟨v, rfl, rfl⟩ | ⟨v, rfl, rfl⟩)
    · rfl
    · simp
    · simp

end Lib
end NestSdk
