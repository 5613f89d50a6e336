import Mathlib

/-!
# `Lib.StableSort` — insertion sort keeps the order of equals

Sorting by a total preorder leaves elements that compare equal in the order they came in. So sorting commutes with
leaving elements out (`filter_insertionSort`), and whoever later sorts only the elements that were taken from the
front of a sorted list gets that front back (`insertionSort_front`).
-/

namespace NestSdk
namespace Lib

variable {α : Type*} {r : α → α → Prop} [DecidableRel r]

/-- An element that comes before all of a list is put in front. -/
theorem orderedInsert_of_forall {a : α} {l : List α} (h : ∀ b ∈ l, r a b) : l.orderedInsert r a = a :: l := by
  cases l with
  | nil => rfl
  | cons b l => exact if_pos (h b List.mem_cons_self)

/-- Inserting commutes with leaving elements out of a sorted list. -/
theorem filter_orderedInsert [IsTrans α r] (p : α → Bool) (a : α) {l : List α} (hl : l.Pairwise r) :
    (l.orderedInsert r a).filter p = if p a then (l.filter p).orderedInsert r a else l.filter p := by
  induction l with
  | nil => cases hp : p a <;> simp [hp]
  | cons b l ih =>
      obtain ⟨hb, hl⟩ := List.pairwise_cons.mp hl
      by_cases hab : r a b
      · -- the element goes to the front, and still does once others are gone
        have hfront : ∀ x ∈ (b :: l).filter p, r a x := by
          intro x hx
          rcases List.mem_cons.mp (List.mem_filter.mp hx).1 with rfl | hx
          · exact hab
          · exact IsTrans.trans a b x hab (hb x hx)
        rw [List.orderedInsert_cons, if_pos hab, List.filter_cons, orderedInsert_of_forall hfront]
      · rw [List.orderedInsert_cons, if_neg hab, List.filter_cons, List.filter_cons, ih hl]
        cases hpb : p b with
        | false => simp
        | true =>
            cases hpa : p a with
            | false => simp
            | true => simp [hab]

/-- **Sorting commutes with leaving elements out,** by induction on the list. -/
theorem filter_insertionSort [IsTrans α r] [Std.Total r] (p : α → Bool) (l : List α) :
    (l.filter p).insertionSort r = (l.insertionSort r).filter p := by
  induction l with
  | nil => rfl
  | cons a l ih =>
      have hsorted : (l.insertionSort r).Pairwise r := List.pairwise_insertionSort r l
      rw [List.insertionSort_cons, filter_orderedInsert p a hsorted, ← ih, List.filter_cons]
      cases hp : p a with
      | false => rfl
      | true => rfl

/-- **The front of a sorted list sorts back to itself** out of the elements the list was sorted from. -/
theorem insertionSort_front [IsTrans α r] [Std.Total r] [DecidableEq α] {l : List α} (hl : l.Nodup) (n : ℕ) :
    (l.filter (fun a => a ∈ (l.insertionSort r).take n)).insertionSort r = (l.insertionSort r).take n := by
  rw [filter_insertionSort]
  have hnd : (l.insertionSort r).Nodup := (List.perm_insertionSort r l).nodup_iff.mpr hl
  conv_lhs => rw [← List.take_append_drop n (l.insertionSort r)]
  rw [List.filter_append]
  have hkept : ((l.insertionSort r).take n).filter (fun a => a ∈ (l.insertionSort r).take n)
      = (l.insertionSort r).take n := by
    rw [List.filter_eq_self]
    intro a ha
    exact decide_eq_true ha
  have hgone : ((l.insertionSort r).drop n).filter (fun a => a ∈ (l.insertionSort r).take n) = [] := by
    rw [List.filter_eq_nil_iff]
    intro a ha hmem
    exact List.disjoint_take_drop hnd (le_refl n) (of_decide_eq_true hmem) ha
  have hsame : (l.insertionSort r).take n ++ (l.insertionSort r).drop n = l.insertionSort r :=
    List.take_append_drop n _
  rw [hsame, hkept, hgone, List.append_nil]

end Lib
end NestSdk
