import Mathlib

/-!
# `Lib.Gauge` — a metric with a value per label set

A gauge holds a series for some label sets and none for the others. Writing a list of readings leaves, under each
label set, the last reading written there, and whatever was there before where nothing was.
-/

namespace NestSdk
namespace Lib

/-- The value of each label set that has a series. -/
abbrev Gauge (L : Type) : Type := L → Option ℚ

namespace Gauge

variable {L R : Type}

/-- No series at all. -/
def empty : Gauge L := fun _ => none

variable [DecidableEq L]

def set (g : Gauge L) (labels : L) (value : ℚ) : Gauge L := Function.update g labels (some value)

theorem set_apply (g : Gauge L) (labels : L) (value : ℚ) (labels' : L) :
    g.set labels value labels' = if labels' = labels then some value else g labels' :=
  Function.update_apply g labels (some value) labels'

/-- Writes one reading after another. -/
def setAll (labels : R → L) (value : R → ℚ) (readings : List R) (g : Gauge L) : Gauge L :=
  readings.foldl (fun g reading => g.set (labels reading) (value reading)) g

/-- The last of the readings for a label set. -/
def lastOf (labels : R → L) (value : R → ℚ) (readings : List R) (l : L) : Option ℚ :=
  (readings.reverse.find? (fun reading => labels reading = l)).map value

/-- **What a list of readings leaves:** by induction from the last reading, which wins. -/
theorem setAll_apply (labels : R → L) (value : R → ℚ) (readings : List R) (g : Gauge L) (l : L) :
    setAll labels value readings g l = (lastOf labels value readings l).or (g l) := by
  induction readings using List.reverseRecOn with
  | nil => rfl
  | append_singleton readings reading ih =>
      unfold setAll lastOf at ih ⊢
      rw [List.foldl_concat, set_apply, ih, List.reverse_concat, List.find?_cons]
      by_cases h : l = labels reading
      · subst h
        simp
      · simp [h, Ne.symm h]

end Gauge

end Lib
end NestSdk
