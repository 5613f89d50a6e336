import Mathlib

/-!
# `Lib.Table` — rows under a primary key

A `Table key` is a list of rows no two of which share a key; the constraint is a field, so a table that
breaks its primary key cannot be built. `get` reads the row under a key, and every write is described by
what it does to `get`:

* `updateWhere` — `UPDATE … WHERE p`, which keeps every key;
* `overwrite` — an object mapper's save of rows it has read before, matched by key;
* `insert` — a row under a key not yet in use.

`part` is the rows a predicate owns. A read or an update whose predicate stays inside a part sees and writes
nothing else (`filter_part`, `part_map`, `part_map_outside`).

`affected` is the row count an `UPDATE` reports. When the predicate pins the key it is at most one
(`affected_le_one`), and then a count other than one means nothing was written (`updateWhere_of_affected`).
-/

namespace NestSdk
namespace Lib

variable {κ ρ : Type*}

/-- Rows of which no two share a key. -/
@[ext]
structure Table (key : ρ → κ) where
  rows : List ρ
  nodup : (rows.map key).Nodup

namespace Table

variable {key : ρ → κ}

/-- The table without rows. -/
def empty : Table key := ⟨[], List.nodup_nil⟩

/-- The row under a key. -/
def get [DecidableEq κ] (t : Table key) (k : κ) : Option ρ := t.rows.find? (fun r => key r = k)

/-- `UPDATE … SET f WHERE p`. The assigned columns are never the key's. -/
def updateWhere (t : Table key) (p : ρ → Bool) (f : ρ → ρ) (hf : ∀ r, key (f r) = key r) :
    Table key where
  rows := t.rows.map (fun r => if p r then f r else r)
  nodup := by
    have hkey : (t.rows.map (fun r => if p r then f r else r)).map key = t.rows.map key := by
      rw [List.map_map]
      refine List.map_congr_left (fun r _ => ?_)
      by_cases hp : p r <;> simp [hp, hf]
    rw [hkey]
    exact t.nodup

/-- How many rows an `UPDATE … WHERE p` reports. -/
def affected (t : Table key) (p : ρ → Bool) : Nat := t.rows.countP p

/-- Saves rows by key: a stored row whose key one of `rs` carries is replaced by it. -/
def overwrite [DecidableEq κ] (t : Table key) (rs : List ρ) : Table key where
  rows := t.rows.map (fun r => (rs.find? (fun r' => key r' = key r)).getD r)
  nodup := by
    have hkey : (t.rows.map (fun r => (rs.find? (fun r' => key r' = key r)).getD r)).map key
        = t.rows.map key := by
      rw [List.map_map]
      refine List.map_congr_left (fun r _ => ?_)
      show key ((rs.find? (fun r' => key r' = key r)).getD r) = key r
      cases hfind : rs.find? (fun r' => key r' = key r) with
      | none => rfl
      | some r' => simpa using List.find?_some hfind
    rw [hkey]
    exact t.nodup

/-- Adds a row under a key not yet in use. -/
def insert (t : Table key) (r : ρ) (h : key r ∉ t.rows.map key) : Table key where
  rows := r :: t.rows
  nodup := by rw [List.map_cons]; exact List.nodup_cons.mpr ⟨h, t.nodup⟩

/-! ## Reading -/

/-- Two stored rows with one key are one row. -/
theorem eq_of_key {t : Table key} {r r' : ρ} (h : r ∈ t.rows) (h' : r' ∈ t.rows)
    (hk : key r = key r') : r = r' :=
  List.inj_on_of_nodup_map t.nodup h h' hk

variable [DecidableEq κ]

/-- Among rows with distinct keys, the search for a member's key finds that member. -/
theorem find_key_of_mem {rs : List ρ} (hnd : (rs.map key).Nodup) {r : ρ} (h : r ∈ rs) :
    rs.find? (fun r' => key r' = key r) = some r := by
  cases hfind : rs.find? (fun r' => key r' = key r) with
  | none =>
      have hne := List.find?_eq_none.mp hfind r h
      simp at hne
  | some r' =>
      have hkey : key r' = key r := by simpa using List.find?_some hfind
      rw [List.inj_on_of_nodup_map hnd (List.mem_of_find?_eq_some hfind) h hkey]

/-- The search for a key no row carries finds nothing. -/
theorem find_key_of_not_mem {rs : List ρ} {k : κ} (h : k ∉ rs.map key) :
    rs.find? (fun r' => key r' = k) = none := by
  rw [List.find?_eq_none]
  intro r hr hk
  exact h (List.mem_map.mpr ⟨r, hr, of_decide_eq_true hk⟩)

theorem get_eq_some {t : Table key} {k : κ} {r : ρ} :
    t.get k = some r ↔ r ∈ t.rows ∧ key r = k := by
  constructor
  · intro h
    exact ⟨List.mem_of_find?_eq_some h, by simpa using List.find?_some h⟩
  · rintro ⟨hr, rfl⟩
    exact find_key_of_mem t.nodup hr

theorem get_key {t : Table key} {k : κ} {r : ρ} (h : t.get k = some r) : key r = k :=
  (get_eq_some.mp h).2

theorem get_of_mem {t : Table key} {r : ρ} (h : r ∈ t.rows) : t.get (key r) = some r :=
  get_eq_some.mpr ⟨h, rfl⟩

theorem mem_of_get {t : Table key} {k : κ} {r : ρ} (h : t.get k = some r) : r ∈ t.rows :=
  (get_eq_some.mp h).1

theorem get_eq_none {t : Table key} {k : κ} : t.get k = none ↔ k ∉ t.rows.map key := by
  simp [get, List.find?_eq_none]

/-! ## Writing -/

/-- An update acts on each key separately. -/
theorem get_updateWhere (t : Table key) (p : ρ → Bool) (f : ρ → ρ) (hf : ∀ r, key (f r) = key r)
    (k : κ) : (t.updateWhere p f hf).get k = (t.get k).map (fun r => if p r then f r else r) := by
  show (t.rows.map _).find? _ = _
  rw [List.find?_map]
  congr 1
  refine congrArg (List.find? · t.rows) (funext fun r => ?_)
  by_cases hp : p r <;> simp [hp, hf]

/-- A save by key acts on each key separately. -/
theorem get_overwrite (t : Table key) (rs : List ρ) (k : κ) :
    (t.overwrite rs).get k = (t.get k).map (fun r => (rs.find? (fun r' => key r' = k)).getD r) := by
  have hkey : ∀ r, key ((rs.find? (fun r' => key r' = key r)).getD r) = key r := by
    intro r
    cases hfind : rs.find? (fun r' => key r' = key r) with
    | none => rfl
    | some r' => simpa using List.find?_some hfind
  show (t.rows.map _).find? _ = _
  rw [List.find?_map]
  have hpred : ((fun r => decide (key r = k)) ∘
      fun r => (rs.find? (fun r' => key r' = key r)).getD r) = fun r => decide (key r = k) := by
    funext r; simp [hkey]
  rw [hpred]
  cases hget : t.get k with
  | none =>
      have hfind : t.rows.find? (fun r => key r = k) = none := hget
      rw [hfind]; rfl
  | some r =>
      have hfind : t.rows.find? (fun r => key r = k) = some r := hget
      rw [hfind]; simp [get_key hget]

theorem get_insert (t : Table key) (r : ρ) (h : key r ∉ t.rows.map key) (k : κ) :
    (t.insert r h).get k = if key r = k then some r else t.get k := by
  show (r :: t.rows).find? _ = _
  by_cases hk : key r = k
  · simp [hk]
  · simp [hk, get]

/-! ## Row counts -/

omit [DecidableEq κ] in
/-- A predicate that pins the key selects at most one row. -/
theorem affected_le_one {t : Table key} {p : ρ → Bool} {k : κ} (hp : ∀ r, p r = true → key r = k) :
    t.affected p ≤ 1 := by
  obtain ⟨rows, hnd⟩ := t
  show rows.countP p ≤ 1
  induction rows with
  | nil => simp
  | cons r rows ih =>
      rw [List.map_cons, List.nodup_cons] at hnd
      rw [List.countP_cons]
      by_cases hr : p r = true
      · have hrest : rows.countP p = 0 := by
          rw [List.countP_eq_zero]
          intro r' hr' hpr'
          exact hnd.1 (List.mem_map.mpr ⟨r', hr', (hp r' hpr').trans (hp r hr).symm⟩)
        simp [hr, hrest]
      · simpa [hr] using ih hnd.2

/-- A count of one on a key-pinning predicate: the row under that key satisfies it. -/
theorem affected_eq_one {t : Table key} {p : ρ → Bool} {k : κ} (hp : ∀ r, p r = true → key r = k) :
    t.affected p = 1 ↔ ∃ r, t.get k = some r ∧ p r = true := by
  constructor
  · intro h
    have hpos : 0 < t.rows.countP p := by rw [show t.rows.countP p = 1 from h]; exact Nat.one_pos
    obtain ⟨r, hr, hpr⟩ := List.countP_pos_iff.mp hpos
    exact ⟨r, get_eq_some.mpr ⟨hr, hp r hpr⟩, hpr⟩
  · rintro ⟨r, hget, hpr⟩
    have hpos : 0 < t.affected p := List.countP_pos_iff.mpr ⟨r, mem_of_get hget, hpr⟩
    have hle := affected_le_one (t := t) hp
    omega

omit [DecidableEq κ] in
/-- An update that reports no row leaves the table as it was. -/
theorem updateWhere_of_affected {t : Table key} {p : ρ → Bool} {f : ρ → ρ}
    (hf : ∀ r, key (f r) = key r) (h : t.affected p = 0) : t.updateWhere p f hf = t := by
  apply Table.ext
  have hnone := List.countP_eq_zero.mp h
  show t.rows.map _ = t.rows
  conv_rhs => rw [← List.map_id t.rows]
  refine List.map_congr_left (fun r hr => ?_)
  simp [hnone r hr]

/-- **An update of one row** changes a sum over the rows by what it changes of that row, by induction on the rows. -/
theorem sum_updateWhere {t : Table key} {p : ρ → Bool} {f : ρ → ρ} (hf : ∀ r, key (f r) = key r) {k : κ}
    (hp : ∀ r, p r = true → key r = k) {row : ρ} (hget : t.get k = some row) (hrow : p row = true) (g : ρ → Nat) :
    ((t.updateWhere p f hf).rows.map g).sum + g row = (t.rows.map g).sum + g (f row) := by
  obtain ⟨rows, hnd⟩ := t
  show ((rows.map (fun r => if p r then f r else r)).map g).sum + g row = (rows.map g).sum + g (f row)
  replace hget : rows.find? (fun r => key r = k) = some row := hget
  induction rows with
  | nil => cases hget
  | cons r rows ih =>
      rw [List.map_cons, List.nodup_cons] at hnd
      simp only [List.map_cons, List.sum_cons]
      rw [List.find?_cons] at hget
      by_cases hr : key r = k
      · -- this is the row, and no other has its key
        obtain rfl : r = row := by simpa [hr] using hget
        have hrest : rows.map (fun r' => if p r' then f r' else r') = rows := by
          conv_rhs => rw [← List.map_id rows]
          refine List.map_congr_left (fun r' hr' => if_neg ?_)
          intro hpr'
          exact hnd.1 (List.mem_map.mpr ⟨r', hr', (hp r' hpr').trans hr.symm⟩)
        rw [hrest, if_pos hrow]
        omega
      · have hother : p r ≠ true := fun hpr => hr (hp r hpr)
        have hsum := ih hnd.2 (by simpa [hr] using hget)
        rw [if_neg hother]
        omega

/-! ## Parts -/

section Part

omit [DecidableEq κ]

variable {mine p : ρ → Bool} {f : ρ → ρ}

/-- The rows a predicate owns. -/
def part (t : Table key) (mine : ρ → Bool) : List ρ := t.rows.filter mine

/-- Reading inside a part reads only the part. -/
theorem filter_part (t : Table key) (hp : ∀ r, p r = true → mine r = true) :
    t.rows.filter p = (t.part mine).filter p := by
  unfold part
  rw [List.filter_filter]
  refine List.filter_congr (fun r _ => ?_)
  cases hr : p r with
  | false => rfl
  | true => rw [hp r hr, Bool.and_self]

/-- What happens to each row separately, and moves none out of its part or into it, happens to the part. -/
theorem part_map {t t' : Table key} (hrows : t'.rows = t.rows.map f) (hmine : ∀ r ∈ t.rows, mine (f r) = mine r) :
    t'.part mine = (t.part mine).map f := by
  unfold part
  rw [hrows, List.filter_map]
  congr 1
  exact List.filter_congr hmine

/-- What happens to rows outside a part, and leaves them there, leaves the part alone. -/
theorem part_map_outside {t t' : Table key} (hrows : t'.rows = t.rows.map f)
    (hmine : ∀ r ∈ t.rows, mine (f r) = mine r) (hkeep : ∀ r ∈ t.rows, mine r = true → f r = r) :
    t'.part mine = t.part mine := by
  rw [part_map hrows hmine]
  conv_rhs => rw [← List.map_id (t.part mine)]
  refine List.map_congr_left (fun r hr => ?_)
  obtain ⟨hmem, hin⟩ := List.mem_filter.mp hr
  exact hkeep r hmem hin

/-- An update of rows that are, and stay, outside a part leaves the part alone. -/
theorem part_updateWhere_outside (t : Table key) (hf : ∀ r, key (f r) = key r)
    (hbefore : ∀ r ∈ t.rows, p r = true → mine r = false)
    (hafter : ∀ r ∈ t.rows, p r = true → mine (f r) = false) :
    (t.updateWhere p f hf).part mine = t.part mine := by
  have hrows : (t.updateWhere p f hf).rows = t.rows.map fun r => if p r then f r else r := rfl
  refine part_map_outside hrows (fun r hr => ?_) (fun r hr hin => ?_)
  · by_cases hpr : p r = true
    · rw [if_pos hpr, hafter r hr hpr, hbefore r hr hpr]
    · rw [if_neg hpr]
  · have hnot : ¬ p r = true := fun hpr => absurd hin (by rw [hbefore r hr hpr]; decide)
    rw [if_neg hnot]

/-- A row added outside a part leaves the part alone. -/
theorem part_insert_outside (t : Table key) {r : ρ} (hnew : key r ∉ t.rows.map key)
    (hr : mine r = false) : (t.insert r hnew).part mine = t.part mine :=
  List.filter_cons_of_neg (by simp [hr])

/-- A save by key of rows outside a part leaves the part alone. -/
theorem part_overwrite_outside [DecidableEq κ] (t : Table key) {rs : List ρ}
    (hkeys : ∀ r ∈ t.rows, mine r = true → key r ∉ rs.map key) (hrs : ∀ r ∈ rs, mine r = false) :
    (t.overwrite rs).part mine = t.part mine := by
  show (t.rows.map _).filter mine = t.rows.filter mine
  rw [List.filter_map]
  have hsame : t.rows.filter (mine ∘ fun r => (rs.find? (fun r' => key r' = key r)).getD r)
      = t.rows.filter mine := by
    refine List.filter_congr (fun r hr => ?_)
    show mine ((rs.find? (fun r' => key r' = key r)).getD r) = mine r
    cases hfind : rs.find? (fun r' => key r' = key r) with
    | none => rfl
    | some r' =>
        have hr' : r' ∈ rs := List.mem_of_find?_eq_some hfind
        have hkey : key r' = key r := by simpa using List.find?_some hfind
        cases hmine : mine r with
        | false => exact hrs r' hr'
        | true => exact absurd (hkey ▸ List.mem_map_of_mem hr') (hkeys r hr hmine)
  rw [hsame]
  conv_rhs => rw [← List.map_id (t.rows.filter mine)]
  refine List.map_congr_left (fun r hr => ?_)
  obtain ⟨hmem, hin⟩ := List.mem_filter.mp hr
  rw [find_key_of_not_mem (hkeys r hmem hin)]
  rfl

end Part

end Table
end Lib
end NestSdk
