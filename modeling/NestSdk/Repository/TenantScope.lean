import Mathlib

/-!
# `Repository.TenantScope` — criteria, values and what becomes of them

`scopeWhereToTenant` and `stripManagedColumns`, the two pure functions tenant isolation rests on.

A plain object is a finite map from property names, so `{ ...clause, tenantId }` is an `insert` and
`{ id: _id, ...rest }` an `erase`. A row gives each property its column's value, `none` for `NULL`. A clause
asks something of each property it names and an array of clauses is their disjunction, as TypeORM reads them.

**`scopeWhereToTenant_matches`** says exactly which rows scoped criteria select.
-/

namespace NestSdk
namespace Repository

variable {V : Type}

/-- A row of an entity's table: the value of each property's column, `none` for `NULL`. -/
abbrev Row (V : Type) := String → Option V

/-- What one field of a `where` clause asks of its column. -/
abbrev Condition (V : Type) := Option V → Bool

/-- `FindOptionsWhere<TEntity>`: a condition for each property it names. -/
abbrev Clause (V : Type) := AList (fun _ : String => Condition V)

/-- `Partial<TEntity>`: a value, or `null`, for each property it names. -/
abbrev Values (V : Type) := AList (fun _ : String => Option V)

/-- The `where` argument of a repository call. -/
inductive Where (V : Type)
  | absent
  | one (clause : Clause V)
  | many (clauses : List (Clause V))

/-- The condition a plain value stands for. -/
def equals [DecidableEq V] (value : V) : Condition V := fun column => column = some value

/-- A clause is the conjunction of its fields. -/
def Clause.matches (clause : Clause V) (row : Row V) : Bool :=
  clause.entries.all fun field => field.2 (row field.1)

/-- An array of clauses is their disjunction. -/
def matchesAny (criteria : List (Clause V)) (row : Row V) : Bool :=
  criteria.any fun clause => clause.matches row

/-- Forces `tenantId` onto every clause of a caller-supplied `where`. -/
def scopeWhereToTenant [DecidableEq V] (tenantId : V) (criteria : Where V) : List (Clause V) :=
  let clauses := match criteria with
    | .absent => [∅]
    | .one clause => [clause]
    | .many clauses => clauses
  let effective := if clauses.length > 0 then clauses else [∅]
  effective.map fun clause => clause.insert "tenantId" (equals tenantId)

/-- Strips the columns a caller must never set directly. -/
def stripManagedColumns (values : Values V) : Values V :=
  ((((values.erase "id").erase "tenantId").erase "createdAt").erase "updatedAt").erase "deletedAt"

/-! ## What the functions guarantee -/

theorem Clause.matches_iff {clause : Clause V} {row : Row V} :
    clause.matches row = true ↔ ∀ k condition, clause.lookup k = some condition → condition (row k) = true := by
  unfold Clause.matches
  rw [List.all_eq_true]
  constructor
  · intro h k condition hlookup
    exact h ⟨k, condition⟩ (AList.mem_lookup_iff.mp hlookup)
  · rintro h ⟨k, condition⟩ hmem
    exact h k condition (AList.mem_lookup_iff.mpr hmem)

/-- **Scoping one clause:** the caller's own `tenantId` is gone, the argument's is asked for. -/
theorem scoped_matches [DecidableEq V] {tenantId : V} {clause : Clause V} {row : Row V} :
    Clause.matches (clause.insert "tenantId" (equals tenantId)) row = true ↔
      row "tenantId" = some tenantId ∧ Clause.matches (clause.erase "tenantId") row = true := by
  rw [Clause.matches_iff, Clause.matches_iff]
  constructor
  · intro h
    refine ⟨?_, ?_⟩
    · have htenant := h "tenantId" (equals tenantId) (AList.lookup_insert clause)
      exact of_decide_eq_true htenant
    · intro k condition hlookup
      by_cases hk : k = "tenantId"
      · rw [hk, AList.lookup_erase] at hlookup
        exact absurd hlookup (by simp)
      · rw [AList.lookup_erase_ne hk] at hlookup
        exact h k condition (by rw [AList.lookup_insert_ne hk]; exact hlookup)
  · rintro ⟨htenant, h⟩ k condition hlookup
    by_cases hk : k = "tenantId"
    · subst hk
      rw [AList.lookup_insert] at hlookup
      obtain rfl := Option.some.inj hlookup
      exact decide_eq_true htenant
    · rw [AList.lookup_insert_ne hk] at hlookup
      exact h k condition (by rw [AList.lookup_erase_ne hk]; exact hlookup)

/-- The clauses a caller gave. -/
def Where.given : Where V → List (Clause V)
  | .absent => []
  | .one clause => [clause]
  | .many clauses => clauses

/-- What the caller asked for, whatever it said of `tenantId`: any of its clauses, or everything if it gave
    none. -/
def Where.wants (criteria : Where V) (row : Row V) : Prop :=
  criteria.given = [] ∨ ∃ clause ∈ criteria.given, Clause.matches (clause.erase "tenantId") row = true

instance (criteria : Where V) (row : Row V) : Decidable (criteria.wants row) :=
  inferInstanceAs (Decidable (criteria.given = [] ∨
    ∃ clause ∈ criteria.given, Clause.matches (clause.erase "tenantId") row = true))

/-- Scoping goes over the clauses given, or over one empty clause if there is none. -/
theorem scopeWhereToTenant_eq [DecidableEq V] (tenantId : V) (criteria : Where V) :
    scopeWhereToTenant tenantId criteria =
      (if criteria.given = [] then [∅] else criteria.given).map
        fun clause => clause.insert "tenantId" (equals tenantId) := by
  cases criteria with
  | absent => rfl
  | one clause => rfl
  | many clauses => cases clauses <;> rfl

/-- Scoping a list of clauses scopes each of them. -/
theorem matchesAny_scoped [DecidableEq V] {tenantId : V} {clauses : List (Clause V)} {row : Row V} :
    matchesAny (clauses.map fun clause => clause.insert "tenantId" (equals tenantId)) row = true ↔
      row "tenantId" = some tenantId ∧
        ∃ clause ∈ clauses, Clause.matches (clause.erase "tenantId") row = true := by
  unfold matchesAny
  rw [List.any_map, List.any_eq_true]
  constructor
  · rintro ⟨clause, hmem, hmatch⟩
    obtain ⟨htenant, hrest⟩ := scoped_matches.mp hmatch
    exact ⟨htenant, clause, hmem, hrest⟩
  · rintro ⟨htenant, clause, hmem, hrest⟩
    exact ⟨clause, hmem, scoped_matches.mpr ⟨htenant, hrest⟩⟩

/-- **Scoped criteria select exactly the tenant's rows among those the caller asked for.** -/
theorem scopeWhereToTenant_matches [DecidableEq V] {tenantId : V} {criteria : Where V} {row : Row V} :
    matchesAny (scopeWhereToTenant tenantId criteria) row = true ↔
      row "tenantId" = some tenantId ∧ criteria.wants row := by
  rw [scopeWhereToTenant_eq, matchesAny_scoped]
  unfold Where.wants
  by_cases hgiven : criteria.given = []
  · have hempty : Clause.matches ((∅ : Clause V).erase "tenantId") row = true := rfl
    rw [if_pos hgiven]
    exact ⟨fun h => ⟨h.1, .inl hgiven⟩, fun h => ⟨h.1, ∅, List.mem_singleton_self _, hempty⟩⟩
  · rw [if_neg hgiven]
    exact ⟨fun h => ⟨h.1, .inr h.2⟩, fun h => ⟨h.1, h.2.resolve_left hgiven⟩⟩

/-- Erasing does not bring a name back. -/
theorem lookup_erase_none {values : Values V} {k : String} (h : values.lookup k = none) (k' : String) :
    (values.erase k').lookup k = none := by
  by_cases hk : k = k'
  · rw [hk, AList.lookup_erase]
  · rw [AList.lookup_erase_ne hk, h]

/-- The columns a caller must never set directly. -/
def managedColumns : List String := ["id", "tenantId", "createdAt", "updatedAt", "deletedAt"]

/-- **Stripped values name no managed column.** -/
theorem stripManagedColumns_lookup (values : Values V) {k : String} (hk : k ∈ managedColumns) :
    (stripManagedColumns values).lookup k = none := by
  unfold stripManagedColumns
  simp only [managedColumns, List.mem_cons, List.not_mem_nil, or_false] at hk
  rcases hk with rfl | rfl | rfl | rfl | rfl
  · exact lookup_erase_none (lookup_erase_none (lookup_erase_none (lookup_erase_none
      (AList.lookup_erase _ _) _) _) _) _
  · exact lookup_erase_none (lookup_erase_none (lookup_erase_none (AList.lookup_erase _ _) _) _) _
  · exact lookup_erase_none (lookup_erase_none (AList.lookup_erase _ _) _) _
  · exact lookup_erase_none (AList.lookup_erase _ _) _
  · exact AList.lookup_erase _ _

/-- Every other column keeps the value it was given. -/
theorem stripManagedColumns_lookup_ne (values : Values V) {k : String} (hk : k ∉ managedColumns) :
    (stripManagedColumns values).lookup k = values.lookup k := by
  simp only [managedColumns, List.mem_cons, List.not_mem_nil, or_false, not_or] at hk
  obtain ⟨hid, htenant, hcreated, hupdated, hdeleted⟩ := hk
  unfold stripManagedColumns
  rw [AList.lookup_erase_ne hdeleted, AList.lookup_erase_ne hupdated, AList.lookup_erase_ne hcreated,
    AList.lookup_erase_ne htenant, AList.lookup_erase_ne hid]

end Repository
end NestSdk
