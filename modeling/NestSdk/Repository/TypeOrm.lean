import NestSdk.Lib.Table
import NestSdk.Repository.TenantScope

/-!
# `Repository.TypeOrm` — the calls the repository makes

TypeORM is not part of this repository. It is a parameter: a `TypeOrm` is any way of carrying the calls out, and two
structures name what is relied on of it.

| here | what TypeORM documents |
| --- | --- |
| `matchesAny` | an array of clauses is their disjunction, a clause the conjunction of its fields, in every call |
| `Request.regards` | a find leaves soft-deleted rows out unless `withDeleted` is set; a soft delete adds `deleted_at IS NULL` to its criteria and a restore `deleted_at IS NOT NULL` |
| `TypeOrm.Serves` | a find returns what `order`, `take` and `skip` make of the rows found; a write sets the columns it names of every row it selects and reports how many they were |
| `TypeOrm.Upserts` | a save updates the row with the payload's primary key if there is one and inserts a row otherwise |

`updatedAt` is TypeORM's own column: nothing is said of what a write leaves there.
-/

namespace NestSdk
namespace Repository

open Lib

variable {V O : Type}

/-- The table of an entity, keyed by `id`. -/
abbrev EntityTable (V : Type) := Table (fun row : Row V => row "id")

/-- What a find is asked beside its criteria. -/
structure FindOptions (O : Type) where
  order : Option O
  take : Option Nat
  skip : Option Nat

/-- A call on TypeORM's repository. -/
inductive Request (V O : Type)
  | findOne (criteria : List (Clause V)) (order : Option O) (withDeleted : Bool)
  | find (criteria : List (Clause V)) (options : FindOptions O) (withDeleted : Bool)
  | findAndCount (criteria : List (Clause V)) (options : FindOptions O) (withDeleted : Bool)
  | count (criteria : List (Clause V)) (withDeleted : Bool)
  | exists_ (criteria : List (Clause V)) (withDeleted : Bool)
  | update (criteria : List (Clause V)) (values : Values V)
  | softDelete (criteria : List (Clause V))
  | restore (criteria : List (Clause V))

/-- What it resolves with. -/
inductive Response (V : Type)
  | row (found : Option (Row V))
  | rows (found : List (Row V))
  | rowsAndCount (found : List (Row V)) (total : Nat)
  | number (n : Nat)
  | truth (b : Bool)

/-- The criteria a call carries. -/
def Request.criteria : Request V O → List (Clause V)
  | .findOne criteria _ _ | .find criteria _ _ | .findAndCount criteria _ _ | .count criteria _
  | .exists_ criteria _ | .update criteria _ | .softDelete criteria | .restore criteria => criteria

/-- Whether a call is about rows in a row's state of deletion. -/
def Request.regards : Request V O → Row V → Bool
  | .findOne _ _ withDeleted, row | .find _ _ withDeleted, row | .findAndCount _ _ withDeleted, row
  | .count _ withDeleted, row | .exists_ _ withDeleted, row => withDeleted || (row "deletedAt").isNone
  | .update _ _, _ => true
  | .softDelete _, row => (row "deletedAt").isNone
  | .restore _, row => (row "deletedAt").isSome

/-- Whether a call selects a row. -/
def Request.selects (request : Request V O) (row : Row V) : Bool :=
  matchesAny request.criteria row && request.regards row

/-- What a soft delete and a restore set. -/
def deletion (deletedAt : Option V) : Values V := AList.singleton "deletedAt" deletedAt

/-- The values a call sets in the rows it selects, if it is a write. -/
def Request.sets (now : V) : Request V O → Option (Values V)
  | .update _ values => some values
  | .softDelete _ => some (deletion (some now))
  | .restore _ => some (deletion none)
  | .findOne _ _ _ | .find _ _ _ | .findAndCount _ _ _ | .count _ _ | .exists_ _ _ => none

/-- How found rows become a list. They come as a multiset: their order in the table is nobody's business. -/
abbrev Arrange (V O : Type) := FindOptions O → Multiset (Row V) → List (Row V)

/-- What a call answers, given the rows it selects. -/
def Request.answer (arrange : Arrange V O) (selected : List (Row V)) : Request V O → Response V
  | .findOne _ order _ => .row (arrange ⟨order, some 1, none⟩ selected).head?
  | .find _ options _ => .rows (arrange options selected)
  | .findAndCount _ options _ => .rowsAndCount (arrange options selected) selected.length
  | .count _ _ => .number selected.length
  | .exists_ _ _ => .truth (!selected.isEmpty)
  | .update _ _ | .softDelete _ | .restore _ => .number selected.length

/-- What is answered does not depend on the order the rows are stored in. -/
theorem Request.answer_perm (arrange : Arrange V O) {rows rows' : List (Row V)} (h : rows.Perm rows')
    (request : Request V O) : request.answer arrange rows = request.answer arrange rows' := by
  have hsame : (rows : Multiset (Row V)) = rows' := Multiset.coe_eq_coe.mpr h
  have hempty : rows.isEmpty = rows'.isEmpty := by
    rw [Bool.eq_iff_iff, List.isEmpty_iff, List.isEmpty_iff]
    exact ⟨fun hnil => List.nil_perm.mp (hnil ▸ h), fun hnil => List.perm_nil.mp (hnil ▸ h)⟩
  cases request <;> simp only [answer, hsame, hempty, h.length_eq]

/-- A call that sets no primary key. -/
def Request.KeepsKeys (now : V) (request : Request V O) : Prop :=
  ∀ values, request.sets now = some values → values.lookup "id" = none

theorem deletion_lookup (deletedAt : Option V) (k : String) :
    (deletion deletedAt).lookup k = if k = "deletedAt" then some deletedAt else none := by
  by_cases hk : k = "deletedAt"
  · rw [if_pos hk, hk]
    exact List.dlookup_cons_eq _ _ _
  · rw [if_neg hk, deletion, AList.lookup_eq_none, AList.mem_keys]
    simpa [AList.singleton] using hk

/-- **TypeORM, for one entity.** Every call is carried out at a time of the database's. -/
structure TypeOrm (V O : Type) where
  /-- Carries out a call with criteria. -/
  run : V → EntityTable V → Request V O → EntityTable V × Response V
  /-- Saves entities, each with the key the database would generate for it. -/
  save : V → EntityTable V → List (V × Values V) → EntityTable V
  /-- What a find makes of the rows found. -/
  arrange : Arrange V O
  /-- The row an update leaves. -/
  assigned : V → Values V → Row V → Row V
  /-- The row an insert stores under an id. -/
  inserted : V → V → Values V → Row V

namespace TypeOrm

/-- What a call makes of a row it selects. -/
def touch (orm : TypeOrm V O) (now : V) (request : Request V O) (row : Row V) : Row V :=
  match request.sets now with
  | some values => orm.assigned now values row
  | none => row

/-- What a write leaves of each column. -/
structure Assigns (orm : TypeOrm V O) : Prop where
  named : ∀ now values row k v, values.lookup k = some v → orm.assigned now values row k = v
  other : ∀ now values row k, values.lookup k = none → k ≠ "updatedAt" → orm.assigned now values row k = row k

/-- **What is relied on of the calls with criteria.** -/
structure Serves (orm : TypeOrm V O) : Prop extends orm.Assigns where
  /-- A find returns found rows, each once. -/
  arrange_le : ∀ options rows, (orm.arrange options rows : Multiset (Row V)) ≤ rows
  /-- It returns all of them unless it was asked for a page. -/
  arrange_all : ∀ options rows, options.take = none → options.skip = none →
    (orm.arrange options rows : Multiset (Row V)) = rows
  /-- Asked for one row, it returns one if there is any. -/
  arrange_one : ∀ order rows, orm.arrange ⟨order, some 1, none⟩ rows = [] → rows = 0
  /-- The answer is about the rows selected. -/
  answers : ∀ now table request, request.KeepsKeys now →
    (orm.run now table request).2 = request.answer orm.arrange (table.rows.filter request.selects)
  /-- Those are the rows written. -/
  writes : ∀ now table request, request.KeepsKeys now →
    (orm.run now table request).1.rows
      = table.rows.map fun row => if request.selects row then orm.touch now request row else row

/-- **What is relied on of a save.** -/
structure Upserts [DecidableEq V] (orm : TypeOrm V O) : Prop extends orm.Assigns where
  /-- An inserted row is stored under its id. -/
  inserted_id : ∀ now id entity, orm.inserted now id entity "id" = some id
  /-- It has the values of the payload. -/
  inserted_named : ∀ now id entity k v, k ≠ "id" → entity.lookup k = some v → orm.inserted now id entity k = v
  /-- A list is saved one after the other. -/
  nil : ∀ now table, orm.save now table [] = table
  cons : ∀ now table entity later,
    orm.save now table (entity :: later) = orm.save now (orm.save now table [entity]) later
  /-- The row under the payload's id is updated, whoever's it is. -/
  update : ∀ now table entity id, entity.2.lookup "id" = some (some id) →
    some id ∈ table.rows.map (fun row => row "id") →
    (orm.save now table [entity]).rows
      = table.rows.map fun row => if row "id" = some id then orm.assigned now (entity.2.erase "id") row else row
  /-- Without one, a row is inserted under the payload's id. -/
  insert : ∀ now table entity id, entity.2.lookup "id" = some (some id) →
    some id ∉ table.rows.map (fun row => row "id") →
    (orm.save now table [entity]).rows = orm.inserted now id entity.2 :: table.rows
  /-- A payload without an id gets the generated one. -/
  generate : ∀ now table entity, (∀ id, entity.2.lookup "id" ≠ some (some id)) →
    some entity.1 ∉ table.rows.map (fun row => row "id") →
    (orm.save now table [entity]).rows = orm.inserted now entity.1 entity.2 :: table.rows
  /-- A generated key that is taken breaks the constraint. -/
  refuse : ∀ now table entity, (∀ id, entity.2.lookup "id" ≠ some (some id)) →
    some entity.1 ∈ table.rows.map (fun row => row "id") → orm.save now table [entity] = table

end TypeOrm

/-! ## A TypeORM for worked calls -/

section Plain

/-- The values set, `updatedAt` the current time. -/
def assign (now : V) (values : Values V) (row : Row V) : Row V :=
  fun k => (values.lookup k).getD (if k = "updatedAt" then some now else row k)

/-- The row an insert stores: the payload's columns under the given id. -/
def created (now id : V) (entity : Values V) : Row V := fun k =>
  if k = "id" then some id
  else (entity.lookup k).getD (if k = "createdAt" ∨ k = "updatedAt" then some now else none)

/-- A write that leaves primary keys alone. -/
def keepingId (f : Row V → Row V) (row : Row V) : Row V := fun k => if k = "id" then row "id" else f row k

/-- The rows come in any order; a page is cut out of it. -/
noncomputable def page : Arrange V O := fun options rows =>
  let found := rows.toList.drop (options.skip.getD 0)
  match options.take with
  | some n => found.take n
  | none => found

theorem assign_of_lookup {now : V} {values : Values V} {row : Row V} {k : String} (hk : values.lookup k = none)
    (hne : k ≠ "updatedAt") : assign now values row k = row k := by
  simp only [assign, hk, Option.getD_none, if_neg hne]

/-- Where the values do not name the key, there is nothing to keep. -/
theorem keepingId_assign {now : V} {values : Values V} (hid : values.lookup "id" = none) :
    keepingId (assign now values) = assign now values := by
  funext row k
  unfold keepingId
  split
  · next hk => rw [hk, assign_of_lookup hid (by decide)]
  · rfl

theorem page_le (options : FindOptions O) (rows : Multiset (Row V)) :
    (page options rows : Multiset (Row V)) ≤ rows := by
  conv_rhs => rw [← rows.coe_toList]
  apply Multiset.coe_le.mpr
  unfold page
  split
  · exact ((List.take_sublist _ _).trans (List.drop_sublist _ _)).subperm
  · exact (List.drop_sublist _ _).subperm

variable [DecidableEq V]

/-- A save of one entity. -/
def upsert (now : V) (table : EntityTable V) (entity : V × Values V) : EntityTable V :=
  match entity.2.lookup "id" with
  | some (some id) =>
      if h : some id ∈ table.rows.map (fun row => row "id") then
        table.updateWhere (fun row => row "id" = some id) (keepingId (assign now (entity.2.erase "id"))) (fun _ => rfl)
      else table.insert (created now id entity.2) h
  | _ =>
      if h : some entity.1 ∈ table.rows.map (fun row => row "id") then table
      else table.insert (created now entity.1 entity.2) h

/-- A TypeORM that does what is documented. -/
noncomputable def TypeOrm.plain : TypeOrm V O where
  run now table request :=
    (match request.sets now with
      | some values => table.updateWhere request.selects (keepingId (assign now values)) (fun _ => rfl)
      | none => table,
      request.answer page (table.rows.filter request.selects))
  save now table entities := entities.foldl (upsert now) table
  arrange := page
  assigned := assign
  inserted := created

theorem TypeOrm.plain_assigns : (TypeOrm.plain : TypeOrm V O).Assigns where
  named now values row k v h := by
    show (values.lookup k).getD _ = v
    rw [h]
    rfl
  other _ _ _ _ h hne := assign_of_lookup h hne

theorem TypeOrm.plain_serves : (TypeOrm.plain : TypeOrm V O).Serves where
  toAssigns := plain_assigns
  arrange_le := page_le
  arrange_all options rows htake hskip := by
    show (page options rows : Multiset (Row V)) = rows
    unfold page
    rw [htake, hskip]
    exact rows.coe_toList
  arrange_one order rows h := by
    have hnone : rows.toList.take 1 = [] := h
    rw [List.take_eq_nil_iff] at hnone
    exact Multiset.toList_eq_nil.mp (hnone.resolve_left one_ne_zero)
  answers _ _ _ _ := rfl
  writes now table request hid := by
    show (match request.sets now with | some values => _ | none => table : EntityTable V).rows = _
    unfold TypeOrm.touch
    cases hsets : request.sets now with
    | none =>
        simp only [ite_self]
        exact (List.map_id _).symm
    | some values =>
        simp only [keepingId_assign (hid values hsets)]
        rfl

theorem TypeOrm.plain_upserts : (TypeOrm.plain : TypeOrm V O).Upserts where
  toAssigns := plain_assigns
  inserted_id now id entity := by
    show created now id entity "id" = some id
    exact if_pos rfl
  inserted_named now id entity k v hk h := by
    show created now id entity k = v
    unfold created
    rw [if_neg hk, h]
    rfl
  nil _ _ := rfl
  cons _ _ _ _ := rfl
  update now table entity id hid hstored := by
    show (upsert now table entity).rows = _
    unfold upsert
    rw [hid]
    simp only [dif_pos hstored, keepingId_assign (AList.lookup_erase _ _)]
    show table.rows.map _ = table.rows.map _
    simp only [decide_eq_true_eq]
    rfl
  insert now table entity id hid hnew := by
    show (upsert now table entity).rows = _
    unfold upsert
    rw [hid]
    simp only [dif_neg hnew]
    rfl
  generate now table entity hno hnew := by
    show (upsert now table entity).rows = _
    unfold upsert
    split
    · next id hid => exact absurd hid (hno id)
    · rw [dif_neg hnew]
      rfl
  refuse now table entity hno hstored := by
    show upsert now table entity = table
    unfold upsert
    split
    · next id hid => exact absurd hid (hno id)
    · rw [dif_pos hstored]

end Plain

end Repository
end NestSdk
