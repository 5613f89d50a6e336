import NestSdk.Repository.Isolation

/-!
# `Repository.Save` — `saveOne` and `saveMany`

A save carries no criteria: TypeORM picks the row by the payload's primary key alone, and the repository's
part is the `tenantId` it stamps on the payload. The stamp decides which tenant the saved row belongs to, but
not whose row it was. **`save_isolated_iff`** says when other tenants' rows survive: exactly when no payload
carries the id of one of them.
-/

namespace NestSdk
namespace Repository

open Lib

variable {V O : Type} [DecidableEq V]

/-- `{ ...entity, tenantId }`. -/
def stamped (tenantId : V) (entity : Values V) : Values V := entity.insert "tenantId" (some tenantId)

def saveOne (orm : TypeOrm V O) (now tenantId : V) (table : EntityTable V) (entity : V × Values V) : EntityTable V :=
  orm.save now table [(entity.1, stamped tenantId entity.2)]

def saveMany (orm : TypeOrm V O) (now tenantId : V) (table : EntityTable V) (entities : List (V × Values V)) :
    EntityTable V :=
  orm.save now table (entities.map fun entity => (entity.1, stamped tenantId entity.2))

/-! ## Whose rows a save writes -/

/-- The payload carries the id of a row of another tenant. -/
def Intrudes (tenantId : V) (table : EntityTable V) (entity : Values V) : Prop :=
  ∃ id, entity.lookup "id" = some (some id) ∧
    ∃ row ∈ table.rows, row "id" = some id ∧ belongsTo tenantId row = false

omit [DecidableEq V] in
theorem stamped_lookup_id (tenantId : V) (entity : Values V) :
    (stamped tenantId entity).lookup "id" = entity.lookup "id" :=
  AList.lookup_insert_ne (by decide)

section One

variable {orm : TypeOrm V O} {now tenantId : V} {table : EntityTable V} {entity : V × Values V}

theorem belongsTo_inserted (horm : orm.Upserts) (now id tenantId : V) (values : Values V) :
    belongsTo tenantId (orm.inserted now id (stamped tenantId values)) = true :=
  decide_eq_true (horm.inserted_named now id _ "tenantId" _ (by decide) (AList.lookup_insert values))

theorem belongsTo_updated (horm : orm.Upserts) (now tenantId : V) (values : Values V) (row : Row V) :
    belongsTo tenantId (orm.assigned now ((stamped tenantId values).erase "id") row) = true := by
  have htenant : ((stamped tenantId values).erase "id").lookup "tenantId" = some (some tenantId) := by
    rw [AList.lookup_erase_ne (by decide)]
    exact AList.lookup_insert values
  exact decide_eq_true (horm.named now _ row "tenantId" _ htenant)

theorem saveOne_update (horm : orm.Upserts) {id : V} (hid : entity.2.lookup "id" = some (some id))
    (hstored : some id ∈ table.rows.map (fun row => row "id")) :
    (saveOne orm now tenantId table entity).rows = table.rows.map fun row =>
      if row "id" = some id then orm.assigned now ((stamped tenantId entity.2).erase "id") row else row :=
  horm.update now table (entity.1, stamped tenantId entity.2) id ((stamped_lookup_id _ _).trans hid) hstored

theorem saveOne_insert (horm : orm.Upserts) {id : V} (hid : entity.2.lookup "id" = some (some id))
    (hnew : some id ∉ table.rows.map (fun row => row "id")) :
    (saveOne orm now tenantId table entity).rows = orm.inserted now id (stamped tenantId entity.2) :: table.rows :=
  horm.insert now table (entity.1, stamped tenantId entity.2) id ((stamped_lookup_id _ _).trans hid) hnew

omit [DecidableEq V] in
/-- The stamp gives a payload no id. -/
theorem stamped_no_id (hno : ∀ id, entity.2.lookup "id" ≠ some (some id)) (id : V) :
    (stamped tenantId entity.2).lookup "id" ≠ some (some id) := by
  rw [stamped_lookup_id]
  exact hno id

theorem saveOne_generate (horm : orm.Upserts) (hno : ∀ id, entity.2.lookup "id" ≠ some (some id))
    (hnew : some entity.1 ∉ table.rows.map (fun row => row "id")) :
    (saveOne orm now tenantId table entity).rows
      = orm.inserted now entity.1 (stamped tenantId entity.2) :: table.rows :=
  horm.generate now table (entity.1, stamped tenantId entity.2) (stamped_no_id hno) hnew

/-- **What a stamped save can do:** write the row under the payload's id, add a row of the tenant's under that
    id or a generated one, or, when the generated key is taken, nothing. -/
theorem saveOne_cases (horm : orm.Upserts) (now tenantId : V) (table : EntityTable V) (entity : V × Values V) :
    (∃ id, entity.2.lookup "id" = some (some id) ∧
      (saveOne orm now tenantId table entity).rows = table.rows.map fun row =>
        if row "id" = some id then orm.assigned now ((stamped tenantId entity.2).erase "id") row else row) ∨
    (∃ id, (∀ id', entity.2.lookup "id" = some (some id') → id' = id) ∧
      some id ∉ table.rows.map (fun row => row "id") ∧
      (saveOne orm now tenantId table entity).rows
        = orm.inserted now id (stamped tenantId entity.2) :: table.rows) ∨
    ((∀ id, entity.2.lookup "id" ≠ some (some id)) ∧ saveOne orm now tenantId table entity = table) := by
  by_cases hid : ∃ id, entity.2.lookup "id" = some (some id)
  · obtain ⟨id, hid⟩ := hid
    by_cases hmem : some id ∈ table.rows.map (fun row => row "id")
    · exact .inl ⟨id, hid, saveOne_update horm hid hmem⟩
    · refine .inr (.inl ⟨id, ?_, hmem, saveOne_insert horm hid hmem⟩)
      intro id' hid'
      exact Option.some.inj (Option.some.inj (hid'.symm.trans hid))
  · -- Without an id of its own the payload gets the generated one.
    have hno : ∀ id, entity.2.lookup "id" ≠ some (some id) := fun id h => hid ⟨id, h⟩
    by_cases hmem : some entity.1 ∈ table.rows.map (fun row => row "id")
    · exact .inr (.inr ⟨hno, horm.refuse now table (entity.1, stamped tenantId entity.2) (stamped_no_id hno) hmem⟩)
    · exact .inr (.inl ⟨entity.1, fun id' hid' => absurd hid' (hno id'), hmem, saveOne_generate horm hno hmem⟩)

/-- Every row a stamped save leaves was there before or is the tenant's. -/
theorem mem_saveOne (horm : orm.Upserts) {row : Row V} (h : row ∈ (saveOne orm now tenantId table entity).rows) :
    row ∈ table.rows ∨ belongsTo tenantId row = true := by
  rcases saveOne_cases horm now tenantId table entity with ⟨id, -, heq⟩ | ⟨id, -, -, heq⟩ | ⟨-, heq⟩
  · rw [heq] at h
    obtain ⟨before, hbefore, hrow⟩ := List.mem_map.mp h
    by_cases hsel : before "id" = some id
    · rw [if_pos hsel] at hrow
      exact .inr (hrow ▸ belongsTo_updated horm now tenantId entity.2 before)
    · rw [if_neg hsel] at hrow
      exact .inl (hrow ▸ hbefore)
  · rw [heq] at h
    rcases List.mem_cons.mp h with rfl | hrest
    · exact .inr (belongsTo_inserted horm now id tenantId entity.2)
    · exact .inl hrest
  · exact .inl (heq ▸ h)

/-- Afterwards, whatever carries the payload's id is the tenant's. -/
theorem belongsTo_of_saved (horm : orm.Upserts) {id : V} (hid : entity.2.lookup "id" = some (some id)) {row : Row V}
    (h : row ∈ (saveOne orm now tenantId table entity).rows) (hrow : row "id" = some id) :
    belongsTo tenantId row = true := by
  rcases saveOne_cases horm now tenantId table entity with
    ⟨id', hid', heq⟩ | ⟨id', hid', hnew, heq⟩ | ⟨hno, -⟩
  · rw [heq] at h
    obtain ⟨before, -, hupdated⟩ := List.mem_map.mp h
    by_cases hsel : before "id" = some id'
    · rw [if_pos hsel] at hupdated
      exact hupdated ▸ belongsTo_updated horm now tenantId entity.2 before
    · rw [if_neg hsel] at hupdated
      have hsame : some id = some id' := Option.some.inj (hid.symm.trans hid')
      exact absurd ((hupdated ▸ hrow).trans hsame) hsel
  · have hsame : id = id' := hid' id hid
    rw [heq] at h
    rcases List.mem_cons.mp h with rfl | hrest
    · exact belongsTo_inserted horm now id' tenantId entity.2
    · -- The insert went ahead because no stored row carried the id.
      exact absurd (List.mem_map.mpr ⟨row, hrest, hrow.trans (congrArg some hsame)⟩) hnew
  · exact absurd hid (hno id)

/-- A payload that does not intrude leaves the others' rows alone. -/
theorem others_saveOne (horm : orm.Upserts) (h : ¬ Intrudes tenantId table entity.2) :
    others tenantId (saveOne orm now tenantId table entity) = others tenantId table := by
  rcases saveOne_cases horm now tenantId table entity with ⟨id, hid, heq⟩ | ⟨id, -, -, heq⟩ | ⟨-, heq⟩
  · -- the row under the id is the tenant's own, and stays so
    have hmine : ∀ row ∈ table.rows, row "id" = some id → belongsTo tenantId row = true := by
      intro row hmem hsel
      rw [← Bool.not_eq_false]
      exact fun hother => h ⟨id, hid, row, hmem, hsel, hother⟩
    refine Table.part_map_outside heq ?_ ?_
    · intro row hmem
      split
      · next hsel => rw [belongsTo_updated horm, hmine row hmem hsel]
      · rfl
    · intro row hmem hother
      refine if_neg fun hsel => ?_
      rw [hmine row hmem hsel] at hother
      cases hother
  · show List.filter _ _ = _
    rw [heq]
    apply List.filter_cons_of_neg
    rw [belongsTo_inserted horm]
    exact Bool.false_ne_true
  · rw [heq]

/-- Saving does not make a payload intrude that did not. -/
theorem not_intrudes_saveOne (horm : orm.Upserts) {values : Values V} (h : ¬ Intrudes tenantId table values) :
    ¬ Intrudes tenantId (saveOne orm now tenantId table entity) values := by
  rintro ⟨id, hid, row, hmem, hrow, hother⟩
  rcases mem_saveOne horm hmem with hbefore | hmine
  · exact h ⟨id, hid, row, hbefore, hrow, hother⟩
  · exact absurd hmine (by rw [hother]; exact Bool.false_ne_true)

end One

/-! ## A list of payloads -/

section Many

variable {orm : TypeOrm V O} {now tenantId : V}

theorem saveMany_nil (horm : orm.Upserts) (now tenantId : V) (table : EntityTable V) :
    saveMany orm now tenantId table [] = table :=
  horm.nil now table

theorem saveMany_cons (horm : orm.Upserts) (now tenantId : V) (table : EntityTable V) (entity : V × Values V)
    (entities : List (V × Values V)) :
    saveMany orm now tenantId table (entity :: entities)
      = saveMany orm now tenantId (saveOne orm now tenantId table entity) entities :=
  horm.cons now table _ _

/-- A list of payloads none of which intrudes leaves the others' rows alone, by induction on the list. -/
theorem others_saveMany (horm : orm.Upserts) (entities : List (V × Values V)) :
    ∀ {table : EntityTable V}, (∀ entity ∈ entities, ¬ Intrudes tenantId table entity.2) →
      others tenantId (saveMany orm now tenantId table entities) = others tenantId table := by
  induction entities with
  | nil =>
      intro table _
      rw [saveMany_nil horm]
  | cons entity entities ih =>
      intro table h
      have hrest : ∀ later ∈ entities, ¬ Intrudes tenantId (saveOne orm now tenantId table entity) later.2 :=
        fun later hmem => not_intrudes_saveOne horm (h later (List.mem_cons_of_mem _ hmem))
      rw [saveMany_cons horm]
      exact (ih hrest).trans (others_saveOne horm (h entity List.mem_cons_self))

/-- Once every row under an id is the tenant's, it stays so. -/
theorem belongsTo_saveMany (horm : orm.Upserts) {id : V} (entities : List (V × Values V)) :
    ∀ {table : EntityTable V},
      (∀ row ∈ table.rows, row "id" = some id → belongsTo tenantId row = true) →
      ∀ row ∈ (saveMany orm now tenantId table entities).rows, row "id" = some id →
        belongsTo tenantId row = true := by
  induction entities with
  | nil =>
      intro table h
      rw [saveMany_nil horm]
      exact h
  | cons entity entities ih =>
      intro table h
      rw [saveMany_cons horm]
      apply ih
      intro row hmem hrow
      rcases mem_saveOne horm hmem with hbefore | hmine
      · exact h row hbefore hrow
      · exact hmine

/-- After a list of payloads, whatever carries the id of one of them is the tenant's. -/
theorem belongsTo_saved (horm : orm.Upserts) {id : V} (entities : List (V × Values V)) :
    ∀ {table : EntityTable V}, (∃ entity ∈ entities, entity.2.lookup "id" = some (some id)) →
      ∀ row ∈ (saveMany orm now tenantId table entities).rows, row "id" = some id →
        belongsTo tenantId row = true := by
  induction entities with
  | nil =>
      rintro table ⟨entity, hmem, -⟩
      exact absurd hmem List.not_mem_nil
  | cons first entities ih =>
      rintro table ⟨entity, hmem, hid⟩
      rw [saveMany_cons horm]
      rcases List.mem_cons.mp hmem with rfl | hrest
      · exact belongsTo_saveMany horm entities fun row hrow hsame => belongsTo_of_saved horm hid hrow hsame
      · exact ih ⟨entity, hrest, hid⟩

/-- **`saveMany` leaves the others' rows alone exactly when no payload carries the id of one of them.** An
    intruded row is gone from the others' part afterwards: what carries its id is the saving tenant's. -/
theorem others_saveMany_iff (horm : orm.Upserts) (now tenantId : V) (table : EntityTable V)
    (entities : List (V × Values V)) :
    others tenantId (saveMany orm now tenantId table entities) = others tenantId table ↔
      ∀ entity ∈ entities, ¬ Intrudes tenantId table entity.2 := by
  constructor
  · rintro hsame entity hmem ⟨id, hid, row, hrow, hkey, hother⟩
    have hbefore : row ∈ others tenantId table :=
      List.mem_filter.mpr ⟨hrow, by rw [hother]; rfl⟩
    rw [← hsame] at hbefore
    have hmine : belongsTo tenantId row = true :=
      belongsTo_saved horm entities ⟨entity, hmem, hid⟩ row (List.mem_filter.mp hbefore).1 hkey
    exact absurd hmine (by rw [hother]; exact Bool.false_ne_true)
  · exact others_saveMany horm entities

end Many

/-- **Exactly when saves keep other tenants' rows:** `saveOne` and `saveMany` leave them unchanged if and only if
    no payload carries the id of one of them. -/
theorem save_isolated_iff {orm : TypeOrm V O} (horm : orm.Upserts) (now tenantId : V) (table : EntityTable V) :
    (∀ entity : V × Values V,
      others tenantId (saveOne orm now tenantId table entity) = others tenantId table ↔
        ¬ Intrudes tenantId table entity.2) ∧
    ∀ entities : List (V × Values V),
      others tenantId (saveMany orm now tenantId table entities) = others tenantId table ↔
        ∀ entity ∈ entities, ¬ Intrudes tenantId table entity.2 := by
  refine ⟨?_, others_saveMany_iff horm now tenantId table⟩
  intro entity
  have hone : saveOne orm now tenantId table entity = saveMany orm now tenantId table [entity] := rfl
  rw [hone, others_saveMany_iff horm, List.forall_mem_singleton]

/-- As tenant `t`, saving a payload with an id of nobody's keeps tenant `u`'s row. -/
theorem save_isolated_iff_unused :
    others "t" (saveOne (TypeOrm.plain : TypeOrm String Unit) "12:00" "t" twoTenants
      ("n", AList.singleton "id" (some "new"))) = others "t" twoTenants := by
  refine ((save_isolated_iff TypeOrm.plain_upserts "12:00" "t" twoTenants).1 _).mpr ?_
  rintro ⟨id, hid, row, hrow, hkey, -⟩
  obtain rfl : "new" = id := Option.some.inj (Option.some.inj hid)
  have hunused : ∀ row ∈ twoTenants.rows, row "id" ≠ some "new" := by decide
  exact hunused row hrow hkey

/-- As tenant `t`, saving a payload with the id of tenant `u`'s row takes the row away from `u`. -/
theorem save_takes_row :
    ¬ ∀ (now tenantId : String) (table : EntityTable String) (entity : String × Values String),
      others tenantId (saveOne (TypeOrm.plain : TypeOrm String Unit) now tenantId table entity)
        = others tenantId table := by
  intro h
  have hlength := congrArg List.length (h "12:00" "t" twoTenants ("n", AList.singleton "id" (some "s")))
  have hbefore : (others "t" twoTenants).length = 1 := by decide
  have hafter : (others "t" (saveOne (TypeOrm.plain : TypeOrm String Unit) "12:00" "t" twoTenants
      ("n", AList.singleton "id" (some "s")))).length = 0 := by decide
  rw [hbefore, hafter] at hlength
  exact absurd hlength (by decide)

end Repository
end NestSdk
