import NestSdk.Repository.Isolation

/-!
# `Repository.History` — what becomes of one row

Any number of tenants use one repository in any order. A criteria operation does the same to a row whatever else is in
the table, so a run is, row by row, a fold (`rows_runMany`), and what a row's `deletedAt` says can be read off the
operations alone: an update cannot set it, and another tenant's soft delete or restore does not reach it.

**`deletion_history`**: a row is soft-deleted exactly when the last soft delete or restore its own tenant made of it was
a soft delete, and says when the first since the last restore was; a find that does not ask for deleted rows then misses
it, for everybody; and a restore brings it back as it was.
-/

namespace NestSdk
namespace Repository

open Lib

variable {V O : Type}

/-- A criteria operation, who makes it and when the database executes it. -/
structure Made (V O : Type) where
  tenantId : V
  now : V
  call : Call V O

variable [DecidableEq V]

/-- Carries out the operations of any tenants one after the other. -/
def runMany (orm : TypeOrm V O) : List (Made V O) → EntityTable V → EntityTable V × List (Response V)
  | [], table => (table, [])
  | made :: later, table =>
      let result := orm.run made.now table (made.call.request made.tenantId)
      let rest := runMany orm later result.1
      (rest.1, result.2 :: rest.2)

/-! ## One row -/

/-- What an operation makes of one row. -/
def Made.touch (orm : TypeOrm V O) (row : Row V) (made : Made V O) : Row V :=
  made.call.touch orm made.tenantId made.now row

/-- What the operations make of one row, one after the other. -/
def evolve (orm : TypeOrm V O) (history : List (Made V O)) (row : Row V) : Row V := history.foldl (Made.touch orm) row

/-- What an operation leaves of the `deletedAt` of the row with this `id` and `tenantId`: a soft delete of a deleted row
    changes nothing. -/
def Made.deletes (row : Option V × Option V) (deletedAt : Option V) (made : Made V O) : Option V :=
  match made.call with
  | .softDeleteOneById id =>
      if row = (some id, some made.tenantId) ∧ deletedAt = none then some made.now else deletedAt
  | .restoreOneById id => if row = (some id, some made.tenantId) then none else deletedAt
  | _ => deletedAt

/-- The `deletedAt` the operations leave a row with. -/
def deletedAfter (row : Option V × Option V) (history : List (Made V O)) (deletedAt : Option V) : Option V :=
  history.foldl (Made.deletes row) deletedAt

variable {orm : TypeOrm V O}

/-- **A run does to each row what it does to it alone,** by induction on the operations. -/
theorem rows_runMany (horm : orm.Serves) (history : List (Made V O)) (table : EntityTable V) :
    (runMany orm history table).1.rows = table.rows.map (evolve orm history) := by
  induction history generalizing table with
  | nil => exact (List.map_id _).symm
  | cons made history ih =>
      show (runMany orm history _).1.rows = _
      rw [ih, rows_run horm, List.map_map]
      rfl

/-- A `where` by id is about the tenant's row with that id. -/
theorem byId_wants {tenantId id : V} {row : Row V} :
    row "tenantId" = some tenantId ∧ (byId id).wants row ↔ identity row = (some id, some tenantId) := by
  have hwants : (byId id).wants row ↔ row "id" = some id := by
    have hgiven : (byId id).given = [AList.singleton "id" (equals id)] := rfl
    have herase : (AList.singleton "id" (equals id) : Clause V).erase "tenantId" = AList.singleton "id" (equals id) :=
      rfl
    unfold Where.wants
    rw [hgiven]
    simp only [List.cons_ne_nil, false_or, List.mem_singleton, exists_eq_left, herase]
    simp [Clause.matches, AList.singleton, equals]
  rw [hwants]
  unfold identity
  rw [Prod.mk.injEq]
  exact and_comm

theorem softDelete_selects {tenantId id : V} {row : Row V} :
    (Call.softDeleteOneById id : Call V O).selects tenantId row ↔
      identity row = (some id, some tenantId) ∧ row "deletedAt" = none := by
  rw [← byId_wants, and_assoc, ← Option.isNone_iff_eq_none]
  rfl

theorem restore_selects {tenantId id : V} {row : Row V} :
    (Call.restoreOneById id : Call V O).selects tenantId row ↔
      identity row = (some id, some tenantId) ∧ row "deletedAt" ≠ none := by
  rw [← byId_wants, and_assoc, ← Option.isSome_iff_ne_none]
  rfl

/-- What a soft delete or a restore leaves of a row, column by column. -/
theorem touch_column (horm : orm.Serves) {made : Made V O} {row : Row V} {values : Values V}
    (hsets : (made.call.request made.tenantId).sets made.now = some values)
    (hselects : made.call.selects made.tenantId row) {k : String} (hk : k ≠ "updatedAt") :
    made.touch orm row k = (made.call.column made.now k).getD (row k) := by
  have hwrites : made.call.Writes made.tenantId made.now row (made.touch orm row) := touch_writes horm hsets row
  exact hwrites.1 hselects k hk

/-- No operation changes a row's identity. -/
theorem identity_made (horm : orm.Serves) (made : Made V O) (row : Row V) :
    identity (made.touch orm row) = identity row :=
  identity_touch horm made.now made.call row

/-- **What an operation does to `deletedAt`,** one case per operation. -/
theorem deletedAt_touch (horm : orm.Serves) (made : Made V O) (row : Row V) :
    made.touch orm row "deletedAt" = made.deletes (identity row) (row "deletedAt") := by
  obtain ⟨tenantId, now, call⟩ := made
  cases call with
  | findOneById _ _ | findOne _ _ _ | findMany _ _ _ | findAndCount _ _ _ | count _ _ | exists_ _ _ =>
      exact congrFun (ite_self row) "deletedAt"
  | updateOneById id values | updateBy criteria values =>
      show (if _ then _ else _ : Row V) "deletedAt" = row "deletedAt"
      split
      · exact horm.other now _ row "deletedAt" (stripManagedColumns_lookup values (by decide)) (by decide)
      · rfl
  | softDeleteOneById id =>
      show Made.touch orm row ⟨tenantId, now, .softDeleteOneById id⟩ "deletedAt" = if _ then _ else _
      by_cases hrow : identity row = (some id, some tenantId) ∧ row "deletedAt" = none
      · rw [if_pos hrow]
        exact touch_column horm rfl (softDelete_selects.mpr hrow) (by decide)
      · rw [if_neg hrow]
        exact congrFun (if_neg fun h => hrow (softDelete_selects.mp ((request_selects _).mp h))) "deletedAt"
  | restoreOneById id =>
      show Made.touch orm row ⟨tenantId, now, .restoreOneById id⟩ "deletedAt" = if _ then _ else _
      by_cases hrow : identity row = (some id, some tenantId) ∧ row "deletedAt" ≠ none
      · rw [if_pos hrow.1]
        exact touch_column horm rfl (restore_selects.mpr hrow) (by decide)
      · -- a row that is not restored stays as it is, and the tenant's own had no date to lose
        have hnot : Made.touch orm row (⟨tenantId, now, .restoreOneById id⟩ : Made V O) "deletedAt" = row "deletedAt" :=
          congrFun (if_neg fun h => hrow (restore_selects.mp ((request_selects _).mp h))) "deletedAt"
        rw [hnot]
        by_cases hid : identity row = (some id, some tenantId)
        · rw [if_pos hid]
          exact not_ne_iff.mp fun hne => hrow ⟨hid, hne⟩
        · rw [if_neg hid]

/-- Another tenant's operation leaves a row as it is. -/
theorem made_of_others {made : Made V O} {row : Row V} (h : row "tenantId" ≠ some made.tenantId) :
    made.touch orm row = row :=
  touch_of_others made.now made.call (decide_eq_false h)

/-! ## A history -/

/-- The run lemma, by induction on the operations. -/
theorem evolve_deletion (horm : orm.Serves) (history : List (Made V O)) (row : Row V) :
    identity (evolve orm history row) = identity row ∧
      evolve orm history row "deletedAt" = deletedAfter (identity row) history (row "deletedAt") := by
  induction history generalizing row with
  | nil => exact ⟨rfl, rfl⟩
  | cons made history ih =>
      obtain ⟨hidentity, hdeletedAt⟩ := ih (made.touch orm row)
      rw [identity_made horm] at hidentity hdeletedAt
      rw [deletedAt_touch horm] at hdeletedAt
      exact ⟨hidentity, hdeletedAt⟩

/-- Any number of other tenants' operations leave a row as it is. -/
theorem evolve_of_others {history : List (Made V O)} {row : Row V}
    (h : ∀ made ∈ history, row "tenantId" ≠ some made.tenantId) : evolve orm history row = row := by
  induction history with
  | nil => rfl
  | cons made history ih =>
      show evolve orm history (made.touch orm row) = row
      rw [made_of_others (h made List.mem_cons_self)]
      exact ih fun later hlater => h later (List.mem_cons_of_mem _ hlater)

/-- A soft delete or a restore by id sets `deletedAt`, and leaves every other column but `updatedAt`. -/
theorem deletion_other (horm : orm.Serves) (made : Made V O) (row : Row V)
    (hcall : ∃ id, made.call = .softDeleteOneById id ∨ made.call = .restoreOneById id) {k : String}
    (hk : k ≠ "deletedAt") (hne : k ≠ "updatedAt") : made.touch orm row k = row k := by
  obtain ⟨tenantId, now, call⟩ := made
  obtain ⟨id, rfl | rfl⟩ := hcall
  all_goals
    show (if _ then _ else _ : Row V) k = row k
    split
    · exact horm.other now _ row k (by rw [deletion_lookup, if_neg hk]) hne
    · rfl

/-- **Soft deletion, over any history.** Let any tenants make any criteria operations on one table, in any order. The
    rows afterwards are the rows before, each on its own: a row keeps its identity; its `deletedAt` is the time of its
    own tenant's first soft delete of it since the last restore; an operation that leaves deleted rows out selects it
    exactly when it is its tenant's, wants it, and the row is not deleted. And a soft delete that is undone, with only
    other tenants at work in between, leaves every column but `updatedAt` as it was, `deletedAt` cleared. -/
theorem deletion_history (horm : orm.Serves) (history : List (Made V O)) (table : EntityTable V) :
    (runMany orm history table).1.rows = table.rows.map (evolve orm history) ∧
    (∀ row : Row V, identity (evolve orm history row) = identity row ∧
      evolve orm history row "deletedAt" = deletedAfter (identity row) history (row "deletedAt") ∧
      ∀ (tenantId : V) (call : Call V O), (∀ row, call.regards row = (row "deletedAt").isNone) →
        ((call.request tenantId).selects (evolve orm history row) = true ↔
          row "tenantId" = some tenantId ∧ call.criteria.wants (evolve orm history row) ∧
            deletedAfter (identity row) history (row "deletedAt") = none)) ∧
    ∀ (row : Row V) (tenantId id now later : V), identity row = (some id, some tenantId) →
      (∀ made ∈ history, tenantId ≠ made.tenantId) →
      let undone := evolve orm
        ([⟨tenantId, now, .softDeleteOneById id⟩] ++ history ++ [⟨tenantId, later, .restoreOneById id⟩]) row
      undone "deletedAt" = none ∧ ∀ k, k ≠ "deletedAt" → k ≠ "updatedAt" → undone k = row k := by
  refine ⟨rows_runMany horm history table, ?_, ?_⟩
  · intro row
    obtain ⟨hidentity, hdeletedAt⟩ := evolve_deletion horm history row
    refine ⟨hidentity, hdeletedAt, fun tenantId call hregards => ?_⟩
    have htenant : evolve orm history row "tenantId" = row "tenantId" := congrArg Prod.snd hidentity
    rw [request_selects, ← htenant, ← hdeletedAt, ← Option.isNone_iff_eq_none, ← hregards]
    rfl
  · intro row tenantId id now later hrow hothers
    dsimp only
    -- deleted, left alone by the others, and restored
    have hidentity : identity (Made.touch orm row ⟨tenantId, now, .softDeleteOneById id⟩) = (some id, some tenantId) := by
      rw [identity_made horm, hrow]
    have halone : evolve orm history (Made.touch orm row ⟨tenantId, now, .softDeleteOneById id⟩)
        = Made.touch orm row ⟨tenantId, now, .softDeleteOneById id⟩ := by
      refine evolve_of_others fun made hmade hsame => hothers made hmade ?_
      have htenant : Made.touch orm row ⟨tenantId, now, .softDeleteOneById id⟩ "tenantId" = some tenantId :=
        congrArg Prod.snd hidentity
      exact Option.some.inj (htenant.symm.trans hsame)
    have hundone : evolve orm
        ([⟨tenantId, now, .softDeleteOneById id⟩] ++ history ++ [⟨tenantId, later, .restoreOneById id⟩]) row
          = Made.touch orm (Made.touch orm row ⟨tenantId, now, .softDeleteOneById id⟩)
              ⟨tenantId, later, .restoreOneById id⟩ := by
      unfold evolve
      rw [List.foldl_append, List.foldl_append]
      show Made.touch orm (evolve orm history (Made.touch orm row ⟨tenantId, now, .softDeleteOneById id⟩))
        ⟨tenantId, later, .restoreOneById id⟩ = _
      rw [halone]
    rw [hundone]
    refine ⟨?_, fun k hk hne => ?_⟩
    · rw [deletedAt_touch horm, hidentity]
      exact if_pos rfl
    · rw [deletion_other horm _ _ ⟨id, .inr rfl⟩ hk hne, deletion_other horm _ _ ⟨id, .inl rfl⟩ hk hne]

/-- Tenant `t` deletes its row and restores it, while `u` updates all of its own. -/
theorem deletion_history_undone :
    let undone := evolve (TypeOrm.plain : TypeOrm String Unit)
      ([⟨"t", "12:00", .softDeleteOneById "r"⟩] ++ [⟨"u", "12:01", .updateBy .absent (AList.singleton "name" none)⟩] ++
        [⟨"t", "12:02", .restoreOneById "r"⟩]) (bareRow "r" "t")
    undone "deletedAt" = none ∧ ∀ k, k ≠ "deletedAt" → k ≠ "updatedAt" → undone k = bareRow "r" "t" k :=
  (deletion_history TypeOrm.plain_serves [⟨"u", "12:01", .updateBy .absent (AList.singleton "name" none)⟩]
    twoTenants).2.2 (bareRow "r" "t") "t" "r" "12:00" "12:02" rfl (by simp)

end Repository
end NestSdk
