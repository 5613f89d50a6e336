import NestSdk.Repository.Base

/-!
# `Repository.Isolation` — what a tenant's operations see and touch

The criteria operations of one tenant read and write its own rows and nothing else. As a statement about two
runs: tables that agree on the tenant's rows give the same results and agree on them again afterwards, so
nothing of another tenant shows. As a frame: other tenants' rows stay as they are, and no row changes its
`id` or its owner.

Both come from one fact about each call, that its criteria select only the tenant's rows (`request_owned`),
through the lemmas about parts of a table.
-/

namespace NestSdk
namespace Repository

open Lib

variable {V O : Type} [DecidableEq V]

/-- Whether a row is a tenant's. -/
def belongsTo (tenantId : V) (row : Row V) : Bool := row "tenantId" = some tenantId

/-- A tenant's rows. -/
def owned (tenantId : V) (table : EntityTable V) : List (Row V) := table.part (belongsTo tenantId)

/-- Everybody else's rows. -/
def others (tenantId : V) (table : EntityTable V) : List (Row V) :=
  table.part fun row => !belongsTo tenantId row

/-- A row's identity and its owner. -/
def identity (row : Row V) : Option V × Option V := (row "id", row "tenantId")

/-! ## One operation -/

/-- **A call's criteria select only the tenant's rows.** -/
theorem request_owned {tenantId : V} (call : Call V O) {row : Row V}
    (h : (call.request tenantId).selects row = true) : belongsTo tenantId row = true := by
  have hmatch : matchesAny (call.request tenantId).criteria row = true := (Bool.and_eq_true _ _ ▸ h).1
  rw [request_criteria] at hmatch
  exact decide_eq_true (scopeWhereToTenant_matches.mp hmatch).1

/-- No operation sets who a row is. -/
theorem request_keeps (tenantId now : V) (call : Call V O) {k : String} (hk : k ∈ ["id", "tenantId", "createdAt"])
    (values : Values V) (h : (call.request tenantId).sets now = some values) : values.lookup k = none := by
  have hmanaged : k ∈ managedColumns := by fin_cases hk <;> decide
  have hkept : k ≠ "deletedAt" := by fin_cases hk <;> decide
  cases call with
  | findOneById _ _ | findOne _ _ _ | findMany _ _ _ | findAndCount _ _ _ | count _ _ | exists_ _ _ => cases h
  | updateOneById _ given | updateBy _ given =>
      obtain rfl := Option.some.inj h
      exact stripManagedColumns_lookup given hmanaged
  | softDeleteOneById _ | restoreOneById _ =>
      obtain rfl := Option.some.inj h
      rw [deletion_lookup, if_neg hkept]

section Run

variable {orm : TypeOrm V O} {tenantId : V} {table table' : EntityTable V}

/-- What an operation makes of a row it selects has the row's identity. -/
theorem touch_kept (horm : orm.Serves) (now : V) (call : Call V O) (row : Row V) {k : String}
    (hk : k ∈ ["id", "tenantId", "createdAt"]) : orm.touch now (call.request tenantId) row k = row k := by
  have hother : k ≠ "updatedAt" := by fin_cases hk <;> decide
  unfold TypeOrm.touch
  cases hsets : (call.request tenantId).sets now with
  | some values => exact horm.other now values row k (request_keeps tenantId now call hk values hsets) hother
  | none => rfl

/-- What an operation makes of a row: what the call makes of those it selects. -/
def Call.touch (orm : TypeOrm V O) (tenantId now : V) (call : Call V O) (row : Row V) : Row V :=
  if (call.request tenantId).selects row then orm.touch now (call.request tenantId) row else row

/-- **An operation does to each row what it does to it alone.** -/
theorem rows_run (horm : orm.Serves) (now : V) (call : Call V O) (table : EntityTable V) :
    (orm.run now table (call.request tenantId)).1.rows = table.rows.map (call.touch orm tenantId now) :=
  horm.writes now table _ (request_keeps tenantId now call (by decide))

theorem answer_run (horm : orm.Serves) (tenantId now : V) (call : Call V O) (table : EntityTable V) :
    (orm.run now table (call.request tenantId)).2
      = (call.request tenantId).answer orm.arrange (table.rows.filter (call.request tenantId).selects) :=
  horm.answers now table _ (request_keeps tenantId now call (by decide))

theorem identity_touch (horm : orm.Serves) (now : V) (call : Call V O) (row : Row V) :
    identity (call.touch orm tenantId now row) = identity row := by
  unfold Call.touch
  split
  · unfold identity
    rw [touch_kept horm now call row (by decide), touch_kept horm now call row (by decide)]
  · rfl

theorem belongsTo_touch (horm : orm.Serves) (other now : V) (call : Call V O) (row : Row V) :
    belongsTo other (call.touch orm tenantId now row) = belongsTo other row := by
  have htenant : call.touch orm tenantId now row "tenantId" = row "tenantId" :=
    congrArg Prod.snd (identity_touch horm now call row)
  unfold belongsTo
  rw [htenant]

/-- Another tenant's row is left as it is. -/
theorem touch_of_others (now : V) (call : Call V O) {row : Row V} (h : belongsTo tenantId row = false) :
    call.touch orm tenantId now row = row := by
  refine if_neg fun hselects => ?_
  rw [request_owned call hselects] at h
  cases h

/-- **One operation, two tables:** the answer and what becomes of the tenant's rows are functions of those rows. -/
theorem run_isolated (horm : orm.Serves) (now : V) (call : Call V O)
    (hagree : (owned tenantId table).Perm (owned tenantId table')) :
    (orm.run now table (call.request tenantId)).2 = (orm.run now table' (call.request tenantId)).2 ∧
    (owned tenantId (orm.run now table (call.request tenantId)).1).Perm
      (owned tenantId (orm.run now table' (call.request tenantId)).1) := by
  refine ⟨?_, ?_⟩
  · rw [answer_run horm, answer_run horm]
    apply Request.answer_perm
    rw [Table.filter_part table (fun _ => request_owned call), Table.filter_part table' (fun _ => request_owned call)]
    exact hagree.filter _
  · unfold owned
    rw [Table.part_map (rows_run horm now call table) (fun row _ => belongsTo_touch horm tenantId now call row),
      Table.part_map (rows_run horm now call table') (fun row _ => belongsTo_touch horm tenantId now call row)]
    exact hagree.map _

/-- **One operation's frame.** -/
theorem run_frame (horm : orm.Serves) (tenantId now : V) (call : Call V O) (table : EntityTable V) :
    others tenantId (orm.run now table (call.request tenantId)).1 = others tenantId table ∧
    (orm.run now table (call.request tenantId)).1.rows.map identity = table.rows.map identity := by
  refine ⟨?_, ?_⟩
  · refine Table.part_map_outside (rows_run horm now call table) ?_ ?_
    · intro row _
      rw [belongsTo_touch horm]
    · intro row _ hother
      exact touch_of_others now call (by simpa using hother)
  · rw [rows_run horm, List.map_map]
    exact List.map_congr_left fun row _ => identity_touch horm now call row

/-! ## Any number of operations -/

/-- Two tables, by induction on the operations. -/
theorem runCalls_isolated (horm : orm.Serves) (tenantId : V) (calls : List (V × Call V O)) :
    ∀ {table table' : EntityTable V}, (owned tenantId table).Perm (owned tenantId table') →
      (runCalls orm tenantId calls table).2 = (runCalls orm tenantId calls table').2 ∧
      (owned tenantId (runCalls orm tenantId calls table).1).Perm
        (owned tenantId (runCalls orm tenantId calls table').1) := by
  induction calls with
  | nil =>
      intro table table' hagree
      exact ⟨rfl, hagree⟩
  | cons step calls ih =>
      intro table table' hagree
      obtain ⟨now, call⟩ := step
      obtain ⟨hreply, hafter⟩ := run_isolated horm now call hagree
      obtain ⟨hreplies, hend⟩ := ih hafter
      exact ⟨congrArg₂ List.cons hreply hreplies, hend⟩

theorem runCalls_frame (horm : orm.Serves) (tenantId : V) (calls : List (V × Call V O)) :
    ∀ table : EntityTable V,
      others tenantId (runCalls orm tenantId calls table).1 = others tenantId table ∧
      (runCalls orm tenantId calls table).1.rows.map identity = table.rows.map identity := by
  induction calls with
  | nil =>
      intro table
      exact ⟨rfl, rfl⟩
  | cons step calls ih =>
      intro table
      obtain ⟨now, call⟩ := step
      obtain ⟨hothers, hidentity⟩ := run_frame horm tenantId now call table
      obtain ⟨hothers', hidentity'⟩ := ih (orm.run now table (call.request tenantId)).1
      exact ⟨hothers'.trans hothers, hidentity'.trans hidentity⟩

end Run

/-! ## The rows an operation is about -/

/-- Whether an operation is about rows in a row's state of deletion: a find leaves deleted rows out unless it asks for
    them, and there is nothing to delete of a deleted row and nothing to restore of another. -/
def Call.regards : Call V O → Row V → Bool
  | .findOneById _ withDeleted, row | .findOne _ _ withDeleted, row | .findMany _ _ withDeleted, row
  | .findAndCount _ _ withDeleted, row | .count _ withDeleted, row | .exists_ _ withDeleted, row =>
      withDeleted || (row "deletedAt").isNone
  | .updateOneById _ _, _ | .updateBy _ _, _ => true
  | .softDeleteOneById _, row => (row "deletedAt").isNone
  | .restoreOneById _, row => (row "deletedAt").isSome

/-- The rows an operation is to select: the tenant's that match some clause the caller gave. -/
def Call.selects (tenantId : V) (call : Call V O) (row : Row V) : Prop :=
  row "tenantId" = some tenantId ∧ call.criteria.wants row ∧ call.regards row = true

instance (tenantId : V) (call : Call V O) (row : Row V) : Decidable (call.selects tenantId row) :=
  inferInstanceAs (Decidable (_ ∧ _ ∧ _))

/-- What an operation is to set a column to, if it sets it. -/
def Call.column (now : V) (call : Call V O) (k : String) : Option (Option V) :=
  match call with
  | .updateOneById _ values | .updateBy _ values => if k ∈ managedColumns then none else values.lookup k
  | .softDeleteOneById _ => if k = "deletedAt" then some (some now) else none
  | .restoreOneById _ => if k = "deletedAt" then some none else none
  | _ => none

/-- Found rows, as the caller gets them: each selected one at most once, and all of them unless a page was asked
    for. -/
def Returned (options : FindOptions O) (selected found : List (Row V)) : Prop :=
  found.Subperm selected ∧ (options.take = none → options.skip = none → found.Perm selected)

/-- What a write leaves of the rows: the selected ones with the columns it sets, the others as they were. `updatedAt` is
    the database's. -/
def Call.Writes (tenantId now : V) (call : Call V O) (row row' : Row V) : Prop :=
  (call.selects tenantId row → ∀ k, k ≠ "updatedAt" → row' k = (call.column now k).getD (row k)) ∧
  (¬ call.selects tenantId row → row' = row)

/-- **What an operation finds, counts and writes are exactly the rows it is to select.** -/
def Call.Exact (orm : TypeOrm V O) (tenantId now : V) (call : Call V O) (table : EntityTable V) : Prop :=
  let selected := table.rows.filter fun row => call.selects tenantId row
  let ran := orm.run now table (call.request tenantId)
  match call with
  | .findOneById _ _ | .findOne _ _ _ =>
      ran.1 = table ∧ ∃ found, ran.2 = .row found ∧ (found = none → selected = []) ∧
        ∀ row, found = some row → row ∈ selected
  | .findMany _ options _ => ran.1 = table ∧ ∃ found, ran.2 = .rows found ∧ Returned options selected found
  | .findAndCount _ options _ =>
      ran.1 = table ∧ ∃ found, ran.2 = .rowsAndCount found selected.length ∧ Returned options selected found
  | .count _ _ => ran.1 = table ∧ ran.2 = .number selected.length
  | .exists_ _ _ => ran.1 = table ∧ ran.2 = .truth (!selected.isEmpty)
  | .updateOneById _ _ | .updateBy _ _ | .softDeleteOneById _ | .restoreOneById _ =>
      ran.2 = .number selected.length ∧ List.Forall₂ (call.Writes tenantId now) table.rows ran.1.rows

theorem request_selects {tenantId : V} (call : Call V O) {row : Row V} :
    (call.request tenantId).selects row = true ↔ call.selects tenantId row := by
  have hregards : (call.request tenantId).regards row = call.regards row := by cases call <;> rfl
  unfold Request.selects Call.selects
  rw [Bool.and_eq_true, request_criteria, scopeWhereToTenant_matches, hregards, and_assoc]

/-- The rows a call selects are those the operation is to select. -/
theorem filter_selects (tenantId : V) (call : Call V O) (table : EntityTable V) :
    table.rows.filter (call.request tenantId).selects = table.rows.filter fun row => call.selects tenantId row := by
  refine List.filter_congr fun row _ => ?_
  rw [Bool.eq_iff_iff, decide_eq_true_iff]
  exact request_selects call

/-- The values a write sets are those the operation is to set. -/
theorem sets_lookup {tenantId now : V} {call : Call V O} {values : Values V}
    (h : (call.request tenantId).sets now = some values) (k : String) : values.lookup k = call.column now k := by
  cases call with
  | findOneById _ _ | findOne _ _ _ | findMany _ _ _ | findAndCount _ _ _ | count _ _ | exists_ _ _ => cases h
  | updateOneById _ given | updateBy _ given =>
      obtain rfl := Option.some.inj h
      show _ = if k ∈ managedColumns then none else given.lookup k
      by_cases hk : k ∈ managedColumns
      · rw [if_pos hk, stripManagedColumns_lookup given hk]
      · rw [if_neg hk, stripManagedColumns_lookup_ne given hk]
  | softDeleteOneById _ | restoreOneById _ =>
      obtain rfl := Option.some.inj h
      exact deletion_lookup _ k

section Exact

variable {orm : TypeOrm V O} {tenantId now : V} {call : Call V O}

theorem run_read (horm : orm.Serves) (hread : (call.request tenantId).sets now = none) (table : EntityTable V) :
    (orm.run now table (call.request tenantId)).1 = table := by
  apply Table.ext
  rw [rows_run horm]
  conv_rhs => rw [← List.map_id table.rows]
  refine List.map_congr_left fun row _ => ?_
  unfold Call.touch TypeOrm.touch
  rw [hread]
  exact ite_self row

/-- What a write leaves of one row. -/
theorem touch_writes (horm : orm.Serves) {values : Values V}
    (hsets : (call.request tenantId).sets now = some values) (row : Row V) :
    call.Writes tenantId now row (call.touch orm tenantId now row) := by
  unfold Call.touch TypeOrm.touch
  rw [hsets]
  refine ⟨fun hselects k hk => ?_, fun hnot => if_neg fun h => hnot ((request_selects call).mp h)⟩
  rw [if_pos ((request_selects call).mpr hselects), ← sets_lookup hsets]
  show orm.assigned now values row k = _
  cases hlookup : values.lookup k with
  | none => exact horm.other now values row k hlookup hk
  | some v => exact horm.named now values row k v hlookup

theorem run_writes (horm : orm.Serves) {values : Values V} (hsets : (call.request tenantId).sets now = some values)
    (table : EntityTable V) :
    List.Forall₂ (call.Writes tenantId now) table.rows (orm.run now table (call.request tenantId)).1.rows := by
  rw [rows_run horm, List.forall₂_map_right_iff, List.forall₂_same]
  exact fun row _ => touch_writes horm hsets row

omit [DecidableEq V] in
theorem arrange_returned (horm : orm.Serves) (options : FindOptions O) (rows : List (Row V)) :
    Returned options rows (orm.arrange options rows) :=
  ⟨Multiset.coe_le.mp (horm.arrange_le options rows),
    fun htake hskip => Multiset.coe_eq_coe.mp (horm.arrange_all options rows htake hskip)⟩

omit [DecidableEq V] in
/-- What `findOne` returns is the first of a page of one. -/
theorem arrange_head (horm : orm.Serves) (order : Option O) (rows : List (Row V)) :
    ((orm.arrange ⟨order, some 1, none⟩ rows).head? = none → rows = []) ∧
      ∀ row, (orm.arrange ⟨order, some 1, none⟩ rows).head? = some row → row ∈ rows := by
  refine ⟨fun hnone => ?_, fun row hrow => ?_⟩
  · exact (Multiset.coe_eq_zero rows).mp (horm.arrange_one order rows (List.head?_eq_none_iff.mp hnone))
  · exact (arrange_returned horm _ rows).1.subset (List.mem_of_head? hrow)

/-- **Every operation is exact,** one case per TypeORM call. -/
theorem run_exact (horm : orm.Serves) (tenantId now : V) (call : Call V O) (table : EntityTable V) :
    call.Exact orm tenantId now table := by
  have hanswer := answer_run horm tenantId now call table
  rw [filter_selects] at hanswer
  cases call with
  | findOneById id withDeleted =>
      exact ⟨run_read horm rfl table, _, hanswer, arrange_head horm none _⟩
  | findOne criteria order withDeleted =>
      exact ⟨run_read horm rfl table, _, hanswer, arrange_head horm order _⟩
  | findMany criteria options withDeleted =>
      exact ⟨run_read horm rfl table, _, hanswer, arrange_returned horm options _⟩
  | findAndCount criteria options withDeleted =>
      exact ⟨run_read horm rfl table, _, hanswer, arrange_returned horm options _⟩
  | count criteria withDeleted => exact ⟨run_read horm rfl table, hanswer⟩
  | exists_ criteria withDeleted => exact ⟨run_read horm rfl table, hanswer⟩
  | updateOneById id values => exact ⟨hanswer, run_writes horm rfl table⟩
  | updateBy criteria values => exact ⟨hanswer, run_writes horm rfl table⟩
  | softDeleteOneById id => exact ⟨hanswer, run_writes horm rfl table⟩
  | restoreOneById id => exact ⟨hanswer, run_writes horm rfl table⟩

/-- **Tenant isolation of the criteria operations.** For any sequence of them made for one tenant: tables that agree on
    its rows give the same results and the same rows of the tenant's; other tenants' rows are unchanged; no row changes
    its `id` or `tenantId`; and on every table each operation finds, counts and writes exactly the tenant's rows that
    match some clause the caller gave, its `tenantId` ignored. -/
theorem tenant_isolation (horm : orm.Serves) (tenantId : V) (calls : List (V × Call V O))
    {table table' : EntityTable V} (hagree : (owned tenantId table).Perm (owned tenantId table')) :
    ((runCalls orm tenantId calls table).2 = (runCalls orm tenantId calls table').2 ∧
      (owned tenantId (runCalls orm tenantId calls table).1).Perm
        (owned tenantId (runCalls orm tenantId calls table').1)) ∧
    others tenantId (runCalls orm tenantId calls table).1 = others tenantId table ∧
    (runCalls orm tenantId calls table).1.rows.map identity = table.rows.map identity ∧
    ∀ (now : V) (call : Call V O) (table : EntityTable V), call.Exact orm tenantId now table := by
  obtain ⟨hothers, hidentity⟩ := runCalls_frame horm tenantId calls table
  exact ⟨runCalls_isolated horm tenantId calls hagree, hothers, hidentity, run_exact horm tenantId⟩

end Exact

/-! ## Two tenants, for worked calls -/

/-- A row with nothing but its managed columns. -/
def bareRow (id tenantId : String) : Row String :=
  fun k => if k = "id" then some id else if k = "tenantId" then some tenantId else none

/-- Tenant `t`'s row `r` beside tenant `u`'s row `s`, and alone. -/
def twoTenants : EntityTable String := ⟨[bareRow "r" "t", bareRow "s" "u"], by decide⟩

def oneTenant : EntityTable String := ⟨[bareRow "r" "t"], by decide⟩

/-- Asking for tenant `u`'s rows, updating everything, and deleting and restoring `u`'s row and its own, as tenant `t`,
    tells nothing of whether `u` has any. -/
theorem tenant_isolation_twoTenants :
    let calls : List (String × Call String Unit) :=
      [("12:00", .findMany (.one (AList.singleton "tenantId" (equals "u"))) ⟨none, none, none⟩ false),
        ("12:01", .updateBy .absent (AList.singleton "tenantId" (some "u"))),
        ("12:02", .softDeleteOneById "s"), ("12:03", .softDeleteOneById "r"), ("12:04", .softDeleteOneById "r"),
        ("12:05", .restoreOneById "r"), ("12:06", .restoreOneById "r")]
    (runCalls TypeOrm.plain "t" calls twoTenants).2 = (runCalls TypeOrm.plain "t" calls oneTenant).2 :=
  (tenant_isolation TypeOrm.plain_serves "t" _
    (show (owned "t" twoTenants).Perm (owned "t" oneTenant) from List.Perm.refl [bareRow "r" "t"])).1.1

example :
    let calls : List (String × Call String Unit) :=
      [("12:00", .softDeleteOneById "r"), ("12:01", .softDeleteOneById "r"), ("12:02", .restoreOneById "r"),
        ("12:03", .restoreOneById "r"), ("12:04", .softDeleteOneById "s")]
    (runCalls TypeOrm.plain "t" calls twoTenants).2
      = [.number 1, .number 0, .number 1, .number 0, .number 0] := by
  rfl

end Repository
end NestSdk
