import NestSdk.Lib.Sql
import NestSdk.Lib.Table
import NestSdk.Outbox.Entity

/-!
# `Outbox.Repository` — the queries of `OutboxEventRepository`

`claimDueBatch`, `markPublished`, `recordFailure` and `updateClaimed` over one table, as the SQL they issue.
What the source takes from its surroundings is an argument: `now` is the database's `NOW()`, `claimedAt` and
`at` the application's `new Date()`, `claimToken` the fresh `randomUUID()`, and `locked` the rows other
transactions hold when `SKIP LOCKED` looks at them.
-/

namespace NestSdk
namespace Outbox

open Js Lib Lib.Sql

/-- An outbox table, keyed by `id`. -/
abbrev OutboxTable := Table OutboxEvent.id

/-! ## `claimDueBatch` -/

structure ClaimDueBatchDto where
  batchSize : Nat
  claimTimeoutMs : Time
deriving DecidableEq, Repr

/-- The `WHERE` of `claimDueBatch`. -/
def claimable (now claimTimeoutMs : Time) (event : OutboxEvent) : Truth :=
  (isNull event.deletedAt).and <|
  (Truth.or (some (event.status = .pending)) (some (event.status = .processing))).and <|
  (compare (fun nextAttemptAt => nextAttemptAt ≤ now) event.nextAttemptAt).and <|
  (Truth.or (some (event.status = .pending)) <|
    (isNull event.claimedAt).or <|
      compare (fun claimedAt => claimedAt < now - claimTimeoutMs) event.claimedAt)

/-- `ASC` on a nullable column: nulls last. -/
def ascending : Option Time → Option Time → Ordering
  | some a, some b => Ord.compare a b
  | some _, none => .lt
  | none, some _ => .gt
  | none, none => .eq

/-- `ORDER BY next_attempt_at ASC, created_at ASC`. -/
def dueBefore (a b : OutboxEvent) : Prop :=
  ((ascending a.nextAttemptAt b.nextAttemptAt).then (Ord.compare a.createdAt b.createdAt)).isLE = true

instance : DecidableRel dueBefore := fun _ _ => inferInstanceAs (Decidable (_ = true))

/-- The rows the locking `SELECT` of `claimDueBatch` returns. -/
def selectDue (table : OutboxTable) (dto : ClaimDueBatchDto) (now : Time) (locked : List Uuid) :
    List OutboxEvent :=
  ((table.rows.filter
    (fun event => (claimable now dto.claimTimeoutMs event).holds && event.id ∉ locked)).insertionSort
      dueBefore).take dto.batchSize

/-- What `claimDueBatch` assigns to each row it takes. -/
def stamp (claimToken : Uuid) (claimedAt : Time) (row : OutboxEvent) : OutboxEvent :=
  { row with status := .processing, claimedAt := some claimedAt, claimToken := some claimToken }

/-- Takes up to `batchSize` due rows and stamps them with one fresh claim token. -/
def claimDueBatch (table : OutboxTable) (dto : ClaimDueBatchDto) (now : Time) (locked : List Uuid)
    (claimToken : Uuid) (claimedAt : Time) : OutboxTable × List OutboxEvent :=
  let rows := selectDue table dto now locked
  if rows.length = 0 then (table, [])
  else
    let saved := rows.map (stamp claimToken claimedAt)
    (table.overwrite saved, saved)

/-! ## Terminal writes -/

/-- What a terminal write is constrained by: the row, its tenant and the claim. -/
structure Claim where
  id : Uuid
  tenantId : Uuid
  claimToken : Uuid
deriving DecidableEq, Repr

structure RecordFailureDto extends Claim where
  attemptCount : Nat
  nextAttemptAt : Option Time
  isDeadLetter : Bool
  lastError : Str
deriving DecidableEq, Repr

/-- `WHERE id = … AND tenant_id = … AND claim_token = …`. -/
def ownedBy (claim : Claim) (event : OutboxEvent) : Bool :=
  event.id = claim.id && event.tenantId = claim.tenantId &&
    (compare (fun token => token = claim.claimToken) event.claimToken).holds

/-- Applies a terminal write, but only for the attempt that holds the claim. -/
def updateClaimed (table : OutboxTable) (claim : Claim) (patch : OutboxEvent → OutboxEvent)
    (hid : ∀ event, (patch event).id = event.id) : OutboxTable × Bool :=
  (table.updateWhere (ownedBy claim) patch hid, table.affected (ownedBy claim) == 1)

/-- The columns `markPublished` sets. -/
def publishedPatch (publishedAt : Time) (event : OutboxEvent) : OutboxEvent :=
  { event with
    status := .published
    publishedAt := some publishedAt
    nextAttemptAt := none
    claimedAt := none
    claimToken := none
    lastError := none }

/-- Returns false when the claim was already taken over. -/
def markPublished (table : OutboxTable) (dto : Claim) (publishedAt : Time) : OutboxTable × Bool :=
  updateClaimed table dto (publishedPatch publishedAt) (fun _ => rfl)

/-- The columns `recordFailure` sets; `lastError` is cut to the column's width. -/
def failurePatch (dto : RecordFailureDto) (event : OutboxEvent) : OutboxEvent :=
  { event with
    status := if dto.isDeadLetter then .deadLetter else .pending
    attemptCount := dto.attemptCount
    nextAttemptAt := if dto.isDeadLetter then none else dto.nextAttemptAt
    claimedAt := none
    claimToken := none
    lastError := some (dto.lastError.take 500) }

/-- Records a failed attempt, scheduling a retry or dead-lettering it. -/
def recordFailure (table : OutboxTable) (dto : RecordFailureDto) : OutboxTable × Bool :=
  updateClaimed table dto.toClaim (failurePatch dto) (fun _ => rfl)

/-! ## What a claim does -/

/-- The claim predicate, column by column. -/
theorem claimable_holds {now claimTimeoutMs : Time} {event : OutboxEvent} :
    (claimable now claimTimeoutMs event).holds = true ↔
      event.deletedAt = none ∧ (event.status = .pending ∨ event.status = .processing) ∧
      (∃ t, event.nextAttemptAt = some t ∧ t ≤ now) ∧
      (event.status = .pending ∨ event.claimedAt = none ∨
        ∃ t, event.claimedAt = some t ∧ t < now - claimTimeoutMs) := by
  simp [claimable, holds_compare]

/-- A terminal row is never claimable. -/
theorem not_claimable_of_terminal {now claimTimeoutMs : Time} {event : OutboxEvent}
    (h : event.status.isTerminal = true) : (claimable now claimTimeoutMs event).holds = false := by
  rw [Bool.eq_false_iff]
  intro hc
  obtain ⟨-, hstatus, -, -⟩ := claimable_holds.mp hc
  rcases hstatus with hs | hs <;> simp [hs, OutboxEventStatus.isTerminal] at h

theorem mem_selectDue {table : OutboxTable} {dto : ClaimDueBatchDto} {now : Time}
    {locked : List Uuid} {row : OutboxEvent} (h : row ∈ selectDue table dto now locked) :
    row ∈ table.rows ∧ (claimable now dto.claimTimeoutMs row).holds = true := by
  have hfilter := (List.mem_insertionSort dueBefore).mp (List.mem_of_mem_take h)
  obtain ⟨hmem, hdue⟩ := List.mem_filter.mp hfilter
  exact ⟨hmem, (Bool.and_eq_true _ _ ▸ hdue).1⟩

/-- No row is taken twice by one claim. -/
theorem selectDue_nodup (table : OutboxTable) (dto : ClaimDueBatchDto) (now : Time)
    (locked : List Uuid) : ((selectDue table dto now locked).map OutboxEvent.id).Nodup := by
  have hsort := List.perm_insertionSort dueBefore (table.rows.filter
    (fun event => (claimable now dto.claimTimeoutMs event).holds && event.id ∉ locked))
  have hall := (hsort.map OutboxEvent.id).nodup_iff.mpr
    (List.Nodup.sublist (List.Sublist.map _ List.filter_sublist) table.nodup)
  exact List.Nodup.sublist (List.Sublist.map _ (List.take_sublist _ _)) hall

/-- The events `claimDueBatch` hands back are the rows it selected, stamped. -/
theorem claimDueBatch_batch (table : OutboxTable) (dto : ClaimDueBatchDto) (now : Time)
    (locked : List Uuid) (claimToken : Uuid) (claimedAt : Time) :
    (claimDueBatch table dto now locked claimToken claimedAt).2
      = (selectDue table dto now locked).map (stamp claimToken claimedAt) := by
  unfold claimDueBatch
  by_cases hrows : (selectDue table dto now locked).length = 0
  · simp [List.length_eq_zero_iff.mp hrows]
  · simp only [hrows, if_false]

/-- **What a claim does to one row:** a selected row is stamped, any other is left alone. -/
theorem get_claimDueBatch (table : OutboxTable) (dto : ClaimDueBatchDto) (now : Time)
    (locked : List Uuid) (claimToken : Uuid) (claimedAt : Time) (id : Uuid) :
    (claimDueBatch table dto now locked claimToken claimedAt).1.get id
      = (table.get id).map (fun row =>
          if row ∈ selectDue table dto now locked then stamp claimToken claimedAt row else row) := by
  unfold claimDueBatch
  by_cases hrows : (selectDue table dto now locked).length = 0
  · simp [List.length_eq_zero_iff.mp hrows]
  · simp only [hrows, if_false, Table.get_overwrite]
    have hkeys : ((selectDue table dto now locked).map (stamp claimToken claimedAt)).map
        OutboxEvent.id = (selectDue table dto now locked).map OutboxEvent.id := by
      rw [List.map_map]; rfl
    cases hget : table.get id with
    | none => rfl
    | some row =>
        obtain ⟨hmem, rfl⟩ := Table.get_eq_some.mp hget
        rw [Option.map_some, Option.map_some]
        congr 1
        by_cases hsel : row ∈ selectDue table dto now locked
        · have hnd := hkeys ▸ selectDue_nodup table dto now locked
          have hfind := Table.find_key_of_mem hnd
            (List.mem_map_of_mem (f := stamp claimToken claimedAt) hsel)
          rw [show row.id = (stamp claimToken claimedAt row).id from rfl, hfind, if_pos hsel]
          rfl
        · -- a selected row with this key would be this row
          have hnone : row.id ∉ ((selectDue table dto now locked).map
              (stamp claimToken claimedAt)).map OutboxEvent.id := by
            rw [hkeys]
            intro hid
            obtain ⟨row', hrow', hid'⟩ := List.mem_map.mp hid
            exact hsel (Table.eq_of_key (mem_selectDue hrow').1 hmem hid' ▸ hrow')
          rw [Table.find_key_of_not_mem hnone, if_neg hsel]
          rfl

/-- **The rows a claim leaves:** the selected ones stamped, the others as they were. -/
theorem rows_claimDueBatch (table : OutboxTable) (dto : ClaimDueBatchDto) (now : Time) (locked : List Uuid)
    (claimToken : Uuid) (claimedAt : Time) :
    (claimDueBatch table dto now locked claimToken claimedAt).1.rows
      = table.rows.map fun row => if row ∈ selectDue table dto now locked then stamp claimToken claimedAt row else row := by
  by_cases hrows : (selectDue table dto now locked).length = 0
  · unfold claimDueBatch
    rw [List.length_eq_zero_iff.mp hrows]
    simp
  · have hget := get_claimDueBatch table dto now locked claimToken claimedAt
    unfold claimDueBatch at hget ⊢
    simp only [hrows, if_false, Table.get_overwrite] at hget ⊢
    refine List.map_congr_left fun row hrow => ?_
    have hsaved := hget row.id
    simp only [Table.get_of_mem hrow, Option.map_some, Option.some.injEq] at hsaved
    exact hsaved

/-! ## What a terminal write does -/

theorem ownedBy_iff {claim : Claim} {event : OutboxEvent} :
    ownedBy claim event = true ↔
      event.id = claim.id ∧ event.tenantId = claim.tenantId ∧
        event.claimToken = some claim.claimToken := by
  simp [ownedBy, holds_compare, and_assoc]

theorem get_updateClaimed (table : OutboxTable) (claim : Claim) (patch : OutboxEvent → OutboxEvent)
    (hid : ∀ event, (patch event).id = event.id) (id : Uuid) :
    (updateClaimed table claim patch hid).1.get id
      = (table.get id).map (fun row => if ownedBy claim row then patch row else row) :=
  Table.get_updateWhere table (ownedBy claim) patch hid id

/-- A terminal write answers true exactly when the row still carries the claim. -/
theorem updateClaimed_eq_true {table : OutboxTable} {claim : Claim}
    {patch : OutboxEvent → OutboxEvent} {hid : ∀ event, (patch event).id = event.id} :
    (updateClaimed table claim patch hid).2 = true ↔
      ∃ row, table.get claim.id = some row ∧ ownedBy claim row = true := by
  unfold updateClaimed
  rw [beq_iff_eq, Table.affected_eq_one (k := claim.id) (fun r hr => (ownedBy_iff.mp hr).1)]

/-- **A terminal write that answers false wrote nothing.** -/
theorem updateClaimed_eq_false {table : OutboxTable} {claim : Claim}
    {patch : OutboxEvent → OutboxEvent} {hid : ∀ event, (patch event).id = event.id}
    (h : (updateClaimed table claim patch hid).2 = false) :
    (updateClaimed table claim patch hid).1 = table := by
  have hle : table.affected (ownedBy claim) ≤ 1 :=
    Table.affected_le_one (fun r hr => (ownedBy_iff.mp hr).1)
  have hne : table.affected (ownedBy claim) ≠ 1 := by simpa [updateClaimed] using h
  have hnone : table.affected (ownedBy claim) = 0 := by omega
  exact Table.updateWhere_of_affected hid hnone

end Outbox
end NestSdk
