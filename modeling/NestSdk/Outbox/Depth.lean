import NestSdk.Metrics.Service
import NestSdk.Outbox.Shared

/-!
# `Outbox.Depth` — what a scrape is told of the queue

`collect` counts the rows in each outstanding state, with no memory of its own. What it says about the past follows
from where rows can go: a row is enqueued pending, leased, and then settled, retried or buried. `Balanced` says that of
the totals of a table and of the statements executed on it; nothing else adds, moves or removes a row.

**`collect_accounts`**: at any moment of any interleaving the three depths, with the rows that are soft-deleted, are
what these statements add up to.
-/

namespace NestSdk
namespace Outbox

open Js Lib Lib.Sql Metrics

/-! ## `collect` -/

/-- The statuses of rows that are still work. -/
def outstandingStatuses : List OutboxEventStatus := [.pending, .processing, .deadLetter]

/-- The `WHERE` of `collect`. -/
def outstanding (event : OutboxEvent) : Truth :=
  (isNull event.deletedAt).and (some (event.status ∈ outstandingStatuses))

/-- The rows of its `GROUP BY`: one for each status that occurs, with the `COUNT(*)`. -/
def statusCounts (table : OutboxTable) : List (OutboxEventStatus × ℕ) :=
  let rows := table.rows.filter fun event => (outstanding event).holds
  (rows.map OutboxEvent.status).dedup.map fun status =>
    (status, rows.countP fun event => event.status = status)

/-- Current depth per state, zeroes included. -/
def collect (table : OutboxTable) : List QueueDepthReading :=
  let depths := statusCounts table
  [ { state := .pending, depth := (depths.lookup .pending).getD 0 },
    { state := .inFlight, depth := (depths.lookup .processing).getD 0 },
    { state := .deadLettered, depth := (depths.lookup .deadLetter).getD 0 } ]

/-- How many rows have a status and satisfy a test. -/
def countWhere (table : OutboxTable) (status : OutboxEventStatus) (test : OutboxEvent → Bool) : ℕ :=
  table.affected fun event => event.status = status && test event

/-- How many rows with a status are not soft-deleted, and how many are. -/
def live (table : OutboxTable) (status : OutboxEventStatus) : ℕ :=
  countWhere table status fun event => event.deletedAt.isNone

def softDeleted (table : OutboxTable) (status : OutboxEventStatus) : ℕ :=
  countWhere table status fun event => event.deletedAt.isSome

/-- How many rows have a status. -/
def total (table : OutboxTable) (status : OutboxEventStatus) : ℕ :=
  table.affected fun event => event.status = status

theorem live_add_softDeleted (table : OutboxTable) (status : OutboxEventStatus) :
    live table status + softDeleted table status = total table status := by
  unfold live softDeleted countWhere total Table.affected
  induction table.rows with
  | nil => rfl
  | cons row rows ih =>
      rw [List.countP_cons, List.countP_cons, List.countP_cons, ← ih]
      by_cases hstatus : row.status = status
      · cases hdeleted : row.deletedAt with
        | none => simp only [hstatus, hdeleted]; simp; omega
        | some deletedAt => simp only [hstatus, hdeleted]; simp; omega
      · simp [hstatus]

/-- Looking up one of the counted statuses gives its count, or nothing where it does not occur. -/
theorem lookup_counts {statuses : List OutboxEventStatus} (count : OutboxEventStatus → ℕ)
    (status : OutboxEventStatus) :
    (statuses.map fun s => (s, count s)).lookup status = if status ∈ statuses then some (count status) else none := by
  induction statuses with
  | nil => rfl
  | cons s statuses ih =>
      rw [List.map_cons, List.lookup_cons, ih]
      by_cases hs : status = s
      · subst hs
        simp
      · have hbeq : (status == s) = false := beq_eq_false_iff_ne.mpr hs
        simp [hbeq, hs]

/-- **A depth is the number of live rows in the state,** also where there is none. -/
theorem depth_eq (table : OutboxTable) {status : OutboxEventStatus} (h : status ∈ outstandingStatuses) :
    ((statusCounts table).lookup status).getD 0 = live table status := by
  have hlive : live table status
      = (table.rows.filter fun event => (outstanding event).holds).countP fun event => event.status = status := by
    unfold live countWhere Table.affected
    rw [List.countP_filter]
    refine List.countP_congr fun event _ => ?_
    by_cases hstatus : event.status = status
    · subst hstatus
      simp [outstanding, h]
    · simp [hstatus]
  unfold statusCounts
  dsimp only
  rw [lookup_counts, hlive]
  split
  · rfl
  · next hnone =>
      rw [List.mem_dedup, List.mem_map] at hnone
      refine (List.countP_eq_zero.mpr fun event hevent hstatus => hnone ?_).symm
      exact ⟨event, hevent, of_decide_eq_true hstatus⟩

theorem collect_eq (table : OutboxTable) :
    collect table = [⟨.pending, live table .pending⟩, ⟨.inFlight, live table .processing⟩,
      ⟨.deadLettered, live table .deadLetter⟩] := by
  unfold collect
  dsimp only
  rw [depth_eq table (by decide), depth_eq table (by decide), depth_eq table (by decide)]

/-! ## Where rows go -/

/-- How many rows were added, taken from pending, delivered, put back and given up on. -/
@[ext]
structure Flow where
  enqueued : ℕ := 0
  leased : ℕ := 0
  delivered : ℕ := 0
  retried : ℕ := 0
  buried : ℕ := 0

/-- What one statement moved. A claim leases the rows of its batch that were pending; those it takes over stay where
    they are. -/
def Record.flow (r : Record) : Flow :=
  match r.event.op, r.answer with
  | .enqueue row, _ => if row.id ∈ r.before.table.rows.map OutboxEvent.id then {} else { enqueued := 1 }
  | .claimDueBatch _ _ _, .batch events =>
      { leased := events.countP fun event =>
          (r.before.table.get event.id).any fun row => row.status = .pending }
  | .markPublished _, .written true => { delivered := 1 }
  | .recordFailure dto, .written true => if dto.isDeadLetter then { buried := 1 } else { retried := 1 }
  | _, _ => {}

/-- A count over everything a history moved. -/
def tally (count : Flow → ℕ) (history : List Record) : ℕ := (history.map fun r => count r.flow).sum

/-- Every status gains what came in and loses what went out. -/
structure Conserved (before after : OutboxTable) (f : Flow) : Prop where
  pending : total after .pending + f.leased = total before .pending + f.enqueued + f.retried
  processing : total after .processing + (f.delivered + f.retried + f.buried) = total before .processing + f.leased
  published : total after .published = total before .published + f.delivered
  deadLetter : total after .deadLetter = total before .deadLetter + f.buried

/-- **The books balance:** every status holds what came in less what went out. -/
structure Balanced (initial : ℕ) (s : Shared) : Prop where
  pending : total s.store.table .pending + tally Flow.leased s.history
    = initial + tally Flow.enqueued s.history + tally Flow.retried s.history
  processing : total s.store.table .processing
      + (tally Flow.delivered s.history + tally Flow.retried s.history + tally Flow.buried s.history)
    = tally Flow.leased s.history
  published : total s.store.table .published = tally Flow.delivered s.history
  deadLetter : total s.store.table .deadLetter = tally Flow.buried s.history

/-- Rows that change from one status to another, the others keeping theirs: what leaves the one total enters the
    other. -/
theorem countP_moved {p : OutboxEvent → Bool} {g : OutboxEvent → OutboxEvent} {a b : OutboxEventStatus}
    (rows : List OutboxEvent) (hfrom : ∀ row ∈ rows, p row = true → row.status = a)
    (hto : ∀ row ∈ rows, p row = true → (g row).status = b)
    (hkeep : ∀ row ∈ rows, p row = false → (g row).status = row.status) (status : OutboxEventStatus) :
    (rows.map g).countP (fun row => row.status = status) + (if status = a then rows.countP p else 0)
      = rows.countP (fun row => row.status = status) + (if status = b then rows.countP p else 0) := by
  induction rows with
  | nil => simp
  | cons row rows ih =>
      have hrest := ih (fun r hr => hfrom r (List.mem_cons_of_mem _ hr)) (fun r hr => hto r (List.mem_cons_of_mem _ hr))
        (fun r hr => hkeep r (List.mem_cons_of_mem _ hr))
      simp only [List.map_cons, List.countP_cons]
      cases hp : p row with
      | false =>
          rw [hkeep row List.mem_cons_self hp]
          simp only [Bool.false_eq_true, if_false, Nat.add_zero]
          omega
      | true =>
          rw [hfrom row List.mem_cons_self hp, hto row List.mem_cons_self hp]
          grind

/-! ## What each statement moves -/

theorem tally_cons (count : Flow → ℕ) (r : Record) (history : List Record) :
    tally count (r :: history) = count r.flow + tally count history := by
  rw [tally, List.map_cons, List.sum_cons]
  rfl

theorem total_insert (table : OutboxTable) {row : OutboxEvent} (hnew : row.id ∉ table.rows.map OutboxEvent.id)
    (status : OutboxEventStatus) :
    total (table.insert row hnew) status = total table status + if row.status = status then 1 else 0 := by
  show (row :: table.rows).countP (fun event => event.status = status) = _
  rw [List.countP_cons]
  by_cases hstatus : row.status = status <;> simp [hstatus, total, Table.affected]

/-- A write that leaves the status alone. -/
theorem total_setDeletedAt (table : OutboxTable) (tenantId id : Uuid) (deletedAt : Option Time)
    (status : OutboxEventStatus) : total (setDeletedAt table tenantId id deletedAt) status = total table status := by
  refine (List.countP_map).trans (List.countP_congr fun row _ => ?_)
  show decide ((if row.id = id && row.tenantId = tenantId then { row with deletedAt := deletedAt } else row).status
    = status) = true ↔ _
  split
  · exact Iff.rfl
  · exact Iff.rfl

/-- **A terminal write of processing rows** takes them from there to the status it sets. -/
theorem total_updateClaimed {table : OutboxTable} {claim : Claim} (patch : OutboxEvent → OutboxEvent)
    (hid : ∀ row, (patch row).id = row.id) (after : OutboxEventStatus) (hafter : ∀ row, (patch row).status = after)
    (howned : ∀ row ∈ table.rows, ownedBy claim row = true → row.status = .processing)
    (status : OutboxEventStatus) :
    total (updateClaimed table claim patch hid).1 status
        + (if status = .processing then table.affected (ownedBy claim) else 0)
      = total table status + if status = after then table.affected (ownedBy claim) else 0 := by
  refine countP_moved table.rows howned ?_ ?_ status
  · intro row _ hrow
    rw [if_pos hrow]
    exact hafter row
  · intro row _ hrow
    rw [if_neg (by rw [hrow]; exact Bool.false_ne_true)]

/-- The rows a claim leases: those it selects that were pending. -/
def leases (table : OutboxTable) (dto : ClaimDueBatchDto) (now : Time) (locked : List Uuid) : ℕ :=
  table.affected fun row => row ∈ selectDue table dto now locked && row.status = .pending

/-- **A claim** takes pending rows to processing; the ones it takes over stay there. -/
theorem total_claimDueBatch (table : OutboxTable) (dto : ClaimDueBatchDto) (now : Time) (locked : List Uuid)
    (claimToken : Uuid) (claimedAt : Time) (status : OutboxEventStatus) :
    total (claimDueBatch table dto now locked claimToken claimedAt).1 status
        + (if status = .pending then leases table dto now locked else 0)
      = total table status + if status = .processing then leases table dto now locked else 0 := by
  unfold total Table.affected
  rw [rows_claimDueBatch]
  refine countP_moved table.rows ?_ ?_ ?_ status
  · intro row _ hrow
    exact of_decide_eq_true (Bool.and_eq_true _ _ ▸ hrow).2
  · intro row _ hrow
    rw [if_pos (of_decide_eq_true (Bool.and_eq_true _ _ ▸ hrow).1)]
    rfl
  · intro row _ hrow
    by_cases hsel : row ∈ selectDue table dto now locked
    · have hdue := (claimable_holds.mp (mem_selectDue hsel).2).2.1
      have hpending : row.status ≠ .pending := by simpa [hsel] using hrow
      rw [if_pos hsel, hdue.resolve_left hpending]
      rfl
    · rw [if_neg hsel]

/-- The same number, read off the batch. -/
theorem flow_of_claim {s : Store} {e : Event} {dto : ClaimDueBatchDto} {locked : List Uuid} {token : Uuid}
    (hop : e.op = .claimDueBatch dto locked token) :
    (s.record e).flow = { leased := leases s.table dto s.now locked } := by
  have hbatch : (s.record e).answer = .batch ((selectDue s.table dto s.now locked).map (stamp token e.clock)) := by
    simp only [Store.record, Store.exec, hop, claimDueBatch_batch]
  have hop' : (s.record e).event.op = .claimDueBatch dto locked token := hop
  have hrows : (s.table.rows.filter fun row => row ∈ selectDue s.table dto s.now locked).Perm
      (selectDue s.table dto s.now locked) := by
    refine (List.perm_ext_iff_of_nodup ?_ ?_).mpr ?_
    · exact List.Nodup.sublist List.filter_sublist (List.Nodup.of_map _ s.table.nodup)
    · exact List.Nodup.of_map _ (selectDue_nodup s.table dto s.now locked)
    · intro row
      rw [List.mem_filter, decide_eq_true_iff]
      exact and_iff_right_of_imp fun h => (mem_selectDue h).1
  unfold Record.flow
  rw [hbatch, hop']
  dsimp only
  congr 1
  unfold leases Table.affected
  rw [List.countP_map]
  calc List.countP _ (selectDue s.table dto s.now locked)
      = (selectDue s.table dto s.now locked).countP fun row => row.status = .pending := by
        refine List.countP_congr fun row hrow => ?_
        have hget : s.table.get row.id = some row := Table.get_of_mem (mem_selectDue hrow).1
        simp [stamp, Store.record, hget]
    _ = (s.table.rows.filter fun row => row ∈ selectDue s.table dto s.now locked).countP
          fun row => row.status = .pending := (hrows.countP_eq _).symm
    _ = _ := by
        rw [List.countP_filter]
        exact List.countP_congr fun row _ => by simp [and_comm]

/-- A statement that moves nothing. -/
theorem Conserved.quiet {before after : OutboxTable} (h : ∀ status, total after status = total before status) :
    Conserved before after {} :=
  ⟨h .pending, h .processing, h .published, h .deadLetter⟩

/-- Rows that go from one status to another, as the totals see them. -/
theorem conserved_updateClaimed {table : OutboxTable} {claim : Claim} (patch : OutboxEvent → OutboxEvent)
    (hid : ∀ row, (patch row).id = row.id) (after : OutboxEventStatus) (hafter : ∀ row, (patch row).status = after)
    (howned : ∀ row ∈ table.rows, ownedBy claim row = true → row.status = .processing) {f : ℕ → Flow}
    (hzero : f 0 = {})
    (hflow : ∀ before after', (∀ status, total after' status + (if status = .processing then 1 else 0)
        = total before status + if status = after then 1 else 0) → Conserved before after' (f 1)) :
    Conserved table (updateClaimed table claim patch hid).1
      (f (if (updateClaimed table claim patch hid).2 then 1 else 0)) := by
  have htotal := total_updateClaimed patch hid after hafter howned
  have hle : table.affected (ownedBy claim) ≤ 1 :=
    Table.affected_le_one (k := claim.id) fun r hr => (ownedBy_iff.mp hr).1
  by_cases hone : table.affected (ownedBy claim) = 1
  · have hok : (updateClaimed table claim patch hid).2 = true := beq_iff_eq.mpr hone
    rw [hok, if_pos rfl]
    refine hflow table _ fun status => ?_
    have hstatus := htotal status
    rwa [hone] at hstatus
  · have hnone : table.affected (ownedBy claim) = 0 := by omega
    have hno : (updateClaimed table claim patch hid).2 = false := by
      simp only [updateClaimed, hnone]
      rfl
    rw [hno, if_neg Bool.false_ne_true, hzero, updateClaimed_eq_false hno]
    exact .quiet fun _ => rfl

/-- **What one statement moves is all it changes of the totals.** -/
theorem exec_conserved {s : Store} {e : Event} (hnew : Enqueues Unclaimed e.op)
    (hheld : ∀ row ∈ s.table.rows, row.claimToken ≠ none → row.status = .processing) :
    Conserved s.table (s.exec e).1.table (s.record e).flow := by
  have howned : ∀ claim, ∀ row ∈ s.table.rows, ownedBy claim row = true → row.status = .processing := by
    intro claim row hrow hown
    apply hheld row hrow
    rw [(ownedBy_iff.mp hown).2.2]
    exact Option.some_ne_none _
  cases hop : e.op with
  | enqueue row =>
      rw [hop] at hnew
      have hstatus : row.status = .pending := hnew.1
      by_cases htaken : row.id ∈ s.table.rows.map OutboxEvent.id
      · have hflow : (s.record e).flow = {} := by
          simp only [Record.flow, Store.record, hop]
          exact if_pos htaken
        simp only [hflow, Store.exec, hop, dif_pos htaken]
        exact .quiet fun _ => rfl
      · have hflow : (s.record e).flow = { enqueued := 1 } := by
          simp only [Record.flow, Store.record, hop]
          exact if_neg htaken
        simp only [hflow, Store.exec, hop, dif_neg htaken]
        constructor <;> simp [total_insert, hstatus]
  | claimDueBatch dto locked token =>
      rw [flow_of_claim hop]
      simp only [Store.exec, hop]
      have htotal := total_claimDueBatch s.table dto s.now locked token e.clock
      have hpending := htotal .pending
      have hprocessing := htotal .processing
      have hpublished := htotal .published
      have hdead := htotal .deadLetter
      simp only [reduceCtorEq, if_true, if_false] at hpending hprocessing hpublished hdead
      exact ⟨hpending, hprocessing, hpublished, hdead⟩
  | markPublished claim =>
      have hflow : (s.record e).flow =
          (fun n => { delivered := n }) (if (Outbox.markPublished s.table claim e.clock).2 then 1 else 0) := by
        simp only [Record.flow, Store.record, Store.exec, hop]
        cases (Outbox.markPublished s.table claim e.clock).2 <;> rfl
      rw [hflow]
      simp only [Store.exec, hop]
      refine conserved_updateClaimed (publishedPatch e.clock) (fun _ => rfl) .published (fun _ => rfl) (howned claim)
        (f := fun n => { delivered := n }) rfl ?_
      intro before after h
      exact ⟨h .pending, h .processing, h .published, h .deadLetter⟩
  | recordFailure dto =>
      let f : ℕ → Flow := fun n => if dto.isDeadLetter then { buried := n } else { retried := n }
      have hflow : (s.record e).flow = f (if (Outbox.recordFailure s.table dto).2 then 1 else 0) := by
        simp only [Record.flow, Store.record, Store.exec, hop, f]
        cases (Outbox.recordFailure s.table dto).2 with
        | true => rfl
        | false =>
            show ({} : Flow) = if dto.isDeadLetter = true then { buried := 0 } else { retried := 0 }
            split <;> rfl
      rw [hflow]
      simp only [Store.exec, hop]
      refine conserved_updateClaimed (failurePatch dto) (fun _ => rfl)
        (if dto.isDeadLetter then .deadLetter else .pending) (fun _ => rfl) (howned dto.toClaim) (f := f) ?_ ?_
      · simp only [f]
        cases dto.isDeadLetter <;> rfl
      · intro before after h
        simp only [f]
        cases hdead : dto.isDeadLetter with
        | true =>
            simp only [hdead, if_true] at h ⊢
            exact ⟨h .pending, h .processing, h .published, h .deadLetter⟩
        | false =>
            simp only [hdead, Bool.false_eq_true, if_false] at h ⊢
            exact ⟨h .pending, h .processing, h .published, h .deadLetter⟩
  | softDeleteOneById tenantId id | restoreOneById tenantId id =>
      have hflow : (s.record e).flow = {} := by simp only [Record.flow, Store.record, hop]
      simp only [hflow, Store.exec, hop]
      exact .quiet fun status => total_setDeletedAt _ _ _ _ status
  | elapse ms =>
      have hflow : (s.record e).flow = {} := by simp only [Record.flow, Store.record, hop]
      simp only [hflow, Store.exec, hop]
      exact .quiet fun _ => rfl

/-- **One statement keeps the books balanced.** -/
theorem Balanced.exec {initial : ℕ} {s : Shared} (h : Balanced initial s) {e : Event}
    (hnew : Enqueues Unclaimed e.op)
    (hheld : ∀ row ∈ s.store.table.rows, row.claimToken ≠ none → row.status = .processing) :
    Balanced initial (s.exec e) := by
  obtain ⟨hpending, hprocessing, hpublished, hdead⟩ := h
  have hmoved := exec_conserved hnew hheld
  obtain ⟨hpending', hprocessing', hpublished', hdead'⟩ := hmoved
  unfold Shared.exec
  constructor <;> simp only [tally_cons]
  · omega
  · omega
  · omega
  · omega

theorem run_balanced {start s : Shared} (hstart : Initial Unclaimed start) (hrun : Run (Enqueues Unclaimed) start s) :
    Balanced start.store.table.rows.length s := by
  induction hrun with
  | refl =>
      have hpending : ∀ status, total start.store.table status
          = if OutboxEventStatus.pending = status then start.store.table.rows.length else 0 := by
        intro status
        unfold total Table.affected
        split
        · next h =>
            refine List.countP_eq_length.mpr fun row hrow => ?_
            rw [(hstart.rows row hrow).1, h]
            exact decide_eq_true rfl
        · next h =>
            refine List.countP_eq_zero.mpr fun row hrow => ?_
            rw [(hstart.rows row hrow).1]
            simpa using h
      constructor <;> simp [hpending, hstart.history, tally]
  | @tail mid _ hmid hstep ih =>
      cases hstep with
      | exec e hallowed _ =>
          refine ih.exec hallowed fun row hrow => ?_
          exact Run.processing_of_claimToken (fun _ h => h.2) (fun row hrow => (hstart.rows row hrow).2) hmid
            (Table.get_of_mem hrow)

/-- **The depths account for every event.** Whatever any number of callers did to the table: `collect` gives one
    reading for each outstanding state, and what they count, with the rows soft-deleted since, is the rows that were
    there and were enqueued, less those leased, plus those put back; the rows leased, less those settled; and the rows
    given up on. -/
theorem collect_accounts {start s : Shared} (hstart : Initial Unclaimed start)
    (hrun : Run (Enqueues Unclaimed) start s) :
    ∃ pending inFlight deadLettered : ℕ,
      collect s.store.table =
        [⟨.pending, pending⟩, ⟨.inFlight, inFlight⟩, ⟨.deadLettered, deadLettered⟩] ∧
      pending + softDeleted s.store.table .pending + tally Flow.leased s.history
        = start.store.table.rows.length + tally Flow.enqueued s.history + tally Flow.retried s.history ∧
      inFlight + softDeleted s.store.table .processing
          + (tally Flow.delivered s.history + tally Flow.retried s.history + tally Flow.buried s.history)
        = tally Flow.leased s.history ∧
      deadLettered + softDeleted s.store.table .deadLetter = tally Flow.buried s.history := by
  obtain ⟨hpending, hprocessing, -, hdead⟩ := run_balanced hstart hrun
  refine ⟨live s.store.table .pending, live s.store.table .processing, live s.store.table .deadLetter,
    collect_eq s.store.table, ?_, ?_, ?_⟩
  · rw [live_add_softDeleted]
    exact hpending
  · rw [live_add_softDeleted]
    exact hprocessing
  · rw [live_add_softDeleted]
    exact hdead

/-! ## One row, delivered -/

/-- The one row is claimed and published. -/
def deliveredRun : Shared :=
  ((⟨sampleStore, []⟩ : Shared).exec ⟨⟨0, 0⟩, 0, .claimDueBatch ⟨10, 100⟩ [] (str "c0")⟩).exec
    ⟨⟨0, 0⟩, 0, .markPublished ⟨str "e", str "t", str "c0"⟩⟩

theorem run_deliveredRun : Run (Enqueues Unclaimed) ⟨sampleStore, []⟩ deliveredRun := by
  refine .tail (.single (.exec ⟨⟨0, 0⟩, 0, .claimDueBatch ⟨10, 100⟩ [] (str "c0")⟩ trivial ?_))
    (.exec ⟨⟨0, 0⟩, 0, .markPublished ⟨str "e", str "t", str "c0"⟩⟩ trivial ?_)
  · intro token _
    exact List.not_mem_nil
  · intro token htoken
    exact absurd htoken (by simp [Op.claimToken?])

theorem sampleStore_initial : Initial Unclaimed ⟨sampleStore, []⟩ where
  history := rfl
  rows row hrow := by
    obtain rfl : row = sampleRow := List.mem_singleton.mp hrow
    exact ⟨rfl, rfl⟩

/-- Its lease and its delivery are on the books. -/
theorem collect_accounts_delivered :
    ∃ pending inFlight deadLettered : ℕ,
      collect deliveredRun.store.table =
        [⟨.pending, pending⟩, ⟨.inFlight, inFlight⟩, ⟨.deadLettered, deadLettered⟩] ∧
      pending + softDeleted deliveredRun.store.table .pending + tally Flow.leased deliveredRun.history
        = 1 + tally Flow.enqueued deliveredRun.history + tally Flow.retried deliveredRun.history ∧
      inFlight + softDeleted deliveredRun.store.table .processing + (tally Flow.delivered deliveredRun.history
          + tally Flow.retried deliveredRun.history + tally Flow.buried deliveredRun.history)
        = tally Flow.leased deliveredRun.history ∧
      deadLettered + softDeleted deliveredRun.store.table .deadLetter = tally Flow.buried deliveredRun.history :=
  collect_accounts sampleStore_initial run_deliveredRun

end Outbox
end NestSdk
