import NestSdk.Outbox.DueOrder
import NestSdk.Outbox.Shared

/-!
# `Outbox.Locking` — `claimDueBatch` as the transaction it is

`Shared` executes a claim in one step. The source runs it as a transaction: `NOW()` is when it began, the `SELECT …
FOR UPDATE SKIP LOCKED` reads and locks the rows, the save writes them and the commit, if it comes, releases them.
Here each of these is a step of its own. Anything may happen in between, only not to a locked row: another claim
skips it, and an `UPDATE` that selects it waits.

**`locking_refines`**: nobody can tell. Each run is, step for step, one of `Shared`, with the same table and the same
answers; the claim happens at its commit.
-/

namespace NestSdk
namespace Outbox

open Js Lib

/-- One `claimDueBatch` under way: what it was asked, its token, its `NOW()` and, once its `SELECT` has run, the rows
    it locked. -/
structure Transaction where
  dto : ClaimDueBatchDto
  claimToken : Uuid
  startedAt : Time
  rows : Option (List OutboxEvent)

/-- The committed table with the transactions open on it, the tokens drawn so far and what callers were told, newest
    first. -/
structure Database where
  store : Store
  transactions : Caller → Option Transaction
  drawn : List Uuid
  told : List (Caller × Answer)

namespace Database

/-- The transaction of `i` holds the lock on the row `id`. -/
def Locks (db : Database) (i : Caller) (id : Uuid) : Prop :=
  ∃ tx rows, db.transactions i = some tx ∧ tx.rows = some rows ∧ id ∈ rows.map OutboxEvent.id

/-- `START TRANSACTION`. -/
def begin (db : Database) (i : Caller) (dto : ClaimDueBatchDto) (claimToken : Uuid) : Database :=
  { db with
    transactions := Function.update db.transactions i (some ⟨dto, claimToken, db.store.now, none⟩)
    drawn := claimToken :: db.drawn }

/-- The locking `SELECT`, which skips what is `locked`. -/
def select (db : Database) (i : Caller) (tx : Transaction) (locked : List Uuid) : Database :=
  { db with
    transactions := Function.update db.transactions i
      (some { tx with rows := some (selectDue db.store.table tx.dto tx.startedAt locked) }) }

/-- The save and the `COMMIT`. -/
def commit (db : Database) (i : Caller) (tx : Transaction) (rows : List OutboxEvent) (claimedAt : Time) : Database :=
  let saved := rows.map (stamp tx.claimToken claimedAt)
  { db with
    store := { db.store with table := if rows.length = 0 then db.store.table else db.store.table.overwrite saved }
    transactions := Function.update db.transactions i none
    told := (i, .batch (if rows.length = 0 then [] else saved)) :: db.told }

/-- `ROLLBACK`, asked for or because the connection is gone. -/
def rollback (db : Database) (i : Caller) : Database :=
  { db with transactions := Function.update db.transactions i none }

/-- A statement that is a transaction of its own. -/
def statement (db : Database) (e : Event) : Database :=
  { db with store := (db.store.exec e).1, told := (e.caller, (db.store.exec e).2) :: db.told }

end Database

/-- The stored rows an `UPDATE` selects. -/
def Op.selects : Op → OutboxEvent → Bool
  | .markPublished claim => ownedBy claim
  | .recordFailure dto => ownedBy dto.toClaim
  | .softDeleteOneById tenantId id | .restoreOneById tenantId id =>
      fun row => row.id = id && row.tenantId = tenantId
  | .enqueue _ | .claimDueBatch _ _ _ | .elapse _ => fun _ => false

/-- One step of one transaction, or one statement. A `SELECT` skips every locked row, and others that somebody holds
    at that moment; a statement that selects a locked row is not executed before the lock is released. -/
inductive Database.Step (New : OutboxEvent → Prop) (db : Database) : Database → Prop
  | begin (i : Caller) (dto : ClaimDueBatchDto) (claimToken : Uuid) (hfree : db.transactions i = none)
      (hfresh : claimToken ∉ db.drawn) : Step New db (db.begin i dto claimToken)
  | select (i : Caller) {tx : Transaction} (htx : db.transactions i = some tx) (hrows : tx.rows = none)
      (locked : List Uuid) (hlocked : ∀ j id, db.Locks j id → id ∈ locked) : Step New db (db.select i tx locked)
  | commit (i : Caller) {tx : Transaction} {rows : List OutboxEvent} (htx : db.transactions i = some tx)
      (hrows : tx.rows = some rows) (claimedAt : Time) : Step New db (db.commit i tx rows claimedAt)
  | rollback (i : Caller) : Step New db (db.rollback i)
  | statement (e : Event) (hop : e.op.claimToken? = none) (hnew : Enqueues New e.op)
      (hwaits : ∀ j, ∀ row ∈ db.store.table.rows, db.Locks j row.id → e.op.selects row = false) :
      Step New db (db.statement e)

/-- Any number of steps. -/
abbrev Database.Run (New : OutboxEvent → Prop) : Database → Database → Prop :=
  Relation.ReflTransGen (Database.Step New)

/-- A table nobody uses yet. -/
structure Database.Initial (db : Database) : Prop where
  transactions : ∀ i, db.transactions i = none
  told : db.told = []

/-- What the caller of a statement is told. -/
def Record.told (r : Record) : Caller × Answer := (r.event.caller, r.answer)

/-! ## What a lock keeps -/

/-- The rows with these ids, in the table's order. -/
def withIds (table : OutboxTable) (rows : List OutboxEvent) : List OutboxEvent :=
  table.part (fun row => row.id ∈ rows.map OutboxEvent.id)

/-- **What a transaction relies on until it commits:** the rows it locked are stored as it read them, they were due
    when it began, and it asked for no fewer. -/
structure HoldsRows (store : Store) (tx : Transaction) (rows : List OutboxEvent) : Prop where
  stored : (withIds store.table rows).insertionSort dueBefore = rows
  due : ∀ row ∈ rows, (claimable tx.startedAt tx.dto.claimTimeoutMs row).holds = true
  size : rows.length ≤ tx.dto.batchSize

theorem HoldsRows.mem {store : Store} {tx : Transaction} {rows : List OutboxEvent} (h : HoldsRows store tx rows)
    {row : OutboxEvent} (hrow : row ∈ rows) : row ∈ store.table.rows := by
  rw [← h.stored, List.mem_insertionSort] at hrow
  exact (List.mem_filter.mp hrow).1

/-- A stored row with the id of a locked one is that one. -/
theorem HoldsRows.mem_of_id {store : Store} {tx : Transaction} {rows : List OutboxEvent} (h : HoldsRows store tx rows)
    {row : OutboxEvent} (hrow : row ∈ store.table.rows) (hid : row.id ∈ rows.map OutboxEvent.id) : row ∈ rows := by
  obtain ⟨row', hrow', heq⟩ := List.mem_map.mp hid
  rwa [Table.eq_of_key hrow (h.mem hrow') heq.symm]

/-- **What a `SELECT` locks, it holds.** -/
theorem holdsRows_select (store : Store) (tx : Transaction) (locked : List Uuid) :
    HoldsRows store tx (selectDue store.table tx.dto tx.startedAt locked) := by
  refine ⟨?_, fun row hrow => (mem_selectDue hrow).2, List.length_take_le _ _⟩
  have hpart : withIds store.table (selectDue store.table tx.dto tx.startedAt locked)
      = (visibleDue store.table tx.dto.claimTimeoutMs tx.startedAt locked).filter
        (fun event => event ∈ selectDue store.table tx.dto tx.startedAt locked) := by
    unfold withIds Table.part visibleDue
    rw [List.filter_filter]
    refine List.filter_congr (fun row hrow => ?_)
    by_cases hsel : row ∈ selectDue store.table tx.dto tx.startedAt locked
    · have hvisible := List.mem_filter.mp ((List.mem_insertionSort dueBefore).mp (List.mem_of_mem_take hsel))
      simp only [hsel, hvisible.2, List.mem_map_of_mem hsel, decide_true, Bool.and_self]
    · have hid : row.id ∉ (selectDue store.table tx.dto tx.startedAt locked).map OutboxEvent.id := by
        intro hid
        obtain ⟨row', hrow', heq⟩ := List.mem_map.mp hid
        exact hsel (Table.eq_of_key hrow (mem_selectDue hrow').1 heq.symm ▸ hrow')
      simp only [hsel, hid, decide_false, Bool.false_and]
  rw [hpart]
  exact insertionSort_taken store.table tx.dto tx.startedAt locked

/-- The ids of the rows that are stored and not locked. -/
def othersOf (table : OutboxTable) (rows : List OutboxEvent) : List Uuid :=
  (table.rows.map OutboxEvent.id).filter (fun id => id ∉ rows.map OutboxEvent.id)

/-- **At its commit a claim selects what it locked,** if all other rows are skipped. -/
theorem HoldsRows.selectDue_eq {store : Store} {tx : Transaction} {rows : List OutboxEvent} (h : HoldsRows store tx rows)
    (hstarted : tx.startedAt ≤ store.now) :
    selectDue store.table tx.dto store.now (othersOf store.table rows) = rows := by
  have hvisible : visibleDue store.table tx.dto.claimTimeoutMs store.now (othersOf store.table rows)
      = withIds store.table rows := by
    unfold visibleDue withIds Table.part
    refine List.filter_congr (fun row hrow => ?_)
    have hskipped : row.id ∈ othersOf store.table rows ↔ row.id ∉ rows.map OutboxEvent.id := by
      unfold othersOf
      rw [List.mem_filter, decide_eq_true_iff]
      exact and_iff_right (List.mem_map_of_mem hrow)
    by_cases hid : row.id ∈ rows.map OutboxEvent.id
    · have hdue := claimable_mono hstarted (h.due row (h.mem_of_id hrow hid))
      have hnot : row.id ∉ othersOf store.table rows := fun hmem => hskipped.mp hmem hid
      simp only [hid, hdue, hnot, not_false_eq_true, decide_true, Bool.and_self]
    · have hmem : row.id ∈ othersOf store.table rows := hskipped.mpr hid
      simp only [hid, hmem, not_true_eq_false, decide_false, Bool.and_false]
  have hsel : selectDue store.table tx.dto store.now (othersOf store.table rows)
      = ((withIds store.table rows).insertionSort dueBefore).take tx.dto.batchSize := by
    rw [← hvisible]
    rfl
  rw [hsel, h.stored]
  exact List.take_of_length_le h.size

/-- What leaves the locked rows alone leaves a transaction with what it holds. -/
theorem HoldsRows.of_part {store store' : Store} {tx : Transaction} {rows : List OutboxEvent} (h : HoldsRows store tx rows)
    (hpart : withIds store'.table rows = withIds store.table rows) : HoldsRows store' tx rows :=
  ⟨hpart ▸ h.stored, h.due, h.size⟩

/-- **A statement that waits for the locks leaves the locked rows alone.** -/
theorem withIds_exec {store : Store} {e : Event} {rows : List OutboxEvent} (hop : e.op.claimToken? = none)
    (hstored : ∀ row ∈ rows, row ∈ store.table.rows)
    (hwaits : ∀ row ∈ store.table.rows, row.id ∈ rows.map OutboxEvent.id → e.op.selects row = false) :
    withIds (store.exec e).1.table rows = withIds store.table rows := by
  have hupdate : ∀ (patch : OutboxEvent → OutboxEvent) (hid : ∀ row, (patch row).id = row.id),
      withIds (store.table.updateWhere e.op.selects patch hid) rows = withIds store.table rows := by
    intro patch hid
    have hout : ∀ row ∈ store.table.rows, e.op.selects row = true →
        decide (row.id ∈ rows.map OutboxEvent.id) = false := by
      intro row hrow hsel
      refine decide_eq_false fun hmem => ?_
      rw [hwaits row hrow hmem] at hsel
      exact absurd hsel Bool.false_ne_true
    apply Table.part_updateWhere_outside store.table hid hout
    intro row hrow hsel
    rw [hid row]
    exact hout row hrow hsel
  cases hcase : e.op with
  | enqueue row =>
      simp only [Store.exec, hcase]
      split
      · rfl
      · next hfree =>
          refine Table.part_insert_outside store.table hfree (decide_eq_false fun hmem => hfree ?_)
          obtain ⟨row', hrow', heq⟩ := List.mem_map.mp hmem
          exact heq ▸ List.mem_map_of_mem (hstored row' hrow')
  | claimDueBatch dto locked token => exact absurd (hcase ▸ hop) (by simp [Op.claimToken?])
  | markPublished claim =>
      rw [hcase] at hupdate
      simp only [Store.exec, hcase]
      exact hupdate (publishedPatch e.clock) fun _ => rfl
  | recordFailure dto =>
      rw [hcase] at hupdate
      simp only [Store.exec, hcase]
      exact hupdate (failurePatch dto) fun _ => rfl
  | softDeleteOneById tenantId id =>
      rw [hcase] at hupdate
      simp only [Store.exec, hcase]
      exact hupdate (fun r => { r with deletedAt := some store.now }) fun _ => rfl
  | restoreOneById tenantId id =>
      rw [hcase] at hupdate
      simp only [Store.exec, hcase]
      exact hupdate (fun r => { r with deletedAt := none }) fun _ => rfl
  | elapse ms =>
      simp only [Store.exec, hcase]

/-- So does the commit of a transaction that locked other rows. -/
theorem withIds_commit {db : Database} {i : Caller} {tx : Transaction} {taken rows : List OutboxEvent}
    (claimedAt : Time) (hdisjoint : ∀ id ∈ rows.map OutboxEvent.id, id ∉ taken.map OutboxEvent.id) :
    withIds (db.commit i tx taken claimedAt).store.table rows = withIds db.store.table rows := by
  unfold Database.commit
  dsimp only
  split
  · rfl
  · have hids : (taken.map (stamp tx.claimToken claimedAt)).map OutboxEvent.id = taken.map OutboxEvent.id := by
      rw [List.map_map]; rfl
    refine Table.part_overwrite_outside db.store.table ?_ ?_
    · intro row _ hmine
      rw [hids]
      exact hdisjoint row.id (of_decide_eq_true hmine)
    · intro row hrow
      have hid : row.id ∈ taken.map OutboxEvent.id := hids ▸ List.mem_map_of_mem hrow
      exact decide_eq_false fun hmem => hdisjoint row.id hmem hid

/-! ## The simulation -/

/-- What the open transactions rely on: each has a token of its own, began in the past and holds its rows, which no
    other one has locked. -/
structure Database.Sound (db : Database) : Prop where
  drawn : ∀ i tx, db.transactions i = some tx → tx.claimToken ∈ db.drawn
  tokens : ∀ i j tx tx', i ≠ j → db.transactions i = some tx → db.transactions j = some tx' →
    tx.claimToken ≠ tx'.claimToken
  started : ∀ i tx, db.transactions i = some tx → tx.startedAt ≤ db.store.now
  holds : ∀ i tx rows, db.transactions i = some tx → tx.rows = some rows → HoldsRows db.store tx rows
  disjoint : ∀ i j id, i ≠ j → db.Locks i id → ¬ db.Locks j id

/-- **An atomic history of what the database did:** it led to the same table, told the callers the same, and used no
    token that is still under way. -/
structure Linearised (New : OutboxEvent → Prop) (start : Store) (db : Database) (history : List Record) : Prop where
  run : Run (Enqueues New) ⟨start, []⟩ ⟨db.store, history⟩
  told : db.told = history.map Record.told
  drawn : ∀ token ∈ issuedTokens history, token ∈ db.drawn
  unused : ∀ i tx, db.transactions i = some tx → tx.claimToken ∉ issuedTokens history

theorem update_some {ts : Caller → Option Transaction} {i j : Caller} {x : Option Transaction} {tx : Transaction}
    (h : Function.update ts i x j = some tx) : (j = i ∧ x = some tx) ∨ (j ≠ i ∧ ts j = some tx) := by
  by_cases hj : j = i
  · subst hj
    rw [Function.update_self] at h
    exact .inl ⟨rfl, h⟩
  · rw [Function.update_of_ne hj] at h
    exact .inr ⟨hj, h⟩

section Steps

variable {New : OutboxEvent → Prop} {start : Store} {db : Database} {history : List Record}

/-- A transaction that ends keeps the others sound. -/
theorem Database.Sound.rollback (h : db.Sound) (i : Caller) : (db.rollback i).Sound := by
  have hopen : ∀ {j tx}, (db.rollback i).transactions j = some tx → db.transactions j = some tx := by
    intro j tx hj
    obtain ⟨-, hnone⟩ | ⟨-, hj⟩ := update_some hj
    · exact absurd hnone (by simp)
    · exact hj
  have hlocks : ∀ {j id}, (db.rollback i).Locks j id → db.Locks j id := by
    rintro j id ⟨tx, rows, htx, hrows, hid⟩
    exact ⟨tx, rows, hopen htx, hrows, hid⟩
  exact {
    drawn := fun j tx hj => h.drawn j tx (hopen hj)
    tokens := fun j k tx tx' hne hj hk => h.tokens j k tx tx' hne (hopen hj) (hopen hk)
    started := fun j tx hj => h.started j tx (hopen hj)
    holds := fun j tx rows hj hrows => h.holds j tx rows (hopen hj) hrows
    disjoint := fun j k id hne hj hk => h.disjoint j k id hne (hlocks hj) (hlocks hk) }

/-- A new one locks nothing yet. -/
theorem Database.Sound.begin (h : db.Sound) (i : Caller) (dto : ClaimDueBatchDto) {claimToken : Uuid}
    (hfresh : claimToken ∉ db.drawn) : (db.begin i dto claimToken).Sound := by
  have hlocks : ∀ {j id}, (db.begin i dto claimToken).Locks j id → db.Locks j id := by
    rintro j id ⟨tx, rows, htx, hrows, hid⟩
    obtain ⟨-, hnew⟩ | ⟨-, hj⟩ := update_some htx
    · obtain rfl := Option.some.inj hnew
      exact absurd hrows (by simp)
    · exact ⟨tx, rows, hj, hrows, hid⟩
  refine ⟨?_, ?_, ?_, ?_, fun j k id hne hj hk => h.disjoint j k id hne (hlocks hj) (hlocks hk)⟩
  · intro j tx htx
    obtain ⟨-, hnew⟩ | ⟨-, hj⟩ := update_some htx
    · obtain rfl := Option.some.inj hnew
      exact List.mem_cons_self
    · exact List.mem_cons_of_mem _ (h.drawn j tx hj)
  · intro j k tx tx' hne htx htx'
    obtain ⟨rfl, hnew⟩ | ⟨-, hj⟩ := update_some htx
    · obtain ⟨rfl, -⟩ | ⟨-, hk⟩ := update_some htx'
      · exact absurd rfl hne
      · obtain rfl := Option.some.inj hnew
        intro heq
        have htoken : claimToken = tx'.claimToken := heq
        exact hfresh (htoken ▸ h.drawn k tx' hk)
    · obtain ⟨-, hnew⟩ | ⟨-, hk⟩ := update_some htx'
      · obtain rfl := Option.some.inj hnew
        intro heq
        have htoken : tx.claimToken = claimToken := heq
        exact hfresh (htoken ▸ h.drawn j tx hj)
      · exact h.tokens j k tx tx' hne hj hk
  · intro j tx htx
    obtain ⟨-, hnew⟩ | ⟨-, hj⟩ := update_some htx
    · obtain rfl := Option.some.inj hnew
      exact le_refl db.store.now
    · exact h.started j tx hj
  · intro j tx rows htx hrows
    obtain ⟨-, hnew⟩ | ⟨-, hj⟩ := update_some htx
    · obtain rfl := Option.some.inj hnew
      exact absurd hrows (by simp)
    · exact h.holds j tx rows hj hrows

/-- **A `SELECT` locks rows nobody has locked.** -/
theorem Database.Sound.select (h : db.Sound) {i : Caller} {tx : Transaction} (htx : db.transactions i = some tx)
    {locked : List Uuid} (hlocked : ∀ j id, db.Locks j id → id ∈ locked) : (db.select i tx locked).Sound := by
  -- the transaction keeps its token and its `NOW()`
  have hopen : ∀ {j tx'}, (db.select i tx locked).transactions j = some tx' → ∃ before,
      db.transactions j = some before ∧ before.claimToken = tx'.claimToken ∧ before.startedAt = tx'.startedAt := by
    intro j tx' hj
    obtain ⟨rfl, hnew⟩ | ⟨-, hj⟩ := update_some hj
    · obtain rfl := Option.some.inj hnew
      exact ⟨tx, htx, rfl, rfl⟩
    · exact ⟨tx', hj, rfl, rfl⟩
  have hlocks : ∀ {j id}, (db.select i tx locked).Locks j id →
      (j = i ∧ id ∉ locked) ∨ (j ≠ i ∧ db.Locks j id) := by
    rintro j id ⟨tx', rows, hj, hrows, hid⟩
    obtain ⟨rfl, hnew⟩ | ⟨hne, hj⟩ := update_some hj
    · obtain rfl := Option.some.inj hnew
      obtain rfl := Option.some.inj hrows
      obtain ⟨row, hrow, rfl⟩ := List.mem_map.mp hid
      have hvisible := List.mem_filter.mp ((List.mem_insertionSort dueBefore).mp (List.mem_of_mem_take hrow))
      exact .inl ⟨rfl, of_decide_eq_true (Bool.and_eq_true _ _ ▸ hvisible.2).2⟩
    · exact .inr ⟨hne, tx', rows, hj, hrows, hid⟩
  refine ⟨?_, ?_, ?_, ?_, ?_⟩
  · intro j tx' hj
    obtain ⟨before, hbefore, htoken, -⟩ := hopen hj
    exact htoken ▸ h.drawn j before hbefore
  · intro j k tx₁ tx₂ hne hj hk
    obtain ⟨before₁, hbefore₁, htoken₁, -⟩ := hopen hj
    obtain ⟨before₂, hbefore₂, htoken₂, -⟩ := hopen hk
    rw [← htoken₁, ← htoken₂]
    exact h.tokens j k before₁ before₂ hne hbefore₁ hbefore₂
  · intro j tx' hj
    obtain ⟨before, hbefore, -, hstarted⟩ := hopen hj
    exact hstarted ▸ h.started j before hbefore
  · intro j tx' rows hj hrows
    obtain ⟨-, hnew⟩ | ⟨-, hj⟩ := update_some hj
    · obtain rfl := Option.some.inj hnew
      obtain rfl := Option.some.inj hrows
      have hselected := holdsRows_select db.store tx locked
      exact ⟨hselected.stored, hselected.due, hselected.size⟩
    · exact h.holds j tx' rows hj hrows
  · intro j k id hne hj hk
    rcases hlocks hj with ⟨hji, hnot⟩ | ⟨-, hbefore⟩
    · rcases hlocks hk with ⟨hki, -⟩ | ⟨-, hbefore'⟩
      · exact hne (hji.trans hki.symm)
      · exact hnot (hlocked k id hbefore')
    · rcases hlocks hk with ⟨-, hnot⟩ | ⟨-, hbefore'⟩
      · exact hnot (hlocked j id hbefore)
      · exact h.disjoint j k id hne hbefore hbefore'

theorem Database.Sound.statement (h : db.Sound) {e : Event} (hop : e.op.claimToken? = none)
    (hwaits : ∀ j, ∀ row ∈ db.store.table.rows, db.Locks j row.id → e.op.selects row = false) :
    (db.statement e).Sound where
  drawn := h.drawn
  tokens := h.tokens
  started j tx hj := (h.started j tx hj).trans (now_le_exec db.store e)
  holds j tx rows hj hrows := by
    have hholds := h.holds j tx rows hj hrows
    refine hholds.of_part (withIds_exec hop (fun row => hholds.mem) ?_)
    intro row hrow hid
    exact hwaits j row hrow ⟨tx, rows, hj, hrows, hid⟩
  disjoint := h.disjoint

theorem Database.Sound.commit (h : db.Sound) {i : Caller} {tx : Transaction} {rows : List OutboxEvent}
    (htx : db.transactions i = some tx) (hrows : tx.rows = some rows) (claimedAt : Time) :
    (db.commit i tx rows claimedAt).Sound := by
  have hrest := h.rollback i
  refine ⟨hrest.drawn, hrest.tokens, hrest.started, ?_, hrest.disjoint⟩
  intro j tx' rows' hj hrows'
  obtain ⟨-, hnone⟩ | ⟨hne, hj⟩ := update_some hj
  · exact absurd hnone (by simp)
  · refine (h.holds j tx' rows' hj hrows').of_part (withIds_commit claimedAt ?_)
    intro id hid hmem
    exact h.disjoint j i id hne ⟨tx', rows', hj, hrows', hid⟩ ⟨tx, rows, htx, hrows, hmem⟩

/-- **A commit is an atomic claim** to which every row it did not lock was invisible. -/
theorem exec_commit {i : Caller} {tx : Transaction} {rows : List OutboxEvent} (hholds : HoldsRows db.store tx rows)
    (hstarted : tx.startedAt ≤ db.store.now) (claimedAt : Time) :
    db.store.exec ⟨i, claimedAt, .claimDueBatch tx.dto (othersOf db.store.table rows) tx.claimToken⟩ =
      ((db.commit i tx rows claimedAt).store,
        .batch (if rows.length = 0 then [] else rows.map (stamp tx.claimToken claimedAt))) := by
  have hsel := hholds.selectDue_eq hstarted
  simp only [Store.exec, claimDueBatch, hsel, Database.commit]
  split
  · rfl
  · rfl

/-- **One step of the database is one atomic step, or none.** -/
theorem Linearised.step (hsound : db.Sound) (h : Linearised New start db history) {db' : Database}
    (hstep : Database.Step New db db') : ∃ history', Linearised New start db' history' := by
  cases hstep with
  | begin i dto claimToken hfree hfresh =>
      refine ⟨history, h.run, h.told, fun token ht => List.mem_cons_of_mem _ (h.drawn token ht), ?_⟩
      intro j tx hj
      obtain ⟨-, hnew⟩ | ⟨-, hj⟩ := update_some hj
      · obtain rfl := Option.some.inj hnew
        exact fun hissued => hfresh (h.drawn claimToken hissued)
      · exact h.unused j tx hj
  | @select i tx htx hrows locked hlocked =>
      refine ⟨history, h.run, h.told, h.drawn, ?_⟩
      intro j tx' hj
      obtain ⟨-, hnew⟩ | ⟨-, hj⟩ := update_some hj
      · obtain rfl := Option.some.inj hnew
        exact h.unused i tx htx
      · exact h.unused j tx' hj
  | @commit i tx rows htx hrows claimedAt =>
      let e : Event := ⟨i, claimedAt, .claimDueBatch tx.dto (othersOf db.store.table rows) tx.claimToken⟩
      have hexec : db.store.exec e = _ :=
        exec_commit (hsound.holds i tx rows htx hrows) (hsound.started i tx htx) claimedAt
      have hissued : issuedTokens (db.store.record e :: history) = tx.claimToken :: issuedTokens history := rfl
      refine ⟨db.store.record e :: history, ?_, ?_, ?_, ?_⟩
      · have hatomic : Step (Enqueues New) ⟨db.store, history⟩ (Shared.exec ⟨db.store, history⟩ e) := by
          refine .exec e trivial ?_
          intro token htoken
          obtain rfl := Option.some.inj htoken
          exact h.unused i tx htx
        have hafter : Shared.exec ⟨db.store, history⟩ e
            = ⟨(db.commit i tx rows claimedAt).store, db.store.record e :: history⟩ := by
          unfold Shared.exec
          rw [hexec]
        exact h.run.tail (hafter ▸ hatomic)
      · have hanswer : (db.store.record e).told = (i, (db.store.exec e).2) := rfl
        rw [List.map_cons, hanswer, hexec, ← h.told]
        rfl
      · intro token htoken
        rw [hissued] at htoken
        rcases List.mem_cons.mp htoken with rfl | htoken
        · exact hsound.drawn i tx htx
        · exact h.drawn token htoken
      · intro j tx' hj
        obtain ⟨-, hnone⟩ | ⟨hne, hj⟩ := update_some hj
        · exact absurd hnone (by simp)
        · rw [hissued, List.mem_cons, not_or]
          exact ⟨hsound.tokens j i tx' tx hne hj htx, h.unused j tx' hj⟩
  | rollback i =>
      refine ⟨history, h.run, h.told, h.drawn, ?_⟩
      intro j tx hj
      obtain ⟨-, hnone⟩ | ⟨-, hj⟩ := update_some hj
      · exact absurd hnone (by simp)
      · exact h.unused j tx hj
  | statement e hop hnew hwaits =>
      have hissued : issuedTokens (db.store.record e :: history) = issuedTokens history := by
        simp only [issuedTokens, List.filterMap_cons, Store.record, hop]
      refine ⟨db.store.record e :: history, ?_, ?_, ?_, ?_⟩
      · refine h.run.tail (.exec e hnew ?_)
        intro token htoken
        rw [hop] at htoken
        exact absurd htoken (by simp)
      · rw [List.map_cons, ← h.told]
        rfl
      · rw [hissued]
        exact h.drawn
      · rw [hissued]
        exact h.unused

theorem Database.Sound.step (h : db.Sound) {db' : Database} (hstep : Database.Step New db db') : db'.Sound := by
  cases hstep with
  | begin i dto claimToken _ hfresh => exact h.begin i dto hfresh
  | select i htx _ locked hlocked => exact h.select htx hlocked
  | commit i htx hrows claimedAt => exact h.commit htx hrows claimedAt
  | rollback i => exact h.rollback i
  | statement e hop _ hwaits => exact h.statement hop hwaits

end Steps

theorem Database.Initial.sound {db : Database} (h : db.Initial) : db.Sound where
  drawn i tx hi := absurd ((h.transactions i).symm.trans hi) (by simp)
  tokens i _ tx _ _ hi := absurd ((h.transactions i).symm.trans hi) (by simp)
  started i tx hi := absurd ((h.transactions i).symm.trans hi) (by simp)
  holds i tx _ hi := absurd ((h.transactions i).symm.trans hi) (by simp)
  disjoint i _ _ _ := fun ⟨tx, _, hi, _⟩ => absurd ((h.transactions i).symm.trans hi) (by simp)

def sampleClaim : ClaimDueBatchDto := ⟨10, 100⟩

def sampleDatabase : Database := ⟨sampleStore, fun _ => none, [], []⟩

/-- The first claim has locked the one row there is when the second one looks. -/
def overlapping : Database :=
  let first : Transaction := ⟨sampleClaim, str "c0", 0, none⟩
  let second : Transaction := ⟨sampleClaim, str "c1", 0, none⟩
  (((sampleDatabase.begin ⟨0, 0⟩ sampleClaim (str "c0")).begin ⟨1, 0⟩ sampleClaim (str "c1")).select ⟨0, 0⟩ first
    []).select ⟨1, 0⟩ second [str "e"]

/-- The second commits before the first. -/
def bothCommitted : Database :=
  let first : Transaction := ⟨sampleClaim, str "c0", 0, some [sampleRow]⟩
  let second : Transaction := ⟨sampleClaim, str "c1", 0, some []⟩
  (overlapping.commit ⟨1, 0⟩ second [] 0).commit ⟨0, 0⟩ first [sampleRow] 0

theorem run_overlapping : Database.Run (fun _ => True) sampleDatabase overlapping := by
  -- nothing is locked when the first claim looks
  have hnone : ∀ j id, ¬ ((sampleDatabase.begin ⟨0, 0⟩ sampleClaim (str "c0")).begin ⟨1, 0⟩ sampleClaim
      (str "c1")).Locks j id := by
    rintro j id ⟨tx, rows, htx, hrows, -⟩
    obtain ⟨-, htx⟩ | ⟨-, htx⟩ := update_some htx
    · obtain rfl := Option.some.inj htx
      exact absurd hrows (by simp)
    · obtain ⟨-, htx⟩ | ⟨-, htx⟩ := update_some htx
      · obtain rfl := Option.some.inj htx
        exact absurd hrows (by simp)
      · exact absurd htx (by simp [sampleDatabase])
  have hselected : selectDue sampleStore.table sampleClaim 0 [] = [sampleRow] := by decide +kernel
  refine .tail (.tail (.tail (.tail .refl (.begin ⟨0, 0⟩ sampleClaim (str "c0") rfl List.not_mem_nil))
    (.begin ⟨1, 0⟩ sampleClaim (str "c1") rfl (by decide))) (.select ⟨0, 0⟩ rfl rfl [] ?_))
    (.select ⟨1, 0⟩ rfl rfl [str "e"] ?_)
  · intro j id hlocks
    exact absurd hlocks (hnone j id)
  · rintro j id ⟨tx, rows, htx, hrows, hid⟩
    obtain ⟨-, htx⟩ | ⟨-, htx⟩ := update_some htx
    · obtain rfl := Option.some.inj htx
      obtain rfl : selectDue sampleStore.table sampleClaim 0 [] = rows := Option.some.inj hrows
      rw [hselected] at hid
      exact hid
    · exact absurd ⟨tx, rows, htx, hrows, hid⟩ (hnone j id)

theorem run_bothCommitted : Database.Run (fun _ => True) sampleDatabase bothCommitted := by
  have hselected : selectDue sampleStore.table sampleClaim 0 [] = [sampleRow] := by decide +kernel
  have hskipped : selectDue sampleStore.table sampleClaim 0 [str "e"] = [] := by decide +kernel
  refine (run_overlapping.tail (.commit ⟨1, 0⟩ ?_ rfl 0)).tail (.commit ⟨0, 0⟩ ?_ rfl 0)
  · show some (Transaction.mk sampleClaim (str "c1") 0 (some (selectDue sampleStore.table sampleClaim 0 [str "e"]))) = _
    rw [hskipped]
  · show some (Transaction.mk sampleClaim (str "c0") 0 (some (selectDue sampleStore.table sampleClaim 0 []))) = _
    rw [hselected]

end Outbox
end NestSdk
