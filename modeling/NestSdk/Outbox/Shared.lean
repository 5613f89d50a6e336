import NestSdk.Outbox.Repository

/-!
# `Outbox.Shared` — one table, any number of callers

The transition system under every outbox claim. Callers execute statements against one table, one at a time
(each is one transaction or one `UPDATE`), in any order and with any arguments; `Shared` keeps the table, the
database's clock and the `history` of what was executed, newest first, each entry with the state it found.

* `Store.exec` — what one statement does and answers;
* `RowMove` / `exec_rowMove` — everything one statement can do to one row. Every invariant is read off it;
* `Step` / `Run` — an interleaving. Two things are asked of a step: its statement is `Allowed` (a parameter:
  which rows are enqueued is the service's choice), and a claim's token was never used before.
-/

namespace NestSdk
namespace Outbox

open Js Lib

/-- A statement some caller executes. Beside the repository's own three, the service enqueues rows, the
    inherited `softDeleteOneById` / `restoreOneById` set and clear `deleted_at`, and time passes. -/
inductive Op
  | enqueue (row : OutboxEvent)
  | claimDueBatch (dto : ClaimDueBatchDto) (locked : List Uuid) (claimToken : Uuid)
  | markPublished (claim : Claim)
  | recordFailure (dto : RecordFailureDto)
  | softDeleteOneById (tenantId id : Uuid)
  | restoreOneById (tenantId id : Uuid)
  | elapse (ms : ℚ≥0)
deriving DecidableEq

/-- Who executes a statement: one call made in one process. -/
structure Caller where
  process : Nat
  call : Nat
deriving DecidableEq, Repr

/-- A statement with who executes it and what the clock of that process reads. -/
structure Event where
  caller : Caller
  clock : Time
  op : Op
deriving DecidableEq

/-- What the caller is told. -/
inductive Answer
  | done
  | batch (events : List OutboxEvent)
  | written (ok : Bool)
deriving DecidableEq

/-- The table and the database's clock. -/
structure Store where
  table : OutboxTable
  now : Time

/-- `UPDATE … SET deleted_at = … WHERE id = … AND tenant_id = …`. -/
def setDeletedAt (table : OutboxTable) (tenantId id : Uuid) (deletedAt : Option Time) : OutboxTable :=
  table.updateWhere (fun r => r.id = id && r.tenantId = tenantId)
    (fun r => { r with deletedAt := deletedAt }) (fun _ => rfl)

/-- Executes one statement. An `INSERT` under a taken key is refused by the primary key. -/
def Store.exec (s : Store) (e : Event) : Store × Answer :=
  match e.op with
  | .enqueue row =>
      if h : row.id ∈ s.table.rows.map OutboxEvent.id then (s, .done)
      else ({ s with table := s.table.insert row h }, .done)
  | .claimDueBatch dto locked claimToken =>
      let result := Outbox.claimDueBatch s.table dto s.now locked claimToken e.clock
      ({ s with table := result.1 }, .batch result.2)
  | .markPublished claim =>
      let result := Outbox.markPublished s.table claim e.clock
      ({ s with table := result.1 }, .written result.2)
  | .recordFailure dto =>
      let result := Outbox.recordFailure s.table dto
      ({ s with table := result.1 }, .written result.2)
  | .softDeleteOneById tenantId id =>
      ({ s with table := setDeletedAt s.table tenantId id (some s.now) }, .done)
  | .restoreOneById tenantId id => ({ s with table := setDeletedAt s.table tenantId id none }, .done)
  | .elapse ms => ({ s with now := s.now + ms }, .done)

/-- The database's clock only advances. -/
theorem now_le_exec (s : Store) (e : Event) : s.now ≤ (s.exec e).1.now := by
  unfold Store.exec
  cases e.op with
  | enqueue row => dsimp only; split <;> exact le_rfl
  | elapse ms => exact le_add_of_nonneg_right ms.2
  | claimDueBatch _ _ _ | markPublished _ | recordFailure _ | softDeleteOneById _ _
  | restoreOneById _ _ => exact le_rfl

/-! ## The history -/

/-- One executed statement, with the state it found and the answer it gave. -/
structure Record where
  before : Store
  event : Event
  answer : Answer

def Store.record (s : Store) (e : Event) : Record := ⟨s, e, (s.exec e).2⟩

/-- The claim a terminal write presents. -/
def Op.terminal? : Op → Option Claim
  | .markPublished claim => some claim
  | .recordFailure dto => some dto.toClaim
  | _ => none

/-- The token under which this statement claimed the row `id`, if it did. -/
def Record.claims (id : Uuid) (r : Record) : Option Uuid :=
  match r.event.op, r.answer with
  | .claimDueBatch _ _ claimToken, .batch events =>
      if id ∈ events.map OutboxEvent.id then some claimToken else none
  | _, _ => none

/-- The token with which this statement was a successful terminal write of the row `id`, if it was. -/
def Record.wins (id : Uuid) (r : Record) : Option Uuid :=
  match r.event.op.terminal?, r.answer with
  | some claim, .written true => if claim.id = id then some claim.claimToken else none
  | _, _ => none

/-- The claims of a row, newest first. -/
def claimsOf (id : Uuid) (history : List Record) : List Uuid := history.filterMap (Record.claims id)

/-- The claims of a row that had a successful terminal write, newest first. -/
def winsOf (id : Uuid) (history : List Record) : List Uuid := history.filterMap (Record.wins id)

/-- The token a statement claims under, whether or not it claims a row. -/
def Op.claimToken? : Op → Option Uuid
  | .claimDueBatch _ _ claimToken => some claimToken
  | _ => none

/-- The statements of the repository itself: a claim or a terminal write. -/
def Op.isOutbox (op : Op) : Bool := op.claimToken?.isSome || op.terminal?.isSome

/-- Every token used so far. -/
def issuedTokens (history : List Record) : List Uuid :=
  history.filterMap (fun r => r.event.op.claimToken?)

theorem claims_issued {id token : Uuid} {r : Record} (h : r.claims id = some token) :
    r.event.op.claimToken? = some token := by
  unfold Record.claims at h
  split at h
  · rename_i dto locked claimToken events hop hanswer
    rw [hop]
    split at h
    · exact h
    · exact absurd h (by simp)
  · exact absurd h (by simp)

/-- A row's claims are among the tokens used. -/
theorem claimsOf_issued {id token : Uuid} {history : List Record} (h : token ∈ claimsOf id history) :
    token ∈ issuedTokens history := by
  obtain ⟨r, hr, hclaims⟩ := List.mem_filterMap.mp h
  exact List.mem_filterMap.mpr ⟨r, hr, claims_issued hclaims⟩

/-! ## What one statement does to one row -/

/-- Everything the statement `e` can do to the row under `id`: the argument is the row it leaves. -/
inductive RowMove (s : Store) (e : Event) (id : Uuid) : Option OutboxEvent → Prop
  | kept {after : Option OutboxEvent} (hsame : s.table.get id = after)
      (hclaims : (s.record e).claims id = none) (hwins : (s.record e).wins id = none) :
      RowMove s e id after
  | enqueued {row : OutboxEvent} (hop : e.op = .enqueue row) (hnone : s.table.get id = none) :
      RowMove s e id (some row)
  | claimed {row : OutboxEvent} {dto : ClaimDueBatchDto} {locked : List Uuid} {token : Uuid}
      (hop : e.op = .claimDueBatch dto locked token) (hrow : s.table.get id = some row)
      (hdue : (claimable s.now dto.claimTimeoutMs row).holds = true)
      (hclaims : (s.record e).claims id = some token) :
      RowMove s e id (some (stamp token e.clock row))
  | published {row : OutboxEvent} {claim : Claim} (hop : e.op = .markPublished claim)
      (hrow : s.table.get id = some row) (howned : ownedBy claim row = true)
      (hwins : (s.record e).wins id = some claim.claimToken) :
      RowMove s e id (some (publishedPatch e.clock row))
  | failed {row : OutboxEvent} {dto : RecordFailureDto} (hop : e.op = .recordFailure dto)
      (hrow : s.table.get id = some row) (howned : ownedBy dto.toClaim row = true)
      (hwins : (s.record e).wins id = some dto.claimToken) :
      RowMove s e id (some (failurePatch dto row))
  | deletion {row : OutboxEvent} {deletedAt : Option Time} (hop : e.op.isOutbox = false)
      (hrow : s.table.get id = some row) (hclaims : (s.record e).claims id = none) (hwins : (s.record e).wins id = none) :
      RowMove s e id (some { row with deletedAt := deletedAt })

theorem claims_of_claimToken {s : Store} {e : Event} (id : Uuid) (h : e.op.claimToken? = none) :
    (s.record e).claims id = none := by
  cases hc : (s.record e).claims id with
  | none => rfl
  | some token => exact absurd (h.symm.trans (claims_issued hc)) (by simp)

theorem wins_of_terminal {s : Store} {e : Event} (id : Uuid) (h : e.op.terminal? = none) :
    (s.record e).wins id = none := by
  have hop : (s.record e).event.op.terminal? = none := h
  simp only [Record.wins, hop]

/-- A terminal write's success, in terms of the row it names. -/
theorem wins_of_written {s : Store} {e : Event} {claim : Claim} (hop : e.op.terminal? = some claim)
    {ok : Bool} (hans : (s.exec e).2 = .written ok) (id : Uuid) :
    (s.record e).wins id = if ok = true ∧ claim.id = id then some claim.claimToken else none := by
  have hop' : (s.record e).event.op.terminal? = some claim := hop
  have hans' : (s.record e).answer = .written ok := hans
  simp only [Record.wins, hop', hans']
  cases ok <;> simp

/-- The two terminal writes are `updateClaimed` at a patch that keeps the row's id and tenant. -/
theorem exec_of_terminal {s : Store} {e : Event} {claim : Claim} (hop : e.op.terminal? = some claim) :
    ∃ patch hid, s.exec e = ({ s with table := (updateClaimed s.table claim patch hid).1 },
      .written (updateClaimed s.table claim patch hid).2) := by
  cases hcase : e.op with
  | markPublished c =>
      rw [hcase] at hop
      obtain rfl : c = claim := Option.some.inj hop
      refine ⟨publishedPatch e.clock, fun _ => rfl, ?_⟩
      simp only [Store.exec, hcase, markPublished]
  | recordFailure dto =>
      rw [hcase] at hop
      obtain rfl : dto.toClaim = claim := Option.some.inj hop
      refine ⟨failurePatch dto, fun _ => rfl, ?_⟩
      simp only [Store.exec, hcase, recordFailure]
  | enqueue _ | claimDueBatch _ _ _ | softDeleteOneById _ _ | restoreOneById _ _ | elapse _ =>
      rw [hcase] at hop
      exact absurd hop (by simp [Op.terminal?])

/-- The rows a claim takes, by key. -/
theorem mem_selectDue_ids {s : Store} {dto : ClaimDueBatchDto} {locked : List Uuid} {id : Uuid} :
    id ∈ (selectDue s.table dto s.now locked).map OutboxEvent.id ↔
      ∃ row, s.table.get id = some row ∧ row ∈ selectDue s.table dto s.now locked := by
  constructor
  · intro h
    obtain ⟨row, hrow, rfl⟩ := List.mem_map.mp h
    exact ⟨row, Table.get_of_mem (mem_selectDue hrow).1, hrow⟩
  · rintro ⟨row, hget, hrow⟩
    exact List.mem_map.mpr ⟨row, hrow, Table.get_key hget⟩

theorem claims_of_claimDueBatch {s : Store} {e : Event} {dto : ClaimDueBatchDto} {locked : List Uuid}
    {token : Uuid} (hop : e.op = .claimDueBatch dto locked token) (id : Uuid) :
    (s.record e).claims id =
      if id ∈ (selectDue s.table dto s.now locked).map OutboxEvent.id then some token else none := by
  have hids : ((selectDue s.table dto s.now locked).map (stamp token e.clock)).map OutboxEvent.id
      = (selectDue s.table dto s.now locked).map OutboxEvent.id := by
    rw [List.map_map]; rfl
  simp only [Record.claims, Store.record, Store.exec, hop, claimDueBatch_batch, hids]

/-- The batch a claim hands out. -/
theorem batch_of_claim {s : Store} {e : Event} {dto : ClaimDueBatchDto} {locked : List Uuid}
    {token : Uuid} (hop : e.op = .claimDueBatch dto locked token) {events : List OutboxEvent}
    (hans : (s.exec e).2 = .batch events) :
    events = (selectDue s.table dto s.now locked).map (stamp token e.clock) := by
  simp only [Store.exec, hop, claimDueBatch_batch] at hans
  exact (Answer.batch.inj hans).symm

/-- A terminal write either settles the row it names, or leaves the row under `id` alone. -/
theorem exec_rowMove_terminal {s : Store} {e : Event} {id : Uuid} {claim : Claim}
    (patch : OutboxEvent → OutboxEvent) (hid : ∀ event, (patch event).id = event.id)
    (hop : e.op.terminal? = some claim)
    (hexec : s.exec e = ({ s with table := (updateClaimed s.table claim patch hid).1 },
      .written (updateClaimed s.table claim patch hid).2))
    (hsettle : ∀ row, s.table.get id = some row → ownedBy claim row = true →
      (s.record e).wins id = some claim.claimToken → RowMove s e id (some (patch row)))
    (hclaims : (s.record e).claims id = none) :
    RowMove s e id ((s.exec e).1.table.get id) := by
  have hwins := wins_of_written hop (by rw [hexec]) id
  have hget : (s.exec e).1.table.get id
      = (s.table.get id).map (fun row => if ownedBy claim row then patch row else row) := by
    rw [hexec]; exact get_updateClaimed s.table claim patch hid id
  rw [hget]
  by_cases hrow : ∃ row, s.table.get id = some row ∧ ownedBy claim row = true
  · obtain ⟨row, hrow, howned⟩ := hrow
    have hkey : claim.id = id := (ownedBy_iff.mp howned).1.symm.trans (Table.get_key hrow)
    have htrue : (updateClaimed s.table claim patch hid).2 = true :=
      updateClaimed_eq_true.mpr ⟨row, hkey ▸ hrow, howned⟩
    rw [hrow, Option.map_some, if_pos howned]
    exact hsettle row hrow howned (hwins.trans (if_pos ⟨htrue, hkey⟩))
  · have hnowin : (s.record e).wins id = none := by
      rw [hwins, if_neg]
      rintro ⟨htrue, hkey⟩
      exact hrow (hkey ▸ updateClaimed_eq_true.mp htrue)
    have hsame : (s.table.get id).map (fun row => if ownedBy claim row then patch row else row)
        = s.table.get id := by
      cases hget : s.table.get id with
      | none => rfl
      | some row =>
          have hnot : ¬ ownedBy claim row = true := fun h => hrow ⟨row, hget, h⟩
          rw [Option.map_some, if_neg hnot]
    rw [hsame]
    exact .kept rfl hclaims hnowin

theorem setDeletedAt_rowMove {s : Store} {e : Event} {id tenantId rowId : Uuid}
    {deletedAt : Option Time} (hop : e.op.isOutbox = false)
    (hclaims : (s.record e).claims id = none) (hwins : (s.record e).wins id = none) :
    RowMove s e id ((setDeletedAt s.table tenantId rowId deletedAt).get id) := by
  unfold setDeletedAt
  rw [Table.get_updateWhere]
  cases hget : s.table.get id with
  | none => exact .kept hget hclaims hwins
  | some row =>
      rw [Option.map_some]
      split
      · exact .deletion hop hget hclaims hwins
      · exact .kept hget hclaims hwins

/-- **Everything one statement can do to one row.** The claim case is where the selection matters: the row
    is taken exactly when its key is among those selected. -/
theorem exec_rowMove (s : Store) (e : Event) (id : Uuid) :
    RowMove s e id ((s.exec e).1.table.get id) := by
  cases hop : e.op with
  | enqueue row =>
      have hclaims := claims_of_claimToken (s := s) id (show e.op.claimToken? = none by rw [hop]; rfl)
      have hwins := wins_of_terminal (s := s) id (show e.op.terminal? = none by rw [hop]; rfl)
      simp only [Store.exec, hop]
      split
      · exact .kept rfl hclaims hwins
      · rename_i hfree
        rw [Table.get_insert]
        by_cases hid : row.id = id
        · rw [if_pos hid]
          exact .enqueued hop (hid ▸ Table.get_eq_none.mpr hfree)
        · rw [if_neg hid]
          exact .kept rfl hclaims hwins
  | claimDueBatch dto locked token =>
      have hwins := wins_of_terminal (s := s) id (show e.op.terminal? = none by rw [hop]; rfl)
      have hclaims := claims_of_claimDueBatch (s := s) hop id
      simp only [Store.exec, hop, get_claimDueBatch]
      by_cases hid : id ∈ (selectDue s.table dto s.now locked).map OutboxEvent.id
      · obtain ⟨row, hget, hrow⟩ := mem_selectDue_ids.mp hid
        rw [hget, Option.map_some, if_pos hrow]
        exact .claimed hop hget (mem_selectDue hrow).2 (hclaims.trans (if_pos hid))
      · have hsame : (s.table.get id).map (fun row =>
            if row ∈ selectDue s.table dto s.now locked then stamp token e.clock row else row)
              = s.table.get id := by
          cases hget : s.table.get id with
          | none => rfl
          | some row =>
              have hrow : row ∉ selectDue s.table dto s.now locked :=
                fun h => hid (mem_selectDue_ids.mpr ⟨row, hget, h⟩)
              rw [Option.map_some, if_neg hrow]
        rw [hsame]
        exact .kept rfl (hclaims.trans (if_neg hid)) hwins
  | markPublished claim =>
      have hclaims := claims_of_claimToken (s := s) id (show e.op.claimToken? = none by rw [hop]; rfl)
      exact exec_rowMove_terminal (publishedPatch e.clock) (fun _ => rfl)
        (show e.op.terminal? = some claim by rw [hop]; rfl)
        (by simp only [Store.exec, hop, markPublished])
        (fun row hrow howned hwins => .published hop hrow howned hwins) hclaims
  | recordFailure dto =>
      have hclaims := claims_of_claimToken (s := s) id (show e.op.claimToken? = none by rw [hop]; rfl)
      exact exec_rowMove_terminal (failurePatch dto) (fun _ => rfl)
        (show e.op.terminal? = some dto.toClaim by rw [hop]; rfl)
        (by simp only [Store.exec, hop, recordFailure])
        (fun row hrow howned hwins => .failed hop hrow howned hwins) hclaims
  | softDeleteOneById tenantId rowId | restoreOneById tenantId rowId =>
      have hclaims := claims_of_claimToken (s := s) id (show e.op.claimToken? = none by rw [hop]; rfl)
      have hwins := wins_of_terminal (s := s) id (show e.op.terminal? = none by rw [hop]; rfl)
      simp only [Store.exec, hop]
      exact setDeletedAt_rowMove (by rw [hop]; rfl) hclaims hwins
  | elapse ms =>
      simp only [Store.exec, hop]
      exact .kept rfl (claims_of_claimToken id (by rw [hop]; rfl)) (wins_of_terminal id (by rw [hop]; rfl))

theorem rowMove_of_get {s : Store} {e : Event} {id : Uuid} {after : Option OutboxEvent}
    (h : (s.exec e).1.table.get id = after) : RowMove s e id after :=
  h ▸ exec_rowMove s e id

/-! ## Interleavings -/

/-- What the callers share, with the history of what they did to it. -/
structure Shared where
  store : Store
  history : List Record

/-- Executes one statement and records it. -/
def Shared.exec (s : Shared) (e : Event) : Shared :=
  ⟨(s.store.exec e).1, s.store.record e :: s.history⟩

/-- One statement of an interleaving: any allowed one, a claim under a token never used before. -/
inductive Step (Allowed : Op → Prop) : Shared → Shared → Prop
  | exec {s : Shared} (e : Event) (hallowed : Allowed e.op)
      (hfresh : ∀ token, e.op.claimToken? = some token → token ∉ issuedTokens s.history) :
      Step Allowed s (s.exec e)

/-- Any interleaving of any number of statements. -/
abbrev Run (Allowed : Op → Prop) : Shared → Shared → Prop := Relation.ReflTransGen (Step Allowed)

/-- Statements whose enqueued rows are all `New`; nothing else is restricted. -/
def Enqueues (New : OutboxEvent → Prop) : Op → Prop
  | .enqueue row => New row
  | _ => True

/-- A row as it is first stored: pending, under no claim. -/
def Unclaimed (row : OutboxEvent) : Prop := row.status = .pending ∧ row.claimToken = none

/-- A table of new rows, before anything was executed. -/
structure Initial (New : OutboxEvent → Prop) (s : Shared) : Prop where
  history : s.history = []
  rows : ∀ row ∈ s.store.table.rows, New row

section Run

variable {Allowed : Op → Prop}

/-- **The induction behind every row invariant.** What every move of an allowed statement keeps of a row, every
    row keeps in every run. -/
theorem Run.rows {P : OutboxEvent → Prop} {start s : Shared}
    (hmove : ∀ (store : Store) (e : Event) (id : Uuid) (row : OutboxEvent), Allowed e.op →
      (∀ row', store.table.get id = some row' → P row') → RowMove store e id (some row) → P row)
    (hstart : ∀ id row, start.store.table.get id = some row → P row)
    (hrun : Run Allowed start s) : ∀ id row, s.store.table.get id = some row → P row := by
  induction hrun with
  | refl => exact hstart
  | @tail mid _ _ hstep ih =>
      cases hstep with
      | exec e hallowed _ =>
          intro id row hrow
          exact hmove mid.store e id row hallowed (ih id) (rowMove_of_get hrow)

/-- **A row that carries a claim is being processed.** -/
theorem Run.processing_of_claimToken {start s : Shared}
    (hnew : ∀ row, Allowed (.enqueue row) → row.claimToken = none)
    (hstart : ∀ row ∈ start.store.table.rows, row.claimToken = none)
    (hrun : Run Allowed start s) {id : Uuid} {row : OutboxEvent}
    (hrow : s.store.table.get id = some row) (hclaim : row.claimToken ≠ none) :
    row.status = .processing := by
  refine Run.rows (P := fun row => row.claimToken ≠ none → row.status = .processing) ?_ ?_ hrun
    id row hrow hclaim
  · intro store e id row hallowed hbefore hm hc
    cases hm with
    | kept hsame _ _ => exact hbefore row hsame hc
    | enqueued hop _ => exact absurd (hnew row (hop ▸ hallowed)) hc
    | claimed _ _ _ _ => rfl
    | published _ _ _ _ => exact absurd rfl hc
    | failed _ _ _ _ => exact absurd rfl hc
    | @deletion row' _ _ hrow' _ _ => exact hbefore row' hrow' hc
  · intro id row hrow hc
    exact absurd (hstart row (Table.mem_of_get hrow)) hc

end Run

/-! ## A one-row table, for worked runs -/

/-- A row enqueued at time 0 and due at once. -/
def sampleRow : OutboxEvent where
  id := str "e"
  tenantId := str "t"
  createdAt := 0
  deletedAt := none
  status := .pending
  attemptCount := 0
  nextAttemptAt := some 0
  claimedAt := none
  claimToken := none
  publishedAt := none
  lastError := none

/-- The table holding just `sampleRow`, at time 0. -/
def sampleStore : Store where
  table := Table.empty.insert sampleRow List.not_mem_nil
  now := 0

end Outbox
end NestSdk
