import NestSdk.Outbox.World

/-!
# `Outbox.Moves` — what happens to the world

`Moves` are the runs of the world alone, with the processors left out: entries are noted, clocks advance,
statements are executed, and a failure is recorded only as a parameter `Fails` allows. Everything the host
does is a few moves (`host_reply_moves`, `env_moves`), and on the shared table moves are an interleaving
(`Moves.run`), so what `Shared` runs keep, moves keep.

The second half is the induction the row invariants of the later modules share, `Moves.row`: a move changes
a row's state, its failures and its claims only by executing a statement, and then as `RowMove` says.
-/

namespace NestSdk
namespace Outbox

open Js Lib

/-- One move of the world. -/
inductive Move (New : OutboxEvent → Prop) (Fails : World → Event → RecordFailureDto → Prop) :
    World → World → Prop
  | note {w : World} (entry : Entry) (hentry : entry.stored? = none) : Move New Fails w (w.note entry)
  | setRunning {w : World} (process : Nat) (isRunning : Bool) :
      Move New Fails w (w.setRunning process isRunning)
  | tick {w : World} (process : Nat) (ms : ℚ≥0) : Move New Fails w (w.tick process ms)
  | exec {w : World} (e : Event) (hnew : Enqueues New e.op)
      (hfresh : ∀ token, e.op.claimToken? = some token → token ∉ issuedTokens w.history)
      (hfails : ∀ dto, e.op = .recordFailure dto → Fails w e dto) : Move New Fails w (w.exec e)

/-- Any number of moves. -/
abbrev Moves (New : OutboxEvent → Prop) (Fails : World → Event → RecordFailureDto → Prop) :
    World → World → Prop := Relation.ReflTransGen (Move New Fails)

/-- Moves in which any failure may be recorded. -/
abbrev AnyMoves (New : OutboxEvent → Prop) : World → World → Prop := Moves New (fun _ _ _ => True)

section Basics

variable {New : OutboxEvent → Prop} {Fails : World → Event → RecordFailureDto → Prop}
  {Config : OutboxProcessorConfig → Prop}

theorem Enqueues.of_statement {c : Command} {locked : List Uuid} {token : Uuid} {op : Op}
    (h : c.statement locked token = some op) : Enqueues New op := by
  cases op with
  | enqueue row => cases c <;> exact absurd h (by simp [Command.statement])
  | _ => trivial

/-- **On the shared table, moves are an interleaving.** -/
theorem Moves.run {w w' : World} (h : Moves New Fails w w') :
    Run (Enqueues New) w.shared w'.shared := by
  induction h with
  | refl => exact .refl
  | @tail mid _ _ hmove ih =>
      cases hmove with
      | note entry hentry => rw [World.shared_note _ hentry]; exact ih
      | setRunning process isRunning => exact ih
      | tick process ms => exact ih
      | exec e hnew hfresh _ => exact ih.tail (.exec e hnew hfresh)

/-- Clocks never go back. -/
theorem Moves.clock {w w' : World} (h : Moves New Fails w w') (process : Nat) :
    w.clock process ≤ w'.clock process := by
  induction h with
  | refl => exact le_refl _
  | @tail mid _ _ hmove ih =>
      apply ih.trans
      cases hmove with
      | note _ _ | setRunning _ _ | exec _ _ _ _ => exact le_refl _
      | tick i ms =>
          show mid.clock process ≤ Function.update mid.clock i (mid.clock i + ms) process
          by_cases hi : process = i
          · rw [hi, Function.update_self]
            exact le_add_of_nonneg_right ms.cast_nonneg
          · rw [Function.update_of_ne hi]

/-- What a command does to the world is a few moves, if the failure it records is allowed. -/
theorem Effect.moves {w w' : World} {caller : Caller} {c : Command} {outcome : Except Thrown (Reply c)}
    (h : Effect Config w caller c outcome w')
    (hfails : ∀ dto, c = .recordFailure dto →
      Fails w ⟨caller, w.clock caller.process, .recordFailure dto⟩ dto) : Moves New Fails w w' := by
  have hstatement : ∀ {op locked token}, c.statement locked token = some op →
      (∀ t, op.claimToken? = some t → t ∉ issuedTokens w.history) →
      Move New Fails w (w.exec ⟨caller, w.clock caller.process, op⟩) := by
    intro op locked token hop hfresh
    refine .exec _ (Enqueues.of_statement hop) hfresh ?_
    rintro dto rfl
    cases c with
    | recordFailure dto' =>
        obtain rfl : dto' = dto := by simpa [Command.statement] using hop
        exact hfails dto' rfl
    | _ => exact absurd hop (by simp [Command.statement])
  cases h with
  | enter => exact .single (.setRunning _ _)
  | leave => exact .single (.setRunning _ _)
  | stored locked token hop hfresh _ => exact .single (hstatement hop hfresh)
  | lost locked token hop hfresh _ => exact .single (hstatement hop hfresh)
  | config _ | published _ | judged _ _ | now | random _ _ | error _ _ | warn _ _ _ _ _ _
  | thrown _ _ => exact .refl

/-- A command and its answer, as moves. -/
theorem host_reply_moves {w w' : World} {caller : Caller} {c : Command}
    {outcome : Except Thrown (Reply c)} (h : (host Config New).reply w caller c outcome w')
    (hfails : ∀ dto, c = .recordFailure dto →
      Fails w ⟨caller, w.clock caller.process, .recordFailure dto⟩ dto) : Moves New Fails w w' := by
  obtain ⟨mid, heffect, rfl⟩ := h
  exact (heffect.moves hfails).tail (.note _ rfl)

theorem env_moves {w w' : World} (h : Env New w w') : Moves New Fails w w' := by
  cases h with
  | tick process ms => exact .single (.tick process ms)
  | statement e hop hnew =>
      refine .single (.exec e hnew ?_ ?_)
      · intro token htoken
        rw [Op.isOutbox, htoken] at hop
        exact absurd hop (by simp)
      · intro dto hdto
        rw [hdto] at hop
        exact absurd hop (by simp [Op.isOutbox, Op.terminal?])

end Basics

/-! ## One row under moves -/

/-- The failure a statement records, with what its caller was told before. -/
def Failure.of (w : World) (e : Event) (dto : RecordFailureDto) : Failure :=
  ⟨dto, e.clock, lastVerdict e.caller w.log, lastNow e.caller w.log, lastConfig e.caller w.log⟩

/-- What there is to know of one row: the row, the failures recorded for it, and how often it was claimed when
    nobody was processing it. -/
structure Ledger where
  row : Option OutboxEvent
  failures : List Failure
  leases : Nat

def World.ledger (w : World) (id : Uuid) : Ledger :=
  ⟨w.store.table.get id, failuresOf id w.log, leaseCount id w.history⟩

/-- Everything one statement can do to the ledger of the row `id`: the argument is the ledger it leaves. -/
inductive LedgerMove (New : OutboxEvent → Prop) (Fails : World → Event → RecordFailureDto → Prop)
    (w : World) (e : Event) (id : Uuid) : Ledger → Prop
  | kept : LedgerMove New Fails w e id (w.ledger id)
  | enqueued {row : OutboxEvent} (hnew : New row) (hnone : w.store.table.get id = none) :
      LedgerMove New Fails w e id { w.ledger id with row := some row }
  | claimed {row : OutboxEvent} {token : Uuid} (hrow : w.store.table.get id = some row)
      (hstatus : row.status = .pending ∨ row.status = .processing)
      (hdue : row.nextAttemptAt ≠ none) :
      LedgerMove New Fails w e id { w.ledger id with
        row := some (stamp token e.clock row)
        leases := if row.status = .processing then (w.ledger id).leases else (w.ledger id).leases + 1 }
  | published {row : OutboxEvent} (hrow : w.store.table.get id = some row)
      (hheld : row.claimToken ≠ none) :
      LedgerMove New Fails w e id { w.ledger id with row := some (publishedPatch e.clock row) }
  | failed {row : OutboxEvent} {dto : RecordFailureDto} (hrow : w.store.table.get id = some row)
      (hid : dto.id = id) (howned : ownedBy dto.toClaim row = true) (hfails : Fails w e dto) :
      LedgerMove New Fails w e id { w.ledger id with
        row := some (failurePatch dto row)
        failures := Failure.of w e dto :: (w.ledger id).failures }
  | deletion {row : OutboxEvent} {deletedAt : Option Time} (hrow : w.store.table.get id = some row) :
      LedgerMove New Fails w e id { w.ledger id with row := some { row with deletedAt := deletedAt } }

section Row

variable {New : OutboxEvent → Prop} {Fails : World → Event → RecordFailureDto → Prop}

/-- Only a successful terminal write records a failure. -/
theorem failure_of_wins {id : Uuid} {r : Record} (h : r.wins id = none) : r.failure? id = none := by
  cases hf : r.failure? id with
  | none => rfl
  | some dto =>
      unfold Record.failure? at hf
      split at hf
      · rename_i dto' hop hans
        by_cases hid : dto'.id = id
        · simp [Record.wins, hop, hans, Op.terminal?, hid] at h
        · rw [if_neg hid] at hf
          exact hf.symm
      · exact hf.symm

/-- A successful `recordFailure` is a failure. -/
theorem failure_of_success {id token : Uuid} {r : Record} {dto : RecordFailureDto}
    (hop : r.event.op = .recordFailure dto) (h : r.wins id = some token) :
    r.failure? id = some dto := by
  unfold Record.wins at h
  split at h
  · rename_i claim hclaim hans
    rw [hop] at hclaim
    obtain rfl : dto.toClaim = claim := Option.some.inj hclaim
    by_cases hid : dto.id = id
    · simp only [Record.failure?, hop, hans, if_pos hid]
    · rw [if_neg hid] at h
      exact absurd h (by simp)
  · exact absurd h (by simp)

theorem failuresOf_exec (w : World) (e : Event) (id : Uuid) :
    failuresOf id (w.exec e).log =
      (((w.store.record e).failure? id).map (Failure.of w e)).toList ++ failuresOf id w.log := rfl

theorem leaseCount_exec (w : World) (e : Event) (id : Uuid) :
    leaseCount id (w.exec e).history = leaseCount id w.history +
      if ((w.store.record e).claims id).isSome && !(w.store.record e).reclaims id then 1 else 0 := by
  show List.countP _ (w.store.record e :: w.history) = _
  rw [List.countP_cons]
  rfl

/-- **Everything one statement can do to the ledger of a row,** read off `RowMove`. -/
theorem exec_ledgerMove {w : World} {e : Event} (hnew : Enqueues New e.op)
    (hfails : ∀ dto, e.op = .recordFailure dto → Fails w e dto) (id : Uuid) :
    LedgerMove New Fails w e id ((w.exec e).ledger id) := by
  have hshape : (w.exec e).ledger id = ⟨(w.store.exec e).1.table.get id,
      (((w.store.record e).failure? id).map (Failure.of w e)).toList ++ failuresOf id w.log,
      leaseCount id w.history +
        if ((w.store.record e).claims id).isSome && !(w.store.record e).reclaims id then 1 else 0⟩ := by
    simp only [World.ledger, failuresOf_exec, leaseCount_exec]
    rfl
  have hplain : ∀ after, (w.store.record e).claims id = none → (w.store.record e).failure? id = none →
      (⟨after, (((w.store.record e).failure? id).map (Failure.of w e)).toList ++ failuresOf id w.log,
        leaseCount id w.history +
          if ((w.store.record e).claims id).isSome && !(w.store.record e).reclaims id then 1 else 0⟩
        : Ledger) = { w.ledger id with row := after } := by
    intro after hclaims hfailure
    rw [hclaims, hfailure]
    rfl
  have hm := exec_rowMove w.store e id
  rw [hshape]
  generalize (w.store.exec e).1.table.get id = after at hm
  cases hm with
  | kept hsame hclaims hwins =>
      rw [hplain after hclaims (failure_of_wins hwins), ← hsame]
      exact .kept
  | enqueued hop hnone =>
      have hclaims := claims_of_claimToken (s := w.store) id (by rw [hop]; rfl)
      have hwins := wins_of_terminal (s := w.store) id (by rw [hop]; rfl)
      rw [hplain _ hclaims (failure_of_wins hwins)]
      rw [hop] at hnew
      exact .enqueued hnew hnone
  | @claimed row dto locked token hop hrow hdue hclaims =>
      have hwins := wins_of_terminal (s := w.store) id (by rw [hop]; rfl)
      have hreclaims : (w.store.record e).reclaims id = decide (row.status = .processing) := by
        show (_ && (w.store.table.get id).any _) = _
        rw [hclaims, hrow]
        rfl
      obtain ⟨-, hstatus, ⟨t, ht, -⟩, -⟩ := claimable_holds.mp hdue
      have hmove : LedgerMove New Fails w e id { w.ledger id with
          row := some (stamp token e.clock row)
          leases := if row.status = .processing then (w.ledger id).leases
            else (w.ledger id).leases + 1 } := .claimed hrow hstatus (by rw [ht]; simp)
      rw [failure_of_wins hwins, hclaims, hreclaims]
      by_cases hp : row.status = .processing
      · simp only [hp] at hmove ⊢
        exact hmove
      · simp only [hp] at hmove ⊢
        exact hmove
  | @published row claim hop hrow howned _ =>
      have hclaims := claims_of_claimToken (s := w.store) id (by rw [hop]; rfl)
      have hfailure : (w.store.record e).failure? id = none := by
        simp only [Record.failure?, Store.record, hop]
      rw [hplain _ hclaims hfailure]
      exact .published hrow (by rw [(ownedBy_iff.mp howned).2.2]; simp)
  | @failed row dto hop hrow howned hwins =>
      have hclaims := claims_of_claimToken (s := w.store) id (by rw [hop]; rfl)
      have hid : dto.id = id := (ownedBy_iff.mp howned).1.symm.trans (Table.get_key hrow)
      have hfailure : (w.store.record e).failure? id = some dto := failure_of_success hop hwins
      rw [hclaims, hfailure]
      exact .failed hrow hid howned (hfails dto hop)
  | @deletion row deletedAt _ hrow hclaims hwins =>
      rw [hplain _ hclaims (failure_of_wins hwins)]
      exact .deletion hrow

/-- A move either leaves every ledger alone, or executes one statement. -/
theorem Move.quiet_or_exec {w w' : World} (h : Move New Fails w w') :
    (∀ id, w'.ledger id = w.ledger id) ∨
      ∃ e, w' = w.exec e ∧ Enqueues New e.op ∧ ∀ dto, e.op = .recordFailure dto → Fails w e dto := by
  cases h with
  | note entry hentry =>
      refine .inl fun id => ?_
      have hhistory : (w.note entry).history = w.history := World.history_note w hentry
      have hfailures : failuresOf id (w.note entry).log = failuresOf id w.log := by
        cases entry with
        | stored r => exact absurd hentry (by simp [Entry.stored?])
        | called _ _ | answered _ _ _ => rfl
      simp only [World.ledger, hhistory, hfailures]
      rfl
  | setRunning _ _ | tick _ _ => exact .inl fun _ => rfl
  | exec e hnew _ hfails => exact .inr ⟨e, rfl, hnew, hfails⟩

/-- **The induction behind every invariant of one row.** What every statement keeps of a ledger, every run of
    moves keeps. -/
theorem Moves.row {P : Ledger → Prop} {start : World} {id : Uuid}
    (hmove : ∀ w e after, Moves New Fails start w → P (w.ledger id) →
      LedgerMove New Fails w e id after → P after)
    (hstart : P (start.ledger id)) {w : World} (h : Moves New Fails start w) : P (w.ledger id) := by
  induction h with
  | refl => exact hstart
  | @tail mid _ hmid hstep ih =>
      rcases hstep.quiet_or_exec with hquiet | ⟨e, rfl, hnew, hfails⟩
      · rw [hquiet id]
        exact ih
      · exact hmove mid e _ hmid ih (exec_ledgerMove hnew hfails id)

end Row

end Outbox
end NestSdk
