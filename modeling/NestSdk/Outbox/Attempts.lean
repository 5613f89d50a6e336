import NestSdk.Outbox.Duty

/-!
# `Outbox.Attempts` — attempt accounting

`attemptCount` is computed from a snapshot taken when the row was claimed and written much later, so a lost
update is the thing to fear. It cannot happen: the write lands only while the row still carries the claim's
token, and then the snapshot's count is the row's (`Coherent`). What is left is bookkeeping, and `Accounted`
is the invariant: the count is the number of failures recorded, within the budget, and the row is a dead
letter exactly when one of them was permanent or the budget is spent.
-/

namespace NestSdk
namespace Outbox

open Js Lib

/-- A row as it is enqueued: pending, under no claim, never attempted. -/
def Untried (row : OutboxEvent) : Prop := Unclaimed row ∧ row.attemptCount = 0

/-- Whether an attempt at the row has begun and not failed. -/
def OutboxEventStatus.attempted (status : OutboxEventStatus) : Nat :=
  if status = .processing ∨ status = .published then 1 else 0

/-- A failure that ends its row: judged permanent, or the last of the budget. -/
def Spent (maxAttempts : Nat) (failures : List Failure) : Prop :=
  (∃ f ∈ failures, f.permanent = some true) ∨ failures.length = maxAttempts

/-- **The books of one row balance.** -/
structure Accounted (maxAttempts : Nat) (l : Ledger) : Prop where
  absent : l.row = none → l.failures = [] ∧ l.leases = 0
  bound : l.failures.length ≤ maxAttempts
  count : ∀ row, l.row = some row → row.attemptCount = l.failures.length
  dead : ∀ row, l.row = some row → (row.status = .deadLetter ↔ Spent maxAttempts l.failures)
  leases : ∀ row, l.row = some row → l.leases = l.failures.length + row.status.attempted

/-- A row that was never attempted has balanced books. -/
theorem Accounted.untried {maxAttempts : Nat} (hpos : 1 ≤ maxAttempts) {l : Ledger}
    (hfailures : l.failures = []) (hleases : l.leases = 0)
    (hrow : ∀ row, l.row = some row → Untried row) : Accounted maxAttempts l where
  absent _ := ⟨hfailures, hleases⟩
  bound := by
    rw [hfailures]
    exact Nat.zero_le _
  count row hr := by rw [(hrow row hr).2, hfailures, List.length_nil]
  dead row hr := by
    rw [(hrow row hr).1.1, hfailures]
    constructor
    · intro hdead
      exact absurd hdead (by decide)
    · rintro (⟨f, hf, -⟩ | hlength)
      · exact absurd hf List.not_mem_nil
      · rw [List.length_nil] at hlength
        omega
  leases row hr := by
    rw [(hrow row hr).1.1, hleases, hfailures]
    rfl

/-- What every cycle's config says of the budget. -/
def HasBudget (maxAttempts : Nat) (config : OutboxProcessorConfig) : Prop :=
  config.maxAttempts = maxAttempts

/-- **One failure keeps the books:** the row was being processed, so its budget was not spent, and the failure
    ends it exactly when it is permanent or the last. -/
theorem Accounted.failed {maxAttempts : Nat} {w : World} {e : Event} {id : Uuid} {row : OutboxEvent}
    {dto : RecordFailureDto} (h : Accounted maxAttempts (w.ledger id))
    (hrow : w.store.table.get id = some row) (hid : dto.id = id)
    (howned : ownedBy dto.toClaim row = true) (hstatus : row.status = .processing)
    (hfails : Coherent (HasBudget maxAttempts) w e dto) :
    Accounted maxAttempts { w.ledger id with
      row := some (failurePatch dto row)
      failures := Failure.of w e dto :: (w.ledger id).failures } := by
  obtain ⟨permanent, config, hverdict, -, hconfig, hdead, -⟩ := hfails.verdict
  have hcount : dto.attemptCount = row.attemptCount + 1 :=
    hfails.attemptCount row (hid ▸ hrow) howned
  have hfailures : row.attemptCount = (w.ledger id).failures.length := h.count row hrow
  -- the row was not dead, so neither was its budget spent
  have halive : ¬ Spent maxAttempts (w.ledger id).failures := by
    rw [← h.dead row hrow, hstatus]
    decide
  have hlt : (w.ledger id).failures.length < maxAttempts :=
    lt_of_le_of_ne h.bound (fun heq => halive (.inr heq))
  have hspent : dto.isDeadLetter = true ↔
      Spent maxAttempts (Failure.of w e dto :: (w.ledger id).failures) := by
    have hlast : dto.attemptCount ≥ config.maxAttempts ↔
        (w.ledger id).failures.length + 1 = maxAttempts := by
      rw [hcount, hfailures, show config.maxAttempts = maxAttempts from hconfig]
      omega
    rw [hdead, Bool.or_eq_true, decide_eq_true_iff, hlast]
    constructor
    · rintro (hpermanent | hlength)
      · exact .inl ⟨_, List.mem_cons_self, by rw [Failure.of, hverdict, hpermanent]⟩
      · exact .inr (by rw [List.length_cons, hlength])
    · rintro (⟨f, hf, hpermanent⟩ | hlength)
      · rcases List.mem_cons.mp hf with rfl | hf
        · exact .inl (Option.some.inj (hverdict.symm.trans hpermanent))
        · exact absurd (.inl ⟨f, hf, hpermanent⟩) halive
      · exact .inr (by rw [← hlength, List.length_cons])
  have hdeadRow : (failurePatch dto row).status = .deadLetter ↔ dto.isDeadLetter = true := by
    cases hd : dto.isDeadLetter <;> simp [failurePatch, hd]
  have hattempted : (failurePatch dto row).status.attempted = 0 := by
    cases hd : dto.isDeadLetter <;> simp [failurePatch, hd, OutboxEventStatus.attempted]
  refine ⟨fun hnone => absurd hnone (by simp), ?_, ?_, ?_, ?_⟩
  · rw [List.length_cons]
    omega
  · rintro row' hrow'
    obtain rfl := Option.some.inj hrow'
    show dto.attemptCount = _
    rw [hcount, hfailures, List.length_cons]
  · rintro row' hrow'
    obtain rfl := Option.some.inj hrow'
    rw [hdeadRow, hspent]
  · rintro row' hrow'
    obtain rfl := Option.some.inj hrow'
    have hbefore := h.leases row hrow
    rw [hattempted, List.length_cons]
    rw [hstatus] at hbefore
    exact hbefore

/-- **Every statement keeps the books.** -/
theorem Accounted.move {maxAttempts : Nat} (hpos : 1 ≤ maxAttempts) {w : World} {e : Event} {id : Uuid}
    {after : Ledger} (hprocessing : ∀ row, w.store.table.get id = some row → row.claimToken ≠ none →
      row.status = .processing)
    (h : Accounted maxAttempts (w.ledger id))
    (hmove : LedgerMove Untried (Coherent (HasBudget maxAttempts)) w e id after) :
    Accounted maxAttempts after := by
  -- a row whose failures stay the same, and whose new status is as dead as the old one
  have hsame : ∀ {row row' : OutboxEvent} {leases : Nat}, w.store.table.get id = some row →
      row'.attemptCount = row.attemptCount →
      (row'.status = .deadLetter ↔ row.status = .deadLetter) →
      leases + row.status.attempted = (w.ledger id).leases + row'.status.attempted →
      Accounted maxAttempts ⟨some row', (w.ledger id).failures, leases⟩ := by
    intro row row' leases hrow hcount hdead hleases
    have hbefore := h.leases row hrow
    refine ⟨fun hnone => absurd hnone (by simp), h.bound, ?_, ?_, ?_⟩
    · rintro r hr
      obtain rfl := Option.some.inj hr
      rw [hcount, h.count row hrow]
    · rintro r hr
      obtain rfl := Option.some.inj hr
      rw [hdead, h.dead row hrow]
    · rintro r hr
      obtain rfl := Option.some.inj hr
      show leases = (w.ledger id).failures.length + _
      omega
  cases hmove with
  | kept => exact h
  | @enqueued row hnew hnone =>
      obtain ⟨hfailures, hleases⟩ := h.absent hnone
      refine Accounted.untried hpos hfailures hleases ?_
      rintro r hr
      obtain rfl := Option.some.inj hr
      exact hnew
  | @claimed row token hrow hstatus _ =>
      refine hsame hrow rfl ?_ ?_
      · rcases hstatus with hs | hs <;> rw [hs] <;> simp [stamp]
      · rcases hstatus with hs | hs <;> rw [hs] <;> simp [stamp, OutboxEventStatus.attempted]
  | @published row hrow hheld =>
      have hs := hprocessing row hrow hheld
      refine hsame hrow rfl ?_ ?_
      · rw [hs]; simp [publishedPatch]
      · rw [hs]; rfl
  | @failed row dto hrow hid howned hfails =>
      have hheld : row.claimToken ≠ none := by
        rw [(ownedBy_iff.mp howned).2.2]
        simp
      exact h.failed hrow hid howned (hprocessing row hrow hheld) hfails
  | @deletion row deletedAt hrow => exact hsame hrow rfl Iff.rfl rfl

/-- **The books of every row balance in every reached world.** -/
theorem accounted_of_reached {name : Nat → Str} {maxAttempts : Nat} (hpos : 1 ≤ maxAttempts)
    {start w : World} (hstart : start.Initial Untried)
    (h : Reached name (HasBudget maxAttempts) Untried start w) (id : Uuid) :
    Accounted maxAttempts (w.ledger id) := by
  have hnew : ∀ row, Untried row → row.claimToken = none := fun row hrow => hrow.1.2
  refine Moves.row ?_ ?_ (h.moves hnew)
  · intro w e after hmoves hbooks hmove
    refine hbooks.move hpos ?_ hmove
    intro row hrow
    exact Run.processing_of_claimToken hnew (fun row h => hnew row (hstart.rows row h))
      (Moves.run hmoves) hrow
  · refine Accounted.untried hpos ?_ ?_ (fun row hrow => hstart.rows row (Table.mem_of_get hrow))
    · show failuresOf id start.log = []
      rw [hstart.log]
      rfl
    · show leaseCount id (start.log.filterMap Entry.stored?) = 0
      rw [hstart.log]
      rfl

/-- **Attempt accounting loses no update.** Whatever the processors do: a row's `attemptCount` is the number of
    failures recorded for it and never exceeds the budget, a pending row has budget left, and a row is
    `DEAD_LETTER` exactly when a recorded failure was judged permanent or brought the count to the budget. -/
theorem attempt_accounting {name : Nat → Str} {maxAttempts : Nat} (hpos : 1 ≤ maxAttempts)
    {start w : World} (hstart : start.Initial Untried)
    (h : Reached name (HasBudget maxAttempts) Untried start w) {id : Uuid} {row : OutboxEvent}
    (hrow : w.store.table.get id = some row) :
    row.attemptCount = (failuresOf id w.log).length ∧
    row.attemptCount ≤ maxAttempts ∧
    (row.status = .pending → row.attemptCount < maxAttempts) ∧
    (row.status = .deadLetter ↔ (∃ f ∈ failuresOf id w.log, f.permanent = some true) ∨
      (failuresOf id w.log).length = maxAttempts) := by
  have hbooks := accounted_of_reached hpos hstart h id
  have hcount : row.attemptCount = (failuresOf id w.log).length := hbooks.count row hrow
  have hbound : (failuresOf id w.log).length ≤ maxAttempts := hbooks.bound
  have hdead : row.status = .deadLetter ↔ Spent maxAttempts (failuresOf id w.log) :=
    hbooks.dead row hrow
  refine ⟨hcount, hcount ▸ hbound, ?_, hdead⟩
  intro hpending
  have halive : ¬ Spent maxAttempts (failuresOf id w.log) := by
    rw [← hdead, hpending]
    decide
  have hne : (failuresOf id w.log).length ≠ maxAttempts := fun heq => halive (.inr heq)
  omega

theorem sampleWorld_initial : sampleWorld.Initial Untried where
  log := rfl
  rows _ hrow := List.mem_singleton.mp hrow ▸ ⟨⟨rfl, rfl⟩, rfl⟩

/-! ## A worked run: a publish that fails for good -/

/-- What is recorded of it. -/
def givenUp (claim : Claim) (attemptCount : Nat) (name : Str) (error : Thrown) : RecordFailureDto :=
  ⟨claim, attemptCount, none, true, lastError name error⟩

section Permanent

variable (name : Nat → Str) (Config : OutboxProcessorConfig → Prop) (New : OutboxEvent → Prop)

/-- Its publish throws. -/
def World.threw (w : World) (i : Caller) (event : OutboxEvent) (error : Thrown) : World :=
  (w.note (.called i (.publish event))).note (.answered i (.publish event) (.error error))

/-- The error is judged permanent. -/
def World.judged (w : World) (i : Caller) (error : Thrown) : World :=
  (w.note (.called i (.isPermanentFailure error))).note (.answered i (.isPermanentFailure error) (.ok true))

/-- The failure is recorded. -/
def World.buried (w : World) (i : Caller) (dto : RecordFailureDto) : World :=
  ((w.note (.called i (.recordFailure dto))).exec ⟨i, w.clock i.process, .recordFailure dto⟩).note
    (.answered i (.recordFailure dto) (.ok true))

/-- With one leased event in its batch, a cycle publishes that and records a permanent failure. -/
theorem rest_of_permanent (name : Str) (config : OutboxProcessorConfig) {event : OutboxEvent} {token : Uuid}
    (hlease : event.lease = some token) (error : Thrown) :
    ∃ k, rest name config [event] = .call (.publish event) k ∧
      ∃ k', k (.error error) = .call (.isPermanentFailure error) k' ∧
        ∃ k'', k' (.ok true)
          = .call (.recordFailure (givenUp (event.claim token) (event.attemptCount + 1) name error)) k'' := by
  unfold rest process
  rw [List.forM, hlease]
  exact ⟨_, rfl, _, rfl, _, rfl⟩

/-- **A cycle that cannot publish its one event gives it up,** if the error is judged permanent. -/
theorem run_to_buried {w : World} (threads : Caller → Option (Thread Command Reply Thrown Nat)) (i : Caller)
    (config : OutboxProcessorConfig) {event : OutboxEvent} {token : Uuid} (hlease : event.lease = some token)
    (error : Thrown) {dto : RecordFailureDto}
    (hdto : dto = givenUp (event.claim token) (event.attemptCount + 1) (name i.process) error)
    (hrecorded : (w.store.exec ⟨i, w.clock i.process, .recordFailure dto⟩).2 = .written true) :
    ∃ thread, Sys.Run (host Config New) (fun caller => runCycle (name caller.process))
      ⟨w, Function.update threads i (some (.ready (rest (name i.process) config [event])))⟩
      ⟨((w.threw i event error).judged i error).buried i dto, Function.update threads i (some thread)⟩ := by
  obtain ⟨k, hk, k', hk', k'', hk''⟩ := rest_of_permanent (name i.process) config hlease error
  have hthrown : (host Config New).reply (w.note (.called i (.publish event))) i (.publish event) (.error error)
      (w.threw i event error) := ⟨_, .thrown rfl error, rfl⟩
  have hjudged : (host Config New).reply ((w.threw i event error).note (.called i (.isPermanentFailure error))) i
      (.isPermanentFailure error) (.ok true) ((w.threw i event error).judged i error) := ⟨_, .judged error true, rfl⟩
  have hburied : (host Config New).reply
      (((w.threw i event error).judged i error).note (.called i (.recordFailure dto))) i (.recordFailure dto) (.ok true)
      (((w.threw i event error).judged i error).buried i dto) := by
    refine ⟨_, .stored [] [] rfl (fun token hnone => absurd hnone (by simp [Op.claimToken?])) ?_, rfl⟩
    show Answer.reply _ (w.store.exec ⟨i, w.clock i.process, .recordFailure dto⟩).2 = _
    rw [hrecorded]
    rfl
  -- three commands, each asked by the program that is left of the cycle
  refine ⟨.ready (k'' (.ok true)), ?_⟩
  rw [hk]
  refine .trans (Sys.Run.ask i (Command.publish event) k _ hthrown) ?_
  rw [hk']
  refine .trans (Sys.Run.ask i (Command.isPermanentFailure error) k' _ hjudged) ?_
  rw [hk'', ← hdto]
  exact Sys.Run.ask i (Command.recordFailure dto) _ _ hburied

end Permanent

/-- An error with this message is not going to go away. -/
def rejected : Thrown := .error (str "message rejected")

/-- What is recorded for the row of the worked table. -/
def sampleFailure : RecordFailureDto :=
  ⟨(stamp (str "c0") 0 sampleRow).claim (str "c0"), 1, none, true, str "message rejected"⟩

/-- Process 0 claims the row. -/
def claimedWorld : World :=
  sampleWorld.claimed ⟨0, 0⟩ sampleConfig (str "c0") [stamp (str "c0") 0 sampleRow]

/-- It fails to publish the row and gives it up. -/
def buriedWorld : World :=
  ((claimedWorld.threw ⟨0, 0⟩ (stamp (str "c0") 0 sampleRow) rejected).judged ⟨0, 0⟩ rejected).buried ⟨0, 0⟩
    sampleFailure

theorem reached_buried (name : Nat → Str) {Config : OutboxProcessorConfig → Prop} (New : OutboxEvent → Prop)
    (hconfig : Config sampleConfig) : Reached name Config New sampleWorld buriedWorld := by
  have hbatch : Sys.Run (host Config New) (fun caller => runCycle (name caller.process)) ⟨sampleWorld, fun _ => none⟩
      ⟨claimedWorld, Function.update (fun _ => none) ⟨0, 0⟩
        (some (.ready (rest (name 0) sampleConfig [stamp (str "c0") 0 sampleRow])))⟩ :=
    run_to_batch ⟨0, 0⟩ sampleConfig (str "c0") [stamp (str "c0") 0 sampleRow] rfl rfl hconfig List.not_mem_nil
      (by decide +kernel)
  have hlease : (stamp (str "c0") 0 sampleRow).lease = some (str "c0") := by decide
  obtain ⟨thread, hburied⟩ := run_to_buried name Config New (w := claimedWorld) (fun _ => none) ⟨0, 0⟩ sampleConfig
    hlease rejected (show sampleFailure = _ from rfl) (by decide +kernel)
  exact ⟨_, hbatch.trans hburied⟩

/-- The row is charged for the one failure, and buried for it. -/
theorem attempt_accounting_buried :
    ∃ row, buriedWorld.store.table.get (str "e") = some row ∧ row.attemptCount = 1 ∧
      row.attemptCount = (failuresOf (str "e") buriedWorld.log).length ∧
      (row.status = .deadLetter ↔ (∃ f ∈ failuresOf (str "e") buriedWorld.log, f.permanent = some true) ∨
        (failuresOf (str "e") buriedWorld.log).length = 1) := by
  have hrow : buriedWorld.store.table.get (str "e")
      = some (failurePatch sampleFailure (stamp (str "c0") 0 sampleRow)) := by decide +kernel
  obtain ⟨hcount, -, -, hdead⟩ := attempt_accounting (by decide) sampleWorld_initial
    (reached_buried (fun _ => str "queue") Untried rfl) hrow
  exact ⟨_, hrow, rfl, hcount, hdead⟩

end Outbox
end NestSdk
