import NestSdk.Outbox.Duty

/-!
# `Outbox.Stranded` — no event is ever stranded

A row waits to be claimed as long as it is pending or processing, and `claimDueBatch` must find it again
whatever became of the process that had it. `Claimable` is the invariant of such rows: they have a time to
be attempted at, so the claim predicate holds of them from then on, and for a row being processed from the
end of its lease on. A pending row that failed was given that time by its newest failure, within the backoff
of the cycle that recorded it.
-/

namespace NestSdk
namespace Outbox

open Js Lib

/-- A row as it is enqueued: pending, under no claim, due at some time. -/
def Awaiting (row : OutboxEvent) : Prop := Unclaimed row ∧ row.nextAttemptAt ≠ none

/-- What every cycle's config says of the backoff. -/
def HasBackoff (config : OutboxProcessorConfig) : Prop :=
  0 ≤ config.backoffBaseMs ∧ 0 ≤ config.backoffMaxMs

/-- The row is at the time its newest failure computed: `computedAt`, read by the caller before it recorded
    the failure, and within the backoff from there. -/
def Rescheduled (row : OutboxEvent) (f : Failure) : Prop :=
  ∃ computedAt config retryAt, f.computedAt = some computedAt ∧ f.config = some config ∧
    computedAt ≤ f.clock ∧ row.nextAttemptAt = some retryAt ∧
    computedAt ≤ retryAt ∧ retryAt ≤ computedAt + config.backoffMaxMs

/-- **A waiting row can be claimed again.** -/
structure Claimable (l : Ledger) : Prop where
  absent : l.row = none → l.failures = []
  due : ∀ row, l.row = some row → row.status.isTerminal = false → row.nextAttemptAt ≠ none
  rescheduled : ∀ row, l.row = some row → row.status = .pending →
    ∀ f ∈ l.failures.head?, Rescheduled row f

/-- **Every statement keeps waiting rows claimable.** -/
theorem Claimable.move {w : World} {e : Event} {id : Uuid} {after : Ledger}
    (h : Claimable (w.ledger id))
    (hmove : LedgerMove Awaiting (Coherent HasBackoff) w e id after) : Claimable after := by
  cases hmove with
  | kept => exact h
  | @enqueued row hnew hnone =>
      refine ⟨fun hnone => absurd hnone (by simp), ?_, ?_⟩
      · rintro r hr -
        obtain rfl := Option.some.inj hr
        exact hnew.2
      · rintro r hr - f hf
        rw [show (w.ledger id).failures = [] from h.absent hnone] at hf
        exact absurd hf (by simp)
  | @claimed row token hrow hstatus hdue =>
      refine ⟨fun hnone => absurd hnone (by simp), ?_, ?_⟩
      · rintro r hr -
        obtain rfl := Option.some.inj hr
        exact hdue
      · rintro r hr hpending
        obtain rfl := Option.some.inj hr
        exact absurd hpending (by simp [stamp])
  | @published row hrow hheld =>
      refine ⟨fun hnone => absurd hnone (by simp), ?_, ?_⟩
      · rintro r hr halive
        obtain rfl := Option.some.inj hr
        exact absurd halive (by simp [publishedPatch, OutboxEventStatus.isTerminal])
      · rintro r hr hpending
        obtain rfl := Option.some.inj hr
        exact absurd hpending (by simp [publishedPatch])
  | @failed row dto hrow hid howned hfails =>
      obtain ⟨permanent, config, -, hconfig, ⟨hbase, hmax⟩, -, hretry⟩ := hfails.verdict
      -- a failure that is no dead letter reschedules its row
      have halive : (failurePatch dto row).status.isTerminal = false → dto.isDeadLetter = false := by
        cases hd : dto.isDeadLetter <;> simp [failurePatch, hd, OutboxEventStatus.isTerminal]
      refine ⟨fun hnone => absurd hnone (by simp), ?_, ?_⟩
      · rintro r hr hr'
        obtain rfl := Option.some.inj hr
        obtain ⟨computedAt, retryAt, -, -, hat, -⟩ := hretry (halive hr')
        simp [failurePatch, halive hr', hat]
      · rintro r hr hpending f hf
        obtain rfl := Option.some.inj hr
        obtain rfl : Failure.of w e dto = f := by simpa using hf
        have hdead := halive (by rw [hpending]; rfl)
        obtain ⟨computedAt, retryAt, hnow, hle, hat, hscheduled⟩ := hretry hdead
        obtain ⟨hlow, hhigh⟩ := hscheduled hbase hmax
        exact ⟨computedAt, config, retryAt, hnow, hconfig, hle, by simp [failurePatch, hdead, hat],
          hlow, hhigh⟩
  | @deletion row deletedAt hrow =>
      refine ⟨fun hnone => absurd hnone (by simp), ?_, ?_⟩
      · rintro r hr halive
        obtain rfl := Option.some.inj hr
        exact h.due row hrow halive
      · rintro r hr hpending f hf
        obtain rfl := Option.some.inj hr
        exact h.rescheduled row hrow hpending f hf

/-- **Waiting rows are claimable in every reached world.** -/
theorem claimable_of_reached {name : Nat → Str} {start w : World}
    (hstart : start.Initial Awaiting) (h : Reached name HasBackoff Awaiting start w)
    (id : Uuid) : Claimable (w.ledger id) := by
  refine Moves.row (fun _ _ _ _ hclaimable hmove => hclaimable.move hmove) ?_
    (h.moves (fun _ hrow => hrow.1.2))
  have hfailures : (start.ledger id).failures = [] := by
    show failuresOf id start.log = []
    rw [hstart.log]
    rfl
  refine ⟨fun _ => hfailures, ?_, ?_⟩
  · intro row hrow _
    exact (hstart.rows row (Table.mem_of_get hrow)).2
  · intro row _ _ f hf
    rw [hfailures] at hf
    exact absurd hf (by simp)

/-- **No outbox event is ever stranded.** Whatever the processors do, and whichever of them stop:
    a row that is pending or processing has a `nextAttemptAt`, and unless it is soft-deleted the claim predicate
    holds of it at every database time from then on that is also, when it is processing, past the end of its
    lease; a pending row that failed waits no longer than the backoff; and a published or dead-lettered row
    never satisfies the predicate. -/
theorem never_stranded {name : Nat → Str} {start w : World} (hstart : start.Initial Awaiting)
    (h : Reached name HasBackoff Awaiting start w) {id : Uuid} {row : OutboxEvent}
    (hrow : w.store.table.get id = some row) :
    (row.status = .pending ∨ row.status = .processing →
      ∃ nextAttemptAt, row.nextAttemptAt = some nextAttemptAt ∧
        (row.deletedAt = none → ∀ now claimTimeoutMs : Time, nextAttemptAt ≤ now →
          (row.status = .processing → ∀ t, row.claimedAt = some t → t + claimTimeoutMs < now) →
          (claimable now claimTimeoutMs row).holds = true)) ∧
    (row.status = .pending → ∀ f ∈ (failuresOf id w.log).head?, Rescheduled row f) ∧
    (row.status = .published ∨ row.status = .deadLetter →
      ∀ now claimTimeoutMs : Time, (claimable now claimTimeoutMs row).holds = false) := by
  have hclaimable := claimable_of_reached hstart h id
  refine ⟨?_, ?_, ?_⟩
  · intro hstatus
    have halive : row.status.isTerminal = false := by
      rcases hstatus with hs | hs <;> rw [hs] <;> rfl
    obtain ⟨nextAttemptAt, hnext⟩ := Option.ne_none_iff_exists'.mp (hclaimable.due row hrow halive)
    refine ⟨nextAttemptAt, hnext, ?_⟩
    intro hdeleted now claimTimeoutMs hdue hlease
    refine claimable_holds.mpr ⟨hdeleted, hstatus, ⟨nextAttemptAt, hnext, hdue⟩, ?_⟩
    rcases hstatus with hpending | hprocessing
    · exact .inl hpending
    · cases hclaimed : row.claimedAt with
      | none => exact .inr (.inl rfl)
      | some t => exact .inr (.inr ⟨t, rfl, by linarith [hlease hprocessing t hclaimed]⟩)
  · intro hpending f hf
    exact hclaimable.rescheduled row hrow hpending f hf
  · intro hstatus now claimTimeoutMs
    apply not_claimable_of_terminal
    rcases hstatus with hs | hs <;> rw [hs] <;> rfl

theorem sampleWorld_awaiting : sampleWorld.Initial Awaiting where
  log := rfl
  rows _ hrow := List.mem_singleton.mp hrow ▸ ⟨⟨rfl, rfl⟩, by decide⟩

/-- The row of the worked run, claimed by a process that stopped, is claimable again once the lease of its
    second claim runs out. -/
theorem never_stranded_republished :
    (claimable 101 100 (stamp (str "c1") 0 sampleRow)).holds = true := by
  have hrow : republishedWorld.store.table.get (str "e") = some (stamp (str "c1") 0 sampleRow) := by
    decide +kernel
  obtain ⟨nextAttemptAt, hnext, hclaimable⟩ := (never_stranded sampleWorld_awaiting
    (reached_republished (fun _ => str "queue") Awaiting ⟨by decide +kernel, by decide +kernel⟩)
    hrow).1 (.inr rfl)
  obtain rfl : 0 = nextAttemptAt := Option.some.inj hnext
  apply hclaimable rfl 101 100 (by decide +kernel)
  rintro - t ht
  obtain rfl : 0 = t := Option.some.inj ht
  decide +kernel

end Outbox
end NestSdk
