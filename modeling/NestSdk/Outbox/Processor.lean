import NestSdk.Lib.Coop
import NestSdk.Outbox.Repository

/-!
# `Outbox.Processor` — the loop of `OutboxProcessor`

`runCycle`, `process` and `nextOutboxAttemptAt` as programs over the `Command`s they await or call: the
repository, the service's callbacks (`config`, `publish`, `isPermanentFailure`), the clock, the dice and the
logger. Each command may be answered or may throw; what the answers are is left to whoever runs the program.

The check and the setting of `isRunning` are one command, because no other call of the same process can come
between them.
-/

namespace NestSdk
namespace Outbox

open Js Lib

/-- The knobs a service reads from its own validated environment. -/
structure OutboxProcessorConfig where
  isEnabled : Bool
  pollIntervalMs : Time
  batchSize : Nat
  claimTimeoutMs : Time
  maxAttempts : Nat
  backoffBaseMs : Time
  backoffMaxMs : Time
deriving DecidableEq, Repr

/-- What JavaScript code can throw: an `Error` with its message, or anything else. -/
inductive Thrown
  | error (message : Str)
  | other
deriving DecidableEq, Repr

/-- What the loop asks of its surroundings. -/
inductive Command
  | enter
  | leave
  | config
  | claimDueBatch (dto : ClaimDueBatchDto)
  | publish (event : OutboxEvent)
  | markPublished (dto : Claim)
  | recordFailure (dto : RecordFailureDto)
  | isPermanentFailure (error : Thrown)
  | now
  | random
  | error (message : Str) (eventId : Uuid)
  | warn (message : Str) (eventId tenantId : Uuid) (attemptCount : Nat) (reason : Str)
      (permanent : Bool)
deriving DecidableEq, Repr

/-- What each command is answered with. `enter` is answered with what `isRunning` was. -/
def Reply : Command → Type
  | .enter => Bool
  | .leave => Unit
  | .config => OutboxProcessorConfig
  | .claimDueBatch _ => List OutboxEvent
  | .publish _ => Unit
  | .markPublished _ => Bool
  | .recordFailure _ => Bool
  | .isPermanentFailure _ => Bool
  | .now => Time
  | .random => ℚ
  | .error _ _ => Unit
  | .warn _ _ _ _ _ _ => Unit

/-- A function of the processor. -/
abbrev Async (α : Type) : Type := Prog Command Reply Thrown α

/-- One command, at the type its answer has. -/
def send (c : Command) : Async (Reply c) := Prog.ask c

/-- What `nextOutboxAttemptAt` is told. -/
structure RetryDto where
  attemptCount : Nat
  baseMs : Time
  maxMs : Time

/-- The longest a retry may be put off: `min(baseMs * 2 ** exponent, maxMs)`, the exponent clamped to
    `[0, 20]`. -/
def RetryDto.ceiling (dto : RetryDto) : Time :=
  let exponent := (min (max ((dto.attemptCount : ℤ) - 1) 0) 20).toNat
  min (dto.baseMs * 2 ^ exponent) dto.maxMs

/-- When a failed publish may be attempted again: full jitter below the ceiling. -/
def nextOutboxAttemptAt (dto : RetryDto) : Async Time := do
  let now : Time ← send .now
  let random : ℚ ← send .random
  return now + ⌊random * dto.ceiling⌋

/-- The token under which an event may be settled: `none` is an event without a lease. -/
def OutboxEvent.lease (event : OutboxEvent) : Option Uuid :=
  event.claimToken.filter fun claimToken => !claimToken.isEmpty && event.status == .processing

/-- The event carries a claim token and status `PROCESSING`. -/
def OutboxEvent.isLeased (event : OutboxEvent) : Bool := event.lease.isSome

/-- The event whose publish callback a command invokes. -/
def Command.publishes? : Command → Option OutboxEvent
  | .publish event => some event
  | _ => none

/-- What a row keeps of an error. -/
def lastError (name : Str) : Thrown → Str
  | .error message => message
  | .other => str "Unknown " ++ name ++ str " publish failure"

/-- The claim a terminal write of a leased event presents. -/
def OutboxEvent.claim (event : OutboxEvent) (claimToken : Uuid) : Claim where
  id := event.id
  tenantId := event.tenantId
  claimToken := claimToken

/-- The `catch` block of `process`: completes the attempt as a failure. -/
def processFailure (name : Str) (event : OutboxEvent) (claim : Claim) (attemptCount : Nat)
    (config : OutboxProcessorConfig) (error : Thrown) : Async Unit := do
  let permanent : Bool ← send (.isPermanentFailure error)
  let isDeadLetter := permanent || decide (attemptCount ≥ config.maxAttempts)
  let reason := lastError name error
  let nextAttemptAt : Option Time ←
    if isDeadLetter then pure none
    else do
      let retryAt ← nextOutboxAttemptAt ⟨attemptCount, config.backoffBaseMs, config.backoffMaxMs⟩
      pure (some retryAt)
  let _ : Bool ← send (.recordFailure ⟨claim, attemptCount, nextAttemptAt, isDeadLetter, reason⟩)
  if isDeadLetter then
    send (.warn (name ++ str " outbox event dead-lettered") event.id event.tenantId attemptCount
      reason permanent)
  else pure ()

/-- Publishes one event, then completes or reschedules it. -/
def process (name : Str) (event : OutboxEvent) (config : OutboxProcessorConfig) : Async Unit :=
  match event.lease with
  | none => send (.error (str "Refusing " ++ name ++ str " outbox event without a lease") event.id)
  | some claimToken => do
      let claim := event.claim claimToken
      let attemptCount := event.attemptCount + 1
      try
        let _ : Unit ← send (.publish event)
        let _ : Bool ← send (.markPublished claim)
        pure ()
      catch error => processFailure name event claim attemptCount config error

/-- Claims one batch and processes it; answers how many rows were claimed. -/
def runCycle (name : Str) : Async Nat := do
  let isRunning : Bool ← send .enter
  if isRunning then return 0
  else
    Prog.tryFinally (do
      let config : OutboxProcessorConfig ← send .config
      let batch : List OutboxEvent ← send (.claimDueBatch ⟨config.batchSize, config.claimTimeoutMs⟩)
      batch.forM fun event => process name event config
      return batch.length) (send .leave)

/-- A leased event is published before anything else. -/
theorem process_of_lease (name : Str) {event : OutboxEvent} (config : OutboxProcessorConfig)
    {claimToken : Uuid} (h : event.lease = some claimToken) :
    ∃ k, process name event config = .call (.publish event) k := by
  unfold process
  rw [h]
  exact ⟨_, rfl⟩

/-! ## The schedule of a retry -/

theorem RetryDto.ceiling_nonneg {dto : RetryDto} (hbase : 0 ≤ dto.baseMs) (hmax : 0 ≤ dto.maxMs) :
    0 ≤ dto.ceiling := by
  unfold RetryDto.ceiling
  exact le_min (mul_nonneg hbase (by positivity)) hmax

theorem RetryDto.ceiling_le (dto : RetryDto) : dto.ceiling ≤ dto.maxMs := min_le_right _ _

/-- **A retry is put off by no less than nothing and no more than the ceiling.** -/
theorem retry_bounds {random ceiling : ℚ} (h0 : 0 ≤ random) (h1 : random < 1) (hceiling : 0 ≤ ceiling) :
    (0 : ℚ) ≤ ⌊random * ceiling⌋ ∧ (⌊random * ceiling⌋ : ℚ) ≤ ceiling := by
  have hnonneg : 0 ≤ random * ceiling := mul_nonneg h0 hceiling
  have hle : random * ceiling ≤ ceiling := mul_le_of_le_one_left hceiling h1.le
  refine ⟨?_, (Int.floor_le _).trans hle⟩
  exact_mod_cast Int.floor_nonneg.mpr hnonneg

end Outbox
end NestSdk
