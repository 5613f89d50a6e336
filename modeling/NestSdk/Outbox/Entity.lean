import NestSdk.Js.Text

/-!
# `Outbox.Entity` — a row of an outbox table

The columns of `OutboxEventEntity` that some query or the processor reads or writes, under their property
names. Times are milliseconds since the epoch, rational because the database's clock is finer than the
application's.
-/

namespace NestSdk
namespace Outbox

open Js

/-- An instant, or a span of time, in milliseconds. -/
abbrev Time := ℚ

/-- The four states a durable publish intent can be in (`OutboxEventStatus`). -/
inductive OutboxEventStatus
  | pending
  | processing
  | published
  | deadLetter
deriving DecidableEq, Repr

/-- A row (`OutboxEventEntity`, with the `BaseEntity` columns the outbox reads). -/
structure OutboxEvent where
  id : Uuid
  tenantId : Uuid
  createdAt : Time
  deletedAt : Option Time
  status : OutboxEventStatus
  attemptCount : Nat
  nextAttemptAt : Option Time
  claimedAt : Option Time
  claimToken : Option Uuid
  publishedAt : Option Time
  lastError : Option Str
deriving DecidableEq, Repr

/-- A status no query of this module leaves again. -/
def OutboxEventStatus.isTerminal : OutboxEventStatus → Bool
  | .published | .deadLetter => true
  | .pending | .processing => false

end Outbox
end NestSdk
