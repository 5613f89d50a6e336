import NestSdk.Outbox.Processor

/-!
# `Outbox.Worker` — what a cycle may ask, and when

The protocol `runCycle` keeps to. A `View` is what the cycle remembers that matters outside it: its config, the
leased events it has not begun to publish, and the attempt under way. `protocol` says which command each view
allows: an event is published only from `todo`, which loses it, and a failure is recorded only for the event
of the attempt, with the count, the verdict and the schedule that follow from its snapshot.

**`runCycle_follows`** is the only place where the program text is looked at; everything after it is about
views.
-/

namespace NestSdk
namespace Outbox

open Js Lib

/-- The event being published, with what was found out since its publish failed. -/
structure Attempt where
  event : OutboxEvent
  permanent : Option Bool
  computedAt : Option Time

/-- What a cycle knows. -/
structure View where
  config : Option OutboxProcessorConfig
  todo : List OutboxEvent
  attempt : Option Attempt

/-- A cycle that has not begun. -/
def View.init : View := ⟨none, [], none⟩

/-- The event leaves `todo` and its attempt begins. -/
def View.publishing (g : View) (event : OutboxEvent) : View :=
  { g with todo := g.todo.tail, attempt := some ⟨event, none, none⟩ }

/-- A retry computed at `computedAt` under `config` is at `retryAt`. -/
def Scheduled (config : OutboxProcessorConfig) (computedAt retryAt : Time) : Prop :=
  0 ≤ config.backoffBaseMs → 0 ≤ config.backoffMaxMs →
    computedAt ≤ retryAt ∧ retryAt ≤ computedAt + config.backoffMaxMs

/-- **The failure the attempt `a` records** under `config`: its event's count plus one, a dead letter when
    the error is permanent or the budget spent, and otherwise a schedule. -/
structure Attempt.Records (a : Attempt) (config : OutboxProcessorConfig) (dto : RecordFailureDto) :
    Prop where
  claim : ∃ claimToken, a.event.claimToken = some claimToken ∧ dto.toClaim = a.event.claim claimToken
  attemptCount : dto.attemptCount = a.event.attemptCount + 1
  deadLetter : ∃ permanent, a.permanent = some permanent ∧
    dto.isDeadLetter = (permanent || decide (dto.attemptCount ≥ config.maxAttempts))
  retry : dto.isDeadLetter = false → ∃ computedAt retryAt, a.computedAt = some computedAt ∧
    dto.nextAttemptAt = some retryAt ∧ Scheduled config computedAt retryAt

/-- Which commands a view allows. -/
def mayAsk (g : View) : Command → Prop
  | .publish event => g.todo.head? = some event
  | .recordFailure dto => ∃ a config, g.attempt = some a ∧ g.config = some config ∧ a.Records config dto
  | _ => True

/-- What is assumed of answers: `Math.random` stays in `[0, 1)`. -/
def canGive : (c : Command) → Except Thrown (Reply c) → Prop
  | .random, .ok (random : ℚ) => 0 ≤ random ∧ random < 1
  | _, _ => True

/-- The view once a command is made. -/
def viewSent (g : View) : Command → View
  | .publish event => g.publishing event
  | _ => g

/-- The view once it is answered. -/
def viewReceived (g : View) : (c : Command) → Except Thrown (Reply c) → View
  | .config, .ok config => { g with config := some config }
  | .claimDueBatch _, .ok (batch : List OutboxEvent) => { g with todo := batch.filter OutboxEvent.isLeased }
  | .publish event, _ => g.publishing event
  | .isPermanentFailure _, .ok permanent =>
      { g with attempt := g.attempt.map fun a => { a with permanent := some permanent } }
  | .now, .ok now => { g with attempt := g.attempt.map fun a => { a with computedAt := some now } }
  | _, _ => g

/-- The protocol of a cycle. -/
def protocol : Protocol Command Reply Thrown View where
  may := mayAsk
  gives := canGive
  sent := viewSent
  received := viewReceived

/-! ## The program keeps to it -/

variable {α : Type}

/-- Keeping to the protocol, with a postcondition. -/
abbrev Keeps (Q : View → Except Thrown α → Prop) : Async α → View → Prop := Follows protocol Q

/-- The rule for one command and what comes after it. -/
theorem keeps_send {Q : View → Except Thrown α → Prop} {c : Command} {f : Reply c → Async α} {g : View}
    (hmay : mayAsk g c) (hok : ∀ r, canGive c (.ok r) → Keeps Q (f r) (viewReceived g c (.ok r)))
    (herror : ∀ e, Q (viewReceived g c (.error e)) (.error e)) : Keeps Q (send c >>= f) g := by
  refine Follows.bind (follows_ask hmay ?_)
  intro r hr
  cases r with
  | ok a => exact hok a hr
  | error e => exact herror e

/-- The schedule is computed from the clock read for it. -/
theorem nextOutboxAttemptAt_keeps {Q : View → Except Thrown Time → Prop} {g : View} {dto : RetryDto}
    (hok : ∀ (now : Time) (random : ℚ), 0 ≤ random → random < 1 →
      Q (viewReceived g .now (.ok now)) (.ok (now + ⌊random * dto.ceiling⌋)))
    (herror : ∀ g' e, Q g' (.error e)) : Keeps Q (nextOutboxAttemptAt dto) g := by
  refine keeps_send trivial ?_ (herror _)
  intro now _
  refine keeps_send trivial ?_ (herror _)
  intro random hrandom
  exact hok now random hrandom.1 hrandom.2

/-- **A schedule computed by `nextOutboxAttemptAt` stays within the backoff.** -/
theorem scheduled_retry (config : OutboxProcessorConfig) (attemptCount : Nat) {now : Time} {random : ℚ}
    (h0 : 0 ≤ random) (h1 : random < 1) :
    Scheduled config now (now + ⌊random *
      (RetryDto.mk attemptCount config.backoffBaseMs config.backoffMaxMs).ceiling⌋) := by
  intro hbase hmax
  let dto : RetryDto := ⟨attemptCount, config.backoffBaseMs, config.backoffMaxMs⟩
  have hceiling : 0 ≤ dto.ceiling := RetryDto.ceiling_nonneg hbase hmax
  obtain ⟨hlow, hhigh⟩ := retry_bounds h0 h1 hceiling
  have hle : dto.ceiling ≤ config.backoffMaxMs := dto.ceiling_le
  exact ⟨le_add_of_nonneg_right hlow, by linarith⟩

/-- What a cycle goes on from: its config, and the leased events among those still to come. -/
def GoesOn (config : OutboxProcessorConfig) (events : List OutboxEvent) (g : View) : Prop :=
  g.config = some config ∧ g.todo = events.filter OutboxEvent.isLeased

/-- The postcondition of one event: the cycle goes on, or has thrown. -/
def Processed (config : OutboxProcessorConfig) (events : List OutboxEvent) (g : View) :
    Except Thrown α → Prop
  | .ok _ => GoesOn config events g
  | .error _ => True

/-- **The `catch` block records what the attempt's failure is.** -/
theorem processFailure_keeps (name : Str) {a : Attempt} {claimToken : Uuid} {events : List OutboxEvent}
    {config : OutboxProcessorConfig} (error : Thrown) {g : View} (hgoes : GoesOn config events g)
    (hattempt : g.attempt = some a) (htoken : a.event.claimToken = some claimToken) :
    Keeps (Processed config events) (processFailure name a.event (a.event.claim claimToken)
      (a.event.attemptCount + 1) config error) g := by
  unfold processFailure
  refine keeps_send trivial ?_ (fun _ => trivial)
  intro permanent _
  have hgoes' : GoesOn config events (viewReceived g (.isPermanentFailure error) (.ok permanent)) :=
    hgoes
  -- whatever the schedule, what is recorded is the attempt's failure
  have hwarn : ∀ (isDeadLetter : Bool) (message reason : Str) (g : View), GoesOn config events g →
      Keeps (Processed config events) (if isDeadLetter then
        send (.warn message a.event.id a.event.tenantId (a.event.attemptCount + 1) reason permanent)
        else pure ()) g := by
    intro isDeadLetter message reason g hgoes
    cases isDeadLetter with
    | false => exact hgoes
    | true =>
        apply follows_ask trivial
        intro r _
        cases r with
        | ok _ => exact hgoes
        | error _ => trivial
  by_cases hdead : (permanent || decide (a.event.attemptCount + 1 ≥ config.maxAttempts)) = true
  · simp only [hdead, if_true]
    refine keeps_send ⟨{ a with permanent := some permanent }, config, ?_, hgoes.1, ?_⟩ ?_
      (fun _ => trivial)
    · simp only [viewReceived, hattempt, Option.map_some]
    · exact {
        claim := ⟨claimToken, htoken, rfl⟩
        attemptCount := rfl
        deadLetter := ⟨permanent, rfl, rfl⟩
        retry := fun h => absurd (hdead.symm.trans h) (by decide) }
    · intro _ _
      exact hwarn true _ _ _ hgoes'
  · rw [Bool.not_eq_true] at hdead
    simp only [hdead]
    refine Follows.bind (nextOutboxAttemptAt_keeps ?_ (fun _ _ => trivial))
    intro now random h0 h1
    refine keeps_send ⟨⟨a.event, some permanent, some now⟩, config, ?_, hgoes.1, ?_⟩ ?_
      (fun _ => trivial)
    · simp only [viewReceived, hattempt, Option.map_some]
    · exact {
        claim := ⟨claimToken, htoken, rfl⟩
        attemptCount := rfl
        deadLetter := ⟨permanent, rfl, rfl⟩
        retry := fun _ => ⟨now, _, rfl, rfl, scheduled_retry config _ h0 h1⟩ }
    · intro _ _
      exact hwarn false _ _ _ hgoes'

/-- **`process` keeps to the protocol:** it publishes the head of `todo` if that event has a lease, and
    settles only that event. -/
theorem process_keeps (name : Str) (event : OutboxEvent) (events : List OutboxEvent)
    (config : OutboxProcessorConfig) {g : View} (hgoes : GoesOn config (event :: events) g) :
    Keeps (Processed config events) (process name event config) g := by
  obtain ⟨hconfig, htodo⟩ := hgoes
  unfold process
  cases hlease : event.lease with
  | none =>
      have hrest : g.todo = events.filter OutboxEvent.isLeased := by
        rw [htodo, List.filter_cons, if_neg (by simp [OutboxEvent.isLeased, hlease])]
      apply follows_ask trivial
      intro r _
      cases r with
      | ok _ => exact ⟨hconfig, hrest⟩
      | error _ => trivial
  | some claimToken =>
      have hhead : g.todo = event :: events.filter OutboxEvent.isLeased := by
        rw [htodo, List.filter_cons, if_pos (by simp [OutboxEvent.isLeased, hlease])]
      have htoken : event.claimToken = some claimToken := (Option.filter_eq_some_iff.mp hlease).1
      have hgoes : GoesOn config events (g.publishing event) := ⟨hconfig, by
        show g.todo.tail = _
        rw [hhead, List.tail_cons]⟩
      -- the `catch` block starts from the same view whether publishing or marking threw
      have hcatch := fun error => processFailure_keeps name (a := ⟨event, none, none⟩) error hgoes rfl
        htoken
      refine Follows.tryCatch (keeps_send (by rw [mayAsk, hhead, List.head?_cons]) ?_ hcatch)
      intro _ _
      refine keeps_send trivial ?_ hcatch
      intro _ _
      exact hgoes

/-- **`runCycle` keeps to the protocol** from a view that knows nothing. -/
theorem runCycle_follows (name : Str) : Keeps (fun _ _ => True) (runCycle name) View.init := by
  unfold runCycle
  refine keeps_send trivial ?_ (fun _ => trivial)
  intro isRunning _
  cases isRunning with
  | true => exact trivial
  | false =>
      -- `leave` is allowed in every view, so the body may end in any
      refine Follows.tryFinally (Follows.mono (Q := fun _ _ => True) ?_ ?_)
      · intro g outcome _
        apply follows_ask trivial
        intro r _
        cases r with
        | ok _ => trivial
        | error _ => trivial
      · refine keeps_send trivial ?_ (fun _ => trivial)
        intro config _
        refine keeps_send trivial ?_ (fun _ => trivial)
        intro batch _
        refine Follows.bind (follows_forM (GoesOn config) ?_ ?_ batch ⟨rfl, rfl⟩)
        · intro event events g hgoes
          refine Follows.mono ?_ (process_keeps name event events config hgoes)
          intro g' r hr
          cases r with
          | ok _ => exact hr
          | error _ => trivial
        · intro g _
          exact trivial

end Outbox
end NestSdk
