import NestSdk.Outbox.Delivered

/-!
# `Outbox.Batch` — which events of a batch a cycle reaches

`runCycle` alone, over a batch of any length. The callbacks may end differently for each event: `outcomes n` is
how they end for the `n`-th event published, so this is every way they can resolve or throw.

An exception of `publish` or `markPublished` stays with its event, whose failure is recorded. An exception of
the `catch` block itself does not: it leaves the loop (`AttemptOutcomes.Escapes`).
-/

namespace NestSdk
namespace Outbox

open Js Lib

/-- How the callbacks end for one event. -/
structure AttemptOutcomes where
  publish : Except Thrown Unit
  markPublished : Except Thrown Bool
  isPermanentFailure : Except Thrown Bool
  recordFailure : Except Thrown Bool
  now : Time
  random : ℚ

/-- The attempt is completed as a failure. -/
def AttemptOutcomes.Fails (outcomes : AttemptOutcomes) : Prop :=
  (∃ error, outcomes.publish = .error error) ∨ ∃ error, outcomes.markPublished = .error error

/-- Completing it throws too. -/
def AttemptOutcomes.Escapes (outcomes : AttemptOutcomes) : Prop :=
  outcomes.Fails ∧
    ((∃ error, outcomes.isPermanentFailure = .error error) ∨
      ∃ error, outcomes.recordFailure = .error error)

/-- The surroundings of one attempt, in a cycle that may begin, reads `config` and claims `batch`. -/
def AttemptOutcomes.answer (outcomes : AttemptOutcomes) (config : OutboxProcessorConfig)
    (batch : List OutboxEvent) : Outcomes
  | .enter => .ok false
  | .leave => .ok ()
  | .config => .ok config
  | .claimDueBatch _ => .ok batch
  | .publish _ => outcomes.publish
  | .markPublished _ => outcomes.markPublished
  | .recordFailure _ => outcomes.recordFailure
  | .isPermanentFailure _ => outcomes.isPermanentFailure
  | .now => .ok outcomes.now
  | .random => .ok outcomes.random
  | .error _ _ => .ok ()
  | .warn _ _ _ _ _ _ => .ok ()

/-- The events published, in order. -/
def published (commands : List Command) : List OutboxEvent := commands.filterMap Command.publishes?

@[simp] theorem published_publish (event : OutboxEvent) (sent : List Command) :
    published (.publish event :: sent) = event :: published sent := rfl

@[simp] theorem published_error (message : Str) (eventId : Uuid) (sent : List Command) :
    published (.error message eventId :: sent) = published sent := rfl

@[simp] theorem published_nil : published [] = [] := rfl

@[simp] theorem published_append (sent sent' : List Command) :
    published (sent ++ sent') = published sent ++ published sent' := List.filterMap_append

theorem published_eq_nil_of_sublist {sent sent' : List Command} (h : sent.Sublist sent')
    (hnone : published sent' = []) : published sent = [] :=
  List.sublist_nil.mp (hnone ▸ h.filterMap Command.publishes?)

/-- Which attempt of a cycle a command belongs to. -/
def attempt (past : List Command) : Command → Nat
  | .publish _ => (published past).length
  | _ => (published past).length - 1

/-- The surroundings of a whole cycle. -/
def cycleReply (outcomes : Nat → AttemptOutcomes) (config : OutboxProcessorConfig) (batch : List OutboxEvent)
    (past : List Command) (c : Command) : Except Thrown (Reply c) :=
  (outcomes (attempt past c)).answer config batch c

/-- The commands a cycle sends, in order. -/
def cycleCommands (name : Str) (outcomes : Nat → AttemptOutcomes) (config : OutboxProcessorConfig)
    (batch : List OutboxEvent) : List Command :=
  ((runCycle name).runAfter (cycleReply outcomes config batch) []).1

/-! ## One attempt -/

section Attempt

variable (name : Str) (event : OutboxEvent) (config : OutboxProcessorConfig) (batch : List OutboxEvent)
  (outcomes : AttemptOutcomes)

/-- The log line of a dead letter. -/
def deadLettered (name : Str) (event : OutboxEvent) (dto : RecordFailureDto) (permanent : Bool) : Command :=
  .warn (name ++ str " outbox event dead-lettered") event.id event.tenantId dto.attemptCount dto.lastError
    permanent

/-- What is logged once the failure is recorded, if it is. -/
def loggedAfter (line : Command) (isDeadLetter : Bool) : Except Thrown Bool → List Command
  | .ok _ => if isDeadLetter then [line] else []
  | .error _ => []

/-- The failure is recorded, then a dead letter logged. -/
theorem run_recordFailure (dto : RecordFailureDto) (permanent : Bool) :
    (do
      let _ : Bool ← send (.recordFailure dto)
      if dto.isDeadLetter then send (deadLettered name event dto permanent)
      else pure () : Async Unit).run (outcomes.answer config batch) =
        (.recordFailure dto ::
          loggedAfter (deadLettered name event dto permanent) dto.isDeadLetter outcomes.recordFailure,
        outcomes.recordFailure.map fun _ => ()) := by
  cases hrecord : outcomes.recordFailure with
  | ok reply =>
      have hanswer : outcomes.answer config batch (.recordFailure dto) = .ok reply := hrecord
      refine (Prog.run_ask_ok _ hanswer).trans ?_
      cases dto.isDeadLetter with
      | true => rfl
      | false => rfl
  | error error =>
      have hanswer : outcomes.answer config batch (.recordFailure dto) = .error error := hrecord
      exact Prog.run_ask_error _ hanswer

/-- **What the `catch` block sends:** a verdict is asked for, a retry scheduled unless the event is given up,
    the failure recorded and a dead letter logged. The first exception ends it. -/
theorem run_processFailure (claim : Claim) (attemptCount : Nat) (error : Thrown) {permanent : Bool}
    (hverdict : outcomes.isPermanentFailure = .ok permanent) :
    ∃ (schedule : List Command) (dto : RecordFailureDto), (schedule = [] ∨ schedule = [.now, .random]) ∧
      dto.isDeadLetter = (permanent || decide (attemptCount ≥ config.maxAttempts)) ∧
      (processFailure name event claim attemptCount config error).run (outcomes.answer config batch) =
        (.isPermanentFailure error :: (schedule ++ .recordFailure dto ::
          loggedAfter (deadLettered name event dto permanent) dto.isDeadLetter outcomes.recordFailure),
        outcomes.recordFailure.map fun _ => ()) := by
  have hanswer : outcomes.answer config batch (.isPermanentFailure error) = .ok permanent := hverdict
  generalize hgiven : (permanent || decide (attemptCount ≥ config.maxAttempts)) = isDeadLetter
  cases isDeadLetter with
  | true =>
      refine ⟨[], ⟨claim, attemptCount, none, true, lastError name error⟩, .inl rfl, rfl, ?_⟩
      refine (Prog.run_ask_ok _ hanswer).trans ?_
      dsimp only
      rw [hgiven]
      exact congrArg (fun r => (Command.isPermanentFailure error :: r.1, r.2))
        (run_recordFailure name event config batch outcomes _ permanent)
  | false =>
      let retry : RetryDto := ⟨attemptCount, config.backoffBaseMs, config.backoffMaxMs⟩
      refine ⟨[.now, .random], ⟨claim, attemptCount,
        some (outcomes.now + ⌊outcomes.random * retry.ceiling⌋), false, lastError name error⟩,
        .inr rfl, rfl, ?_⟩
      refine (Prog.run_ask_ok _ hanswer).trans ?_
      dsimp only
      rw [hgiven]
      exact congrArg (fun r => (Command.isPermanentFailure error :: .now :: .random :: r.1, r.2))
        (run_recordFailure name event config batch outcomes _ permanent)

/-- Without a verdict nothing is recorded. -/
theorem run_processFailure_unjudged (claim : Claim) (attemptCount : Nat) (error : Thrown) {thrown : Thrown}
    (hverdict : outcomes.isPermanentFailure = .error thrown) :
    (processFailure name event claim attemptCount config error).run (outcomes.answer config batch) =
      ([.isPermanentFailure error], .error thrown) := by
  have hanswer : outcomes.answer config batch (.isPermanentFailure error) = .error thrown := hverdict
  exact Prog.run_ask_error _ hanswer

/-- The `catch` block publishes nothing, and throws if one of its two callbacks does. -/
theorem processFailure_result (claim : Claim) (attemptCount : Nat) (error : Thrown) :
    ∃ sent result, (processFailure name event claim attemptCount config error).run
        (outcomes.answer config batch) = (sent, result) ∧ published sent = [] ∧
      ((∃ thrown, result = .error thrown) ↔
        (∃ thrown, outcomes.isPermanentFailure = .error thrown) ∨
          ∃ thrown, outcomes.recordFailure = .error thrown) := by
  cases hverdict : outcomes.isPermanentFailure with
  | error thrown =>
      refine ⟨_, _, run_processFailure_unjudged name event config batch outcomes claim attemptCount error
        hverdict, rfl, ?_⟩
      exact ⟨fun _ => .inl ⟨thrown, rfl⟩, fun _ => ⟨thrown, rfl⟩⟩
  | ok permanent =>
      obtain ⟨schedule, dto, hschedule, -, hrun⟩ :=
        run_processFailure name event config batch outcomes claim attemptCount error hverdict
      refine ⟨_, _, hrun, ?_, ?_⟩
      · rcases hschedule with rfl | rfl <;> cases outcomes.recordFailure <;> cases dto.isDeadLetter <;> rfl
      · cases outcomes.recordFailure with
        | ok reply => simp [Except.map]
        | error thrown => simp [Except.map]

/-- **The two ways an attempt goes:** sent and marked, or completed as a failure of either. -/
theorem run_process {claimToken : Uuid} (hlease : event.lease = some claimToken) :
    (outcomes.publish = .ok () ∧ (∃ marked, outcomes.markPublished = .ok marked) ∧
      (process name event config).run (outcomes.answer config batch) =
        ([.publish event, .markPublished (event.claim claimToken)], .ok ())) ∨
    (outcomes.Fails ∧ ∃ (sent : List Command) (error : Thrown),
      (sent = [] ∨ (sent = [.markPublished (event.claim claimToken)] ∧
        ∃ thrown, outcomes.markPublished = .error thrown)) ∧
      (process name event config).run (outcomes.answer config batch) =
        let failure := (processFailure name event (event.claim claimToken) (event.attemptCount + 1) config
          error).run (outcomes.answer config batch)
        (.publish event :: (sent ++ failure.1), failure.2)) := by
  rw [process_eq name config hlease]
  cases hpublish : outcomes.publish with
  | error error =>
      have hanswer : outcomes.answer config batch (.publish event) = .error error := hpublish
      have hdeliver : (deliver event (event.claim claimToken)).run (outcomes.answer config batch)
          = ([.publish event], .error error) := Prog.run_ask_error _ hanswer
      refine .inr ⟨.inl ⟨error, hpublish⟩, [], error, .inl rfl, ?_⟩
      rw [Prog.run_tryCatch_error _ (congrArg Prod.snd hdeliver), hdeliver]
      rfl
  | ok reply =>
      have hresolved : Resolved (outcomes.answer config batch) (.publish event) := ⟨reply, hpublish⟩
      cases hmark : outcomes.markPublished with
      | error error =>
          have hanswer : outcomes.answer config batch (.markPublished (event.claim claimToken))
              = .error error := hmark
          have hdeliver := run_deliver_unmarked hresolved hanswer
          refine .inr ⟨.inr ⟨error, hmark⟩, _, error, .inr ⟨rfl, error, rfl⟩, ?_⟩
          rw [Prog.run_tryCatch_error _ (congrArg Prod.snd hdeliver), hdeliver]
          rfl
      | ok marked =>
          have hanswer : Resolved (outcomes.answer config batch)
              (.markPublished (event.claim claimToken)) := ⟨marked, hmark⟩
          have hdeliver := run_deliver_ok hresolved hanswer
          refine .inl ⟨rfl, ⟨marked, rfl⟩, ?_⟩
          rw [Prog.run_tryCatch_ok _ (congrArg Prod.snd hdeliver), hdeliver]

theorem not_fails {marked : Bool} (hpublish : outcomes.publish = .ok ())
    (hmark : outcomes.markPublished = .ok marked) : ¬ outcomes.Fails := by
  rintro (⟨error, hthrew⟩ | ⟨error, hthrew⟩)
  · exact absurd (hpublish.symm.trans hthrew) (by simp)
  · exact absurd (hmark.symm.trans hthrew) (by simp)

/-- **One attempt** publishes its event first and no other, and throws exactly when completing it throws. -/
theorem process_result {claimToken : Uuid} (hlease : event.lease = some claimToken) :
    ∃ sent result, (process name event config).run (outcomes.answer config batch) =
        (.publish event :: sent, result) ∧ published sent = [] ∧
      ((∃ thrown, result = .error thrown) ↔ outcomes.Escapes) := by
  rcases run_process name event config batch outcomes hlease with
    ⟨hpublish, ⟨marked, hmark⟩, hrun⟩ | ⟨hfails, sent, error, hsent, hrun⟩
  · refine ⟨_, _, hrun, rfl, ?_⟩
    constructor
    · rintro ⟨thrown, hthrown⟩
      cases hthrown
    · rintro ⟨hfails, -⟩
      exact absurd hfails (not_fails outcomes hpublish hmark)
  · obtain ⟨completing, result, hfailure, hpublished, hthrows⟩ := processFailure_result name event config
      batch outcomes (event.claim claimToken) (event.attemptCount + 1) error
    rw [hfailure] at hrun
    refine ⟨_, _, hrun, ?_, hthrows.trans (and_iff_right hfails).symm⟩
    rw [published_append, hpublished]
    rcases hsent with rfl | ⟨rfl, -⟩
    · rfl
    · rfl

end Attempt

/-! ## The loop -/

section Loop

variable (name : Str) (outcomes : Nat → AttemptOutcomes) (config : OutboxProcessorConfig)
  (batch : List OutboxEvent)

/-- An event without a lease is only logged. -/
theorem runAfter_process_refused {event : OutboxEvent} (hlease : event.lease = none) (past : List Command) :
    (process name event config).runAfter (cycleReply outcomes config batch) past =
      ([.error (str "Refusing " ++ name ++ str " outbox event without a lease") event.id], .ok ()) := by
  unfold process
  rw [hlease]
  rfl

/-- In a cycle that has published `n` events, the next attempt meets the `n`-th outcomes. -/
theorem runAfter_process_leased {event : OutboxEvent} {claimToken : Uuid}
    (hlease : event.lease = some claimToken) (past : List Command) :
    (process name event config).runAfter (cycleReply outcomes config batch) past =
      (process name event config).run ((outcomes (published past).length).answer config batch) := by
  obtain ⟨rest, result, hrun, hpublished, -⟩ :=
    process_result name event config batch (outcomes (published past).length) hlease
  apply Prog.runAfter_eq_run _
  intro sent c hsent
  rw [hrun] at hsent
  unfold cycleReply
  cases sent with
  | nil =>
      obtain rfl : c = .publish event := (List.cons_prefix_cons.mp hsent).1
      simp [attempt]
  | cons first sent =>
      obtain ⟨rfl, hrest⟩ := List.cons_prefix_cons.mp hsent
      have hnone : published (sent ++ [c]) = [] := published_eq_nil_of_sublist hrest.sublist hpublished
      rw [published_append] at hnone
      obtain ⟨hsent', hc⟩ := List.append_eq_nil_iff.mp hnone
      -- the attempt has published its event by now, and `c` is no publish
      have hattempt : attempt (past ++ .publish event :: sent) c = (published past).length := by
        cases c with
        | publish event' => exact absurd hc (by simp [published, Command.publishes?])
        | _ => simp [attempt, published_append, hsent']
      rw [hattempt]

/-- **The loop publishes every leased event of what is left exactly when no attempt but the last escapes,** by
    induction on what is left. -/
theorem published_forM (events : List OutboxEvent) : ∀ past : List Command,
    published ((events.forM fun event => process name event config).runAfter
        (cycleReply outcomes config batch) past).1 = events.filter OutboxEvent.isLeased ↔
      ∀ k, k + 1 < (events.filter OutboxEvent.isLeased).length →
        ¬ (outcomes ((published past).length + k)).Escapes := by
  induction events with
  | nil =>
      intro past
      exact ⟨fun _ k hk => absurd hk (by simp), fun _ => rfl⟩
  | cons event events ih =>
      intro past
      rw [List.forM]
      cases hlease : event.lease with
      | none =>
          have hskip : (event :: events).filter OutboxEvent.isLeased = events.filter OutboxEvent.isLeased :=
            List.filter_cons_of_neg (by simp [OutboxEvent.isLeased, hlease])
          rw [hskip, Prog.runAfter_bind_ok (runAfter_process_refused name outcomes config batch hlease past)]
          have hrest := ih (past ++
            [.error (str "Refusing " ++ name ++ str " outbox event without a lease") event.id])
          simpa using hrest
      | some claimToken =>
          have htake : (event :: events).filter OutboxEvent.isLeased
              = event :: events.filter OutboxEvent.isLeased :=
            List.filter_cons_of_pos (by simp [OutboxEvent.isLeased, hlease])
          obtain ⟨sent, result, hrun, hpublished, hthrows⟩ :=
            process_result name event config batch (outcomes (published past).length) hlease
          have hfirst := (runAfter_process_leased name outcomes config batch hlease past).trans hrun
          rw [htake, List.length_cons]
          cases result with
          | error thrown =>
              -- the loop ends here, so nothing may be left to publish
              have hescapes : (outcomes (published past).length).Escapes := hthrows.mp ⟨thrown, rfl⟩
              rw [Prog.runAfter_bind_error hfirst, published_publish, hpublished]
              constructor
              · intro hall k hk
                have hnone := (List.cons.inj hall).2
                rw [← hnone] at hk
                exact absurd hk (by simp)
              · intro hall
                by_contra hsome
                refine hall 0 ?_ hescapes
                have hpos : (events.filter OutboxEvent.isLeased) ≠ [] := fun hnone => hsome (by rw [hnone])
                have := List.length_pos_of_ne_nil hpos
                omega
          | ok reply =>
              have hkept : ¬ (outcomes (published past).length).Escapes := by
                intro hescapes
                obtain ⟨thrown, hthrown⟩ := hthrows.mpr hescapes
                exact absurd hthrown (by simp)
              have hrest := ih (past ++ .publish event :: sent)
              rw [published_append, published_publish, hpublished, List.length_append] at hrest
              rw [Prog.runAfter_bind_ok hfirst, published_append, published_publish, hpublished]
              refine (List.cons_inj_right event).trans (hrest.trans ?_)
              constructor
              · intro hall k hk
                cases k with
                | zero => exact hkept
                | succ k =>
                    have := hall k (by omega)
                    rwa [List.length_singleton, Nat.add_assoc, Nat.add_comm 1 k] at this
              · intro hall k hk
                have := hall (k + 1) (by omega)
                rwa [List.length_singleton, Nat.add_assoc, Nat.add_comm 1 k]

/-- What a cycle publishes, its loop publishes. -/
theorem published_cycleCommands :
    published (cycleCommands name outcomes config batch) =
      published ((batch.forM fun event => process name event config).runAfter
        (cycleReply outcomes config batch)
        [.enter, .config, .claimDueBatch ⟨config.batchSize, config.claimTimeoutMs⟩]).1 := by
  let past : List Command :=
    [.enter, .config, .claimDueBatch ⟨config.batchSize, config.claimTimeoutMs⟩]
  let loop : Async Unit := batch.forM fun event => process name event config
  have hcycle : cycleCommands name outcomes config batch = past ++
      (((loop >>= fun _ => pure batch.length).tryFinally (send .leave)).runAfter
        (cycleReply outcomes config batch) past).1 := rfl
  have hleave : ∀ past : List Command,
      (send .leave).runAfter (cycleReply outcomes config batch) past = ([.leave], .ok ()) := fun _ => rfl
  have hpast : published past = [] := rfl
  have hleft : published [.leave] = [] := rfl
  rw [hcycle, published_append, hpast, List.nil_append]
  cases hloop : loop.runAfter (cycleReply outcomes config batch) past with
  | mk sent result =>
      cases result with
      | ok reply =>
          rw [Prog.runAfter_tryFinally (Prog.runAfter_bind_ok hloop) (hleave _)]
          show published ((sent ++ []) ++ [.leave]) = published sent
          rw [List.append_nil, published_append, hleft, List.append_nil]
      | error thrown =>
          rw [Prog.runAfter_tryFinally (Prog.runAfter_bind_error hloop) (hleave _)]
          show published (sent ++ [.leave]) = published sent
          rw [published_append, hleft, List.append_nil]

end Loop

/-- **One bad event blocks what is left of its batch exactly when completing its attempt as a failure throws.** A
    cycle publishes every leased event of its batch once, in claim order, and no other, if and only if no
    attempt but the last escapes. -/
theorem cycle_publishes_iff (name : Str) (outcomes : Nat → AttemptOutcomes) (config : OutboxProcessorConfig)
    (batch : List OutboxEvent) :
    published (cycleCommands name outcomes config batch) = batch.filter OutboxEvent.isLeased ↔
      ∀ k, k + 1 < (batch.filter OutboxEvent.isLeased).length → ¬ (outcomes k).Escapes := by
  have hnone : published [.enter, .config, .claimDueBatch ⟨config.batchSize, config.claimTimeoutMs⟩] = [] := rfl
  rw [published_cycleCommands, published_forM, hnone]
  simp only [List.length_nil, Nat.zero_add]

/-- The database is lost while the first event is sent, which fails; the other sends would succeed. -/
def lostOutcomes : Nat → AttemptOutcomes
  | 0 => ⟨.error .other, .ok true, .ok false, .error (.error (str "connection terminated")), 0, 0⟩
  | _ + 1 => ⟨.ok (), .ok true, .ok false, .ok true, 0, 0⟩

/-- A batch of two. -/
def sampleBatch : List OutboxEvent :=
  [stamp (str "k") 0 sampleRow, { stamp (str "k") 0 sampleRow with id := str "f" }]

/-- The first event's failure cannot be recorded, and the second is never published. -/
theorem lost_blocks :
    published (cycleCommands (str "q") lostOutcomes sampleConfig sampleBatch) = sampleBatch.take 1 ∧
    published (cycleCommands (str "q") lostOutcomes sampleConfig sampleBatch) ≠
      sampleBatch.filter OutboxEvent.isLeased := by
  decide +kernel

end Outbox
end NestSdk
