import NestSdk.Outbox.Batch

/-!
# `Outbox.Logs` — what an attempt logs

The terminal writes answer whether the row was still this claim's. `process` awaits the answer and drops it, so
what it logs is what it meant to write: a dead letter is logged whether the row became one or not, and a lost
lease never is.
-/

namespace NestSdk
namespace Outbox

open Js Lib

/-- A line the logger is given. -/
def Command.isLogLine : Command → Bool
  | .error _ _ | .warn _ _ _ _ _ _ => true
  | _ => false

/-- The line that reports a dead letter. -/
def Command.isDeadLetterLine (name : Str) : Command → Bool
  | .warn message _ _ _ _ _ => message == name ++ str " outbox event dead-lettered"
  | _ => false

/-- A terminal write that found the row no longer this claim's. -/
def Refused (answer : Outcomes) : Command → Prop
  | .markPublished dto => answer (.markPublished dto) = .ok false
  | .recordFailure dto => answer (.recordFailure dto) = .ok false
  | _ => False

/-- **Logs tell the truth about the row.** A dead letter is logged exactly when a failure was recorded as one,
    and a terminal write that was refused is logged as something else. -/
structure LogsTruth (name : Str) (answer : Outcomes) (commands : List Command) : Prop where
  deadLetter : (∃ line ∈ commands, line.isDeadLetterLine name = true) ↔
    ∃ dto, .recordFailure dto ∈ commands ∧ dto.isDeadLetter = true ∧ answer (.recordFailure dto) = .ok true
  lostLease : ∀ c ∈ commands, Refused answer c →
    ∃ line ∈ commands, line.isLogLine = true ∧ line.isDeadLetterLine name = false

/-- The terminal write the attempt makes is refused. -/
def AttemptOutcomes.LosesLease (outcomes : AttemptOutcomes) : Prop :=
  (outcomes.publish = .ok () ∧ outcomes.markPublished = .ok false) ∨
    (outcomes.Fails ∧ (∃ permanent, outcomes.isPermanentFailure = .ok permanent) ∧
      outcomes.recordFailure = .ok false)

/-- A command that is no log line, records nothing and was not refused. -/
def Silent (answer : Outcomes) (c : Command) : Prop :=
  c.isLogLine = false ∧ (∀ dto, c ≠ .recordFailure dto) ∧ ¬ Refused answer c

/-! ## What the log of an attempt can be -/

section Log

variable {name : Str} {answer : Outcomes}

theorem isLogLine_of_isDeadLetterLine {c : Command} (h : c.isDeadLetterLine name = true) :
    c.isLogLine = true := by
  cases c with
  | warn => rfl
  | _ => exact absurd h (by simp [Command.isDeadLetterLine])

/-- Without a log line and without a refused write there is nothing to get wrong. -/
theorem logsTruth_of_silent {commands : List Command} (h : ∀ c ∈ commands, Silent answer c) :
    LogsTruth name answer commands where
  deadLetter := by
    constructor
    · rintro ⟨line, hline, hdead⟩
      exact absurd (isLogLine_of_isDeadLetterLine hdead) (by simp [(h line hline).1])
    · rintro ⟨dto, hrecorded, -⟩
      exact absurd rfl ((h _ hrecorded).2.1 dto)
  lostLease := fun c hc hrefused => absurd hrefused (h c hc).2.2

/-- What follows the recording: a dead letter's line, if the write got through. -/
theorem mem_logged {line : Command} {recorded : Except Thrown Bool} {isDeadLetter : Bool} {c : Command} :
    c ∈ loggedAfter line isDeadLetter recorded ↔
      c = line ∧ isDeadLetter = true ∧ ∃ kept, recorded = .ok kept := by
  cases recorded with
  | ok kept => cases isDeadLetter <;> simp [loggedAfter]
  | error thrown => simp [loggedAfter]

/-- Silent commands, the recording of a failure, and its log line if it was recorded as a dead letter: the
    answer that the row was lost goes nowhere. -/
theorem logsTruth_recorded {event : OutboxEvent} {permanent : Bool} {sent : List Command}
    {dto : RecordFailureDto} {recorded : Except Thrown Bool}
    (hanswer : ∀ dto, answer (.recordFailure dto) = recorded) (hsent : ∀ c ∈ sent, Silent answer c) :
    LogsTruth name answer (sent ++ .recordFailure dto ::
        loggedAfter (deadLettered name event dto permanent) dto.isDeadLetter recorded) ↔
      recorded ≠ .ok false := by
  have hdeadLine : (deadLettered name event dto permanent).isDeadLetterLine name = true := beq_self_eq_true _
  constructor
  · rintro h rfl
    -- a refused write asks for a line that is no dead letter's, and there is none
    obtain ⟨line, hline, hlog, hother⟩ :=
      h.lostLease (.recordFailure dto) (by simp) (hanswer dto)
    rcases List.mem_append.mp hline with hline | hline
    · exact absurd hlog (by simp [(hsent line hline).1])
    · rcases List.mem_cons.mp hline with rfl | hline
      · exact absurd hlog (by simp [Command.isLogLine])
      · rw [(mem_logged.mp hline).1] at hother
        exact absurd hother (by simp [hdeadLine])
  · intro hkept
    refine ⟨⟨?_, ?_⟩, ?_⟩
    · rintro ⟨line, hline, hdead⟩
      rcases List.mem_append.mp hline with hline | hline
      · exact absurd (isLogLine_of_isDeadLetterLine hdead) (by simp [(hsent line hline).1])
      · rcases List.mem_cons.mp hline with rfl | hline
        · exact absurd hdead (by simp [Command.isDeadLetterLine])
        · obtain ⟨-, hisDead, kept, rfl⟩ := mem_logged.mp hline
          refine ⟨dto, by simp, hisDead, (hanswer dto).trans ?_⟩
          cases kept with
          | true => rfl
          | false => exact absurd rfl hkept
    · rintro ⟨dto', hrecorded, hisDead, htrue⟩
      have hkeptTrue : recorded = .ok true := (hanswer dto').symm.trans htrue
      rcases List.mem_append.mp hrecorded with hrecorded | hrecorded
      · exact absurd rfl ((hsent _ hrecorded).2.1 dto')
      · rcases List.mem_cons.mp hrecorded with hdto | hrecorded
        · obtain rfl := Command.recordFailure.inj hdto
          have hline : deadLettered name event dto' permanent ∈
              loggedAfter (deadLettered name event dto' permanent) dto'.isDeadLetter recorded :=
            mem_logged.mpr ⟨rfl, hisDead, true, hkeptTrue⟩
          exact ⟨_, List.mem_append_right _ (List.mem_cons_of_mem _ hline), hdeadLine⟩
        · exact absurd (mem_logged.mp hrecorded).1 (by simp [deadLettered])
    · intro c hc hrefused
      rcases List.mem_append.mp hc with hc | hc
      · exact absurd hrefused (hsent c hc).2.2
      · rcases List.mem_cons.mp hc with rfl | hc
        · exact absurd ((hanswer dto).symm.trans hrefused) hkept
        · rw [(mem_logged.mp hc).1] at hrefused
          exact absurd hrefused (by simp [deadLettered, Refused])

theorem markPublished_silent {outcomes : AttemptOutcomes} (config : OutboxProcessorConfig) (dto : Claim)
    (hmark : outcomes.markPublished ≠ .ok false) :
    Silent (outcomes.answer config []) (.markPublished dto) :=
  ⟨rfl, by simp, hmark⟩

end Log

/-- **Logs tell the truth exactly when no lease is lost:** when the terminal write an attempt makes finds the
    row still its own. -/
theorem logsTruth_iff (name : Str) (event : OutboxEvent) (config : OutboxProcessorConfig)
    (outcomes : AttemptOutcomes) {claimToken : Uuid} (hlease : event.lease = some claimToken) :
    LogsTruth name (outcomes.answer config [])
      (attemptCommands name event config (outcomes.answer config [])) ↔ ¬ outcomes.LosesLease := by
  have hpublishSilent : Silent (outcomes.answer config []) (.publish event) := ⟨rfl, by simp, id⟩
  unfold attemptCommands AttemptOutcomes.LosesLease
  rcases run_process name event config [] outcomes hlease with
    ⟨hpublish, ⟨marked, hmark⟩, hrun⟩ | ⟨hfails, sent, error, hsent, hrun⟩
  · have hfails := not_fails outcomes hpublish hmark
    rw [hrun]
    cases marked with
    | true =>
        have hmarkSilent := markPublished_silent config (event.claim claimToken)
          (show outcomes.markPublished ≠ .ok false by simp [hmark])
        refine iff_of_true (logsTruth_of_silent ?_) (by simp [hmark, hfails])
        simp [hpublishSilent, hmarkSilent]
    | false =>
        refine iff_of_false ?_ (by simp [hmark, hpublish])
        intro h
        obtain ⟨line, hline, hlog, -⟩ := h.lostLease (.markPublished (event.claim claimToken)) (by simp) hmark
        simp only [List.mem_cons, List.not_mem_nil, or_false] at hline
        rcases hline with rfl | rfl
        · exact absurd hlog (by simp [Command.isLogLine])
        · exact absurd hlog (by simp [Command.isLogLine])
  · rw [hrun]
    have hquiet : ∀ c ∈ .publish event :: sent, Silent (outcomes.answer config []) c := by
      rcases hsent with rfl | ⟨rfl, thrown, hmark⟩
      · simp [hpublishSilent]
      · have hmarkSilent := markPublished_silent config (event.claim claimToken)
          (show outcomes.markPublished ≠ .ok false by simp [hmark])
        simp [hpublishSilent, hmarkSilent]
    have hjudgedSilent : Silent (outcomes.answer config []) (.isPermanentFailure error) := ⟨rfl, by simp, id⟩
    -- the attempt failed, so it was not `markPublished` that had the last word
    have hunmarked : ¬ (outcomes.publish = .ok () ∧ outcomes.markPublished = .ok false) :=
      fun h => not_fails outcomes h.1 h.2 hfails
    cases hverdict : outcomes.isPermanentFailure with
    | error thrown =>
        dsimp only
        rw [run_processFailure_unjudged name event config [] outcomes _ _ _ hverdict]
        refine iff_of_true (logsTruth_of_silent ?_) (by simp [hunmarked])
        intro c hc
        rw [← List.cons_append] at hc
        rcases List.mem_append.mp hc with hc | hc
        · exact hquiet c hc
        · exact (List.mem_singleton.mp hc) ▸ hjudgedSilent
    | ok permanent =>
        obtain ⟨schedule, dto, hschedule, -, hfailure⟩ := run_processFailure name event config [] outcomes
          (event.claim claimToken) (event.attemptCount + 1) error hverdict
        dsimp only
        rw [hfailure, ← List.cons_append, ← List.cons_append, ← List.append_assoc]
        refine (logsTruth_recorded (fun _ => rfl) ?_).trans ?_
        · intro c hc
          rcases List.mem_append.mp hc with hc | hc
          · exact hquiet c hc
          · rcases List.mem_cons.mp hc with rfl | hc
            · exact hjudgedSilent
            · rcases hschedule with rfl | rfl
              · exact absurd hc List.not_mem_nil
              · simp only [List.mem_cons, List.not_mem_nil, or_false] at hc
                rcases hc with rfl | rfl
                · exact ⟨rfl, by simp, id⟩
                · exact ⟨rfl, by simp, id⟩
        · simp [hunmarked, hfails]

/-- The send fails on the last attempt, and by then the row has been claimed again. -/
def reclaimedOutcomes : AttemptOutcomes where
  publish := .error (.error (str "timeout"))
  markPublished := .ok true
  isPermanentFailure := .ok false
  recordFailure := .ok false
  now := 0
  random := 0

/-- The log reports a dead letter, which the row is not, and no lost lease. -/
theorem reclaimed_logged_dead :
    (stamp (str "k") 0 sampleRow).lease = some (str "k") ∧
    ¬ LogsTruth (str "q") (reclaimedOutcomes.answer sampleConfig [])
      (attemptCommands (str "q") (stamp (str "k") 0 sampleRow) sampleConfig
        (reclaimedOutcomes.answer sampleConfig [])) := by
  have hlogged : ∃ line ∈ attemptCommands (str "q") (stamp (str "k") 0 sampleRow) sampleConfig
      (reclaimedOutcomes.answer sampleConfig []), line.isDeadLetterLine (str "q") = true := by
    decide +kernel
  refine ⟨by decide, ?_⟩
  intro h
  obtain ⟨dto, -, -, hrecorded⟩ := h.deadLetter.mp hlogged
  cases hrecorded

/-- Sent and marked: there is nothing to log. -/
theorem logsTruth_marked :
    LogsTruth (str "q") (AttemptOutcomes.answer ⟨.ok (), .ok true, .ok false, .ok true, 0, 0⟩ sampleConfig [])
      (attemptCommands (str "q") (stamp (str "k") 0 sampleRow) sampleConfig
        (AttemptOutcomes.answer ⟨.ok (), .ok true, .ok false, .ok true, 0, 0⟩ sampleConfig [])) := by
  have hlease : (stamp (str "k") 0 sampleRow).lease = some (str "k") := by decide
  refine (logsTruth_iff (str "q") (stamp (str "k") 0 sampleRow) sampleConfig _ hlease).mpr ?_
  rintro (⟨-, hmark⟩ | ⟨hfails, -⟩)
  · exact absurd hmark (by simp)
  · exact absurd hfails (not_fails _ rfl rfl)

end Outbox
end NestSdk
