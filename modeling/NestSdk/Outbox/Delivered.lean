import NestSdk.Outbox.World

/-!
# `Outbox.Delivered` — which failures `process` records

One `try` block of `process` holds both the send and the write that records it, and its `catch` takes every
exception for a failed send. Here `process` runs alone, every command of it answered by an arbitrary
`answer`: it sends each command at most once, so this is every way `publish`, `markPublished`,
`recordFailure` and `isPermanentFailure` can end.
-/

namespace NestSdk
namespace Outbox

open Js Lib

/-- The surroundings of one attempt: how each command of it ends. -/
abbrev Outcomes : Type := (c : Command) → Except Thrown (Reply c)

/-- The commands one attempt sends, in order. -/
def attemptCommands (name : Str) (event : OutboxEvent) (config : OutboxProcessorConfig)
    (answer : Outcomes) : List Command :=
  ((process name event config).run answer).1

/-- The callback resolved, or it threw. -/
def Resolved (answer : Outcomes) (c : Command) : Prop := ∃ reply, answer c = .ok reply

def Threw (answer : Outcomes) (c : Command) : Prop := ∃ error, answer c = .error error

/-- The statements an attempt sends to the table; it never claims. -/
def statements (commands : List Command) : List Op := commands.filterMap (Command.statement [] [])

/-- Executes one statement after another. -/
def Store.execAll (s : Store) (es : List Event) : Store := es.foldl (fun s e => (s.exec e).1) s

/-- The attempt count is what it was, and the row is a dead letter only if it was one. -/
def Uncharged (row row' : OutboxEvent) : Prop :=
  row'.attemptCount = row.attemptCount ∧ (row'.status = .deadLetter → row.status = .deadLetter)

/-- **A delivered event is no failure.** A failure is recorded, and a verdict on it asked for, only when
    `publish` threw; and an event whose `publish` resolved is neither charged nor dead-lettered by whichever of
    the attempt's statements get through. -/
structure FailsOnlyUndelivered (name : Str) (event : OutboxEvent) (config : OutboxProcessorConfig)
    (answer : Outcomes) : Prop where
  recorded : ∀ dto, .recordFailure dto ∈ attemptCommands name event config answer →
    Threw answer (.publish event)
  judged : ∀ error, .isPermanentFailure error ∈ attemptCommands name event config answer →
    Threw answer (.publish event)
  row : Resolved answer (.publish event) → ∀ (s : Store) (es : List Event) (row row' : OutboxEvent),
    (es.map Event.op).Sublist (statements (attemptCommands name event config answer)) →
    s.table.get event.id = some row → (s.execAll es).table.get event.id = some row' → Uncharged row row'

/-! ## What charges a row -/

/-- **Only `recordFailure` charges a row,** and no statement removes one. -/
theorem uncharged_exec {s : Store} {e : Event} {id : Uuid} {row : OutboxEvent}
    (hop : ∀ dto, e.op ≠ .recordFailure dto) (hrow : s.table.get id = some row) :
    ∃ row', (s.exec e).1.table.get id = some row' ∧ Uncharged row row' := by
  generalize hafter : (s.exec e).1.table.get id = after
  cases rowMove_of_get hafter with
  | kept hsame _ _ => exact ⟨row, hsame ▸ hrow, rfl, fun h => h⟩
  | enqueued _ hnone => exact absurd (hnone.symm.trans hrow) (by simp)
  | claimed _ hrow' _ _ =>
      obtain rfl := Option.some.inj (hrow.symm.trans hrow')
      exact ⟨_, rfl, rfl, fun h => absurd h (by simp [stamp])⟩
  -- neither write touches `attemptCount`, and neither makes a dead letter
  | published _ hrow' _ _ =>
      obtain rfl := Option.some.inj (hrow.symm.trans hrow')
      exact ⟨_, rfl, rfl, fun h => absurd h (by simp [publishedPatch])⟩
  | failed hfails _ _ _ => exact absurd hfails (hop _)
  | deletion _ hrow' _ _ =>
      obtain rfl := Option.some.inj (hrow.symm.trans hrow')
      exact ⟨_, rfl, rfl, fun h => h⟩

theorem uncharged_execAll {es : List Event} (hops : ∀ e ∈ es, ∀ dto, e.op ≠ .recordFailure dto)
    {s : Store} {id : Uuid} {row : OutboxEvent} (hrow : s.table.get id = some row) :
    ∃ row', (s.execAll es).table.get id = some row' ∧ Uncharged row row' := by
  induction es generalizing s row with
  | nil => exact ⟨row, hrow, rfl, fun h => h⟩
  | cons e es ih =>
      obtain ⟨mid, hmid, hcount, hdead⟩ := uncharged_exec (hops e List.mem_cons_self) hrow
      obtain ⟨row', hrow', hcount', hdead'⟩ :=
        ih (fun e he => hops e (List.mem_cons_of_mem _ he)) hmid
      exact ⟨row', hrow', hcount'.trans hcount, fun h => hdead (hdead' h)⟩

/-! ## The three ways an attempt goes -/

section Attempt

variable (name : Str) {event : OutboxEvent} (config : OutboxProcessorConfig) {answer : Outcomes}
  {claimToken : Uuid}

/-- The `try` block of `process`. -/
def deliver (event : OutboxEvent) (claim : Claim) : Async PUnit := do
  let _ : Unit ← send (.publish event)
  let _ : Bool ← send (.markPublished claim)
  pure ()

theorem process_eq (h : event.lease = some claimToken) :
    process name event config
      = tryCatch (deliver event (event.claim claimToken)) (fun error =>
          processFailure name event (event.claim claimToken) (event.attemptCount + 1) config error) := by
  unfold process
  rw [h]
  rfl

theorem run_deliver_ok {claim : Claim} (hpublish : Resolved answer (.publish event))
    (hmark : Resolved answer (.markPublished claim)) :
    (deliver event claim).run answer = ([.publish event, .markPublished claim], .ok ⟨⟩) := by
  obtain ⟨reply, hpublish⟩ := hpublish
  obtain ⟨ok, hmark⟩ := hmark
  have hmarks := Prog.run_ask_ok answer (f := fun _ => (pure ⟨⟩ : Async PUnit)) hmark
  exact (Prog.run_ask_ok answer hpublish).trans
    (congrArg (fun rest => (.publish event :: rest.1, rest.2)) hmarks)

theorem run_deliver_unmarked {claim : Claim} {error : Thrown} (hpublish : Resolved answer (.publish event))
    (hmark : answer (.markPublished claim) = .error error) :
    (deliver event claim).run answer = ([.publish event, .markPublished claim], .error error) := by
  obtain ⟨reply, hpublish⟩ := hpublish
  have hmarks := Prog.run_ask_error answer (f := fun _ => (pure ⟨⟩ : Async PUnit)) hmark
  exact (Prog.run_ask_ok answer hpublish).trans
    (congrArg (fun rest => (.publish event :: rest.1, rest.2)) hmarks)

/-- Delivered and marked: nothing else is sent. -/
theorem attemptCommands_ok (hlease : event.lease = some claimToken)
    (hpublish : Resolved answer (.publish event))
    (hmark : Resolved answer (.markPublished (event.claim claimToken))) :
    attemptCommands name event config answer
      = [.publish event, .markPublished (event.claim claimToken)] := by
  have hrun := run_deliver_ok hpublish hmark
  rw [attemptCommands, process_eq name config hlease,
    Prog.run_tryCatch_ok answer (a := ⟨⟩) (congrArg Prod.snd hrun), hrun]

/-- Delivered and not marked: the `catch` block asks for a verdict on the write's own error. -/
theorem judged_of_unmarked {error : Thrown} (hlease : event.lease = some claimToken)
    (hpublish : Resolved answer (.publish event))
    (hmark : answer (.markPublished (event.claim claimToken)) = .error error) :
    .isPermanentFailure error ∈ attemptCommands name event config answer := by
  have hrun := run_deliver_unmarked hpublish hmark
  rw [attemptCommands, process_eq name config hlease,
    Prog.run_tryCatch_error answer (congrArg Prod.snd hrun), hrun]
  apply List.mem_append_right
  unfold processFailure send Prog.ask
  exact List.mem_cons_self

end Attempt

/-- **A delivered event is no failure exactly when `markPublished` resolves after `publish` did.** -/
theorem failsOnlyUndelivered_iff {name : Str} {event : OutboxEvent} {config : OutboxProcessorConfig}
    {answer : Outcomes} {claimToken : Uuid} (hlease : event.lease = some claimToken) :
    FailsOnlyUndelivered name event config answer ↔
      (Resolved answer (.publish event) →
        Resolved answer (.markPublished (event.claim claimToken))) := by
  constructor
  · intro h hpublish
    cases hmark : answer (.markPublished (event.claim claimToken)) with
    | ok reply => exact ⟨reply, hmark⟩
    | error error =>
        obtain ⟨error', hthrew⟩ := h.judged error (judged_of_unmarked name config hlease hpublish hmark)
        obtain ⟨reply, hresolved⟩ := hpublish
        exact absurd (hresolved.symm.trans hthrew) (by simp)
  · intro hmarks
    by_cases hpublish : Resolved answer (.publish event)
    · have hcommands := attemptCommands_ok name config hlease hpublish (hmarks hpublish)
      refine ⟨?_, ?_, ?_⟩
      · intro dto hmem
        rw [hcommands] at hmem
        exact absurd hmem (by simp)
      · intro error hmem
        rw [hcommands] at hmem
        exact absurd hmem (by simp)
      · intro _ s es row row' hsub hrow hrow'
        -- the attempt sends no `recordFailure`, so none of its statements is one
        have hops : ∀ e ∈ es, ∀ dto, e.op ≠ .recordFailure dto := by
          intro e he dto hop
          have hmem := hsub.subset (List.mem_map_of_mem he)
          rw [hcommands, hop] at hmem
          exact absurd hmem (by simp [statements, Command.statement])
        obtain ⟨row'', hrow'', huncharged⟩ := uncharged_execAll hops hrow
        obtain rfl := Option.some.inj (hrow'.symm.trans hrow'')
        exact huncharged
    · -- nothing was delivered, so whatever is recorded is recorded of a failed send
      have hthrew : Threw answer (.publish event) := by
        cases hanswer : answer (.publish event) with
        | ok reply => exact absurd ⟨reply, hanswer⟩ hpublish
        | error error => exact ⟨error, hanswer⟩
      exact ⟨fun _ _ => hthrew, fun _ _ => hthrew, fun h => absurd h hpublish⟩

/-- An attempt whose send succeeds and whose `markPublished` ends as `marked`: an error would be judged
    transient. -/
def sentOutcomes (marked : Except Thrown Bool) : Outcomes
  | .enter => .ok false
  | .leave => .ok ()
  | .config => .ok sampleConfig
  | .claimDueBatch _ => .ok []
  | .publish _ => .ok ()
  | .markPublished _ => marked
  | .recordFailure _ => .ok true
  | .isPermanentFailure _ => .ok false
  | .now => .ok (0 : Time)
  | .random => .ok (0 : ℚ)
  | .error _ _ => .ok ()
  | .warn _ _ _ _ _ _ => .ok ()

/-- The database was lost while the write was under way. -/
def unmarkedOutcomes : Outcomes := sentOutcomes (.error (.error (str "connection terminated")))

/-- The message went out on the last attempt the budget allows, and the row is a dead letter. -/
theorem unmarked_deadLetter :
    (stamp (str "k") 0 sampleRow).lease = some (str "k") ∧
    Resolved unmarkedOutcomes (.publish (stamp (str "k") 0 sampleRow)) ∧
    (∃ dto, .recordFailure dto ∈ attemptCommands (str "q") (stamp (str "k") 0 sampleRow) sampleConfig
      unmarkedOutcomes ∧ dto.isDeadLetter = true ∧ dto.attemptCount = 1) ∧
    ¬ FailsOnlyUndelivered (str "q") (stamp (str "k") 0 sampleRow) sampleConfig unmarkedOutcomes := by
  have hrecorded : .recordFailure ⟨⟨str "e", str "t", str "k"⟩, 1, none, true, str "connection terminated"⟩ ∈
      attemptCommands (str "q") (stamp (str "k") 0 sampleRow) sampleConfig unmarkedOutcomes := by
    decide +kernel
  refine ⟨by decide, ⟨(), rfl⟩, ⟨_, hrecorded, rfl, rfl⟩, ?_⟩
  intro h
  obtain ⟨error, hthrew⟩ := h.recorded _ hrecorded
  exact absurd hthrew (by simp [unmarkedOutcomes, sentOutcomes])

/-- Sent and recorded. -/
theorem failsOnlyUndelivered_marked :
    FailsOnlyUndelivered (str "q") (stamp (str "k") 0 sampleRow) sampleConfig (sentOutcomes (.ok true)) :=
  (failsOnlyUndelivered_iff (show (stamp (str "k") 0 sampleRow).lease = some (str "k") by decide)).mpr
    (fun _ => ⟨true, rfl⟩)

end Outbox
end NestSdk
