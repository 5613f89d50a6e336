import NestSdk.Outbox.Attempts

/-!
# `Outbox.Evidence` — no outcome without an attempt

What a row's status claims of the outside world. The table only knows that some terminal write won; whether the event
was sent is in the log. `findings` is the protocol a cycle keeps to in that respect: it marks an event published only
after its own `publish` of it resolved, and records a failure only after its `publish` or its `markPublished` threw.

**`outcome_evidence`**: in every reached world a `PUBLISHED` row was sent by the very attempt whose write won, and a
row that was charged an attempt, or is dead, had one that failed.
-/

namespace NestSdk
namespace Outbox

open Js Lib

/-! ## What a cycle finds out -/

/-- The event whose `publish` resolved last, and the row whose attempt threw last. -/
structure Findings where
  delivered : Option OutboxEvent
  undelivered : Option Uuid

def Findings.init : Findings := ⟨none, none⟩

/-- The protocol of outcomes. -/
def findings : Protocol Command Reply Thrown Findings where
  may g
    | .markPublished claim => ∃ event token, g.delivered = some event ∧ event.claimToken = some token ∧
        claim = event.claim token
    | .recordFailure dto => g.undelivered = some dto.id
    | _ => True
  gives _ _ := True
  sent g _ := g
  received g
    | .publish event, .ok _ => { g with delivered := some event }
    | .publish event, .error _ => { g with undelivered := some event.id }
    | .markPublished claim, .error _ => { g with undelivered := some claim.id }
    | _, _ => g

/-- Keeping to it, whatever the program ends with. -/
abbrev Finds {α : Type} : Async α → Findings → Prop := Follows findings fun _ _ => True

theorem finds_send {α : Type} {c : Command} {f : Reply c → Async α} {g : Findings} (hmay : findings.may g c)
    (hok : ∀ r, Finds (f r) (findings.received g c (.ok r))) : Finds (send c >>= f) g :=
  follows_ask_bind hmay (fun r _ => hok r) fun _ => trivial

/-- **The `catch` block settles what it caught.** -/
theorem processFailure_finds (name : Str) {event : OutboxEvent} {claim : Claim} (attemptCount : Nat)
    (config : OutboxProcessorConfig) (error : Thrown) {g : Findings} (h : g.undelivered = some claim.id) :
    Finds (processFailure name event claim attemptCount config error) g := by
  have hrecord : ∀ (isDeadLetter permanent : Bool) (nextAttemptAt : Option Time) (message reason : Str),
      Finds (do
        let _ : Bool ← send (.recordFailure ⟨claim, attemptCount, nextAttemptAt, isDeadLetter, reason⟩)
        if isDeadLetter then send (.warn message event.id event.tenantId attemptCount reason permanent)
        else pure ()) g := by
    intro isDeadLetter permanent nextAttemptAt message reason
    refine finds_send h fun recorded => ?_
    cases isDeadLetter with
    | true => exact follows_ask trivial fun _ _ => trivial
    | false => exact trivial
  unfold processFailure
  refine finds_send trivial fun permanent => ?_
  by_cases hdead : (permanent || decide (attemptCount ≥ config.maxAttempts)) = true
  · simp only [hdead, if_true]
    exact hrecord true permanent none _ _
  · -- the schedule asks for nothing that changes what was found out
    rw [Bool.not_eq_true] at hdead
    simp only [hdead]
    apply Follows.bind
    unfold nextOutboxAttemptAt
    refine follows_ask_bind trivial (fun (now : Time) _ => ?_) fun e => trivial
    refine follows_ask_bind trivial (fun (random : ℚ) _ => ?_) fun e => trivial
    exact hrecord false permanent (some (now + ⌊random *
      (RetryDto.mk attemptCount config.backoffBaseMs config.backoffMaxMs).ceiling⌋)) _ _

theorem process_finds (name : Str) (event : OutboxEvent) (config : OutboxProcessorConfig) (g : Findings) :
    Finds (process name event config) g := by
  unfold process
  cases hlease : event.lease with
  | none => exact follows_ask trivial fun _ _ => trivial
  | some claimToken =>
      have htoken : event.claimToken = some claimToken := (Option.filter_eq_some_iff.mp hlease).1
      refine Follows.tryCatch (follows_ask_bind trivial (fun _ _ => ?_) fun e => ?_)
      · refine follows_ask_bind ⟨event, claimToken, rfl, htoken, rfl⟩ (fun _ _ => trivial) fun e => ?_
        exact processFailure_finds name _ config e rfl
      · exact processFailure_finds name _ config e rfl

/-- **`runCycle` keeps to the protocol.** -/
theorem runCycle_finds (name : Str) : Finds (runCycle name) Findings.init := by
  unfold runCycle
  refine finds_send trivial fun isRunning => ?_
  cases isRunning with
  | true => exact trivial
  | false =>
      refine Follows.tryFinally (Follows.mono (Q := fun _ _ => True) ?_ ?_)
      · intro g outcome _
        refine follows_ask trivial fun r _ => ?_
        cases r with
        | ok _ => trivial
        | error _ => trivial
      · refine finds_send trivial fun config => ?_
        refine finds_send trivial fun batch => ?_
        refine Follows.bind (follows_forM (fun _ _ => True) ?_ ?_ batch trivial)
        · intro event events g _
          refine Follows.mono ?_ (process_finds name event config g)
          intro g' r _
          cases r with
          | ok _ => trivial
          | error _ => trivial
        · intro g _
          exact trivial

/-! ## What the log shows -/

/-- Somebody's `publish` of the event resolved. -/
def Sent (log : List Entry) (caller : Caller) (event : OutboxEvent) : Prop :=
  Entry.answered caller (.publish event) (.ok ()) ∈ log

/-- Somebody's attempt at the row threw: the `publish` of an event of it, or the write that marks it. -/
def Failed (log : List Entry) (id : Uuid) : Prop :=
  ∃ caller error, (∃ event : OutboxEvent, event.id = id ∧
      Entry.answered caller (.publish event) (.error error) ∈ log) ∨
    ∃ claim : Claim, claim.id = id ∧ Entry.answered caller (.markPublished claim) (.error error) ∈ log

/-- What a cycle found out is in the log. -/
structure Found (w : World) (caller : Caller) (g : Findings) : Prop where
  delivered : ∀ event, g.delivered = some event → Sent w.log caller event
  undelivered : ∀ id, g.undelivered = some id → Failed w.log id

/-- **What there must be of a row's past.** -/
structure Evidence (w : World) (row : OutboxEvent) : Prop where
  published : row.status = .published → ∃ caller event token, event.id = row.id ∧ event.tenantId = row.tenantId ∧
    event.claimToken = some token ∧ token ∈ winsOf row.id w.history ∧ Sent w.log caller event
  failed : 0 < row.attemptCount ∨ row.status = .deadLetter → Failed w.log row.id

/-- The log only grows, and so does the history in it. -/
def Grows (w w' : World) : Prop := w.log <:+ w'.log

theorem Grows.wins {w w' : World} (h : Grows w w') {id token : Uuid} (hwin : token ∈ winsOf id w.history) :
    token ∈ winsOf id w'.history :=
  ((h.filterMap Entry.stored?).filterMap (Record.wins id)).mem hwin

theorem grows_note (w : World) (entry : Entry) : Grows w (w.note entry) := List.suffix_cons entry w.log

theorem grows_of_moves {New : OutboxEvent → Prop} {w w' : World} (h : AnyMoves New w w') : Grows w w' := by
  induction h with
  | refl => exact List.suffix_refl _
  | tail _ hmove ih =>
      apply ih.trans
      cases hmove with
      | note entry _ => exact grows_note _ entry
      | setRunning _ _ | tick _ _ => exact List.suffix_refl _
      | exec e _ _ _ => exact List.suffix_cons _ _

theorem Failed.grows {w w' : World} (h : Grows w w') {id : Uuid} (hfailed : Failed w.log id) :
    Failed w'.log id := by
  obtain ⟨caller, error, ⟨event, hid, hmem⟩ | ⟨claim, hid, hmem⟩⟩ := hfailed
  · exact ⟨caller, error, .inl ⟨event, hid, h.mem hmem⟩⟩
  · exact ⟨caller, error, .inr ⟨claim, hid, h.mem hmem⟩⟩

theorem Found.grows {w w' : World} (h : Grows w w') {caller : Caller} {g : Findings} (hfound : Found w caller g) :
    Found w' caller g :=
  ⟨fun event hevent => h.mem (hfound.delivered event hevent), fun id hid => (hfound.undelivered id hid).grows h⟩

theorem Evidence.grows {w w' : World} (h : Grows w w') {row : OutboxEvent} (hrow : Evidence w row) :
    Evidence w' row := by
  refine ⟨fun hstatus => ?_, fun hcharged => (hrow.failed hcharged).grows h⟩
  obtain ⟨caller, event, token, hid, htenant, htoken, hwin, hsent⟩ := hrow.published hstatus
  exact ⟨caller, event, token, hid, htenant, htoken, h.wins hwin, h.mem hsent⟩

/-! ## Every reached world -/

section Reached

variable {Config : OutboxProcessorConfig → Prop} {New : OutboxEvent → Prop}

theorem Reached.finders {name : Nat → Str} {start w : World} (h : Reached name Config New start w) :
    ∃ s : Clients Caller World findings, s.shared = w ∧
      Clients.Run (host Config New) Findings.init (Clients.init findings start) s := by
  obtain ⟨threads, hrun⟩ := h
  have hmain : ∀ caller : Caller, Follows findings (fun _ _ => True)
      (runCycle (name caller.process)) Findings.init := fun caller => runCycle_finds (name caller.process)
  obtain ⟨clients, hclients, -⟩ := Sys.Run.clients hmain (fun _ _ _ _ _ _ => trivial) hrun
  exact ⟨⟨w, clients⟩, rfl, hclients⟩

/-- An answer is in the log of the world it leaves. -/
theorem Found.answered {w : World} {caller : Caller} {g : Findings} (h : Found w caller g) (c : Command)
    (outcome : Except Thrown (Reply c)) :
    Found (w.note (.answered caller c outcome)) caller (findings.received g c outcome) := by
  have hgrown : Found (w.note (.answered caller c outcome)) caller g := h.grows (grows_note w _)
  have hhere : ∀ {entry : Entry}, Entry.answered caller c outcome = entry →
      entry ∈ (w.note (.answered caller c outcome)).log := fun heq => heq ▸ List.mem_cons_self
  cases c with
  | publish event =>
      cases outcome with
      | ok u =>
          refine ⟨fun event' hevent => ?_, hgrown.undelivered⟩
          obtain rfl := Option.some.inj hevent
          exact hhere rfl
      | error error =>
          refine ⟨hgrown.delivered, fun id hid => ?_⟩
          obtain rfl := Option.some.inj hid
          exact ⟨caller, error, .inl ⟨event, rfl, hhere rfl⟩⟩
  | markPublished claim =>
      cases outcome with
      | ok ok => exact hgrown
      | error error =>
          refine ⟨hgrown.delivered, fun id hid => ?_⟩
          obtain rfl := Option.some.inj hid
          exact ⟨caller, error, .inr ⟨claim, rfl, hhere rfl⟩⟩
  | enter | leave | config | claimDueBatch _ | recordFailure _ | isPermanentFailure _ | now | random
  | error _ _ | warn _ _ _ _ _ _ => cases outcome <;> exact hgrown

theorem found_of_run {start : World} {s : Clients Caller World findings}
    (hrun : Clients.Run (host Config New) Findings.init (Clients.init findings start) s) (caller : Caller)
    {x : Client findings} (hx : s.clients caller = some x) : Found s.shared caller x.view := by
  have hnone : ∀ w : World, ∀ i : Caller, Found w i Findings.init := fun w i =>
    ⟨fun _ h => absurd h (by simp [Findings.init]), fun _ h => absurd h (by simp [Findings.init])⟩
  refine Clients.Run.views (I := Found) (fun _ => rfl) ?_ hnone ?_ ?_ hrun caller hx
  · intro w w' i g actor hmove _ hfound
    apply hfound.grows
    cases hmove with
    | called j c => exact grows_note w _
    | reply hreply => exact grows_of_moves (host_reply_moves hreply fun _ _ => trivial)
    | env henv => exact grows_of_moves (env_moves henv)
  · intro w i g c _ hfound
    exact hfound.grows (grows_note w _)
  · rintro w w' i g c outcome _ ⟨mid, heffect, rfl⟩ hfound
    have hmoves : AnyMoves New w mid := heffect.moves fun _ _ => trivial
    have hgrows : Grows w mid := grows_of_moves hmoves
    exact (hfound.grows hgrows).answered c outcome

/-- A row that keeps its status and its count keeps its evidence. -/
theorem Evidence.of_same {w : World} {row row' : OutboxEvent} (h : Evidence w row) (hid : row'.id = row.id)
    (htenant : row'.tenantId = row.tenantId) (hcount : row'.attemptCount = row.attemptCount)
    (hstatus : row'.status = row.status) : Evidence w row' := by
  obtain ⟨hpublished, hfailed⟩ := h
  rw [← hid, ← htenant, ← hstatus] at hpublished
  rw [← hid, ← hcount, ← hstatus] at hfailed
  exact ⟨hpublished, hfailed⟩

/-- **What a statement makes of a row, there is evidence of,** if there was of the row before and the statement comes
    from a cycle that found out what it claims. -/
theorem evidence_exec {w : World} {e : Event} {id : Uuid} (hnew : Enqueues Untried e.op)
    (hmark : ∀ claim, e.op = .markPublished claim → ∃ caller event token, event.claimToken = some token ∧
      claim = event.claim token ∧ Sent w.log caller event)
    (hfail : ∀ dto, e.op = .recordFailure dto → Failed w.log dto.id)
    (hbefore : ∀ row, w.store.table.get id = some row → Evidence w row) :
    ∀ row, (w.exec e).store.table.get id = some row → Evidence (w.exec e) row := by
  intro row hrow
  have hgrows : Grows w (w.exec e) := List.suffix_cons _ _
  have hmove : RowMove w.store e id (some row) := rowMove_of_get hrow
  cases hmove with
  | kept hsame _ _ => exact (hbefore row hsame).grows hgrows
  | enqueued hop _ =>
      rw [hop] at hnew
      obtain ⟨⟨hpending, -⟩, hcount⟩ := hnew
      refine ⟨fun hstatus => ?_, fun hcharged => ?_⟩
      · rw [hpending] at hstatus
        cases hstatus
      · rcases hcharged with hpos | hdead
        · rw [hcount] at hpos
          exact absurd hpos (Nat.lt_irrefl 0)
        · rw [hpending] at hdead
          cases hdead
  | @claimed before dto locked token _ hget _ _ =>
      have hold := (hbefore before hget).grows hgrows
      refine ⟨fun hstatus => ?_, fun hcharged => ?_⟩
      · cases hstatus
      · exact hold.failed (.inl (hcharged.resolve_right fun hdead => by cases hdead))
  | @published before claim hop hget howned hwins =>
      obtain ⟨hid, htenant, -⟩ := ownedBy_iff.mp howned
      obtain ⟨caller, event, token, htoken, rfl, hsent⟩ := hmark claim hop
      refine ⟨fun _ => ?_, fun hcharged => ?_⟩
      · refine ⟨caller, event, token, hid.symm, htenant.symm, htoken, ?_, hgrows.mem hsent⟩
        have hkey : before.id = id := Table.get_key hget
        have hwon : winsOf id (w.exec e).history = token :: winsOf id w.history := by
          show ((w.store.record e) :: w.history).filterMap (Record.wins id) = _
          rw [List.filterMap_cons, hwins]
          rfl
        show token ∈ winsOf before.id _
        rw [hkey, hwon]
        exact List.mem_cons_self
      · exact ((hbefore before hget).grows hgrows).failed
          (.inl (hcharged.resolve_right fun hdead => by cases hdead))
  | @failed before dto hop hget howned _ =>
      have hid : before.id = dto.id := (ownedBy_iff.mp howned).1
      refine ⟨fun hstatus => ?_, fun _ => ?_⟩
      · have hnever : (if dto.isDeadLetter then OutboxEventStatus.deadLetter else .pending) ≠ .published := by
          split <;> exact OutboxEventStatus.noConfusion
        exact absurd hstatus hnever
      · show Failed _ before.id
        rw [hid]
        exact (hfail dto hop).grows hgrows
  | @deletion before _ _ hget _ _ =>
      exact ((hbefore before hget).grows hgrows).of_same rfl rfl rfl rfl

theorem evidence_of_run {start : World} (hstart : start.Initial Untried) {s : Clients Caller World findings}
    (hrun : Clients.Run (host Config Untried) Findings.init (Clients.init findings start) s) (id : Uuid) :
    ∀ row, s.shared.store.table.get id = some row → Evidence s.shared row := by
  induction hrun with
  | refl =>
      intro row hrow
      obtain ⟨⟨hpending, -⟩, hcount⟩ := hstart.rows row (Table.mem_of_get hrow)
      refine ⟨fun hstatus => ?_, fun hcharged => ?_⟩
      · rw [hpending] at hstatus
        cases hstatus
      · rcases hcharged with hpos | hdead
        · rw [hcount] at hpos
          exact absurd hpos (Nat.lt_irrefl 0)
        · rw [hpending] at hdead
          cases hdead
  | @tail mid _ hmid hstep ih =>
      cases hstep with
      | join i _ => exact ih
      | @send w clients i g c _ _ =>
          intro row hrow
          exact (ih row hrow).grows (grows_note w _)
      | @receive w w' clients i g c hmay outcome hpending hreply =>
          obtain ⟨after, heffect, rfl⟩ := hreply
          intro row hrow
          apply Evidence.grows (grows_note after _)
          -- what the cycle found out is still in the log when its statement is executed
          have hfound : Found w i g := found_of_run hmid i hpending
          have hexec : ∀ {op : Op} {locked : List Uuid} {token : Uuid}, c.statement locked token = some op →
              ∀ row, (w.exec ⟨i, w.clock i.process, op⟩).store.table.get id = some row →
                Evidence (w.exec ⟨i, w.clock i.process, op⟩) row := by
            intro op locked token hop
            refine evidence_exec (Enqueues.of_statement hop) ?_ ?_ ih
            · rintro claim rfl
              cases c with
              | markPublished claim' =>
                  obtain rfl : claim' = claim := by simpa [Command.statement] using hop
                  obtain ⟨event, token', hdelivered, htoken, hclaim⟩ := hmay
                  exact ⟨i, event, token', htoken, hclaim, hfound.delivered event hdelivered⟩
              | _ => exact absurd hop (by simp [Command.statement])
            · rintro dto rfl
              cases c with
              | recordFailure dto' =>
                  obtain rfl : dto' = dto := by simpa [Command.statement] using hop
                  exact hfound.undelivered dto'.id hmay
              | _ => exact absurd hop (by simp [Command.statement])
          cases heffect with
          | stored locked token hop _ _ => exact hexec hop row hrow
          | lost locked token hop _ _ => exact hexec hop row hrow
          | enter =>
              have hgrows : Grows w (w.setRunning i.process true) := List.suffix_refl _
              exact Evidence.grows hgrows (ih row hrow)
          | leave =>
              have hgrows : Grows w (w.setRunning i.process false) := List.suffix_refl _
              exact Evidence.grows hgrows (ih row hrow)
          | config _ | published _ | judged _ _ | now | random _ _ | error _ _ | warn _ _ _ _ _ _ | thrown _ _ =>
              exact ih row hrow
      | @env w w' clients henv =>
          cases henv with
          | tick process ms =>
              intro row hrow
              have hgrows : Grows w (w.tick process ms) := List.suffix_refl _
              exact Evidence.grows hgrows (ih row hrow)
          | statement e hop hnew =>
              refine evidence_exec hnew ?_ ?_ ih
              · rintro claim hmark
                rw [hmark] at hop
                exact absurd hop (by simp [Op.isOutbox, Op.terminal?])
              · rintro dto hfail
                rw [hfail] at hop
                exact absurd hop (by simp [Op.isOutbox, Op.terminal?])

end Reached

end Outbox
end NestSdk
