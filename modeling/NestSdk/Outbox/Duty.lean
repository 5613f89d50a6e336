import NestSdk.Outbox.Moves
import NestSdk.Outbox.Worker

/-!
# `Outbox.Duty` — what every cycle can rely on

A cycle acts on what it was told earlier: a batch of rows as they were, a config, a verdict, a time. `Duty` says
in what sense that is still good. Its leased events are snapshots (`Leased`): as long as a row carries the token
the event came with, the row's count is the event's, whatever else happens to the table. The rest is still
the last thing the cycle was told.

**`Reached.moves`** is what follows: every reached world is reached by moves whose failures are `Coherent`,
that is, count the row's failures plus one, and follow from the caller's own verdict, config and clock.
-/

namespace NestSdk
namespace Outbox

open Js Lib

/-! ## Leases -/

/-- **The event is a snapshot of its row:** a claim of the row handed it out, and for as long as the row
    carries that claim's token its attempt count is the event's. -/
structure Leased (s : Shared) (event : OutboxEvent) : Prop where
  claimed : ∃ token, event.claimToken = some token ∧ token ∈ claimsOf event.id s.history
  snapshot : ∀ row, s.store.table.get event.id = some row → row.claimToken = event.claimToken →
    row.attemptCount = event.attemptCount

theorem claimsOf_exec (s : Shared) (e : Event) (id : Uuid) :
    claimsOf id (s.exec e).history = ((s.store.record e).claims id).toList ++ claimsOf id s.history := by
  simp only [Shared.exec, claimsOf, List.filterMap_cons]
  cases (s.store.record e).claims id <;> rfl

theorem claimsOf_moves {New : OutboxEvent → Prop} {w w' : World} (h : AnyMoves New w w')
    {id token : Uuid} (hmem : token ∈ claimsOf id w.history) : token ∈ claimsOf id w'.history := by
  induction h with
  | refl => exact hmem
  | @tail mid _ _ hmove ih =>
      cases hmove with
      | note entry hentry =>
          rw [World.history_note mid hentry]
          exact ih
      | setRunning _ _ | tick _ _ => exact ih
      | exec e _ _ _ =>
          show token ∈ claimsOf id (mid.shared.exec e).history
          rw [claimsOf_exec]
          exact List.mem_append_right _ ih

/-- **No statement breaks a lease:** a row that changes its count in doing so loses the token. -/
theorem Leased.exec {s : Shared} {event : OutboxEvent} (h : Leased s event) {e : Event}
    (hnew : ∀ row, e.op = .enqueue row → row.claimToken = none)
    (hfresh : ∀ token, e.op.claimToken? = some token → token ∉ issuedTokens s.history) :
    Leased (s.exec e) event := by
  obtain ⟨token, htoken, hclaimed⟩ := h.claimed
  refine ⟨⟨token, htoken, ?_⟩, ?_⟩
  · rw [claimsOf_exec]
    exact List.mem_append_right _ hclaimed
  · intro row hrow hheld
    rw [htoken] at hheld
    have hm := rowMove_of_get (s := s.store) (e := e) hrow
    cases hm with
    | kept hsame _ _ => exact h.snapshot row hsame (hheld.trans htoken.symm)
    | enqueued hop _ =>
        rw [hnew _ hop] at hheld
        exact absurd hheld (by simp)
    | @claimed row' dto locked token' hop hrow' _ _ =>
        obtain rfl : token' = token := Option.some.inj hheld
        exact absurd (claimsOf_issued hclaimed) (hfresh token' (by rw [hop]; rfl))
    | published _ _ _ _ => exact absurd hheld (by simp [publishedPatch])
    | failed _ _ _ _ => exact absurd hheld (by simp [failurePatch])
    | @deletion row' _ _ hrow' _ _ => exact h.snapshot row' hrow' (hheld.trans htoken.symm)

/-- **A claim leases the events it hands out.** -/
theorem leased_of_claim {s : Shared} {e : Event} {dto : ClaimDueBatchDto} {locked : List Uuid}
    {token : Uuid} (hop : e.op = .claimDueBatch dto locked token) {events : List OutboxEvent}
    (hans : (s.store.exec e).2 = .batch events) {event : OutboxEvent} (hmem : event ∈ events) :
    Leased (s.exec e) event := by
  obtain ⟨row, hrow, rfl⟩ := List.mem_map.mp (batch_of_claim hop hans ▸ hmem)
  refine ⟨⟨token, rfl, ?_⟩, ?_⟩
  · have hid : row.id ∈ (selectDue s.store.table dto s.store.now locked).map OutboxEvent.id :=
      List.mem_map_of_mem hrow
    have hclaims : (s.store.record e).claims (stamp token e.clock row).id = some token :=
      (claims_of_claimDueBatch hop row.id).trans (if_pos hid)
    rw [claimsOf_exec, hclaims]
    exact List.mem_cons_self
  · intro row' hrow' _
    have hget : (s.exec e).store.table.get row.id = some (stamp token e.clock row) := by
      simp only [Shared.exec, Store.exec, hop, get_claimDueBatch,
        Table.get_of_mem (mem_selectDue hrow).1, Option.map_some, if_pos hrow]
    obtain rfl : stamp token e.clock row = row' := Option.some.inj (hget.symm.trans hrow')
    rfl

section Duty

variable {New : OutboxEvent → Prop} {Config : OutboxProcessorConfig → Prop} (hnew : ∀ row, New row → row.claimToken = none)

include hnew in
theorem Leased.moves {w w' : World} {event : OutboxEvent} (h : Leased w.shared event)
    (hmoves : AnyMoves New w w') : Leased w'.shared event := by
  induction hmoves with
  | refl => exact h
  | tail _ hmove ih =>
      cases hmove with
      | note entry hentry => rw [World.shared_note _ hentry]; exact ih
      | setRunning _ _ | tick _ _ => exact ih
      | exec e henqueues hfresh _ =>
          refine Leased.exec ih ?_ hfresh
          intro row hop
          exact hnew row (by rw [hop] at henqueues; exact henqueues)

/-- **What a cycle can rely on.** -/
structure Duty (Config : OutboxProcessorConfig → Prop) (w : World) (caller : Caller) (g : View) :
    Prop where
  todo : ∀ event ∈ g.todo, Leased w.shared event
  config : ∀ config, g.config = some config → Config config ∧ lastConfig caller w.log = some config
  attempt : ∀ a, g.attempt = some a → Leased w.shared a.event
  verdict : ∀ a, g.attempt = some a → ∀ permanent, a.permanent = some permanent →
    lastVerdict caller w.log = some permanent
  computedAt : ∀ a, g.attempt = some a → ∀ now, a.computedAt = some now →
    lastNow caller w.log = some now ∧ now ≤ w.clock caller.process

/-- The log of two worlds tells `caller` the same. -/
structure SameNews (caller : Caller) (w w' : World) : Prop where
  verdict : lastVerdict caller w'.log = lastVerdict caller w.log
  now : lastNow caller w'.log = lastNow caller w.log
  config : lastConfig caller w'.log = lastConfig caller w.log

include hnew in
/-- Moves that tell a cycle nothing new leave it what it relies on. -/
theorem Duty.moves {w w' : World} {caller : Caller} {g : View} (h : Duty Config w caller g)
    (hmoves : AnyMoves New w w') (hnews : SameNews caller w w') : Duty Config w' caller g where
  todo event hevent := (h.todo event hevent).moves hnew hmoves
  config config hconfig := by
    rw [hnews.config]
    exact h.config config hconfig
  attempt a ha := (h.attempt a ha).moves hnew hmoves
  verdict a ha permanent hp := by
    rw [hnews.verdict]
    exact h.verdict a ha permanent hp
  computedAt a ha now hnow := by
    rw [hnews.now]
    obtain ⟨hlast, hle⟩ := h.computedAt a ha now hnow
    exact ⟨hlast, hle.trans (hmoves.clock caller.process)⟩

/-- A statement tells nobody anything by itself. -/
theorem Effect.sameNews {w w' : World} {i caller : Caller} {c : Command}
    {outcome : Except Thrown (Reply c)} (h : Effect Config w i c outcome w') :
    SameNews caller w w' := by
  cases h with
  | _ => exact ⟨rfl, rfl, rfl⟩

/-- `Math.random` is the only answer the protocol assumes anything of. -/
theorem Effect.canGive {w w' : World} {caller : Caller} {c : Command}
    {outcome : Except Thrown (Reply c)} (h : Effect Config w caller c outcome w') :
    Outbox.canGive c outcome := by
  cases h with
  | random hnonneg hlt => exact ⟨hnonneg, hlt⟩
  | @stored c _ _ _ hop _ _ _ => cases c <;> trivial
  | enter | leave | config _ | published _ | judged _ _ | now | error _ _ | warn _ _ _ _ _ _ => trivial
  | lost _ _ _ _ _ => cases c <;> trivial
  | thrown _ _ => cases c <;> trivial

/-- What an answer is good for. -/
def Honest (Config : OutboxProcessorConfig → Prop) (w : World) (caller : Caller) :
    (c : Command) → Except Thrown (Reply c) → Prop
  | .config, .ok config => Config config
  | .claimDueBatch _, .ok (batch : List OutboxEvent) => ∀ event ∈ batch, Leased w.shared event
  | .now, .ok (now : Time) => now ≤ w.clock caller.process
  | _, _ => True

theorem Effect.honest {w w' : World} {caller : Caller} {c : Command}
    {outcome : Except Thrown (Reply c)} (h : Effect Config w caller c outcome w') :
    Honest Config w' caller c outcome := by
  cases h with
  | config hconfig => exact hconfig
  | now => exact le_refl _
  | @stored _ op locked token hop hfresh reply hreply =>
      cases c with
      | claimDueBatch dto =>
          obtain rfl : .claimDueBatch dto locked token = op := Option.some.inj hop
          intro event hevent
          exact leased_of_claim (s := w.shared) rfl (batch_of_reply hreply) hevent
      | markPublished _ | recordFailure _ => trivial
      | _ => exact absurd hop (by simp [Command.statement])
  | enter | leave | published _ | judged _ _ | random _ _ | error _ _ | warn _ _ _ _ _ _ => trivial
  | lost _ _ _ _ _ => cases c <;> trivial
  | thrown _ _ => cases c <;> trivial

/-- An entry that gives `caller` no verdict, time or config is no news. -/
theorem sameNews_note {w : World} {caller : Caller} {entry : Entry}
    (hverdict : entry.verdict? caller = none) (hnow : entry.now? caller = none)
    (hconfig : entry.config? caller = none) : SameNews caller w (w.note entry) where
  verdict := by simp only [World.note, lastVerdict, List.findSome?_cons, hverdict]
  now := by simp only [World.note, lastNow, List.findSome?_cons, hnow]
  config := by simp only [World.note, lastConfig, List.findSome?_cons, hconfig]

/-- What somebody else is told is no news. -/
theorem sameNews_answered {w : World} {i caller : Caller} (hi : i ≠ caller) {c : Command}
    {outcome : Except Thrown (Reply c)} : SameNews caller w (w.note (.answered i c outcome)) := by
  refine sameNews_note ?_ ?_ ?_ <;> cases c <;> cases outcome <;>
    simp [Entry.verdict?, Entry.now?, Entry.config?, hi]

include hnew in
/-- **An answer leaves a cycle with what its new view relies on,** one case per command that tells it
    something. -/
theorem Duty.answered {w : World} {caller : Caller} {g : View} {c : Command}
    {outcome : Except Thrown (Reply c)} (h : Duty Config w caller (viewSent g c))
    (honest : Honest Config w caller c outcome) :
    Duty Config (w.note (.answered caller c outcome)) caller (viewReceived g c outcome) := by
  have hnote : AnyMoves New w (w.note (.answered caller c outcome)) :=
    .single (.note _ rfl)
  have hsame : ∀ {g' : View}, Duty Config w caller g' →
      (Entry.answered caller c outcome).verdict? caller = none →
      (Entry.answered caller c outcome).now? caller = none →
      (Entry.answered caller c outcome).config? caller = none →
      Duty Config (w.note (.answered caller c outcome)) caller g' :=
    fun hduty hv hn hc => hduty.moves hnew hnote (sameNews_note hv hn hc)
  cases c with
  | enter | leave | markPublished _ | recordFailure _ | random | error _ _ | warn _ _ _ _ _ _ =>
      cases outcome <;> exact hsame h rfl rfl rfl
  | publish event => cases outcome <;> exact hsame h rfl rfl rfl
  | config =>
      cases outcome with
      | error e => exact hsame h rfl rfl rfl
      | ok config => exact {
          todo := fun event hevent => (h.todo event hevent).moves hnew hnote
          config := by
            rintro config' hconfig
            obtain rfl : config = config' := Option.some.inj hconfig
            exact ⟨honest, lastConfig_answered caller config w.log⟩
          attempt := fun a ha => (h.attempt a ha).moves hnew hnote
          verdict := h.verdict
          computedAt := h.computedAt }
  | claimDueBatch dto =>
      cases outcome with
      | error e => exact hsame h rfl rfl rfl
      | ok batch => exact {
          todo := fun event hevent =>
            (honest event (List.mem_filter.mp hevent).1).moves hnew hnote
          config := h.config
          attempt := fun a ha => (h.attempt a ha).moves hnew hnote
          verdict := h.verdict
          computedAt := h.computedAt }
  | isPermanentFailure error =>
      cases outcome with
      | error e => exact hsame h rfl rfl rfl
      | ok permanent => exact {
          todo := fun event hevent => (h.todo event hevent).moves hnew hnote
          config := h.config
          attempt := by
            intro a' ha'
            obtain ⟨a, ha, rfl⟩ := Option.map_eq_some_iff.mp ha'
            exact (h.attempt a ha).moves hnew hnote
          verdict := by
            intro a' ha' permanent' hp
            obtain ⟨a, ha, rfl⟩ := Option.map_eq_some_iff.mp ha'
            obtain rfl : permanent = permanent' := Option.some.inj hp
            exact lastVerdict_answered caller error permanent w.log
          computedAt := by
            intro a' ha' now hnow
            obtain ⟨a, ha, rfl⟩ := Option.map_eq_some_iff.mp ha'
            exact h.computedAt a ha now hnow }
  | now =>
      cases outcome with
      | error e => exact hsame h rfl rfl rfl
      | ok now => exact {
          todo := fun event hevent => (h.todo event hevent).moves hnew hnote
          config := h.config
          attempt := by
            intro a' ha'
            obtain ⟨a, ha, rfl⟩ := Option.map_eq_some_iff.mp ha'
            exact (h.attempt a ha).moves hnew hnote
          verdict := by
            intro a' ha' permanent hp
            obtain ⟨a, ha, rfl⟩ := Option.map_eq_some_iff.mp ha'
            exact h.verdict a ha permanent hp
          computedAt := by
            intro a' ha' now' hnow
            obtain ⟨a, ha, rfl⟩ := Option.map_eq_some_iff.mp ha'
            obtain rfl : now = now' := Option.some.inj hnow
            exact ⟨lastNow_answered caller now w.log, honest⟩ }

include hnew in
/-- A command made leaves its cycle with what the view it moves to relies on. -/
theorem Duty.called {w : World} {caller : Caller} {g : View} {c : Command} (hmay : mayAsk g c)
    (h : Duty Config w caller g) :
    Duty Config (w.note (.called caller c)) caller (viewSent g c) := by
  have hduty : Duty Config (w.note (.called caller c)) caller g :=
    h.moves hnew (.single (.note _ rfl)) (sameNews_note rfl rfl rfl)
  cases c with
  | publish event =>
      -- the event leaves `todo`, and nothing is known of its attempt yet
      have hmem : event ∈ g.todo := List.mem_of_head? hmay
      exact {
        todo := fun event' h' => hduty.todo event' (List.mem_of_mem_tail h')
        config := hduty.config
        attempt := by
          intro a ha
          obtain rfl := Option.some.inj ha
          exact hduty.todo event hmem
        verdict := by
          intro a ha permanent hp
          obtain rfl := Option.some.inj ha
          exact absurd hp (by simp)
        computedAt := by
          intro a ha now hnow
          obtain rfl := Option.some.inj ha
          exact absurd hnow (by simp) }
  | _ => exact hduty

include hnew in
/-- **Every cycle has what it relies on, in every world.** -/
theorem duty_of_run {start : World} {s : Clients Caller World protocol}
    (hrun : Clients.Run (host Config New) View.init (Clients.init protocol start) s) (caller : Caller)
    {x : Client protocol} (hx : s.clients caller = some x) :
    Duty Config s.shared caller x.view := by
  refine Clients.Run.views (I := Duty Config) (fun _ => rfl) ?_ ?_ ?_ ?_ hrun caller hx
  · intro w w' i g actor hmove hactor hduty
    cases hmove with
    | called j c =>
        exact hduty.moves hnew (.single (.note _ rfl))
          (sameNews_note rfl rfl rfl)
    | @reply _ _ j c outcome hreply =>
        obtain ⟨mid, heffect, rfl⟩ := hreply
        have hmid := hduty.moves hnew (heffect.moves fun _ _ => trivial) heffect.sameNews
        exact hmid.moves hnew (.single (.note _ rfl))
          (sameNews_answered (fun h => hactor (congrArg some h)))
    | env henv =>
        apply hduty.moves hnew (env_moves henv)
        cases henv with
        | statement _ _ _ | tick _ _ => exact ⟨rfl, rfl, rfl⟩
  · intro w i
    exact ⟨fun _ h => absurd h List.not_mem_nil, fun _ h => absurd h (by simp [View.init]),
      fun _ h => absurd h (by simp [View.init]), fun _ h => absurd h (by simp [View.init]),
      fun _ h => absurd h (by simp [View.init])⟩
  · intro w i g c hmay hduty
    exact hduty.called hnew hmay
  · intro w w' i g c outcome hmay hreply hduty
    obtain ⟨mid, heffect, rfl⟩ := hreply
    have hmid := hduty.moves hnew (heffect.moves fun _ _ => trivial) heffect.sameNews
    exact hmid.answered hnew heffect.honest

end Duty

/-! ## Coherent failures -/

/-- **A failure that follows from its row and from what its caller was told:** it counts one more than the
    row it settles, is a dead letter when judged permanent or out of budget, and is otherwise scheduled from
    the time its caller last read. -/
structure Coherent (Config : OutboxProcessorConfig → Prop) (w : World) (e : Event)
    (dto : RecordFailureDto) : Prop where
  attemptCount : ∀ row, w.store.table.get dto.id = some row → ownedBy dto.toClaim row = true →
    dto.attemptCount = row.attemptCount + 1
  verdict : ∃ permanent config, lastVerdict e.caller w.log = some permanent ∧
    lastConfig e.caller w.log = some config ∧ Config config ∧
    dto.isDeadLetter = (permanent || decide (dto.attemptCount ≥ config.maxAttempts)) ∧
    (dto.isDeadLetter = false → ∃ computedAt retryAt, lastNow e.caller w.log = some computedAt ∧
      computedAt ≤ e.clock ∧ dto.nextAttemptAt = some retryAt ∧ Scheduled config computedAt retryAt)

section Coherent

variable {New : OutboxEvent → Prop} {Config : OutboxProcessorConfig → Prop}

/-- **The failure a cycle records is coherent.** -/
theorem Duty.coherent {w : World} {caller : Caller} {g : View} {dto : RecordFailureDto}
    (h : Duty Config w caller g) (hmay : mayAsk g (.recordFailure dto)) :
    Coherent Config w ⟨caller, w.clock caller.process, .recordFailure dto⟩ dto := by
  obtain ⟨a, config, hattempt, hconfig, hrecords⟩ := hmay
  obtain ⟨claimToken, htoken, hclaim⟩ := hrecords.claim
  obtain ⟨permanent, hpermanent, hdead⟩ := hrecords.deadLetter
  obtain ⟨hok, hlast⟩ := h.config config hconfig
  have hid : dto.id = a.event.id := congrArg Claim.id hclaim
  refine ⟨?_, permanent, config, h.verdict a hattempt permanent hpermanent, hlast, hok, hdead, ?_⟩
  · intro row hrow howned
    have htoken' : row.claimToken = a.event.claimToken := by
      rw [(ownedBy_iff.mp howned).2.2, htoken, hclaim]
      rfl
    rw [hrecords.attemptCount, (h.attempt a hattempt).snapshot row (hid ▸ hrow) htoken']
  · intro halive
    obtain ⟨computedAt, retryAt, hcomputed, hretry, hscheduled⟩ := hrecords.retry halive
    obtain ⟨hnow, hle⟩ := h.computedAt a hattempt computedAt hcomputed
    exact ⟨computedAt, retryAt, hnow, hle, hretry, hscheduled⟩

/-- One step of the clients is a few moves of the world. -/
theorem anyMoves_of_step {s s' : Clients Caller World protocol}
    (h : Clients.Step (host Config New) View.init s s') : AnyMoves New s.shared s'.shared := by
  cases h with
  | join i _ => exact .refl
  | @send _ _ i g c _ _ => exact .single (.note (.called i c) rfl)
  | receive i _ hreply => exact host_reply_moves hreply (fun _ _ => trivial)
  | env henv => exact env_moves henv

/-- Every run of the clients is, on the world, a run of coherent moves. -/
theorem moves_of_run (hnew : ∀ row, New row → row.claimToken = none) {start : World}
    {s : Clients Caller World protocol}
    (hrun : Clients.Run (host Config New) View.init (Clients.init protocol start) s) :
    Moves New (Coherent Config) start s.shared := by
  induction hrun with
  | refl => exact .refl
  | @tail mid _ hmid hstep ih =>
      cases hstep with
      | join i _ => exact ih
      | @send _ _ i g c _ _ => exact ih.tail (.note (.called i c) rfl)
      | @receive _ _ _ i g c hmay outcome hpending hreply =>
          refine ih.trans (host_reply_moves hreply ?_)
          rintro dto rfl
          exact (duty_of_run hnew hmid i hpending).coherent hmay
      | env henv => exact ih.trans (env_moves henv)

/-- Every reached world is the world of some run of clients. -/
theorem Reached.clients {name : Nat → Str} {start w : World} (h : Reached name Config New start w) :
    ∃ s : Clients Caller World protocol, s.shared = w ∧
      Clients.Run (host Config New) View.init (Clients.init protocol start) s := by
  obtain ⟨threads, hrun⟩ := h
  have hmain : ∀ caller : Caller, Follows protocol (fun _ _ => True)
      (runCycle (name caller.process)) View.init :=
    fun caller => runCycle_follows (name caller.process)
  have hgives : ∀ (w : World) caller c outcome w', (host Config New).reply w caller c outcome w' →
      protocol.gives c outcome := by
    rintro w caller c outcome w' ⟨mid, heffect, -⟩
    exact heffect.canGive
  obtain ⟨clients, hclients, -⟩ := Sys.Run.clients hmain hgives hrun
  exact ⟨_, rfl, hclients⟩

/-- **Every reached world is reached by coherent moves.** -/
theorem Reached.moves (hnew : ∀ row, New row → row.claimToken = none) {name : Nat → Str}
    {start w : World} (h : Reached name Config New start w) : Moves New (Coherent Config) start w := by
  obtain ⟨s, rfl, hrun⟩ := h.clients
  exact moves_of_run hnew hrun

end Coherent

end Outbox
end NestSdk
