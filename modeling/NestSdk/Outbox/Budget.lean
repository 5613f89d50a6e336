import NestSdk.Lib.Tickets
import NestSdk.Outbox.Attempts

/-!
# `Outbox.Budget` — how often an event is published

The attempt budget counts recorded failures, not publishes: an attempt whose process dies, or whose lease runs
out, ends without a record, and the row is claimed and published again. That is the queue's crash recovery, so
`maxAttempts` alone does not bound the publish callback (`publish_budget_exceeded`).

What does: every claim of a row is a `Ticket` to publish it once (`run_tickets`), and a claim either finds the
row unattended, which the budget bounds, or is such a recovery. Hence `publish_budget`.
-/

namespace NestSdk
namespace Outbox

open Js Lib

/-- The ticket an event is: its row and the claim that handed it out. -/
def OutboxEvent.ticket (event : OutboxEvent) : Uuid × Option Uuid := (event.id, event.claimToken)

/-- The tickets spent by publishing. -/
def publishedTickets (log : List Entry) : List (Uuid × Option Uuid) :=
  (log.filterMap Entry.publishes?).map OutboxEvent.ticket

/-- What cycles hold and have published, as tickets. -/
def ticketsOf (s : Clients Caller World protocol) : Tickets Caller (Uuid × Option Uuid) where
  held i := ((s.clients i).map fun x => x.view.todo.map OutboxEvent.ticket).getD []
  spent := publishedTickets s.shared.log

theorem publishedTickets_note (w : World) {entry : Entry} (h : entry.publishes? = none) :
    publishedTickets (w.note entry).log = publishedTickets w.log := by
  simp only [publishedTickets, World.note, List.filterMap_cons, h]

/-- No answer publishes anything. -/
theorem Effect.publishedTickets {Config : OutboxProcessorConfig → Prop} {w w' : World} {caller : Caller}
    {c : Command} {outcome : Except Thrown (Reply c)} (h : Effect Config w caller c outcome w') :
    publishedTickets w'.log = Outbox.publishedTickets w.log := by
  cases h with
  | _ => rfl

theorem held_of_client {s : Clients Caller World protocol} {i : Caller} {x : Client protocol}
    (hx : s.clients i = some x) : (ticketsOf s).held i = x.view.todo.map OutboxEvent.ticket := by
  simp only [ticketsOf, hx, Option.map_some, Option.getD_some]

/-- One client's new view is one hand of tickets. -/
theorem held_update (w w' : World) (clients : Caller → Option (Client protocol)) (i : Caller)
    (x : Client protocol) :
    (ticketsOf ⟨w', Function.update clients i (some x)⟩).held
      = Function.update (ticketsOf ⟨w, clients⟩).held i (x.view.todo.map OutboxEvent.ticket) := by
  funext j
  by_cases hj : j = i
  · subst hj
    simp [ticketsOf]
  · simp [ticketsOf, Function.update_of_ne hj]

/-- A client whose hand stays the same changes nothing. -/
theorem steps_same {w w' : World} {clients : Caller → Option (Client protocol)} {i : Caller}
    {x : Client protocol} (hspent : publishedTickets w'.log = publishedTickets w.log)
    (hhand : (ticketsOf ⟨w, clients⟩).held i = x.view.todo.map OutboxEvent.ticket) :
    Relation.ReflGen Tickets.Step (ticketsOf ⟨w, clients⟩)
      (ticketsOf ⟨w', Function.update clients i (some x)⟩) := by
  have hsame : ticketsOf ⟨w', Function.update clients i (some x)⟩ = ticketsOf ⟨w, clients⟩ := by
    refine Tickets.ext ?_ hspent
    rw [held_update w, ← hhand, Function.update_eq_self]
  rw [hsame]

/-- A ticket that some claim of its row handed out. -/
def Claimed (history : List Record) (k : Uuid × Option Uuid) : Prop :=
  ∃ token, k.2 = some token ∧ token ∈ claimsOf k.1 history

section Run

variable {New : OutboxEvent → Prop} {Config : OutboxProcessorConfig → Prop}
  (hnew : ∀ row, New row → row.claimToken = none) {start : World} {s s' : Clients Caller World protocol}

include hnew

/-- What cycles hold was claimed. -/
theorem claimed_of_held
    (hrun : Clients.Run (host Config New) View.init (Clients.init protocol start) s) {i : Caller}
    {k : Uuid × Option Uuid} (hk : k ∈ (ticketsOf s).held i) : Claimed s.shared.history k := by
  cases hx : s.clients i with
  | none => simp [ticketsOf, hx] at hk
  | some x =>
      rw [held_of_client hx] at hk
      obtain ⟨event, hevent, rfl⟩ := List.mem_map.mp hk
      exact ((duty_of_run hnew hrun i hx).todo event hevent).claimed

/-- **A batch is issued under tickets nobody has seen:** its token was never used before. -/
theorem issue_tickets {w w' : World}
    {clients : Caller → Option (Client protocol)} {i : Caller} {x : Client protocol}
    (hrun : Clients.Run (host Config New) View.init (Clients.init protocol start) ⟨w, clients⟩)
    (hpublished : ∀ k ∈ publishedTickets w.log, Claimed w.history k)
    (hspent : publishedTickets w'.log = publishedTickets w.log) {token : Uuid}
    (hfresh : token ∉ issuedTokens w.history)
    (hnodup : (x.view.todo.map OutboxEvent.ticket).Nodup)
    (htoken : ∀ event ∈ x.view.todo, event.claimToken = some token) :
    Relation.ReflGen Tickets.Step (ticketsOf ⟨w, clients⟩)
      (ticketsOf ⟨w', Function.update clients i (some x)⟩) := by
  have hnew' : ∀ k ∈ x.view.todo.map OutboxEvent.ticket, ¬ Claimed w.history k := by
    rintro k hk ⟨token', htoken', hclaimed⟩
    obtain ⟨event, hevent, rfl⟩ := List.mem_map.mp hk
    obtain rfl : token = token' := Option.some.inj ((htoken event hevent).symm.trans htoken')
    exact hfresh (claimsOf_issued hclaimed)
  have hstep := Tickets.Step.issue (s := ticketsOf ⟨w, clients⟩) i hnodup
    (fun k hk hspent => hnew' k hk (hpublished k hspent))
    (fun k hk j hheld => hnew' k hk (claimed_of_held hnew hrun hheld))
  have hafter : ticketsOf ⟨w', Function.update clients i (some x)⟩
      = ⟨Function.update (ticketsOf ⟨w, clients⟩).held i (x.view.todo.map OutboxEvent.ticket),
        (ticketsOf ⟨w, clients⟩).spent⟩ := Tickets.ext (held_update w w' clients i x) hspent
  exact hafter ▸ .single hstep

/-- **One step of the cycles is at most one step of their tickets:** a claim issues a batch under a token never
    used before, a publish spends the next one. -/
theorem step_tickets
    (hrun : Clients.Run (host Config New) View.init (Clients.init protocol start) s)
    (hpublished : ∀ k ∈ publishedTickets s.shared.log, Claimed s.shared.history k)
    (hstep : Clients.Step (host Config New) View.init s s') :
    Relation.ReflGen Tickets.Step (ticketsOf s) (ticketsOf s') := by
  cases hstep with
  | @join w clients i hfree => exact steps_same rfl (by simp [ticketsOf, hfree, Client.view, View.init])
  | @send w clients i g c hidle hmay =>
      have hhand : (ticketsOf ⟨w, clients⟩).held i = g.todo.map OutboxEvent.ticket :=
        held_of_client (s := ⟨w, clients⟩) hidle
      cases c with
      | publish event =>
          -- the head of `todo` is spent
          obtain ⟨rest, hrest⟩ := List.head?_eq_some_iff.mp hmay
          have htail : (viewSent g (.publish event)).todo = rest := by
            show g.todo.tail = rest
            rw [hrest, List.tail_cons]
          rw [hrest, List.map_cons] at hhand
          have hspend := Tickets.Step.spend (s := ticketsOf ⟨w, clients⟩) i hhand
          have hafter : ticketsOf ⟨w.note (.called i (.publish event)),
              Function.update clients i (some (.pending g (.publish event) hmay))⟩
              = ⟨Function.update (ticketsOf ⟨w, clients⟩).held i (rest.map OutboxEvent.ticket),
                event.ticket :: (ticketsOf ⟨w, clients⟩).spent⟩ := by
            refine Tickets.ext ?_ rfl
            rw [held_update w, ← htail]
            rfl
          exact hafter ▸ .single hspend
      | _ => exact steps_same (publishedTickets_note w rfl) hhand
  | @receive w w' clients i g c hmay outcome hpending hreply =>
      obtain ⟨mid, heffect, rfl⟩ := hreply
      have hspent : publishedTickets (mid.note (.answered i c outcome)).log = publishedTickets w.log :=
        (publishedTickets_note mid rfl).trans heffect.publishedTickets
      have hhand : (ticketsOf ⟨w, clients⟩).held i
          = (viewSent g c).todo.map OutboxEvent.ticket := held_of_client (s := ⟨w, clients⟩) hpending
      cases c with
      | claimDueBatch dto =>
          cases heffect with
          | @stored _ op locked token hop hfresh reply hans =>
              obtain rfl : .claimDueBatch dto locked token = op := Option.some.inj hop
              have hbatch := batch_of_claim rfl (batch_of_reply hans)
              refine issue_tickets hnew hrun hpublished hspent (hfresh token rfl) ?_ ?_
              · -- tickets of one batch differ because their rows do
                have hids : (((reply : List OutboxEvent).map OutboxEvent.ticket).map Prod.fst).Nodup := by
                  rw [hbatch, List.map_map, List.map_map]
                  exact selectDue_nodup w.store.table dto w.store.now locked
                exact List.Nodup.sublist (List.Sublist.map _ List.filter_sublist) hids.of_map
              · intro event hevent
                obtain ⟨row, -, rfl⟩ := List.mem_map.mp (hbatch ▸ (List.mem_filter.mp hevent).1)
                rfl
          | lost _ _ _ _ _ => exact steps_same hspent hhand
          | thrown _ _ => exact steps_same hspent hhand
      | config | isPermanentFailure _ | now =>
          cases outcome <;> exact steps_same hspent hhand
      | _ => exact steps_same hspent hhand
  | @env w w' clients henv =>
      have hsame : ticketsOf ⟨w', clients⟩ = ticketsOf ⟨w, clients⟩ := by
        cases henv with
        | statement _ _ _ | tick _ _ => rfl
      rw [hsame]

/-- **Every run of the cycles is a run of their tickets,** in which whatever was published was claimed. -/
theorem run_tickets (hstart : start.log = [])
    (hrun : Clients.Run (host Config New) View.init (Clients.init protocol start) s) :
    Tickets.Steps Tickets.init (ticketsOf s) ∧
      ∀ k ∈ publishedTickets s.shared.log, Claimed s.shared.history k := by
  induction hrun with
  | refl =>
      have hnone : publishedTickets start.log = [] := by
        rw [hstart]
        rfl
      have hinit : ticketsOf (Clients.init protocol start) = Tickets.init := Tickets.ext rfl hnone
      refine ⟨hinit ▸ .refl, ?_⟩
      intro k hk
      exact absurd (hnone ▸ hk) List.not_mem_nil
  | @tail mid s' hmid hstep ih =>
      obtain ⟨hsteps, hpublished⟩ := ih
      have hmoves := anyMoves_of_step hstep
      have hkeep : ∀ k, Claimed mid.shared.history k → Claimed s'.shared.history k :=
        fun k ⟨token, htoken, hclaimed⟩ => ⟨token, htoken, claimsOf_moves hmoves hclaimed⟩
      have hgen := step_tickets hnew hmid hpublished hstep
      refine ⟨hsteps.trans hgen.to_reflTransGen, ?_⟩
      intro k hk
      have hwas : k ∈ (ticketsOf mid).spent ∨ ∃ i, k ∈ (ticketsOf mid).held i := by
        rcases (Relation.reflGen_iff _ _ _).mp hgen with hsame | hticket
        · exact .inl (congrArg Tickets.spent hsame ▸ hk)
        · exact hticket.spent_held hk
      rcases hwas with hspent | ⟨i, hheld⟩
      · exact hkeep k (hpublished k hspent)
      · exact hkeep k (claimed_of_held hnew hmid hheld)

end Run

/-- Every publish of a row answers to a claim of it. -/
theorem publishCount_le_claims {name : Nat → Str} {New : OutboxEvent → Prop}
    {Config : OutboxProcessorConfig → Prop} (hnew : ∀ row, New row → row.claimToken = none)
    {start w : World} (hstart : start.log = []) (h : Reached name Config New start w) (id : Uuid) :
    publishCount id w.log ≤ (claimsOf id w.history).length := by
  obtain ⟨s, rfl, hrun⟩ := h.clients
  obtain ⟨hsteps, hclaimed⟩ := run_tickets hnew hstart hrun
  have hcount : publishCount id s.shared.log
      = ((publishedTickets s.shared.log).filter (fun k => k.1 = id)).length := by
    rw [← List.countP_eq_length_filter, publishedTickets, List.countP_map]
    rfl
  have hnodup : ((publishedTickets s.shared.log).filter (fun k => k.1 = id)).Nodup :=
    (Tickets.spent_nodup hsteps).filter _
  have hsub : (publishedTickets s.shared.log).filter (fun k => k.1 = id)
      ⊆ (claimsOf id s.shared.history).map fun token => (id, some token) := by
    rintro ⟨id', token?⟩ hk
    obtain ⟨hmem, hid⟩ := List.mem_filter.mp hk
    obtain rfl : id' = id := of_decide_eq_true hid
    obtain ⟨token, htoken, hclaim⟩ := hclaimed _ hmem
    exact List.mem_map.mpr ⟨token, hclaim, by rw [← htoken]⟩
  have hle := (hnodup.subperm hsub).length_le
  rw [List.length_map] at hle
  omega

/-- A row is claimed afresh at most once for each attempt of its budget. -/
theorem leaseCount_le {maxAttempts : Nat} {l : Ledger} (h : Accounted maxAttempts l) :
    l.leases ≤ maxAttempts := by
  cases hrow : l.row with
  | none => rw [(h.absent hrow).2]; exact Nat.zero_le _
  | some row =>
      have hleases := h.leases row hrow
      have hbound := h.bound
      unfold OutboxEventStatus.attempted at hleases
      by_cases hattempted : row.status = .processing ∨ row.status = .published
      · -- an attempt is under way or succeeded, so the budget was not spent
        have hne : l.failures.length ≠ maxAttempts := by
          intro heq
          have hdead := (h.dead row hrow).mpr (.inr heq)
          rcases hattempted with hs | hs <;> rw [hs] at hdead <;> exact absurd hdead (by decide)
        rw [if_pos hattempted] at hleases
        omega
      · rw [if_neg hattempted] at hleases
        omega

/-! ## The bound -/

/-- **The budget does not bound publishing by itself:** with a budget of one, a row whose first publisher
    stopped is published twice. -/
theorem publish_budget_exceeded :
    ¬ ∀ (start w : World) (id : Uuid), start.Initial Untried →
      Reached (fun _ => str "queue") (HasBudget 1) Untried start w → publishCount id w.log ≤ 1 := by
  intro h
  have hcount : publishCount (str "e") republishedWorld.log = 2 := by decide +kernel
  have hle := h sampleWorld republishedWorld (str "e") sampleWorld_initial
    (reached_republished _ Untried rfl)
  omega

/-- **The budget bounds publishing up to crash recovery.** Whatever the processors do, a row's publish callback
    is invoked at most `maxAttempts` times, and once more for each time the row was claimed again while
    still being processed. -/
theorem publish_budget {name : Nat → Str} {maxAttempts : Nat} (hpos : 1 ≤ maxAttempts)
    {start w : World} (hstart : start.Initial Untried)
    (h : Reached name (HasBudget maxAttempts) Untried start w) (id : Uuid) :
    publishCount id w.log ≤ maxAttempts + reclaimCount id w.history := by
  have hclaims := publishCount_le_claims (fun row hrow => hrow.1.2) hstart.log h id
  have hleases : leaseCount id w.history ≤ maxAttempts :=
    leaseCount_le (accounted_of_reached hpos hstart h id)
  rw [claimsOf_length] at hclaims
  omega

/-- The row of the worked run was published twice, within a budget of one and one reclaim. -/
theorem publish_budget_republished :
    publishCount (str "e") republishedWorld.log ≤ 1 + reclaimCount (str "e") republishedWorld.history :=
  publish_budget (by decide) sampleWorld_initial
    (reached_republished (fun _ => str "queue") Untried rfl) (str "e")

end Outbox
end NestSdk
