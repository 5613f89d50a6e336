import NestSdk.Outbox.Evidence
import NestSdk.Outbox.Turn

/-!
# `Outbox.Delivery` — what is due is delivered

That no due row starves and that no outcome stands without its attempt, put together: a row whose attempts do not throw
can only have had one that sent it. The processors that were at work before may have stopped anywhere, leases in hand;
from any world they can leave, one of them, or a new one, delivers everything that is due.
-/

namespace NestSdk
namespace Outbox

open Js Lib

theorem Effect.mono {Config Config' : OutboxProcessorConfig → Prop} (hconfig : ∀ read, Config read → Config' read)
    {w w' : World} {caller : Caller} {c : Command} {outcome : Except Thrown (Reply c)}
    (h : Effect Config w caller c outcome w') : Effect Config' w caller c outcome w' := by
  cases h with
  | enter => exact .enter
  | leave => exact .leave
  | config h => exact .config (hconfig _ h)
  | stored locked claimToken hop hfresh hreply => exact .stored locked claimToken hop hfresh hreply
  | lost locked claimToken hop hfresh error => exact .lost locked claimToken hop hfresh error
  | published event => exact .published event
  | judged error permanent => exact .judged error permanent
  | now => exact .now
  | random hnonneg hlt => exact .random hnonneg hlt
  | error message eventId => exact .error message eventId
  | warn message eventId tenantId attemptCount reason permanent =>
      exact .warn message eventId tenantId attemptCount reason permanent
  | thrown hthrow error => exact .thrown hthrow error

/-- **A run goes on with cycles alone.** -/
theorem CyclesAlone.reached {name : Nat → Str} {Config : OutboxProcessorConfig → Prop} {New : OutboxEvent → Prop}
    {config : OutboxProcessorConfig} (hconfig : Config config) {process first k : Nat} {start w w' : World}
    {threads : Caller → Option (Thread Command Reply Thrown Nat)}
    (hrun : Sys.Run (host Config New) (fun caller => runCycle (name caller.process)) ⟨start, fun _ => none⟩ ⟨w, threads⟩)
    (hfree : ∀ call, first ≤ call → threads ⟨process, call⟩ = none)
    (hcycles : CyclesAlone (name process) config process first k w w') : Reached name Config New start w' := by
  obtain ⟨threads', halone⟩ := hcycles.run New hfree
  have hreply : ∀ {s caller c outcome s'}, (host (fun read => read = config) New).reply s caller c outcome s' →
      (host Config New).reply s caller c outcome s' := by
    rintro s caller c outcome s' ⟨mid, heffect, rfl⟩
    refine ⟨mid, heffect.mono ?_, rfl⟩
    rintro read rfl
    exact hconfig
  have hgoes : Sys.Run (host Config New) (fun caller => runCycle (name caller.process)) ⟨w, threads⟩ ⟨w', threads'⟩ :=
    Sys.Run.of_host halone (fun _ _ _ => rfl) hreply (fun henv => henv)
  exact ⟨threads', hrun.trans hgoes⟩

/-- What a delivered row shows: it is `PUBLISHED`, and it was sent by the very attempt that marked it. -/
def Delivered (w : World) (row : OutboxEvent) : Prop :=
  row.status = .published ∧ ∃ caller event token, event.id = row.id ∧ event.tenantId = row.tenantId ∧
    event.claimToken = some token ∧ token ∈ winsOf row.id w.history ∧ Sent w.log caller event

/-- **An attempt that did not throw delivered.** -/
theorem Attempted.delivered {w : World} {row row' : OutboxEvent} (h : Attempted row row') (hevidence : Evidence w row')
    (hfailed : ¬ Failed w.log row'.id) : Delivered w row' := by
  have hcount : row'.attemptCount = 0 := by
    by_contra hne
    exact hfailed (hevidence.failed (.inl (Nat.pos_of_ne_zero hne)))
  have hpublished : row'.status = .published := by
    rcases h.ended with hterminal | hcharged
    · cases hstatus : row'.status with
      | published => rfl
      | deadLetter => exact absurd (hevidence.failed (.inr hstatus)) hfailed
      | pending | processing =>
          rw [hstatus] at hterminal
          cases hterminal
    · omega
  exact ⟨hpublished, hevidence.published hpublished⟩

end Outbox
end NestSdk
