import NestSdk.Outbox.Processor
import NestSdk.Outbox.Shared

/-!
# `Outbox.World` — any number of processors over one table

The system the processor is part of. A `World` is the table with its clock, the clock and the `isRunning` flag
of each process, and a `log` of everything that happened, newest first: statements executed, commands called
and answered. `host` says how the world answers each `Command`, and `Reached` is every world some interleaving
of any number of `runCycle` calls leads to.

What can go wrong is all here: a call may never be continued (a crash), a command may throw, and a statement
may be executed and its answer lost. Clocks differ between processes and only advance.
-/

namespace NestSdk
namespace Outbox

open Js Lib

/-- One thing that happened. -/
inductive Entry
  | stored (r : Record)
  | called (caller : Caller) (c : Command)
  | answered (caller : Caller) (c : Command) (outcome : Except Thrown (Reply c))

/-- The table with its clock, each process's clock and `isRunning`, and what happened so far. -/
structure World where
  store : Store
  clock : Nat → Time
  running : Nat → Bool
  log : List Entry

/-- The statement an entry records, if it records one. -/
def Entry.stored? : Entry → Option Record
  | .stored r => some r
  | _ => none

namespace World

/-- The statements executed so far, newest first. -/
def history (w : World) : List Record := w.log.filterMap Entry.stored?

/-- The world as the table's callers share it. -/
def shared (w : World) : Shared := ⟨w.store, w.history⟩

/-- Adds an entry to the log. -/
def note (w : World) (entry : Entry) : World := { w with log := entry :: w.log }

/-- Executes a statement and records it. -/
def exec (w : World) (e : Event) : World :=
  { w with store := (w.store.exec e).1, log := .stored (w.store.record e) :: w.log }

def setRunning (w : World) (process : Nat) (isRunning : Bool) : World :=
  { w with running := Function.update w.running process isRunning }

/-- The clock of one process advances. -/
def tick (w : World) (process : Nat) (ms : ℚ≥0) : World :=
  { w with clock := Function.update w.clock process (w.clock process + ms) }

theorem history_note (w : World) {entry : Entry} (h : entry.stored? = none) :
    (w.note entry).history = w.history := by
  simp only [history, note, List.filterMap_cons, h]

theorem shared_note (w : World) {entry : Entry} (h : entry.stored? = none) :
    (w.note entry).shared = w.shared := by
  rw [shared, history_note w h]
  rfl

end World

/-! ## How commands are answered -/

/-- The statement a command of the repository executes. Which rows are locked is the database's, the token
    `randomUUID`'s choice. -/
def Command.statement (locked : List Uuid) (claimToken : Uuid) : Command → Option Op
  | .claimDueBatch dto => some (.claimDueBatch dto locked claimToken)
  | .markPublished dto => some (.markPublished dto)
  | .recordFailure dto => some (.recordFailure dto)
  | _ => none

/-- What the repository makes of the statement's answer. -/
def Answer.reply : (c : Command) → Answer → Option (Reply c)
  | .claimDueBatch _, .batch events => some events
  | .markPublished _, .written ok => some ok
  | .recordFailure _, .written ok => some ok
  | _, _ => none

theorem batch_of_reply {dto : ClaimDueBatchDto} {answer : Answer} {batch : List OutboxEvent}
    (h : answer.reply (.claimDueBatch dto) = some batch) : answer = .batch batch := by
  cases answer with
  | batch events => exact congrArg Answer.batch (Option.some.inj h)
  | done | written _ => exact absurd h (by simp [Answer.reply])

/-- The commands that can throw. -/
def Command.canThrow : Command → Bool
  | .enter | .leave | .now | .random => false
  | _ => true

/-- How a pending command of `caller` can end, and the world it leaves. -/
inductive Effect (Config : OutboxProcessorConfig → Prop) (w : World) (caller : Caller) :
    (c : Command) → Except Thrown (Reply c) → World → Prop
  | enter : Effect Config w caller .enter (.ok (w.running caller.process))
      (w.setRunning caller.process true)
  | leave : Effect Config w caller .leave (.ok ()) (w.setRunning caller.process false)
  | config {config : OutboxProcessorConfig} (h : Config config) :
      Effect Config w caller .config (.ok config) w
  | stored {c : Command} {op : Op} (locked : List Uuid) (claimToken : Uuid)
      (hop : c.statement locked claimToken = some op)
      (hfresh : ∀ token, op.claimToken? = some token → token ∉ issuedTokens w.history)
      {reply : Reply c}
      (hreply : (w.store.exec ⟨caller, w.clock caller.process, op⟩).2.reply c = some reply) :
      Effect Config w caller c (.ok reply) (w.exec ⟨caller, w.clock caller.process, op⟩)
  | lost {c : Command} {op : Op} (locked : List Uuid) (claimToken : Uuid)
      (hop : c.statement locked claimToken = some op)
      (hfresh : ∀ token, op.claimToken? = some token → token ∉ issuedTokens w.history)
      (error : Thrown) :
      Effect Config w caller c (.error error) (w.exec ⟨caller, w.clock caller.process, op⟩)
  | published (event : OutboxEvent) : Effect Config w caller (.publish event) (.ok ()) w
  | judged (error : Thrown) (permanent : Bool) :
      Effect Config w caller (.isPermanentFailure error) (.ok permanent) w
  | now : Effect Config w caller .now (.ok (w.clock caller.process)) w
  | random {random : ℚ} (hnonneg : 0 ≤ random) (hlt : random < 1) :
      Effect Config w caller .random (.ok random) w
  | error (message : Str) (eventId : Uuid) : Effect Config w caller (.error message eventId) (.ok ()) w
  | warn (message : Str) (eventId tenantId : Uuid) (attemptCount : Nat) (reason : Str)
      (permanent : Bool) :
      Effect Config w caller (.warn message eventId tenantId attemptCount reason permanent) (.ok ()) w
  | thrown {c : Command} (hthrow : c.canThrow = true) (error : Thrown) :
      Effect Config w caller c (.error error) w

/-- What happens beside the processors: rows are enqueued, soft-deleted and restored, and clocks advance. -/
inductive Env (New : OutboxEvent → Prop) (w : World) : World → Prop
  | statement (e : Event) (hop : e.op.isOutbox = false) (hnew : Enqueues New e.op) : Env New w (w.exec e)
  | tick (process : Nat) (ms : ℚ≥0) : Env New w (w.tick process ms)

/-- The surroundings of every `runCycle` call. -/
def host (Config : OutboxProcessorConfig → Prop) (New : OutboxEvent → Prop) :
    Host Caller World Command Reply Thrown where
  called w caller c := w.note (.called caller c)
  reply w caller c outcome w' :=
    ∃ mid, Effect Config w caller c outcome mid ∧ w' = mid.note (.answered caller c outcome)
  env := Env New

/-- A table of new rows, before anything happened. -/
structure World.Initial (New : OutboxEvent → Prop) (w : World) : Prop where
  log : w.log = []
  rows : ∀ row ∈ w.store.table.rows, New row

/-- **Every world some interleaving reaches:** any number of `runCycle` calls of any number of processors, each
    call continued or not, from the world `start`. The configs read satisfy `Config`, the rows enqueued
    are `New`. -/
def Reached (name : Nat → Str) (Config : OutboxProcessorConfig → Prop) (New : OutboxEvent → Prop)
    (start w : World) : Prop :=
  ∃ threads, Sys.Run (host Config New) (fun caller => runCycle (name caller.process))
    ⟨start, fun _ => none⟩ ⟨w, threads⟩

/-! ## Reading the log -/

/-- The verdict an entry gives `caller` on a failure. -/
def Entry.verdict? (caller : Caller) : Entry → Option Bool
  | .answered i (.isPermanentFailure _) (.ok permanent) => if i = caller then some permanent else none
  | _ => none

/-- The time an entry tells `caller`. -/
def Entry.now? (caller : Caller) : Entry → Option Time
  | .answered i .now (.ok now) => if i = caller then some now else none
  | _ => none

/-- The config an entry hands `caller`. -/
def Entry.config? (caller : Caller) : Entry → Option OutboxProcessorConfig
  | .answered i .config (.ok config) => if i = caller then some config else none
  | _ => none

/-- The event whose publish callback an entry invokes. -/
def Entry.publishes? : Entry → Option OutboxEvent
  | .called _ c => c.publishes?
  | _ => none

/-- The last verdict, time and config `caller` was given. -/
def lastVerdict (caller : Caller) (log : List Entry) : Option Bool :=
  log.findSome? (Entry.verdict? caller)

def lastNow (caller : Caller) (log : List Entry) : Option Time := log.findSome? (Entry.now? caller)

def lastConfig (caller : Caller) (log : List Entry) : Option OutboxProcessorConfig :=
  log.findSome? (Entry.config? caller)

theorem lastVerdict_answered (caller : Caller) (error : Thrown) (permanent : Bool) (log : List Entry) :
    lastVerdict caller (.answered caller (.isPermanentFailure error) (.ok permanent) :: log)
      = some permanent := by
  have hverdict : Entry.verdict? caller (.answered caller (.isPermanentFailure error) (.ok permanent))
      = some permanent := if_pos rfl
  simp only [lastVerdict, List.findSome?_cons, hverdict]

theorem lastNow_answered (caller : Caller) (now : Time) (log : List Entry) :
    lastNow caller (.answered caller .now (.ok now) :: log) = some now := by
  have hnow : Entry.now? caller (.answered caller .now (.ok now)) = some now := if_pos rfl
  simp only [lastNow, List.findSome?_cons, hnow]

theorem lastConfig_answered (caller : Caller) (config : OutboxProcessorConfig) (log : List Entry) :
    lastConfig caller (.answered caller .config (.ok config) :: log) = some config := by
  have hconfig : Entry.config? caller (.answered caller .config (.ok config)) = some config :=
    if_pos rfl
  simp only [lastConfig, List.findSome?_cons, hconfig]

/-- A successful `recordFailure`, with what its caller had been told when it made it: the verdict on the
    error, when the schedule was computed and the config of its cycle. -/
structure Failure where
  dto : RecordFailureDto
  clock : Time
  permanent : Option Bool
  computedAt : Option Time
  config : Option OutboxProcessorConfig

/-- The failure a statement recorded for the row `id`, if it recorded one. -/
def Record.failure? (id : Uuid) (r : Record) : Option RecordFailureDto :=
  match r.event.op, r.answer with
  | .recordFailure dto, .written true => if dto.id = id then some dto else none
  | _, _ => none

/-- The failure an entry records for the row `id`, read against the log before it. -/
def Entry.failure? (id : Uuid) (log : List Entry) : Entry → Option Failure
  | .stored r => (r.failure? id).map fun dto =>
      ⟨dto, r.event.clock, lastVerdict r.event.caller log, lastNow r.event.caller log,
        lastConfig r.event.caller log⟩
  | _ => none

/-- The failures recorded for the row `id`, newest first. -/
def failuresOf (id : Uuid) : List Entry → List Failure
  | [] => []
  | entry :: log => (entry.failure? id log).toList ++ failuresOf id log

/-- How often the publish callback was invoked for the row `id`. -/
def publishCount (id : Uuid) (log : List Entry) : Nat :=
  (log.filterMap Entry.publishes?).countP (fun event => event.id = id)

/-- The statement claimed the row `id` while it was already being processed. -/
def Record.reclaims (id : Uuid) (r : Record) : Bool :=
  (r.claims id).isSome && (r.before.table.get id).any (fun row => row.status = .processing)

/-- How often the row `id` was claimed again after its lease ran out. -/
def reclaimCount (id : Uuid) (history : List Record) : Nat := history.countP (Record.reclaims id)

/-- How often the row `id` was claimed when nobody was processing it. -/
def leaseCount (id : Uuid) (history : List Record) : Nat :=
  history.countP (fun r => (r.claims id).isSome && !r.reclaims id)

/-- A claim of a row finds it being processed, or not. -/
theorem claimsOf_length (id : Uuid) (history : List Record) :
    (claimsOf id history).length = leaseCount id history + reclaimCount id history := by
  induction history with
  | nil => rfl
  | cons r history ih =>
      have hcount : (claimsOf id (r :: history)).length
          = (claimsOf id history).length + if (r.claims id).isSome then 1 else 0 := by
        simp only [claimsOf, List.filterMap_cons]
        cases r.claims id <;> rfl
      have hlease : leaseCount id (r :: history) = leaseCount id history +
          if (r.claims id).isSome && !r.reclaims id then 1 else 0 := List.countP_cons
      have hreclaim : reclaimCount id (r :: history) = reclaimCount id history +
          if r.reclaims id then 1 else 0 := List.countP_cons
      rw [hcount, hlease, hreclaim, ih]
      by_cases hclaims : (r.claims id).isSome = true
      · cases hre : r.reclaims id <;> simp only [hclaims] <;> simp <;> omega
      · have hre : r.reclaims id = false := by simp [Record.reclaims, hclaims]
        simp [hclaims, hre]

/-! ## A cycle up to its first publish -/

section Publish

variable {name : Nat → Str} {Config : OutboxProcessorConfig → Prop} {New : OutboxEvent → Prop}

/-- The claim a cycle under `config` makes. -/
def claimEvent (w : World) (i : Caller) (config : OutboxProcessorConfig) (token : Uuid) : Event :=
  ⟨i, w.clock i.process, .claimDueBatch ⟨config.batchSize, config.claimTimeoutMs⟩ [] token⟩

/-- The world once a cycle has entered, and once it has read its config. -/
def World.entered (w : World) (i : Caller) : World :=
  ((w.note (.called i .enter)).setRunning i.process true).note
    (.answered i .enter (.ok (w.running i.process)))

def World.configured (w : World) (i : Caller) (config : OutboxProcessorConfig) : World :=
  ((w.entered i).note (.called i .config)).note (.answered i .config (.ok config))

/-- The world once it has its batch. -/
def World.claimed (w : World) (i : Caller) (config : OutboxProcessorConfig) (token : Uuid)
    (batch : List OutboxEvent) : World :=
  let dto : ClaimDueBatchDto := ⟨config.batchSize, config.claimTimeoutMs⟩
  (((w.configured i config).note (.called i (.claimDueBatch dto))).exec
    (claimEvent w i config token)).note (.answered i (.claimDueBatch dto) (.ok batch))

/-- What a cycle has left to do with its batch. -/
def rest (name : Str) (config : OutboxProcessorConfig) (batch : List OutboxEvent) : Async Nat :=
  Prog.tryFinally (do
    batch.forM fun event => process name event config
    return batch.length) (send .leave)

/-- A cycle gets as far as its batch. -/
theorem run_to_batch {w : World} {threads : Caller → Option (Thread Command Reply Thrown Nat)}
    (i : Caller) (config : OutboxProcessorConfig) (token : Uuid) (batch : List OutboxEvent)
    (hfree : threads i = none) (hidle : w.running i.process = false) (hconfig : Config config)
    (hfresh : token ∉ issuedTokens w.history)
    (hclaim : (w.store.exec (claimEvent w i config token)).2 = .batch batch) :
    Sys.Run (host Config New) (fun caller => runCycle (name caller.process)) ⟨w, threads⟩
      ⟨w.claimed i config token batch,
        Function.update threads i (some (.ready (rest (name i.process) config batch)))⟩ := by
  have henter : (host Config New).reply (w.note (.called i .enter)) i .enter (.ok (w.running i.process))
      (w.entered i) := ⟨_, .enter, rfl⟩
  have hconfigured : (host Config New).reply ((w.entered i).note (.called i .config)) i .config
      (.ok config) (w.configured i config) := ⟨_, .config hconfig, rfl⟩
  have hclaimed : (host Config New).reply ((w.configured i config).note (.called i
      (.claimDueBatch ⟨config.batchSize, config.claimTimeoutMs⟩))) i
      (.claimDueBatch ⟨config.batchSize, config.claimTimeoutMs⟩) (.ok batch)
      (w.claimed i config token batch) := by
    refine ⟨_, .stored [] token rfl ?_ ?_, rfl⟩
    · rintro token' htoken
      obtain rfl : token = token' := Option.some.inj htoken
      exact hfresh
    · show Answer.reply _ (w.store.exec (claimEvent w i config token)).2 = _
      rw [hclaim]
      rfl
  refine .head (.spawn i hfree) (.trans (Sys.Run.ask i Command.enter _ _ henter) ?_)
  rw [hidle]
  refine .trans (Sys.Run.ask i Command.config _ _ hconfigured) ?_
  exact Sys.Run.ask i (Command.claimDueBatch _) _ _ hclaimed

/-- With one leased event in its batch, it begins by publishing that. -/
theorem rest_of_lease (name : Str) (config : OutboxProcessorConfig) {event : OutboxEvent} {token : Uuid}
    (hlease : event.lease = some token) : ∃ k, rest name config [event] = .call (.publish event) k := by
  obtain ⟨k, hk⟩ := process_of_lease name config hlease
  unfold rest
  rw [List.forM, hk]
  exact ⟨_, rfl⟩

/-- **A cycle that finds one due row gets as far as publishing it,** and may then stop for ever. -/
theorem run_to_publish {w : World} {threads : Caller → Option (Thread Command Reply Thrown Nat)}
    (i : Caller) (config : OutboxProcessorConfig) (token : Uuid) (event : OutboxEvent)
    (hfree : threads i = none) (hidle : w.running i.process = false) (hconfig : Config config)
    (hfresh : token ∉ issuedTokens w.history)
    (hclaim : (w.store.exec (claimEvent w i config token)).2 = .batch [event])
    (hlease : event.lease = some token) :
    ∃ thread, Sys.Run (host Config New) (fun caller => runCycle (name caller.process)) ⟨w, threads⟩
      ⟨(w.claimed i config token [event]).note (.called i (.publish event)),
        Function.update threads i (some thread)⟩ := by
  obtain ⟨k, hk⟩ := rest_of_lease (name i.process) config hlease
  refine ⟨.waiting (.publish event) k, .tail (run_to_batch i config token [event] hfree hidle hconfig hfresh hclaim) ?_⟩
  rw [hk]
  exact .call_self i _ k

end Publish

/-! ## A worked run: a crash, then a second publish -/

def sampleConfig : OutboxProcessorConfig where
  isEnabled := true
  pollIntervalMs := 1000
  batchSize := 10
  claimTimeoutMs := 100
  maxAttempts := 1
  backoffBaseMs := 10
  backoffMaxMs := 1000

/-- The one-row table, with every clock at 0. -/
def sampleWorld : World := ⟨sampleStore, fun _ => 0, fun _ => false, []⟩

/-- Process 0 claims the row, begins to publish it and is never heard of again. -/
def crashedWorld : World :=
  (sampleWorld.claimed ⟨0, 0⟩ sampleConfig (str "c0") [stamp (str "c0") 0 sampleRow]).note
    (.called ⟨0, 0⟩ (.publish (stamp (str "c0") 0 sampleRow)))

/-- The lease runs out. -/
def expiredWorld : World := crashedWorld.exec ⟨⟨2, 0⟩, 0, .elapse (200 : ℕ)⟩

/-- Process 1 claims the row again, and publishes it again. -/
def republishedWorld : World :=
  (expiredWorld.claimed ⟨1, 0⟩ sampleConfig (str "c1") [stamp (str "c1") 0 sampleRow]).note
    (.called ⟨1, 0⟩ (.publish (stamp (str "c1") 0 sampleRow)))

theorem reached_republished (name : Nat → Str) {Config : OutboxProcessorConfig → Prop}
    (New : OutboxEvent → Prop) (hconfig : Config sampleConfig) :
    Reached name Config New sampleWorld republishedWorld := by
  have hfirst : ∃ t, Sys.Run (host Config New) (fun caller => runCycle (name caller.process))
      ⟨sampleWorld, fun _ => none⟩ ⟨crashedWorld, Function.update (fun _ => none) ⟨0, 0⟩ (some t)⟩ :=
    run_to_publish ⟨0, 0⟩ sampleConfig (str "c0") (stamp (str "c0") 0 sampleRow) rfl rfl hconfig
      List.not_mem_nil (by decide +kernel) (by decide)
  obtain ⟨t, hfirst⟩ := hfirst
  have hexpire : Env New crashedWorld expiredWorld := .statement _ rfl trivial
  have hsecond : ∃ t', Sys.Run (host Config New) (fun caller => runCycle (name caller.process))
      ⟨expiredWorld, Function.update (fun _ => none) ⟨0, 0⟩ (some t)⟩
      ⟨republishedWorld,
        Function.update (Function.update (fun _ => none) ⟨0, 0⟩ (some t)) ⟨1, 0⟩ (some t')⟩ :=
    run_to_publish ⟨1, 0⟩ sampleConfig (str "c1") (stamp (str "c1") 0 sampleRow) rfl rfl hconfig
      (by decide +kernel) (by decide +kernel) (by decide)
  obtain ⟨t', hsecond⟩ := hsecond
  exact ⟨_, hfirst.trans (.head (.env hexpire) hsecond)⟩

end Outbox
end NestSdk
