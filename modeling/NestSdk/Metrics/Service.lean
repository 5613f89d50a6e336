import NestSdk.Js.Caught
import NestSdk.Lib.Gauge

/-!
# `Metrics.Service` — `MetricsService.render`, by any number of scrapers

One `render` starts every registered collector and every source at once, awaits them all and then renders the
registry, which every other `render` writes to as well. Each function is modelled by the code it runs between two
awaits, a `Segment`, which may throw; a `render` whose collectors or sources throw is rejected. `Step` is any interleaving of any number of `render` calls, of the `collect` and `refresh` calls they
start, and of the writes the sources make.

Of the registry only the queue-depth gauge and the sources' own gauges are modelled. How a source writes its
gauges is the client library's: `write` says what one write does to them.
-/

namespace NestSdk
namespace Metrics

open Js Lib

/-- The states a row can sit in while it is still work. -/
inductive QueueState
  | pending
  | inFlight
  | deadLettered
deriving DecidableEq, Repr

structure QueueDepthReading where
  state : QueueState
  depth : ℚ
deriving DecidableEq, Repr

/-- What was registered: the queues that have a collector, and the sources by name. -/
structure Registered where
  collectors : List Str
  distinct : collectors.Nodup
  sources : List Str

/-- A line of the log. -/
structure Warning where
  message : Str
  subject : Str
  error : Str
deriving DecidableEq, Repr

/-- What a scrape reports. -/
structure Exposition (L : Type) where
  queueDepth : Gauge (Str × QueueState)
  sources : Nat → Gauge L

/-- The service: the registry, with the sources' gauges by the order of registration, and the log. -/
structure MetricsService (L : Type) where
  queueDepth : Gauge (Str × QueueState)
  sources : Nat → Gauge L
  warnings : List Warning

/-- How a `collect()` and a `refresh()` end. -/
abbrev Collected := Except Caught (List QueueDepthReading)
abbrev Refreshed := Except Caught Unit

/-- Code between two awaits. If it throws, what it has done to the service stays. -/
abbrev Segment (L α : Type) : Type := ExceptT Caught (StateM (MetricsService L)) α

namespace MetricsService

variable {L : Type}

def warn (warning : Warning) : Segment L Unit := modify fun m => { m with warnings := warning :: m.warnings }

/-- `refreshQueueDepth` up to its `await`, less the collectors it starts. -/
def refreshQueueDepth (m : MetricsService L) : MetricsService L := { m with queueDepth := Gauge.empty }

/-- The depths are set one after another. -/
def setDepths (queue : Str) (readings : List QueueDepthReading) : Segment L Unit :=
  modify fun m =>
    { m with queueDepth := m.queueDepth.setAll (fun r => (queue, r.state)) QueueDepthReading.depth readings }

/-- `refreshOne` from its `await` on. -/
def refreshOne (queue : Str) (collected : Collected) : Segment L Unit := do
  try
    let readings ← MonadExcept.ofExcept collected
    setDepths queue readings
  catch error =>
    warn
      { message := str "Queue depth collection failed — the gauge reports no value for this queue"
        subject := queue
        error := error.messageOr (str "unknown failure") }

/-- The callback of `refreshSources` from its `await` on. -/
def refreshSource (name : Str) (refreshed : Refreshed) : Segment L Unit := do
  try
    MonadExcept.ofExcept refreshed
  catch error =>
    warn
      { message := str "Metric source refresh failed — its series are absent from this scrape"
        subject := name
        error := error.messageOr (str "unknown failure") }

/-- `registry.metrics()`. -/
def metrics (m : MetricsService L) : Exposition L := ⟨m.queueDepth, m.sources⟩

/-- The service once a segment has run. -/
def after (segment : Segment L Unit) (m : MetricsService L) : MetricsService L := (segment.run.run m).2

/-- How a segment ends, and with it the promise that awaits it. -/
def ends (segment : Segment L Unit) (m : MetricsService L) : Except Caught Unit := (segment.run.run m).1

/-- **No collector fails a `render`:** whatever it throws is caught. -/
theorem refreshOne_ends (queue : Str) (collected : Collected) (m : MetricsService L) :
    ends (refreshOne queue collected) m = .ok () := by
  cases collected with
  | ok readings => rfl
  | error error => rfl

/-- Nor does a source. -/
theorem refreshSource_ends (name : Str) (refreshed : Refreshed) (m : MetricsService L) :
    ends (refreshSource name refreshed) m = .ok () := by
  cases refreshed with
  | ok u => rfl
  | error error => rfl

end MetricsService

/-! ## Overlapping scrapes -/

/-- A `render` in progress: what its collectors and sources have come back with so far, and what its `Promise.all` was
    rejected with, if it was. -/
structure Scrape where
  collected : Str → Option Collected
  refreshed : Nat → Option Refreshed
  rejected : Option Caught

/-- A `render` that has just started its collectors and sources. -/
def Scrape.init : Scrape := ⟨fun _ => none, fun _ => none, none⟩

/-- One of the promises a `render` awaits settles: the first to be rejected rejects the `render`. -/
def Scrape.settle (s : Scrape) : Except Caught Unit → Scrape
  | .ok () => s
  | .error error => { s with rejected := s.rejected.or (some error) }

/-- Everything the `render` awaits has settled. -/
structure Scrape.Settled (reg : Registered) (s : Scrape) : Prop where
  collected : ∀ queue ∈ reg.collectors, s.collected queue ≠ none
  refreshed : ∀ i < reg.sources.length, s.refreshed i ≠ none

/-- A `render` that returned, the text it returned, and everything the sources had written by then. -/
structure Rendered (L W : Type) where
  scrape : Scrape
  text : Exposition L
  written : Nat → List W

/-- The service with the renders in progress, everything the sources have written, oldest first, and what the
    finished renders returned, newest first. -/
structure Scrapes (L W : Type) where
  service : MetricsService L
  inProgress : Nat → Option Scrape
  written : Nat → List W
  rendered : List (Rendered L W)

/-- The service before the first scrape. A source's gauges may have series from the start. -/
def Scrapes.init {L W : Type} (sources : Nat → Gauge L) : Scrapes L W :=
  ⟨⟨Gauge.empty, sources, []⟩, fun _ => none, fun _ => [], []⟩

section Steps

variable {L W : Type}

namespace Scrapes

/-- A `render` begins. -/
def start (p : Scrapes L W) (render : Nat) : Scrapes L W :=
  { p with
    service := p.service.refreshQueueDepth
    inProgress := Function.update p.inProgress render (some .init) }

/-- A `collect()` of a `render` comes back. -/
def collect (p : Scrapes L W) (render : Nat) (s : Scrape) (queue : Str) (collected : Collected) :
    Scrapes L W :=
  { p with
    service := MetricsService.after (MetricsService.refreshOne queue collected) p.service
    inProgress := Function.update p.inProgress render
      (some (Scrape.settle { s with collected := Function.update s.collected queue (some collected) }
        (MetricsService.ends (MetricsService.refreshOne queue collected) p.service))) }

/-- The source `i` writes its own gauges. -/
def writeSource (write : W → Gauge L → Gauge L) (p : Scrapes L W) (i : Nat) (w : W) : Scrapes L W :=
  { p with
    service := { p.service with
      sources := Function.update p.service.sources i (write w (p.service.sources i)) }
    written := Function.update p.written i (p.written i ++ [w]) }

/-- A `refresh()` of a `render` comes back. -/
def refresh (p : Scrapes L W) (render : Nat) (s : Scrape) (i : Nat) (name : Str) (refreshed : Refreshed) :
    Scrapes L W :=
  { p with
    service := MetricsService.after (MetricsService.refreshSource name refreshed) p.service
    inProgress := Function.update p.inProgress render
      (some (Scrape.settle { s with refreshed := Function.update s.refreshed i (some refreshed) }
        (MetricsService.ends (MetricsService.refreshSource name refreshed) p.service))) }

/-- A `render` returns, unless it was rejected. -/
def finish (p : Scrapes L W) (render : Nat) (s : Scrape) : Scrapes L W :=
  { p with
    inProgress := Function.update p.inProgress render none
    rendered := match s.rejected with
      | none => ⟨s, p.service.metrics, p.written⟩ :: p.rendered
      | some _ => p.rendered }

/-- What it returned is all it added. -/
theorem mem_finish {p : Scrapes L W} {render : Nat} {s : Scrape} {r : Rendered L W}
    (h : r ∈ (p.finish render s).rendered) : r = ⟨s, p.service.metrics, p.written⟩ ∨ r ∈ p.rendered := by
  unfold finish at h
  cases hrejected : s.rejected with
  | none =>
      rw [hrejected] at h
      exact List.mem_cons.mp h
  | some error =>
      rw [hrejected] at h
      exact .inr h

/-- What a collector does, as no exception leaves `refreshOne`. -/
theorem collect_eq (p : Scrapes L W) (render : Nat) (s : Scrape) (queue : Str) (collected : Collected) :
    p.collect render s queue collected =
      { p with
        service := MetricsService.after (MetricsService.refreshOne queue collected) p.service
        inProgress := Function.update p.inProgress render
          (some { s with collected := Function.update s.collected queue (some collected) }) } := by
  unfold collect
  rw [MetricsService.refreshOne_ends]
  rfl

/-- What a source does, as no exception leaves the callback. -/
theorem refresh_eq (p : Scrapes L W) (render : Nat) (s : Scrape) (i : Nat) (name : Str) (refreshed : Refreshed) :
    p.refresh render s i name refreshed =
      { p with
        service := MetricsService.after (MetricsService.refreshSource name refreshed) p.service
        inProgress := Function.update p.inProgress render
          (some { s with refreshed := Function.update s.refreshed i (some refreshed) }) } := by
  unfold refresh
  rw [MetricsService.refreshSource_ends]
  rfl

theorem collect_inProgress (p : Scrapes L W) (render : Nat) (s : Scrape) (queue : Str) (collected : Collected) :
    (p.collect render s queue collected).inProgress render
      = some { s with collected := Function.update s.collected queue (some collected) } := by
  rw [collect_eq]
  exact Function.update_self ..

theorem refresh_inProgress (p : Scrapes L W) (render : Nat) (s : Scrape) (i : Nat) (name : Str)
    (refreshed : Refreshed) :
    (p.refresh render s i name refreshed).inProgress render
      = some { s with refreshed := Function.update s.refreshed i (some refreshed) } := by
  rw [refresh_eq]
  exact Function.update_self ..

end Scrapes

/-- One step of any interleaving. `Begins` says when a `render` may begin; a source may write at any time. -/
inductive Step (reg : Registered) (write : W → Gauge L → Gauge L) (Begins : Scrapes L W → Prop) :
    Scrapes L W → Scrapes L W → Prop
  | began {p : Scrapes L W} (render : Nat) (hfree : p.inProgress render = none) (hbegins : Begins p) :
      Step reg write Begins p (p.start render)
  | collected {p : Scrapes L W} {render : Nat} {s : Scrape} (hrender : p.inProgress render = some s)
      {queue : Str} (hqueue : queue ∈ reg.collectors) (hpending : s.collected queue = none)
      (collected : Collected) : Step reg write Begins p (p.collect render s queue collected)
  | wrote {p : Scrapes L W} {i : Nat} (hsource : i < reg.sources.length) (w : W) :
      Step reg write Begins p (p.writeSource write i w)
  | refreshed {p : Scrapes L W} {render : Nat} {s : Scrape} (hrender : p.inProgress render = some s) {i : Nat}
      {name : Str} (hsource : reg.sources[i]? = some name) (hpending : s.refreshed i = none)
      (refreshed : Refreshed) : Step reg write Begins p (p.refresh render s i name refreshed)
  | rendered {p : Scrapes L W} {render : Nat} {s : Scrape} (hrender : p.inProgress render = some s)
      (hsettled : s.Settled reg) : Step reg write Begins p (p.finish render s)

abbrev Run (reg : Registered) (write : W → Gauge L → Gauge L) (Begins : Scrapes L W → Prop) :
    Scrapes L W → Scrapes L W → Prop := Relation.ReflTransGen (Step reg write Begins)

/-- A `render` may begin at any time. -/
def AnyTime : Scrapes L W → Prop := fun _ => True

/-- A `render` begins only when none is in progress. -/
def Alone (p : Scrapes L W) : Prop := ∀ render, p.inProgress render = none

end Steps

end Metrics
end NestSdk
