import NestSdk.Observability.Route

/-!
# `Metrics.HttpMiddleware` — `HttpMetricsMiddleware`, under any number of requests

`use` reads the path of a request and, unless it is ignored, counts the request in and leaves `record` with two
events of the response, `finish` and `close`. What is left with a response is a `Recorder`: the variables of the
closure, and which of the two listeners are still there. An `Event` is a request entering or a response event;
`handle` is the code one of them runs.
-/

namespace NestSdk
namespace Metrics

open Js Observability

/-! ## The metrics -/

/-- What `observeHttpRequest` is given. -/
structure HttpRequestObservation where
  method : Str
  route : Str
  statusCode : ℤ
  durationSeconds : ℚ
deriving DecidableEq

/-- The label values of an observation. -/
structure HttpLabels where
  method : Str
  route : Str
  statusCode : ℤ
deriving DecidableEq

def HttpRequestObservation.labels (observation : HttpRequestObservation) : HttpLabels :=
  ⟨observation.method, observation.route, observation.statusCode⟩

/-- The HTTP metrics: a counter, a histogram with the durations it has been given, oldest first, and a gauge. -/
structure HttpMetrics where
  httpRequests : HttpLabels → ℕ
  httpDuration : HttpLabels → List ℚ
  httpInFlight : ℤ

namespace HttpMetrics

def init : HttpMetrics := ⟨fun _ => 0, fun _ => [], 0⟩

def observeHttpRequest (m : HttpMetrics) (observation : HttpRequestObservation) : HttpMetrics :=
  let labels := observation.labels
  { m with
    httpRequests := Function.update m.httpRequests labels (m.httpRequests labels + 1)
    httpDuration := Function.update m.httpDuration labels
      (m.httpDuration labels ++ [observation.durationSeconds]) }

def trackRequestStarted (m : HttpMetrics) : HttpMetrics := { m with httpInFlight := m.httpInFlight + 1 }

def trackRequestFinished (m : HttpMetrics) : HttpMetrics := { m with httpInFlight := m.httpInFlight - 1 }

end HttpMetrics

/-! ## The middleware -/

def NANOSECONDS_PER_SECOND : ℚ := 1000000000

def questionMark : UInt16 := 0x3F

/-- The `ignoredRoutes` of a middleware whose options name none. -/
def DEFAULT_IGNORED_METRICS_ROUTES : List Str := INFRASTRUCTURE_ROUTE_PREFIXES

/-- What the middleware reads of a request when it enters. -/
structure HttpRequest where
  originalUrl : Str
  url : Str

/-- The request path, without the query string. -/
def HttpRequest.readPath (request : HttpRequest) : Str :=
  ((if request.originalUrl = [] then request.url else request.originalUrl).splitOn questionMark).headD []

/-- The request is not counted. -/
def HttpRequest.isIgnored (ignoredRoutes : List Str) (request : HttpRequest) : Bool :=
  isInfrastructureRoute request.readPath ignoredRoutes

/-- The two events of a response that are listened to. -/
inductive ResponseEvent
  | finish
  | close
deriving DecidableEq

/-- `record` and its listeners. -/
structure Recorder where
  startedAt : ℤ
  recorded : Bool
  listening : ResponseEvent → Bool

/-- What `record` reads of the request and the response when an event is emitted. -/
structure Exchange where
  method : Str
  routed : Routed
  statusCode : ℤ

/-- What `record` observes. -/
def Recorder.observation (r : Recorder) (exchange : Exchange) (now : ℤ) : HttpRequestObservation where
  method := exchange.method
  route := readRoutePattern exchange.routed
  statusCode := exchange.statusCode
  durationSeconds := ((now - r.startedAt : ℤ) : ℚ) / NANOSECONDS_PER_SECOND

/-- `record`. -/
def Recorder.record (r : Recorder) (m : HttpMetrics) (exchange : Exchange) (now : ℤ) :
    Recorder × HttpMetrics :=
  if r.recorded then (r, m)
  else ({ r with recorded := true }, m.trackRequestFinished.observeHttpRequest (r.observation exchange now))

/-- Emitting an event: a listener added by `once` is removed before it is called. -/
def Recorder.emit (r : Recorder) (m : HttpMetrics) (event : ResponseEvent) (exchange : Exchange) (now : ℤ) :
    Recorder × HttpMetrics :=
  if r.listening event then
    { r with listening := Function.update r.listening event false : Recorder }.record m exchange now
  else (r, m)

/-! ## Any number of requests -/

/-- A request enters the middleware, or its response emits an event. `now` is what `hrtime` says then. -/
inductive Event
  | entered (id : ℕ) (request : HttpRequest) (now : ℤ)
  | emitted (id : ℕ) (event : ResponseEvent) (exchange : Exchange) (now : ℤ)

/-- The request an event is about. -/
def Event.id : Event → ℕ
  | .entered id _ _ => id
  | .emitted id _ _ _ => id

/-- The metrics, what was left with each response, and the requests `next` was called for, in order. -/
structure Server where
  metrics : HttpMetrics
  recorder : ℕ → Option Recorder
  nextCalls : List ℕ

namespace Server

def init : Server := ⟨.init, fun _ => none, []⟩

variable (ignoredRoutes : List Str)

/-- `use`. -/
def use (s : Server) (id : ℕ) (request : HttpRequest) (now : ℤ) : Server :=
  if request.isIgnored ignoredRoutes then { s with nextCalls := s.nextCalls ++ [id] }
  else
    { metrics := s.metrics.trackRequestStarted
      recorder := Function.update s.recorder id (some ⟨now, false, fun _ => true⟩)
      nextCalls := s.nextCalls ++ [id] }

/-- A response emits an event. -/
def emit (s : Server) (id : ℕ) (event : ResponseEvent) (exchange : Exchange) (now : ℤ) : Server :=
  match s.recorder id with
  | none => s
  | some recorder =>
      { s with
        metrics := (recorder.emit s.metrics event exchange now).2
        recorder := Function.update s.recorder id (some (recorder.emit s.metrics event exchange now).1) }

def handle (s : Server) : Event → Server
  | .entered id request now => s.use ignoredRoutes id request now
  | .emitted id event exchange now => s.emit id event exchange now

end Server

/-- The server after these events, oldest first. -/
def served (ignoredRoutes : List Str) (events : List Event) : Server :=
  events.foldl (Server.handle ignoredRoutes) .init

/-- Events that can happen, in this order: a request enters once, and its response emits events after that,
    as many and in whatever order. -/
inductive Happens : List Event → Prop
  | nil : Happens []
  | entered {events : List Event} (h : Happens events) {id : ℕ} (hfresh : ∀ e ∈ events, e.id ≠ id)
      (request : HttpRequest) (now : ℤ) : Happens (events ++ [.entered id request now])
  | emitted {events : List Event} (h : Happens events) {id : ℕ} (hentered : ∃ e ∈ events, e.id = id)
      (event : ResponseEvent) (exchange : Exchange) (now : ℤ) :
      Happens (events ++ [.emitted id event exchange now])

end Metrics
end NestSdk
