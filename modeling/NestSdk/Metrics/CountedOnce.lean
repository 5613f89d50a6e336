import NestSdk.Metrics.HttpMiddleware

/-!
# `Metrics.CountedOnce` — every request is counted once

What should be counted is said of the events alone: `waiting` are the requests that entered and have had no event
yet, and `observed` is an observation for the first event of each. The gauge is the number of the former and the
histogram holds the latter, whatever the order of the events and however often they come.
-/

namespace NestSdk
namespace Metrics

open Js Observability

/-! ## What should be counted -/

section Spec

variable (ignoredRoutes : List Str)

/-- The request an event counts in. -/
def Event.opens : Event → Option ℕ
  | .entered id request _ => if request.isIgnored ignoredRoutes then none else some id
  | .emitted .. => none

/-- The request whose response emits the event. -/
def Event.ends : Event → Option ℕ
  | .entered .. => none
  | .emitted id .. => some id

/-- The request that enters. -/
def Event.enters : Event → Option ℕ
  | .entered id _ _ => some id
  | .emitted .. => none

/-- The requests that are not ignored and have entered. -/
def opened (events : List Event) : Finset ℕ := (events.filterMap (Event.opens ignoredRoutes)).toFinset

/-- The requests whose response has emitted an event. -/
def ended (events : List Event) : Finset ℕ := (events.filterMap Event.ends).toFinset

/-- The requests that are not ignored, have entered and have had no event yet. -/
def waiting (events : List Event) : Finset ℕ := opened ignoredRoutes events \ ended events

/-- When a request entered. -/
def startedAt (events : List Event) (id : ℕ) : Option ℤ :=
  events.findSome? fun
    | .entered id' _ now => if id' = id then some now else none
    | .emitted .. => none

/-- What is to be observed of an event after the events before it: something at the first event of a request that
    waits. -/
def observes (before : List Event) : Event → Option (ℕ × HttpRequestObservation)
  | .entered .. => none
  | .emitted id _ exchange now =>
      if id ∈ waiting ignoredRoutes before then
        (startedAt before id).map fun startedAt => (id,
          { method := exchange.method
            route := readRoutePattern exchange.routed
            statusCode := exchange.statusCode
            durationSeconds := ((now - startedAt : ℤ) : ℚ) / NANOSECONDS_PER_SECOND })
      else none

/-- What is to be observed of all events, with the request it is about. -/
def observed (events : List Event) : List (ℕ × HttpRequestObservation) :=
  (List.range events.length).filterMap fun i => events[i]?.bind (observes ignoredRoutes (events.take i))

end Spec

/-! ### One more event -/

section Concat

variable {ignoredRoutes : List Str} {events : List Event} {id : ℕ}

theorem served_concat (e : Event) :
    served ignoredRoutes (events ++ [e]) = (served ignoredRoutes events).handle ignoredRoutes e :=
  List.foldl_concat _ _ _ _

theorem opened_concat (e : Event) :
    opened ignoredRoutes (events ++ [e])
      = opened ignoredRoutes events ∪ (e.opens ignoredRoutes).toFinset := by
  unfold opened
  rw [List.filterMap_append, List.toFinset_append]
  cases h : e.opens ignoredRoutes with
  | none => simp [h]
  | some id => simp [h]

theorem ended_concat (e : Event) : ended (events ++ [e]) = ended events ∪ e.ends.toFinset := by
  unfold ended
  rw [List.filterMap_append, List.toFinset_append]
  cases h : e.ends with
  | none => simp [h]
  | some id => simp [h]

theorem observed_concat (e : Event) :
    observed ignoredRoutes (events ++ [e])
      = observed ignoredRoutes events ++ (observes ignoredRoutes events e).toList := by
  unfold observed
  rw [List.length_append, List.length_singleton, List.range_succ, List.filterMap_append]
  congr 1
  · apply List.filterMap_congr
    intro i hi
    have hlt : i < events.length := List.mem_range.mp hi
    rw [List.getElem?_append_left hlt, List.take_append_of_le_length hlt.le]
  · cases h : observes ignoredRoutes events e with
    | none => simp [h]
    | some observation => simp [h]

theorem startedAt_concat (e : Event) :
    startedAt (events ++ [e]) id = (startedAt events id).or (startedAt [e] id) := by
  unfold startedAt
  rw [List.findSome?_append]

/-- An event of no request seen before leaves them all as they were. -/
theorem notMem_of_fresh (ignoredRoutes : List Str) (hfresh : ∀ e ∈ events, e.id ≠ id) :
    id ∉ opened ignoredRoutes events ∧ id ∉ ended events := by
  constructor
  · intro h
    obtain ⟨e, he, hopens⟩ := List.mem_filterMap.mp (List.mem_toFinset.mp h)
    apply hfresh e he
    cases e with
    | entered id' request now =>
        simp only [Event.opens] at hopens
        split at hopens
        · cases hopens
        · exact Option.some.inj hopens
    | emitted => cases hopens
  · intro h
    obtain ⟨e, he, hends⟩ := List.mem_filterMap.mp (List.mem_toFinset.mp h)
    apply hfresh e he
    cases e with
    | entered => cases hends
    | emitted => exact Option.some.inj hends

end Concat

/-! ## One event -/

section Recorder

variable {r : Recorder} {event : ResponseEvent}

/-- After the first event nothing is recorded. -/
theorem Recorder.emit_of_recorded (h : r.recorded = true) (m : HttpMetrics) (event : ResponseEvent)
    (exchange : Exchange) (now : ℤ) :
    (r.emit m event exchange now).2 = m ∧ (r.emit m event exchange now).1.recorded = true ∧
      (r.emit m event exchange now).1.startedAt = r.startedAt := by
  unfold Recorder.emit Recorder.record
  split
  · simp [h]
  · exact ⟨rfl, h, rfl⟩

/-- At the first event the request is counted out and observed. -/
theorem Recorder.emit_of_waiting (hlistening : r.listening event = true) (h : r.recorded = false)
    (m : HttpMetrics) (exchange : Exchange) (now : ℤ) :
    r.emit m event exchange now =
      ({ r with recorded := true, listening := Function.update r.listening event false },
        m.trackRequestFinished.observeHttpRequest (r.observation exchange now)) := by
  unfold Recorder.emit Recorder.record
  rw [if_pos hlistening]
  simp only [h, Bool.false_eq_true, if_false]
  rfl

end Recorder

/-! ## The requests that are observed -/

section Observed

variable {ignoredRoutes : List Str} {events : List Event} {id : ℕ}

theorem opened_entered {request : HttpRequest} {now : ℤ} (hcounted : request.isIgnored ignoredRoutes = false) :
    opened ignoredRoutes (events ++ [.entered id request now]) = insert id (opened ignoredRoutes events) := by
  rw [opened_concat]
  simp [Event.opens, hcounted, Finset.union_comm]

theorem opened_ignored {request : HttpRequest} {now : ℤ} (hignored : request.isIgnored ignoredRoutes = true) :
    opened ignoredRoutes (events ++ [.entered id request now]) = opened ignoredRoutes events := by
  rw [opened_concat]
  simp [Event.opens, hignored]

theorem opened_emitted (event : ResponseEvent) (exchange : Exchange) (now : ℤ) :
    opened ignoredRoutes (events ++ [.emitted id event exchange now]) = opened ignoredRoutes events := by
  rw [opened_concat]
  exact Finset.union_empty _

theorem ended_entered (request : HttpRequest) (now : ℤ) :
    ended (events ++ [.entered id request now]) = ended events := by
  rw [ended_concat]
  exact Finset.union_empty _

theorem ended_emitted (event : ResponseEvent) (exchange : Exchange) (now : ℤ) :
    ended (events ++ [.emitted id event exchange now]) = insert id (ended events) := by
  rw [ended_concat]
  simp [Event.ends, Finset.union_comm]

theorem observed_entered (request : HttpRequest) (now : ℤ) :
    observed ignoredRoutes (events ++ [.entered id request now]) = observed ignoredRoutes events := by
  rw [observed_concat]
  exact List.append_nil _

/-- A request that has entered has a time it started at. -/
theorem startedAt_of_opened (h : id ∈ opened ignoredRoutes events) : startedAt events id ≠ none := by
  obtain ⟨e, he, hopens⟩ := List.mem_filterMap.mp (List.mem_toFinset.mp h)
  unfold startedAt
  rw [Ne, List.findSome?_eq_none_iff]
  intro hnone
  cases e with
  | entered id' request now =>
      simp only [Event.opens] at hopens
      split at hopens
      · cases hopens
      · obtain rfl := Option.some.inj hopens
        have hat := hnone _ he
        simp at hat
  | emitted => cases hopens

/-- The first event of a request that waits is observed, as of that request. -/
theorem observes_of_waiting (h : id ∈ waiting ignoredRoutes events) (event : ResponseEvent) (exchange : Exchange)
    (now : ℤ) : ∃ observation, observes ignoredRoutes events (.emitted id event exchange now)
      = some (id, observation) := by
  obtain ⟨at_, hat⟩ := Option.ne_none_iff_exists'.mp (startedAt_of_opened (Finset.mem_sdiff.mp h).1)
  simp only [observes, if_pos h, hat, Option.map_some]
  exact ⟨_, rfl⟩

theorem observes_of_notMem (h : id ∉ waiting ignoredRoutes events) (event : ResponseEvent) (exchange : Exchange)
    (now : ℤ) : observes ignoredRoutes events (.emitted id event exchange now) = none :=
  if_neg h

/-- **A request is observed once, if it is counted and has had an event,** by induction on the events. -/
theorem observed_once (h : Happens events) :
    ((observed ignoredRoutes events).map Prod.fst).Nodup ∧
    ∀ id, id ∈ (observed ignoredRoutes events).map Prod.fst ↔
      id ∈ opened ignoredRoutes events ∧ id ∈ ended events := by
  induction h with
  | nil => exact ⟨List.nodup_nil, by simp [observed, opened]⟩
  | @entered events h id hfresh request now ih =>
      obtain ⟨hopened, hended⟩ := notMem_of_fresh ignoredRoutes hfresh
      rw [observed_entered, ended_entered]
      refine ⟨ih.1, ?_⟩
      intro id'
      rw [ih.2]
      cases hignored : request.isIgnored ignoredRoutes with
      | true => rw [opened_ignored hignored]
      | false =>
          rw [opened_entered hignored, Finset.mem_insert]
          -- the new request has had no event
          constructor
          · rintro ⟨hopen, hend⟩
            exact ⟨.inr hopen, hend⟩
          · rintro ⟨rfl | hopen, hend⟩
            · exact absurd hend hended
            · exact ⟨hopen, hend⟩
  | @emitted events h id hentered event exchange now ih =>
      rw [observed_concat, opened_emitted, ended_emitted]
      by_cases hwaits : id ∈ waiting ignoredRoutes events
      · obtain ⟨observation, hobserves⟩ := observes_of_waiting hwaits event exchange now
        obtain ⟨hopen, hnot⟩ := Finset.mem_sdiff.mp hwaits
        rw [hobserves, Option.toList_some, List.map_append, List.map_singleton]
        constructor
        · rw [← List.concat_eq_append]
          apply List.Nodup.concat _ ih.1
          intro hmem
          exact hnot ((ih.2 id).mp hmem).2
        · intro id'
          rw [List.mem_append, ih.2, List.mem_singleton, Finset.mem_insert]
          constructor
          · rintro (⟨hopen', hend⟩ | rfl)
            · exact ⟨hopen', .inr hend⟩
            · exact ⟨hopen, .inl rfl⟩
          · rintro ⟨hopen', rfl | hend⟩
            · exact .inr rfl
            · exact .inl ⟨hopen', hend⟩
      · rw [observes_of_notMem hwaits, Option.toList_none, List.append_nil]
        refine ⟨ih.1, ?_⟩
        intro id'
        rw [ih.2, Finset.mem_insert]
        constructor
        · rintro ⟨hopen, hend⟩
          exact ⟨hopen, .inr hend⟩
        · rintro ⟨hopen, rfl | hend⟩
          · -- it is counted and does not wait: it has had an event
            refine ⟨hopen, ?_⟩
            by_contra hnot
            exact hwaits (Finset.mem_sdiff.mpr ⟨hopen, hnot⟩)
          · exact ⟨hopen, hend⟩

end Observed

/-! ## The server -/

/-- What is left with the responses, and the gauge, after these events. -/
structure Tracked (ignoredRoutes : List Str) (events : List Event) (s : Server) : Prop where
  inFlight : s.metrics.httpInFlight = (waiting ignoredRoutes events).card
  uncounted : ∀ id, id ∉ opened ignoredRoutes events → s.recorder id = none
  waits : ∀ id ∈ waiting ignoredRoutes events, ∃ r, s.recorder id = some r ∧ r.recorded = false ∧
    (∀ event, r.listening event = true) ∧ startedAt events id = some r.startedAt
  done : ∀ id ∈ opened ignoredRoutes events, id ∈ ended events → ∃ r, s.recorder id = some r ∧ r.recorded = true

/-- What the counter and the histogram have been given. -/
structure Recorded (observations : List HttpRequestObservation) (m : HttpMetrics) : Prop where
  requests : ∀ labels, m.httpRequests labels = (observations.filter fun o => o.labels = labels).length
  durations : ∀ labels, m.httpDuration labels
    = (observations.filter fun o => o.labels = labels).map HttpRequestObservation.durationSeconds

theorem Recorded.observeHttpRequest {observations : List HttpRequestObservation} {m : HttpMetrics}
    (h : Recorded observations m) (observation : HttpRequestObservation) :
    Recorded (observations ++ [observation]) (m.observeHttpRequest observation) := by
  constructor
  · intro labels
    show Function.update m.httpRequests _ _ labels = _
    rw [Function.update_apply, List.filter_append, List.length_append]
    by_cases hlabels : labels = observation.labels
    · subst hlabels
      simp [h.requests]
    · simp [hlabels, Ne.symm hlabels, h.requests]
  · intro labels
    show Function.update m.httpDuration _ _ labels = _
    rw [Function.update_apply, List.filter_append, List.map_append]
    by_cases hlabels : labels = observation.labels
    · subst hlabels
      simp [h.durations]
    · simp [hlabels, Ne.symm hlabels, h.durations]

section Steps

variable {ignoredRoutes : List Str} {events : List Event} {s : Server} {id : ℕ}

theorem tracked_init : Tracked ignoredRoutes [] .init where
  inFlight := rfl
  uncounted _ _ := rfl
  waits _ h := absurd h (Finset.notMem_empty _)
  done _ h := absurd h (Finset.notMem_empty _)

/-- An event of another request leaves a request's time as it is. -/
theorem startedAt_concat_of_some {at_ : ℤ} (h : startedAt events id = some at_) (e : Event) :
    startedAt (events ++ [e]) id = some at_ := by
  rw [startedAt_concat, h, Option.some_or]

/-- A request that has not entered has no time. -/
theorem startedAt_of_fresh (hfresh : ∀ e ∈ events, e.id ≠ id) : startedAt events id = none := by
  unfold startedAt
  apply List.findSome?_eq_none_iff.mpr
  intro e he
  cases e with
  | entered id' request now => exact if_neg (hfresh _ he)
  | emitted => rfl

/-- **A request enters:** it waits, unless it is ignored. -/
theorem Tracked.use (h : Tracked ignoredRoutes events s) (hfresh : ∀ e ∈ events, e.id ≠ id)
    (request : HttpRequest) (now : ℤ) :
    Tracked ignoredRoutes (events ++ [.entered id request now]) (s.use ignoredRoutes id request now) := by
  obtain ⟨hopened, hended⟩ := notMem_of_fresh ignoredRoutes hfresh
  unfold Server.use
  cases hignored : request.isIgnored ignoredRoutes with
  | true =>
      have hwaiting : waiting ignoredRoutes (events ++ [.entered id request now]) = waiting ignoredRoutes events := by
        rw [waiting, opened_ignored hignored, ended_entered, waiting]
      constructor
      · rw [hwaiting]
        exact h.inFlight
      · rw [opened_ignored hignored]
        exact h.uncounted
      · rw [hwaiting]
        intro id' hid'
        obtain ⟨r, hr, hrecorded, hlistening, hstarted⟩ := h.waits id' hid'
        exact ⟨r, hr, hrecorded, hlistening, startedAt_concat_of_some hstarted _⟩
      · rw [opened_ignored hignored, ended_entered]
        exact h.done
  | false =>
      have hwaiting : waiting ignoredRoutes (events ++ [.entered id request now])
          = insert id (waiting ignoredRoutes events) := by
        rw [waiting, opened_entered hignored, ended_entered, Finset.insert_sdiff_of_notMem _ hended, waiting]
      have hnew : id ∉ waiting ignoredRoutes events := fun hid => hopened (Finset.mem_sdiff.mp hid).1
      constructor
      · rw [hwaiting, Finset.card_insert_of_notMem hnew]
        show s.metrics.httpInFlight + 1 = _
        rw [h.inFlight, Nat.cast_add_one]
      · rw [opened_entered hignored]
        intro id' hid'
        rw [Finset.mem_insert, not_or] at hid'
        show Function.update s.recorder id _ id' = none
        rw [Function.update_of_ne hid'.1]
        exact h.uncounted id' hid'.2
      · rw [hwaiting]
        intro id' hid'
        rcases Finset.mem_insert.mp hid' with rfl | hid'
        · refine ⟨⟨now, false, fun _ => true⟩, Function.update_self _ _ _, rfl, fun _ => rfl, ?_⟩
          rw [startedAt_concat, startedAt_of_fresh hfresh]
          simp [startedAt]
        · have hne : id' ≠ id := fun heq => hnew (heq ▸ hid')
          obtain ⟨r, hr, hrecorded, hlistening, hstarted⟩ := h.waits id' hid'
          refine ⟨r, ?_, hrecorded, hlistening, startedAt_concat_of_some hstarted _⟩
          show Function.update s.recorder id _ id' = some r
          rw [Function.update_of_ne hne, hr]
      · rw [opened_entered hignored, ended_entered]
        intro id' hid' hend
        have hne : id' ≠ id := fun heq => hended (heq ▸ hend)
        show ∃ r, Function.update s.recorder id _ id' = some r ∧ _
        rw [Function.update_of_ne hne]
        exact h.done id' (Finset.mem_of_mem_insert_of_ne hid' hne) hend

/-- What the first event of a request does. -/
theorem Tracked.emit_of_waiting (h : Tracked ignoredRoutes events s) (hid : id ∈ waiting ignoredRoutes events)
    (event : ResponseEvent) (exchange : Exchange) (now : ℤ) :
    ∃ r : Recorder, startedAt events id = some r.startedAt ∧ s.emit id event exchange now =
      { s with
        metrics := s.metrics.trackRequestFinished.observeHttpRequest (r.observation exchange now)
        recorder := Function.update s.recorder id
          (some { r with recorded := true, listening := Function.update r.listening event false }) } := by
  obtain ⟨r, hr, hrecorded, hlistening, hstarted⟩ := h.waits id hid
  refine ⟨r, hstarted, ?_⟩
  unfold Server.emit
  rw [hr]
  simp only [Recorder.emit_of_waiting (hlistening event) hrecorded]

/-- What every other event does: nothing to the metrics. -/
theorem Tracked.emit_of_notMem (h : Tracked ignoredRoutes events s) (hid : id ∉ waiting ignoredRoutes events)
    (event : ResponseEvent) (exchange : Exchange) (now : ℤ) :
    (s.emit id event exchange now).metrics = s.metrics ∧
      (∀ id' ≠ id, (s.emit id event exchange now).recorder id' = s.recorder id') ∧
      (id ∉ opened ignoredRoutes events → (s.emit id event exchange now).recorder id = none) ∧
      (id ∈ opened ignoredRoutes events →
        ∃ r, (s.emit id event exchange now).recorder id = some r ∧ r.recorded = true) := by
  by_cases hopen : id ∈ opened ignoredRoutes events
  · have hend : id ∈ ended events := by
      by_contra hnot
      exact hid (Finset.mem_sdiff.mpr ⟨hopen, hnot⟩)
    obtain ⟨r, hr, hrecorded⟩ := h.done id hopen hend
    obtain ⟨hmetrics, hstill, -⟩ := Recorder.emit_of_recorded hrecorded s.metrics event exchange now
    unfold Server.emit
    rw [hr]
    refine ⟨hmetrics, ?_, fun hnot => absurd hopen hnot, fun _ => ⟨_, Function.update_self _ _ _, hstill⟩⟩
    intro id' hne
    exact Function.update_of_ne hne _ _
  · have hnone := h.uncounted id hopen
    unfold Server.emit
    rw [hnone]
    exact ⟨rfl, fun _ _ => rfl, fun _ => hnone, fun hnot => absurd hnot hopen⟩

/-- **A response emits an event:** its request waits no more. -/
theorem Tracked.emit (h : Tracked ignoredRoutes events s) (event : ResponseEvent) (exchange : Exchange) (now : ℤ) :
    Tracked ignoredRoutes (events ++ [.emitted id event exchange now]) (s.emit id event exchange now) := by
  have hwaiting : waiting ignoredRoutes (events ++ [.emitted id event exchange now])
      = (waiting ignoredRoutes events).erase id := by
    rw [waiting, opened_emitted, ended_emitted, Finset.sdiff_insert, waiting]
  by_cases hid : id ∈ waiting ignoredRoutes events
  · obtain ⟨r, -, hemit⟩ := h.emit_of_waiting hid event exchange now
    rw [hemit]
    constructor
    · rw [hwaiting, Finset.cast_card_erase_of_mem hid]
      show s.metrics.httpInFlight - 1 = _
      rw [h.inFlight]
    · rw [opened_emitted]
      intro id' hid'
      have hne : id' ≠ id := by
        rintro rfl
        exact hid' (Finset.mem_sdiff.mp hid).1
      show Function.update s.recorder id _ id' = none
      rw [Function.update_of_ne hne]
      exact h.uncounted id' hid'
    · rw [hwaiting]
      intro id' hid'
      obtain ⟨hne, hid'⟩ := Finset.mem_erase.mp hid'
      obtain ⟨r', hr, hrecorded, hlistening, hstarted⟩ := h.waits id' hid'
      refine ⟨r', ?_, hrecorded, hlistening, startedAt_concat_of_some hstarted _⟩
      show Function.update s.recorder id _ id' = some r'
      rw [Function.update_of_ne hne, hr]
    · rw [opened_emitted, ended_emitted]
      intro id' hid' hend
      by_cases heq : id' = id
      · subst heq
        exact ⟨_, Function.update_self _ _ _, rfl⟩
      · show ∃ r', Function.update s.recorder id _ id' = some r' ∧ _
        rw [Function.update_of_ne heq]
        exact h.done id' hid' (Finset.mem_of_mem_insert_of_ne hend heq)
  · obtain ⟨hmetrics, hothers, huncounted, hdone⟩ := h.emit_of_notMem hid event exchange now
    constructor
    · rw [hwaiting, Finset.erase_eq_of_notMem hid, hmetrics]
      exact h.inFlight
    · rw [opened_emitted]
      intro id' hid'
      by_cases heq : id' = id
      · subst heq
        exact huncounted hid'
      · rw [hothers id' heq]
        exact h.uncounted id' hid'
    · rw [hwaiting, Finset.erase_eq_of_notMem hid]
      intro id' hid'
      have hne : id' ≠ id := fun heq => hid (heq ▸ hid')
      obtain ⟨r', hr, hrecorded, hlistening, hstarted⟩ := h.waits id' hid'
      refine ⟨r', ?_, hrecorded, hlistening, startedAt_concat_of_some hstarted _⟩
      rw [hothers id' hne, hr]
    · rw [opened_emitted, ended_emitted]
      intro id' hid' hend
      by_cases heq : id' = id
      · subst heq
        exact hdone hid'
      · rw [hothers id' heq]
        exact h.done id' hid' (Finset.mem_of_mem_insert_of_ne hend heq)

/-- **The invariant of every run,** by induction on the events. -/
theorem tracked_served (ignoredRoutes : List Str) (h : Happens events) :
    Tracked ignoredRoutes events (served ignoredRoutes events) := by
  induction h with
  | nil => exact tracked_init
  | entered h hfresh request now ih =>
      rw [served_concat]
      exact ih.use hfresh request now
  | emitted h hentered event exchange now ih =>
      rw [served_concat]
      exact ih.emit event exchange now

/-- What `record` observes is what is to be observed. -/
theorem observes_eq {r : Recorder} (hid : id ∈ waiting ignoredRoutes events)
    (hstarted : startedAt events id = some r.startedAt) (event : ResponseEvent) (exchange : Exchange) (now : ℤ) :
    observes ignoredRoutes events (.emitted id event exchange now) = some (id, r.observation exchange now) := by
  simp only [observes, if_pos hid, hstarted, Option.map_some]
  rfl

/-- **What is observed in a run** is what is to be observed. -/
theorem recorded_served (h : Happens events) :
    Recorded ((observed ignoredRoutes events).map Prod.snd) (served ignoredRoutes events).metrics := by
  induction h with
  | nil => exact ⟨fun _ => rfl, fun _ => rfl⟩
  | @entered events h id hfresh request now ih =>
      rw [served_concat, observed_entered]
      show Recorded _ ((served ignoredRoutes events).use ignoredRoutes id request now).metrics
      unfold Server.use
      split
      · exact ih
      · exact ⟨ih.requests, ih.durations⟩
  | @emitted events h id hentered event exchange now ih =>
      rw [served_concat, observed_concat]
      show Recorded _ ((served ignoredRoutes events).emit id event exchange now).metrics
      have htracked := tracked_served ignoredRoutes h
      by_cases hid : id ∈ waiting ignoredRoutes events
      · obtain ⟨r, hstarted, hemit⟩ := htracked.emit_of_waiting hid event exchange now
        rw [hemit, observes_eq hid hstarted, Option.toList_some, List.map_append, List.map_singleton]
        apply Recorded.observeHttpRequest
        exact ⟨ih.requests, ih.durations⟩
      · rw [(htracked.emit_of_notMem hid event exchange now).1, observes_of_notMem hid, Option.toList_none,
          List.append_nil]
        exact ih

/-- `next` is called for every request, as it enters. -/
theorem nextCalls_served (events : List Event) :
    (served ignoredRoutes events).nextCalls = events.filterMap Event.enters := by
  induction events using List.reverseRecOn with
  | nil => rfl
  | append_singleton events e ih =>
      rw [served_concat, List.filterMap_append, ← ih]
      cases e with
      | entered id request now =>
          show ((served ignoredRoutes events).use ignoredRoutes id request now).nextCalls = _
          unfold Server.use
          split
          · rfl
          · rfl
      | emitted id event exchange now =>
          show ((served ignoredRoutes events).emit id event exchange now).nextCalls = _
          unfold Server.emit
          split
          · exact (List.append_nil _).symm
          · exact (List.append_nil _).symm

/-- No request enters twice. -/
theorem enters_nodup (h : Happens events) : (events.filterMap Event.enters).Nodup := by
  induction h with
  | nil => exact List.nodup_nil
  | @entered events h id hfresh request now ih =>
      rw [List.filterMap_append]
      show (List.filterMap Event.enters events ++ [id]).Nodup
      rw [← List.concat_eq_append]
      apply List.Nodup.concat _ ih
      intro hmem
      obtain ⟨e, he, henters⟩ := List.mem_filterMap.mp hmem
      apply hfresh e he
      cases e with
      | entered => exact Option.some.inj henters
      | emitted => cases henters
  | emitted h hentered event exchange now ih =>
      rw [List.filterMap_append]
      show (List.filterMap Event.enters _ ++ []).Nodup
      rw [List.append_nil]
      exact ih

end Steps

/-- The HTTP metrics count every request once. -/
structure CountedOnce (ignoredRoutes : List Str) (events : List Event) : Prop where
  /-- The gauge is the number of requests that wait. -/
  inFlight : (served ignoredRoutes events).metrics.httpInFlight = (waiting ignoredRoutes events).card
  nonneg : 0 ≤ (served ignoredRoutes events).metrics.httpInFlight
  /-- The counter and the histogram hold the observations. -/
  recorded : Recorded ((observed ignoredRoutes events).map Prod.snd) (served ignoredRoutes events).metrics
  /-- No request is observed twice, and each is that has had an event. -/
  once : ((observed ignoredRoutes events).map Prod.fst).Nodup
  first : ∀ id, id ∈ (observed ignoredRoutes events).map Prod.fst ↔
    id ∈ opened ignoredRoutes events ∧ id ∈ ended events
  /-- What an ignored request does leaves the metrics as they are. -/
  ignored : ∀ before e, events = before ++ [e] → e.id ∉ opened ignoredRoutes events →
    (served ignoredRoutes events).metrics = (served ignoredRoutes before).metrics
  /-- `next` is called for each request, once. -/
  next : (served ignoredRoutes events).nextCalls = events.filterMap Event.enters
  nextOnce : (served ignoredRoutes events).nextCalls.Nodup

/-- The events before the last one could happen as well. -/
theorem Happens.of_concat {before : List Event} {e : Event} (h : Happens (before ++ [e])) : Happens before := by
  generalize hevents : before ++ [e] = events at h
  cases h with
  | nil => exact absurd hevents (List.append_ne_nil_of_right_ne_nil _ (List.cons_ne_nil _ _))
  | entered h _ _ _ =>
      obtain ⟨rfl, -⟩ := List.append_inj' hevents rfl
      exact h
  | emitted h _ _ _ _ =>
      obtain ⟨rfl, -⟩ := List.append_inj' hevents rfl
      exact h

theorem metrics_of_ignored {ignoredRoutes : List Str} {before : List Event} {e : Event} (h : Happens before)
    (hignored : e.id ∉ opened ignoredRoutes (before ++ [e])) :
    (served ignoredRoutes (before ++ [e])).metrics = (served ignoredRoutes before).metrics := by
  rw [served_concat]
  cases e with
  | entered id request now =>
      show ((served ignoredRoutes before).use ignoredRoutes id request now).metrics = _
      unfold Server.use
      cases hroute : request.isIgnored ignoredRoutes with
      | true => rfl
      | false =>
          rw [opened_entered hroute] at hignored
          exact absurd (Finset.mem_insert_self _ _) hignored
  | emitted id event exchange now =>
      rw [opened_emitted] at hignored
      apply ((tracked_served ignoredRoutes h).emit_of_notMem _ event exchange now).1
      exact fun hid => hignored (Finset.mem_sdiff.mp hid).1

/-- **HTTP metrics count every request once:** any number of requests, and any interleaving of their events. -/
theorem counted_once (ignoredRoutes : List Str) {events : List Event} (h : Happens events) :
    CountedOnce ignoredRoutes events where
  inFlight := (tracked_served ignoredRoutes h).inFlight
  nonneg := by
    rw [(tracked_served ignoredRoutes h).inFlight]
    apply Int.natCast_nonneg
  recorded := recorded_served h
  once := (observed_once h).1
  first := (observed_once h).2
  ignored := by
    rintro before e rfl hignored
    apply metrics_of_ignored h.of_concat hignored
  next := nextCalls_served events
  nextOnce := by
    rw [nextCalls_served]
    apply enters_nodup h

/-- Two requests at once: the client of the second hangs up, and the first ends with both events. -/
def overlapping : List Event :=
  [] ++ [Event.entered 0 ⟨str "/tenant/list?page=2", []⟩ 0] ++ [Event.entered 1 ⟨str "/tenant/list", []⟩ 5]
    ++ [Event.emitted 1 .close ⟨str "GET", ⟨[], none⟩, 499⟩ 7]
    ++ [Event.emitted 0 .finish ⟨str "GET", ⟨[], none⟩, 200⟩ 9]
    ++ [Event.emitted 0 .close ⟨str "GET", ⟨[], none⟩, 200⟩ 9]

theorem overlapping_counted_once : CountedOnce DEFAULT_IGNORED_METRICS_ROUTES overlapping := by
  apply counted_once
  refine .emitted (.emitted (.emitted (.entered (.entered .nil ?_ _ _) ?_ _ _) ?_ _ _ _) ?_ _ _ _) ?_ _ _ _
  · simp
  · simp [Event.id]
  · simp [Event.id]
  · simp [Event.id]
  · simp [Event.id]

end Metrics
end NestSdk
