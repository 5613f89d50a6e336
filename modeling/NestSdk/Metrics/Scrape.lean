import NestSdk.Metrics.Service

/-!
# `Metrics.Scrape` — whose readings a scrape reports

One gauge holds the queue depths of every scrape: a `render` empties it, its collectors fill it, and it reports
what it then finds there. As long as no `render` begins while another is in progress, what is in the gauge is at
every moment what the collectors of the one in progress have come back with.
-/

namespace NestSdk
namespace Metrics

open Js Lib

/-- What a `collect()` says of one state: its last reading of it. Nothing if it failed, or has not come back. -/
def depthIn (state : QueueState) : Option Collected → Option ℚ
  | some (.ok readings) => Gauge.lastOf QueueDepthReading.state QueueDepthReading.depth readings state
  | _ => none

/-- What a scrape's own collectors say of one queue and state. -/
def Scrape.reading (s : Scrape) (queue : Str) (state : QueueState) : Option ℚ :=
  depthIn state (s.collected queue)

/-- **The scrape reports its own readings, and nothing else.** -/
def ReportsOwn {L W : Type} (r : Rendered L W) : Prop :=
  ∀ queue state, r.text.queueDepth (queue, state) = r.scrape.reading queue state

/-! ## One collector -/

variable {L W : Type}

theorem lastOf_queue (queue queue' : Str) (state : QueueState) (readings : List QueueDepthReading) :
    Gauge.lastOf (fun r => (queue, r.state)) QueueDepthReading.depth readings (queue', state)
      = if queue' = queue then depthIn state (some (.ok readings)) else none := by
  unfold depthIn Gauge.lastOf
  by_cases h : queue' = queue
  · simp [h]
  · have hnone : readings.reverse.find? (fun r => decide ((queue, r.state) = (queue', state))) = none := by
      rw [List.find?_eq_none]
      intro r _
      simp [Ne.symm h]
    rw [hnone, if_neg h]
    rfl

/-- **What one collector does to the gauge:** its queue gets its readings, if it has any, and no other queue is
    touched. -/
theorem refreshOne_queueDepth (m : MetricsService L) (queue : Str) (collected : Collected) (queue' : Str)
    (state : QueueState) :
    (MetricsService.after (MetricsService.refreshOne queue collected) m).queueDepth (queue', state)
      = if queue' = queue then (depthIn state (some collected)).or (m.queueDepth (queue', state))
        else m.queueDepth (queue', state) := by
  cases collected with
  | ok readings =>
      show Gauge.setAll _ _ readings m.queueDepth (queue', state) = _
      rw [Gauge.setAll_apply, lastOf_queue]
      split
      · rfl
      · rfl
  | error error => exact (ite_self _).symm

theorem reading_collected (s : Scrape) (queue : Str) (collected : Collected) (queue' : Str)
    (state : QueueState) :
    Scrape.reading { s with collected := Function.update s.collected queue (some collected) } queue' state
      = if queue' = queue then depthIn state (some collected) else s.reading queue' state := by
  simp only [Scrape.reading, Function.update_apply]
  split
  · rfl
  · rfl

/-! ## Over a run -/

/-- No `render` is in progress; or one is, and the gauge holds its readings. -/
inductive OneScrape (p : Scrapes L W) : Prop
  | idle (hidle : p.inProgress = fun _ => none)
  | busy (render : Nat) (s : Scrape) (hbusy : p.inProgress = Function.update (fun _ => none) render (some s))
      (hown : ∀ queue state, p.service.queueDepth (queue, state) = s.reading queue state)

/-- The `render` found in progress is the one whose readings the gauge holds. -/
theorem OneScrape.found {p : Scrapes L W} (h : OneScrape p) {render : Nat} {s : Scrape}
    (hrender : p.inProgress render = some s) :
    p.inProgress = Function.update (fun _ => none) render (some s) ∧
      ∀ queue state, p.service.queueDepth (queue, state) = s.reading queue state := by
  cases h with
  | idle hidle => exact absurd (hrender.symm.trans (congrFun hidle render)) (by simp)
  | busy render' s' hbusy hown =>
      rw [hbusy, Function.update_apply] at hrender
      split at hrender
      · rename_i heq
        obtain rfl := heq
        obtain rfl := Option.some.inj hrender
        exact ⟨hbusy, hown⟩
      · exact absurd hrender (by simp)

theorem OneScrape.step {reg : Registered} {write : W → Gauge L → Gauge L} {p p' : Scrapes L W}
    (h : OneScrape p) (hstep : Step reg write Alone p p') : OneScrape p' := by
  cases hstep with
  | began render hfree halone =>
      have hidle : p.inProgress = fun _ => none := funext halone
      -- `began` empties the gauge, and no collector of this `render` has come back
      exact .busy render .init (by rw [Scrapes.start, hidle]) (fun _ _ => rfl)
  | @collected render s hrender queue hqueue hpending collected =>
      obtain ⟨hbusy, hown⟩ := h.found hrender
      refine .busy render _ (by rw [Scrapes.collect_eq, hbusy, Function.update_idem]) ?_
      intro queue' state
      rw [reading_collected, Scrapes.collect_eq]
      refine (refreshOne_queueDepth p.service queue collected queue' state).trans ?_
      split
      · -- the queue had no reading yet, so the gauge had no series for it
        rename_i heq
        rw [hown, heq, Scrape.reading, hpending]
        exact Option.or_none
      · exact hown queue' state
  | wrote hsource w =>
      cases h with
      | idle hidle => exact .idle hidle
      | busy render s hbusy hown => exact .busy render s hbusy hown
  | @refreshed render s hrender i name hsource hpending refreshed =>
      obtain ⟨hbusy, hown⟩ := h.found hrender
      refine .busy render _ (by rw [Scrapes.refresh_eq, hbusy, Function.update_idem]) ?_
      rw [Scrapes.refresh_eq]
      cases refreshed with
      | ok u => exact hown
      | error error => exact hown
  | @rendered render s hrender hsettled =>
      obtain ⟨hbusy, -⟩ := h.found hrender
      refine .idle ?_
      rw [Scrapes.finish, hbusy, Function.update_idem]
      -- it was the only one in progress
      exact Function.update_eq_self render _

/-- A text is only ever added, by the `render` that has settled. -/
theorem rendered_cases {reg : Registered} {write : W → Gauge L → Gauge L} {Begins : Scrapes L W → Prop}
    {p p' : Scrapes L W} (hstep : Step reg write Begins p p') :
    p'.rendered = p.rendered ∨ ∃ render s, p.inProgress render = some s ∧ s.Settled reg ∧
      p'.rendered = ⟨s, p.service.metrics, p.written⟩ :: p.rendered := by
  cases hstep with
  | began _ _ _ | collected _ _ _ _ | wrote _ _ | refreshed _ _ _ _ => exact .inl rfl
  | @rendered render s hrender hsettled =>
      cases hrejected : s.rejected with
      | none => exact .inr ⟨render, s, hrender, hsettled, by simp only [Scrapes.finish, hrejected]⟩
      | some error => exact .inl (by simp only [Scrapes.finish, hrejected])

theorem oneScrape_of_run {reg : Registered} {write : W → Gauge L → Gauge L} {sources : Nat → Gauge L}
    {p : Scrapes L W} (h : Run reg write Alone (Scrapes.init sources) p) : OneScrape p := by
  induction h with
  | refl => exact .idle rfl
  | tail _ hstep ih => exact ih.step hstep

/-- **Every scrape reports its own readings,** in every run in which no two overlap: by the time it returns each of
    its collectors has come back, and its text has what they said and nothing else. -/
theorem scrape_reportsOwn {reg : Registered} {write : W → Gauge L → Gauge L} {sources : Nat → Gauge L}
    {p : Scrapes L W} (h : Run reg write Alone (Scrapes.init sources) p) :
    ∀ r ∈ p.rendered, r.scrape.Settled reg ∧ ReportsOwn r := by
  induction h with
  | refl => exact fun _ hr => absurd hr List.not_mem_nil
  | @tail mid _ hrun hstep ih =>
      obtain hsame | ⟨render, s, hrender, hsettled, hadded⟩ := rendered_cases hstep
      · rw [hsame]
        exact ih
      · rw [hadded]
        intro r hr
        obtain rfl | hr := List.mem_cons.mp hr
        · exact ⟨hsettled, ((oneScrape_of_run hrun).found hrender).2⟩
        · exact ih r hr

/-- One queue and no source. -/
def deliveryOnly : Registered := ⟨[str "delivery"], List.nodup_singleton _, []⟩

/-- A scrape whose one collector came back so. -/
def deliveryScrape (collected : Collected) : Scrape :=
  { Scrape.init with collected := Function.update Scrape.init.collected (str "delivery") (some collected) }

theorem deliveryScrape_settled (collected : Collected) : (deliveryScrape collected).Settled deliveryOnly := by
  refine ⟨?_, fun i hi => absurd hi (Nat.not_lt_zero i)⟩
  intro queue hqueue
  obtain rfl := List.mem_singleton.mp hqueue
  simp [deliveryScrape]

/-- Before the first scrape; once scrape 0 has its reading; once it has returned. -/
def unscraped : Scrapes Unit Unit := Scrapes.init fun _ => Gauge.empty

def firstRead : Scrapes Unit Unit :=
  (unscraped.start 0).collect 0 .init (str "delivery") (.ok [⟨.pending, 3⟩])

def firstScraped : Scrapes Unit Unit := firstRead.finish 0 (deliveryScrape (.ok [⟨.pending, 3⟩]))

theorem step_firstRead {Begins : Scrapes Unit Unit → Prop} :
    Step deliveryOnly (fun _ g => g) Begins (unscraped.start 0) firstRead :=
  .collected rfl List.mem_cons_self rfl _

/-- Scrape 1, whose collector fails. -/
def secondFailed : Scrapes Unit Unit :=
  ((firstScraped.start 1).collect 1 .init (str "delivery") (.error .other)).finish 1
    (deliveryScrape (.error .other))

/-- Two scrapes, one after the other: the second has no reading, and does not report the first one's. -/
theorem scrape_reportsOwn_alone :
    ∃ r ∈ secondFailed.rendered, r.scrape.collected (str "delivery") = some (.error .other) ∧
      firstScraped.service.queueDepth (str "delivery", .pending) = some 3 ∧
      r.text.queueDepth (str "delivery", .pending) = none ∧ r.scrape.Settled deliveryOnly ∧ ReportsOwn r := by
  have hfirst : Run deliveryOnly (fun _ g => g) Alone unscraped firstScraped :=
    .tail (.tail (.tail .refl (.began 0 rfl fun _ => rfl)) step_firstRead) (.rendered rfl (deliveryScrape_settled _))
  have halone : Alone firstScraped := by
    intro render
    simp only [firstScraped, Scrapes.finish, firstRead, Scrapes.collect, Scrapes.start, unscraped, Scrapes.init,
      Function.update_idem, Function.update_apply, ite_self]
  have hrun : Run deliveryOnly (fun _ g => g) Alone unscraped secondFailed :=
    .tail (.tail (.tail hfirst (.began 1 (halone 1) halone)) (.collected rfl List.mem_cons_self rfl _))
      (.rendered rfl (deliveryScrape_settled _))
  obtain ⟨hsettled, hown⟩ := scrape_reportsOwn hrun _ List.mem_cons_self
  exact ⟨_, List.mem_cons_self, by decide +kernel, by decide +kernel, by decide +kernel, hsettled, hown⟩

/-- Two scrapers overlap: the second empties the gauge the first has filled, and the first reports no depth for
    the queue its own collector has just read. -/
theorem overlapping_scrapes_lose_readings :
    Run deliveryOnly (fun _ g => g) AnyTime unscraped
      ((firstRead.start 1).finish 0 (deliveryScrape (.ok [⟨.pending, 3⟩]))) ∧
    ∃ r ∈ ((firstRead.start 1).finish 0 (deliveryScrape (.ok [⟨.pending, 3⟩]))).rendered,
      r.scrape.reading (str "delivery") .pending = some 3 ∧
      r.text.queueDepth (str "delivery", .pending) = none ∧ ¬ ReportsOwn r := by
  refine ⟨.tail (.tail (.tail (.tail .refl (.began 0 rfl trivial)) step_firstRead)
    (.began 1 rfl trivial)) (.rendered rfl (deliveryScrape_settled _)), _, List.mem_cons_self, ?_, rfl, ?_⟩
  · decide +kernel
  · intro h
    exact absurd (h (str "delivery") .pending) (by decide +kernel)

end Metrics
end NestSdk
