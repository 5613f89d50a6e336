import NestSdk.Metrics.Service

/-!
# `Metrics.Sources` — what a failing source leaves behind

`refreshSources` isolates a source that throws: the `render` completes whatever the sources and collectors do.
It does nothing to the source's gauges, so what a scrape reports of a source is what the source has written
since it was registered, whether or not its `refresh` has just thrown.
-/

namespace NestSdk
namespace Metrics

open Js Lib

variable {L W : Type}

/-- The source's `refresh` threw in this scrape. -/
def Threw (r : Rendered L W) (i : Nat) : Prop := ∃ error, r.scrape.refreshed i = some (.error error)

/-- **A failing source leaves nothing stale:** no series of a source whose `refresh` threw. -/
def NoneStale (reg : Registered) (r : Rendered L W) : Prop :=
  ∀ i < reg.sources.length, Threw r i → r.text.sources i = Gauge.empty

/-- The writes of a source, one after another. -/
def applyAll (write : W → Gauge L → Gauge L) (writes : List W) (g : Gauge L) : Gauge L :=
  writes.foldl (fun g w => write w g) g

/-- The source has itself removed every series its gauges had or were given, before it threw. -/
def CleansUp (reg : Registered) (write : W → Gauge L → Gauge L) (sources : Nat → Gauge L)
    (r : Rendered L W) : Prop :=
  ∀ i < reg.sources.length, Threw r i → applyAll write (r.written i) (sources i) = Gauge.empty

/-- **The `render` completes,** however what it still awaits comes back: the collectors as `collects` says and
    the sources as `refreshes` says. -/
def Completes (reg : Registered) (write : W → Gauge L → Gauge L) (Begins : Scrapes L W → Prop)
    (p : Scrapes L W) (s : Scrape) : Prop :=
  ∀ (collects : Str → Collected) (refreshes : Nat → Refreshed),
    ∃ (p' : Scrapes L W) (r : Rendered L W), Run reg write Begins p p' ∧ r ∈ p'.rendered ∧
      (∀ queue ∈ reg.collectors, r.scrape.collected queue = some ((s.collected queue).getD (collects queue))) ∧
      ∀ i < reg.sources.length, r.scrape.refreshed i = some ((s.refreshed i).getD (refreshes i))

/-! ## Every render completes -/

section Completes

variable {reg : Registered} {write : W → Gauge L → Gauge L} {Begins : Scrapes L W → Prop}

/-- **Whatever a `render` awaits can come back,** one after another: by induction on a list of what is awaited.
    `back` is what has come back of it and `rest` what the `render` awaits besides, which stays as it is; where one
    step brings back one of them, a run brings back all that were pending. -/
theorem bring_back_all {ι V K : Type} [DecidableEq ι] (back : Scrape → ι → Option V) (rest : Scrape → K)
    (values : ι → V) {render : Nat} (awaited : List ι)
    (hstep : ∀ {p : Scrapes L W} {s : Scrape}, p.inProgress render = some s → ∀ i ∈ awaited, back s i = none →
      ∃ (p' : Scrapes L W) (s' : Scrape), Step reg write Begins p p' ∧ p'.inProgress render = some s' ∧
        rest s' = rest s ∧ back s' = Function.update (back s) i (some (values i)))
    {p : Scrapes L W} {s : Scrape} (hrender : p.inProgress render = some s) :
    ∃ (p' : Scrapes L W) (s' : Scrape), Run reg write Begins p p' ∧ p'.inProgress render = some s' ∧
      rest s' = rest s ∧ (∀ i value, back s i = some value → back s' i = some value) ∧
      ∀ i ∈ awaited, back s' i = some ((back s i).getD (values i)) := by
  induction awaited generalizing p s with
  | nil => exact ⟨p, s, .refl, hrender, rfl, fun _ _ h => h, by simp⟩
  | cons i awaited ih =>
      have hlater := @ih fun hp j hj => hstep hp j (List.mem_cons_of_mem _ hj)
      cases hback : back s i with
      | some value =>
          -- it had come back before, and what has come back stays
          obtain ⟨p', s', hrun, hrender', hrest, hkept, hall⟩ := hlater hrender
          refine ⟨p', s', hrun, hrender', hrest, hkept, ?_⟩
          intro j hj
          rcases List.mem_cons.mp hj with rfl | hj
          · rw [hkept j value hback, hback, Option.getD_some]
          · exact hall j hj
      | none =>
          obtain ⟨p₁, s₁, hfirst, hrender₁, hrest₁, hback₁⟩ := hstep hrender i List.mem_cons_self hback
          obtain ⟨p', s', hrun, hrender', hrest, hkept, hall⟩ := hlater hrender₁
          have hother : ∀ j, j ≠ i → back s₁ j = back s j := by
            intro j hj
            rw [hback₁, Function.update_of_ne hj]
          have hfound : back s' i = some (values i) := hkept i (values i) (by rw [hback₁, Function.update_self])
          refine ⟨p', s', .head hfirst hrun, hrender', hrest.trans hrest₁, ?_, ?_⟩
          · intro j value hvalue
            have hj : j ≠ i := fun h => by rw [h, hback] at hvalue; cases hvalue
            exact hkept j value ((hother j hj).trans hvalue)
          · intro j hj
            by_cases hji : j = i
            · subst hji
              rw [hfound, hback, Option.getD_none]
            · rw [hall j ((List.mem_cons.mp hj).resolve_left hji), hother j hji]

/-- The collectors that have not come back do. -/
theorem collect_all (collects : Str → Collected) {p : Scrapes L W} {render : Nat} {s : Scrape}
    (hrender : p.inProgress render = some s) :
    ∃ (p' : Scrapes L W) (s' : Scrape), Run reg write Begins p p' ∧ p'.inProgress render = some s' ∧
      s'.refreshed = s.refreshed ∧ s'.rejected = s.rejected ∧
      ∀ queue ∈ reg.collectors, s'.collected queue = some ((s.collected queue).getD (collects queue)) := by
  obtain ⟨p', s', hrun, hrender', hrest, -, hcollected⟩ :=
    bring_back_all Scrape.collected (fun s => (s.refreshed, s.rejected)) collects reg.collectors
      (fun {p s} hrender queue hqueue hpending =>
        ⟨p.collect render s queue (collects queue),
          { s with collected := Function.update s.collected queue (some (collects queue)) },
          .collected hrender hqueue hpending (collects queue), p.collect_inProgress render s queue _, rfl, rfl⟩) hrender
  obtain ⟨hrefreshed, hrejected⟩ := Prod.mk.inj hrest
  exact ⟨p', s', hrun, hrender', hrefreshed, hrejected, hcollected⟩

/-- And so do the sources. -/
theorem refresh_all (refreshes : Nat → Refreshed) {p : Scrapes L W} {render : Nat} {s : Scrape}
    (hrender : p.inProgress render = some s) :
    ∃ (p' : Scrapes L W) (s' : Scrape), Run reg write Begins p p' ∧ p'.inProgress render = some s' ∧
      s'.collected = s.collected ∧ s'.rejected = s.rejected ∧
      ∀ i < reg.sources.length, s'.refreshed i = some ((s.refreshed i).getD (refreshes i)) := by
  obtain ⟨p', s', hrun, hrender', hrest, -, hrefreshed⟩ :=
    bring_back_all Scrape.refreshed (fun s => (s.collected, s.rejected)) refreshes (List.range reg.sources.length)
      (fun {p s} hrender i hi hpending =>
        have hsource : i < reg.sources.length := List.mem_range.mp hi
        ⟨p.refresh render s i reg.sources[i] (refreshes i),
          { s with refreshed := Function.update s.refreshed i (some (refreshes i)) },
          .refreshed hrender (List.getElem?_eq_getElem hsource) hpending (refreshes i),
          p.refresh_inProgress render s i _ _, rfl, rfl⟩) hrender
  obtain ⟨hcollected, hrejected⟩ := Prod.mk.inj hrest
  exact ⟨p', s', hrun, hrender', hcollected, hrejected, fun i hi => hrefreshed i (List.mem_range.mpr hi)⟩

/-- No `render` in progress was rejected. -/
def Unrejected (p : Scrapes L W) : Prop := ∀ render s, p.inProgress render = some s → s.rejected = none

/-- Where one `render` goes on without an exception, none is rejected. -/
theorem Unrejected.update {p : Scrapes L W} (h : Unrejected p) {render : Nat} {next : Option Scrape}
    (hnext : ∀ s, next = some s → s.rejected = none) {render' : Nat} {s : Scrape}
    (hs : Function.update p.inProgress render next render' = some s) : s.rejected = none := by
  by_cases hsame : render' = render
  · subst hsame
    rw [Function.update_self] at hs
    exact hnext s hs
  · rw [Function.update_of_ne hsame] at hs
    exact h render' s hs

/-- **No step rejects a `render`,** as both callbacks catch whatever is thrown. -/
theorem Unrejected.step {p p' : Scrapes L W} (h : Unrejected p) (hstep : Step reg write Begins p p') :
    Unrejected p' := by
  cases hstep with
  | began render hfree hbegins =>
      intro render' s hs
      refine h.update ?_ hs
      rintro s ⟨⟩
      rfl
  | @collected render s hrender queue hqueue hpending collected =>
      -- whatever came back, the `render` goes on
      rw [Scrapes.collect_eq]
      intro render' s' hs
      refine h.update ?_ hs
      rintro s' ⟨⟩
      exact h render s hrender
  | wrote hsource w => exact h
  | @refreshed render s hrender i name hsource hpending refreshed =>
      rw [Scrapes.refresh_eq]
      intro render' s' hs
      refine h.update ?_ hs
      rintro s' ⟨⟩
      exact h render s hrender
  | rendered hrender hsettled =>
      intro render' s hs
      refine h.update ?_ hs
      intro s hnone
      cases hnone

theorem unrejected_of_run {sources : Nat → Gauge L} {p : Scrapes L W}
    (h : Run reg write Begins (Scrapes.init sources) p) : Unrejected p := by
  induction h with
  | refl =>
      intro render s hnone
      cases hnone
  | tail _ hstep ih => exact ih.step hstep

/-- **A `render` in progress completes, whatever fails,** unless it was rejected. -/
theorem completes {p : Scrapes L W} {render : Nat} {s : Scrape} (hrender : p.inProgress render = some s)
    (hunrejected : s.rejected = none) : Completes reg write Begins p s := by
  intro collects refreshes
  obtain ⟨p₁, s₁, hrun₁, hrender₁, hrefreshed₁, hrejected₁, hcollected₁⟩ :=
    collect_all collects hrender
  obtain ⟨p₂, s₂, hrun₂, hrender₂, hcollected₂, hrejected₂, hrefreshed₂⟩ :=
    refresh_all refreshes hrender₁
  have hnone : s₂.rejected = none := (hrejected₂.trans hrejected₁).trans hunrejected
  have hcollected : ∀ queue ∈ reg.collectors,
      s₂.collected queue = some ((s.collected queue).getD (collects queue)) := by
    intro queue hqueue
    rw [hcollected₂, hcollected₁ queue hqueue]
  have hrefreshed : ∀ i < reg.sources.length,
      s₂.refreshed i = some ((s.refreshed i).getD (refreshes i)) := by
    intro i hi
    rw [hrefreshed₂ i hi, hrefreshed₁]
  have hsettled : s₂.Settled reg :=
    ⟨fun queue hqueue => by simp [hcollected queue hqueue], fun i hi => by simp [hrefreshed i hi]⟩
  refine ⟨p₂.finish render s₂, ⟨s₂, p₂.service.metrics, p₂.written⟩,
    (hrun₁.trans hrun₂).tail (.rendered hrender₂ hsettled), ?_, hcollected, hrefreshed⟩
  simp only [Scrapes.finish, hnone, List.mem_cons_self]

end Completes

/-! ## What a scrape reports of a source -/

/-- What the sources' gauges hold, and what each text reports of them, is what the sources have written. -/
structure Written (write : W → Gauge L → Gauge L) (sources : Nat → Gauge L) (p : Scrapes L W) : Prop where
  service : ∀ i, p.service.sources i = applyAll write (p.written i) (sources i)
  rendered : ∀ r ∈ p.rendered, ∀ i, r.text.sources i = applyAll write (r.written i) (sources i)

section Written

variable {reg : Registered} {write : W → Gauge L → Gauge L} {Begins : Scrapes L W → Prop}
  {sources : Nat → Gauge L}

/-- Neither the outcome of a collector nor that of a source touches a source's gauges. -/
theorem refreshOne_sources (m : MetricsService L) (queue : Str) (collected : Collected) :
    (MetricsService.after (MetricsService.refreshOne queue collected) m).sources = m.sources := by
  cases collected with
  | ok readings => rfl
  | error error => rfl

theorem refreshSource_sources (m : MetricsService L) (name : Str) (refreshed : Refreshed) :
    (MetricsService.after (MetricsService.refreshSource name refreshed) m).sources = m.sources := by
  cases refreshed with
  | ok u => rfl
  | error error => rfl

theorem Written.step {p p' : Scrapes L W} (h : Written write sources p)
    (hstep : Step reg write Begins p p') : Written write sources p' := by
  cases hstep with
  | began render hfree hbegins => exact ⟨h.service, h.rendered⟩
  | collected hrender hqueue hpending collected =>
      refine ⟨?_, h.rendered⟩
      intro i
      rw [Scrapes.collect_eq, refreshOne_sources]
      exact h.service i
  | @wrote i hsource w =>
      refine ⟨?_, h.rendered⟩
      intro j
      simp only [Scrapes.writeSource, Function.update_apply]
      split
      · rename_i heq
        rw [applyAll, List.foldl_concat, h.service, applyAll, heq]
      · exact h.service j
  | refreshed hrender hsource hpending refreshed =>
      refine ⟨?_, h.rendered⟩
      intro i
      rw [Scrapes.refresh_eq, refreshSource_sources]
      exact h.service i
  | rendered hrender hsettled =>
      refine ⟨h.service, ?_⟩
      intro r hr
      obtain rfl | hr := Scrapes.mem_finish hr
      · exact h.service
      · exact h.rendered r hr

theorem written_of_run {p : Scrapes L W} (h : Run reg write Begins (Scrapes.init sources) p) :
    Written write sources p := by
  induction h with
  | refl => exact ⟨fun _ => rfl, fun _ h => absurd h List.not_mem_nil⟩
  | tail _ hstep ih => exact ih.step hstep

/-- **A scrape survives its sources, and forgets none of them.** In every run each `render` completes; and a text
    has no series of the sources that threw exactly when those sources had removed their series themselves. -/
theorem sources_isolated {p : Scrapes L W} (h : Run reg write Begins (Scrapes.init sources) p) :
    (∀ render s, p.inProgress render = some s → Completes reg write Begins p s) ∧
    ∀ r ∈ p.rendered, NoneStale reg r ↔ CleansUp reg write sources r := by
  refine ⟨fun render s hrender => completes hrender (unrejected_of_run h render s hrender), ?_⟩
  intro r hr
  have htext := (written_of_run h).rendered r hr
  constructor
  · intro hnone i hi hthrew
    rw [← htext i]
    exact hnone i hi hthrew
  · intro hclean i hi hthrew
    rw [htext i]
    exact hclean i hi hthrew

end Written

/-! ## A source that fails on its second scrape -/

def poolOnly : Registered := ⟨[], List.nodup_nil, [str "database-pool"]⟩

/-- The source sets its one series. -/
def writePool (value : ℚ) (g : Gauge Unit) : Gauge Unit := g.set () value

/-- A scrape whose one source came back so. -/
def poolScrape (refreshed : Refreshed) : Scrape :=
  { Scrape.init with refreshed := Function.update Scrape.init.refreshed 0 (some refreshed) }

theorem poolScrape_settled (refreshed : Refreshed) : (poolScrape refreshed).Settled poolOnly := by
  refine ⟨fun queue hqueue => absurd hqueue List.not_mem_nil, ?_⟩
  intro i hi
  obtain rfl : i = 0 := Nat.lt_one_iff.mp hi
  simp [poolScrape]

/-- Scrape 0: the source writes 5 and comes back. -/
def poolReported : Scrapes Unit ℚ :=
  (((((Scrapes.init fun _ => Gauge.empty).start 0).writeSource writePool 0 5).refresh 0 .init 0
    (str "database-pool") (.ok ())).finish 0 (poolScrape (.ok ())))

/-- Scrape 1: it throws. -/
def poolFailed : Scrapes Unit ℚ :=
  ((poolReported.start 1).refresh 1 .init 0 (str "database-pool") (.error .other)).finish 1
    (poolScrape (.error .other))

theorem run_poolFailed : Run poolOnly writePool Alone (Scrapes.init fun _ => Gauge.empty) poolFailed := by
  have hfirst : Run poolOnly writePool Alone (Scrapes.init fun _ => Gauge.empty) poolReported :=
    .tail (.tail (.tail (.tail .refl (.began 0 rfl fun _ => rfl)) (.wrote Nat.one_pos 5))
      (.refreshed rfl rfl rfl _)) (.rendered rfl (poolScrape_settled _))
  have halone : Alone poolReported := by
    intro render
    simp only [poolReported, Scrapes.finish, Scrapes.refresh, Scrapes.start, Scrapes.writeSource,
      Scrapes.init, Function.update_idem, Function.update_apply, ite_self]
  exact .tail (.tail (.tail hfirst (.began 1 (halone 1) halone)) (.refreshed rfl rfl rfl _))
    (.rendered rfl (poolScrape_settled _))

/-- The text of the scrape in which the source threw has the value of the scrape before. -/
theorem failing_source_stays :
    Run poolOnly writePool Alone (Scrapes.init fun _ => Gauge.empty) poolFailed ∧
    ∃ r ∈ poolFailed.rendered, Threw r 0 ∧ r.text.sources 0 () = some 5 ∧ ¬ NoneStale poolOnly r := by
  refine ⟨run_poolFailed, _, List.mem_cons_self, ⟨.other, rfl⟩, rfl, ?_⟩
  intro h
  exact absurd (congrFun (h 0 Nat.one_pos ⟨.other, rfl⟩) ()) (by decide +kernel)

/-- In that run every scrape completed. -/
theorem sources_isolated_failing :
    (∀ render s, poolFailed.inProgress render = some s → Completes poolOnly writePool Alone poolFailed s) ∧
    ∀ r ∈ poolFailed.rendered, NoneStale poolOnly r ↔ CleansUp poolOnly writePool (fun _ => Gauge.empty) r :=
  sources_isolated run_poolFailed

end Metrics
end NestSdk
