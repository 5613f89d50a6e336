import NestSdk.Js.Value
import NestSdk.Metrics.Sources

/-!
# `Metrics.Series` — what a scrape shows of the connection pool and of the retention sweeps

`DatabasePoolMetricSource` writes four series from one look at the pool, and `RetentionSweepMetrics` two for each sweep,
whenever one registers or completes. Scrapes overlap, and other sources and collectors come back, or fail, in between.
**`series_of_run`**: a scrape still shows the pool as it was at one moment, and of each sweep when it last completed and
how many rows it has expired in all.
-/

namespace NestSdk
namespace Metrics

open Js Lib

def MILLISECONDS_PER_SECOND : ℚ := 1000

/-! ## The connection pool -/

inductive PoolState
  | total
  | idle
  | inUse
  | waiting
deriving DecidableEq

/-- The three numbers `pg.Pool` keeps. -/
structure PoolCounts where
  total : ℚ
  idle : ℚ
  waiting : ℚ

/-- The gauge's value for a state. Connections in use are derived. -/
def PoolCounts.at (counts : PoolCounts) : PoolState → ℚ
  | .total => counts.total
  | .idle => counts.idle
  | .inUse => counts.total - counts.idle
  | .waiting => counts.waiting

def readNumber (properties : List (Str × Value)) (property : Str) : Option ℚ :=
  ((properties.lookup property).getD .undefined).asNumber

/-- The counts of `driver.master`, if it looks like a pool. An array has none of them. -/
def readPoolCounts : Value → Option PoolCounts
  | .object properties => do
      let total ← readNumber properties (str "totalCount")
      let idle ← readNumber properties (str "idleCount")
      let waiting ← readNumber properties (str "waitingCount")
      return ⟨total, idle, waiting⟩
  | _ => none

/-! ## The series -/

/-- The series of the two, and those of anybody else. -/
inductive Series
  | connections (state : PoolState)
  | lastSuccess (sweep : Str)
  | rows (sweep : Str)
  | other (label : Str)
deriving DecidableEq

/-- What writes them: a `refresh` that finds this under `driver.master`, and a sweep that registers or completes at a
    time of `Date.now()`. -/
inductive Write
  | refresh (master : Value)
  | register (sweep : Str) (now : ℚ)
  | recordSuccess (sweep : Str) (rows now : ℚ)

/-- `Counter.inc`. -/
def inc (g : Gauge Series) (labels : Series) (value : ℚ) : Gauge Series :=
  g.set labels ((g labels).getD 0 + value)

/-- `Gauge.reset` of the pool's gauge. -/
def resetConnections (g : Gauge Series) : Gauge Series
  | .connections _ => none
  | series => g series

/-- `DatabasePoolMetricSource.refresh`. -/
def refreshPool (master : Value) (g : Gauge Series) : Gauge Series :=
  match readPoolCounts master with
  | none => resetConnections g
  | some counts => (((g.set (.connections .total) counts.total).set (.connections .idle) counts.idle).set
      (.connections .inUse) (counts.total - counts.idle)).set (.connections .waiting) counts.waiting

/-- `RetentionSweepMetrics.register`. -/
def register (sweep : Str) (now : ℚ) (g : Gauge Series) : Gauge Series :=
  inc (g.set (.lastSuccess sweep) (now / MILLISECONDS_PER_SECOND)) (.rows sweep) 0

/-- `RetentionSweepMetrics.recordSuccess`. -/
def recordSuccess (sweep : Str) (rows now : ℚ) (g : Gauge Series) : Gauge Series :=
  let g := g.set (.lastSuccess sweep) (now / MILLISECONDS_PER_SECOND)
  if rows > 0 then inc g (.rows sweep) rows else g

def write : Write → Gauge Series → Gauge Series
  | .refresh master => refreshPool master
  | .register sweep now => register sweep now
  | .recordSuccess sweep rows now => recordSuccess sweep rows now

/-! ## What the writes say of one series -/

/-- What a refresh found in the pool. -/
def Write.reading : Write → Option (Option PoolCounts)
  | .refresh master => some (readPoolCounts master)
  | _ => none

/-- When the sweep registered or completed, in seconds. -/
def Write.completion (sweep : Str) : Write → Option ℚ
  | .register name now | .recordSuccess name _ now =>
      if name = sweep then some (now / MILLISECONDS_PER_SECOND) else none
  | .refresh _ => none

/-- The rows the sweep says it has expired. -/
def Write.expired (sweep : Str) : Write → Option ℚ
  | .register name _ => if name = sweep then some 0 else none
  | .recordSuccess name rows _ => if name = sweep ∧ rows > 0 then some rows else none
  | .refresh _ => none

/-- A sum, unless there is nothing to sum. -/
def total : List ℚ → Option ℚ
  | [] => none
  | values => some values.sum

theorem total_append_singleton (values : List ℚ) (value : ℚ) :
    total (values ++ [value]) = some ((total values).getD 0 + value) := by
  cases values with
  | nil => simp [total]
  | cons first values => simp [total, add_assoc]

theorem write_connections (w : Write) (g : Gauge Series) (state : PoolState) :
    write w g (.connections state) = match w.reading with
      | some reading => reading.map (·.at state)
      | none => g (.connections state) := by
  cases w with
  | refresh master =>
      show refreshPool master g (.connections state) = (readPoolCounts master).map (·.at state)
      unfold refreshPool
      cases readPoolCounts master with
      | none => rfl
      | some counts => cases state <;> simp [Gauge.set_apply, PoolCounts.at]
  | register sweep now => simp [write, register, inc, Gauge.set_apply, Write.reading]
  | recordSuccess sweep rows now =>
      by_cases hrows : rows > 0
      · simp [write, recordSuccess, inc, Gauge.set_apply, Write.reading, hrows]
      · simp [write, recordSuccess, Gauge.set_apply, Write.reading, hrows]

/-- The pool's gauge is no business of a sweep's, nor the other way round. -/
theorem refreshPool_elsewhere (master : Value) (g : Gauge Series) {series : Series}
    (h : ∀ state, series ≠ .connections state) : refreshPool master g series = g series := by
  unfold refreshPool
  cases readPoolCounts master with
  | none =>
      cases series with
      | connections state => exact absurd rfl (h state)
      | lastSuccess _ | rows _ | other _ => rfl
  | some counts => simp [Gauge.set_apply, h]

theorem write_lastSuccess (w : Write) (g : Gauge Series) (sweep : Str) :
    write w g (.lastSuccess sweep) = (w.completion sweep).or (g (.lastSuccess sweep)) := by
  cases w with
  | refresh master => exact refreshPool_elsewhere master g nofun
  | register name now =>
      by_cases hname : name = sweep
      · simp [write, register, inc, Gauge.set_apply, Write.completion, hname]
      · simp [write, register, inc, Gauge.set_apply, Write.completion, hname, Ne.symm hname]
  | recordSuccess name rows now =>
      by_cases hname : name = sweep
      · by_cases hrows : rows > 0 <;>
          simp [write, recordSuccess, inc, Gauge.set_apply, Write.completion, hname, hrows]
      · by_cases hrows : rows > 0 <;>
          simp [write, recordSuccess, inc, Gauge.set_apply, Write.completion, hname, Ne.symm hname, hrows]

theorem write_rows (w : Write) (g : Gauge Series) (sweep : Str) :
    write w g (.rows sweep) = match w.expired sweep with
      | some rows => some ((g (.rows sweep)).getD 0 + rows)
      | none => g (.rows sweep) := by
  cases w with
  | refresh master => exact refreshPool_elsewhere master g nofun
  | register name now =>
      by_cases hname : name = sweep
      · simp [write, register, inc, Gauge.set_apply, Write.expired, hname]
      · simp [write, register, inc, Gauge.set_apply, Write.expired, hname, Ne.symm hname]
  | recordSuccess name rows now =>
      by_cases hname : name = sweep
      · by_cases hrows : rows > 0 <;>
          simp [write, recordSuccess, inc, Gauge.set_apply, Write.expired, hname, hrows]
      · by_cases hrows : rows > 0 <;>
          simp [write, recordSuccess, inc, Gauge.set_apply, Write.expired, hname, Ne.symm hname, hrows]

/-- **What a list of writes leaves,** by induction from the last one. -/
theorem applyAll_series (writes : List Write) :
    (∀ state, applyAll write writes Gauge.empty (.connections state) =
      (writes.filterMap Write.reading).getLast?.join.map (·.at state)) ∧
    ∀ sweep, applyAll write writes Gauge.empty (.lastSuccess sweep) =
        (writes.filterMap (Write.completion sweep)).getLast? ∧
      applyAll write writes Gauge.empty (.rows sweep) = total (writes.filterMap (Write.expired sweep)) := by
  induction writes using List.reverseRecOn with
  | nil => exact ⟨fun _ => rfl, fun _ => ⟨rfl, rfl⟩⟩
  | append_singleton writes w ih =>
      obtain ⟨hpool, hsweeps⟩ := ih
      have happly : applyAll write (writes ++ [w]) Gauge.empty = write w (applyAll write writes Gauge.empty) := by
        simp [applyAll]
      rw [happly]
      refine ⟨fun state => ?_, fun sweep => ⟨?_, ?_⟩⟩
      · rw [write_connections, hpool, List.filterMap_append]
        cases hreading : w.reading with
        | none => simp [hreading]
        | some reading => simp [hreading]
      · rw [write_lastSuccess, (hsweeps sweep).1, List.filterMap_append]
        cases hcompletion : w.completion sweep with
        | none => simp [hcompletion]
        | some seconds => simp [hcompletion]
      · rw [write_rows, (hsweeps sweep).2, List.filterMap_append]
        cases hexpired : w.expired sweep with
        | none => simp [hexpired]
        | some rows => simp [hexpired, total_append_singleton]

/-! ## What a scrape shows -/

/-- In a sorted list the last is as late as any. -/
theorem last_reaches_iff {values : List ℚ} (hsorted : values.Pairwise (· ≤ ·)) (bound : ℚ) :
    (∃ value, values.getLast? = some value ∧ bound ≤ value) ↔ ∃ value ∈ values, bound ≤ value := by
  constructor
  · rintro ⟨value, hlast, hbound⟩
    exact ⟨value, List.mem_of_getLast? hlast, hbound⟩
  · rintro ⟨value, hmem, hbound⟩
    have hne : values ≠ [] := List.ne_nil_of_mem hmem
    refine ⟨values.getLast hne, List.getLast?_eq_some_getLast hne, ?_⟩
    exact hbound.trans (hsorted.rel_getLast hmem)

/-- **What a scrape shows of the pool and the sweeps.** In any run of any number of overlapping scrapes, with whatever
    else is registered coming back or failing as it will, each text shows: of the pool the counts of the last `refresh`
    before it and of no other, so that what is idle and what is in use make the total, and nothing if that one could not
    see the pool; of each sweep when it last completed, or registered, and the sum of what it has expired. Where the
    clock does not run backwards, an alert on the age of the gauge fires exactly if no completion is recent enough, and
    a sweep that never registered has no series. -/
theorem series_of_run {reg : Registered} {Begins : Scrapes Series Write → Prop} {p : Scrapes Series Write}
    (h : Run reg write Begins (Scrapes.init fun _ => Gauge.empty) p) {r : Rendered Series Write} (hr : r ∈ p.rendered)
    (i : Nat) :
    let shown := r.text.sources i
    let writes := r.written i
    (∀ state, shown (.connections state) = (writes.filterMap Write.reading).getLast?.join.map (·.at state)) ∧
    (∀ idle inUse, shown (.connections .idle) = some idle → shown (.connections .inUse) = some inUse →
      shown (.connections .total) = some (idle + inUse)) ∧
    ∀ sweep,
      shown (.lastSuccess sweep) = (writes.filterMap (Write.completion sweep)).getLast? ∧
      shown (.rows sweep) = total (writes.filterMap (Write.expired sweep)) ∧
      ((writes.filterMap (Write.completion sweep)).Pairwise (· ≤ ·) → ∀ bound,
        (∃ seconds, shown (.lastSuccess sweep) = some seconds ∧ bound ≤ seconds) ↔
          ∃ seconds ∈ writes.filterMap (Write.completion sweep), bound ≤ seconds) := by
  intro shown writes
  have hshown : shown = applyAll write writes Gauge.empty := (written_of_run h).rendered r hr i
  obtain ⟨hpool, hsweeps⟩ := applyAll_series writes
  rw [← hshown] at hpool hsweeps
  refine ⟨hpool, ?_, fun sweep => ⟨(hsweeps sweep).1, (hsweeps sweep).2, ?_⟩⟩
  · intro idle inUse hidle hinUse
    rw [hpool] at hidle hinUse ⊢
    obtain ⟨counts, hcounts, rfl⟩ := Option.map_eq_some_iff.mp hidle
    rw [hcounts] at hinUse ⊢
    obtain rfl := Option.some.inj hinUse
    show some counts.total = some (counts.idle + (counts.total - counts.idle))
    rw [add_sub_cancel]
  · intro hsorted bound
    rw [(hsweeps sweep).1]
    exact last_reaches_iff hsorted bound

/-! ## A sweep and a scrape -/

/-- The pool with two of its five connections idle. -/
def busyPool : Value := .object [(str "totalCount", .number 5), (str "idleCount", .number 2),
  (str "waitingCount", .number 0)]

/-- A sweep registers and completes, and a scrape refreshes the pool. -/
def sweptAndScraped : Scrapes Series Write :=
  ((((((Scrapes.init fun _ => Gauge.empty).writeSource write 0 (.register (str "tokens") 1000)).writeSource write 0
    (.recordSuccess (str "tokens") 7 5000)).start 0).writeSource write 0 (.refresh busyPool)).refresh 0 .init 0
    (str "database-pool") (.ok ())).finish 0 (poolScrape (.ok ()))

/-- Its text shows three connections in use, and seven rows expired. -/
theorem series_of_run_swept :
    ∃ r ∈ sweptAndScraped.rendered, r.text.sources 0 (.connections .inUse) = some 3 ∧
      r.text.sources 0 (.lastSuccess (str "tokens")) = some 5 ∧ r.text.sources 0 (.rows (str "tokens")) = some 7 := by
  have hrun : Run poolOnly write AnyTime (Scrapes.init fun _ => Gauge.empty) sweptAndScraped :=
    .tail (.tail (.tail (.tail (.tail (.tail .refl (.wrote Nat.one_pos _)) (.wrote Nat.one_pos _))
      (.began 0 rfl trivial)) (.wrote Nat.one_pos _)) (.refreshed rfl rfl rfl _)) (.rendered rfl (poolScrape_settled _))
  obtain ⟨hpool, -, hsweeps⟩ := series_of_run hrun List.mem_cons_self 0
  obtain ⟨hlast, hrows, -⟩ := hsweeps (str "tokens")
  refine ⟨_, List.mem_cons_self, ?_, ?_, ?_⟩
  · rw [hpool]
    decide +kernel
  · rw [hlast]
    decide +kernel
  · rw [hrows]
    decide +kernel

end Metrics
end NestSdk
