import NestSdk.Context.CorrelationId
import NestSdk.Js.Value
import NestSdk.Lib.Unwinding

/-!
# `Context.Ambient` — one storage for every request of the process

`CorrelationIdService` keeps its contexts in a single `AsyncLocalStorage`, shared by all the work the process does at
once, and a context is an object that `addFields` writes to. Here the storage, the objects and everything that runs are
one state, and what runs takes its steps in any order.

A `Task` is what goes on after an `await`, a timer or an entry point: the runtime hands it the store of the task that
started it. `runWith` is given a new object, as the middleware's literal is.
-/

namespace NestSdk
namespace Context

open Js Lib

/-- The own properties of `fields`. Their order is nothing that is read here. -/
abbrev Fields := Str → Option Value

structure CorrelationContext where
  correlationId : Str
  fields : Option Fields

/-- `{ ...fields, ...added }`. -/
def Fields.merge (fields : Option Fields) (added : Fields) : Fields :=
  fun name => (added name).or (fields.bind fun fields => fields name)

/-! ## The storage -/

/-- Something running: the store it was started under, and the objects of the `runWith` calls it is inside of, innermost
    first. -/
structure Task where
  inherited : Option ℕ
  entered : List ℕ

/-- `storage.getStore()`: which object, if any. -/
def Task.getStore (task : Task) : Option ℕ := task.entered.head?.or task.inherited

/-- The objects of the process, by identity, and what runs. -/
structure Process where
  contexts : ℕ → Option CorrelationContext
  tasks : ℕ → Option Task

/-- The process at its start. -/
def Process.init : Process := ⟨fun _ => none, fun _ => none⟩

namespace CorrelationIdService

def getContext (s : Process) (task : Task) : Option CorrelationContext := task.getStore.bind s.contexts

def getCorrelationId (s : Process) (task : Task) : Option Str := (getContext s task).map (·.correlationId)

/-- The `randomUUID` is discarded when there is an id. -/
def getCorrelationIdOrGenerate (s : Process) (task : Task) (randomUUID : Str) : Str :=
  (getCorrelationId s task).getD randomUUID

/-- The objects afterwards: nothing happens outside a context. -/
def addFields (s : Process) (task : Task) (fields : Fields) : ℕ → Option CorrelationContext :=
  match task.getStore with
  | none => s.contexts
  | some ref => Function.update s.contexts ref
      ((s.contexts ref).map fun context => { context with fields := some (Fields.merge context.fields fields) })

end CorrelationIdService

/-! ## What runs -/

/-- What a task does, with what it is answered. -/
inductive Operation
  | arrives
  | starts (child : ℕ)
  | runWith (ref : ℕ) (context : CorrelationContext)
  | returns
  | getContext (answer : Option CorrelationContext)
  | getCorrelationId (answer : Option Str)
  | getCorrelationIdOrGenerate (randomUUID answer : Str)
  | addFields (fields : Fields)

structure Event where
  task : ℕ
  act : Operation

open CorrelationIdService in
/-- One step of one task. A callback that throws returns as well. -/
inductive Step : Process → Event → Process → Prop
  | arrives {s : Process} {k : ℕ} (hfree : s.tasks k = none) :
      Step s ⟨k, .arrives⟩ { s with tasks := Function.update s.tasks k (some ⟨none, []⟩) }
  | starts {s : Process} {k child : ℕ} {task : Task} (htask : s.tasks k = some task) (hfree : s.tasks child = none) :
      Step s ⟨k, .starts child⟩ { s with tasks := Function.update s.tasks child (some ⟨task.getStore, []⟩) }
  | runWith {s : Process} {k ref : ℕ} {task : Task} {context : CorrelationContext} (htask : s.tasks k = some task)
      (hnew : s.contexts ref = none) :
      Step s ⟨k, .runWith ref context⟩
        ⟨Function.update s.contexts ref (some context),
          Function.update s.tasks k (some { task with entered := ref :: task.entered })⟩
  | returns {s : Process} {k ref : ℕ} {inherited : Option ℕ} {entered : List ℕ}
      (htask : s.tasks k = some ⟨inherited, ref :: entered⟩) :
      Step s ⟨k, .returns⟩ { s with tasks := Function.update s.tasks k (some ⟨inherited, entered⟩) }
  | getContext {s : Process} {k : ℕ} {task : Task} (htask : s.tasks k = some task) :
      Step s ⟨k, .getContext (getContext s task)⟩ s
  | getCorrelationId {s : Process} {k : ℕ} {task : Task} (htask : s.tasks k = some task) :
      Step s ⟨k, .getCorrelationId (getCorrelationId s task)⟩ s
  | getCorrelationIdOrGenerate {s : Process} {k : ℕ} {task : Task} {randomUUID : Str}
      (htask : s.tasks k = some task) :
      Step s ⟨k, .getCorrelationIdOrGenerate randomUUID (getCorrelationIdOrGenerate s task randomUUID)⟩ s
  | addFields {s : Process} {k : ℕ} {task : Task} {fields : Fields} (htask : s.tasks k = some task) :
      Step s ⟨k, .addFields fields⟩ { s with contexts := addFields s task fields }

/-- What the process did since its start. -/
abbrev Ran (events : List Event) (s : Process) : Prop := Trace Step Process.init events s

/-! ## Units of work -/

variable {υ : Type}

/-- A division of the tasks into units of work: what a task starts is of its unit. -/
def Respects (unit : ℕ → υ) (event : Event) : Prop :=
  ∀ child, event.act = .starts child → unit child = unit event.task

/-- The objects a task can ever see as its store. -/
def Task.refs (task : Task) : List ℕ := task.entered ++ task.inherited.toList

theorem Task.getStore_mem {task : Task} {ref : ℕ} (h : task.getStore = some ref) : ref ∈ task.refs := by
  obtain ⟨inherited, entered⟩ := task
  cases entered with
  | nil =>
      have hinherited : inherited = some ref := h
      rw [hinherited]
      exact List.mem_singleton.mpr rfl
  | cons first entered =>
      have hfirst : first = ref := Option.some.inj h
      rw [hfirst]
      exact List.mem_append_left _ List.mem_cons_self

/-- An object of the process is held by the tasks of one unit only. -/
structure Apart (unit : ℕ → υ) (s : Process) : Prop where
  made : ∀ {k task ref}, s.tasks k = some task → ref ∈ task.refs → s.contexts ref ≠ none
  held : ∀ {k k' task task' ref}, s.tasks k = some task → s.tasks k' = some task' → ref ∈ task.refs →
    ref ∈ task'.refs → unit k = unit k'

theorem apart_init (unit : ℕ → υ) : Apart unit Process.init where
  made := fun h _ => by cases h
  held := fun h _ _ _ => by cases h

/-- A task takes on objects its unit held already, or one that is new. -/
theorem Apart.update {unit : ℕ → υ} {s : Process} (h : Apart unit s) {contexts : ℕ → Option CorrelationContext} {k : ℕ}
    {task : Task} (hgrow : ∀ ref, s.contexts ref ≠ none → contexts ref ≠ none)
    (hrefs : ∀ ref ∈ task.refs, contexts ref ≠ none ∧ (s.contexts ref ≠ none →
      ∃ k' task', s.tasks k' = some task' ∧ ref ∈ task'.refs ∧ unit k' = unit k)) :
    Apart unit ⟨contexts, Function.update s.tasks k (some task)⟩ := by
  have hcases : ∀ {j held}, Function.update s.tasks k (some task) j = some held →
      (j = k ∧ held = task) ∨ s.tasks j = some held := by
    intro j held hj
    by_cases hjk : j = k
    · rw [hjk, Function.update_self] at hj
      exact .inl ⟨hjk, (Option.some.inj hj).symm⟩
    · rw [Function.update_of_ne hjk] at hj
      exact .inr hj
  -- the new task against one that was there
  have hnew : ∀ {j held ref}, s.tasks j = some held → ref ∈ task.refs → ref ∈ held.refs → unit k = unit j := by
    intro j held ref hj href hheld
    obtain ⟨k', task', hk', href', hunit⟩ := (hrefs ref href).2 (h.made hj hheld)
    rw [← hunit]
    exact h.held hk' hj href' hheld
  constructor
  · intro j held ref hj href
    obtain ⟨-, rfl⟩ | hj := hcases hj
    · exact (hrefs ref href).1
    · exact hgrow ref (h.made hj href)
  · intro i j held held' ref hi hj href href'
    obtain ⟨rfl, rfl⟩ | hold := hcases hi
    · obtain ⟨rfl, rfl⟩ | hold' := hcases hj
      · rfl
      · exact hnew hold' href href'
    · obtain ⟨rfl, rfl⟩ | hold' := hcases hj
      · exact (hnew hold href' href).symm
      · exact h.held hold hold' href href'

/-- Writing to an object makes none. -/
theorem addFields_eq_none {s : Process} {task : Task} {fields : Fields} {ref : ℕ} :
    CorrelationIdService.addFields s task fields ref = none ↔ s.contexts ref = none := by
  unfold CorrelationIdService.addFields
  cases task.getStore with
  | none => rfl
  | some own =>
      by_cases href : ref = own
      · subst href
        simp
      · simp [Function.update_of_ne href]

/-- **Objects stay within their unit.** -/
theorem Apart.step {unit : ℕ → υ} {s s' : Process} {event : Event} (h : Apart unit s) (hstep : Step s event s')
    (hrespects : Respects unit event) : Apart unit s' := by
  cases hstep with
  | arrives hfree =>
      apply h.update fun ref href => href
      intro ref href
      cases href
  | @starts k child task htask hfree =>
      apply h.update fun ref href => href
      intro ref href
      have hown : ref ∈ task.refs := Task.getStore_mem (Option.mem_toList.mp href)
      exact ⟨h.made htask hown, fun _ => ⟨k, task, htask, hown, (hrespects child rfl).symm⟩⟩
  | @runWith k ref task context htask hnew =>
      have hgrow : ∀ r, s.contexts r ≠ none → Function.update s.contexts ref (some context) r ≠ none := by
        intro r hr
        by_cases hrr : r = ref
        · rw [hrr, Function.update_self]
          exact Option.some_ne_none context
        · rwa [Function.update_of_ne hrr]
      apply h.update hgrow
      intro r hr
      obtain rfl | hr := List.mem_cons.mp hr
      · rw [Function.update_self]
        exact ⟨Option.some_ne_none context, fun hmade => absurd hnew hmade⟩
      · exact ⟨hgrow r (h.made htask hr), fun _ => ⟨k, task, htask, hr, rfl⟩⟩
  | @returns k ref inherited entered htask =>
      apply h.update fun ref href => href
      intro r hr
      have hown : r ∈ (⟨inherited, ref :: entered⟩ : Task).refs := List.mem_cons_of_mem ref hr
      exact ⟨h.made htask hown, fun _ => ⟨k, _, htask, hown, rfl⟩⟩
  | getContext htask => exact h
  | getCorrelationId htask => exact h
  | getCorrelationIdOrGenerate htask => exact h
  | @addFields k task fields htask =>
      constructor
      · intro j held ref hj href
        rw [Ne, addFields_eq_none]
        exact h.made hj href
      · intro i j held held' ref hi hj href href'
        exact h.held hi hj href href'

end Context
end NestSdk
