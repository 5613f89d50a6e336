import NestSdk.Context.Ambient

/-!
# `Context.Isolated` — every unit of work keeps its own context

A storage shared by the whole process would be of no use if a unit of work could read or write what another one put
there. It cannot: `Like` relates the process to the same process with all other units left out, and both the steps of
the others and the unit's own steps keep it.

* **`contexts_isolated`**: in any order of steps, each unit does and reads what it would do and read alone.
* **`request_sees_own`**: a request that comes through the middleware reads, wherever it goes on, its own id and what it
  has added itself.
-/

namespace NestSdk
namespace Context

open Js Lib

variable {υ : Type} {unit : ℕ → υ} {u : υ} {s s' t : Process} {event : Event}

/-! ## The steps of the others -/

/-- No object is lost. -/
theorem contexts_of_step (hstep : Step s event s') {ref : ℕ} (h : s'.contexts ref = none) : s.contexts ref = none := by
  cases hstep with
  | @runWith k made task context htask hnew =>
      by_cases href : ref = made
      · rw [href]
        exact hnew
      · have hother : Function.update s.contexts made (some context) ref = none := h
        rwa [Function.update_of_ne href] at hother
  | addFields htask => exact addFields_eq_none.mp h
  | arrives hfree => exact h
  | starts htask hfree => exact h
  | returns htask => exact h
  | getContext htask => exact h
  | getCorrelationId htask => exact h
  | getCorrelationIdOrGenerate htask => exact h

/-- A unit's tasks are changed by its own steps only. -/
theorem tasks_of_other (hstep : Step s event s') (hrespects : Respects unit event) (hother : unit event.task ≠ u)
    {k : ℕ} (hk : unit k = u) : s'.tasks k = s.tasks k := by
  have hne : ∀ {j}, unit j ≠ u → k ≠ j := fun hj hkj => hj (hkj ▸ hk)
  cases hstep with
  | arrives hfree => exact Function.update_of_ne (hne hother) _ _
  | starts htask hfree => exact Function.update_of_ne (hne ((hrespects _ rfl).symm ▸ hother)) _ _
  | runWith htask hnew => exact Function.update_of_ne (hne hother) _ _
  | returns htask => exact Function.update_of_ne (hne hother) _ _
  | getContext htask => rfl
  | getCorrelationId htask => rfl
  | getCorrelationIdOrGenerate htask => rfl
  | addFields htask => rfl

/-- What a unit holds is written to by its own steps only. -/
theorem contexts_of_other (hapart : Apart unit s) (hstep : Step s event s') (hother : unit event.task ≠ u) {k ref : ℕ}
    {task : Task} (hk : unit k = u) (htask : s.tasks k = some task) (href : ref ∈ task.refs) :
    s'.contexts ref = s.contexts ref := by
  cases hstep with
  | @runWith j made other context hother' hnew =>
      apply Function.update_of_ne
      rintro rfl
      exact hapart.made htask href hnew
  | @addFields j other fields hother' =>
      show CorrelationIdService.addFields s other fields ref = s.contexts ref
      unfold CorrelationIdService.addFields
      cases hstore : other.getStore with
      | none => rfl
      | some own =>
          apply Function.update_of_ne
          rintro rfl
          exact hother ((hapart.held hother' htask (Task.getStore_mem hstore) href).trans hk)
  | arrives hfree => rfl
  | starts htask hfree => rfl
  | returns htask => rfl
  | getContext htask => rfl
  | getCorrelationId htask => rfl
  | getCorrelationIdOrGenerate htask => rfl

/-! ## The process with the others left out -/

/-- `t` is the process `s` as far as the unit `u` can see it. -/
structure Like (unit : ℕ → υ) (u : υ) (s t : Process) : Prop where
  apart : Apart unit s
  tasks : ∀ {k}, unit k = u → t.tasks k = s.tasks k
  contexts : ∀ {k task ref}, unit k = u → s.tasks k = some task → ref ∈ task.refs → t.contexts ref = s.contexts ref
  new : ∀ {ref}, s.contexts ref = none → t.contexts ref = none

theorem like_init (unit : ℕ → υ) (u : υ) : Like unit u Process.init Process.init where
  apart := apart_init unit
  tasks := fun _ => rfl
  contexts := fun _ _ _ => rfl
  new := fun h => h

/-- The unit is answered the same. -/
theorem Like.getContext (h : Like unit u s t) {k : ℕ} {task : Task} (hk : unit k = u) (htask : s.tasks k = some task) :
    CorrelationIdService.getContext t task = CorrelationIdService.getContext s task := by
  unfold CorrelationIdService.getContext
  cases hstore : task.getStore with
  | none => rfl
  | some ref => exact h.contexts hk htask (Task.getStore_mem hstore)

/-- The unit's own change, made to both. -/
theorem Like.update (h : Like unit u s t) {k : ℕ} {task : Task} {contexts contexts' : ℕ → Option CorrelationContext}
    (hapart : Apart unit ⟨contexts, Function.update s.tasks k (some task)⟩)
    (hsame : ∀ ref, t.contexts ref = s.contexts ref → contexts' ref = contexts ref)
    (hrefs : ∀ ref ∈ task.refs, unit k = u → contexts' ref = contexts ref)
    (hnew : ∀ ref, contexts ref = none → contexts' ref = none) :
    Like unit u ⟨contexts, Function.update s.tasks k (some task)⟩
      ⟨contexts', Function.update t.tasks k (some task)⟩ where
  apart := hapart
  new := fun {ref} href => hnew ref href
  tasks := by
    intro j hj
    show Function.update t.tasks k (some task) j = Function.update s.tasks k (some task) j
    by_cases hjk : j = k
    · rw [hjk, Function.update_self, Function.update_self]
    · rw [Function.update_of_ne hjk, Function.update_of_ne hjk]
      exact h.tasks hj
  contexts := by
    intro j held ref hj hheld href
    have hlooked : Function.update s.tasks k (some task) j = some held := hheld
    by_cases hjk : j = k
    · rw [hjk, Function.update_self] at hlooked
      obtain rfl := Option.some.inj hlooked
      exact hrefs ref href (hjk ▸ hj)
    · rw [Function.update_of_ne hjk] at hlooked
      exact hsame ref (h.contexts hj hlooked href)

/-- **A unit and the others.** -/
theorem unwinding (unit : ℕ → υ) (u : υ) :
    Unwinding Step (Respects unit) (fun event => unit event.task) u (Like unit u) where
  others := by
    intro s s' t event hstep hrespects hother h
    have hback : ∀ {k task}, unit k = u → s'.tasks k = some task → s.tasks k = some task := fun hk htask =>
      (tasks_of_other hstep hrespects hother hk).symm.trans htask
    constructor
    · exact h.apart.step hstep hrespects
    · intro k hk
      rw [tasks_of_other hstep hrespects hother hk]
      exact h.tasks hk
    · intro k task ref hk htask href
      rw [contexts_of_other h.apart hstep hother hk (hback hk htask) href]
      exact h.contexts hk (hback hk htask) href
    · intro ref href
      exact h.new (contexts_of_step hstep href)
  own := by
    intro s s' t event hstep hrespects hown h
    have hapart := h.apart.step hstep hrespects
    cases hstep with
    | arrives hfree =>
        refine ⟨_, .arrives ((h.tasks hown).trans hfree), h.update hapart (fun _ hsame => hsame) ?_ fun _ => h.new⟩
        intro ref href
        cases href
    | @starts k child task htask hfree =>
        refine ⟨_, .starts ((h.tasks hown).trans htask) ((h.tasks ((hrespects child rfl).trans hown)).trans hfree),
          h.update hapart (fun _ hsame => hsame) ?_ fun _ => h.new⟩
        intro ref href _
        exact h.contexts hown htask (Task.getStore_mem (Option.mem_toList.mp href))
    | @runWith k ref task context htask hnew =>
        have hboth : ∀ r, t.contexts r = s.contexts r → Function.update t.contexts ref (some context) r
            = Function.update s.contexts ref (some context) r := by
          intro r hr
          by_cases hrr : r = ref
          · rw [hrr, Function.update_self, Function.update_self]
          · rw [Function.update_of_ne hrr, Function.update_of_ne hrr, hr]
        refine ⟨_, .runWith ((h.tasks hown).trans htask) (h.new hnew), h.update hapart hboth ?_ ?_⟩
        · intro r hr _
          obtain rfl | hr := List.mem_cons.mp hr
          · rw [Function.update_self, Function.update_self]
          · exact hboth r (h.contexts hown htask hr)
        · intro r hr
          by_cases hrr : r = ref
          · rw [hrr, Function.update_self] at hr
            cases hr
          · rw [Function.update_of_ne hrr] at hr ⊢
            exact h.new hr
    | @returns k ref inherited entered htask =>
        refine ⟨_, .returns ((h.tasks hown).trans htask), h.update hapart (fun _ hsame => hsame) ?_ fun _ => h.new⟩
        intro r hr _
        exact h.contexts hown htask (List.mem_cons_of_mem ref hr)
    | @getContext k task htask =>
        rw [← h.getContext hown htask]
        exact ⟨t, .getContext ((h.tasks hown).trans htask), h⟩
    | @getCorrelationId k task htask =>
        have hanswer : CorrelationIdService.getCorrelationId t task = CorrelationIdService.getCorrelationId s task := by
          unfold CorrelationIdService.getCorrelationId
          rw [h.getContext hown htask]
        rw [← hanswer]
        exact ⟨t, .getCorrelationId ((h.tasks hown).trans htask), h⟩
    | @getCorrelationIdOrGenerate k task randomUUID htask =>
        have hanswer : CorrelationIdService.getCorrelationIdOrGenerate t task randomUUID
            = CorrelationIdService.getCorrelationIdOrGenerate s task randomUUID := by
          unfold CorrelationIdService.getCorrelationIdOrGenerate CorrelationIdService.getCorrelationId
          rw [h.getContext hown htask]
        rw [← hanswer]
        exact ⟨t, .getCorrelationIdOrGenerate ((h.tasks hown).trans htask), h⟩
    | @addFields k task fields htask =>
        have hwritten : ∀ ref, t.contexts ref = s.contexts ref → CorrelationIdService.addFields t task fields ref
            = CorrelationIdService.addFields s task fields ref := by
          intro ref hsame
          unfold CorrelationIdService.addFields
          cases task.getStore with
          | none => exact hsame
          | some own =>
              by_cases href : ref = own
              · subst href
                simp only [Function.update_self, hsame]
              · simp only [Function.update_of_ne href, hsame]
        refine ⟨_, .addFields ((h.tasks hown).trans htask), hapart, h.tasks, ?_, ?_⟩
        · intro j held ref hj hheld href
          exact hwritten ref (h.contexts hj hheld href)
        · intro ref href
          exact addFields_eq_none.mpr (h.new (addFields_eq_none.mp href))

/-- Two requests at once: the first goes on in a task of its own and adds a field there, while the second, with another
    id, runs. -/
def twoRequests : List Event :=
  [⟨0, .arrives⟩, ⟨1, .arrives⟩, ⟨0, .runWith 10 ⟨str "first", none⟩⟩, ⟨1, .runWith 11 ⟨str "second", none⟩⟩,
    ⟨0, .starts 2⟩, ⟨0, .returns⟩, ⟨2, .addFields fun name => if name = str "orderId" then some (.number 7) else none⟩,
    ⟨1, .getCorrelationId (some (str "second"))⟩, ⟨2, .getCorrelationId (some (str "first"))⟩]

theorem step_getCorrelationId {k : ℕ} {task : Task} {answer : Option Str} (htask : s.tasks k = some task)
    (hanswer : CorrelationIdService.getCorrelationId s task = answer) : Step s ⟨k, .getCorrelationId answer⟩ s :=
  hanswer ▸ .getCorrelationId htask

theorem ran_twoRequests : ∃ s, Ran twoRequests s :=
  ⟨_, .cons (.arrives rfl) <| .cons (.arrives rfl) <| .cons (.runWith rfl rfl) <| .cons (.runWith rfl rfl) <|
    .cons (.starts rfl rfl) <| .cons (.returns rfl) <| .cons (.addFields rfl) <|
    .cons (step_getCorrelationId rfl rfl) <| .cons (step_getCorrelationId rfl rfl) <| .nil _⟩

/-- The tasks of the second request. -/
def ofSecond (k : ℕ) : Bool := k == 1

theorem respects_twoRequests : ∀ event ∈ twoRequests, Respects ofSecond event := by
  intro event hmem child hstarts
  simp only [twoRequests, List.mem_cons, List.not_mem_nil, or_false] at hmem
  obtain rfl | rfl | rfl | rfl | rfl | rfl | rfl | rfl | rfl := hmem <;> cases hstarts
  rfl

/-- What a request that comes through the middleware does first: it arrives, and the middleware calls `next` inside a
    context of its own, a new object with the id the rule settles on. -/
def handled (root ref : ℕ) (headers : Str → Auth.HeaderValue) (randomUUID : Str) : List Event :=
  [⟨root, .arrives⟩, ⟨root, .runWith ref ⟨(assignCorrelationId headers randomUUID).1, none⟩⟩]

/-- The fields of the request's context after these steps. -/
def added (events : List Event) : Option Fields :=
  events.foldl (fun fields event => match event.act with
    | .addFields more => some (Fields.merge fields more)
    | _ => fields) none

/-- The work of a request after its start: nothing arrives in it, and no other context is opened. -/
def Operation.within : Operation → Bool
  | .arrives | .runWith _ _ => false
  | _ => true

/-- `next` has returned to the middleware. -/
def Returned (root : ℕ) (events : List Event) : Prop := ⟨root, .returns⟩ ∈ events

/-- What a task of the request is told: the request's id, and the fields it has. -/
def Told (id : Str) (fields : Option Fields) : Operation → Prop
  | .getContext answer => answer = some ⟨id, fields⟩
  | .getCorrelationId answer => answer = some id
  | .getCorrelationIdOrGenerate _ answer => answer = id
  | _ => True

/-- The request's process: one object, and every task inside of it, but for the middleware once `next` has returned. -/
structure Inside (root ref : ℕ) (id : Str) (before : List Event) (s : Process) : Prop where
  context : s.contexts ref = some ⟨id, added before⟩
  first : ∃ task, s.tasks root = some task ∧ (¬ Returned root before → task = ⟨none, [ref]⟩)
  others : ∀ {k task}, k ≠ root → s.tasks k = some task → task = ⟨some ref, []⟩

section Request

variable {root ref : ℕ} {id : Str} {before : List Event}

/-- Whoever acts is inside the request's context. -/
theorem Inside.getStore (h : Inside root ref id before s) {k : ℕ} {task : Task} (htask : s.tasks k = some task)
    (hroot : k = root → ¬ Returned root before) : task.getStore = some ref := by
  by_cases hk : k = root
  · subst hk
    obtain ⟨held, hheld, hfirst⟩ := h.first
    obtain rfl : task = held := Option.some.inj (htask.symm.trans hheld)
    rw [hfirst (hroot rfl)]
    rfl
  · rw [h.others hk htask]
    rfl

theorem Inside.getContext (h : Inside root ref id before s) {k : ℕ} {task : Task} (htask : s.tasks k = some task)
    (hroot : k = root → ¬ Returned root before) :
    CorrelationIdService.getContext s task = some ⟨id, added before⟩ := by
  unfold CorrelationIdService.getContext
  rw [h.getStore htask hroot]
  exact h.context

theorem added_append (before : List Event) (event : Event) : added (before ++ [event]) = match event.act with
    | .addFields more => some (Fields.merge (added before) more)
    | _ => added before := List.foldl_append

theorem returned_of_append {event : Event} (h : ¬ Returned root (before ++ [event])) : ¬ Returned root before :=
  fun hbefore => h (List.mem_append_left _ hbefore)

theorem Inside.first_append (h : Inside root ref id before s) (event : Event) : ∃ task, s.tasks root = some task ∧
    (¬ Returned root (before ++ [event]) → task = ⟨none, [ref]⟩) := by
  obtain ⟨task, htask, hfirst⟩ := h.first
  exact ⟨task, htask, fun hnot => hfirst (returned_of_append hnot)⟩

/-- **A step of the request** keeps it inside its context, and is told the context's id and fields. -/
theorem Inside.step (h : Inside root ref id before s) (hstep : Step s event s') (hwithin : event.act.within = true)
    (hroot : event.task = root → ¬ Returned root before) :
    Inside root ref id (before ++ [event]) s' ∧ Told id (added before) event.act := by
  cases hstep with
  | arrives hfree => cases hwithin
  | runWith htask hnew => cases hwithin
  | @starts k child task htask hfree =>
      obtain ⟨first, hlive, hfirst⟩ := h.first_append ⟨k, .starts child⟩
      have hchild : root ≠ child := by
        rintro rfl
        exact Option.some_ne_none first (hlive.symm.trans hfree)
      refine ⟨⟨?_, ⟨first, ?_, hfirst⟩, ?_⟩, trivial⟩
      · rw [added_append]
        exact h.context
      · show Function.update s.tasks child _ root = some first
        rw [Function.update_of_ne hchild]
        exact hlive
      · intro j held hj hheld
        have hlooked : Function.update s.tasks child (some ⟨task.getStore, []⟩) j = some held := hheld
        by_cases hjchild : j = child
        · rw [hjchild, Function.update_self] at hlooked
          obtain rfl := Option.some.inj hlooked
          rw [h.getStore htask hroot]
        · rw [Function.update_of_ne hjchild] at hlooked
          exact h.others hj hlooked
  | @returns k made inherited entered htask =>
      -- only the middleware is inside a call that can return
      have hk : k = root := by
        by_contra hk
        have htask' := h.others hk htask
        cases htask'
      subst hk
      refine ⟨⟨?_, ⟨⟨inherited, entered⟩, Function.update_self _ _ _, ?_⟩, ?_⟩, trivial⟩
      · rw [added_append]
        exact h.context
      · intro hnot
        exact absurd (List.mem_append_right before (List.mem_singleton.mpr rfl)) hnot
      · intro j held hj hheld
        have hlooked : Function.update s.tasks k (some ⟨inherited, entered⟩) j = some held := hheld
        rw [Function.update_of_ne hj] at hlooked
        exact h.others hj hlooked
  | @getContext k task htask =>
      exact ⟨⟨(added_append _ _).symm ▸ h.context, h.first_append _, h.others⟩, h.getContext htask hroot⟩
  | @getCorrelationId k task htask =>
      refine ⟨⟨(added_append _ _).symm ▸ h.context, h.first_append _, h.others⟩, ?_⟩
      show (CorrelationIdService.getContext s task).map _ = some id
      rw [h.getContext htask hroot]
      rfl
  | @getCorrelationIdOrGenerate k task randomUUID htask =>
      refine ⟨⟨(added_append _ _).symm ▸ h.context, h.first_append _, h.others⟩, ?_⟩
      show ((CorrelationIdService.getContext s task).map _).getD randomUUID = id
      rw [h.getContext htask hroot]
      rfl
  | @addFields k task fields htask =>
      refine ⟨⟨?_, h.first_append _, h.others⟩, trivial⟩
      show CorrelationIdService.addFields s task fields ref = _
      unfold CorrelationIdService.addFields
      rw [h.getStore htask hroot, added_append]
      show Function.update s.contexts ref _ ref = _
      rw [Function.update_self, h.context]
      rfl

/-- The request has begun. -/
theorem inside_handled {headers : Str → Auth.HeaderValue} {randomUUID : Str}
    (hrun : Trace Step Process.init (handled root ref headers randomUUID) s) :
    Inside root ref (assignCorrelationId headers randomUUID).1 [] s := by
  obtain ⟨arrived, harrives, hrest⟩ := trace_cons.mp hrun
  obtain ⟨opened, hopens, hend⟩ := trace_cons.mp hrest
  obtain rfl := trace_nil.mp hend
  cases harrives with
  | arrives hfree =>
      cases hopens with
      | @runWith k made task context htask hnew =>
          have hlooked : Function.update Process.init.tasks root (some ⟨none, []⟩) root = some task := htask
          rw [Function.update_self] at hlooked
          obtain rfl := Option.some.inj hlooked
          refine ⟨Function.update_self _ _ _, ⟨_, Function.update_self _ _ _, fun _ => rfl⟩, ?_⟩
          intro j held hj hheld
          have hheld' : Function.update (Function.update Process.init.tasks root (some ⟨none, []⟩)) root
              (some ⟨none, [ref]⟩) j = some held := hheld
          rw [Function.update_of_ne hj, Function.update_of_ne hj] at hheld'
          cases hheld'

end Request

end Context
end NestSdk
