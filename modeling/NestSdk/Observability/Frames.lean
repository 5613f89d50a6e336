import NestSdk.Observability.StackFrames

/-!
# `Observability.Frames` — what scrubbing leaves of stack frames

The frames of an event's exceptions lose their local variables. There are others: in `threads`, and in whatever else is
copied as it is (`ErrorEvent.copied`); and in structured data, which is scrubbed by its keys.
-/

namespace NestSdk
namespace Observability

open Js

/-! ## Events -/

/-- A frame's properties. -/
def StackFrame.properties (frame : StackFrame) : Properties := others frame.other ++ optional (str "vars") frame.vars

def Stacktrace.toValue (stacktrace : Stacktrace) : Value :=
  .object (optional (str "frames") (stacktrace.frames.map fun frames => .array (frames.map (.object ·.properties))) ++
    stacktrace.other)

def ExceptionValue.toValue (value : ExceptionValue) : Value :=
  .object (optional (str "stacktrace") (value.stacktrace.map Stacktrace.toValue) ++ value.other)

def EventException.toValue (exception : EventException) : Value :=
  .object (optional (str "values") (exception.values.map fun values => .array (values.map ExceptionValue.toValue)) ++
    exception.other)

def Breadcrumb.toValue (breadcrumb : Breadcrumb) : Value :=
  .object (optional (str "data") (breadcrumb.data.map .object) ++ breadcrumb.other)

def EventRequest.toValue (request : EventRequest) : Value :=
  .object (optional (str "method") (request.method.map .string) ++
    (optional (str "headers") (request.headers.map fun headers =>
      .object (headers.map fun header => (header.1, .string header.2))) ++ request.other))

def EventUser.toValue (user : EventUser) : Value := .object (optional (str "id") (some user.id) ++ user.other)

/-- The event, as the object it is. -/
def ErrorEvent.toValue (event : ErrorEvent) : Value :=
  .object (optional (str "extra") (event.extra.map .object) ++
    (optional (str "contexts") (event.contexts.map .object) ++
    (optional (str "request") (event.request.map EventRequest.toValue) ++
    (optional (str "user") (event.user.map EventUser.toValue) ++
    (optional (str "exception") (event.exception.map EventException.toValue) ++
    (optional (str "breadcrumbs") (event.breadcrumbs.map fun breadcrumbs =>
      .array (breadcrumbs.map Breadcrumb.toValue)) ++ event.other))))))

/-- What is copied as it is of a stack trace: its properties other than `frames`, and of each frame those other than
    `vars`. -/
def Stacktrace.copied (stacktrace : Stacktrace) : List Value :=
  .object stacktrace.other :: (stacktrace.frames.getD []).map fun frame => .object (others frame.other)

/-- What is copied as it is of an exception's value. -/
def ExceptionValue.copied (value : ExceptionValue) : List Value :=
  .object value.other :: value.stacktrace.toList.flatMap Stacktrace.copied

/-- What is copied as it is of the exceptions. -/
def EventException.copied (exception : EventException) : List Value :=
  .object exception.other :: (exception.values.getD []).flatMap ExceptionValue.copied

/-- **What is copied as it is** of an event: every field that is not looked at, such as `threads`, the user's `id`, and
    the properties of exceptions and breadcrumbs that are not. -/
def ErrorEvent.copied (event : ErrorEvent) : List Value :=
  .object event.other :: (event.user.toList.map EventUser.id ++ (event.exception.toList.flatMap EventException.copied ++
    (event.breadcrumbs.getD []).map fun breadcrumb => .object breadcrumb.other))

/-- The frames of the stack traces of the event's exceptions. -/
def ownFrames (event : ErrorEvent) : List StackFrame :=
  event.exception.toList.flatMap fun exception => (exception.values.getD []).flatMap fun value =>
    value.stacktrace.toList.flatMap fun stacktrace => stacktrace.frames.getD []

/-! ## What scrubbing leaves of them -/

section Left

variable {α : Type}

theorem length_optional (key : Str) (x : Option α) (f : α → Value) :
    (optional key (x.map f)).length = x.toList.length := by
  cases x <;> rfl

/-- One field and the rest. -/
theorem leftBare_field {key : Str} (hkey : key ≠ str "frames") {x : Option α} {f g : α → Value}
    {rest rest' : Properties} :
    LeftBare (.object (optional key (x.map f) ++ rest)) (.object (optional key (x.map g) ++ rest')) ↔
      (∀ a ∈ x, LeftBare (f a) (g a)) ∧ LeftBare (.object rest) (.object rest') := by
  rw [leftBare_append (by rw [length_optional, length_optional]), leftBare_optional hkey]

theorem properties_withoutVars (frame : StackFrame) : (withoutVars frame).properties = others frame.other :=
  List.append_nil _

theorem others_properties (frame : StackFrame) : others frame.properties = others frame.other := by
  have hvars : others (optional (str "vars") frame.vars) = [] := by
    cases frame.vars with
    | none => rfl
    | some vars =>
        have hkey : (str "vars" != str "vars") = false := by simp
        exact List.filter_cons_of_neg (by rw [hkey]; exact Bool.false_ne_true)
  unfold StackFrame.properties
  show List.filter _ _ = _
  rw [List.filter_append]
  show others (others frame.other) ++ others _ = others frame.other
  rw [hvars, List.append_nil, others_of_bare (lookup_others _)]

/-- **The frames of a stack trace** are left bare, but for what is inside them. -/
theorem leftBare_frames (frames : Option (List StackFrame)) :
    LeftBare (.object (optional (str "frames") (frames.map fun frames => .array (frames.map (.object ·.properties)))))
      (.object (optional (str "frames")
        ((frames.map (List.map withoutVars)).map fun frames => .array (frames.map (.object ·.properties))))) ↔
    ∀ frame ∈ frames.getD [], NoVars (.object (others frame.other)) := by
  cases frames with
  | none => exact ⟨fun _ _ hmem => absurd hmem List.not_mem_nil, fun _ path frame hframe => absurd hframe not_frameAt_nil⟩
  | some frames =>
      simp only [Option.map_some, Option.getD_some]
      constructor
      · intro h frame hmem path inner hinner
        obtain ⟨i, hi⟩ := List.mem_iff_getElem?.mp hmem
        rw [← properties_withoutVars] at hinner
        have hentry : ((frames.map withoutVars).map (Value.object ·.properties))[i]?
            = some (.object (withoutVars frame).properties) := by
          rw [List.getElem?_map, List.getElem?_map, hi]
          rfl
        have harray := frameAt_array.mpr ⟨i, path, _, rfl, hentry, hinner⟩
        exact (h _ inner (.inside (child_optional _ _ 0) harray)).1
      · intro h path frame hframe
        cases hframe with
        -- a frame of the trace itself, which has lost its variables
        | @listed _ i j entries _ hframes hentry =>
            cases i with
            | succ i => cases hframes
            | zero =>
                obtain rfl := Value.array.inj (Prod.mk.inj (Option.some.inj hframes)).2
                rw [List.getElem?_map, List.getElem?_map] at hentry
                obtain ⟨frame', hframe', hobject⟩ := Option.map_eq_some_iff.mp hentry
                obtain ⟨own, hown, rfl⟩ := Option.map_eq_some_iff.mp hframe'
                obtain rfl := Value.object.inj hobject
                rw [properties_withoutVars]
                refine ⟨lookup_others _, own.properties, .listed (child_optional _ _ 0) ?_, ?_⟩
                · rw [List.getElem?_map, hown]
                  rfl
                · rw [others_properties, others_of_bare (lookup_others _)]
        -- a frame inside one of them, which is copied
        | @inside _ _ i _ rest _ hstep hinside =>
            cases i with
            | succ i => cases hstep
            | zero =>
                obtain ⟨-, rfl⟩ := Prod.mk.inj (Option.some.inj hstep)
                obtain ⟨i, rest, entry, rfl, hentry, hentered⟩ := frameAt_array.mp hinside
                rw [List.getElem?_map, List.getElem?_map] at hentry
                obtain ⟨frame', hframe', rfl⟩ := Option.map_eq_some_iff.mp hentry
                obtain ⟨own, hown, rfl⟩ := Option.map_eq_some_iff.mp hframe'
                rw [properties_withoutVars] at hentered
                refine ⟨h own (List.mem_of_getElem? hown) rest frame hentered, frame, ?_, rfl⟩
                apply FrameAt.inside (child_optional _ _ 0)
                apply frameAt_array.mpr ⟨i, rest, .object own.properties, rfl, ?_, frameAt_append.mpr (.inl hentered)⟩
                rw [List.getElem?_map, hown]
                rfl

/-- What is left of a stack trace. -/
def bareStacktrace (stacktrace : Stacktrace) : Stacktrace :=
  ⟨stacktrace.frames.map (List.map withoutVars), stacktrace.other⟩

theorem leftBare_stacktrace (stacktrace : Stacktrace) :
    LeftBare stacktrace.toValue (bareStacktrace stacktrace).toValue ↔ ∀ part ∈ stacktrace.copied, NoVars part := by
  have hlength : (optional (str "frames") ((stacktrace.frames.map (List.map withoutVars)).map
      fun frames => Value.array (frames.map (.object ·.properties)))).length
      = (optional (str "frames") (stacktrace.frames.map
        fun frames => Value.array (frames.map (.object ·.properties)))).length := by
    rw [Option.map_map, length_optional, length_optional]
  unfold Stacktrace.toValue Stacktrace.copied bareStacktrace
  rw [leftBare_append hlength, leftBare_frames, leftBare_self, List.forall_mem_cons, List.forall_mem_map, and_comm]

theorem leftBare_exceptionValue (value : ExceptionValue) :
    LeftBare value.toValue (scrubException value).toValue ↔ ∀ part ∈ value.copied, NoVars part := by
  have hscrubbed : scrubException value = ⟨value.stacktrace.map bareStacktrace, value.other⟩ := scrubException_eq_mk value
  rw [hscrubbed]
  unfold ExceptionValue.toValue ExceptionValue.copied
  rw [Option.map_map, leftBare_field (by decide), leftBare_self, List.forall_mem_cons, and_comm]
  apply and_congr Iff.rfl
  cases value.stacktrace with
  | none => simp
  | some stacktrace => simpa using leftBare_stacktrace stacktrace

theorem leftBare_exception (exception : EventException) :
    LeftBare exception.toValue
        ({ exception with values := exception.values.map fun values => values.map scrubException } :
          EventException).toValue ↔
      ∀ part ∈ exception.copied, NoVars part := by
  unfold EventException.toValue EventException.copied
  dsimp only
  rw [Option.map_map, leftBare_field (by decide), leftBare_self, List.forall_mem_cons, and_comm]
  apply and_congr Iff.rfl
  cases exception.values with
  | none => simp
  | some values =>
      simp only [Option.mem_some_iff, forall_eq', Function.comp_apply, List.map_map, Option.getD_some, leftBare_array,
        leftBare_exceptionValue, List.forall_mem_flatMap]

theorem leftBare_breadcrumb (breadcrumb : Breadcrumb) :
    LeftBare breadcrumb.toValue (scrubBreadcrumb breadcrumb).toValue ↔
      NoVars (.object breadcrumb.other) ∧ ∀ record ∈ breadcrumb.data, ShownBare record := by
  unfold Breadcrumb.toValue scrubBreadcrumb
  dsimp only
  rw [Option.map_map, leftBare_field (by decide), leftBare_self, and_comm]
  simp only [Function.comp_apply, leftBare_scrubRecord]

theorem leftBare_breadcrumbs (breadcrumbs : List Breadcrumb) :
    LeftBare (.array (breadcrumbs.map Breadcrumb.toValue))
        (.array ((breadcrumbs.map scrubBreadcrumb).map Breadcrumb.toValue)) ↔
      (∀ breadcrumb ∈ breadcrumbs, NoVars (.object breadcrumb.other)) ∧
        ∀ breadcrumb ∈ breadcrumbs, ∀ record ∈ breadcrumb.data, ShownBare record := by
  rw [List.map_map, leftBare_array]
  simp only [Function.comp_apply, leftBare_breadcrumb, forall_and]

theorem leftBare_of_none {value left : Value} (h : ∀ path frame, ¬ FrameAt left path frame) : LeftBare value left :=
  fun path frame hframe => absurd hframe (h path frame)

theorem leftBare_user (user : EventUser) :
    LeftBare user.toValue (⟨user.id, []⟩ : EventUser).toValue ↔ NoVars user.id := by
  have hid : LeftBare (.object (optional (str "id") (some user.id))) (.object (optional (str "id") (some user.id))) ↔
      NoVars user.id := by
    refine (leftBare_optional (by decide) (some user) EventUser.id EventUser.id).trans ?_
    simp only [Option.mem_some_iff, forall_eq', leftBare_self]
  unfold EventUser.toValue
  rw [leftBare_append rfl, hid]
  exact and_iff_left (leftBare_of_none fun _ _ => not_frameAt_nil)

/-- No frame is left of the request. -/
theorem leftBare_request (toLowerCase : Str → Str) (request : EventRequest) :
    LeftBare request.toValue
      (⟨request.method, some (filterHeaders toLowerCase request.headers), []⟩ : EventRequest).toValue := by
  apply leftBare_of_none
  intro path frame hframe
  -- headers are strings, and hold no frame
  have hheaders : ∀ (headers : List (Str × Str)) path,
      ¬ FrameAt (.object (headers.map fun header => (header.1, .string header.2))) path frame := by
    intro headers path hframe
    have hstring : ∀ {i step}, child (.object (headers.map fun header => (header.1, .string header.2))) i = some step →
        ∃ text, step.2 = .string text := by
      intro i step hstep
      obtain ⟨property, hproperty, rfl⟩ := Option.map_eq_some_iff.mp hstep
      rw [List.getElem?_map] at hproperty
      obtain ⟨header, -, rfl⟩ := Option.map_eq_some_iff.mp hproperty
      exact ⟨header.2, rfl⟩
    cases hframe with
    | listed hframes _ =>
        obtain ⟨text, htext⟩ := hstring hframes
        cases htext
    | inside hstep hinside =>
        obtain ⟨text, rfl⟩ := hstring hstep
        exact not_frameAt_string hinside
  unfold EventRequest.toValue at hframe
  rcases frameAt_append.mp hframe with hmethod | ⟨i, rest, -, hrest⟩
  · cases hmethod' : request.method with
    | none =>
        rw [hmethod'] at hmethod
        exact not_frameAt_nil hmethod
    | some method =>
        rw [hmethod'] at hmethod
        obtain ⟨rest, -, hinside⟩ := (frameAt_optional (by decide)).mp hmethod
        exact not_frameAt_string hinside
  · rcases frameAt_append.mp hrest with hlisted | ⟨j, rest', -, hnone⟩
    · obtain ⟨rest', -, hinside⟩ := (frameAt_optional (by decide)).mp hlisted
      exact hheaders _ _ hinside
    · exact not_frameAt_nil hnone

end Left

/-- **No stack frame leaves with local variables:** every frame left in the event has none, stands where it stood in the
    event, and has all that it had of other properties; and all frames of the exceptions are left. -/
structure FramesScrubbed (toLowerCase : Str → Str) (event : ErrorEvent) : Prop where
  left : LeftBare event.toValue (scrubEvent toLowerCase event).toValue
  own : ownFrames (scrubEvent toLowerCase event) = (ownFrames event).map withoutVars

/-- The frames of the exceptions lose their variables and nothing else. -/
theorem ownFrames_scrubEvent (toLowerCase : Str → Str) (event : ErrorEvent) :
    ownFrames (scrubEvent toLowerCase event) = (ownFrames event).map withoutVars := by
  have hvalue : ∀ value : ExceptionValue,
      (scrubException value).stacktrace.toList.flatMap (fun stacktrace => stacktrace.frames.getD [])
        = (value.stacktrace.toList.flatMap fun stacktrace => stacktrace.frames.getD []).map withoutVars := by
    intro value
    rw [scrubException_eq_mk]
    rcases value.stacktrace with _ | ⟨_ | frames, _⟩
    · rfl
    · rfl
    · simp
  unfold ownFrames scrubEvent
  dsimp only
  cases event.exception with
  | none => rfl
  | some exception =>
      simp only [Option.map_some, Option.toList_some, List.flatMap_singleton]
      cases exception.values with
      | none => rfl
      | some values =>
          simp only [Option.map_some, Option.getD_some, List.flatMap_map, List.map_flatMap, hvalue]

theorem forall_mem_copied {P : Value → Prop} {event : ErrorEvent} : (∀ part ∈ event.copied, P part) ↔
    P (.object event.other) ∧ (∀ user ∈ event.user, P user.id) ∧
      (∀ exception ∈ event.exception, ∀ part ∈ exception.copied, P part) ∧
      ∀ breadcrumbs ∈ event.breadcrumbs, ∀ breadcrumb ∈ breadcrumbs, P (.object breadcrumb.other) := by
  unfold ErrorEvent.copied
  rw [List.forall_mem_cons, List.forall_mem_append, List.forall_mem_append, List.forall_mem_map, List.forall_mem_map,
    List.forall_mem_flatMap]
  cases event.breadcrumbs <;> simp

theorem forall_mem_structuredData {P : Properties → Prop} {event : ErrorEvent} :
    (∀ record ∈ structuredData event, P record) ↔
    (∀ record ∈ event.extra, P record) ∧ (∀ record ∈ event.contexts, P record) ∧
      ∀ breadcrumbs ∈ event.breadcrumbs, ∀ breadcrumb ∈ breadcrumbs, ∀ record ∈ breadcrumb.data, P record := by
  unfold structuredData
  rw [List.forall_mem_append, List.forall_mem_append, and_assoc]
  cases event.breadcrumbs with
  | none => simp
  | some breadcrumbs =>
      simp only [Option.mem_toList, Option.getD_some, List.mem_filterMap, Option.mem_def, Option.some.injEq, forall_eq',
        forall_exists_index, and_imp]
      exact and_congr Iff.rfl (and_congr Iff.rfl ⟨fun h crumb hcrumb record hrecord => h record crumb hcrumb hrecord,
        fun h record crumb hcrumb hrecord => h crumb hcrumb record hrecord⟩)

/-- **No frame leaves with its variables,** and of every frame the rest does, exactly if no frame in what is copied as it
    is has variables, and every frame that is shown of structured data has none and nothing in it is redacted. -/
theorem framesScrubbed_iff (toLowerCase : Str → Str) (event : ErrorEvent) :
    FramesScrubbed toLowerCase event ↔
      (∀ part ∈ event.copied, NoVars part) ∧ ∀ record ∈ structuredData event, ShownBare record := by
  have hleft : LeftBare event.toValue (scrubEvent toLowerCase event).toValue ↔
      (∀ part ∈ event.copied, NoVars part) ∧ ∀ record ∈ structuredData event, ShownBare record := by
    unfold ErrorEvent.toValue scrubEvent
    dsimp only
    simp only [Option.map_map]
    rw [leftBare_field (by decide), leftBare_field (by decide), leftBare_field (by decide), leftBare_field (by decide),
      leftBare_field (by decide), leftBare_field (by decide), leftBare_self]
    simp only [Function.comp_apply, leftBare_scrubRecord, leftBare_user, leftBare_exception, leftBare_request,
      leftBare_breadcrumbs, forall_mem_copied, forall_mem_structuredData, implies_true, true_and, imp_and, forall_and]
    tauto
  exact ⟨fun h => hleft.mp h.left, fun h => ⟨hleft.mpr h, ownFrames_scrubEvent toLowerCase event⟩⟩

/-- An event of a worker thread that held a password when it failed. -/
def threadEvent : ErrorEvent where
  extra := none
  contexts := none
  request := none
  user := none
  exception := none
  breadcrumbs := none
  other := [(str "threads", .object [(str "values", .array [.object [(str "stacktrace", .object
    [(str "frames", .array [.object [(str "filename", .string (str "auth.service.js")),
      (str "vars", .object [(str "password", .string (str "hunter2"))])]])])]])])]

/-- The same thread, reported under `extra`. -/
def extraEvent : ErrorEvent := { threadEvent with extra := some threadEvent.other, other := [] }

/-- The variables leave with the thread: as they are, or under `extra` by key. -/
theorem threadEvent_vars : ¬ FramesScrubbed id threadEvent ∧ ¬ FramesScrubbed id extraEvent := by
  have hthread : FrameAt (.object threadEvent.other) [0, 0, 0, 0, 0, 0]
      [(str "filename", .string (str "auth.service.js")),
        (str "vars", .object [(str "password", .string (str "hunter2"))])] :=
    .inside rfl (.inside rfl (.inside rfl (.inside rfl (.listed rfl rfl))))
  have hclear : clear (.object threadEvent.other) [0, 0, 0, 0, 0, 0] = true := by decide +kernel
  constructor
  · intro h
    have hsame : (scrubEvent id threadEvent).toValue = .object threadEvent.other := rfl
    have hbare := (h.left _ _ (hsame ▸ hthread)).1
    cases hbare
  · intro h
    have hleft : FrameAt (.object (scrubRecord 0 threadEvent.other)) [0, 0, 0, 0, 0, 0] _ :=
      (scrubValue_of_le (Nat.zero_le _) (.object threadEvent.other)) ▸ hthread.scrubbed hclear (by decide)
    have hextra : child (scrubEvent id extraEvent).toValue 0
        = some (some (str "extra"), .object (scrubRecord 0 threadEvent.other)) := rfl
    have hbare := lookup_scrubRecord.mp (h.left _ _ (.inside hextra hleft)).1
    cases hbare

end Observability
end NestSdk
