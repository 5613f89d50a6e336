import NestSdk.Observability.ScrubEvent

/-!
# `Observability.Noninterference` — secrets do not influence a report

Two events that differ in nothing but secrets are scrubbed to the same event. What may differ is spelled out as
relations, one per part of an event: `Alike` for structured data, by the depth at which a value stands, and
`HeadersAgree`, `FramesAgree` and so on for the parts that are rebuilt.
-/

namespace NestSdk
namespace Observability

open Js

/-! ## Structured data -/

mutual

/-- Two values that stand at `depth` differ only in parts below `maxScrubDepth` and in values stored under a
    sensitive key. -/
inductive Alike : Nat → Value → Value → Prop
  | same (depth : Nat) (value : Value) : Alike depth value value
  | deep {depth : Nat} {value value' : Value} (hdeep : maxScrubDepth < depth) : Alike depth value value'
  | array {depth : Nat} {entries entries' : List Value} (h : AlikeEntries (depth + 1) entries entries') :
      Alike depth (.array entries) (.array entries')
  | object {depth : Nat} {properties properties' : Properties}
      (h : AlikeProperties depth properties properties') :
      Alike depth (.object properties) (.object properties')

inductive AlikeEntries : Nat → List Value → List Value → Prop
  | nil {depth : Nat} : AlikeEntries depth [] []
  | cons {depth : Nat} {entry entry' : Value} {entries entries' : List Value} (hentry : Alike depth entry entry')
      (h : AlikeEntries depth entries entries') : AlikeEntries depth (entry :: entries) (entry' :: entries')

/-- The properties of two records that stand at `depth`: the same keys, and the values one level down. -/
inductive AlikeProperties : Nat → Properties → Properties → Prop
  | nil {depth : Nat} : AlikeProperties depth [] []
  | sensitive {depth : Nat} {key : Str} {value value' : Value} {properties properties' : Properties}
      (hkey : isSensitiveKey key = true) (h : AlikeProperties depth properties properties') :
      AlikeProperties depth ((key, value) :: properties) ((key, value') :: properties')
  | cons {depth : Nat} {key : Str} {value value' : Value} {properties properties' : Properties}
      (hvalue : Alike (depth + 1) value value') (h : AlikeProperties depth properties properties') :
      AlikeProperties depth ((key, value) :: properties) ((key, value') :: properties')

end

mutual

/-- **Scrubbing forgets what may differ,** by induction on how the two values are alike. -/
theorem scrubValue_eq {depth : Nat} {value value' : Value} (h : Alike depth value value') :
    scrubValue depth value = scrubValue depth value' := by
  cases h with
  | same => rfl
  | deep hdeep => rw [scrubValue_deep hdeep, scrubValue_deep hdeep]
  | array hentries => simp only [scrubValue, scrubEntries_eq hentries]
  | object hproperties => simp only [scrubValue, scrubRecord_eq hproperties]

theorem scrubEntries_eq {depth : Nat} {entries entries' : List Value}
    (h : AlikeEntries depth entries entries') : scrubEntries depth entries = scrubEntries depth entries' := by
  cases h with
  | nil => rfl
  | cons hentry hentries => rw [scrubEntries, scrubEntries, scrubValue_eq hentry, scrubEntries_eq hentries]

theorem scrubRecord_eq {depth : Nat} {properties properties' : Properties}
    (h : AlikeProperties depth properties properties') :
    scrubRecord depth properties = scrubRecord depth properties' := by
  cases h with
  | nil => rfl
  | sensitive hkey hproperties =>
      -- the value is not looked at: the key alone decides what stands in its place
      rw [scrubRecord, scrubRecord, if_pos hkey, if_pos hkey, scrubRecord_eq hproperties]
  | cons hvalue hproperties =>
      rw [scrubRecord, scrubRecord, scrubValue_eq hvalue, scrubRecord_eq hproperties]

end

/-! ## Events -/

section Agree

variable (toLowerCase : Str → Str)

/-- The same headers, but for those that are not reportable. -/
inductive HeadersAgree : List (Str × Str) → List (Str × Str) → Prop
  | nil : HeadersAgree [] []
  | same (header : Str × Str) {headers headers' : List (Str × Str)} (h : HeadersAgree headers headers') :
      HeadersAgree (header :: headers) (header :: headers')
  | left {header : Str × Str} {headers headers' : List (Str × Str)}
      (hheader : isReportable toLowerCase header.1 = false) (h : HeadersAgree headers headers') :
      HeadersAgree (header :: headers) headers'
  | right {header : Str × Str} {headers headers' : List (Str × Str)}
      (hheader : isReportable toLowerCase header.1 = false) (h : HeadersAgree headers headers') :
      HeadersAgree headers (header :: headers')

structure RequestsAgree (request request' : EventRequest) : Prop where
  method : request.method = request'.method
  headers : Option.Rel (HeadersAgree toLowerCase) request.headers request'.headers

def UsersAgree (user user' : EventUser) : Prop := user.id = user'.id

def FramesAgree (frame frame' : StackFrame) : Prop := frame.other = frame'.other

structure StacktracesAgree (stacktrace stacktrace' : Stacktrace) : Prop where
  frames : Option.Rel (List.Forall₂ FramesAgree) stacktrace.frames stacktrace'.frames
  other : stacktrace.other = stacktrace'.other

structure ExceptionValuesAgree (value value' : ExceptionValue) : Prop where
  stacktrace : Option.Rel StacktracesAgree value.stacktrace value'.stacktrace
  other : value.other = value'.other

structure ExceptionsAgree (exception exception' : EventException) : Prop where
  values : Option.Rel (List.Forall₂ ExceptionValuesAgree) exception.values exception'.values
  other : exception.other = exception'.other

structure BreadcrumbsAgree (breadcrumb breadcrumb' : Breadcrumb) : Prop where
  data : Option.Rel (AlikeProperties 0) breadcrumb.data breadcrumb'.data
  other : breadcrumb.other = breadcrumb'.other

/-- **Two events that agree on everything but secrets.** -/
structure AgreeExceptSecrets (event event' : ErrorEvent) : Prop where
  extra : Option.Rel (AlikeProperties 0) event.extra event'.extra
  contexts : Option.Rel (AlikeProperties 0) event.contexts event'.contexts
  request : Option.Rel (RequestsAgree toLowerCase) event.request event'.request
  user : Option.Rel UsersAgree event.user event'.user
  exception : Option.Rel ExceptionsAgree event.exception event'.exception
  breadcrumbs : Option.Rel (List.Forall₂ BreadcrumbsAgree) event.breadcrumbs event'.breadcrumbs
  other : event.other = event'.other

end Agree

section Scrub

variable {α β : Type} {r : α → α → Prop} {f : α → β}

/-- A function that forgets what related values may differ in forgets it under `?` and in lists. -/
theorem map_eq_of_rel (hf : ∀ x y, r x y → f x = f y) {x y : Option α} (h : Option.Rel r x y) :
    x.map f = y.map f := by
  cases h with
  | none => rfl
  | some hxy => exact congrArg some (hf _ _ hxy)

theorem map_eq_of_forall₂ (hf : ∀ x y, r x y → f x = f y) {xs ys : List α} (h : List.Forall₂ r xs ys) :
    xs.map f = ys.map f := by
  induction h with
  | nil => rfl
  | cons hxy _ ih => rw [List.map_cons, List.map_cons, hf _ _ hxy, ih]

theorem map_map_eq_of_rel (hf : ∀ x y, r x y → f x = f y) {xs ys : Option (List α)}
    (h : Option.Rel (List.Forall₂ r) xs ys) : xs.map (List.map f) = ys.map (List.map f) :=
  map_eq_of_rel (fun _ _ hxy => map_eq_of_forall₂ hf hxy) h

theorem map_scrubRecord_eq {record record' : Option Properties} (h : Option.Rel (AlikeProperties 0) record record') :
    record.map (scrubRecord 0) = record'.map (scrubRecord 0) :=
  map_eq_of_rel (fun _ _ hrecord => scrubRecord_eq hrecord) h

variable {toLowerCase : Str → Str}

theorem filter_eq_of_headersAgree {headers headers' : List (Str × Str)}
    (h : HeadersAgree toLowerCase headers headers') :
    headers.filter (fun header => isReportable toLowerCase header.1)
      = headers'.filter (fun header => isReportable toLowerCase header.1) := by
  induction h with
  | nil => rfl
  | same header _ ih => rw [List.filter_cons, List.filter_cons, ih]
  -- a header that is dropped may stand on one side only
  | left hheader _ ih => rw [List.filter_cons_of_neg (by simp [hheader]), ih]
  | right hheader _ ih => rw [List.filter_cons_of_neg (by simp [hheader]), ih]

theorem filterHeaders_eq {headers headers' : Option (List (Str × Str))}
    (h : Option.Rel (HeadersAgree toLowerCase) headers headers') :
    filterHeaders toLowerCase headers = filterHeaders toLowerCase headers' := by
  cases h with
  | none => rfl
  | some h => exact filter_eq_of_headersAgree h

theorem withoutVars_eq (frame frame' : StackFrame) (h : FramesAgree frame frame') :
    withoutVars frame = withoutVars frame' := congrArg (StackFrame.mk none) h

/-- An exception value is scrubbed to its frames without their variables, and whatever else it has. -/
theorem scrubException_eq_mk (value : ExceptionValue) :
    scrubException value
      = ⟨value.stacktrace.map fun s => ⟨s.frames.map (List.map withoutVars), s.other⟩, value.other⟩ := by
  obtain ⟨stacktrace, other⟩ := value
  cases stacktrace with
  | none => rfl
  | some stacktrace =>
      obtain ⟨frames, other'⟩ := stacktrace
      cases frames with
      | none => rfl
      | some frames => rfl

theorem scrubException_eq (value value' : ExceptionValue) (h : ExceptionValuesAgree value value') :
    scrubException value = scrubException value' := by
  have hframes : ∀ s s' : Stacktrace, StacktracesAgree s s' →
      (⟨s.frames.map (List.map withoutVars), s.other⟩ : Stacktrace)
        = ⟨s'.frames.map (List.map withoutVars), s'.other⟩ := by
    intro s s' hs
    rw [map_map_eq_of_rel withoutVars_eq hs.frames, hs.other]
  rw [scrubException_eq_mk, scrubException_eq_mk, map_eq_of_rel hframes h.stacktrace, h.other]

theorem scrubBreadcrumb_eq (breadcrumb breadcrumb' : Breadcrumb)
    (h : BreadcrumbsAgree breadcrumb breadcrumb') :
    scrubBreadcrumb breadcrumb = scrubBreadcrumb breadcrumb' := by
  rw [scrubBreadcrumb, scrubBreadcrumb, map_scrubRecord_eq h.data, h.other]

/-- **Scrubbing is noninterfering:** events that agree on everything but secrets are reported alike. -/
theorem scrubEvent_noninterfering {event event' : ErrorEvent}
    (h : AgreeExceptSecrets toLowerCase event event') :
    scrubEvent toLowerCase event = scrubEvent toLowerCase event' := by
  have hrequest : ∀ q q' : EventRequest, RequestsAgree toLowerCase q q' →
      (⟨q.method, some (filterHeaders toLowerCase q.headers), []⟩ : EventRequest)
        = ⟨q'.method, some (filterHeaders toLowerCase q'.headers), []⟩ := by
    intro q q' hq
    rw [hq.method, filterHeaders_eq hq.headers]
  have huser : ∀ u u' : EventUser, UsersAgree u u' → (⟨u.id, []⟩ : EventUser) = ⟨u'.id, []⟩ := by
    intro u u' hu
    rw [show u.id = u'.id from hu]
  have hexception : ∀ x x' : EventException, ExceptionsAgree x x' →
      (⟨x.values.map (List.map scrubException), x.other⟩ : EventException)
        = ⟨x'.values.map (List.map scrubException), x'.other⟩ := by
    intro x x' hx
    rw [map_map_eq_of_rel scrubException_eq hx.values, hx.other]
  unfold scrubEvent
  rw [map_scrubRecord_eq h.extra, map_scrubRecord_eq h.contexts, map_eq_of_rel hrequest h.request,
    map_eq_of_rel huser h.user, map_eq_of_rel hexception h.exception,
    map_map_eq_of_rel scrubBreadcrumb_eq h.breadcrumbs, h.other]

/-- A login that failed: the secrets of the caller are `secret`, wherever they turn up. -/
def loginEvent (secret : Str) : ErrorEvent where
  extra := some [(str "userPassword", .string secret), (str "attempt", .number 3)]
  contexts := none
  request := some
    { method := some (str "POST")
      headers := some [(str "accept", str "*/*"), (str "authorization", secret)]
      other := [(str "url", .string secret)] }
  user := some { id := .string (str "u"), other := [(str "email", .string secret)] }
  exception := some
    { values := some [{ stacktrace := some { frames := some [⟨some (.string secret), []⟩], other := [] }, other := [] }]
      other := [] }
  breadcrumbs := some [{ data := some [(str "session", .string secret)], other := [] }]
  other := [(str "level", .string (str "error"))]

theorem scrubEvent_noninterfering_login :
    scrubEvent (fun name => name) (loginEvent (str "hunter2"))
      = scrubEvent (fun name => name) (loginEvent (str "swordfish")) := by
  have hheaders : HeadersAgree (fun name => name)
      [(str "accept", str "*/*"), (str "authorization", str "hunter2")]
      [(str "accept", str "*/*"), (str "authorization", str "swordfish")] :=
    .same _ (.left (by decide +kernel) (.right (by decide +kernel) .nil))
  refine scrubEvent_noninterfering ⟨?_, .none, ?_, ?_, ?_, ?_, rfl⟩
  · exact .some (.sensitive (by decide +kernel) (.cons (.same _ _) .nil))
  · exact .some ⟨rfl, .some hheaders⟩
  · exact .some rfl
  · exact .some ⟨.some (.cons ⟨.some ⟨.some (.cons rfl .nil), rfl⟩, rfl⟩ .nil), rfl⟩
  · exact .some (.cons ⟨.some (.sensitive (by decide +kernel) .nil), rfl⟩ .nil)

end Scrub

end Observability
end NestSdk
