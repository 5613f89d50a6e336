import NestSdk.Context.Stages

/-!
# `Context.OneId` — one correlation id for a request

Stages come in any order and any number. The first that assigns an id settles it, and every later one finds it on
the request: before that the header is as it came in, and from then on it is the id (`Reached`).
-/

namespace NestSdk
namespace Context

open Js Lib Auth Exception

/-- The stages, one after the other. -/
def runStages (stages : List Stage) (e : Exchange) : Exchange := stages.foldl Stage.run e

/-- A request as it arrives. -/
def arrived (headers : Str → HeaderValue) (path method : Str) (routed : Observability.Routed) : Exchange :=
  ⟨⟨⟨headers, none⟩, path, method, routed⟩, none⟩

/-- Every `AuthGuard` runs after something that assigns an id. -/
def GuardsFollow (stages : List Stage) : Prop :=
  ∀ before stage after, stages = before ++ stage :: after → stage.isAuthGuard = true →
    ∃ earlier ∈ before, earlier.fresh ≠ none

/-- Where a sequence of stages has got to: it found the header as it came in until something assigned the id, and
    the id since then. -/
structure Reached (incoming : HeaderValue) (id : Str) (before : List Stage) (e : Exchange) : Prop where
  settled : (∃ stage ∈ before, stage.fresh ≠ none) → e.request.headers HeaderKey.CORRELATION_ID = .one id
  unsettled : (∀ stage ∈ before, stage.fresh = none) → e.request.headers HeaderKey.CORRELATION_ID = incoming
  parked : ∀ context ∈ e.request.iveriRequestContext, context.correlationId = id

/-- The fresh id of the first stage that assigns one. -/
def firstFresh (stages : List Stage) : Option Str := stages.findSome? Stage.fresh

/-- The id the stages settle on. Where none of them assigns an id, any will do. -/
def settledId (incoming : HeaderValue) (stages : List Stage) : Str :=
  correlationIdOf incoming ((firstFresh stages).getD nilUuid)

/-- What they fall back on is a UUID. -/
theorem firstFresh_isUuid {stages : List Stage}
    (huuid : ∀ stage ∈ stages, ∀ randomUUID ∈ stage.fresh, IsUuid randomUUID) :
    IsUuid ((firstFresh stages).getD nilUuid) := by
  cases hfresh : firstFresh stages with
  | none => exact nilUuid_isUuid
  | some randomUUID =>
      obtain ⟨stage, hmem, hstage⟩ := List.exists_of_findSome?_eq_some hfresh
      exact huuid stage hmem randomUUID hstage

theorem settledId_usable {stages : List Stage}
    (huuid : ∀ stage ∈ stages, ∀ randomUUID ∈ stage.fresh, IsUuid randomUUID) (incoming : HeaderValue) :
    Usable (settledId incoming stages) :=
  correlationIdOf_usable (firstFresh_isUuid huuid) incoming

/-- What Node delivers settles on what Node can write. -/
theorem settledId_headerText {stages : List Stage} {incoming : HeaderValue}
    (huuid : ∀ stage ∈ stages, ∀ randomUUID ∈ stage.fresh, IsUuid randomUUID) (hincoming : Delivered incoming) :
    isHeaderText (settledId incoming stages) = true :=
  correlationIdOf_headerText (firstFresh_isUuid huuid) hincoming

section Run

variable {incoming : HeaderValue} {id : Str} {stages before after : List Stage} {stage : Stage} {e : Exchange}

theorem Reached.start (path method : Str) (routed : Observability.Routed) (headers : Str → HeaderValue) :
    Reached (headers HeaderKey.CORRELATION_ID) id [] (arrived headers path method routed) where
  settled := fun ⟨_, hmem, _⟩ => absurd hmem List.not_mem_nil
  unsettled _ := rfl
  parked context hmem := by cases hmem

/-- The first stage to assign an id settles on it, and every later one finds it. -/
theorem Reached.settlesOn (hsplit : stages = before ++ stage :: after)
    (husable : Usable (settledId incoming stages)) (h : Reached incoming (settledId incoming stages) before e) :
    stage.SettlesOn e.request (settledId incoming stages) := by
  intro randomUUID hfresh
  show correlationIdOf (e.request.headers HeaderKey.CORRELATION_ID) randomUUID = settledId incoming stages
  by_cases hassigned : ∃ earlier ∈ before, earlier.fresh ≠ none
  · rw [h.settled hassigned]
    exact correlationIdOf_one husable randomUUID
  · push Not at hassigned
    rw [h.unsettled hassigned]
    have hbefore : before.findSome? Stage.fresh = none := List.findSome?_eq_none_iff.mpr hassigned
    have hfirst : firstFresh stages = some randomUUID := by
      simp [firstFresh, hsplit, List.findSome?_append, hbefore, Option.mem_def.mp hfresh]
    rw [settledId, hfirst]
    rfl

/-- **One more stage,** which settles on the id. -/
theorem Reached.run (h : Reached incoming id before e) (hsettles : stage.SettlesOn e.request id)
    (hguard : stage.isAuthGuard = true → e.request.headers HeaderKey.CORRELATION_ID = .one id) :
    Reached incoming id (before ++ [stage]) (stage.run e) := by
  have hheaders := stage.headers_request e.request
  cases hfresh : stage.fresh with
  | some randomUUID =>
      -- it writes the id back to the request
      have hassigned : (stage.request e.request).headers HeaderKey.CORRELATION_ID = .one id := by
        rw [hheaders, hfresh, ← hsettles randomUUID hfresh]
        exact Function.update_self ..
      refine ⟨fun _ => hassigned, ?_, Stage.parked_request h.parked hguard⟩
      intro hnone
      exact absurd (hnone stage (by simp)) (by simp [hfresh])
  | none =>
      -- it leaves the request's header as it was
      have hsame : (stage.request e.request).headers = e.request.headers := by
        rw [hheaders, hfresh]
      refine ⟨?_, ?_, Stage.parked_request h.parked hguard⟩
      · rintro ⟨earlier, hmem, hearlier⟩
        show (stage.request e.request).headers HeaderKey.CORRELATION_ID = .one id
        rw [hsame]
        obtain hmem | hmem := List.mem_append.mp hmem
        · exact h.settled ⟨earlier, hmem, hearlier⟩
        · obtain rfl := List.mem_singleton.mp hmem
          exact absurd hfresh hearlier
      · intro hnone
        show (stage.request e.request).headers HeaderKey.CORRELATION_ID = incoming
        rw [hsame]
        exact h.unsettled fun earlier hmem => hnone earlier (List.mem_append_left _ hmem)

/-- **Every sequence of stages,** by induction on it from its end. -/
theorem reached_runStages (husable : Usable (settledId incoming stages)) (hguards : GuardsFollow stages)
    (hstart : Reached incoming (settledId incoming stages) [] e) (hsplit : stages = before ++ after) :
    Reached incoming (settledId incoming stages) before (runStages before e) := by
  induction before using List.reverseRecOn generalizing after with
  | nil => exact hstart
  | append_singleton before stage ih =>
      have hsplit' : stages = before ++ stage :: after := by simpa using hsplit
      have hreached := ih hsplit'
      have hrun : runStages (before ++ [stage]) e = stage.run (runStages before e) := by
        simp [runStages]
      rw [hrun]
      apply hreached.run (hreached.settlesOn hsplit' husable)
      intro hguard
      exact hreached.settled (hguards before stage after hsplit' hguard)

end Run

/-- **What a stage has written stays.** -/
theorem responseHeader_runStages {id : Str} {stages : List Stage} {e : Exchange}
    (hunder : ∀ before stage after, stages = before ++ stage :: after → stage.Under (runStages before e) id)
    (hshows : ∀ before stage after, stages = before ++ stage :: after → stage.Shows (runStages before e) id)
    {before after : List Stage} (hsplit : stages = before ++ after) (hwrites : ∃ stage ∈ before, stage.Writes) :
    (runStages before e).responseHeader = some id := by
  induction before using List.reverseRecOn generalizing after with
  | nil => exact absurd hwrites (by simp)
  | append_singleton before stage ih =>
      have hsplit' : stages = before ++ stage :: after := by simpa using hsplit
      have hrun : runStages (before ++ [stage]) e = stage.run (runStages before e) := by
        simp [runStages]
      rw [hrun]
      by_cases hlast : stage.Writes
      · exact (hshows before stage after hsplit').header hlast
      · -- this stage writes nothing, so an earlier one did
        have hearlier : ∃ earlier ∈ before, earlier.Writes := by
          obtain ⟨earlier, hmem, hearlier⟩ := hwrites
          obtain hmem | hmem := List.mem_append.mp hmem
          · exact ⟨earlier, hmem, hearlier⟩
          · obtain rfl := List.mem_singleton.mp hmem
            exact absurd hearlier hlast
        obtain hkept | hwritten := (hunder before stage after hsplit').header
        · rw [hkept]
          exact ih hsplit' hearlier
        · exact hwritten

/-- **One correlation id per request.** Whatever the incoming header, and whatever stages run in whatever order, as
    long as each `AuthGuard` follows something that assigns an id: they all work under one id, which is usable, and
    is the incoming value trimmed whenever that is usable. Where the incoming value is one Node delivers and the stages
    are served, the response header is the id from the first stage on that writes one, and every error the filter can
    describe is answered with a body that carries it. -/
theorem one_correlation_id (headers : Str → HeaderValue) (path method : Str) (routed : Observability.Routed)
    (stages : List Stage) (huuid : ∀ stage ∈ stages, ∀ randomUUID ∈ stage.fresh, IsUuid randomUUID)
    (hguards : GuardsFollow stages) :
    ∃ id, Usable id ∧
      (∀ value, firstIncoming (headers HeaderKey.CORRELATION_ID) = some value → Usable (trim value) →
        id = trim value) ∧
      (∀ before stage after, stages = before ++ stage :: after →
        stage.Under (runStages before (arrived headers path method routed)) id) ∧
      (Delivered (headers HeaderKey.CORRELATION_ID) → (∀ stage ∈ stages, stage.Served) →
        (∀ before stage after, stages = before ++ stage :: after →
          stage.Shows (runStages before (arrived headers path method routed)) id) ∧
        ∀ before after, stages = before ++ after → (∃ stage ∈ before, stage.Writes) →
          (runStages before (arrived headers path method routed)).responseHeader = some id) := by
  have husable := settledId_usable huuid (headers HeaderKey.CORRELATION_ID)
  have hsettles : ∀ before stage after, stages = before ++ stage :: after →
      stage.SettlesOn (runStages before (arrived headers path method routed)).request
        (settledId (headers HeaderKey.CORRELATION_ID) stages) := by
    intro before stage after hsplit
    exact (reached_runStages husable hguards (.start path method routed headers) hsplit).settlesOn hsplit husable
  have hunder : ∀ before stage after, stages = before ++ stage :: after →
      stage.Under (runStages before (arrived headers path method routed))
        (settledId (headers HeaderKey.CORRELATION_ID) stages) := by
    intro before stage after hsplit
    have hreached := reached_runStages husable hguards (.start path method routed headers) hsplit
    apply Stage.under (hsettles before stage after hsplit)
    apply Stage.parked_request hreached.parked
    intro hguard
    exact hreached.settled (hguards before stage after hsplit hguard)
  refine ⟨settledId (headers HeaderKey.CORRELATION_ID) stages, husable, ?_, hunder, ?_⟩
  · intro value hvalue htrimmed
    exact correlationIdOf_incoming hvalue htrimmed _
  · intro hdelivered hserved
    have htext := settledId_headerText huuid hdelivered
    have hshows : ∀ before stage after, stages = before ++ stage :: after →
        stage.Shows (runStages before (arrived headers path method routed))
          (settledId (headers HeaderKey.CORRELATION_ID) stages) := by
      intro before stage after hsplit
      exact Stage.shows (hsettles before stage after hsplit) htext (hserved stage (by simp [hsplit]))
    exact ⟨hshows, fun before after => responseHeader_runStages hunder hshows⟩

/-- Where the first stage assigns an id, every guard follows one that does. -/
theorem guardsFollow_of_first {first : Stage} {rest : List Stage} (hfirst : first.fresh ≠ none) :
    GuardsFollow (first :: rest) := by
  intro before stage after hsplit hguard
  cases before with
  | nil =>
      obtain ⟨rfl, -⟩ := List.cons.inj hsplit
      cases first with
      | authGuard _ _ _ _ => exact absurd rfl hfirst
      | genReqId _ => cases hguard
      | correlationIdMiddleware _ _ _ => cases hguard
      | globalExceptionFilter _ _ _ _ _ _ => cases hguard
  | cons earlier before =>
      obtain ⟨rfl, -⟩ := List.cons.inj hsplit
      exact ⟨first, List.mem_cons_self, hfirst⟩

/-- A stage on a response of Node's is served. -/
theorem served_node (stage : Stage) (headersSent : Bool) (hanswer : stage.answer = (Response.node headersSent).answer) :
    stage.Served where
  setHeader := by
    intro _ value htext
    rw [hanswer]
    exact if_pos htext
  error line stack := by rw [hanswer]; rfl
  warn line := by rw [hanswer]; rfl
  capture exception context := by rw [hanswer]; rfl

/-- A request with a repeated header, logged, given its context, refused and answered. -/
def refusedStages : List Stage :=
  [.genReqId nilUuid, .correlationIdMiddleware false nilUuid (Response.node false).answer,
    .authGuard (fun s => s) ⟨str "user", str "service"⟩ (fun _ => .error .tokenExpiredError)
      ⟨str "http", ⟨none, none⟩, ⟨none, none⟩⟩,
    .globalExceptionFilter ⟨false, none⟩ (.node false) nilUuid (str "2026-01-01T00:00:00.000Z")
      (.domain ⟨.unauthenticated, 401, str "No credentials presented", .undefined, .undefined⟩)
      (Response.node false).answer]

theorem refusedStages_served : ∀ stage ∈ refusedStages, stage.Served := by
  intro stage hmem
  simp only [refusedStages, List.mem_cons, List.not_mem_nil, or_false] at hmem
  obtain rfl | rfl | rfl | rfl := hmem
  · exact ⟨fun _ _ _ => rfl, fun _ _ => rfl, fun _ => rfl, fun _ _ => rfl⟩
  · exact served_node _ false rfl
  · exact ⟨fun _ _ _ => rfl, fun _ _ => rfl, fun _ => rfl, fun _ _ => rfl⟩
  · exact served_node _ false rfl

/-- The four of them work under the first of the values, trimmed, and answer with it. -/
theorem one_correlation_id_refused :
    ∃ id, id = str "first" ∧
      (∀ before stage after, refusedStages = before ++ stage :: after →
        stage.Under (runStages before (arrived (fun _ => .many [str "  first  ", str "second"]) (str "/orders")
          (str "GET") ⟨[], none⟩)) id) ∧
      (runStages refusedStages (arrived (fun _ => .many [str "  first  ", str "second"]) (str "/orders")
        (str "GET") ⟨[], none⟩)).responseHeader = some id := by
  have huuid : ∀ stage ∈ refusedStages, ∀ randomUUID ∈ stage.fresh, IsUuid randomUUID := by
    intro stage hmem randomUUID hfresh
    simp only [refusedStages, List.mem_cons, List.not_mem_nil, or_false] at hmem
    obtain rfl | rfl | rfl | rfl := hmem
    · exact Option.some.inj hfresh ▸ nilUuid_isUuid
    · exact Option.some.inj hfresh ▸ nilUuid_isUuid
    · cases hfresh
    · exact Option.some.inj hfresh ▸ nilUuid_isUuid
  have htrim : trim (str "  first  ") = str "first" := by decide +kernel
  have husable : Usable (str "first") := by
    refine ⟨by decide +kernel, ?_, by decide +kernel⟩
    rw [← htrim]
    exact trimmed_trim _
  have hdelivered : Delivered (.many [str "  first  ", str "second"]) := by
    intro value hvalue
    obtain rfl : str "  first  " = value := Option.some.inj hvalue
    decide +kernel
  obtain ⟨id, -, hincoming, hunder, hshown⟩ := one_correlation_id (fun _ => .many [str "  first  ", str "second"])
    (str "/orders") (str "GET") ⟨[], none⟩ refusedStages huuid (guardsFollow_of_first (by simp [Stage.fresh]))
  obtain ⟨-, hheader⟩ := hshown hdelivered refusedStages_served
  refine ⟨id, ?_, hunder, hheader refusedStages [] (List.append_nil _).symm ?_⟩
  · rw [hincoming (str "  first  ") rfl (htrim.symm ▸ husable), htrim]
  · exact ⟨.correlationIdMiddleware false nilUuid (Response.node false).answer, by simp [refusedStages], rfl⟩

end Context
end NestSdk
