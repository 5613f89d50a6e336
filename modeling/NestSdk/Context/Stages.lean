import NestSdk.Auth.AuthGuard
import NestSdk.Exception.Run

/-!
# `Context.Stages` — what gives a request its correlation id, and what reads it

The logger, `CorrelationIdMiddleware` and `GlobalExceptionFilter` give a request its id by one rule, and
`AuthGuard` reads the id it finds. A `Stage` is one of them at work on a request, with what its surroundings
answer: whatever throws on the way, all it does goes under the id it settles on (`Stage.under`).
-/

namespace NestSdk
namespace Context

open Js Lib Auth Exception

/-! ## The stages -/

/-- `CorrelationIdMiddleware.use` up to `next()`: the id it opens the context with. -/
def use (request : Exception.Request) (randomUUID : Str) : Prog Act (fun _ => Unit) Unit Str := do
  let correlationId := (assignCorrelationId request.headers randomUUID).1
  Prog.ask (.setHeader HeaderKey.CORRELATION_ID correlationId)
  return correlationId

/-- Something that gives a request its id or reads it, with what it is run on: whether the headers of the response are
    sent, the fresh id, the clock, and what comes of each thing it does. -/
inductive Stage
  | genReqId (randomUUID : Str)
  | correlationIdMiddleware (headersSent : Bool) (randomUUID : Str) (answer : Act → Except Unit Unit)
  | authGuard (toLowerCase : Str → Str) (principalType : PrincipalType) (verifyAsync : Jwt)
      (context : ExecutionContext)
  | globalExceptionFilter (options : GlobalExceptionFilterOptions) (response : Response)
      (randomUUID now : Str) (exception : ThrownValue) (answer : Act → Except Unit Unit)

/-- The request, and its id on the response. -/
structure Exchange where
  request : Exception.Request
  responseHeader : Option Str

/-- The id an act carries. -/
def carried : Act → Str
  | .setHeader _ value => value
  | .error line _ | .warn line => line.correlationId
  | .capture _ context => context.correlationId
  | .respond _ body => body.correlationId

/-- The response's `x-correlation-id` after these acts: those that threw have not changed it. -/
def written (answer : Act → Except Unit Unit) : List Act → Option Str → Option Str
  | [], header => header
  | act :: acts, header => written answer acts
      (match act, answer act with
        | .setHeader name value, .ok () => if name = HeaderKey.CORRELATION_ID then some value else header
        | _, _ => header)

namespace Stage

/-- The fresh id of a stage that assigns one. The filter does not get that far with a value it cannot read. -/
def fresh : Stage → Option Str
  | .genReqId randomUUID | .correlationIdMiddleware _ randomUUID _ => some randomUUID
  | .authGuard .. => none
  | .globalExceptionFilter options _ randomUUID _ exception _ =>
      (normalize options.exposeInternalErrors exception).map fun _ => randomUUID

def isAuthGuard : Stage → Bool
  | .authGuard .. => true
  | _ => false

def answer : Stage → Act → Except Unit Unit
  | .correlationIdMiddleware _ _ answer | .globalExceptionFilter _ _ _ _ _ answer => answer
  | .genReqId _ | .authGuard .. => fun _ => .ok ()

/-- What the stage does to its surroundings. -/
def acts (request : Exception.Request) : Stage → List Act
  | .genReqId _ | .authGuard .. => []
  | .correlationIdMiddleware _ randomUUID answer => ((use request randomUUID).run answer).1
  | .globalExceptionFilter options response randomUUID now exception answer =>
      ((catch_ options request response randomUUID now exception).run answer).1

/-- The request as the stage leaves it. -/
def request (request : Exception.Request) (stage : Stage) : Exception.Request :=
  match stage with
  | .authGuard toLowerCase principalType verifyAsync context =>
      { request with
        toRequest := (AuthGuard.canActivate toLowerCase principalType verifyAsync context request.toRequest).2 }
  | _ =>
      match stage.fresh with
      | some randomUUID => { request with headers := (assignCorrelationId request.headers randomUUID).2 }
      | none => request

/-- The id the stage hands on: `genReqId` returns it, the middleware opens a context with it, and the guard parks a
    context with it. -/
def handedOn (request : Exception.Request) : Stage → Option Str
  | .genReqId randomUUID => some (assignCorrelationId request.headers randomUUID).1
  | .correlationIdMiddleware _ randomUUID answer => ((use request randomUUID).run answer).2.toOption
  | .authGuard toLowerCase principalType verifyAsync context =>
      (AuthGuard.canActivate toLowerCase principalType verifyAsync context
        request.toRequest).2.iveriRequestContext.map (·.correlationId)
  | .globalExceptionFilter .. => none

/-- Every id the stage obtains: the one it assigns, the one it hands on, and those its acts carry. -/
def obtains (request : Exception.Request) (stage : Stage) : List Str :=
  (stage.fresh.map fun randomUUID => (assignCorrelationId request.headers randomUUID).1).toList ++
    (stage.handedOn request).toList ++ (stage.acts request).map carried

def run (e : Exchange) (stage : Stage) : Exchange :=
  ⟨stage.request e.request, written stage.answer (stage.acts e.request) e.responseHeader⟩

/-- The stage writes onto the response. The filter does not get that far with a value it cannot read, and nothing can be
    written onto a response whose headers are sent. -/
def Writes : Stage → Prop
  | .correlationIdMiddleware headersSent _ _ => headersSent = false
  | .globalExceptionFilter options response _ _ exception _ =>
      response.headersSent = false ∧ normalize options.exposeInternalErrors exception ≠ none
  | .genReqId _ | .authGuard .. => False

/-- The filter has an answer to give: a value it can read, and can describe where it goes into the log. -/
def HasAnswer : Stage → Prop
  | .globalExceptionFilter options _ _ _ exception _ => ∃ normalized,
      normalize options.exposeInternalErrors exception = some normalized ∧
        (isServerError normalized.status = true → exception.stackOrText ≠ none)
  | .genReqId _ | .correlationIdMiddleware .. | .authGuard .. => False

/-- **What the stage may rely on.** As long as no headers are sent, `setHeader` takes what can be a header; and log
    lines and reports are taken as they come. -/
structure Served (stage : Stage) : Prop where
  setHeader : stage.Writes → ∀ value, isHeaderText value = true →
    stage.answer (.setHeader HeaderKey.CORRELATION_ID value) = .ok ()
  error : ∀ line stack, stage.answer (.error line stack) = .ok ()
  warn : ∀ line, stage.answer (.warn line) = .ok ()
  capture : ∀ exception context, stage.answer (.capture exception context) = .ok ()

/-- **The stage works under the id `id`:** every id it obtains is that one; if it assigns an id it obtains this
    one and leaves it on the request; and the response header and the body it answers with carry it. -/
structure Under (stage : Stage) (e : Exchange) (id : Str) : Prop where
  obtained : ∀ seen ∈ stage.obtains e.request, seen = id
  assigned : stage.fresh ≠ none → id ∈ stage.obtains e.request ∧
    (stage.run e).request.headers HeaderKey.CORRELATION_ID = .one id
  header : (stage.run e).responseHeader = e.responseHeader ∨ (stage.run e).responseHeader = some id
  body : ∀ status body, .respond status body ∈ stage.acts e.request → body.correlationId = id

/-- **The stage shows the id:** if it writes onto the response, the response header is `id` from then on; and if it has
    an answer to give, it answers with a body that carries `id`. -/
structure Shows (stage : Stage) (e : Exchange) (id : Str) : Prop where
  header : stage.Writes → (stage.run e).responseHeader = some id
  body : stage.HasAnswer → ∃ status body, .respond status body ∈ stage.acts e.request ∧ body.correlationId = id

end Stage

/-! ## What a stage does goes under the id it settles on -/

section Acts

variable {request : Exception.Request} {id : Str} {answer : Act → Except Unit Unit}

theorem written_eq {acts : List Act} (h : ∀ act ∈ acts, carried act = id) (header : Option Str) :
    written answer acts header = header ∨ written answer acts header = some id := by
  induction acts generalizing header with
  | nil => exact .inl rfl
  | cons act acts ih =>
      have hacts := fun act hact => h act (List.mem_cons_of_mem _ hact)
      unfold written
      split
      next name value _ =>
        split
        next =>
          obtain rfl : value = id := h (.setHeader name value) List.mem_cons_self
          exact .inr ((ih hacts _).elim (fun h => h) fun h => h)
        next => exact ih hacts header
      next => exact ih hacts header

theorem written_of_head {acts : List Act} (h : ∀ act ∈ acts, carried act = id)
    (htaken : answer (.setHeader HeaderKey.CORRELATION_ID id) = .ok ()) (header : Option Str) :
    written answer (.setHeader HeaderKey.CORRELATION_ID id :: acts) header = some id := by
  unfold written
  rw [htaken]
  simp only [if_true]
  exact (written_eq h (some id)).elim (fun h => h) fun h => h

/-- The middleware's one act. -/
theorem run_use (randomUUID : Str) :
    ((use request randomUUID).run answer).1
        = [.setHeader HeaderKey.CORRELATION_ID (request.correlationId randomUUID)] ∧
      ∀ seen, ((use request randomUUID).run answer).2 = .ok seen → seen = request.correlationId randomUUID := by
  cases htaken : answer (.setHeader HeaderKey.CORRELATION_ID (request.correlationId randomUUID)) with
  | ok u =>
      have hrun : (use request randomUUID).run answer = _ := Prog.run_ask_ok answer htaken
      rw [hrun]
      exact ⟨rfl, fun seen hseen => (Except.ok.inj hseen).symm⟩
  | error u =>
      have hrun : (use request randomUUID).run answer = _ := Prog.run_ask_error answer htaken
      rw [hrun]
      exact ⟨rfl, fun seen hseen => by cases hseen⟩

variable {options : GlobalExceptionFilterOptions} {response : Response} {exception : ThrownValue}
  {randomUUID now : Str}

theorem run_read {α : Type} (value : Option α) :
    ((read value).run answer).1 = [] ∧ ∀ a, ((read value).run answer).2 = .ok a → value = some a := by
  cases value with
  | none => exact ⟨rfl, fun a ha => by cases ha⟩
  | some a' => exact ⟨rfl, fun a ha => congrArg some (Except.ok.inj ha)⟩

/-- Whatever becomes of the header, the filter goes on with the id it put there. -/
theorem carried_resolveCorrelationId :
    (∀ act ∈ ((resolveCorrelationId request response randomUUID).run answer).1,
      carried act = request.correlationId randomUUID) ∧
    ∀ seen, ((resolveCorrelationId request response randomUUID).run answer).2 = .ok seen →
      seen = request.correlationId randomUUID := by
  cases hsent : response.headersSent with
  | true =>
      simp only [resolveCorrelationId, hsent]
      refine ⟨fun act hact => absurd hact List.not_mem_nil, fun seen hseen => (Except.ok.inj hseen).symm⟩
  | false =>
      have huse : (resolveCorrelationId request response randomUUID) = use request randomUUID := by
        simp only [resolveCorrelationId, hsent]
        rfl
      obtain ⟨hacts, hseen⟩ := @run_use request answer randomUUID
      rw [huse, hacts]
      refine ⟨?_, hseen⟩
      intro act hact
      rw [List.mem_singleton.mp hact]
      rfl

theorem carried_log {normalized : NormalizedError} {act : Act}
    (h : act ∈ ((log request exception normalized id).run answer).1) : carried act = id := by
  unfold log at h
  dsimp only at h
  split at h
  · obtain h | ⟨stack, -, h⟩ := Prog.mem_run_bind answer h
    · rw [(run_read _).1] at h
      exact absurd h List.not_mem_nil
    · rw [Prog.run_ask, List.mem_singleton] at h
      rw [h]
      rfl
  · rw [Prog.run_ask, List.mem_singleton] at h
    rw [h]
    rfl

theorem carried_report {normalized : NormalizedError} {act : Act}
    (h : act ∈ ((report options request exception normalized id).run answer).1) : carried act = id := by
  unfold report at h
  split at h
  · exact absurd h List.not_mem_nil
  · rw [Prog.run_ask, List.mem_singleton] at h
    rw [h]
    rfl

/-- **Everything the filter does carries one id,** whatever throws on the way. -/
theorem carried_catch {act : Act}
    (h : act ∈ ((catch_ options request response randomUUID now exception).run answer).1) :
    normalize options.exposeInternalErrors exception ≠ none ∧
      carried act = request.correlationId randomUUID := by
  unfold catch_ at h
  obtain h | ⟨normalized, hread, h⟩ := Prog.mem_run_bind answer h
  · rw [(run_read _).1] at h
    exact absurd h List.not_mem_nil
  refine ⟨by simp [(run_read _).2 _ hread], ?_⟩
  obtain h | ⟨seen, hseen, h⟩ := Prog.mem_run_bind answer h
  · exact carried_resolveCorrelationId.1 act h
  obtain rfl := carried_resolveCorrelationId.2 seen hseen
  obtain h | ⟨_, -, h⟩ := Prog.mem_run_bind answer h
  · exact carried_log h
  obtain h | ⟨_, -, h⟩ := Prog.mem_run_bind answer h
  · exact carried_report h
  · rw [Prog.run_ask, List.mem_singleton] at h
    rw [h]
    rfl

/-- With a value it can read and describe, and a header and log lines that are taken, the filter gets to its answer. -/
theorem respond_mem_catch {normalized : NormalizedError}
    (hread : normalize options.exposeInternalErrors exception = some normalized)
    (hdescribed : isServerError normalized.status = true → exception.stackOrText ≠ none)
    (htaken : response.headersSent = false →
      answer (.setHeader HeaderKey.CORRELATION_ID (request.correlationId randomUUID)) = .ok ())
    (herror : ∀ line stack, answer (.error line stack) = .ok ()) (hwarn : ∀ line, answer (.warn line) = .ok ())
    (hcapture : ∀ exception context, answer (.capture exception context) = .ok ()) :
    .respond normalized.status (envelope request normalized (request.correlationId randomUUID) now)
      ∈ ((catch_ options request response randomUUID now exception).run answer).1 := by
  have hresolved : ((resolveCorrelationId request response randomUUID).run answer).2
      = .ok (request.correlationId randomUUID) := by
    cases hsent : response.headersSent with
    | true =>
        simp only [resolveCorrelationId, hsent]
        rfl
    | false =>
        simp only [resolveCorrelationId, hsent]
        exact congrArg Prod.snd (Prog.run_ask_ok answer (htaken hsent))
  have hlogged : ((log request exception normalized (request.correlationId randomUUID)).run answer).2 = .ok () := by
    unfold log
    dsimp only
    split
    · next hserver =>
        obtain ⟨stack, hstack⟩ := Option.ne_none_iff_exists'.mp (hdescribed hserver)
        rw [hstack]
        show ((Prog.ask (.error _ stack)).run answer).2 = .ok ()
        rw [Prog.run_ask]
        exact herror _ stack
    · rw [Prog.run_ask]
      exact hwarn _
  have hreported : ((report options request exception normalized
      (request.correlationId randomUUID)).run answer).2 = .ok () := by
    unfold report
    split
    · rfl
    · rw [Prog.run_ask]
      exact hcapture _ _
  -- no step before the answer throws
  unfold catch_
  rw [hread]
  apply Prog.mem_run_bind_of_ok answer (rfl : ((read (some normalized)).run answer).2 = .ok normalized)
  apply Prog.mem_run_bind_of_ok answer hresolved
  apply Prog.mem_run_bind_of_ok answer hlogged
  apply Prog.mem_run_bind_of_ok answer hreported
  rw [Prog.run_ask]
  exact List.mem_singleton_self _

/-- With a value it can read and headers not sent, the filter begins with the header. -/
theorem acts_catch_head (hread : normalize options.exposeInternalErrors exception ≠ none)
    (hsent : response.headersSent = false) :
    ∃ acts, ((catch_ options request response randomUUID now exception).run answer).1
      = .setHeader HeaderKey.CORRELATION_ID (request.correlationId randomUUID) :: acts := by
  obtain ⟨normalized, hnormalized⟩ := Option.ne_none_iff_exists'.mp hread
  unfold catch_
  simp only [hnormalized, resolveCorrelationId, hsent]
  exact ⟨_, rfl⟩

end Acts

/-! ## One stage -/

namespace Stage

variable {stage : Stage} {e : Exchange} {id : Str}

/-- If the stage assigns an id to this request, it is `id`. -/
def SettlesOn (stage : Stage) (request : Exception.Request) (id : Str) : Prop :=
  ∀ randomUUID ∈ stage.fresh, request.correlationId randomUUID = id

theorem carried_of_mem_acts {request : Exception.Request} (h : stage.SettlesOn request id) {act : Act}
    (hact : act ∈ stage.acts request) : carried act = id := by
  cases stage with
  | genReqId _ => exact absurd hact List.not_mem_nil
  | authGuard _ _ _ _ => exact absurd hact List.not_mem_nil
  | correlationIdMiddleware headersSent randomUUID answer =>
      have hid := h randomUUID rfl
      simp only [acts, (run_use randomUUID).1, List.mem_singleton] at hact
      rw [hact]
      exact hid
  | globalExceptionFilter options response randomUUID now exception answer =>
      obtain ⟨hread, hcarried⟩ := carried_catch hact
      obtain ⟨normalized, hnormalized⟩ := Option.ne_none_iff_exists'.mp hread
      exact hcarried.trans (h randomUUID (by simp [fresh, hnormalized]))

/-- All that a stage other than the guard does to a request is write its id back. -/
theorem request_of_not_guard (hguard : stage.isAuthGuard = false) (request : Exception.Request) :
    stage.request request = match stage.fresh with
      | some randomUUID => { request with headers := (assignCorrelationId request.headers randomUUID).2 }
      | none => request := by
  cases stage with
  | authGuard _ _ _ _ => cases hguard
  | genReqId _ => rfl
  | correlationIdMiddleware _ _ _ => rfl
  | globalExceptionFilter _ _ _ _ _ _ => rfl

/-- The guard parks the id it finds, or leaves the request as it was. -/
theorem request_of_guard (hguard : stage.isAuthGuard = true) (request : Exception.Request) :
    stage.fresh = none ∧ (stage.request request).headers = request.headers ∧
      ∀ parked ∈ (stage.request request).iveriRequestContext, parked ∈ request.iveriRequestContext ∨
        parked.correlationId = (AuthGuard.readHeader request.toRequest HeaderKey.CORRELATION_ID).getD [] := by
  cases stage with
  | genReqId _ => cases hguard
  | correlationIdMiddleware _ _ _ => cases hguard
  | globalExceptionFilter _ _ _ _ _ _ => cases hguard
  | authGuard toLowerCase principalType verifyAsync context =>
      refine ⟨rfl, ?_⟩
      simp only [Stage.request]
      obtain hsame | ⟨payload, hparked⟩ := AuthGuard.canActivate_request request.toRequest
      · rw [hsame]
        exact ⟨rfl, fun parked hmem => .inl hmem⟩
      · rw [hparked]
        refine ⟨rfl, ?_⟩
        intro parked hmem
        obtain rfl := Option.some.inj hmem
        exact .inr rfl

/-- The header a stage leaves: the id it assigned, or what was there. -/
theorem headers_request (stage : Stage) (request : Exception.Request) :
    (stage.request request).headers = match stage.fresh with
      | some randomUUID =>
          Function.update request.headers HeaderKey.CORRELATION_ID (.one (request.correlationId randomUUID))
      | none => request.headers := by
  cases hguard : stage.isAuthGuard with
  | true =>
      obtain ⟨hfresh, hheaders, -⟩ := request_of_guard hguard request
      rw [hheaders, hfresh]
  | false =>
      rw [request_of_not_guard hguard]
      cases stage.fresh with
      | none => rfl
      | some randomUUID => rfl

/-- The guard parks the id it finds; nobody else parks anything. -/
theorem parked_request {request : Exception.Request}
    (hparked : ∀ context ∈ request.iveriRequestContext, context.correlationId = id)
    (hfound : stage.isAuthGuard = true → request.headers HeaderKey.CORRELATION_ID = .one id) :
    ∀ context ∈ (stage.request request).iveriRequestContext, context.correlationId = id := by
  cases hguard : stage.isAuthGuard with
  | true =>
      intro context hmem
      obtain ⟨-, -, hcontexts⟩ := request_of_guard hguard request
      obtain hbefore | hread := hcontexts context hmem
      · exact hparked context hbefore
      · rw [hread, AuthGuard.readHeader, hfound hguard]
        rfl
  | false =>
      rw [request_of_not_guard hguard]
      cases stage.fresh with
      | none => exact hparked
      | some randomUUID => exact hparked

/-- The id handed on is the one settled on, or for the guard the one parked. -/
theorem handedOn_eq {request : Exception.Request} (h : stage.SettlesOn request id)
    (hparked : ∀ context ∈ (stage.request request).iveriRequestContext, context.correlationId = id) :
    ∀ seen ∈ stage.handedOn request, seen = id := by
  intro seen hseen
  cases stage with
  | genReqId randomUUID =>
      obtain rfl := Option.some.inj hseen
      exact h randomUUID rfl
  | correlationIdMiddleware headersSent randomUUID answer =>
      have hreturned : ((use request randomUUID).run answer).2 = .ok seen := by
        cases hresult : ((use request randomUUID).run answer).2 with
        | ok value =>
            simp only [handedOn, hresult] at hseen
            exact congrArg Except.ok (Option.some.inj hseen)
        | error _ =>
            simp only [handedOn, hresult] at hseen
            cases hseen
      exact ((run_use randomUUID).2 seen hreturned).trans (h randomUUID rfl)
  | authGuard _ _ _ _ =>
      obtain ⟨context, hcontext, rfl⟩ := Option.map_eq_some_iff.mp hseen
      exact hparked context hcontext
  | globalExceptionFilter _ _ _ _ _ _ => cases hseen

/-- A stage that writes the header does it first. -/
theorem acts_of_writes (h : stage.SettlesOn e.request id) (hwrites : stage.Writes) :
    ∃ acts, stage.acts e.request = .setHeader HeaderKey.CORRELATION_ID id :: acts := by
  cases stage with
  | genReqId _ => exact hwrites.elim
  | authGuard _ _ _ _ => exact hwrites.elim
  | correlationIdMiddleware headersSent randomUUID answer =>
      refine ⟨[], ?_⟩
      rw [← h randomUUID rfl]
      exact (run_use randomUUID).1
  | globalExceptionFilter options response randomUUID now exception answer =>
      obtain ⟨hsent, hread⟩ := hwrites
      obtain ⟨normalized, hnormalized⟩ := Option.ne_none_iff_exists'.mp hread
      rw [← h randomUUID (by simp [fresh, hnormalized])]
      exact acts_catch_head hread hsent

/-- **A stage that settles on an id works under it.** -/
theorem under (h : stage.SettlesOn e.request id)
    (hparked : ∀ context ∈ (stage.request e.request).iveriRequestContext, context.correlationId = id) :
    stage.Under e id where
  obtained := by
    intro seen hseen
    simp only [obtains, List.mem_append, Option.mem_toList, List.mem_map, Option.map_eq_some_iff] at hseen
    obtain (⟨randomUUID, hfresh, rfl⟩ | hhanded) | ⟨act, hact, rfl⟩ := hseen
    · exact h randomUUID hfresh
    · exact handedOn_eq h hparked seen hhanded
    · exact carried_of_mem_acts h hact
  assigned := by
    intro hfresh
    obtain ⟨randomUUID, hfresh⟩ := Option.ne_none_iff_exists'.mp hfresh
    have hid := h randomUUID hfresh
    constructor
    · simp only [obtains, hfresh, List.mem_append]
      exact .inl (.inl (List.mem_singleton.mpr hid.symm))
    · show (stage.request e.request).headers HeaderKey.CORRELATION_ID = .one id
      rw [headers_request, hfresh, ← hid]
      exact Function.update_self ..
  header := written_eq (fun act => carried_of_mem_acts h) e.responseHeader
  body := fun status body hmem => carried_of_mem_acts h hmem

/-- **A stage that settles on an id a header can hold shows it,** if it is served. -/
theorem shows (h : stage.SettlesOn e.request id) (htext : isHeaderText id = true) (hserved : stage.Served) :
    stage.Shows e id where
  header := by
    intro hwrites
    have hcarried : ∀ act ∈ stage.acts e.request, carried act = id := fun act => carried_of_mem_acts h
    obtain ⟨acts, hacts⟩ := acts_of_writes h hwrites
    show written stage.answer (stage.acts e.request) e.responseHeader = some id
    rw [hacts] at hcarried ⊢
    exact written_of_head (fun act hact => hcarried act (List.mem_cons_of_mem _ hact))
      (hserved.setHeader hwrites id htext) _
  body := by
    intro hanswer
    cases stage with
    | genReqId _ => exact hanswer.elim
    | correlationIdMiddleware _ _ _ => exact hanswer.elim
    | authGuard _ _ _ _ => exact hanswer.elim
    | globalExceptionFilter options response randomUUID now exception answer =>
        obtain ⟨normalized, hread, hdescribed⟩ := hanswer
        have hid : e.request.correlationId randomUUID = id := h randomUUID (by simp [fresh, hread])
        refine ⟨normalized.status, envelope e.request normalized (e.request.correlationId randomUUID) now, ?_, hid⟩
        apply respond_mem_catch hread hdescribed _ hserved.error hserved.warn hserved.capture
        intro hsent
        rw [hid]
        exact hserved.setHeader ⟨hsent, by simp [hread]⟩ id htext

end Stage

end Context
end NestSdk
