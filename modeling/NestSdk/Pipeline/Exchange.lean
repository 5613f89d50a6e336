import NestSdk.Context.OneId
import NestSdk.Pipeline.Verdict

/-!
# `Pipeline.Exchange` — one request, from the headers to the answer

`CorrelationIdMiddleware`, the two guards, the handler and, where one of them throws, `GlobalExceptionFilter`. The
exceptions of the guards are the domain's, with a code and a status of their own (`raised`), so the verdict on a request
decides the answer: **`exchange_verdict`**. The response is Node's, and so is what arrives under the id's header.
-/

namespace NestSdk
namespace Pipeline

open Js Lib Auth Exception Context

/-- A request as it arrives. -/
structure Arrival where
  headers : Str → HeaderValue
  path : Str
  method : Str
  routed : Observability.Routed

/-- The request, its headers and its context as some guard or middleware has left them. -/
def Arrival.request (arrival : Arrival) (left : Auth.Request) : Exception.Request :=
  ⟨left, arrival.path, arrival.method, arrival.routed⟩

/-- How the handler ends. -/
inductive Handled
  | answered
  | threw (exception : ThrownValue) (headersSent : Bool)

/-- What the runtime says: the fresh ids of the middleware and of the filter, the time, and the stack of a guard's
    exception. -/
structure Runtime where
  randomUUID : Str
  filterUUID : Str
  now : Str
  stack : Any

/-- The exception classes of the guards. -/
def raised (stack : Any) : AuthException → DomainException
  | .unauthenticated message => ⟨.unauthenticated, HttpStatus.UNAUTHORIZED, message, .undefined, stack⟩
  | .tokenExpired message => ⟨.tokenExpired, HttpStatus.UNAUTHORIZED, message, .undefined, stack⟩
  | .insufficientPermission message required missing =>
      ⟨.insufficientPermission, HttpStatus.FORBIDDEN, message,
        .literal [(str "required", .strings required), (str "missing", .strings missing)], stack⟩

/-- Nest's own `ForbiddenException`, for a guard that returns `false`. -/
def forbiddenResource (stack : Any) : HttpException :=
  ⟨HttpStatus.FORBIDDEN, .literal [(str "message", .string (str "Forbidden resource")),
    (str "error", .string (str "Forbidden")), (str "statusCode", .number (str "403"))], str "Forbidden resource", stack⟩

section

variable (options : GlobalExceptionFilterOptions) (toLowerCase : Str → Str) (principalType : PrincipalType)
  (verifyAsync : Jwt) (context : ExecutionContext) (handler : Exception.Request → Handled) (runtime : Runtime)
  (arrival : Arrival)

/-- What follows the handler. -/
def afterHandler (request : Exception.Request) : Exception.Filter Unit :=
  match handler request with
  | .answered => .ret ()
  | .threw exception headersSent => catch_ options request (.node headersSent) runtime.filterUUID runtime.now exception

/-- What `next()` leads to. -/
def proceed (headers : Str → HeaderValue) : Exception.Filter Unit :=
  let (outcome, left) := handle toLowerCase principalType verifyAsync context headers
  let request := arrival.request left
  match outcome with
  | .reached => afterHandler options handler runtime request
  | .forbidden => catch_ options request (.node false) runtime.filterUUID runtime.now (.http (forbiddenResource runtime.stack))
  | .refused e => catch_ options request (.node false) runtime.filterUUID runtime.now (.domain (raised runtime.stack e))

/-- The whole exchange. -/
def exchange : Exception.Filter Unit := do
  let _ ← use (arrival.request (incoming arrival.headers)) runtime.randomUUID
  proceed options toLowerCase principalType verifyAsync context handler runtime arrival
    (assignCorrelationId arrival.headers runtime.randomUUID).2

/-- The id of the exchange. -/
def Arrival.id : Str := correlationIdOf (arrival.headers HeaderKey.CORRELATION_ID) runtime.randomUUID

/-- **A refusal:** the id on the response, one warning in the log and one answer, all under the id of the exchange; and
    nothing else. -/
def Refused (code : ErrorCode) (status : ℤ) (details : Any) (ran : List Act × Except Unit Unit) : Prop :=
  ∃ message,
    ran = ([.setHeader HeaderKey.CORRELATION_ID (arrival.id runtime),
      .setHeader HeaderKey.CORRELATION_ID (arrival.id runtime),
      .warn ⟨arrival.id runtime, some code, some status, arrival.method, arrival.path, .string message⟩,
      .respond (some status)
        ⟨some code, .string message, .given details, arrival.id runtime, runtime.now, arrival.path⟩], .ok ())

end

variable {options : GlobalExceptionFilterOptions} {toLowerCase : Str → Str} {principalType : PrincipalType}
  {verifyAsync : Jwt} {context : ExecutionContext} {runtime : Runtime} {arrival : Arrival}

/-! ## What the middleware leaves to the guards -/

theorem authorization_ne_correlationId : HeaderKey.AUTHORIZATION ≠ HeaderKey.CORRELATION_ID := by decide +kernel

/-- The token a request carries is not the middleware's business. -/
theorem carries_assigned {headers : Str → HeaderValue} {randomUUID token : Str} :
    AuthGuard.Carries toLowerCase (incoming (assignCorrelationId headers randomUUID).2) token ↔
      AuthGuard.Carries toLowerCase (incoming headers) token := by
  have hread : AuthGuard.readHeader (incoming (assignCorrelationId headers randomUUID).2) HeaderKey.AUTHORIZATION
      = AuthGuard.readHeader (incoming headers) HeaderKey.AUTHORIZATION := by
    unfold AuthGuard.readHeader incoming assignCorrelationId
    dsimp only
    rw [Function.update_of_ne authorization_ne_correlationId]
  unfold AuthGuard.Carries
  rw [hread]

/-- Neither is how the request stands. -/
theorem stands_assigned {headers : Str → HeaderValue} (randomUUID : Str) {standing : Standing} :
    Stands toLowerCase principalType verifyAsync context (assignCorrelationId headers randomUUID).2 standing ↔
      Stands toLowerCase principalType verifyAsync context headers standing := by
  unfold Stands Expired Identifies
  simp only [carries_assigned]

/-! ## What the filter makes of a refusal -/

/-- The normalized form of a domain exception: its own code, status, message and details. -/
def normalizedForm (exception : DomainException) : NormalizedError :=
  ⟨some exception.code, some exception.status, .string exception.message, .given exception.details⟩

/-- **A domain exception below 500** is answered once, with one warning and no report. -/
theorem run_catch_domain {request : Exception.Request} {exception : DomainException}
    (hbelow : exception.status < 500) (hstatus : 100 ≤ exception.status)
    (hdetails : exception.details.stringifies = true) {randomUUID : Str}
    (htext : isHeaderText (request.correlationId randomUUID) = true) (now : Str) :
    (catch_ options request (.node false) randomUUID now (.domain exception)).run (Response.node false).answer =
      ([.setHeader HeaderKey.CORRELATION_ID (request.correlationId randomUUID),
        .warn ⟨request.correlationId randomUUID, some exception.code, some exception.status, request.method,
          request.path, .string exception.message⟩,
        .respond (some exception.status) ⟨some exception.code, .string exception.message, .given exception.details,
          request.correlationId randomUUID, now, request.path⟩], .ok ()) := by
  have hnormalized : normalize options.exposeInternalErrors (.domain exception) = some (normalizedForm exception) := rfl
  have hwarn : isServerError (some exception.status) ≠ true := by
    rw [Ne, isServerError_some]
    omega
  -- nothing below 500 is reported
  have hquiet : captures options request (some exception.status) = false := by
    have hbelow' : isBelowServerError (some exception.status) = true := isBelowServerError_some.mpr hbelow
    unfold captures
    rw [hbelow']
    simp
  have hlog : logAct request (.domain exception) (normalizedForm exception) (request.correlationId randomUUID)
      = some (.warn (logLine request (normalizedForm exception) (request.correlationId randomUUID))) := by
    unfold logAct
    exact if_neg hwarn
  have haccepts : (Response.node false).accepts (some exception.status)
      (envelope request (normalizedForm exception) (request.correlationId randomUUID) now) = true := by
    apply accepts_iff.mpr
    refine ⟨rfl, ⟨exception.status, rfl, hstatus, by omega⟩, ?_⟩
    exact hdetails
  have hquiet' : captures options request (normalizedForm exception).status = false := hquiet
  have htaken : (Response.node false).answer (.respond (normalizedForm exception).status
      (envelope request (normalizedForm exception) (request.correlationId randomUUID) now)) = .ok () := if_pos haccepts
  rw [run_catch (fun _ => htext) hnormalized hlog, hquiet', htaken]
  rfl

/-- Every exception of the guards is such an exception. -/
theorem raised_below (stack : Any) (e : AuthException) :
    (raised stack e).status < 500 ∧ 100 ≤ (raised stack e).status ∧ (raised stack e).details.stringifies = true := by
  cases e with
  | unauthenticated message | tokenExpired message =>
      exact ⟨show (401 : ℤ) < 500 by decide, show (100 : ℤ) ≤ 401 by decide, rfl⟩
  | insufficientPermission message required missing =>
      exact ⟨show (403 : ℤ) < 500 by decide, show (100 : ℤ) ≤ 403 by decide, rfl⟩

/-- The filter finds the id the middleware has written back. -/
theorem correlationId_kept (huuid : IsUuid runtime.randomUUID) {left : Auth.Request}
    (hheaders : left.headers = (assignCorrelationId arrival.headers runtime.randomUUID).2) :
    (arrival.request left).correlationId runtime.filterUUID = arrival.id runtime := by
  have hfound : left.headers HeaderKey.CORRELATION_ID = .one (arrival.id runtime) := by
    rw [hheaders]
    exact Function.update_self (f := arrival.headers) HeaderKey.CORRELATION_ID _
  show correlationIdOf (left.headers HeaderKey.CORRELATION_ID) runtime.filterUUID = _
  rw [hfound]
  exact correlationIdOf_one (correlationIdOf_usable huuid _) _

/-- The middleware does its part and goes on. -/
theorem run_exchange {handler : Exception.Request → Handled} {answer : Act → Except Unit Unit}
    (htaken : answer (.setHeader HeaderKey.CORRELATION_ID (arrival.id runtime)) = .ok ()) :
    (exchange options toLowerCase principalType verifyAsync context handler runtime arrival).run answer =
      (.setHeader HeaderKey.CORRELATION_ID (arrival.id runtime) ::
        ((proceed options toLowerCase principalType verifyAsync context handler runtime arrival
          (assignCorrelationId arrival.headers runtime.randomUUID).2).run answer).1,
        ((proceed options toLowerCase principalType verifyAsync context handler runtime arrival
          (assignCorrelationId arrival.headers runtime.randomUUID).2).run answer).2) := by
  unfold exchange
  have huse : (use (arrival.request (incoming arrival.headers)) runtime.randomUUID).run answer
      = ([.setHeader HeaderKey.CORRELATION_ID (arrival.id runtime)], .ok (arrival.id runtime)) :=
    Prog.run_ask_ok answer htaken
  rw [Prog.run_bind_ok _ huse]
  rfl

/-- **A refused request is answered by its exception's class.** -/
theorem refused_of_handle {handler : Exception.Request → Handled} (huuid : IsUuid runtime.randomUUID)
    (hdelivered : Delivered (arrival.headers HeaderKey.CORRELATION_ID)) {e : AuthException}
    {left : Auth.Request} (hleft : left.headers = (assignCorrelationId arrival.headers runtime.randomUUID).2)
    (h : handle toLowerCase principalType verifyAsync context (assignCorrelationId arrival.headers runtime.randomUUID).2
      = (.refused e, left)) :
    Refused runtime arrival (raised runtime.stack e).code (raised runtime.stack e).status (raised runtime.stack e).details
      ((exchange options toLowerCase principalType verifyAsync context handler runtime arrival).run
        (Response.node false).answer) := by
  have hnext : proceed options toLowerCase principalType verifyAsync context handler runtime arrival
      (assignCorrelationId arrival.headers runtime.randomUUID).2
        = catch_ options (arrival.request left) (.node false) runtime.filterUUID runtime.now
            (.domain (raised runtime.stack e)) := by
    unfold proceed
    rw [h]
  obtain ⟨hbelow, hstatus, hdetails⟩ := raised_below runtime.stack e
  have htext : isHeaderText (arrival.id runtime) = true := correlationIdOf_headerText huuid hdelivered
  have hkept := correlationId_kept huuid hleft
  rw [run_exchange (if_pos htext), hnext, run_catch_domain hbelow hstatus hdetails (hkept.symm ▸ htext), hkept]
  exact ⟨_, rfl⟩

/-- **The verdict decides the answer.** Every request to an HTTP route stands somehow: its route is public, or the token
    library has found its token expired, or it holds fit claims, or none of these; and with the permissions the route
    requires that gives one verdict. An admitted request reaches the handler with the context its claims make and the
    id of the exchange, and from there on all is the handler's and, if it throws, the filter's. Any other is answered
    once, by code and status, under the same id, and leaves one warning in the log and nothing with the error tracker;
    what the answer tells of the route and the token is the permissions missing, and only to a caller whose token is
    good. -/
theorem exchange_verdict (hhttp : context.type = str "http") (huuid : IsUuid runtime.randomUUID)
    (hdelivered : Delivered (arrival.headers HeaderKey.CORRELATION_ID)) (handler : Exception.Request → Handled) :
    (∃ standing, Stands toLowerCase principalType verifyAsync context arrival.headers standing) ∧
    ∀ standing, Stands toLowerCase principalType verifyAsync context arrival.headers standing →
      let ran := (exchange options toLowerCase principalType verifyAsync context handler runtime arrival).run
      match standing.verdict context with
      | .admitted => ∃ left : Auth.Request,
          left.headers = (assignCorrelationId arrival.headers runtime.randomUUID).2 ∧
          Parked principalType standing left ∧
          ∀ answer, answer (.setHeader HeaderKey.CORRELATION_ID (arrival.id runtime)) = .ok () →
            ran answer = (.setHeader HeaderKey.CORRELATION_ID (arrival.id runtime) ::
                ((afterHandler options handler runtime (arrival.request left)).run answer).1,
              ((afterHandler options handler runtime (arrival.request left)).run answer).2)
      | .expired => Refused runtime arrival .tokenExpired 401 .undefined (ran (Response.node false).answer)
      | .unidentified => Refused runtime arrival .unauthenticated 401 .undefined (ran (Response.node false).answer)
      | .lacking missing => Refused runtime arrival .insufficientPermission 403
          (.literal [(str "required", .strings (PermissionGuard.required context)), (str "missing", .strings missing)])
          (ran (Response.node false).answer) := by
  refine ⟨stands_total _ _ _ _ _, ?_⟩
  intro standing hstands
  dsimp only
  obtain ⟨outcome, left, hhandle, hgoes, hheaders, hparked⟩ :=
    handle_verdict hhttp ((stands_assigned runtime.randomUUID).mpr hstands)
  cases hverdict : standing.verdict context with
  | admitted =>
      rw [hverdict] at hgoes
      obtain rfl : outcome = .reached := hgoes
      refine ⟨left, hheaders, hparked, ?_⟩
      intro answer htaken
      have hnext : proceed options toLowerCase principalType verifyAsync context handler runtime arrival
          (assignCorrelationId arrival.headers runtime.randomUUID).2
            = afterHandler options handler runtime (arrival.request left) := by
        unfold proceed
        rw [hhandle]
      rw [run_exchange htaken, hnext]
  | expired =>
      rw [hverdict] at hgoes
      obtain ⟨message, rfl⟩ := hgoes
      exact refused_of_handle huuid hdelivered hheaders hhandle
  | unidentified =>
      rw [hverdict] at hgoes
      obtain ⟨message, rfl⟩ := hgoes
      exact refused_of_handle huuid hdelivered hheaders hhandle
  | lacking missing =>
      rw [hverdict] at hgoes
      obtain ⟨message, rfl⟩ := hgoes
      exact refused_of_handle huuid hdelivered hheaders hhandle

/-! ## A token that has expired -/

/-- The request of a service whose token has run out. -/
def lateArrival : Arrival := ⟨serviceHeaders, str "/things", str "GET", ⟨[], some (.text (str "/things"))⟩⟩

def quietRuntime : Runtime := ⟨nilUuid, nilUuid, str "2026-01-01T00:00:00.000Z", .undefined⟩

/-- It is told to refresh, by a 401 with a code of its own, and not what the handler would have answered. -/
theorem exchange_verdict_late :
    Refused quietRuntime lateArrival .tokenExpired 401 .undefined
      ((exchange ⟨false, none⟩ id ⟨str "USER", str "SERVICE"⟩ (fun _ => .error .tokenExpiredError) thingRoute
        (fun _ => .answered) quietRuntime lateArrival).run (Response.node false).answer) := by
  have hcarries : AuthGuard.Carries id (incoming serviceHeaders) (str "token") :=
    AuthGuard.readBearerToken_eq_some.mp (by decide +kernel)
  have hdelivered : Delivered (lateArrival.headers HeaderKey.CORRELATION_ID) := by
    have habsent : serviceHeaders HeaderKey.CORRELATION_ID = .absent := by
      unfold serviceHeaders
      exact if_neg authorization_ne_correlationId.symm
    show Delivered (serviceHeaders HeaderKey.CORRELATION_ID)
    rw [habsent]
    nofun
  exact (exchange_verdict rfl nilUuid_isUuid hdelivered fun _ => .answered).2 .expired ⟨rfl, _, hcarries, rfl⟩

end Pipeline
end NestSdk
