import NestSdk.Context.CorrelationId
import NestSdk.Js.Any
import NestSdk.Lib.Prog
import NestSdk.Observability.Route

/-!
# `Exception.Filter` — the one place that turns a thrown value into a response

`GlobalExceptionFilter.catch` as a program over what it does to its surroundings: the response's header, the log,
the error reporter and the response itself. What it reads of the thrown value may throw, and so may the
response.
-/

namespace NestSdk
namespace Exception

open Js Lib Auth Observability

/-! ## What is thrown -/

/-- The members of `ErrorCode` this SDK names. -/
inductive ErrorCode
  | validationFailed
  | unauthenticated
  | invalidCredentials
  | tokenExpired
  | forbidden
  | insufficientPermission
  | tenantMismatch
  | resourceNotFound
  | resourceAlreadyExists
  | resourceConflict
  | payloadTooLarge
  | unprocessableEntity
  | rateLimitExceeded
  | externalServiceError
  | serviceUnavailable
  | dependencyTimeout
  | internalError
deriving DecidableEq, Repr

namespace HttpStatus

def BAD_REQUEST : ℤ := 400
def UNAUTHORIZED : ℤ := 401
def FORBIDDEN : ℤ := 403
def NOT_FOUND : ℤ := 404
def CONFLICT : ℤ := 409
def PAYLOAD_TOO_LARGE : ℤ := 413
def UNPROCESSABLE_ENTITY : ℤ := 422
def TOO_MANY_REQUESTS : ℤ := 429
def INTERNAL_SERVER_ERROR : ℤ := 500
def BAD_GATEWAY : ℤ := 502
def SERVICE_UNAVAILABLE : ℤ := 503
def GATEWAY_TIMEOUT : ℤ := 504

end HttpStatus

/-- An instance of `DomainException`. -/
structure DomainException where
  code : ErrorCode
  status : ℤ
  message : Str
  details : Any
  stack : Any

/-- An instance of Nest's `HttpException`: `getStatus()`, `getResponse()` and the properties of an `Error`. -/
structure HttpException where
  status : ℤ
  response : Any
  message : Str
  stack : Any

/-- A thrown value, by what `instanceof` tells of it. -/
inductive ThrownValue
  | domain (exception : DomainException)
  | http (exception : HttpException)
  | other (value : Any)

/-- `exception instanceof Error ? exception.stack : String(exception)`. -/
def ThrownValue.stackOrText : ThrownValue → Option Any
  | .domain exception => some exception.stack
  | .http exception => some exception.stack
  | .other value => do
      let isError ← value.instanceofError
      if isError then value.get (str "stack")
      else
        let text ← value.toText
        return .string text

/-! ## Normalizing -/

/-- `details`, by who gave them. -/
inductive Details
  | undefined
  | given (details : Any)
  | violations (message : Any)
  | constraint (constraint : Option Str)
  | stack (stack : Any)

/-- `JSON.stringify` gets through the details. -/
def Details.stringifies : Details → Bool
  | .undefined => true
  | .constraint _ => true
  | .given value => value.stringifies
  | .violations value => value.stringifies
  | .stack value => value.stringifies

/-- The normalized form, as it is at run time: a code and a status may be `undefined`. -/
structure NormalizedError where
  code : Option ErrorCode
  status : Option ℤ
  message : Any
  details : Details

/-- Message returned in place of an unexpected error's own, which is logged but never sent. -/
def GENERIC_INTERNAL_MESSAGE : Str := str "An unexpected error occurred"

/-- An entry of `POSTGRES_ERROR_MAP`, or something else found under its name. -/
structure PostgresError where
  code : Option ErrorCode
  status : Option ℤ
  message : Any

/-- The SQLSTATEs worth translating. -/
def mappedSqlState (sqlState : Str) : Option PostgresError :=
  if sqlState = str "23505" then
    some ⟨some .resourceAlreadyExists, some HttpStatus.CONFLICT,
      .string (str "A resource with these values already exists")⟩
  else if sqlState = str "23503" then
    some ⟨some .resourceConflict, some HttpStatus.CONFLICT,
      .string (str "A referenced resource does not exist or is still in use")⟩
  else if sqlState = str "23514" then
    some ⟨some .unprocessableEntity, some HttpStatus.UNPROCESSABLE_ENTITY,
      .string (str "A value violates a database constraint")⟩
  else none

/-- What every object literal inherits. -/
def objectPrototypeNames : List Str :=
  [str "constructor", str "__defineGetter__", str "__defineSetter__", str "hasOwnProperty",
    str "__lookupGetter__", str "__lookupSetter__", str "isPrototypeOf", str "propertyIsEnumerable",
    str "toString", str "valueOf", str "__proto__", str "toLocaleString"]

/-- `POSTGRES_ERROR_MAP[sqlState]`. The map is an object literal: under an inherited name there is a value, a
    function or the prototype itself, that has no `code`, `status` or `message`. -/
def POSTGRES_ERROR_MAP (sqlState : Str) : Option PostgresError :=
  if sqlState ∈ objectPrototypeNames then some ⟨none, none, .undefined⟩ else mappedSqlState sqlState

/-- Status → code for a framework `HttpException` that carries no code of its own. -/
def STATUS_TO_ERROR_CODE (status : ℤ) : Option ErrorCode :=
  [(HttpStatus.BAD_REQUEST, ErrorCode.validationFailed), (HttpStatus.UNAUTHORIZED, .unauthenticated),
    (HttpStatus.FORBIDDEN, .forbidden), (HttpStatus.NOT_FOUND, .resourceNotFound),
    (HttpStatus.CONFLICT, .resourceConflict), (HttpStatus.PAYLOAD_TOO_LARGE, .payloadTooLarge),
    (HttpStatus.UNPROCESSABLE_ENTITY, .unprocessableEntity),
    (HttpStatus.TOO_MANY_REQUESTS, .rateLimitExceeded), (HttpStatus.BAD_GATEWAY, .externalServiceError),
    (HttpStatus.SERVICE_UNAVAILABLE, .serviceUnavailable),
    (HttpStatus.GATEWAY_TIMEOUT, .dependencyTimeout)].lookup status

/-- The value the driver's properties are read from. -/
def driverErrorOf (exception : Any) : Option Any := do
  let isWrapped ← exception.has (str "driverError")
  if isWrapped then exception.get (str "driverError") else return exception

/-- A driver's error, by its shape. -/
def fromPostgresError (exception : Any) : Option (Option NormalizedError) :=
  if !exception.isObject then some none
  else do
    let driverError ← driverErrorOf exception
    let sqlState ← readStringProperty driverError (str "code")
    match sqlState with
    | none | some [] => return none
    | some sqlState =>
        match POSTGRES_ERROR_MAP sqlState with
        | none => return none
        | some mapped =>
            let constraint ← readStringProperty driverError (str "constraint")
            return some ⟨mapped.code, mapped.status, mapped.message, .constraint constraint⟩

/-- The messages of a validation failure: a `message` that is a list of strings. -/
def readValidationViolations (payload : Any) : Option (Option Any) :=
  if !payload.isObject then some none
  else do
    let isThere ← payload.has (str "message")
    if !isThere then return none
    let message ← payload.get (str "message")
    return if message.isStringArray then some message else none

/-- `typeof payload === 'string' ? payload : readStringProperty(payload, 'message') ?? exception.message`. -/
def HttpException.messageOf (exception : HttpException) : Option Str :=
  match exception.response with
  | .string payload => some payload
  | payload => (readStringProperty payload (str "message")).map (·.getD exception.message)

/-- Framework exceptions, including the one the global `ValidationPipe` throws. -/
def fromHttpException (exception : HttpException) : Option NormalizedError := do
  let violations ← readValidationViolations exception.response
  match violations with
  | some violations =>
      return ⟨some .validationFailed, some HttpStatus.BAD_REQUEST, .string (str "Request validation failed"),
        .violations violations⟩
  | none =>
      let message ← exception.messageOf
      return ⟨some ((STATUS_TO_ERROR_CODE exception.status).getD .internalError), some exception.status,
        .string message, .undefined⟩

/-- The normalized form of a thrown value; `none` if reading the value throws. -/
def normalize (exposeInternalErrors : Bool) : ThrownValue → Option NormalizedError
  | .domain exception =>
      some ⟨some exception.code, some exception.status, .string exception.message, .given exception.details⟩
  | .http exception => fromHttpException exception
  | .other value => do
      let isError ← value.instanceofError
      let postgres ← fromPostgresError value
      match postgres with
      | some postgres => return postgres
      | none =>
          if exposeInternalErrors && isError then
            let message ← value.get (str "message")
            let stack ← value.get (str "stack")
            return ⟨some .internalError, some HttpStatus.INTERNAL_SERVER_ERROR, message, .stack stack⟩
          else
            return ⟨some .internalError, some HttpStatus.INTERNAL_SERVER_ERROR,
              .string GENERIC_INTERNAL_MESSAGE, .undefined⟩

/-! ## The surroundings -/

/-- An error tracker, by whether one is configured. -/
structure ErrorReporter where
  isEnabled : Bool

structure GlobalExceptionFilterOptions where
  exposeInternalErrors : Bool
  reporter : Option ErrorReporter

/-- What the filter reads of the request. -/
structure Request extends Auth.Request where
  path : Str
  method : Str
  routed : Routed

/-- The response, before the filter touches it. -/
structure Response where
  headersSent : Bool
  /-- `setHeader` takes the value: it throws at one that cannot be a header. -/
  takesHeader : Str → Bool

/-- A response of Node's. -/
def Response.node (headersSent : Bool) : Response := ⟨headersSent, Context.isHeaderText⟩

/-- What is logged beside the stack. -/
structure LogLine where
  correlationId : Str
  code : Option ErrorCode
  status : Option ℤ
  method : Str
  path : Str
  message : Any

/-- Structured context attached to a captured error. -/
structure ErrorReportContext where
  correlationId : Str
  tenantId : Option Uuid
  method : Str
  route : Str
  code : Option ErrorCode
  status : Option ℤ

/-- The envelope of a failed request. -/
structure ApiErrorResponse where
  code : Option ErrorCode
  message : Any
  details : Details
  correlationId : Str
  timestamp : Str
  path : Str

/-- `JSON.stringify` gets through the envelope. -/
def ApiErrorResponse.stringifies (body : ApiErrorResponse) : Bool :=
  body.message.stringifies && body.details.stringifies

/-- What the filter does to its surroundings. -/
inductive Act
  | setHeader (name value : Str)
  | error (line : LogLine) (stack : Any)
  | warn (line : LogLine)
  | capture (exception : ThrownValue) (context : ErrorReportContext)
  /-- `response.status(status).json(body)` -/
  | respond (status : Option ℤ) (body : ApiErrorResponse)

/-- What the act hands to the response. -/
def Act.response : Act → Option (Option ℤ × ApiErrorResponse)
  | .respond status body => some (status, body)
  | _ => none

/-- What the act reports. -/
def Act.captured : Act → Option ThrownValue
  | .capture exception _ => some exception
  | _ => none

/-- A part of the filter. It throws what it throws; nobody is left to look at it. -/
abbrev Filter := Prog Act (fun _ => Unit) Unit

/-- A read that throws ends the filter. -/
def read {α : Type} : Option α → Filter α
  | some a => .ret a
  | none => .fail ()

/-! ## The filter -/

section

variable (options : GlobalExceptionFilterOptions) (request : Request)

/-- `status >= 500`; an `undefined` status is not. -/
def isServerError (status : Option ℤ) : Bool :=
  status.any fun status => HttpStatus.INTERNAL_SERVER_ERROR ≤ status

/-- `status < 500`; an `undefined` status is not either. -/
def isBelowServerError (status : Option ℤ) : Bool :=
  status.any fun status => status < HttpStatus.INTERNAL_SERVER_ERROR

/-- The id of the request, written onto the response too. -/
def resolveCorrelationId (response : Response) (randomUUID : Str) : Filter Str := do
  let correlationId := (Context.assignCorrelationId request.headers randomUUID).1
  if !response.headersSent then Prog.ask (.setHeader HeaderKey.CORRELATION_ID correlationId)
  return correlationId

/-- 5xx is our fault and gets the stack; 4xx is the caller's and would drown the logs. -/
def log (exception : ThrownValue) (normalized : NormalizedError) (correlationId : Str) : Filter Unit :=
  let line : LogLine := ⟨correlationId, normalized.code, normalized.status, request.method, request.path,
    normalized.message⟩
  if isServerError normalized.status then do
    let stack ← read exception.stackOrText
    Prog.ask (.error line stack)
  else Prog.ask (.warn line)

/-- Tenant the request was acting in, when the auth layer resolved one. -/
def readTenantId : Option Uuid := request.iveriRequestContext.map (·.tenantId)

/-- Sends the failures worth a human's attention to the error tracker. -/
def report (exception : ThrownValue) (normalized : NormalizedError) (correlationId : Str) : Filter Unit :=
  if !options.reporter.any (·.isEnabled) || isBelowServerError normalized.status
      || isInfrastructureRoute request.path INFRASTRUCTURE_ROUTE_PREFIXES then
    .ret ()
  else
    Prog.ask (.capture exception ⟨correlationId, readTenantId request, request.method,
      readRoutePattern request.routed, normalized.code, normalized.status⟩)

/-- The body of the response. -/
def envelope (normalized : NormalizedError) (correlationId now : Str) : ApiErrorResponse :=
  ⟨normalized.code, normalized.message, normalized.details, correlationId, now, request.path⟩

/-- `GlobalExceptionFilter.catch`. The clock and the fresh id are what the runtime would answer. -/
def catch_ (response : Response) (randomUUID now : Str) (exception : ThrownValue) : Filter Unit := do
  let normalized ← read (normalize options.exposeInternalErrors exception)
  let correlationId ← resolveCorrelationId request response randomUUID
  log request exception normalized correlationId
  report options request exception normalized correlationId
  Prog.ask (.respond normalized.status (envelope request normalized correlationId now))

end

/-! ## The response -/

/-- `response.status(status).json(body)` goes through: nothing has been sent, the status is one Express takes,
    and the body becomes JSON. Otherwise it throws, and nothing is written. -/
def Response.accepts (response : Response) (status : Option ℤ) (body : ApiErrorResponse) : Bool :=
  !response.headersSent && status.any (fun status => 100 ≤ status && status ≤ 999) && body.stringifies

/-- What each act comes back with. Log lines and reports are taken as they come. -/
def Response.answer (response : Response) : Act → Except Unit Unit
  | .respond status body => if response.accepts status body then .ok () else .error ()
  | .setHeader _ value => if response.takesHeader value then .ok () else .error ()
  | .error _ _ | .warn _ | .capture _ _ => .ok ()

/-- The response takes the id, if it is told it. -/
def Response.TakesId (response : Response) (correlationId : Str) : Prop :=
  response.headersSent = false → response.takesHeader correlationId = true

/-- What reaches the client of the acts. -/
def Response.sent (response : Response) (acts : List Act) : List (Option ℤ × ApiErrorResponse) :=
  (acts.filterMap Act.response).filter fun (status, body) => response.accepts status body

end Exception
end NestSdk
