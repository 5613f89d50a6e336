import NestSdk.Exception.Answers

/-!
# `Exception.Severity` — the status an exception chose

An exception that knows its status keeps it: in the answer, in the level of its log line, and in whether it is
reported. A payload whose `message` is a list of strings is taken for the `ValidationPipe`'s, whatever the status
of the exception that carries it.
-/

namespace NestSdk
namespace Exception

open Js Lib Observability

section

variable {options : GlobalExceptionFilterOptions} {request : Request} {response : Response}
  {randomUUID now : Str}

/-- The filter settles on `status`, whatever becomes of the response: the response is handed one answer, with that
    status, and the exception is logged as an error and reported as that status demands. -/
structure SettlesOn (options : GlobalExceptionFilterOptions) (request : Request) (response : Response)
    (randomUUID now : Str) (exception : ThrownValue) (status : ℤ) : Prop where
  handed : ∃ body,
    ((catch_ options request response randomUUID now exception).run response.answer).1.filterMap Act.response
      = [(some status, body)]
  logged : (∃ line stack, Act.error line stack ∈
    ((catch_ options request response randomUUID now exception).run response.answer).1) ↔ 500 ≤ status
  reported :
    ((catch_ options request response randomUUID now exception).run response.answer).1.filterMap Act.captured
      = if 500 ≤ status ∧ options.reporter.any (·.isEnabled) = true ∧
          isInfrastructureRoute request.path INFRASTRUCTURE_ROUTE_PREFIXES = false then [exception] else []

/-- The filter goes by `status`: it settles on it, and that is the answer the client is sent. -/
structure GoesBy (options : GlobalExceptionFilterOptions) (request : Request) (response : Response)
    (randomUUID now : Str) (exception : ThrownValue) (status : ℤ) : Prop
    extends SettlesOn options request response randomUUID now exception status where
  rendered : ∃ body,
    response.sent ((catch_ options request response randomUUID now exception).run response.answer).1
      = [(some status, body)]

/-- The response can still be sent an answer with this status and these details. -/
structure Response.CanSend (response : Response) (status : ℤ) (details : Details) : Prop where
  fresh : response.headersSent = false
  status : 100 ≤ status ∧ status ≤ 999
  details : details.stringifies = true

theorem captures_some {status : ℤ} :
    captures options request (some status) = true ↔ 500 ≤ status ∧
      options.reporter.any (·.isEnabled) = true ∧
        isInfrastructureRoute request.path INFRASTRUCTURE_ROUTE_PREFIXES = false := by
  unfold captures
  rw [Bool.and_eq_true_iff, Bool.and_eq_true_iff, Bool.not_eq_true', Bool.not_eq_true',
    ← Bool.not_eq_true, isBelowServerError_some, not_lt]
  tauto

/-- What can be described can be logged. -/
theorem exists_logAct {exception : ThrownValue} (hdescribed : exception.stackOrText ≠ none) (request : Request)
    (normalized : NormalizedError) (correlationId : Str) :
    ∃ act, logAct request exception normalized correlationId = some act := by
  apply Option.ne_none_iff_exists'.mp
  intro hnone
  exact hdescribed (logAct_eq_none.mp hnone).2

section Takes

variable {exception : ThrownValue} {normalized : NormalizedError} {status : ℤ}
  (htakes : response.TakesId (request.correlationId randomUUID))

include htakes

/-- A normalized form with the exception's status is what the filter settles on. -/
theorem settlesOn_of_normalize (hnormalized : normalize options.exposeInternalErrors exception = some normalized)
    (hdescribed : exception.stackOrText ≠ none) (hstatus : normalized.status = some status) :
    SettlesOn options request response randomUUID now exception status := by
  obtain ⟨act, hlog⟩ := exists_logAct hdescribed request normalized (request.correlationId randomUUID)
  refine ⟨⟨envelope request normalized (request.correlationId randomUUID) now, ?_⟩, ?_, ?_⟩
  · rw [response_catch htakes hnormalized hlog, hstatus]
  · rw [logged_catch htakes hnormalized hlog, hstatus, isServerError_some]
  · rw [captured_catch htakes hnormalized hlog, hstatus]
    exact if_congr captures_some rfl rfl

/-- What the filter settles on is the normalized status. -/
theorem SettlesOn.normalizes (h : SettlesOn options request response randomUUID now exception status) :
    ∃ normalized, normalize options.exposeInternalErrors exception = some normalized ∧
      normalized.status = some status := by
  obtain ⟨body, hhanded⟩ := h.handed
  obtain ⟨normalized, act, hnormalized, hlog⟩ :=
    logged_of_response htakes (by rw [hhanded]; exact List.cons_ne_nil _ _)
  rw [response_catch htakes hnormalized hlog] at hhanded
  exact ⟨normalized, hnormalized, (Prod.mk.inj (List.cons.inj hhanded).1).1⟩

/-- **What is settled on is sent** exactly if the response can send it. -/
theorem goesBy_iff_canSend (hnormalized : normalize options.exposeInternalErrors exception = some normalized)
    (hdescribed : exception.stackOrText ≠ none) (hmessage : normalized.message.stringifies = true) :
    GoesBy options request response randomUUID now exception status ↔
      normalized.status = some status ∧ response.CanSend status normalized.details := by
  -- the rest of a body always can be serialised
  have hbody : (envelope request normalized (request.correlationId randomUUID) now).stringifies
      = normalized.details.stringifies := by
    show (normalized.message.stringifies && normalized.details.stringifies) = _
    rw [hmessage, Bool.true_and]
  constructor
  · intro h
    obtain ⟨form, hform, hstatus⟩ := h.toSettlesOn.normalizes htakes
    obtain rfl := Option.some.inj (hform.symm.trans hnormalized)
    obtain ⟨act, hlog⟩ := exists_logAct hdescribed request form (request.correlationId randomUUID)
    obtain ⟨body, hsent⟩ := h.rendered
    rw [sent_catch htakes hnormalized hlog] at hsent
    split at hsent
    · next haccepts =>
        obtain ⟨hfresh, ⟨code, hcode, hlow, hhigh⟩, hstringifies⟩ := accepts_iff.mp haccepts
        obtain rfl := Option.some.inj (hstatus.symm.trans hcode)
        exact ⟨hstatus, hfresh, ⟨hlow, hhigh⟩, hbody ▸ hstringifies⟩
    · cases hsent
  · rintro ⟨hstatus, hsend⟩
    refine ⟨settlesOn_of_normalize htakes hnormalized hdescribed hstatus, ?_⟩
    have haccepts : response.accepts normalized.status
        (envelope request normalized (request.correlationId randomUUID) now) = true :=
      accepts_iff.mpr ⟨hsend.fresh, ⟨status, hstatus, hsend.status.1, hsend.status.2⟩, hbody ▸ hsend.details⟩
    have hreturns : ((catch_ options request response randomUUID now exception).run response.answer).2 = .ok () :=
      (returns_iff htakes).mpr ⟨normalized, hnormalized, fun _ => hdescribed, haccepts⟩
    exact ⟨_, by rw [sent_of_returns htakes hnormalized hreturns, hstatus]⟩

end Takes

/-! ## Payloads -/

/-- The message of a payload that is no validation failure can be read. -/
theorem messageOf_isSome {exception : HttpException} {violations : Option Any}
    (h : readValidationViolations exception.response = some violations) :
    ∃ message, exception.messageOf = some message := by
  unfold HttpException.messageOf
  split
  · exact ⟨_, rfl⟩
  · apply Option.ne_none_iff_exists'.mp
    intro hnone
    have hunread := Option.map_eq_none_iff.mp hnone
    -- both read the same property, and of an object only
    unfold readStringProperty at hunread
    unfold readValidationViolations at h
    split at hunread
    · cases hunread
    · rw [if_neg (by assumption)] at h
      cases hthere : exception.response.has (str "message") with
      | none =>
          rw [hthere] at h
          cases h
      | some isThere =>
          rw [hthere] at h hunread
          cases isThere with
          | false => cases hunread
          | true =>
              cases hmessage : exception.response.get (str "message") with
              | none =>
                  rw [hmessage] at h
                  cases h
              | some message =>
                  rw [hmessage] at hunread
                  cases hunread

/-- The details of an `HttpException`'s answer: the violations, where the payload looks like a validation failure. -/
def detailsOf : Option Any → Details
  | some violations => .violations violations
  | none => .undefined

/-- **A payload that can be read** leaves the exception its status, or makes it 400 if it looks like a validation
    failure. -/
theorem fromHttpException_read (options : GlobalExceptionFilterOptions) {exception : HttpException} {violations : Option Any}
    (h : readValidationViolations exception.response = some violations) :
    ∃ normalized, normalize options.exposeInternalErrors (.http exception) = some normalized ∧
      normalized.status = some (if violations = none then exception.status else HttpStatus.BAD_REQUEST) ∧
      normalized.message.stringifies = true ∧ normalized.details = detailsOf violations := by
  show ∃ normalized, fromHttpException exception = some normalized ∧ _
  unfold fromHttpException
  cases violations with
  | none =>
      obtain ⟨message, hmessage⟩ := messageOf_isSome h
      rw [h, hmessage]
      exact ⟨_, rfl, rfl, rfl, rfl⟩
  | some violations =>
      rw [h]
      exact ⟨_, rfl, rfl, rfl, rfl⟩

theorem fromHttpException_unread {exception : HttpException}
    (h : readValidationViolations exception.response = none) : fromHttpException exception = none := by
  unfold fromHttpException
  rw [h]
  rfl

/-- Whose status that is. -/
theorem own_status_iff {violations : Option Any} {status : ℤ} :
    some (if violations = none then status else HttpStatus.BAD_REQUEST) = some status ↔
      (violations ≠ none → status = 400) := by
  rw [Option.some_inj]
  by_cases hnone : violations = none
  · simp [hnone]
  · rw [if_neg hnone]
    exact ⟨fun h _ => h.symm, fun h => (h hnone).symm⟩

section Own

variable (htakes : response.TakesId (request.correlationId randomUUID)) (exception : HttpException)

include htakes

/-- The filter settles on an `HttpException`'s own status exactly if the payload can be read and, with any status but
    400, does not look like a validation failure. -/
theorem settlesOn_http_iff :
    SettlesOn options request response randomUUID now (.http exception) exception.status ↔
      ∃ violations, readValidationViolations exception.response = some violations ∧
        (violations ≠ none → exception.status = 400) := by
  constructor
  · intro h
    obtain ⟨normalized, hnormalized, hstatus⟩ := h.normalizes htakes
    cases hviolations : readValidationViolations exception.response with
    | none =>
        have hthrows : fromHttpException exception = some normalized := hnormalized
        rw [fromHttpException_unread hviolations] at hthrows
        cases hthrows
    | some violations =>
        obtain ⟨form, hform, hread, -⟩ := fromHttpException_read options hviolations
        obtain rfl := Option.some.inj (hform.symm.trans hnormalized)
        exact ⟨violations, rfl, own_status_iff.mp (hread.symm.trans hstatus)⟩
  · rintro ⟨violations, hviolations, hlist⟩
    obtain ⟨normalized, hnormalized, hread, -⟩ := fromHttpException_read options hviolations
    exact settlesOn_of_normalize htakes hnormalized (Option.some_ne_none _) (hread.trans (own_status_iff.mpr hlist))

/-- It goes by it exactly if, besides, the response can send it. -/
theorem goesBy_http_iff :
    GoesBy options request response randomUUID now (.http exception) exception.status ↔
      ∃ violations, readValidationViolations exception.response = some violations ∧
        (violations ≠ none → exception.status = 400) ∧ response.CanSend exception.status (detailsOf violations) := by
  constructor
  · intro h
    obtain ⟨violations, hviolations, hlist⟩ := (settlesOn_http_iff htakes exception).mp h.toSettlesOn
    obtain ⟨normalized, hnormalized, -, hmessage, hdetails⟩ := fromHttpException_read options hviolations
    have hsend := ((goesBy_iff_canSend htakes hnormalized (Option.some_ne_none _) hmessage).mp h).2
    rw [hdetails] at hsend
    exact ⟨violations, hviolations, hlist, hsend⟩
  · rintro ⟨violations, hviolations, hlist, hsend⟩
    obtain ⟨normalized, hnormalized, hread, hmessage, hdetails⟩ := fromHttpException_read options hviolations
    rw [← hdetails] at hsend
    exact (goesBy_iff_canSend htakes hnormalized (Option.some_ne_none _) hmessage).mpr
      ⟨hread.trans (own_status_iff.mpr hlist), hsend⟩

end Own

/-- **An exception's own status decides.** Where the response takes the id of the request: of a `DomainException` its
    status is logged and reported by always, and sent exactly if the response has not started, the status is one that
    can be sent and the details can be serialised; of an `HttpException` the same, exactly if besides the payload can be
    read and, with any status but 400, does not look like a validation failure. -/
theorem goesBy_iff (htakes : response.TakesId (request.correlationId randomUUID)) :
    (∀ exception : DomainException,
      SettlesOn options request response randomUUID now (.domain exception) exception.status ∧
      (GoesBy options request response randomUUID now (.domain exception) exception.status ↔
        response.CanSend exception.status (.given exception.details))) ∧
    (∀ exception : HttpException,
      (SettlesOn options request response randomUUID now (.http exception) exception.status ↔
        ∃ violations, readValidationViolations exception.response = some violations ∧
          (violations ≠ none → exception.status = 400)) ∧
      (GoesBy options request response randomUUID now (.http exception) exception.status ↔
        ∃ violations, readValidationViolations exception.response = some violations ∧
          (violations ≠ none → exception.status = 400) ∧
          response.CanSend exception.status (detailsOf violations))) := by
  refine ⟨fun exception => ?_, fun exception =>
    ⟨settlesOn_http_iff htakes exception, goesBy_http_iff htakes exception⟩⟩
  have hown : normalize options.exposeInternalErrors (.domain exception)
      = some ⟨some exception.code, some exception.status, .string exception.message, .given exception.details⟩ := rfl
  refine ⟨settlesOn_of_normalize htakes hown (Option.some_ne_none _) rfl, ?_⟩
  rw [goesBy_iff_canSend htakes hown (Option.some_ne_none _) rfl]
  exact ⟨fun h => h.2, fun h => ⟨rfl, h⟩⟩

end

/-- A refusal of the domain's is sent as it is. -/
theorem goesBy_iff_conflict :
    GoesBy ⟨false, some ⟨true⟩⟩ tenantList (.node false) Context.nilUuid []
      (.domain ⟨.resourceConflict, 409, str "Tenant is in use", .undefined, .undefined⟩) 409 :=
  ((goesBy_iff (takesId_nilUuid false)).1 ⟨.resourceConflict, 409, str "Tenant is in use", .undefined, .undefined⟩).2.mpr
    ⟨rfl, by decide, rfl⟩

/-- `new InternalServerErrorException(['shard 1 is down'])`, as Nest builds it. -/
def shardDown : HttpException :=
  ⟨500, .literal [(str "message", .strings [str "shard 1 is down"]), (str "error", .string (str "Internal Server Error")),
    (str "statusCode", .number (str "500"))], str "Internal Server Error Exception", .undefined⟩

/-- A failure of the server, told as a list, becomes a failure of the caller. -/
theorem shardDown_downgraded :
    ¬ GoesBy ⟨false, some ⟨true⟩⟩ tenantList (.node false) Context.nilUuid [] (.http shardDown) shardDown.status := by
  intro h
  obtain ⟨violations, hviolations, hlist⟩ := (settlesOn_http_iff (takesId_nilUuid false) shardDown).mp h.toSettlesOn
  have hread : readValidationViolations shardDown.response = some (some (.strings [str "shard 1 is down"])) := rfl
  obtain rfl := Option.some.inj (hread.symm.trans hviolations)
  exact absurd (hlist (Option.some_ne_none _)) (by decide)

end Exception
end NestSdk
