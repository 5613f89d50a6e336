import NestSdk.Exception.Filter

/-!
# `Exception.Run` — what the filter does to its surroundings

One equation for each part of `catch_`, and one for the whole: the header, the line in the log, the report and the
response, in this order. Where the response takes the id, the filter returns exactly if the value can be read and
described and the response takes the answer.
-/

namespace NestSdk
namespace Exception

open Js Lib Auth Observability

@[simp] theorem isServerError_some {status : ℤ} : isServerError (some status) = true ↔ 500 ≤ status :=
  decide_eq_true_iff

@[simp] theorem isBelowServerError_some {status : ℤ} : isBelowServerError (some status) = true ↔ status < 500 :=
  decide_eq_true_iff

/-! ## What each part does -/

section

variable {options : GlobalExceptionFilterOptions} {request : Request} {response : Response}
  {exception : ThrownValue} {normalized : NormalizedError}

/-- The id of the request. -/
def Request.correlationId (request : Request) (randomUUID : Str) : Str :=
  (Context.assignCorrelationId request.headers randomUUID).1

/-- The filter reports an error of this status. -/
def captures (options : GlobalExceptionFilterOptions) (request : Request) (status : Option ℤ) : Bool :=
  options.reporter.any (·.isEnabled) && !isBelowServerError status &&
    !isInfrastructureRoute request.path INFRASTRUCTURE_ROUTE_PREFIXES

/-- The line a failure leaves in the log. -/
def logLine (request : Request) (normalized : NormalizedError) (correlationId : Str) : LogLine :=
  ⟨correlationId, normalized.code, normalized.status, request.method, request.path, normalized.message⟩

/-- The act of `log`, unless the stack cannot be read. -/
def logAct (request : Request) (exception : ThrownValue) (normalized : NormalizedError)
    (correlationId : Str) : Option Act :=
  if isServerError normalized.status then
    exception.stackOrText.map (.error (logLine request normalized correlationId))
  else some (.warn (logLine request normalized correlationId))

/-- The act of `report`. -/
def reportAct (request : Request) (exception : ThrownValue) (normalized : NormalizedError)
    (correlationId : Str) : Act :=
  .capture exception ⟨correlationId, readTenantId request, request.method,
    readRoutePattern request.routed, normalized.code, normalized.status⟩

theorem run_resolveCorrelationId {randomUUID : Str}
    (htakes : response.TakesId (request.correlationId randomUUID)) :
    (resolveCorrelationId request response randomUUID).run response.answer
      = (if response.headersSent then [] else
          [.setHeader HeaderKey.CORRELATION_ID (request.correlationId randomUUID)],
        .ok (request.correlationId randomUUID)) := by
  cases hsent : response.headersSent with
  | true =>
      simp only [resolveCorrelationId, hsent]
      rfl
  | false =>
      have htaken : response.answer (.setHeader HeaderKey.CORRELATION_ID (request.correlationId randomUUID)) = .ok () :=
        if_pos (htakes hsent)
      simp only [resolveCorrelationId, hsent]
      exact Prog.run_ask_ok response.answer htaken

theorem run_log {correlationId : Str} {act : Act}
    (h : logAct request exception normalized correlationId = some act) :
    (log request exception normalized correlationId).run response.answer = ([act], .ok ()) := by
  unfold logAct at h
  unfold log
  split at h
  · obtain ⟨stack, hstack, rfl⟩ := Option.map_eq_some_iff.mp h
    simp only [*, if_true]
    rfl
  · obtain rfl := Option.some.inj h
    simp only [*]
    rfl

theorem run_log_throws {correlationId : Str}
    (h : logAct request exception normalized correlationId = none) :
    (log request exception normalized correlationId).run response.answer = ([], .error ()) := by
  unfold logAct at h
  unfold log
  split at h
  · have hstack := Option.map_eq_none_iff.mp h
    simp only [*, if_true]
    rfl
  · cases h

theorem run_report {correlationId : Str} :
    (report options request exception normalized correlationId).run response.answer
      = (if captures options request normalized.status then
          [reportAct request exception normalized correlationId] else [], .ok ()) := by
  unfold report captures
  cases options.reporter.any (·.isEnabled) with
  | false => rfl
  | true =>
    cases isBelowServerError normalized.status with
    | true => rfl
    | false =>
      cases isInfrastructureRoute request.path INFRASTRUCTURE_ROUTE_PREFIXES with
      | true => rfl
      | false => rfl

/-! ## What the filter does -/

/-- **What the filter does,** once the value is normalized and its line can be written. -/
theorem run_catch {randomUUID now : Str} {act : Act}
    (htakes : response.TakesId (request.correlationId randomUUID))
    (hnormalized : normalize options.exposeInternalErrors exception = some normalized)
    (hlog : logAct request exception normalized (request.correlationId randomUUID) = some act) :
    (catch_ options request response randomUUID now exception).run response.answer
      = ((if response.headersSent then [] else
            [.setHeader HeaderKey.CORRELATION_ID (request.correlationId randomUUID)]) ++
          (act :: ((if captures options request normalized.status then
            [reportAct request exception normalized (request.correlationId randomUUID)] else []) ++
          [.respond normalized.status (envelope request normalized (request.correlationId randomUUID) now)])),
        response.answer
          (.respond normalized.status
            (envelope request normalized (request.correlationId randomUUID) now))) := by
  unfold catch_
  rw [hnormalized]
  refine (Prog.run_bind_ok _ (rfl : (read (some normalized)).run _ = ([], .ok normalized))).trans ?_
  rw [Prog.run_bind_ok _ (run_resolveCorrelationId htakes), Prog.run_bind_ok _ (run_log hlog),
    Prog.run_bind_ok _ run_report, Prog.run_ask]
  rfl

/-- A value that cannot be read leaves no trace. -/
theorem run_catch_unread {randomUUID now : Str}
    (h : normalize options.exposeInternalErrors exception = none) :
    (catch_ options request response randomUUID now exception).run response.answer = ([], .error ()) := by
  unfold catch_
  rw [h]
  rfl

/-- A value that cannot be described is not answered either. -/
theorem run_catch_undescribed {randomUUID now : Str}
    (htakes : response.TakesId (request.correlationId randomUUID))
    (hnormalized : normalize options.exposeInternalErrors exception = some normalized)
    (hlog : logAct request exception normalized (request.correlationId randomUUID) = none) :
    (catch_ options request response randomUUID now exception).run response.answer
      = (if response.headersSent then [] else
          [.setHeader HeaderKey.CORRELATION_ID (request.correlationId randomUUID)], .error ()) := by
  unfold catch_
  rw [hnormalized]
  refine (Prog.run_bind_ok _ (rfl : (read (some normalized)).run _ = ([], .ok normalized))).trans ?_
  rw [Prog.run_bind_ok _ (run_resolveCorrelationId htakes), Prog.run_bind_error _ (run_log_throws hlog)]
  simp

/-! ## What reaches the client -/

theorem logAct_eq_none {correlationId : Str} :
    logAct request exception normalized correlationId = none ↔
      isServerError normalized.status = true ∧ exception.stackOrText = none := by
  unfold logAct
  split
  · simp [*]
  · simp [*]

/-- What is logged at error level has been described. -/
theorem described_of_logAct {correlationId : Str} {act : Act}
    (h : logAct request exception normalized correlationId = some act)
    (herror : isServerError normalized.status = true) : exception.stackOrText ≠ none := by
  intro hstack
  rw [logAct_eq_none.mpr ⟨herror, hstack⟩] at h
  cases h

/-- The log line is neither an answer nor a report. -/
theorem logAct_elsewhere {correlationId : Str} {act : Act}
    (h : logAct request exception normalized correlationId = some act) :
    act.response = none ∧ act.captured = none ∧
      ((∃ line stack, Act.error line stack = act) ↔ isServerError normalized.status = true) := by
  unfold logAct at h
  split at h
  · obtain ⟨stack, -, rfl⟩ := Option.map_eq_some_iff.mp h
    refine ⟨rfl, rfl, ?_⟩
    simp [*]
  · obtain rfl := Option.some.inj h
    refine ⟨rfl, rfl, ?_⟩
    simp [*]

section Acts

variable {randomUUID now : Str} {act : Act}
  (htakes : response.TakesId (request.correlationId randomUUID))
  (hnormalized : normalize options.exposeInternalErrors exception = some normalized)
  (hlog : logAct request exception normalized (request.correlationId randomUUID) = some act)

include htakes hnormalized hlog

/-- The response is handed one answer. -/
theorem response_catch :
    ((catch_ options request response randomUUID now exception).run response.answer).1.filterMap Act.response
      = [(normalized.status, envelope request normalized (request.correlationId randomUUID) now)] := by
  obtain ⟨hresponse, -, -⟩ := logAct_elsewhere hlog
  rw [run_catch htakes hnormalized hlog]
  simp only [List.filterMap_append, List.filterMap_cons, hresponse]
  cases response.headersSent with
  | true =>
      cases captures options request normalized.status with
      | true => rfl
      | false => rfl
  | false =>
      cases captures options request normalized.status with
      | true => rfl
      | false => rfl

/-- The tracker is told of the exception itself, at most once. -/
theorem captured_catch :
    ((catch_ options request response randomUUID now exception).run response.answer).1.filterMap Act.captured
      = if captures options request normalized.status then [exception] else [] := by
  obtain ⟨-, hcaptured, -⟩ := logAct_elsewhere hlog
  rw [run_catch htakes hnormalized hlog]
  simp only [List.filterMap_append, List.filterMap_cons, hcaptured]
  cases response.headersSent with
  | true =>
      cases captures options request normalized.status with
      | true => rfl
      | false => rfl
  | false =>
      cases captures options request normalized.status with
      | true => rfl
      | false => rfl

/-- The severity of the log line is that of the normalized status. -/
theorem logged_catch :
    (∃ line stack, Act.error line stack ∈
        ((catch_ options request response randomUUID now exception).run response.answer).1) ↔
      isServerError normalized.status = true := by
  obtain ⟨-, -, herror⟩ := logAct_elsewhere hlog
  rw [run_catch htakes hnormalized hlog, ← herror]
  constructor
  · rintro ⟨line, stack, hmem⟩
    refine ⟨line, stack, ?_⟩
    simp only [List.mem_append, List.mem_cons, List.mem_ite_nil_left, List.mem_ite_nil_right] at hmem
    simpa [reportAct] using hmem
  · rintro ⟨line, stack, rfl⟩
    exact ⟨line, stack, by simp⟩

theorem sent_catch :
    response.sent ((catch_ options request response randomUUID now exception).run response.answer).1
      = if response.accepts normalized.status
          (envelope request normalized (request.correlationId randomUUID) now) then
          [(normalized.status, envelope request normalized (request.correlationId randomUUID) now)]
        else [] := by
  unfold Response.sent
  rw [response_catch htakes hnormalized hlog]
  simp [List.filter_cons]

end Acts

theorem accepts_iff {status : Option ℤ} {body : ApiErrorResponse} :
    response.accepts status body = true ↔
      response.headersSent = false ∧ (∃ code, status = some code ∧ 100 ≤ code ∧ code ≤ 999) ∧
        body.stringifies = true := by
  unfold Response.accepts
  cases status with
  | none => simp
  | some status => simp [and_assoc]

section Returns

variable {randomUUID now : Str} (htakes : response.TakesId (request.correlationId randomUUID))

include htakes

/-- **When the filter returns:** the value can be read and described, and the response takes the answer. -/
theorem returns_iff :
    ((catch_ options request response randomUUID now exception).run response.answer).2 = .ok () ↔
      ∃ normalized, normalize options.exposeInternalErrors exception = some normalized ∧
        (isServerError normalized.status = true → exception.stackOrText ≠ none) ∧
        response.accepts normalized.status
          (envelope request normalized (request.correlationId randomUUID) now) = true := by
  cases hnormalized : normalize options.exposeInternalErrors exception with
  | none =>
      rw [run_catch_unread hnormalized]
      simp
  | some normalized =>
      cases hlog : logAct request exception normalized (request.correlationId randomUUID) with
      | none =>
          rw [run_catch_undescribed htakes hnormalized hlog]
          obtain ⟨herror, hstack⟩ := logAct_eq_none.mp hlog
          simp [herror, hstack]
      | some act =>
          rw [run_catch htakes hnormalized hlog]
          cases haccepts : response.accepts normalized.status
              (envelope request normalized (request.correlationId randomUUID) now) with
          | true => simpa [Response.answer, haccepts] using described_of_logAct hlog
          | false => simp [Response.answer, haccepts]

/-- What is sent when the filter returns. -/
theorem sent_of_returns
    (hnormalized : normalize options.exposeInternalErrors exception = some normalized)
    (h : ((catch_ options request response randomUUID now exception).run response.answer).2 = .ok ()) :
    response.sent ((catch_ options request response randomUUID now exception).run response.answer).1
      = [(normalized.status, envelope request normalized (request.correlationId randomUUID) now)] := by
  obtain ⟨_, hn, hdescribed, haccepts⟩ := (returns_iff htakes).mp h
  obtain rfl := Option.some.inj (hnormalized.symm.trans hn)
  cases hlog : logAct request exception normalized (request.correlationId randomUUID) with
  | none =>
      obtain ⟨herror, hstack⟩ := logAct_eq_none.mp hlog
      exact absurd hstack (hdescribed herror)
  | some act => rw [sent_catch htakes hnormalized hlog, if_pos haccepts]

/-- Whatever is handed to the response was normalized and logged before. -/
theorem logged_of_response
    (h : ((catch_ options request response randomUUID now exception).run response.answer).1.filterMap
      Act.response ≠ []) :
    ∃ normalized act, normalize options.exposeInternalErrors exception = some normalized ∧
      logAct request exception normalized (request.correlationId randomUUID) = some act := by
  cases hnormalized : normalize options.exposeInternalErrors exception with
  | none =>
      rw [run_catch_unread hnormalized] at h
      exact absurd rfl h
  | some normalized =>
      cases hlog : logAct request exception normalized (request.correlationId randomUUID) with
      | none =>
          rw [run_catch_undescribed htakes hnormalized hlog] at h
          split at h
          · exact absurd rfl h
          · exact absurd rfl h
      | some act => exact ⟨normalized, act, rfl, hlog⟩

/-- A filter that throws has sent nothing. -/
theorem sent_of_throws
    (h : ((catch_ options request response randomUUID now exception).run response.answer).2 ≠ .ok ()) :
    response.sent ((catch_ options request response randomUUID now exception).run response.answer).1 = [] := by
  by_contra hsent
  have hresponse : ((catch_ options request response randomUUID now exception).run
      response.answer).1.filterMap Act.response ≠ [] := by
    intro hnil
    apply hsent
    unfold Response.sent
    rw [hnil]
    rfl
  obtain ⟨normalized, act, hnormalized, hlog⟩ := logged_of_response htakes hresponse
  apply h
  apply (returns_iff htakes).mpr
  refine ⟨normalized, hnormalized, described_of_logAct hlog, ?_⟩
  by_contra hrefused
  rw [sent_catch htakes hnormalized hlog, if_neg hrefused] at hsent
  exact hsent rfl

end Returns

end

end Exception
end NestSdk
