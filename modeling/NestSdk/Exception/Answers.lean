import NestSdk.Exception.Run

/-!
# `Exception.Answers` — the filter of last resort

Nothing stands behind the filter: what it throws is answered by nobody. It is meant to answer every value, and it
does not: a value may resist being read or described, its `code` may be a name every object literal inherits, and
a response that has started takes no second answer. `Answerable` is what is left.
-/

namespace NestSdk
namespace Exception

open Js Lib

/-! ## What the filter reads of a value -/

/-- The SQLSTATE a value carries: that of its `driverError`, where it has one. -/
def sqlStateOf (value : Any) : Option (Option Str) :=
  if !value.isObject then some none
  else do readStringProperty (← driverErrorOf value) (str "code")

/-- The name of the constraint a driver's error carries. -/
def constraintOf (value : Any) : Option (Option Str) := do
  readStringProperty (← driverErrorOf value) (str "constraint")

/-- The normalized form of a driver's error. -/
def PostgresError.normalized (mapped : PostgresError) (constraint : Option Str) : NormalizedError :=
  ⟨mapped.code, mapped.status, mapped.message, .constraint constraint⟩

/-- The normalized form of a value nothing is known of, or nothing may be said of. -/
def genericError : NormalizedError :=
  ⟨some .internalError, some HttpStatus.INTERNAL_SERVER_ERROR, .string GENERIC_INTERNAL_MESSAGE, .undefined⟩

section

variable {exposeInternalErrors : Bool} {value : Any} {normalized : NormalizedError}

theorem fromPostgresError_eq :
    fromPostgresError value = (sqlStateOf value).bind fun sqlState =>
      match sqlState.bind POSTGRES_ERROR_MAP with
      | none => some none
      | some mapped => (constraintOf value).map fun constraint => some (mapped.normalized constraint) := by
  unfold fromPostgresError sqlStateOf constraintOf
  cases value.isObject with
  | false => rfl
  | true =>
      cases driverErrorOf value with
      | none => rfl
      | some driverError =>
          simp only [Option.bind_eq_bind, Option.bind_some, Bool.not_true, Bool.false_eq_true, if_false]
          cases readStringProperty driverError (str "code") with
          | none => rfl
          | some sqlState =>
              cases sqlState with
              | none => rfl
              | some sqlState =>
                  cases sqlState with
                  | nil => rfl
                  | cons c cs =>
                      simp only [Option.bind_some]
                      cases POSTGRES_ERROR_MAP (c :: cs) with
                      | none => rfl
                      | some mapped =>
                          cases readStringProperty driverError (str "constraint") with
                          | none => rfl
                          | some constraint => rfl

theorem normalize_other {isError : Bool} {sqlState : Option Str}
    (hwalks : value.instanceofError = some isError) (hstate : sqlStateOf value = some sqlState) :
    normalize exposeInternalErrors (.other value) =
      match sqlState.bind POSTGRES_ERROR_MAP with
      | some mapped => (constraintOf value).map mapped.normalized
      | none =>
          if exposeInternalErrors && isError then
            (value.get (str "message")).bind fun message => (value.get (str "stack")).map fun stack =>
              ⟨some .internalError, some HttpStatus.INTERNAL_SERVER_ERROR, message, .stack stack⟩
          else some genericError := by
  simp only [normalize, hwalks, fromPostgresError_eq, hstate, Option.bind_eq_bind, Option.bind_some]
  cases sqlState.bind POSTGRES_ERROR_MAP with
  | some mapped =>
      cases constraintOf value with
      | none => rfl
      | some constraint => rfl
  | none =>
      cases exposeInternalErrors && isError with
      | false => rfl
      | true =>
          cases value.get (str "message") with
          | none => rfl
          | some message =>
              cases value.get (str "stack") with
              | none => rfl
              | some stack => rfl

theorem walks_of_normalize (h : normalize exposeInternalErrors (.other value) = some normalized) :
    ∃ isError sqlState, value.instanceofError = some isError ∧ sqlStateOf value = some sqlState := by
  simp only [normalize, fromPostgresError_eq, Option.bind_eq_bind] at h
  obtain ⟨isError, hwalks, h⟩ := Option.bind_eq_some_iff.mp h
  obtain ⟨postgres, h, -⟩ := Option.bind_eq_some_iff.mp h
  obtain ⟨sqlState, hstate, -⟩ := Option.bind_eq_some_iff.mp h
  exact ⟨isError, sqlState, hwalks, hstate⟩

/-! ## What the tables say -/

theorem mappedSqlState_presentable {sqlState : Str} {mapped : PostgresError}
    (h : mappedSqlState sqlState = some mapped) :
    ∃ code status message, mapped = ⟨some code, some status, .string message⟩ ∧ 400 ≤ status ∧ status < 500 := by
  unfold mappedSqlState at h
  split at h
  · obtain rfl := Option.some.inj h
    exact ⟨_, _, _, rfl, by decide, by decide⟩
  split at h
  · obtain rfl := Option.some.inj h
    exact ⟨_, _, _, rfl, by decide, by decide⟩
  split at h
  · obtain rfl := Option.some.inj h
    exact ⟨_, _, _, rfl, by decide, by decide⟩
  · cases h

theorem postgresErrorMap_own {sqlState : Str} (h : sqlState ∉ objectPrototypeNames) :
    POSTGRES_ERROR_MAP sqlState = mappedSqlState sqlState :=
  if_neg h

theorem postgresErrorMap_inherited {sqlState : Str} (h : sqlState ∈ objectPrototypeNames) :
    POSTGRES_ERROR_MAP sqlState = some ⟨none, none, .undefined⟩ :=
  if_pos h

/-- Under an inherited name a value gets a form without a code, a status or a message. -/
theorem normalize_inherited {isError : Bool} {name : Str} (hwalks : value.instanceofError = some isError)
    (hstate : sqlStateOf value = some (some name)) (hname : name ∈ objectPrototypeNames) :
    normalize exposeInternalErrors (.other value)
      = (constraintOf value).map (PostgresError.normalized ⟨none, none, .undefined⟩) := by
  rw [normalize_other hwalks hstate, Option.bind_some, postgresErrorMap_inherited hname]

/-! ## The values that are answered -/

/-- What a normalized error needs to be an envelope. -/
structure NormalizedError.Presentable (normalized : NormalizedError) : Prop where
  code : normalized.code ≠ none
  status : ∃ status, normalized.status = some status ∧ 400 ≤ status ∧ status ≤ 599
  message : ∃ message, normalized.message = .string message
  details : normalized.details.stringifies = true

/-- What the filter needs of a value it has no mapping for: something to write into the log, and, where the
    client is shown it, a message and a stack that can be sent. -/
structure Describable (exposeInternalErrors : Bool) (value : Any) (isError : Bool) : Prop where
  logged : (ThrownValue.other value).stackOrText ≠ none
  shown : exposeInternalErrors = true → isError = true → ∃ message stack,
    value.get (str "message") = some (.string message) ∧ value.get (str "stack") = some stack ∧
      stack.stringifies = true

/-- **The filter has an answer.** The value lets itself be read, its SQLSTATE is no name every object inherits,
    and if it is none of the mapped ones the value is describable. -/
def Answerable (exposeInternalErrors : Bool) (value : Any) : Prop :=
  ∃ isError sqlState, value.instanceofError = some isError ∧ sqlStateOf value = some sqlState ∧
    (∀ name ∈ sqlState, name ∉ objectPrototypeNames) ∧
    match sqlState.bind mappedSqlState with
    | some _ => constraintOf value ≠ none
    | none => Describable exposeInternalErrors value isError

theorem bind_postgresErrorMap {sqlState : Option Str} (h : ∀ name ∈ sqlState, name ∉ objectPrototypeNames) :
    sqlState.bind POSTGRES_ERROR_MAP = sqlState.bind mappedSqlState := by
  cases sqlState with
  | none => simp only [Option.bind_none]
  | some sqlState => simp only [Option.bind_some, postgresErrorMap_own (h sqlState rfl)]

/-- What the table says of its own SQLSTATEs can be sent, and is no failure of the server. -/
theorem mappedSqlState_normalized {sqlState : Str} {mapped : PostgresError} (constraint : Option Str)
    (h : mappedSqlState sqlState = some mapped) :
    (mapped.normalized constraint).Presentable ∧
      isServerError (mapped.normalized constraint).status = false := by
  obtain ⟨code, status, message, rfl, hlow, hhigh⟩ := mappedSqlState_presentable h
  refine ⟨⟨Option.some_ne_none code, ⟨status, rfl, hlow, by omega⟩, ⟨message, rfl⟩, rfl⟩, ?_⟩
  apply Bool.eq_false_iff.mpr
  intro herror
  have hserver := isServerError_some.mp herror
  omega

theorem genericError_presentable : genericError.Presentable :=
  ⟨by simp [genericError], ⟨500, rfl, by decide, by decide⟩, ⟨_, rfl⟩, rfl⟩

/-- **The form of an answerable value:** what is mapped to its SQLSTATE, or else the generic form or, where the
    client is shown it, what is inside. -/
theorem Answerable.forms (h : Answerable exposeInternalErrors value) :
    (∃ name mapped constraint, sqlStateOf value = some (some name) ∧ mappedSqlState name = some mapped ∧
      constraintOf value = some constraint ∧
      normalize exposeInternalErrors (.other value) = some (mapped.normalized constraint)) ∨
    ∃ isError sqlState, sqlStateOf value = some sqlState ∧ sqlState.bind mappedSqlState = none ∧
      Describable exposeInternalErrors value isError ∧
      normalize exposeInternalErrors (.other value) =
        if exposeInternalErrors && isError then
          (value.get (str "message")).bind fun message => (value.get (str "stack")).map fun stack =>
            ⟨some .internalError, some HttpStatus.INTERNAL_SERVER_ERROR, message, .stack stack⟩
        else some genericError := by
  obtain ⟨isError, sqlState, hwalks, hstate, hown, hknown⟩ := h
  rw [normalize_other hwalks hstate, bind_postgresErrorMap hown]
  cases hmapped : sqlState.bind mappedSqlState with
  | some mapped =>
      rw [hmapped] at hknown
      obtain ⟨constraint, hconstraint⟩ := Option.ne_none_iff_exists'.mp hknown
      obtain ⟨name, rfl, hname⟩ := Option.bind_eq_some_iff.mp hmapped
      refine .inl ⟨name, mapped, constraint, hstate, hname, hconstraint, ?_⟩
      rw [hconstraint]
      rfl
  | none =>
      rw [hmapped] at hknown
      exact .inr ⟨isError, sqlState, hstate, hmapped, hknown, rfl⟩

/-- An answerable value has a presentable form, which can be logged. -/
theorem Answerable.normalizes (h : Answerable exposeInternalErrors value) :
    ∃ normalized, normalize exposeInternalErrors (.other value) = some normalized ∧ normalized.Presentable ∧
      (isServerError normalized.status = true → (ThrownValue.other value).stackOrText ≠ none) := by
  obtain ⟨name, mapped, constraint, -, hname, -, hform⟩ | ⟨isError, sqlState, -, -, hdescribable, hform⟩ := h.forms
  · obtain ⟨hpresentable, hcaller⟩ := mappedSqlState_normalized constraint hname
    refine ⟨mapped.normalized constraint, hform, hpresentable, ?_⟩
    intro herror
    rw [hcaller] at herror
    cases herror
  · rw [hform]
    cases hexpose : exposeInternalErrors && isError with
    | false => exact ⟨_, rfl, genericError_presentable, fun _ => hdescribable.logged⟩
    | true =>
        obtain ⟨rfl, rfl⟩ := Bool.and_eq_true_iff.mp hexpose
        obtain ⟨message, stack, hmessage, hstack, hstringifies⟩ := hdescribable.shown rfl rfl
        refine ⟨⟨some .internalError, some HttpStatus.INTERNAL_SERVER_ERROR, .string message, .stack stack⟩,
          by rw [hmessage, hstack]; rfl, ⟨by simp, ⟨500, rfl, by decide, by decide⟩, ⟨message, rfl⟩, ?_⟩, ?_⟩
        · exact hstringifies
        · exact fun _ => hdescribable.logged

/-- Conversely, a value is answerable if its form has a status and can be logged, and is presentable where the
    client is shown what is inside. -/
theorem answerable_of_normalize {normalized : NormalizedError}
    (h : normalize exposeInternalErrors (.other value) = some normalized) (hstatus : normalized.status ≠ none)
    (hshown : exposeInternalErrors = true → normalized.Presentable)
    (hlogged : isServerError normalized.status = true → (ThrownValue.other value).stackOrText ≠ none) :
    Answerable exposeInternalErrors value := by
  obtain ⟨isError, sqlState, hwalks, hstate⟩ := walks_of_normalize h
  -- an inherited name would have left the form without a status
  have hown : ∀ name ∈ sqlState, name ∉ objectPrototypeNames := by
    rintro name hname hinherited
    obtain rfl := Option.mem_def.mp hname
    rw [normalize_inherited hwalks hstate hinherited] at h
    obtain ⟨constraint, -, rfl⟩ := Option.map_eq_some_iff.mp h
    exact hstatus rfl
  refine ⟨isError, sqlState, hwalks, hstate, hown, ?_⟩
  rw [normalize_other hwalks hstate, bind_postgresErrorMap hown] at h
  cases hmapped : sqlState.bind mappedSqlState with
  | some mapped =>
      rw [hmapped] at h
      obtain ⟨constraint, hconstraint, -⟩ := Option.map_eq_some_iff.mp h
      show constraintOf value ≠ none
      rw [hconstraint]
      exact Option.some_ne_none constraint
  | none =>
      rw [hmapped] at h
      cases hexpose : exposeInternalErrors && isError with
      | false =>
          simp only [hexpose, Bool.false_eq_true, if_false, Option.some.injEq] at h
          obtain rfl := h
          refine ⟨hlogged rfl, ?_⟩
          rintro rfl rfl
          cases hexpose
      | true =>
          simp only [hexpose, if_true] at h
          obtain ⟨message, hmessage, h⟩ := Option.bind_eq_some_iff.mp h
          obtain ⟨stack, hstack, rfl⟩ := Option.map_eq_some_iff.mp h
          obtain ⟨rfl, rfl⟩ := Bool.and_eq_true_iff.mp hexpose
          obtain ⟨text, htext⟩ := (hshown rfl).message
          obtain rfl : message = .string text := htext
          exact ⟨hlogged rfl, fun _ _ => ⟨text, stack, hmessage, hstack, (hshown rfl).details⟩⟩

/-! ## Every value an answer -/

variable {options : GlobalExceptionFilterOptions} {request : Request} {response : Response}
  {randomUUID now : Str}

/-- An inherited name leaves the filter without a status to answer with. -/
theorem throws_of_inherited {isError : Bool} {name : Str} (htakes : response.TakesId (request.correlationId randomUUID))
    (hwalks : value.instanceofError = some isError)
    (hstate : sqlStateOf value = some (some name)) (hname : name ∈ objectPrototypeNames) :
    ((catch_ options request response randomUUID now (.other value)).run response.answer).2 ≠ .ok () := by
  intro hreturns
  obtain ⟨normalized, hnormalized, -, haccepts⟩ := (returns_iff htakes).mp hreturns
  rw [normalize_inherited hwalks hstate hname] at hnormalized
  obtain ⟨constraint, -, rfl⟩ := Option.map_eq_some_iff.mp hnormalized
  obtain ⟨-, ⟨status, hstatus, -⟩, -⟩ := accepts_iff.mp haccepts
  cases hstatus

/-- The filter answers a value: it returns, with one envelope sent, or nothing where the response has started. -/
structure Answers (options : GlobalExceptionFilterOptions) (request : Request) (response : Response)
    (randomUUID now : Str) (value : Any) : Prop where
  returns : ((catch_ options request response randomUUID now (.other value)).run response.answer).2 = .ok ()
  answered : response.headersSent = false → ∃ status code message body,
    response.sent ((catch_ options request response randomUUID now (.other value)).run response.answer).1
        = [(some status, body)] ∧
      400 ≤ status ∧ status ≤ 599 ∧ body.code = some code ∧ body.message = .string message
  silent : response.headersSent = true →
    response.sent ((catch_ options request response randomUUID now (.other value)).run response.answer).1 = []

theorem NormalizedError.Presentable.accepted {normalized : NormalizedError} (h : normalized.Presentable)
    (hfresh : response.headersSent = false) (request : Request) (correlationId now : Str) :
    response.accepts normalized.status (envelope request normalized correlationId now) = true := by
  obtain ⟨status, hstatus, hlow, hhigh⟩ := h.status
  obtain ⟨message, hmessage⟩ := h.message
  refine accepts_iff.mpr ⟨hfresh, ⟨status, hstatus, by omega, by omega⟩, ?_⟩
  apply Bool.and_eq_true_iff.mpr
  constructor
  · show normalized.message.stringifies = true
    rw [hmessage]
    rfl
  · exact h.details

/-- **The filter answers exactly the answerable values, before anything is sent,** if the response takes the id of the
    request as a header. -/
theorem answers_iff (htakes : response.TakesId (request.correlationId randomUUID)) :
    Answers options request response randomUUID now value ↔
      response.headersSent = false ∧ Answerable options.exposeInternalErrors value := by
  constructor
  · intro h
    obtain ⟨normalized, hnormalized, hlogged, haccepts⟩ := (returns_iff htakes).mp h.returns
    obtain ⟨hfresh, -, hbody⟩ := accepts_iff.mp haccepts
    obtain ⟨status, code, message, body, hsent, hlow, hhigh, hcode, hmessage⟩ := h.answered hfresh
    rw [sent_of_returns htakes hnormalized h.returns] at hsent
    obtain ⟨hstatus, rfl⟩ := Prod.mk.inj (List.cons.inj hsent).1
    refine ⟨hfresh, answerable_of_normalize hnormalized (Option.ne_none_iff_exists'.mpr ⟨status, hstatus⟩) ?_
      hlogged⟩
    intro _
    exact ⟨Option.ne_none_iff_exists'.mpr ⟨code, hcode⟩, ⟨status, hstatus, hlow, hhigh⟩, ⟨message, hmessage⟩,
      (Bool.and_eq_true_iff.mp hbody).2⟩
  · rintro ⟨hfresh, hanswerable⟩
    obtain ⟨normalized, hnormalized, hpresentable, hlogged⟩ := hanswerable.normalizes
    have hreturns := (returns_iff htakes).mpr ⟨normalized, hnormalized, hlogged,
      hpresentable.accepted hfresh request (request.correlationId randomUUID) now⟩
    refine ⟨hreturns, ?_, ?_⟩
    · intro _
      obtain ⟨code, hcode⟩ := Option.ne_none_iff_exists'.mp hpresentable.code
      obtain ⟨status, hstatus, hlow, hhigh⟩ := hpresentable.status
      obtain ⟨message, hmessage⟩ := hpresentable.message
      refine ⟨status, code, message, envelope request normalized (request.correlationId randomUUID) now, ?_, hlow,
        hhigh, hcode, hmessage⟩
      rw [sent_of_returns htakes hnormalized hreturns, hstatus]
    · intro hstarted
      rw [hfresh] at hstarted
      cases hstarted

end

/-- A request to `/tenant/list`, before the auth layer. -/
def tenantList : Request := ⟨⟨fun _ => .absent, none⟩, str "/tenant/list", str "GET", ⟨[], none⟩⟩

/-- Node takes a fresh id as a header. -/
theorem takesId_nilUuid (headersSent : Bool) :
    (Response.node headersSent).TakesId (tenantList.correlationId Context.nilUuid) :=
  fun _ => Context.nilUuid_isUuid.headerText

/-- A string can be answered: there is nothing to read of it. -/
theorem answerable_string (text : Str) : Answerable false (.string text) := by
  have hlogged : (ThrownValue.other (.string text)).stackOrText = some (.string text) := rfl
  exact ⟨false, none, rfl, rfl, nofun, ⟨by rw [hlogged]; exact Option.some_ne_none _, nofun⟩⟩

/-- A thrown string is answered. -/
theorem answers_iff_string :
    Answers ⟨false, none⟩ tenantList (.node false) Context.nilUuid [] (.string (str "something threw a string")) :=
  (answers_iff (takesId_nilUuid false)).mpr ⟨rfl, answerable_string _⟩

/-- An object whose `code` every object literal has, too: found in the table, without a status. -/
def inheritedCode : Any := .literal [(str "code", .string (str "constructor"))]

theorem sqlStateOf_inheritedCode : sqlStateOf inheritedCode = some (some (str "constructor")) := by decide

/-- The filter throws on an inherited code, and on whatever comes once a response has started. -/
theorem inherited_code_unanswered :
    ¬ Answers ⟨false, none⟩ tenantList (.node false) Context.nilUuid [] inheritedCode ∧
    ¬ Answers ⟨false, none⟩ tenantList (.node true) Context.nilUuid [] (.string (str "something threw a string")) := by
  constructor
  · intro h
    exact throws_of_inherited (takesId_nilUuid false) rfl sqlStateOf_inheritedCode (by decide) h.returns
  · intro h
    obtain ⟨normalized, -, -, haccepts⟩ := (returns_iff (takesId_nilUuid true)).mp h.returns
    cases (accepts_iff.mp haccepts).1

end Exception
end NestSdk
