import NestSdk.Exception.Answers

/-!
# `Exception.Noninterference` — what an unexpected failure tells the client

With `exposeInternalErrors` off the client learns of a thrown value the mapped SQLSTATE that stands where the filter
looks, with the name of its constraint, and nothing else. The filter looks in the value's `driverError`, if it has a
property of that name, and else in the value itself; so a `driverError` can hide what the value carries directly. And a
value that is not answered is told apart from one that is.
-/

namespace NestSdk
namespace Exception

open Js Lib

/-! ## What a value carries -/

/-- The places a driver's error can be: the value itself, or its `driverError`. -/
def Place (value source : Any) : Prop :=
  source = value ∨ (value.has (str "driverError") = some true ∧ value.get (str "driverError") = some source)

/-- The string under a property, if there is one; `none` if reading it throws. -/
def stringAt (source : Any) (property : Str) : Option (Option Str) := do
  let isThere ← source.has property
  if !isThere then return none
  let value ← source.get property
  return value.asString

/-- In this place stands a mapped SQLSTATE, with this constraint. -/
structure CarriedAt (source : Any) (name : Str) (constraint : Option Str) : Prop where
  mapped : (mappedSqlState name).isSome = true
  code : stringAt source (str "code") = some (some name)
  constraint : stringAt source (str "constraint") = some constraint

/-- **Both values carry the same:** one mapped SQLSTATE with one constraint, directly or in their `driverError`, or no
    mapped SQLSTATE at all. -/
def CarrySame (value value' : Any) : Prop :=
  (∃ name constraint source source', Place value source ∧ CarriedAt source name constraint ∧
    Place value' source' ∧ CarriedAt source' name constraint) ∨
  ∀ name, (mappedSqlState name).isSome = true →
    (∀ source, Place value source → stringAt source (str "code") ≠ some (some name)) ∧
    ∀ source, Place value' source → stringAt source (str "code") ≠ some (some name)

/-- The mapped SQLSTATE that stands where the filter looks, with the name of its constraint. -/
def carriedOf (value : Any) : Option (Str × Option Str) :=
  match sqlStateOf value with
  | some (some name) =>
      if (mappedSqlState name).isSome then some (name, (constraintOf value).join) else none
  | _ => none

/-- What the value carries, it carries where the filter looks. -/
def Unhidden (value : Any) : Prop :=
  ∀ source name constraint, Place value source → CarriedAt source name constraint →
    value.isObject = true ∧ source.isObject = true ∧ driverErrorOf value = some source

/-- Of an object, `readStringProperty` reads what is there. -/
theorem readStringProperty_eq {source : Any} (h : source.isObject = true) (property : Str) :
    readStringProperty source property = stringAt source property := by
  unfold readStringProperty stringAt
  rw [h]
  rfl

/-- Where the filter looks is one of the places. -/
theorem place_driverErrorOf {value source : Any} (h : driverErrorOf value = some source) : Place value source := by
  unfold driverErrorOf at h
  cases hwrapped : value.has (str "driverError") with
  | none =>
      rw [hwrapped] at h
      cases h
  | some isWrapped =>
      rw [hwrapped] at h
      cases isWrapped with
      | true => exact .inr ⟨hwrapped, h⟩
      | false => exact .inl (Option.some.inj h).symm

/-- What stands where the filter looks is carried. -/
theorem carried_of_carriedOf {value : Any} {name : Str} (h : sqlStateOf value = some (some name)) :
    ∃ source, Place value source ∧ stringAt source (str "code") = some (some name) := by
  unfold sqlStateOf at h
  split at h
  · cases h
  · obtain ⟨source, hsource, hread⟩ := Option.bind_eq_some_iff.mp h
    refine ⟨source, place_driverErrorOf hsource, ?_⟩
    by_cases hobject : source.isObject = true
    · rw [← readStringProperty_eq hobject]
      exact hread
    · unfold readStringProperty at hread
      rw [Bool.not_eq_true] at hobject
      rw [hobject] at hread
      cases hread

/-- What is carried where the filter looks is what it finds. -/
theorem carriedOf_of_unhidden {value source : Any} {name : Str} {constraint : Option Str} (h : Unhidden value)
    (hplace : Place value source) (hcarried : CarriedAt source name constraint) :
    carriedOf value = some (name, constraint) := by
  obtain ⟨hobject, hsource, hlooked⟩ := h source name constraint hplace hcarried
  have hstate : sqlStateOf value = some (some name) := by
    unfold sqlStateOf
    rw [hobject, hlooked]
    exact (readStringProperty_eq hsource _).trans hcarried.code
  have hconstraint : constraintOf value = some constraint := by
    unfold constraintOf
    rw [hlooked]
    exact (readStringProperty_eq hsource _).trans hcarried.constraint
  unfold carriedOf
  rw [hstate, hconstraint]
  exact if_pos hcarried.mapped

/-- A value that carries nothing has nothing where the filter looks. -/
theorem carriedOf_of_none {value : Any}
    (h : ∀ name, (mappedSqlState name).isSome = true →
      ∀ source, Place value source → stringAt source (str "code") ≠ some (some name)) : carriedOf value = none := by
  unfold carriedOf
  split
  · next name hstate =>
      refine if_neg fun hmapped => ?_
      obtain ⟨source, hplace, hcode⟩ := carried_of_carriedOf hstate
      exact h name hmapped source hplace hcode
  · rfl

/-- Where nothing is hidden, what both carry is what the filter finds in both. -/
theorem CarrySame.carriedOf_eq {value value' : Any} (h : CarrySame value value') (hvalue : Unhidden value)
    (hvalue' : Unhidden value') : carriedOf value = carriedOf value' := by
  rcases h with ⟨name, constraint, source, source', hplace, hcarried, hplace', hcarried'⟩ | hnone
  · rw [carriedOf_of_unhidden hvalue hplace hcarried, carriedOf_of_unhidden hvalue' hplace' hcarried']
  · rw [carriedOf_of_none fun name hmapped => (hnone name hmapped).1,
      carriedOf_of_none fun name hmapped => (hnone name hmapped).2]

/-! ## What the client learns -/

/-- What a client learns of the error from an answer. -/
def revealed (answer : Option ℤ × ApiErrorResponse) : NormalizedError :=
  ⟨answer.2.code, answer.1, answer.2.message, answer.2.details⟩

/-- The form of an error that says no more than what is carried. -/
def formOf : Option (Str × Option Str) → NormalizedError
  | some (name, constraint) =>
      match mappedSqlState name with
      | some mapped => mapped.normalized constraint
      | none => genericError
  | none => genericError

section

variable {reporter : Option ErrorReporter} {request : Request} {response : Response}
  {randomUUID now : Str} {value : Any}

/-- What a client learns of a thrown value. -/
def learned (reporter : Option ErrorReporter) (request : Request) (response : Response)
    (randomUUID now : Str) (value : Any) : List NormalizedError :=
  (response.sent ((catch_ ⟨false, reporter⟩ request response randomUUID now (.other value)).run
    response.answer).1).map revealed

/-- The form of an answerable value is that of what it carries. -/
theorem Answerable.normalize_eq (h : Answerable false value) :
    normalize false (.other value) = some (formOf (carriedOf value)) := by
  unfold carriedOf
  obtain ⟨name, mapped, constraint, hstate, hname, hconstraint, hform⟩ |
    ⟨isError, sqlState, hstate, hnone, -, hform⟩ := h.forms
  · rw [hform]
    simp [hstate, hconstraint, hname, formOf]
  · rw [hform]
    cases sqlState with
    | none => simp [hstate, formOf]
    | some name =>
        have hname : mappedSqlState name = none := hnone
        simp [hstate, hname, formOf]

/-- **What is learned:** the form of what stands where the filter looks, if there is an answer at all. -/
theorem learned_eq_singleton (htakes : response.TakesId (request.correlationId randomUUID))
    (hfresh : response.headersSent = false) (h : Answerable false value) :
    learned reporter request response randomUUID now value = [formOf (carriedOf value)] := by
  obtain ⟨normalized, hnormalized, hpresentable, hlogged⟩ := h.normalizes
  have hreturns : ((catch_ ⟨false, reporter⟩ request response randomUUID now (.other value)).run
      response.answer).2 = .ok () :=
    (returns_iff htakes).mpr ⟨normalized, hnormalized, hlogged,
      hpresentable.accepted hfresh request (request.correlationId randomUUID) now⟩
  obtain rfl := Option.some.inj (hnormalized.symm.trans h.normalize_eq)
  unfold learned
  rw [sent_of_returns htakes hnormalized hreturns]
  rfl

theorem learned_eq_nil (htakes : response.TakesId (request.correlationId randomUUID))
    (h : response.headersSent = true ∨ ¬ Answerable false value) :
    learned reporter request response randomUUID now value = [] := by
  unfold learned
  rw [sent_of_throws htakes]
  · rfl
  intro hreturns
  obtain ⟨normalized, hnormalized, hlogged, haccepts⟩ := (returns_iff htakes).mp hreturns
  obtain ⟨hfresh, ⟨status, hstatus, -⟩, -⟩ := accepts_iff.mp haccepts
  apply h.elim
  · intro hstarted
    rw [hfresh] at hstarted
    cases hstarted
  · intro hnot
    exact hnot (answerable_of_normalize hnormalized (Option.ne_none_iff_exists'.mpr ⟨status, hstatus⟩) nofun
      hlogged)

end

/-- The code of a mapped form says which SQLSTATE it is of. -/
theorem mappedSqlState_injective {name name' : Str} {mapped mapped' : PostgresError}
    (h : mappedSqlState name = some mapped) (h' : mappedSqlState name' = some mapped')
    (hcode : mapped.code = mapped'.code) : name = name' := by
  have hsays : ∀ {name : Str} {mapped : PostgresError}, mappedSqlState name = some mapped →
      (name = str "23505" ∧ mapped.code = some .resourceAlreadyExists) ∨
        (name = str "23503" ∧ mapped.code = some .resourceConflict) ∨
        (name = str "23514" ∧ mapped.code = some .unprocessableEntity) := by
    intro name mapped h
    unfold mappedSqlState at h
    split at h
    · next hname => exact .inl ⟨hname, by rw [← Option.some.inj h]⟩
    split at h
    · next hname => exact .inr (.inl ⟨hname, by rw [← Option.some.inj h]⟩)
    split at h
    · next hname => exact .inr (.inr ⟨hname, by rw [← Option.some.inj h]⟩)
    · cases h
  rcases hsays h with ⟨rfl, hmapped⟩ | ⟨rfl, hmapped⟩ | ⟨rfl, hmapped⟩ <;>
    rcases hsays h' with ⟨rfl, hmapped'⟩ | ⟨rfl, hmapped'⟩ | ⟨rfl, hmapped'⟩ <;>
      first
        | rfl
        | (rw [hmapped, hmapped'] at hcode; cases hcode)

/-- What is carried is nothing, or a mapped SQLSTATE. -/
theorem carriedOf_cases (value : Any) :
    carriedOf value = none ∨
      ∃ name constraint mapped, carriedOf value = some (name, constraint) ∧ mappedSqlState name = some mapped ∧
        formOf (carriedOf value) = mapped.normalized constraint := by
  cases hcarried : carriedOf value with
  | none => exact .inl rfl
  | some carried =>
      obtain ⟨name, constraint⟩ := carried
      unfold carriedOf at hcarried
      split at hcarried
      · split at hcarried
        · next hmapped =>
            obtain ⟨rfl, -⟩ := Prod.ext_iff.mp (Option.some.inj hcarried)
            obtain ⟨mapped, hmapped⟩ := Option.isSome_iff_exists.mp hmapped
            exact .inr ⟨_, constraint, mapped, rfl, hmapped, by simp only [formOf, hmapped]⟩
        · cases hcarried
      · cases hcarried

/-- **The form tells what is carried,** and nothing else. -/
theorem formOf_carriedOf_injective {value value' : Any} (h : formOf (carriedOf value) = formOf (carriedOf value')) :
    carriedOf value = carriedOf value' := by
  have hdetails : ∀ {mapped : PostgresError} {constraint : Option Str},
      mapped.normalized constraint ≠ formOf none := fun hsame => by
    have hdetails := congrArg NormalizedError.details hsame
    cases hdetails
  rcases carriedOf_cases value with hnone | ⟨name, constraint, mapped, hcarried, hmapped, hform⟩
  · rcases carriedOf_cases value' with hnone' | ⟨name', constraint', mapped', hcarried', hmapped', hform'⟩
    · rw [hnone, hnone']
    · rw [hform', hnone] at h
      exact absurd h.symm hdetails
  · rcases carriedOf_cases value' with hnone' | ⟨name', constraint', mapped', hcarried', hmapped', hform'⟩
    · rw [hform, hnone'] at h
      exact absurd h hdetails
    · rw [hform, hform'] at h
      obtain rfl := mappedSqlState_injective hmapped hmapped' (congrArg NormalizedError.code h)
      obtain rfl := Details.constraint.inj (congrArg NormalizedError.details h)
      rw [hcarried, hcarried']

/-- **Unexpected failures reveal nothing, where nothing is hidden.** Two values that carry the same are told apart by
    what is sent exactly if only one of them is answered, or both are and what stands where the filter looks is not the
    same: a `driverError` has hidden from it what one of them carries. If neither hides anything, only an answer that
    fails to come tells them apart. -/
theorem learned_eq_iff {reporter : Option ErrorReporter} {request : Request} {response : Response}
    {randomUUID now randomUUID' now' : Str} {value value' : Any}
    (htakes : response.TakesId (request.correlationId randomUUID))
    (htakes' : response.TakesId (request.correlationId randomUUID')) (h : CarrySame value value') :
    (learned reporter request response randomUUID now value
        = learned reporter request response randomUUID' now' value' ↔
      response.headersSent = true ∨ (¬ Answerable false value ∧ ¬ Answerable false value') ∨
        (Answerable false value ∧ Answerable false value' ∧ carriedOf value = carriedOf value')) ∧
    (Unhidden value → Unhidden value' →
      (learned reporter request response randomUUID now value
          = learned reporter request response randomUUID' now' value' ↔
        response.headersSent = true ∨ (Answerable false value ↔ Answerable false value'))) := by
  have hexact : learned reporter request response randomUUID now value
        = learned reporter request response randomUUID' now' value' ↔
      response.headersSent = true ∨ (¬ Answerable false value ∧ ¬ Answerable false value') ∨
        (Answerable false value ∧ Answerable false value' ∧ carriedOf value = carriedOf value') := by
    cases hsent : response.headersSent with
    | true =>
        -- neither gets an answer
        simp only [true_or, iff_true]
        rw [learned_eq_nil htakes (.inl hsent), learned_eq_nil htakes' (.inl hsent)]
    | false =>
        simp only [Bool.false_eq_true, false_or]
        by_cases hvalue : Answerable false value
        · by_cases hvalue' : Answerable false value'
          · -- both are answered, each by the form of what it carries
            simp only [hvalue, hvalue', not_true, and_self, true_and, false_or]
            rw [learned_eq_singleton htakes hsent hvalue, learned_eq_singleton htakes' hsent hvalue', List.singleton_inj]
            exact ⟨formOf_carriedOf_injective, congrArg formOf⟩
          · simp only [hvalue, hvalue', not_true, not_false_eq_true, and_true, false_and, and_false, or_self, iff_false]
            rw [learned_eq_singleton htakes hsent hvalue, learned_eq_nil htakes' (.inr hvalue')]
            exact List.cons_ne_nil _ _
        · by_cases hvalue' : Answerable false value'
          · simp only [hvalue, hvalue', not_true, not_false_eq_true, and_false, false_and, or_self, iff_false]
            rw [learned_eq_singleton htakes' hsent hvalue', learned_eq_nil htakes (.inr hvalue)]
            exact (List.cons_ne_nil _ _).symm
          · simp only [hvalue, hvalue', not_false_eq_true, and_self, true_or, iff_true]
            rw [learned_eq_nil htakes (.inr hvalue), learned_eq_nil htakes' (.inr hvalue')]
  refine ⟨hexact, fun hunhidden hunhidden' => hexact.trans ?_⟩
  have hcarried := h.carriedOf_eq hunhidden hunhidden'
  -- with nothing hidden the last condition always holds
  rw [iff_iff_and_or_not_and_not]
  tauto

/-! ## One constraint, two wrappings -/

/-- A driver's error. -/
def uniqueViolation : Any :=
  .literal [(str "code", .string (str "23505")), (str "constraint", .string (str "uq_tenant_name"))]

/-- The same, as TypeORM wraps it. -/
def queryFailed : Any :=
  .literal [(str "query", .string (str "INSERT INTO tenant ...")), (str "driverError", uniqueViolation)]

/-- A driver's error with a `driverError` that says nothing. -/
def hidingError : Any :=
  .literal [(str "code", .string (str "23505")), (str "constraint", .string (str "uq_tenant_name")),
    (str "driverError", .literal [])]

theorem carriedAt_uniqueViolation : CarriedAt uniqueViolation (str "23505") (some (str "uq_tenant_name")) :=
  ⟨by decide, by decide, by decide⟩

/-- Without a `driverError` there is one place. -/
theorem Place.eq_self {value source : Any} (h : Place value source) (hnone : value.has (str "driverError") ≠ some true) :
    source = value :=
  h.elim id fun hwrapped => absurd hwrapped.1 hnone

/-- A value with a mapped SQLSTATE where the filter looks can be answered. -/
theorem answerable_of_carriedOf {value : Any} {isError : Bool} (carried : Str × Option Str)
    (hwalks : value.instanceofError = some isError) (h : carriedOf value = some carried)
    (hconstraint : constraintOf value ≠ none) : Answerable false value := by
  unfold carriedOf at h
  split at h
  · next name hstate =>
      split at h
      · next hmapped =>
          obtain ⟨mapped, hmapped⟩ := Option.isSome_iff_exists.mp hmapped
          refine ⟨isError, some name, hwalks, hstate, ?_, ?_⟩
          · rintro name hname hinherited
            obtain rfl := Option.some.inj hname
            have hnone : ∀ name ∈ objectPrototypeNames, mappedSqlState name = none := by decide
            rw [hnone _ hinherited] at hmapped
            cases hmapped
          · rw [Option.bind_some, hmapped]
            exact hconstraint
      · cases h
  · cases h

theorem answerable_uniqueViolation : Answerable false uniqueViolation :=
  answerable_of_carriedOf (str "23505", some (str "uq_tenant_name")) rfl (by decide) (by decide)

theorem answerable_queryFailed : Answerable false queryFailed :=
  answerable_of_carriedOf (str "23505", some (str "uq_tenant_name")) rfl (by decide) (by decide)

theorem learned_eq_iff_wrapped :
    learned none tenantList (.node false) Context.nilUuid (str "12:00:00") uniqueViolation
      = learned none tenantList (.node false) Context.nilUuid (str "12:00:01") queryFailed := by
  have hsame : CarrySame uniqueViolation queryFailed :=
    .inl ⟨_, _, uniqueViolation, uniqueViolation, .inl rfl, carriedAt_uniqueViolation, .inr ⟨by decide, rfl⟩,
      carriedAt_uniqueViolation⟩
  have hcarried : carriedOf uniqueViolation = carriedOf queryFailed := by decide
  exact (learned_eq_iff (takesId_nilUuid false) (takesId_nilUuid false) hsame).1.mpr
    (.inr (.inr ⟨answerable_uniqueViolation, answerable_queryFailed, hcarried⟩))

/-- **What gives a value away.** A `code` that every object inherits leaves a client without the answer a string gets,
    and a `driverError` that says nothing makes a conflict a failure of the server. -/
theorem inherited_code_distinguished :
    (CarrySame (.string (str "boom")) inheritedCode ∧
      learned none tenantList (.node false) Context.nilUuid [] (.string (str "boom"))
        ≠ learned none tenantList (.node false) Context.nilUuid [] inheritedCode) ∧
    (CarrySame uniqueViolation hidingError ∧
      learned none tenantList (.node false) Context.nilUuid [] uniqueViolation
        ≠ learned none tenantList (.node false) Context.nilUuid [] hidingError) := by
  have htakes := takesId_nilUuid false
  refine ⟨⟨.inr ?_, ?_⟩, .inl ⟨_, _, uniqueViolation, hidingError, .inl rfl, carriedAt_uniqueViolation, .inl rfl,
    ⟨by decide, by decide, by decide⟩⟩, ?_⟩
  · -- no mapped SQLSTATE stands in either
    rintro name hmapped
    constructor
    · rintro source hplace
      rw [hplace.eq_self nofun]
      nofun
    · rintro source hplace hcode
      rw [hplace.eq_self (by decide)] at hcode
      have hconstructor : stringAt inheritedCode (str "code") = some (some (str "constructor")) := by decide
      obtain rfl := Option.some.inj (Option.some.inj (hconstructor.symm.trans hcode))
      cases hmapped
  · -- the string is answered, and the object is not
    have hunanswerable : ¬ Answerable false inheritedCode := by
      rintro ⟨-, sqlState, -, hstate, hown, -⟩
      obtain rfl := Option.some.inj (sqlStateOf_inheritedCode.symm.trans hstate)
      exact hown _ rfl (by decide)
    rw [learned_eq_singleton htakes rfl (answerable_string _), learned_eq_nil htakes (.inr hunanswerable)]
    exact List.cons_ne_nil _ _
  · -- a conflict and a failure
    have hanswerable : Answerable false hidingError :=
      ⟨false, none, rfl, by decide, nofun, Option.some_ne_none _, nofun⟩
    rw [learned_eq_singleton htakes rfl answerable_uniqueViolation, learned_eq_singleton htakes rfl hanswerable]
    intro hsame
    have hcarried := formOf_carriedOf_injective (List.singleton_inj.mp hsame)
    revert hcarried
    decide

end Exception
end NestSdk
