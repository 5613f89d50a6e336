import NestSdk.Auth.EndToEnd

/-!
# `Pipeline.Verdict` — what a request may expect of the guards

How a request stands, said without the guards: what its route is marked, what the token library says of the token it
carries, and whether the claims are fit to act on (`Stands`). With what the route requires this decides the verdict,
and **`handle_verdict`** says that the guards go by the verdict, whatever else is in the request.
-/

namespace NestSdk
namespace Pipeline

open Js Auth

/-- Claims that name a subject, a tenant and a kind of principal. -/
structure Fit (principalType : PrincipalType) (claims : Record) : Prop where
  sub : ∃ sub, claims (str "sub") = .string sub ∧ sub ≠ []
  tid : ∃ tid, claims (str "tid") = .string tid ∧ tid ≠ []
  pt : ∃ pt, claims (str "pt") = .string pt ∧ (pt = principalType.USER ∨ pt = principalType.SERVICE)

theorem fit_of_narrowed {principalType : PrincipalType} {claims : Record} {payload : AccessTokenPayload}
    (h : Narrowed principalType claims payload) : Fit principalType claims where
  sub := ⟨payload.sub, h.sub_eq, h.sub_ne⟩
  tid := ⟨payload.tid, h.tid_eq, h.tid_ne⟩
  pt := ⟨payload.pt, h.pt_eq, h.pt_mem⟩

/-- **Fit claims make a payload.** -/
theorem narrowClaims_of_fit {principalType : PrincipalType} {claims : Record} (h : Fit principalType claims) :
    ∃ payload, narrowClaims principalType claims = .ok payload := by
  obtain ⟨sub, hsub, hsubne⟩ := h.sub
  obtain ⟨tid, htid, htidne⟩ := h.tid
  obtain ⟨pt, hpt, hkind⟩ := h.pt
  have hnamed : ¬ (sub.length = 0 ∨ tid.length = 0) := by simp [hsubne, htidne]
  have hknown : ¬ (pt ≠ principalType.USER ∧ pt ≠ principalType.SERVICE) := by
    rintro ⟨huser, hservice⟩
    exact hkind.elim huser hservice
  unfold narrowClaims
  rw [hsub, htid, hpt]
  simp only [Value.asString]
  rw [if_neg hnamed, if_neg hknown]
  exact ⟨_, rfl⟩

/-! ## Standing and verdict -/

/-- How a request stands. -/
inductive Standing
  | exempt
  | expired
  | known (claims : Record)
  | unknown

inductive Verdict
  | admitted
  | expired
  | unidentified
  | lacking (missing : List Str)
deriving DecidableEq

/-- The permissions a route requires that the claims do not grant. -/
def missingOf (context : ExecutionContext) (claims : Record) : List Str :=
  (PermissionGuard.required context).filter fun permission => permission ∉ (claims (str "perms")).strings

/-- The verdict on a request that stands so. A public route that requires a permission admits nobody. -/
def Standing.verdict (context : ExecutionContext) : Standing → Verdict
  | .exempt => if PermissionGuard.required context = [] then .admitted else .unidentified
  | .expired => .expired
  | .known claims => if missingOf context claims = [] then .admitted else .lacking (missingOf context claims)
  | .unknown => .unidentified

section

variable (toLowerCase : Str → Str) (principalType : PrincipalType) (verifyAsync : Jwt)

/-- The request carries a token that has expired. -/
def Expired (headers : Str → HeaderValue) : Prop :=
  ∃ token, AuthGuard.Carries toLowerCase (incoming headers) token ∧ verifyAsync token = .error .tokenExpiredError

/-- The request carries a token that holds these claims, and they are fit. -/
def Identifies (headers : Str → HeaderValue) (claims : Record) : Prop :=
  ∃ token, AuthGuard.Carries toLowerCase (incoming headers) token ∧ verifyAsync token = .ok claims ∧
    Fit principalType claims

/-- Whether a request to a route stands so. -/
def Stands (context : ExecutionContext) (headers : Str → HeaderValue) : Standing → Prop
  | .exempt => AuthGuard.isPublic context = true
  | .expired => AuthGuard.isPublic context = false ∧ Expired toLowerCase verifyAsync headers
  | .known claims => AuthGuard.isPublic context = false ∧
      Identifies toLowerCase principalType verifyAsync headers claims
  | .unknown => AuthGuard.isPublic context = false ∧ ¬ Expired toLowerCase verifyAsync headers ∧
      ∀ claims, ¬ Identifies toLowerCase principalType verifyAsync headers claims

/-- The context a handler finds: none on a public route, else what the claims say. -/
def Parked (standing : Standing) (request : Request) : Prop :=
  match standing with
  | .known claims => ∃ requestContext, request.iveriRequestContext = some requestContext ∧
      AuthGuard.Authenticated principalType claims requestContext ∧
      requestContext.correlationId = (AuthGuard.readHeader request HeaderKey.CORRELATION_ID).getD []
  | .exempt | .expired | .unknown => request.iveriRequestContext = none

/-- What the guards make of a verdict. -/
def Goes (context : ExecutionContext) : Verdict → Outcome → Prop
  | .admitted, outcome => outcome = .reached
  | .expired, outcome => ∃ message, outcome = .refused (.tokenExpired message)
  | .unidentified, outcome => ∃ message, outcome = .refused (.unauthenticated message)
  | .lacking missing, outcome =>
      ∃ message, outcome = .refused (.insufficientPermission message (PermissionGuard.required context) missing)

end

variable {toLowerCase : Str → Str} {principalType : PrincipalType} {verifyAsync : Jwt} {context : ExecutionContext}
  {headers : Str → HeaderValue}

/-- **Every request stands somehow.** -/
theorem stands_total (toLowerCase : Str → Str) (principalType : PrincipalType) (verifyAsync : Jwt)
    (context : ExecutionContext) (headers : Str → HeaderValue) :
    ∃ standing, Stands toLowerCase principalType verifyAsync context headers standing := by
  cases hpublic : AuthGuard.isPublic context with
  | true => exact ⟨.exempt, hpublic⟩
  | false =>
      by_cases hexpired : Expired toLowerCase verifyAsync headers
      · exact ⟨.expired, hpublic, hexpired⟩
      · by_cases hclaims : ∃ claims, Identifies toLowerCase principalType verifyAsync headers claims
        · obtain ⟨claims, hclaims⟩ := hclaims
          exact ⟨.known claims, hpublic, hclaims⟩
        · exact ⟨.unknown, hpublic, hexpired, not_exists.mp hclaims⟩

/-! ## The guard that authenticates -/

section AuthGuard

variable (hhttp : context.type = str "http") (hpublic : AuthGuard.isPublic context = false)

include hhttp hpublic

/-- With a token carried, the guard does what its verification says. -/
theorem canActivate_refused {token : Str} {e : AuthException}
    (hcarries : AuthGuard.Carries toLowerCase (incoming headers) token)
    (hverify : verify principalType verifyAsync token = .error e) :
    AuthGuard.canActivate toLowerCase principalType verifyAsync context (incoming headers) =
      (.error e, incoming headers) := by
  have hread := AuthGuard.readBearerToken_eq_some.mpr hcarries
  unfold AuthGuard.canActivate
  rw [if_neg (not_not.mpr hhttp), if_neg (by rw [hpublic]; decide), hread]
  simp only [hverify]

theorem canActivate_accepted {token : Str} {payload : AccessTokenPayload}
    (hcarries : AuthGuard.Carries toLowerCase (incoming headers) token)
    (hverify : verify principalType verifyAsync token = .ok payload) :
    AuthGuard.canActivate toLowerCase principalType verifyAsync context (incoming headers) =
      (.ok true, { incoming headers with
        iveriRequestContext := some (AuthGuard.requestContext principalType payload (incoming headers)) }) := by
  have hread := AuthGuard.readBearerToken_eq_some.mpr hcarries
  unfold AuthGuard.canActivate
  rw [if_neg (not_not.mpr hhttp), if_neg (by rw [hpublic]; decide), hread]
  simp only [hverify]

theorem canActivate_expired (h : Expired toLowerCase verifyAsync headers) :
    AuthGuard.canActivate toLowerCase principalType verifyAsync context (incoming headers) =
      (.error (.tokenExpired (str "Access token has expired")), incoming headers) := by
  obtain ⟨token, hcarries, hexpired⟩ := h
  apply canActivate_refused hhttp hpublic hcarries
  unfold verify
  rw [hexpired]

theorem canActivate_known {claims : Record} (h : Identifies toLowerCase principalType verifyAsync headers claims) :
    ∃ request, AuthGuard.canActivate toLowerCase principalType verifyAsync context (incoming headers) =
        (.ok true, request) ∧ request.headers = headers ∧ Parked principalType (.known claims) request := by
  obtain ⟨token, hcarries, hclaims, hfit⟩ := h
  obtain ⟨payload, hpayload⟩ := narrowClaims_of_fit hfit
  have hverify : verify principalType verifyAsync token = .ok payload := by
    unfold verify
    rw [hclaims]
    exact hpayload
  refine ⟨_, canActivate_accepted hhttp hpublic hcarries hverify, rfl, _, rfl, ?_, rfl⟩
  exact AuthGuard.authenticated_requestContext (narrowClaims_eq_ok hpayload) _

theorem canActivate_unknown (hexpired : ¬ Expired toLowerCase verifyAsync headers)
    (hclaims : ∀ claims, ¬ Identifies toLowerCase principalType verifyAsync headers claims) :
    ∃ message, AuthGuard.canActivate toLowerCase principalType verifyAsync context (incoming headers) =
      (.error (.unauthenticated message), incoming headers) := by
  cases hread : AuthGuard.readBearerToken toLowerCase (incoming headers) with
  | none =>
      refine ⟨str "No credentials presented", ?_⟩
      unfold AuthGuard.canActivate
      rw [if_neg (not_not.mpr hhttp), if_neg (by rw [hpublic]; decide), hread]
  | some token =>
      have hcarries := AuthGuard.readBearerToken_eq_some.mp hread
      cases hverify : verify principalType verifyAsync token with
      | ok payload =>
          -- a payload is made of fit claims only
          obtain ⟨claims, hok, hnarrowed⟩ := verify_eq_ok hverify
          exact absurd ⟨token, hcarries, hok, fit_of_narrowed hnarrowed⟩ (hclaims claims)
      | error e =>
          obtain ⟨hlate, -⟩ | ⟨-, message, rfl⟩ := verify_eq_error hverify
          · exact absurd ⟨token, hcarries, hlate⟩ hexpired
          · exact ⟨message, canActivate_refused hhttp hpublic hcarries hverify⟩

end AuthGuard

/-! ## Both guards -/

/-- The permissions of an authenticated context are those of its claims. -/
theorem permission_verdict (context : ExecutionContext) {claims : Record} {request : Request}
    (h : Parked principalType (.known claims) request) :
    PermissionGuard.canActivate context request =
      (if missingOf context claims = [] then .ok true
        else .error (.insufficientPermission (str "Missing required permission") (PermissionGuard.required context)
          (missingOf context claims)), request) := by
  obtain ⟨requestContext, hcontext, hclaims, -⟩ := h
  unfold PermissionGuard.canActivate missingOf
  rw [hcontext, ← hclaims.permissions]
  by_cases hnone : (PermissionGuard.required context).length = 0
  · rw [if_pos hnone, List.length_eq_zero_iff.mp hnone]
    rfl
  · rw [if_neg hnone]
    dsimp only
    split
    · next hmissing => rw [if_neg (List.length_pos_iff.mp hmissing)]
    · next hmissing =>
        rw [if_pos (List.length_eq_zero_iff.mp (Nat.eq_zero_of_not_pos hmissing))]

/-- Without a context only a route that requires nothing is open. -/
theorem permission_exempt (context : ExecutionContext) (headers : Str → HeaderValue) :
    PermissionGuard.canActivate context (incoming headers) =
      (if PermissionGuard.required context = [] then .ok true
        else .error (.unauthenticated (str "Permission-gated route reached with no authenticated context")),
        incoming headers) := by
  unfold PermissionGuard.canActivate incoming
  by_cases hnone : PermissionGuard.required context = []
  · rw [if_pos (List.length_eq_zero_iff.mpr hnone), if_pos hnone]
  · rw [if_neg fun hlength => hnone (List.length_eq_zero_iff.mp hlength), if_neg hnone]

/-- **The guards go by the verdict,** and leave the request with the context its standing gives it. -/
theorem handle_verdict (hhttp : context.type = str "http") {standing : Standing}
    (h : Stands toLowerCase principalType verifyAsync context headers standing) :
    ∃ outcome request, handle toLowerCase principalType verifyAsync context headers = (outcome, request) ∧
      Goes context (standing.verdict context) outcome ∧ request.headers = headers ∧
      Parked principalType standing request := by
  unfold handle
  cases standing with
  | exempt =>
      rw [runGuards_ok (AuthGuard.canActivate_public h _)]
      have hsecond := permission_exempt context headers
      by_cases hnone : PermissionGuard.required context = []
      · rw [if_pos hnone] at hsecond
        rw [runGuards_ok hsecond]
        refine ⟨_, _, rfl, ?_, rfl, rfl⟩
        simp only [Standing.verdict, if_pos hnone]
        rfl
      · rw [if_neg hnone] at hsecond
        rw [runGuards_error hsecond]
        refine ⟨_, _, rfl, ?_, rfl, rfl⟩
        simp only [Standing.verdict, if_neg hnone]
        exact ⟨_, rfl⟩
  | expired =>
      rw [runGuards_error (canActivate_expired hhttp h.1 h.2)]
      exact ⟨_, _, rfl, ⟨_, rfl⟩, rfl, rfl⟩
  | known claims =>
      obtain ⟨request, hfirst, hheaders, hparked⟩ := canActivate_known hhttp h.1 h.2
      rw [runGuards_ok hfirst]
      have hsecond := permission_verdict context hparked
      by_cases hnone : missingOf context claims = []
      · rw [if_pos hnone] at hsecond
        rw [runGuards_ok hsecond]
        refine ⟨_, _, rfl, ?_, hheaders, hparked⟩
        simp only [Standing.verdict, if_pos hnone]
        rfl
      · rw [if_neg hnone] at hsecond
        rw [runGuards_error hsecond]
        refine ⟨_, _, rfl, ?_, hheaders, hparked⟩
        simp only [Standing.verdict, if_neg hnone]
        exact ⟨_, rfl⟩
  | unknown =>
      obtain ⟨message, hfirst⟩ := canActivate_unknown hhttp h.1 h.2.1 h.2.2
      rw [runGuards_error hfirst]
      exact ⟨_, _, rfl, ⟨message, rfl⟩, rfl, rfl⟩

end Pipeline
end NestSdk
