import NestSdk.Auth.PermissionGuard

/-!
# `Auth.EndToEnd` — from the headers to the handler

Nest runs the global guards in order and calls the handler when all of them said yes. With `AuthGuard` before
`PermissionGuard`, **`reached_authenticated`** says what a reached handler can rely on, what a refusal of `AuthGuard`
looks like, and that a route cannot be public and demand a permission.
-/

namespace NestSdk
namespace Auth

open Js

/-- What becomes of a request. `forbidden` is Nest's own answer to a guard that returned `false`. -/
inductive Outcome
  | reached
  | forbidden
  | refused (e : AuthException)
deriving DecidableEq

/-- The guards of a route, one after the other. -/
def runGuards : List Guard → Request → Outcome × Request
  | [], request => (.reached, request)
  | guard :: guards, request =>
      match guard request with
      | (.ok true, request) => runGuards guards request
      | (.ok false, request) => (.forbidden, request)
      | (.error e, request) => (.refused e, request)

/-- A request as it comes in, without a context. -/
def incoming (headers : Str → HeaderValue) : Request := ⟨headers, none⟩

def handle (toLowerCase : Str → Str) (principalType : PrincipalType) (verifyAsync : Jwt)
    (context : ExecutionContext) (headers : Str → HeaderValue) : Outcome × Request :=
  runGuards [AuthGuard.canActivate toLowerCase principalType verifyAsync context,
    PermissionGuard.canActivate context] (incoming headers)

/-! ## Two guards -/

section Guards

variable {guard : Guard} {guards : List Guard} {request request' : Request}

/-- An exception ends the run. -/
theorem runGuards_error {e : AuthException} (h : guard request = (.error e, request')) :
    runGuards (guard :: guards) request = (.refused e, request') := by
  simp only [runGuards, h]

theorem runGuards_false (h : guard request = (.ok false, request')) :
    runGuards (guard :: guards) request = (.forbidden, request') := by
  simp only [runGuards, h]

theorem runGuards_ok (h : guard request = (.ok true, request')) :
    runGuards (guard :: guards) request = runGuards guards request' := by
  simp only [runGuards, h]

/-- A handler reached has passed the first guard, and then the others. -/
theorem runGuards_reached (h : (runGuards (guard :: guards) request).1 = .reached) :
    ∃ request', guard request = (.ok true, request') ∧
      runGuards (guard :: guards) request = runGuards guards request' := by
  rcases hguard : guard request with ⟨_ | _ | _, request'⟩
  · rw [runGuards_error hguard] at h
    exact absurd h (by simp)
  · rw [runGuards_false hguard] at h
    exact absurd h (by simp)
  · exact ⟨request', rfl, runGuards_ok hguard⟩

end Guards

variable {toLowerCase : Str → Str} {principalType : PrincipalType} {verifyAsync : Jwt}
  {context : ExecutionContext}

/-- A guard that refuses only by exception is never why a request is forbidden. -/
theorem runGuards_ne_forbidden {guards : List Guard} (h : ∀ guard ∈ guards, ∀ request, (guard request).1 ≠ .ok false) :
    ∀ request, (runGuards guards request).1 ≠ .forbidden := by
  induction guards with
  | nil =>
      intro request
      exact Outcome.noConfusion
  | cons guard guards ih =>
      intro request
      rcases hguard : guard request with ⟨_ | _ | _, request'⟩
      · rw [runGuards_error hguard]
        exact Outcome.noConfusion
      · exact absurd (congrArg Prod.fst hguard) (h guard List.mem_cons_self request)
      · rw [runGuards_ok hguard]
        exact ih (fun later hmem => h later (List.mem_cons_of_mem _ hmem)) request'

theorem handle_ne_forbidden (headers : Str → HeaderValue) :
    (handle toLowerCase principalType verifyAsync context headers).1 ≠ .forbidden := by
  refine runGuards_ne_forbidden ?_ _
  intro guard hmem
  rcases List.mem_pair.mp hmem with rfl | rfl
  · exact AuthGuard.canActivate_ne_false
  · exact PermissionGuard.canActivate_ne_false context

/-- **Authentication and authorization, end to end.** For an HTTP request and whatever the route's metadata, the
    headers and the JWT library: the handler of a route that is not public is reached only with a bearer token the
    library accepted, a context that says what its claims say, and every permission resolved for the route; a
    refusal by `AuthGuard` is an exception, for expiry exactly when the library reported it and for missing
    authentication otherwise, and leaves no context; a public route that demands a permission is refused; and no
    request gets the bare 403 of a guard that says no. -/
theorem reached_authenticated (hhttp : context.type = str "http") (headers : Str → HeaderValue) :
    (AuthGuard.isPublic context = false →
      (handle toLowerCase principalType verifyAsync context headers).1 = .reached →
      ∃ token claims requestContext, AuthGuard.Carries toLowerCase (incoming headers) token ∧
        verifyAsync token = .ok claims ∧
        (handle toLowerCase principalType verifyAsync context headers).2.iveriRequestContext =
          some requestContext ∧
        AuthGuard.Authenticated principalType claims requestContext ∧
        ∀ permission ∈ PermissionGuard.required context, permission ∈ requestContext.permissions) ∧
    (AuthGuard.canActivate toLowerCase principalType verifyAsync context (incoming headers)).1 ≠ .ok false ∧
    (∀ e request', AuthGuard.canActivate toLowerCase principalType verifyAsync context (incoming headers) =
        (.error e, request') →
      handle toLowerCase principalType verifyAsync context headers = (.refused e, request') ∧
      request'.iveriRequestContext = none ∧
      ((∃ message, e = .unauthenticated message) ∨ ∃ message, e = .tokenExpired message) ∧
      ((∃ message, e = .tokenExpired message) ↔
        ∃ token, AuthGuard.Carries toLowerCase (incoming headers) token ∧
          verifyAsync token = .error .tokenExpiredError)) ∧
    (AuthGuard.isPublic context = true → PermissionGuard.required context ≠ [] →
      ∃ e, (handle toLowerCase principalType verifyAsync context headers).1 = .refused e) ∧
    (handle toLowerCase principalType verifyAsync context headers).1 ≠ .forbidden := by
  refine ⟨?_, AuthGuard.canActivate_ne_false _, ?_, ?_, handle_ne_forbidden headers⟩
  · intro hpublic hreached
    obtain ⟨request', hauth, hrest⟩ := runGuards_reached hreached
    obtain ⟨token, claims, requestContext, hcarries, haccepted, hcontext, hclaims⟩ :=
      AuthGuard.canActivate_ok hhttp hpublic hauth
    -- the second guard has only looked at the context of the first
    have hsecond : (runGuards [PermissionGuard.canActivate context] request').1 = .reached :=
      hrest ▸ hreached
    obtain ⟨request'', hpermitted, hend⟩ := runGuards_reached hsecond
    have hsame : request'' = request' := by
      rw [← PermissionGuard.canActivate_request context request', hpermitted]
    refine ⟨token, claims, requestContext, hcarries, haccepted, ?_, hclaims,
      (PermissionGuard.canActivate_some hcontext).mp (congrArg Prod.fst hpermitted)⟩
    have hrun : handle toLowerCase principalType verifyAsync context headers = (.reached, request'') :=
      hrest.trans hend
    rw [hrun, hsame]
    exact hcontext
  · intro e request' hrefused
    obtain ⟨rfl, hcase⟩ := AuthGuard.canActivate_error hrefused
    refine ⟨runGuards_error hrefused, rfl, ?_⟩
    rcases hcase with ⟨hexpired, message, rfl⟩ | ⟨hnot, message, rfl⟩
    · exact ⟨.inr ⟨message, rfl⟩, fun _ => hexpired, fun _ => ⟨message, rfl⟩⟩
    · exact ⟨.inl ⟨message, rfl⟩, fun h => absurd h (by simp), fun h => absurd h hnot⟩
  · intro hpublic hrequired
    unfold handle
    rw [runGuards_ok (AuthGuard.canActivate_public hpublic _)]
    -- there is no context on a public route, so every permission is missing
    have hnot : (PermissionGuard.canActivate context (incoming headers)).1 ≠ .ok true :=
      fun hok => hrequired ((PermissionGuard.canActivate_none rfl).mp hok)
    have hnotfalse := PermissionGuard.canActivate_ne_false context (incoming headers)
    rcases hguard : PermissionGuard.canActivate context (incoming headers) with ⟨_ | _ | _, request'⟩
    · exact ⟨_, congrArg Prod.fst (runGuards_error hguard)⟩
    · exact absurd (congrArg Prod.fst hguard) hnotfalse
    · exact absurd (congrArg Prod.fst hguard) hnot

/-! ## One service token -/

/-- A token of a service's API key, on a route that needs one of its permissions. -/
def serviceClaims : Record := fun name =>
  if name = str "sub" then .string (str "key")
  else if name = str "tid" then .string (str "tenant")
  else if name = str "pt" then .string (str "SERVICE")
  else if name = str "perms" then .array [.string (str "thing:read"), .number 7]
  else .undefined

def serviceHeaders : Str → HeaderValue := fun name =>
  if name = HeaderKey.AUTHORIZATION then .one (str "bearer token") else .absent

def thingRoute : ExecutionContext :=
  ⟨str "http", ⟨none, some [str "thing:read"]⟩, ⟨none, none⟩⟩

theorem serviceToken_reached :
    (handle id ⟨str "USER", str "SERVICE"⟩ (fun _ => .ok serviceClaims) thingRoute serviceHeaders).1 =
      .reached := by decide +kernel

/-- Its handler runs with a context that names the key and holds the permission. -/
theorem reached_authenticated_service :
    ∃ requestContext, AuthGuard.Authenticated ⟨str "USER", str "SERVICE"⟩ serviceClaims requestContext ∧
      str "thing:read" ∈ requestContext.permissions := by
  obtain ⟨_, _, requestContext, -, haccepted, -, hclaims, hpermitted⟩ :=
    (reached_authenticated rfl serviceHeaders).1 rfl serviceToken_reached
  obtain rfl := Except.ok.inj haccepted
  exact ⟨requestContext, hclaims, hpermitted _ (List.mem_singleton_self _)⟩

end Auth
end NestSdk
