import NestSdk.Auth.AuthGuard

/-!
# `Auth.PermissionGuard` — what the caller may do

The guard behind `@RequirePermission(...)`. Several permissions means all of them; `canActivate_iff` says so, and
that a request without a context passes only where nothing is required.
-/

namespace NestSdk
namespace Auth

open Js

namespace PermissionGuard

/-- The permissions the guard resolves for the route, none if there is no metadata. -/
def required (context : ExecutionContext) : List Str :=
  (getAllAndOverride Metadata.requiredPermissions [context.handler, context.class_]).getD []

def canActivate (context : ExecutionContext) : Guard := fun request =>
  if (required context).length = 0 then (.ok true, request)
  else
    match request.iveriRequestContext with
    | none =>
        (.error (.unauthenticated (str "Permission-gated route reached with no authenticated context")),
          request)
    | some requestContext =>
        let granted := requestContext.permissions
        let missing := (required context).filter fun permission => permission ∉ granted
        if missing.length > 0 then
          (.error (.insufficientPermission (str "Missing required permission") (required context) missing),
            request)
        else (.ok true, request)

/-- The handler's list overrides its class's. -/
theorem required_eq (context : ExecutionContext) :
    required context =
      (context.handler.requiredPermissions.or context.class_.requiredPermissions).getD [] := by
  unfold required
  rw [getAllAndOverride_pair]

/-- The guard never touches the request. -/
theorem canActivate_request (context : ExecutionContext) (request : Request) :
    (canActivate context request).2 = request := by
  unfold canActivate
  split
  · rfl
  · split
    · rfl
    · dsimp only
      split <;> rfl

/-- The guard refuses by exception, never by `false`. -/
theorem canActivate_ne_false (context : ExecutionContext) (request : Request) :
    (canActivate context request).1 ≠ .ok false := by
  unfold canActivate
  split
  · simp
  · split
    · simp
    · dsimp only
      split <;> simp

/-- A caller with a context passes with every permission required, and no other way. -/
theorem canActivate_some {context : ExecutionContext} {request : Request}
    {requestContext : AuthenticatedRequestContext} (h : request.iveriRequestContext = some requestContext) :
    (canActivate context request).1 = .ok true ↔
      ∀ permission ∈ required context, permission ∈ requestContext.permissions := by
  unfold canActivate
  rw [h]
  by_cases hnone : (required context).length = 0
  · rw [if_pos hnone, List.length_eq_zero_iff.mp hnone]
    simp
  · rw [if_neg hnone]
    dsimp only
    have hmissing : (List.filter (fun permission => decide (permission ∉ requestContext.permissions))
        (required context)).length > 0 ↔
        ¬ ∀ permission ∈ required context, permission ∈ requestContext.permissions := by
      rw [gt_iff_lt, List.length_filter_pos_iff]
      simp
    by_cases hall : ∀ permission ∈ required context, permission ∈ requestContext.permissions
    · rw [if_neg (fun hpos => hmissing.mp hpos hall)]
      exact ⟨fun _ => hall, fun _ => rfl⟩
    · rw [if_pos (hmissing.mpr hall)]
      exact ⟨fun h => absurd h (by simp), fun h => absurd h hall⟩

/-- A caller without a context passes only where nothing is required. -/
theorem canActivate_none {context : ExecutionContext} {request : Request}
    (h : request.iveriRequestContext = none) :
    (canActivate context request).1 = .ok true ↔ required context = [] := by
  unfold canActivate
  rw [h]
  by_cases hnone : (required context).length = 0
  · rw [if_pos hnone]
    exact ⟨fun _ => List.length_eq_zero_iff.mp hnone, fun _ => rfl⟩
  · rw [if_neg hnone]
    exact ⟨fun h => absurd h (by simp), fun h => absurd (List.length_eq_zero_iff.mpr h) hnone⟩

end PermissionGuard
end Auth
end NestSdk
