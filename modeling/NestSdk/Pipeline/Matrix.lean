import NestSdk.Pipeline.Verdict
import NestSdk.Testing.RegisteredRoute

/-!
# `Pipeline.Matrix` — the list a specification pins, and the service it is about

A service pins `registeredRoutes` in a specification of its own, and has `undeclaredRoutes` stay empty. That says
something of the running service if the guards go by the list: **`reached_iff_listed`**, for the routes whose list of
permissions is the one the guard demands (`Covers`).
-/

namespace NestSdk
namespace Pipeline

open Js Auth Testing

variable {toLowerCase : Str → Str} {principalType : PrincipalType} {verifyAsync : Jwt} {context : ExecutionContext}
  {headers : Str → HeaderValue}

/-! ## When the handler is reached -/

/-- **Reached means admitted.** -/
theorem reached_iff_verdict (hhttp : context.type = str "http") {standing : Standing}
    (h : Stands toLowerCase principalType verifyAsync context headers standing) :
    (handle toLowerCase principalType verifyAsync context headers).1 = .reached ↔
      standing.verdict context = .admitted := by
  obtain ⟨outcome, request, hhandle, hgoes, -, -⟩ := handle_verdict hhttp h
  rw [hhandle]
  cases hverdict : standing.verdict context with
  | admitted =>
      rw [hverdict] at hgoes
      exact iff_of_true hgoes rfl
  | expired | unidentified | lacking missing =>
      rw [hverdict] at hgoes
      obtain ⟨message, rfl⟩ := hgoes
      exact iff_of_false nofun nofun

theorem missingOf_eq_nil {claims : Record} :
    missingOf context claims = [] ↔
      ∀ permission ∈ PermissionGuard.required context, permission ∈ (claims (str "perms")).strings := by
  simp [missingOf]

/-- A public route is open to all or to nobody. -/
theorem reached_public (hhttp : context.type = str "http") (hpublic : AuthGuard.isPublic context = true) :
    (handle toLowerCase principalType verifyAsync context headers).1 = .reached ↔
      PermissionGuard.required context = [] := by
  have hstands : Stands toLowerCase principalType verifyAsync context headers .exempt := hpublic
  rw [reached_iff_verdict hhttp hstands]
  simp [Standing.verdict]

/-- A request carries one token, so it has one set of claims, and those of no expired one. -/
theorem carries_unique {request : Request} {token token' : Str} (h : AuthGuard.Carries toLowerCase request token)
    (h' : AuthGuard.Carries toLowerCase request token') : token = token' := by
  rw [← AuthGuard.readBearerToken_eq_some] at h h'
  exact Option.some.inj (h.symm.trans h')

theorem Identifies.unique {claims claims' : Record}
    (h : Identifies toLowerCase principalType verifyAsync headers claims)
    (h' : Identifies toLowerCase principalType verifyAsync headers claims') : claims = claims' := by
  obtain ⟨token, hcarries, hclaims, -⟩ := h
  obtain ⟨token', hcarries', hclaims', -⟩ := h'
  obtain rfl := carries_unique hcarries hcarries'
  exact Except.ok.inj (hclaims.symm.trans hclaims')

theorem Identifies.not_expired {claims : Record}
    (h : Identifies toLowerCase principalType verifyAsync headers claims) :
    ¬ Expired toLowerCase verifyAsync headers := by
  obtain ⟨token, hcarries, hclaims, -⟩ := h
  rintro ⟨token', hcarries', hexpired⟩
  obtain rfl := carries_unique hcarries hcarries'
  rw [hclaims] at hexpired
  cases hexpired

/-- Any other route is open to those who are known and hold what it requires. -/
theorem reached_private (hhttp : context.type = str "http") (hpublic : AuthGuard.isPublic context = false) :
    (handle toLowerCase principalType verifyAsync context headers).1 = .reached ↔
      ∃ claims, Identifies toLowerCase principalType verifyAsync headers claims ∧
        ∀ permission ∈ PermissionGuard.required context, permission ∈ (claims (str "perms")).strings := by
  obtain ⟨standing, hstands⟩ := stands_total toLowerCase principalType verifyAsync context headers
  rw [reached_iff_verdict hhttp hstands]
  cases standing with
  | exempt => exact absurd (hpublic.symm.trans hstands) (by decide)
  | expired => exact iff_of_false nofun fun ⟨claims, hclaims, _⟩ => hclaims.not_expired hstands.2
  | unknown => exact iff_of_false nofun fun ⟨claims, hclaims, _⟩ => hstands.2.2 claims hclaims
  | known claims =>
      have hverdict : (Standing.known claims).verdict context = .admitted ↔ missingOf context claims = [] := by
        simp [Standing.verdict]
      rw [hverdict, missingOf_eq_nil]
      constructor
      · exact fun hall => ⟨claims, hstands.2, hall⟩
      · rintro ⟨claims', hclaims', hall⟩
        rw [hstands.2.unique hclaims']
        exact hall

/-- A refusal for want of permissions is of a known caller, and names what it lacks. -/
theorem missing_of_refused (hhttp : context.type = str "http") {message : Str} {required missing : List Str}
    (h : (handle toLowerCase principalType verifyAsync context headers).1
      = .refused (.insufficientPermission message required missing)) :
    ∃ claims, Identifies toLowerCase principalType verifyAsync headers claims ∧ missing = missingOf context claims := by
  obtain ⟨standing, hstands⟩ := stands_total toLowerCase principalType verifyAsync context headers
  obtain ⟨outcome, request, hhandle, hgoes, -, -⟩ := handle_verdict hhttp hstands
  rw [hhandle] at h
  obtain rfl : outcome = .refused (.insufficientPermission message required missing) := h
  cases standing with
  | exempt =>
      by_cases hnone : PermissionGuard.required context = []
      · simp only [Standing.verdict, if_pos hnone] at hgoes
        cases hgoes
      · simp only [Standing.verdict, if_neg hnone] at hgoes
        obtain ⟨_, hrefused⟩ := hgoes
        cases hrefused
  | expired | unknown =>
      obtain ⟨_, hrefused⟩ := hgoes
      cases hrefused
  | known claims =>
      by_cases hnone : missingOf context claims = []
      · simp only [Standing.verdict, if_pos hnone] at hgoes
        cases hgoes
      · simp only [Standing.verdict, if_neg hnone] at hgoes
        obtain ⟨_, hrefused⟩ := hgoes
        cases hrefused
        exact ⟨claims, hstands.2, rfl⟩

/-! ## By the list -/

variable {app : ModulesContainer} {controller : Controller} {handler : Handler} {path : Str}

/-- On a route whose handler covers its class, the list is what the guard requires. -/
theorem required_iff_listed (hcovers : Covers controller handler) (path permission : Str) :
    permission ∈ PermissionGuard.required (controller.context handler) ↔
      permission ∈ (route controller handler path).permissions := by
  rw [← mem_demands]
  exact (demands_iff_listed path).mpr hcovers permission

/-- **What the list says, the service does.** Let no route of an application be undeclared, and take a route whose
    handler repeats the permissions of its class or has none of its own. Whatever the request and the token library:
    its handler is reached exactly if the list calls the route public and without permissions, or not public and the
    request carries a token of a known caller that holds every permission listed. A route the list calls public is then
    the only one reached without a token, no known caller without permissions gets further than anybody else, and a
    refused one is told the permissions listed that it lacks. -/
theorem reached_iff_listed (hdeclared : undeclaredRoutes (registeredRoutes app) = [])
    (hregisters : Registers app controller handler path) (hcovers : Covers controller handler)
    (hdecorated : handler.metadata.isPublic ≠ some false) (toLowerCase : Str → Str) (principalType : PrincipalType)
    (verifyAsync : Jwt) (headers : Str → HeaderValue) :
    let listed := route controller handler path
    let ran := handle toLowerCase principalType verifyAsync (controller.context handler) headers
    (ran.1 = .reached ↔
      (listed.isPublic = true ∧ listed.permissions = []) ∨
      (listed.isPublic = false ∧ ∃ claims, Identifies toLowerCase principalType verifyAsync headers claims ∧
        ∀ permission ∈ listed.permissions, permission ∈ (claims (str "perms")).strings)) ∧
    (ran.1 = .reached → listed.isPublic = false →
      ∃ claims, Identifies toLowerCase principalType verifyAsync headers claims ∧
        ∃ permission ∈ listed.permissions, permission ∈ (claims (str "perms")).strings) ∧
    ∀ message required missing, ran.1 = .refused (.insufficientPermission message required missing) →
      ∃ claims, Identifies toLowerCase principalType verifyAsync headers claims ∧
        ∀ permission, permission ∈ missing ↔
          permission ∈ listed.permissions ∧ permission ∉ (claims (str "perms")).strings := by
  intro listed ran
  have hpublic : listed.isPublic = AuthGuard.isPublic (controller.context handler) := isPublic_route hdecorated path
  have hreached : ran.1 = .reached ↔
      (listed.isPublic = true ∧ listed.permissions = []) ∨
      (listed.isPublic = false ∧ ∃ claims, Identifies toLowerCase principalType verifyAsync headers claims ∧
        ∀ permission ∈ listed.permissions, permission ∈ (claims (str "perms")).strings) := by
    cases hcase : AuthGuard.isPublic (controller.context handler) with
    | true =>
        rw [reached_public rfl hcase, hpublic, hcase]
        simp only [true_and, Bool.true_eq_false, false_and, or_false, List.eq_nil_iff_forall_not_mem]
        exact forall_congr' fun permission => not_congr (required_iff_listed hcovers path permission)
    | false =>
        rw [reached_private rfl hcase, hpublic, hcase]
        simp only [Bool.false_eq_true, false_and, true_and, false_or, required_iff_listed hcovers path]
        rfl
  refine ⟨hreached, ?_, ?_⟩
  · intro hran hprivate
    obtain ⟨hopen, -⟩ | ⟨-, claims, hclaims, hall⟩ := hreached.mp hran
    · exact absurd (hprivate.symm.trans hopen) (by decide)
    · -- a route that is declared and not public lists a permission
      have hlisted : listed.permissions ≠ [] := by
        apply permissions_of_declared hregisters hprivate
        rw [hdeclared]
        exact List.not_mem_nil
      obtain ⟨permission, hmem⟩ := List.exists_mem_of_ne_nil _ hlisted
      exact ⟨claims, hclaims, permission, hmem, hall permission hmem⟩
  · intro message required missing hran
    obtain ⟨claims, hclaims, rfl⟩ := missing_of_refused rfl hran
    refine ⟨claims, hclaims, fun permission => ?_⟩
    unfold missingOf
    rw [List.mem_filter, decide_eq_true_iff, required_iff_listed hcovers path]

/-- `archive` and its class, with the class's permission repeated on the handler. -/
def archiveRepeated : Handler := { archive with metadata := ⟨none, some [str "thing:write", str "thing:read"]⟩ }

def thingsRepeated : Controller := { things with methods := [some archiveRepeated] }

/-- A service that holds one of the two permissions does not get to the handler. -/
theorem reached_iff_listed_things :
    (handle id ⟨str "USER", str "SERVICE"⟩ (fun _ => .ok serviceClaims) (thingsRepeated.context archiveRepeated)
      serviceHeaders).1 ≠ .reached := by
  have hregisters : Registers [[some thingsRepeated]] thingsRepeated archiveRepeated (str "/") :=
    ⟨⟨_, List.mem_singleton_self _, List.mem_singleton_self _⟩, List.mem_singleton_self _, rfl⟩
  have hdeclared : undeclaredRoutes (registeredRoutes [[some thingsRepeated]]) = [] := by decide +kernel
  have hcovers : Covers thingsRepeated archiveRepeated := .inr (by decide +kernel)
  obtain ⟨hreached, -, -⟩ := reached_iff_listed hdeclared hregisters hcovers nofun id ⟨str "USER", str "SERVICE"⟩
    (fun _ => .ok serviceClaims) serviceHeaders
  intro hran
  obtain ⟨hopen, -⟩ | ⟨-, claims, ⟨token, -, hclaims, -⟩, hall⟩ := hreached.mp hran
  · exact absurd hopen (by decide +kernel)
  · obtain rfl := Except.ok.inj hclaims
    exact absurd (hall (str "thing:write") (by decide +kernel)) (by decide +kernel)

end Pipeline
end NestSdk
