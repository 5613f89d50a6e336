import NestSdk.Auth.AccessToken

/-!
# `Auth.AuthGuard` — who is asking

`AuthGuard.canActivate` reads the bearer token of an HTTP request, has it verified and parks the context on the
request. A guard takes the request and gives it back as it leaves it, with `true` or the exception it throws.

`Carries` says what a bearer token is without the splitting and joining of the code (`readBearerToken_eq_some`).
What the guard can do is three cases: it steps aside, it accepts a token, or it refuses (`canActivate_ok`,
`canActivate_error`). `toLowerCase` is the language's; nothing is assumed of it.
-/

namespace NestSdk
namespace Auth

open Js

/-- What a guard does to a request. -/
abbrev Guard := Request → Except AuthException Bool × Request

/-- RFC 7235 makes the scheme case-insensitive. -/
def BEARER_SCHEME : Str := str "bearer"

def space : UInt16 := 0x20
def comma : UInt16 := 0x2C
def semicolon : UInt16 := 0x3B

namespace AuthGuard

def readHeader (request : Request) (key : Str) : Option Str :=
  match request.headers key with
  | .absent => none
  | .one value => some value
  | .many values => values.head?

def readBearerToken (toLowerCase : Str → Str) (request : Request) : Option Str :=
  match readHeader request HeaderKey.AUTHORIZATION with
  | none | some [] => none
  | some header =>
      match header.splitOn space with
      | [] => none
      | scheme :: rest =>
          let token := trim ([space].intercalate rest)
          if toLowerCase scheme ≠ BEARER_SCHEME ∨ token.length = 0 then none else some token

def readLocale (request : Request) : Str :=
  match readHeader request HeaderKey.ACCEPT_LANGUAGE with
  | none | some [] => str "en"
  | some header =>
      let primary := (header.splitOn comma).headD []
      let tag := trim ((primary.splitOn semicolon).headD [])
      if tag.length = 0 then str "en" else tag

def isPublic (context : ExecutionContext) : Bool :=
  (getAllAndOverride Metadata.isPublic [context.handler, context.class_]).getD false

/-- The context of a verified token's request. -/
def requestContext (principalType : PrincipalType) (payload : AccessTokenPayload) (request : Request) :
    AuthenticatedRequestContext :=
  let isService : Bool := payload.pt = principalType.SERVICE
  { tenantId := payload.tid
    userId := if isService then none else some payload.sub
    apiKeyId := if isService then some payload.sub else none
    permissions := payload.perms
    locale := readLocale request
    correlationId := (readHeader request HeaderKey.CORRELATION_ID).getD [] }

def canActivate (toLowerCase : Str → Str) (principalType : PrincipalType) (verifyAsync : Jwt)
    (context : ExecutionContext) : Guard := fun request =>
  if context.type ≠ str "http" then (.ok true, request)
  else if isPublic context then (.ok true, request)
  else
    match readBearerToken toLowerCase request with
    | none => (.error (.unauthenticated (str "No credentials presented")), request)
    | some token =>
        match verify principalType verifyAsync token with
        | .error e => (.error e, request)
        | .ok payload =>
            (.ok true,
              { request with iveriRequestContext := some (requestContext principalType payload request) })

/-! ## The token a request carries -/

/-- The request's authorization header is `<scheme> <credentials>` with the bearer scheme, and the token is
    what the credentials trim to. -/
def Carries (toLowerCase : Str → Str) (request : Request) (token : Str) : Prop :=
  ∃ scheme credentials, readHeader request HeaderKey.AUTHORIZATION = some (scheme ++ space :: credentials) ∧
    space ∉ scheme ∧ toLowerCase scheme = BEARER_SCHEME ∧ token = trim credentials ∧ token ≠ []

/-- A header with a space: the scheme ends at the first one. -/
theorem readBearerToken_of_space {toLowerCase : Str → Str} {request : Request} {scheme credentials : Str}
    (hheader : readHeader request HeaderKey.AUTHORIZATION = some (scheme ++ space :: credentials))
    (hscheme : space ∉ scheme) :
    readBearerToken toLowerCase request =
      if toLowerCase scheme ≠ BEARER_SCHEME ∨ (trim credentials).length = 0 then none
      else some (trim credentials) := by
  unfold readBearerToken
  rw [hheader]
  split
  · next hnone => exact absurd hnone (by simp)
  · next hempty => exact absurd (Option.some.inj hempty) (by simp)
  · next header _ hsome =>
    obtain rfl := Option.some.inj hsome
    rw [List.splitOn_append_cons_self_of_not_mem hscheme]
    dsimp only
    rw [List.intercalate_splitOn]

/-- A header without a space has nothing after its scheme. -/
theorem readBearerToken_of_no_space {toLowerCase : Str → Str} {request : Request} {header : Str}
    (hheader : readHeader request HeaderKey.AUTHORIZATION = some header) (hspace : space ∉ header) :
    readBearerToken toLowerCase request = none := by
  unfold readBearerToken
  rw [hheader]
  split
  · rfl
  · rfl
  · next header' _ hsome =>
    obtain rfl := Option.some.inj hsome
    rw [List.splitOn_eq_singleton hspace]
    exact if_pos (.inr rfl)

/-- **Reading a bearer token finds the token carried.** -/
theorem readBearerToken_eq_some {toLowerCase : Str → Str} {request : Request} {token : Str} :
    readBearerToken toLowerCase request = some token ↔ Carries toLowerCase request token := by
  constructor
  · intro h
    cases hheader : readHeader request HeaderKey.AUTHORIZATION with
    | none =>
        unfold readBearerToken at h
        rw [hheader] at h
        exact absurd h (by simp)
    | some header =>
        by_cases hspace : space ∈ header
        · obtain ⟨scheme, credentials, rfl, hscheme⟩ := List.eq_append_cons_of_mem hspace
          rw [readBearerToken_of_space hheader hscheme] at h
          split at h
          · exact absurd h (by simp)
          · next hok =>
            obtain ⟨hbearer, hne⟩ := not_or.mp hok
            have htoken : token = trim credentials := (Option.some.inj h).symm
            refine ⟨scheme, credentials, hheader, hscheme, not_not.mp hbearer, htoken, ?_⟩
            intro hnil
            exact hne (List.length_eq_zero_iff.mpr (htoken.symm.trans hnil))
        · rw [readBearerToken_of_no_space hheader hspace] at h
          exact absurd h (by simp)
  · rintro ⟨scheme, credentials, hheader, hscheme, hbearer, rfl, hne⟩
    rw [readBearerToken_of_space hheader hscheme]
    refine if_neg (not_or.mpr ⟨not_not.mpr hbearer, ?_⟩)
    exact fun hzero => hne (List.length_eq_zero_iff.mp hzero)

/-! ## What the guard can do -/

variable {toLowerCase : Str → Str} {principalType : PrincipalType} {verifyAsync : Jwt}
  {context : ExecutionContext}

/-- What a request's context holds once a token of these claims has been accepted. -/
structure Authenticated (principalType : PrincipalType) (claims : Record)
    (requestContext : AuthenticatedRequestContext) : Prop where
  tenant : claims (str "tid") = .string requestContext.tenantId ∧ requestContext.tenantId ≠ []
  principal : ∃ sub, claims (str "sub") = .string sub ∧ sub ≠ [] ∧
    ((claims (str "pt") = .string principalType.SERVICE ∧
        requestContext.apiKeyId = some sub ∧ requestContext.userId = none) ∨
      (claims (str "pt") = .string principalType.USER ∧ claims (str "pt") ≠ .string principalType.SERVICE ∧
        requestContext.userId = some sub ∧ requestContext.apiKeyId = none))
  permissions : requestContext.permissions = (claims (str "perms")).strings

/-- **The context says what the token says.** -/
theorem authenticated_requestContext {claims : Record} {payload : AccessTokenPayload}
    (h : Narrowed principalType claims payload) (request : Request) :
    Authenticated principalType claims (requestContext principalType payload request) where
  tenant := ⟨h.tid_eq, h.tid_ne⟩
  permissions := h.perms_eq
  principal := by
    refine ⟨payload.sub, h.sub_eq, h.sub_ne, ?_⟩
    by_cases hservice : payload.pt = principalType.SERVICE
    · refine .inl ⟨hservice ▸ h.pt_eq, ?_, ?_⟩
      · simp [requestContext, hservice]
      · simp [requestContext, hservice]
    · have huser : payload.pt = principalType.USER := h.pt_mem.resolve_right hservice
      refine .inr ⟨huser ▸ h.pt_eq, ?_, ?_, ?_⟩
      · rw [h.pt_eq]
        exact fun hsame => hservice (Value.string.inj hsame)
      · simp [requestContext, hservice]
      · simp [requestContext, hservice]

/-- **A request let through** an HTTP route that is not public carried a token the library accepted, and now
    has the context its claims make. -/
theorem canActivate_ok {request request' : Request} (hhttp : context.type = str "http")
    (hpublic : isPublic context = false)
    (h : canActivate toLowerCase principalType verifyAsync context request = (.ok true, request')) :
    ∃ token claims requestContext, Carries toLowerCase request token ∧
      verifyAsync token = .ok claims ∧ request'.iveriRequestContext = some requestContext ∧
      Authenticated principalType claims requestContext := by
  unfold canActivate at h
  rw [if_neg (not_not.mpr hhttp), if_neg (by rw [hpublic]; exact Bool.false_ne_true)] at h
  split at h
  · exact absurd (congrArg Prod.fst h) (by simp)
  · next token htoken =>
    split at h
    · exact absurd (congrArg Prod.fst h) (by simp)
    · next payload hpayload =>
      obtain ⟨claims, haccepted, hnarrowed⟩ := verify_eq_ok hpayload
      obtain ⟨-, rfl⟩ := Prod.mk.inj h
      exact ⟨token, claims, _, readBearerToken_eq_some.mp htoken, haccepted, rfl,
        authenticated_requestContext hnarrowed request⟩

/-- **A request refused** is left as it was. It is refused as expired if the library says so of the token it
    carries, and as unauthenticated otherwise. -/
theorem canActivate_error {request request' : Request} {e : AuthException}
    (h : canActivate toLowerCase principalType verifyAsync context request = (.error e, request')) :
    request' = request ∧
    (((∃ token, Carries toLowerCase request token ∧ verifyAsync token = .error .tokenExpiredError) ∧
        ∃ message, e = .tokenExpired message) ∨
      ((¬ ∃ token, Carries toLowerCase request token ∧ verifyAsync token = .error .tokenExpiredError) ∧
        ∃ message, e = .unauthenticated message)) := by
  unfold canActivate at h
  split at h
  · exact absurd (congrArg Prod.fst h) (by simp)
  · split at h
    · exact absurd (congrArg Prod.fst h) (by simp)
    · split at h
      · next hnone =>
        obtain ⟨he, rfl⟩ := Prod.mk.inj h
        refine ⟨rfl, .inr ⟨?_, _, (Except.error.inj he).symm⟩⟩
        rintro ⟨token, hcarries, -⟩
        rw [← readBearerToken_eq_some, hnone] at hcarries
        exact absurd hcarries (by simp)
      · next token htoken =>
        split at h
        · next refusal hrefusal =>
          obtain ⟨he, rfl⟩ := Prod.mk.inj h
          obtain rfl := Except.error.inj he
          refine ⟨rfl, ?_⟩
          rcases verify_eq_error hrefusal with ⟨hexpired, hmessage⟩ | ⟨hnot, hmessage⟩
          · exact .inl ⟨⟨token, readBearerToken_eq_some.mp htoken, hexpired⟩, hmessage⟩
          · refine .inr ⟨?_, hmessage⟩
            rintro ⟨token', hcarries, hexpired⟩
            rw [← readBearerToken_eq_some, htoken] at hcarries
            exact hnot (Option.some.inj hcarries ▸ hexpired)
        · exact absurd (congrArg Prod.fst h) (by simp)

/-- The guard refuses by exception, never by `false`. -/
theorem canActivate_ne_false (request : Request) :
    (canActivate toLowerCase principalType verifyAsync context request).1 ≠ .ok false := by
  unfold canActivate
  split
  · simp
  · split
    · simp
    · split
      · simp
      · split <;> simp

/-- All the guard does to a request is park a context on it. -/
theorem canActivate_request (request : Request) :
    (canActivate toLowerCase principalType verifyAsync context request).2 = request ∨
      ∃ payload, (canActivate toLowerCase principalType verifyAsync context request).2
        = { request with iveriRequestContext := some (requestContext principalType payload request) } := by
  unfold canActivate
  split
  · exact .inl rfl
  · split
    · exact .inl rfl
    · split
      · exact .inl rfl
      · split
        · exact .inl rfl
        · exact .inr ⟨_, rfl⟩

/-- A public route's request goes through untouched. -/
theorem canActivate_public (hpublic : isPublic context = true) (request : Request) :
    canActivate toLowerCase principalType verifyAsync context request = (.ok true, request) := by
  unfold canActivate
  rw [if_pos hpublic, ite_self]

end AuthGuard
end Auth
end NestSdk
