import NestSdk.Auth.Request
import NestSdk.Js.Value

/-!
# `Auth.AccessToken` — `AccessTokenService`

The JWT library is a parameter: `verifyAsync` gives a token's claims, whatever their shape, or the error it
throws. `narrowClaims` makes a payload of them; `narrowClaims_eq_ok` says of which.
-/

namespace NestSdk
namespace Auth

open Js

/-- What `JwtService.verifyAsync` throws. -/
inductive JwtError
  | tokenExpiredError
  | other

abbrev Jwt := Str → Except JwtError Record

/-- `PrincipalType` of the contracts package. -/
structure PrincipalType where
  USER : Str
  SERVICE : Str

structure AccessTokenPayload where
  sub : Uuid
  pt : Str
  tid : Uuid
  perms : List Str
  iat : Option ℚ
  exp : Option ℚ
  iss : Option Str
  aud : Option Str

/-- Turns verified-but-unchecked claims into a payload. -/
def narrowClaims (principalType : PrincipalType) (claims : Record) : Except AuthException AccessTokenPayload :=
  match (claims (str "sub")).asString, (claims (str "tid")).asString with
  | some sub, some tid =>
      if sub.length = 0 ∨ tid.length = 0 then
        .error (.unauthenticated (str "Access token is missing its subject or tenant claim"))
      else
        match (claims (str "pt")).asString with
        | some pt =>
            if pt ≠ principalType.USER ∧ pt ≠ principalType.SERVICE then
              .error (.unauthenticated (str "Access token does not say what kind of principal it names"))
            else
              .ok {
                sub := sub
                pt := pt
                tid := tid
                perms := (claims (str "perms")).strings
                iat := (claims (str "iat")).asNumber
                exp := (claims (str "exp")).asNumber
                iss := (claims (str "iss")).asString
                aud := (claims (str "aud")).asString }
        | none => .error (.unauthenticated (str "Access token does not say what kind of principal it names"))
  | _, _ => .error (.unauthenticated (str "Access token is missing its subject or tenant claim"))

/-- Verifies a token; expiry is told apart from every other failure. -/
def verify (principalType : PrincipalType) (verifyAsync : Jwt) (token : Str) :
    Except AuthException AccessTokenPayload :=
  match verifyAsync token with
  | .ok claims => narrowClaims principalType claims
  | .error .tokenExpiredError => .error (.tokenExpired (str "Access token has expired"))
  | .error .other => .error (.unauthenticated (str "Access token is not valid"))

/-! ## What a payload says of its claims -/

theorem asString_eq_some {value : Value} {s : Str} : value.asString = some s ↔ value = .string s := by
  cases value <;> simp [Value.asString]

/-- What the claims of an accepted token hold, and what is made of them. -/
structure Narrowed (principalType : PrincipalType) (claims : Record) (payload : AccessTokenPayload) : Prop where
  sub_eq : claims (str "sub") = .string payload.sub
  sub_ne : payload.sub ≠ []
  tid_eq : claims (str "tid") = .string payload.tid
  tid_ne : payload.tid ≠ []
  pt_eq : claims (str "pt") = .string payload.pt
  pt_mem : payload.pt = principalType.USER ∨ payload.pt = principalType.SERVICE
  perms_eq : payload.perms = (claims (str "perms")).strings

/-- **Every check a payload has passed.** -/
theorem narrowClaims_eq_ok {principalType : PrincipalType} {claims : Record} {payload : AccessTokenPayload}
    (h : narrowClaims principalType claims = .ok payload) : Narrowed principalType claims payload := by
  unfold narrowClaims at h
  split at h
  · next sub tid hsub htid =>
    split at h
    · exact absurd h (by simp)
    · next hne =>
      split at h
      · next pt hpt =>
        split at h
        · exact absurd h (by simp)
        · next hkind =>
          obtain rfl := Except.ok.inj h
          obtain ⟨hsubne, htidne⟩ := not_or.mp hne
          exact {
            sub_eq := asString_eq_some.mp hsub
            sub_ne := fun hnil => hsubne (List.length_eq_zero_iff.mpr hnil)
            tid_eq := asString_eq_some.mp htid
            tid_ne := fun hnil => htidne (List.length_eq_zero_iff.mpr hnil)
            pt_eq := asString_eq_some.mp hpt
            pt_mem := by
              rcases not_and_or.mp hkind with huser | hservice
              · exact .inl (not_not.mp huser)
              · exact .inr (not_not.mp hservice)
            perms_eq := rfl }
      · exact absurd h (by simp)
  · exact absurd h (by simp)

/-- Claims are refused as unauthenticated and in no other way. -/
theorem narrowClaims_eq_error {principalType : PrincipalType} {claims : Record} {e : AuthException}
    (h : narrowClaims principalType claims = .error e) : ∃ message, e = .unauthenticated message := by
  unfold narrowClaims at h
  split at h
  · split at h
    · exact ⟨_, (Except.error.inj h).symm⟩
    · split at h
      · split at h
        · exact ⟨_, (Except.error.inj h).symm⟩
        · exact absurd h (by simp)
      · exact ⟨_, (Except.error.inj h).symm⟩
  · exact ⟨_, (Except.error.inj h).symm⟩

/-- **A verified token:** the library accepted it and its claims were fit for a payload. -/
theorem verify_eq_ok {principalType : PrincipalType} {verifyAsync : Jwt} {token : Str}
    {payload : AccessTokenPayload} (h : verify principalType verifyAsync token = .ok payload) :
    ∃ claims, verifyAsync token = .ok claims ∧ Narrowed principalType claims payload := by
  unfold verify at h
  split at h
  · next claims hclaims => exact ⟨claims, hclaims, narrowClaims_eq_ok h⟩
  · exact absurd h (by simp)
  · exact absurd h (by simp)

/-- **A refused token:** expired if the library said so, and unauthenticated otherwise. -/
theorem verify_eq_error {principalType : PrincipalType} {verifyAsync : Jwt} {token : Str} {e : AuthException}
    (h : verify principalType verifyAsync token = .error e) :
    (verifyAsync token = .error .tokenExpiredError ∧ ∃ message, e = .tokenExpired message) ∨
    (verifyAsync token ≠ .error .tokenExpiredError ∧ ∃ message, e = .unauthenticated message) := by
  unfold verify at h
  split at h
  · next claims hclaims =>
    exact .inr ⟨by rw [hclaims]; exact fun hc => by simp at hc, narrowClaims_eq_error h⟩
  · next hexpired => exact .inl ⟨hexpired, _, (Except.error.inj h).symm⟩
  · next hother => exact .inr ⟨by rw [hother]; simp, _, (Except.error.inj h).symm⟩

end Auth
end NestSdk
