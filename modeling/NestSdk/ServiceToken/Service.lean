import NestSdk.Js.Caught
import NestSdk.Js.Value
import NestSdk.Lib.SingleFlight

/-!
# `ServiceToken.Service` — `ServiceTokenService` and the calls made on it

`getAccessToken` answers from the cache, or joins the exchange in flight, or begins one. `fetchToken` is modelled
by the code on each side of its one `await`, the request. `inFlight` is the promise of `fetchToken().finally(…)`:
an exchange whose `fetchToken` has ended is still in flight until the `finally` handler has run, and a call that
awaits it is answered after that.

`Step` is any interleaving of any number of `getAccessToken` and `invalidate` calls, replies and failures of
exchanges, `finally` handlers and clock advances.
-/

namespace NestSdk
namespace ServiceToken

open Js Lib

structure ServiceTokenModuleOptions where
  identityApiUrl : Option Str
  identityApiKey : Option Str
  timeoutMs : ℚ
  refreshSkewSeconds : ℚ

structure CachedToken where
  accessToken : Str
  expiresAt : ℚ
deriving DecidableEq

/-- The exception every failure is thrown as, with the details it carries. -/
structure ExternalServiceException where
  message : Str
  reason : Option Str
  status : Option Nat
deriving DecidableEq

/-- How an exchange ends: with a bearer token, or with an exception. -/
abbrev Outcome := Except ExternalServiceException Str

/-- The request an exchange sends. -/
structure ExchangeRequest where
  url : Str
  method : Str
  headers : List (Str × Str)
  timeout : ℚ
deriving DecidableEq

/-- What identity answers with. -/
structure AxiosResponse where
  status : Nat
  data : Value

/-- The request resolved, or it was rejected: `validateStatus` lets every status resolve. -/
abbrev Reply := Except Caught AxiosResponse

/-! ## `fetchToken` -/

/-- The value of a JavaScript condition on a string that may be absent: absent and empty are false. -/
def present (s : Option Str) : Option Str := s.filter fun s => !s.isEmpty

/-- `url.replace(/\\/+$/, '')`. -/
def stripTrailingSlashes (url : Str) : Str := url.rdropWhile fun c => c = 47

/-- `fetchToken` up to its `await`. -/
def fetchToken (options : ServiceTokenModuleOptions) : Except ExternalServiceException ExchangeRequest :=
  match present options.identityApiUrl, present options.identityApiKey with
  | some identityApiUrl, some identityApiKey => .ok
      { url := stripTrailingSlashes identityApiUrl ++ str "/api/v1/auth/token"
        method := str "POST"
        headers := [(str "x-api-key", identityApiKey), (str "content-type", str "application/json")]
        timeout := options.timeoutMs }
  | _, _ => .error
      { message := str "No identity credential is configured"
        reason := some (str "Both an identity API URL and an API key are required to obtain a service token.")
        status := none }

/-- Whether a credential is configured at all. -/
def isConfigured (options : ServiceTokenModuleOptions) : Bool :=
  (present options.identityApiUrl).isSome && (present options.identityApiKey).isSome

/-- The fields of a token that are used. -/
structure NarrowedToken where
  accessToken : Str
  expiresInSeconds : ℚ

/-- The property of a body that is an object, of any kind but `null`. -/
def property (body : Value) (name : Str) : Option Value :=
  match body with
  | .object properties => some (((properties.find? fun p => p.1 = name).map Prod.snd).getD .undefined)
  | .array _ => some .undefined
  | _ => none

/-- Narrows the response rather than casting it. -/
def narrowToken (body : Value) : Except ExternalServiceException NarrowedToken :=
  match property body (str "accessToken"), property body (str "expiresInSeconds") with
  | some accessToken, some expiresInSeconds =>
      match accessToken, expiresInSeconds with
      | .string accessToken, .number expiresInSeconds =>
          if accessToken.length = 0 || expiresInSeconds ≤ 0 then
            .error ⟨str "Service token response carried no usable token", none, none⟩
          else .ok ⟨accessToken, expiresInSeconds⟩
      | _, _ => .error ⟨str "Service token response carried no usable token", none, none⟩
  | _, _ => .error ⟨str "Service token response was invalid", none, none⟩

/-- A line logged when identity refuses the credential. -/
structure Refusal where
  message : Str
  status : Nat
deriving DecidableEq

/-- The service: its cache, and its `inFlight` promise with the exchanges it was set to and the calls that
    await them. -/
structure ServiceTokenService where
  cached : Option CachedToken
  flight : Flight Nat Outcome
  log : List Refusal

namespace ServiceTokenService

/-- `fetchToken` from its `await` on, at the time `now`. -/
def fetchTokenAfter (s : ServiceTokenService) (now : ℚ) : Reply → ServiceTokenService × Outcome
  | .error error => (s, .error
      { message := str "Could not reach iveri-identity-api for a service token"
        reason := some (error.messageOr (str "unknown"))
        status := none })
  | .ok response =>
      if response.status < 200 || response.status ≥ 300 then
        ({ s with log := ⟨str "iveri-identity-api refused the service credential", response.status⟩ :: s.log },
          .error ⟨str "iveri-identity-api refused the service credential", none, some response.status⟩)
      else
        match narrowToken response.data with
        | .error exception => (s, .error exception)
        | .ok token =>
            ({ s with cached := some ⟨token.accessToken, now + token.expiresInSeconds * 1000⟩ },
              .ok token.accessToken)

/-! ## `getAccessToken` and `invalidate` -/

/-- The token a call is answered with from the cache. -/
def cacheHit (options : ServiceTokenModuleOptions) (s : ServiceTokenService) (now : ℚ) : Option Str :=
  match s.cached with
  | some cached =>
      if cached.expiresAt - options.refreshSkewSeconds * 1000 > now then some cached.accessToken else none
  | none => none

/-- What a new exchange has come to before its first `await`: an unconfigured one has ended. -/
def immediate (options : ServiceTokenModuleOptions) : Option Outcome :=
  match fetchToken options with
  | .ok _ => none
  | .error exception => some (.error exception)

/-- `isConfigured` foretells whether an exchange sends its request. -/
theorem isConfigured_iff (options : ServiceTokenModuleOptions) :
    isConfigured options = true ↔ immediate options = none := by
  unfold isConfigured immediate fetchToken
  cases present options.identityApiUrl with
  | none => simp
  | some identityApiUrl =>
      cases present options.identityApiKey with
      | none => simp
      | some identityApiKey => simp

/-- `getAccessToken`: the token if the cache has one, and otherwise the call joins `inFlight`, set now if it was
    `null`. -/
def getAccessToken (options : ServiceTokenModuleOptions) (s : ServiceTokenService) (now : ℚ) (call : Nat) :
    ServiceTokenService × Option Str :=
  match s.cacheHit options now with
  | some accessToken => (s, some accessToken)
  | none => ({ s with flight := s.flight.join call (immediate options) }, none)

/-- Discards the cached token. -/
def invalidate (s : ServiceTokenService) : ServiceTokenService := { s with cached := none }

end ServiceTokenService

/-! ## Interleavings -/

/-- What is remembered of a run, and read by nothing in it: how many `invalidate` calls have returned, and how
    many had when each exchange began and each call was made; which exchange wrote the cache last, and which
    had written it when a call was answered from it. -/
structure Trace where
  invalidations : Nat
  sent : Nat → Nat
  started : Nat → Nat
  cachedBy : Nat
  hitBy : Nat → Nat

/-- One service, the calls it answered from its cache, and the clock. -/
structure Calls where
  service : ServiceTokenService
  hit : Nat → Option Str
  now : ℚ
  trace : Trace

namespace Calls

/-- A service no call was made on. -/
def init (now : ℚ) : Calls :=
  ⟨⟨none, .init, []⟩, fun _ => none, now, ⟨0, fun _ => 0, fun _ => 0, 0, fun _ => 0⟩⟩

/-- The id was not used by an earlier call. -/
def Free (c : Calls) (call : Nat) : Prop := c.service.flight.waiter call = none ∧ c.hit call = none

/-- The call `call` of `getAccessToken` is made. -/
def getAccessToken (options : ServiceTokenModuleOptions) (c : Calls) (call : Nat) : Calls :=
  match c.service.getAccessToken options c.now call with
  | (service, some accessToken) =>
      { c with
        service := service
        hit := Function.update c.hit call (some accessToken)
        trace := { c.trace with
          started := Function.update c.trace.started call c.trace.invalidations
          hitBy := Function.update c.trace.hitBy call c.trace.cachedBy } }
  | (service, none) =>
      { c with
        service := service
        trace := { c.trace with
          started := Function.update c.trace.started call c.trace.invalidations
          sent := match c.service.flight.inFlight with
            | some _ => c.trace.sent
            | none => Function.update c.trace.sent c.service.flight.begun c.trace.invalidations } }

def invalidate (c : Calls) : Calls :=
  { c with
    service := c.service.invalidate
    trace := { c.trace with invalidations := c.trace.invalidations + 1 } }

/-- The request of the exchange `n` ends, and with it `fetchToken`. -/
def reply (c : Calls) (n : Nat) (r : Reply) : Calls :=
  { c with
    service := { (c.service.fetchTokenAfter c.now r).1 with
      flight := c.service.flight.settle n (c.service.fetchTokenAfter c.now r).2 }
    trace := { c.trace with
      cachedBy := if (c.service.fetchTokenAfter c.now r).2.isOk then n else c.trace.cachedBy } }

/-- The `finally` handler of the exchange `n` runs. -/
def handle (c : Calls) (n : Nat) (outcome : Outcome) : Calls :=
  { c with service := { c.service with flight := c.service.flight.clear n outcome } }

/-- A call that awaited the exchange `n` is answered. -/
def answer (c : Calls) (call n : Nat) (outcome : Outcome) : Calls :=
  { c with service := { c.service with flight := c.service.flight.deliver call n outcome } }

def tick (c : Calls) (ms : ℚ≥0) : Calls := { c with now := c.now + ms }

end Calls

/-- A call made now finds no token in the cache. -/
def Calls.Misses (options : ServiceTokenModuleOptions) (c : Calls) : Prop :=
  c.service.cacheHit options c.now = none

section GetAccessToken

variable {options : ServiceTokenModuleOptions} {c : Calls} {call : Nat}

/-- What a call does that the cache answers. -/
theorem getAccessToken_of_hit {accessToken : Str}
    (hhit : c.service.cacheHit options c.now = some accessToken) :
    c.getAccessToken options call
      = { c with
          hit := Function.update c.hit call (some accessToken)
          trace := { c.trace with
            started := Function.update c.trace.started call c.trace.invalidations
            hitBy := Function.update c.trace.hitBy call c.trace.cachedBy } } := by
  have hservice : c.service.getAccessToken options c.now call = (c.service, some accessToken) := by
    rw [ServiceTokenService.getAccessToken, hhit]
  rw [Calls.getAccessToken, hservice]

/-- What a call does that misses the cache. -/
theorem getAccessToken_of_miss (hmiss : c.Misses options) :
    c.getAccessToken options call
      = { c with
          service := { c.service with
            flight := c.service.flight.join call (ServiceTokenService.immediate options) }
          trace := { c.trace with
            started := Function.update c.trace.started call c.trace.invalidations
            sent := match c.service.flight.inFlight with
              | some _ => c.trace.sent
              | none => Function.update c.trace.sent c.service.flight.begun c.trace.invalidations } } := by
  have hservice : c.service.getAccessToken options c.now call
      = ({ c.service with flight := c.service.flight.join call (ServiceTokenService.immediate options) },
        none) := by
    rw [ServiceTokenService.getAccessToken, hmiss]
  rw [Calls.getAccessToken, hservice]

end GetAccessToken

/-- One step of any interleaving. `Invalidates` says when `invalidate` may be called. -/
inductive Step (options : ServiceTokenModuleOptions) (Invalidates : ServiceTokenService → Prop) :
    Calls → Calls → Prop
  | getAccessToken {c : Calls} (call : Nat) (hfree : c.Free call) :
      Step options Invalidates c (c.getAccessToken options call)
  | invalidate {c : Calls} (hinvalidates : Invalidates c.service) :
      Step options Invalidates c c.invalidate
  | reply {c : Calls} {n : Nat} (hpending : c.service.flight.phase n = .pending) (r : Reply) :
      Step options Invalidates c (c.reply n r)
  | handle {c : Calls} {n : Nat} {outcome : Outcome}
      (hsettled : c.service.flight.phase n = .settled outcome) :
      Step options Invalidates c (c.handle n outcome)
  | answer {c : Calls} {call n : Nat} {outcome : Outcome}
      (hawaiting : c.service.flight.waiter call = some (.awaiting n))
      (hcleared : c.service.flight.phase n = .cleared outcome) :
      Step options Invalidates c (c.answer call n outcome)
  | tick {c : Calls} (ms : ℚ≥0) : Step options Invalidates c (c.tick ms)

abbrev Run (options : ServiceTokenModuleOptions) (Invalidates : ServiceTokenService → Prop) :
    Calls → Calls → Prop := Relation.ReflTransGen (Step options Invalidates)

/-- `invalidate` may be called at any time. -/
def AnyTime : ServiceTokenService → Prop := fun _ => True

end ServiceToken
end NestSdk
