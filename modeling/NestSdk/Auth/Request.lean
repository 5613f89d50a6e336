import NestSdk.Js.Text

/-!
# `Auth.Request` — what the guards read and write

The request with its headers and the property the authentication layer parks the context on, the exceptions
the guards throw, and the metadata of the route under judgement, which Nest's `Reflector` reads off the handler
and its class.
-/

namespace NestSdk
namespace Auth

open Js

namespace HeaderKey

def CORRELATION_ID : Str := str "x-correlation-id"
def AUTHORIZATION : Str := str "authorization"
def ACCEPT_LANGUAGE : Str := str "accept-language"

end HeaderKey

/-- A header as Node gives it. -/
inductive HeaderValue
  | absent
  | one (value : Str)
  | many (values : List Str)

/-- A context built from a verified access token. -/
structure AuthenticatedRequestContext where
  tenantId : Uuid
  userId : Option Uuid
  apiKeyId : Option Uuid
  permissions : List Str
  locale : Str
  correlationId : Str
deriving DecidableEq

structure Request where
  headers : Str → HeaderValue
  /-- `request[REQUEST_CONTEXT_PROPERTY]` -/
  iveriRequestContext : Option AuthenticatedRequestContext

/-- What the guards and the token service throw. -/
inductive AuthException
  | unauthenticated (message : Str)
  | tokenExpired (message : Str)
  | insufficientPermission (message : Str) (required missing : List Str)
deriving DecidableEq

/-! ## Route metadata -/

/-- What the decorators left on one target, a handler or a class. -/
structure Metadata where
  isPublic : Option Bool
  requiredPermissions : Option (List Str)

/-- `Reflector.getAllAndOverride`: the first target that has the metadata decides. -/
def getAllAndOverride {α : Type} (key : Metadata → Option α) (targets : List Metadata) : Option α :=
  targets.findSome? key

/-- Nest's `ExecutionContext`, the request apart. -/
structure ExecutionContext where
  type : Str
  handler : Metadata
  class_ : Metadata

/-- The handler's metadata if it has any, else its class's. -/
theorem getAllAndOverride_pair {α : Type} (key : Metadata → Option α) (handler class_ : Metadata) :
    getAllAndOverride key [handler, class_] = (key handler).or (key class_) := by
  unfold getAllAndOverride
  simp only [List.findSome?_cons, List.findSome?_nil]
  cases key handler with
  | some value => rfl
  | none => cases key class_ <;> rfl

end Auth
end NestSdk
