import NestSdk.Js.Text

/-!
# `Js.Caught` — what a `catch` clause is given

Anything can be thrown. The code looks at it in one way only, `error instanceof Error ? error.message : …`.
-/

namespace NestSdk
namespace Js

/-- A caught value: an `Error` with its message, or anything else. -/
inductive Caught
  | error (message : Str)
  | other
deriving DecidableEq, Repr

/-- `error instanceof Error ? error.message : fallback`. -/
def Caught.messageOr (fallback : Str) : Caught → Str
  | .error message => message
  | .other => fallback

end Js
end NestSdk
