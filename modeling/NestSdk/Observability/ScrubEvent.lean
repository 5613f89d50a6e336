import NestSdk.Js.Value

/-!
# `Observability.ScrubEvent` — what an error report is allowed to carry

`scrubEvent` and the three functions under it. An `ErrorEvent` has a field for every part of an event the function
looks at, and `other` for the properties of each object that it copies or drops unseen. Structured data is a tree
of `Value`s; a record is the list of its properties in their order, so assigning to an empty object under the keys
of another one, one after another, is a `map`.
-/

namespace NestSdk
namespace Observability

open Js

/-- The own properties of an object, in order. None is named `__proto__`: only `JSON.parse` makes such a property, and
    of one nothing would be sent, for assigning under that name sets a prototype instead. -/
abbrev Properties := List (Str × Value)

/-! ## Constants -/

/-- Value substituted for anything scrubbed. -/
def redactedPlaceholder : Value := .string (str "[redacted]")

/-- The only request headers forwarded to the error tracker. -/
def reportableHeaderNames : List Str :=
  [str "accept", str "content-length", str "content-type", str "x-correlation-id", str "user-agent"]

/-- The alternatives of `SENSITIVE_KEY_PATTERN`, `api[-_]?key` spelled out. -/
def sensitiveKeyAlternatives : List Str :=
  [str "pass", str "secret", str "token", str "credential", str "authorization", str "apikey",
    str "api-key", str "api_key", str "signature", str "cookie", str "session", str "private",
    str "encrypt", str "salt", str "hash", str "dsn"]

/-- Simple case folding, as far as it leads to the letters of the pattern: the capitals, the long s and the
    Kelvin sign. -/
def foldCase (u : UInt16) : UInt16 :=
  if 0x41 ≤ u && u ≤ 0x5A then u + 0x20
  else if u = 0x17F then 0x73
  else if u = 0x212A then 0x6B
  else u

/-- `SENSITIVE_KEY_PATTERN.test(key)`: some alternative occurs in the key, case ignored. -/
def isSensitiveKey (key : Str) : Bool :=
  sensitiveKeyAlternatives.any fun alternative => decide (alternative <:+: key.map foldCase)

/-- How deep the scrubber walks a structure. -/
def maxScrubDepth : Nat := 6

/-! ## Structured data -/

mutual

/-- `scrubValue`. -/
def scrubValue (depth : Nat) (value : Value) : Value :=
  if depth > maxScrubDepth then redactedPlaceholder
  else match value with
    | .array entries => .array (scrubEntries (depth + 1) entries)
    | .object properties => .object (scrubRecord depth properties)
    | value => value

/-- The entries of an array, each scrubbed at `depth`. -/
def scrubEntries (depth : Nat) : List Value → List Value
  | [] => []
  | entry :: entries => scrubValue depth entry :: scrubEntries depth entries

/-- `scrubRecord`. -/
def scrubRecord (depth : Nat) : Properties → Properties
  | [] => []
  | (key, value) :: properties =>
      (key, if isSensitiveKey key then redactedPlaceholder else scrubValue (depth + 1) value) ::
        scrubRecord depth properties

end

theorem scrubValue_deep {depth : Nat} (hdeep : maxScrubDepth < depth) (value : Value) :
    scrubValue depth value = redactedPlaceholder := by
  unfold scrubValue
  exact if_pos hdeep

/-! ## Events -/

structure EventRequest where
  method : Option Str
  headers : Option (List (Str × Str))
  other : Properties

structure EventUser where
  id : Value
  other : Properties

structure StackFrame where
  vars : Option Value
  other : Properties

structure Stacktrace where
  frames : Option (List StackFrame)
  other : Properties

structure ExceptionValue where
  stacktrace : Option Stacktrace
  other : Properties

structure EventException where
  values : Option (List ExceptionValue)
  other : Properties

structure Breadcrumb where
  data : Option Properties
  other : Properties

structure ErrorEvent where
  extra : Option Properties
  contexts : Option Properties
  request : Option EventRequest
  user : Option EventUser
  exception : Option EventException
  breadcrumbs : Option (List Breadcrumb)
  other : Properties

variable (toLowerCase : Str → Str)

/-- A header that is forwarded. -/
def isReportable (name : Str) : Bool := toLowerCase name ∈ reportableHeaderNames

def filterHeaders : Option (List (Str × Str)) → List (Str × Str)
  | none => []
  | some headers => headers.filter fun header => isReportable toLowerCase header.1

/-- `({ vars: _vars, ...frame }) => frame`. -/
def withoutVars (frame : StackFrame) : StackFrame := { frame with vars := none }

/-- A stack trace, if it has frames, with their local variables taken out. -/
def scrubException (value : ExceptionValue) : ExceptionValue :=
  match value.stacktrace with
  | some stacktrace =>
      match stacktrace.frames with
      | some frames =>
          { value with stacktrace := some { stacktrace with frames := some (frames.map withoutVars) } }
      | none => value
  | none => value

def scrubBreadcrumb (breadcrumb : Breadcrumb) : Breadcrumb :=
  { breadcrumb with data := breadcrumb.data.map (scrubRecord 0) }

/-- Strips everything from an outbound error report that must not be stored by a third party. -/
def scrubEvent (event : ErrorEvent) : ErrorEvent where
  extra := event.extra.map (scrubRecord 0)
  contexts := event.contexts.map (scrubRecord 0)
  request := event.request.map fun request =>
    { method := request.method
      headers := some (filterHeaders toLowerCase request.headers)
      other := [] }
  user := event.user.map fun user => { id := user.id, other := [] }
  exception := event.exception.map fun exception =>
    { exception with values := exception.values.map fun values => values.map scrubException }
  breadcrumbs := event.breadcrumbs.map fun breadcrumbs => breadcrumbs.map scrubBreadcrumb
  other := event.other

end Observability
end NestSdk
