import NestSdk.Js.Text

/-!
# `Js.Value` — values of unknown shape

What `JSON.parse` can produce, and `undefined` for a property that is not there. A record is read by property
name.
-/

namespace NestSdk
namespace Js

inductive Value
  | undefined
  | null
  | boolean (b : Bool)
  | number (n : ℚ)
  | string (s : Str)
  | array (elements : List Value)
  | object (properties : List (Str × Value))

/-- `Record<string, unknown>`. -/
abbrev Record := Str → Value

/-- The value when `typeof` is `string`. -/
def Value.asString : Value → Option Str
  | .string s => some s
  | _ => none

/-- The value when `typeof` is `number`. -/
def Value.asNumber : Value → Option ℚ
  | .number n => some n
  | _ => none

/-- The strings among the elements of an array; none if it is no array. -/
def Value.strings : Value → List Str
  | .array elements => elements.filterMap Value.asString
  | _ => []

end Js
end NestSdk
