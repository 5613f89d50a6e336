import NestSdk.Js.Text

/-!
# `Js.Any` — any value, as seen by code that does not trust it

A value of type `unknown`. An object is what reading it gives: getters and proxies may throw, and `none` is a
read that does. Reading changes nothing, and reads the same again.
-/

namespace NestSdk
namespace Js

/-- What `typeof` and `Array.isArray` tell of an object. -/
inductive ObjectKind
  | plain
  | array
  | function
deriving DecidableEq

/-- A value. The primitives that are no strings carry what `String` makes of them.

An object has `isError` for `instanceof Error`, where `none` is a prototype chain that cannot be walked, `has`
and `get` for `in` and property access, the `entries` an array's `every` visits, `text` for what `String`
makes of it, and whether `JSON.stringify` gets through it. -/
inductive Any
  | undefined
  | null
  | boolean (b : Bool)
  | number (text : Str)
  | bigint (text : Str)
  | symbol (text : Str)
  | string (s : Str)
  | object (kind : ObjectKind) (isError : Option Bool) (has : Str → Option Bool) (get : Str → Option Any)
      (entries : List Any) (text : Option Str) (stringifies : Bool)

namespace Any

/-- The value when `typeof` is `string`. -/
def asString : Any → Option Str
  | .string s => some s
  | _ => none

/-- `instanceof Error`. -/
def instanceofError : Any → Option Bool
  | .object _ isError _ _ _ _ _ => isError
  | _ => some false

/-- `typeof source === 'object' && source !== null`. -/
def isObject : Any → Bool
  | .object kind _ _ _ _ _ _ => kind != .function
  | _ => false

/-- `property in source`. -/
def has (property : Str) : Any → Option Bool
  | .object _ _ has _ _ _ _ => has property
  | _ => none

/-- `source[property]`. Of a primitive the code reads nothing. -/
def get (property : Str) : Any → Option Any
  | .object _ _ _ get _ _ _ => get property
  | .undefined | .null => none
  | _ => some .undefined

/-- `String(value)`. -/
def toText : Any → Option Str
  | .undefined => some (str "undefined")
  | .null => some (str "null")
  | .boolean b => some (if b then str "true" else str "false")
  | .number text | .bigint text | .symbol text => some text
  | .string s => some s
  | .object _ _ _ _ _ text _ => text

/-- `JSON.stringify` accepts it as a property. -/
def stringifies : Any → Bool
  | .bigint _ => false
  | .object _ _ _ _ _ _ stringifies => stringifies
  | _ => true

/-- `Array.isArray(value) && value.every((entry) => typeof entry === 'string')`. -/
def isStringArray : Any → Bool
  | .object .array _ _ _ entries _ _ => entries.all fun entry => entry.asString.isSome
  | _ => false

/-- An object literal. It inherits from `Object.prototype`, whose properties are not among those read here. -/
def literal (properties : List (Str × Any)) : Any :=
  .object .plain (some false) (fun property => some (properties.lookup property).isSome)
    (fun property => some ((properties.lookup property).getD .undefined)) [] (some (str "[object Object]")) true

/-- An array of strings. -/
def strings (entries : List Str) : Any :=
  .object .array (some false) (fun _ => some false) (fun _ => some .undefined) (entries.map .string)
    (some []) true

end Any

/-- A string property of an object, if it has one. -/
def readStringProperty (source : Any) (property : Str) : Option (Option Str) :=
  if !source.isObject then some none
  else do
    let isThere ← source.has property
    if !isThere then return none
    let value ← source.get property
    return value.asString

end Js
end NestSdk
