/-
  TokenTimer.Json.Canonical — `packages/contracts/certops/canonical-json.cjs`,
  the byte contract of signed jobs, shared by the control plane's signer and the
  agent's verifier.

  `JsValue` is what the serializer can be handed: JSON values, and the values it
  refuses.  An object carries its PROTOTYPE, because `canonicalizeJobPayload`
  copies the payload by ordinary assignment: assigning to `__proto__` calls the
  setter of `Object.prototype` instead of creating a member.

  `ParsedObject` is an object as `JSON.parse` returns it: its members have
  distinct keys at every level, its numbers are finite, and a member named
  `__proto__` is an ordinary own member.
-/

import Mathlib.Data.List.Lex
import Mathlib.Data.List.Sort
import Mathlib.Order.Fin.Basic
import TokenTimer.Json.Text

namespace TokenTimer.Json

open Lib.Delimited Lib.Numeric

/-! ## §1. Values. -/

/-- A number of JavaScript. -/
inductive JsNumber
  | finite (x : Binary64)
  | nan
  | infinity (neg : Bool)
deriving DecidableEq

/-- What `Object.getPrototypeOf` answers, as far as `isPlainObject` looks. -/
inductive Proto
  | objectPrototype | null | other
deriving DecidableEq, Repr

/-- A JavaScript value.  `other` is a value of another `typeof`: a function, a
    symbol or a bigint. -/
inductive JsValue
  | undefined
  | null
  | bool (b : Bool)
  | number (x : JsNumber)
  | string (s : JsString)
  | array (items : List JsValue)
  | object (proto : Proto) (members : List (JsString × JsValue))
  | other (typeName : String)

/-- `isPlainObject`'s two prototypes. -/
def Proto.isPlain : Proto → Bool
  | .objectPrototype => true
  | .null => true
  | .other => false

/-- The keys of an object, sorted by code unit: `Object.keys(value).sort()`. -/
def sortedKeys (members : List (JsString × JsValue)) : List JsString :=
  (members.map (·.1)).insertionSort (· ≤ ·)

/-! ## §2. Errors. -/

/-- The refusals of the serializer, with the path they name. -/
inductive CanonError
  | undefinedValue (path : JsString)
  | nonFinite (path : JsString)
  | unsupported (typeName : String) (path : JsString)
  | notPlainObject
deriving DecidableEq, Repr

/-- The text of the `Error` thrown. -/
def CanonError.message : CanonError → JsString
  | .undefinedValue path =>
    js "signing: canonicalizeJobPayload found an undefined value at " ++ path ++
      js "; undefined is not representable in JSON and would silently diverge " ++
      js "between implementations, so it is rejected"
  | .nonFinite path =>
    js "signing: canonicalizeJobPayload found a non-finite number at " ++ path
  | .unsupported typeName path =>
    js "signing: canonicalizeJobPayload cannot serialize value of type " ++
      js typeName ++ js " at " ++ path ++ js " (only plain objects, arrays, strings, " ++
      js "finite numbers, booleans, and null are allowed)"
  | .notPlainObject =>
    js "signing: canonicalizeJobPayload requires a plain object job payload"

/-- An array index in a path. -/
def indexUnits (i : Nat) : JsString :=
  if i = 0 then js "0" else (decimalDigits i).map symUnit

/-! ## §3. The serializer. -/

/-- `[a,b,…]`. -/
def arrayText (items : List JsString) : JsString :=
  unit '[' :: joinWith (unit ',') items ++ [unit ']']

/-- `"key":value`. -/
def memberText (key text : JsString) : JsString := quoteJSONString key ++ unit ':' :: text

def objectText (entries : List JsString) : JsString :=
  unit '{' :: joinWith (unit ',') entries ++ [unit '}']

/-- The entry of one key: `value[key]` is the own member of that key. -/
def entryText (texts : List (JsString × Except CanonError JsString)) (path key : JsString) :
    Except CanonError JsString :=
  match texts.lookup key with
  | some result => result.map (memberText key)
  | none => .error (.undefinedValue (path ++ unit '.' :: key))

mutual

def serializeCanonical : JsValue → JsString → Except CanonError JsString
  | .undefined, path => .error (.undefinedValue path)
  | .null, _ => .ok (js "null")
  | .bool b, _ => .ok (if b then js "true" else js "false")
  | .number (.finite x), _ => .ok (numberUnits x)
  | .number .nan, path => .error (.nonFinite path)
  | .number (.infinity _), path => .error (.nonFinite path)
  | .string s, _ => .ok (quoteJSONString s)
  | .array items, path => (serializeItems items path 0).map arrayText
  | .object proto members, path =>
    if proto.isPlain then
      ((sortedKeys members).mapM (entryText (serializeMembers members path) path)).map objectText
    else .error (.unsupported "object" path)
  | .other typeName, path => .error (.unsupported typeName path)

/-- `value.map((item, index) => serializeCanonical(item, …))`. -/
def serializeItems : List JsValue → JsString → Nat → Except CanonError (List JsString)
  | [], _, _ => .ok []
  | v :: vs, path, i => do
    let t ← serializeCanonical v (path ++ unit '[' :: indexUnits i ++ [unit ']'])
    let ts ← serializeItems vs path (i + 1)
    .ok (t :: ts)

/-- What each member serializes to, by key; the caller picks them up in the
    sorted order, so the FIRST refusal in that order is the one thrown. -/
def serializeMembers : List (JsString × JsValue) → JsString →
    List (JsString × Except CanonError JsString)
  | [], _ => []
  | (key, v) :: ms, path =>
    (key, serializeCanonical v (path ++ unit '.' :: key)) :: serializeMembers ms path

end

/-! ## §4. `canonicalizeJobPayload`. -/

/-- A value that can be a prototype: an object, an array or a function. -/
def JsValue.isObjectLike : JsValue → Bool
  | .array _ => true
  | .object _ _ => true
  | .other typeName => typeName = "function"
  | _ => false

def signatureKey : JsString := js "signature"

/-- The key whose assignment calls the setter of `Object.prototype`. -/
def protoKey : JsString := js "__proto__"

/-- The copy `withoutSignature` while it is being filled. -/
structure Target where
  proto : Proto
  members : List (JsString × JsValue)

/-- `withoutSignature[key] = value` for a key that is not there yet.  The setter
    of `__proto__` is inherited unless the prototype is `null`; it takes an
    object or `null` as the new prototype and IGNORES any other value. -/
def Target.assign (t : Target) (key : JsString) (value : JsValue) : Target :=
  if key = protoKey ∧ t.proto ≠ .null then
    match value with
    | .null => { t with proto := .null }
    | v => if v.isObjectLike then { t with proto := .other } else t
  else { t with members := t.members ++ [(key, value)] }

/-- The loop over `Object.keys(job)`. -/
def copyWithoutSignature (members : List (JsString × JsValue)) : Target :=
  members.foldl
    (fun t m => if m.1 = signatureKey then t else t.assign m.1 m.2)
    { proto := .objectPrototype, members := [] }

def canonicalizeJobPayload : JsValue → Except CanonError JsString
  | .object proto members =>
    if proto.isPlain then
      let copy := copyWithoutSignature members
      serializeCanonical (.object copy.proto copy.members) (js "$")
    else .error .notPlainObject
  | _ => .error .notPlainObject

/-! ## §5. What `JSON.parse` returns, and equality of JSON values. -/

mutual

/-- A value of `JSON.parse` with finite numbers. -/
def isJson : JsValue → Bool
  | .null => true
  | .bool _ => true
  | .number (.finite _) => true
  | .string _ => true
  | .array items => isJsonItems items
  | .object proto members =>
    decide (proto = .objectPrototype) && decide ((members.map (·.1)).Nodup) && isJsonMembers members
  | _ => false

def isJsonItems : List JsValue → Bool
  | [] => true
  | v :: vs => isJson v && isJsonItems vs

def isJsonMembers : List (JsString × JsValue) → Bool
  | [] => true
  | (_, v) :: ms => isJson v && isJsonMembers ms

end

/-- An object as `JSON.parse` returns it. -/
structure ParsedObject where
  members : List (JsString × JsValue)
  keys_nodup : (members.map (·.1)).Nodup
  values_json : isJsonMembers members = true

def ParsedObject.value (o : ParsedObject) : JsValue := .object .objectPrototype o.members

mutual

/-- Equality of JSON values: arrays element by element, objects as FINITE MAPS
    (whatever the order of the members), numbers with `0` and `-0` identified. -/
def same : JsValue → JsValue → Bool
  | .null, .null => true
  | .bool a, .bool b => a == b
  | .number (.finite x), .number (.finite y) => decide (x.SameNumber y)
  | .string s, .string t => s == t
  | .array xs, .array ys => sameItems xs ys
  | .object _ ms, .object _ ns => ms.length == ns.length && sameMembers ms ns
  | _, _ => false

def sameItems : List JsValue → List JsValue → Bool
  | [], [] => true
  | x :: xs, y :: ys => same x y && sameItems xs ys
  | _, _ => false

/-- Every member of the first list has a member of the same key and the same
    value in the second. -/
def sameMembers : List (JsString × JsValue) → List (JsString × JsValue) → Bool
  | [], _ => true
  | (k, v) :: ms, ns =>
    (match ns.lookup k with
      | some w => same v w
      | none => false) && sameMembers ms ns

end

def dropKeys (keys : List JsString) (members : List (JsString × JsValue)) :
    List (JsString × JsValue) :=
  members.filter fun m => m.1 ∉ keys

end TokenTimer.Json
