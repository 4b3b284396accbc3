import SubscriptionSaas.Lib.JsValue
import SubscriptionSaas.Lib.Results

/-!
# Values and errors of the snapshot code

The values that the source, the workspace and the database give back, and those that are thrown.
-/

namespace SubscriptionSaas.Snapshot

open Results

/-- `other` is a function, a promise or another value of which the code reads no member. -/
inductive Value
  | undefined
  | null
  | boolean (b : Bool)
  | number (x : JsNumber)
  | string (text : String)
  | date (time : Option Int)
  /-- A `Buffer`, or another `Uint8Array`. -/
  | bytes (buffer : Bool) (content : List UInt8)
  | array (entries : List Value)
  | object (members : List (String × Value))
  | other

namespace Value

def isNullish : Value → Bool
  | undefined | null => true
  | _ => false

/-- `value?.[key]`. -/
def get (key : String) : Value → Value
  | object members => (members.lookup key).getD undefined
  | _ => undefined

def text? : Value → Option String
  | string text => some text
  | _ => none

def isText (text : String) (value : Value) : Bool := value.text? == some text

def isFalse : Value → Bool
  | boolean b => !b
  | _ => false

def isTrue : Value → Bool
  | boolean b => b
  | _ => false

def isEmptyArray : Value → Bool
  | array entries => entries.isEmpty
  | _ => false

/-- The time of a valid date. -/
def time? : Value → Option Int
  | date time => time
  | _ => none

/-- The bytes of a `Buffer`. -/
def buffer? : Value → Option (List UInt8)
  | bytes true content => some content
  | _ => none

def bytes? : Value → Option (List UInt8)
  | bytes _ content => some content
  | _ => none

def int (n : Int) : Value :=
  let ds := (Nat.toDigits 10 n.natAbs).map fun c => Numeral.lastDigit (c.toNat - 48)
  number (.finite (Numeral.ofDigits (n < 0) ds ds.length))

def texts (values : List String) : Value := array (values.map string)

/-- `Number.isInteger(value) && value >= 0`. -/
def isCount : Value → Bool
  | number (.finite x) => x.digits.length ≤ x.point && (x.digits.isEmpty || !x.negative)
  | _ => false

/-- `value === 0`. -/
def isZero : Value → Bool
  | number (.finite x) => x.digits.isEmpty
  | _ => false

mutual

/-- What `assertIJson` lets pass. -/
def isIJson : Value → Bool
  | null | boolean _ | string _ => true
  | number (.finite _) => true
  | array entries => areIJson entries
  | object members => membersAreIJson members
  | _ => false

def areIJson : List Value → Bool
  | [] => true
  | v :: vs => isIJson v && areIJson vs

def membersAreIJson : List (String × Value) → Bool
  | [] => true
  | (_, v) :: members => isIJson v && membersAreIJson members

end

end Value

/-! ## Errors -/

/-- An error with its code, as `Object.assign` gives it to it. -/
def codeError (code : String) (details : Value := .undefined) : Value :=
  .object [("message", .string code), ("code", .string code), ("details", details)]

def snapshotError (code : String) (details : Value := .undefined) : Value := codeError code details

/-- What the engine throws, of which the text is its own. -/
def typeError : Value := .object [("message", .string "TypeError")]

def rangeError : Value := .object [("message", .string "RangeError")]

/-- `error?.code`. -/
def codeOf (error : Value) : Value := error.get "code"

def hasCode (code : String) (error : Value) : Bool := (codeOf error).isText code

/-- The values of `[...value]`. -/
def spread : Value → Except Value (List Value)
  | .array entries => .ok entries
  | .string text => .ok (text.toList.map fun c => .string c.toString)
  | .bytes _ content => .ok (content.map fun b => .int b.toNat)
  | _ => .error typeError

/-! ## What the code is given -/

/-- The packages and the parts of the platform that the code calls. -/
structure Platform where
  canonicalize : Value → List UInt8
  /-- `sha256:` with the digest in hexadecimal digits. -/
  sha256Bytes : List UInt8 → String
  /-- The first 24 hexadecimal digits of the HMAC with SHA-256, given the key. -/
  hmac : List UInt8 → String → String
  /-- What a value has against the schema of this name; `none` when it satisfies it. -/
  schemaErrors : String → Value → Option Value
  /-- `String(value)`. -/
  toText : Value → String
  localeCompare : String → String → Ordering
  /-- `Date.parse`; `none` is not a number. -/
  dateParse : String → Option Int
  /-- What `Buffer.from` copies; `none` when it throws. -/
  bufferFrom : Value → Option (List UInt8)
  /-- `TextDecoder` with the fatal flag. -/
  decode : List UInt8 → Option (List Char)

variable (P : Platform)

def canonicalJson (value : Value) : Except Value (List UInt8) := do
  require value.isIJson (codeError "CANONICAL_JSON_REFUSED")
  .ok (P.canonicalize value)

def sha256Canonical (value : Value) : Except Value String := do
  let bytes ← canonicalJson P value
  .ok (P.sha256Bytes bytes)

/-- What is not refused is the same value after it has been written and read again. -/
def immutable (value : Value) : Except Value Value := do
  let _ ← canonicalJson P value
  .ok value

def validateContract (schemaId : String) (value : Value) : Except Value Unit :=
  match P.schemaErrors schemaId value with
  | none => .ok ()
  | some errors =>
    .error (codeError "CONTRACT_SCHEMA_INVALID"
      (.object [("schemaId", .string schemaId), ("errors", errors)]))

/-- `toISOString`, of a time that dates have. -/
def isoString (time : Int) : Except Value String := do
  require (decide (time.natAbs ≤ 8640000000000000)) rangeError
  .ok (String.ofList ((toISOString time).map Char.ofNat))

end SubscriptionSaas.Snapshot
