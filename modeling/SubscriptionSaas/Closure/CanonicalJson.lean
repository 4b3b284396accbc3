import SubscriptionSaas.Lib.JsValue

/-!
# The canonical JSON of a closure

The texts by which the snapshots of a subscription closure are compared and from which their hashes
are taken, after `canonicalSubscriptionClosureJson`. What has been canonicalised may still have holes,
because `value.map` leaves them where they are.
-/

namespace SubscriptionSaas.Closure

inductive MutableJsonValue
  | null
  | boolean (b : Bool)
  | number (x : Numeral)
  | string (text : Text)
  | array (entries : List (Option MutableJsonValue))
  | object (members : List (Text × MutableJsonValue))

def entryPath (path : Text) (index : Nat) : Text :=
  path ++ Text.ofString "[" ++ Text.ofNat index ++ Text.ofString "]"

def memberPath (path key : Text) : Text := path ++ Text.ofString "." ++ key

/-- The text of a `TypeError`. -/
def canonicalError (subject : String) (path : Text) (complaint : String) : Text :=
  Text.ofString "canonical subscription-closure " ++ Text.ofString subject ++
    Text.ofString " at " ++ path ++ Text.ofString " " ++ Text.ofString complaint

def assertNoAccessors (accessor : Bool) (path : Text) : Except Text Unit :=
  if accessor then throw (canonicalError "value" path "contains an accessor") else pure ()

mutual

/-- `none` is `OMITTED`. -/
def canonicalize : JsValue → Text → Except Text (Option MutableJsonValue)
  | .leaf .undefined, _ => return none
  | .leaf .null, _ => return some .null
  | .leaf (.string text), _ => return some (.string text)
  | .leaf (.boolean b), _ => return some (.boolean b)
  | .leaf (.bigint n), _ => return some (.string (Text.ofInt n))
  | .leaf (.number (.finite x)), _ => return some (.number x.unsigned)
  | .leaf (.number _), path => throw (canonicalError "value" path "must be finite")
  | .leaf (.date none _), path => throw (canonicalError "date" path "is invalid")
  | .leaf (.date (some time) _), _ => return some (.string (toISOString time))
  | .leaf .other, path => throw (canonicalError "value" path "is unsupported")
  | .ancestor, path => throw (canonicalError "value" path "contains a cycle")
  | .array accessor entries, path => do
    assertNoAccessors accessor path
    return some (.array (← canonicalizeEntries entries path 0))
  | .object plain accessor members, path => do
    assertNoAccessors accessor path
    if !plain then throw (canonicalError "value" path "must be a plain object")
    return some (.object (← gather (sortKeys (canonicalizeMembers members path))))

/-- `value.map`, from an index on. -/
def canonicalizeEntries :
    List (Option JsValue) → Text → Nat → Except Text (List (Option MutableJsonValue))
  | [], _, _ => return []
  | none :: entries, path, index => return none :: (← canonicalizeEntries entries path (index + 1))
  | some entry :: entries, path, index => do
    let normalized ← canonicalize entry (entryPath path index)
    return some (normalized.getD .null) :: (← canonicalizeEntries entries path (index + 1))

def canonicalizeMembers :
    List (Text × JsValue) → Text → List (Text × Except Text (Option MutableJsonValue))
  | [], _ => []
  | (key, v) :: members, path =>
    (key, canonicalize v (memberPath path key)) :: canonicalizeMembers members path

end

mutual

def encode : MutableJsonValue → Text
  | .null => Text.ofString "null"
  | .string text => text.quote
  | .boolean b => Text.ofString (if b then "true" else "false")
  | .number x => x.text
  | .array entries => Text.ofString "[" ++ Text.join (encodeEntries entries) ++ Text.ofString "]"
  | .object members =>
    Text.ofString "\x7b" ++
      Text.join ((sortKeys (encodeMembers members)).map fun m =>
        m.1.quote ++ Text.ofString ":" ++ m.2) ++
      Text.ofString "\x7d"

/-- `value.map(encode)`, in which `join` gives a hole no text. -/
def encodeEntries : List (Option MutableJsonValue) → List Text
  | [] => []
  | none :: entries => [] :: encodeEntries entries
  | some entry :: entries => encode entry :: encodeEntries entries

def encodeMembers : List (Text × MutableJsonValue) → List (Text × Text)
  | [] => []
  | (key, v) :: members => (key, encode v) :: encodeMembers members

end

def canonicalSubscriptionClosureJson (value : JsValue) : Except Text Text := do
  let notObject := Text.ofString "canonical subscription-closure snapshot root must be an object"
  if !value.isObject then throw notObject
  match ← canonicalize value (Text.ofString "$") with
  | none | some .null | some (.array _) => throw notObject
  | some normalized => return encode normalized

mutual

/-- Every part is frozen and put back where it was. -/
def freezeJson : Json → Json
  | .array values => .array (freezeValues values)
  | .object members => .object (freezeMembers members)
  | v => v

def freezeValues : List Json → List Json
  | [] => []
  | v :: values => freezeJson v :: freezeValues values

def freezeMembers : List (Text × Json) → List (Text × Json)
  | [] => []
  | (key, v) :: members => (key, freezeJson v) :: freezeMembers members

end

def freezeSubscriptionClosureOutcome (value : JsValue) : Except Text Json := do
  match Json.parse (← canonicalSubscriptionClosureJson value) with
  | none => throw (Text.ofString "SyntaxError")
  | some parsed => return freezeJson parsed

end SubscriptionSaas.Closure
