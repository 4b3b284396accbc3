import SubscriptionSaas.Lib.JsValue

/-!
# The canonical JSON of asset accounting

The texts of the snapshots of business exceptions, after `canonicalAssetAccountingJson`. What has been
canonicalised has no holes, but a number of it may be a negative zero.
-/

namespace SubscriptionSaas.AssetAccounting

abbrev CanonicalValue := Json

def entryPath (path : Text) (index : Nat) : Text :=
  path ++ Text.ofString "[" ++ Text.ofNat index ++ Text.ofString "]"

def memberPath (path key : Text) : Text := path ++ Text.ofString "." ++ key

/-- The text of a `TypeError`. -/
def canonicalError (subject : String) (path : Text) (complaint : String) : Text :=
  Text.ofString "canonical asset-accounting " ++ Text.ofString subject ++
    Text.ofString " at " ++ path ++ Text.ofString " " ++ Text.ofString complaint

def assertNoAccessorProperties (accessor : Bool) (path : Text) : Except Text Unit :=
  if accessor then throw (canonicalError "value" path "contains an accessor") else pure ()

mutual

/-- `none` is `OMITTED`. -/
def canonicalizeValue : JsValue → Text → Except Text (Option CanonicalValue)
  | .leaf .undefined, _ => return none
  | .leaf .null, _ => return some .null
  | .leaf (.string text), _ => return some (.string text)
  | .leaf (.boolean b), _ => return some (.boolean b)
  | .leaf (.bigint n), _ => return some (.string (Text.ofInt n))
  | .leaf (.number (.finite x)), _ => return some (.number x)
  | .leaf (.number _), path => throw (canonicalError "value" path "must be finite")
  | .leaf (.date time accessor), path => do
    assertNoAccessorProperties accessor path
    match time with
    | none => throw (canonicalError "date" path "is invalid")
    | some time => return some (.string (toISOString time))
  | .leaf .other, path => throw (canonicalError "value" path "has an unsupported type")
  | .ancestor, path => throw (canonicalError "value" path "contains a cycle")
  | .array accessor entries, path => do
    assertNoAccessorProperties accessor path
    return some (.array (← canonicalizeEntries entries path 0))
  | .object plain accessor members, path => do
    if !plain then throw (canonicalError "value" path "must be a plain object")
    assertNoAccessorProperties accessor path
    return some (.object (← gather (sortKeys (canonicalizeMembers members path))))

/-- `Array.from` with the length of the array, from an index on: a hole has no descriptor and is
undefined. -/
def canonicalizeEntries : List (Option JsValue) → Text → Nat → Except Text (List CanonicalValue)
  | [], _, _ => return []
  | none :: entries, path, index => return .null :: (← canonicalizeEntries entries path (index + 1))
  | some entry :: entries, path, index => do
    let canonical ← canonicalizeValue entry (entryPath path index)
    return canonical.getD .null :: (← canonicalizeEntries entries path (index + 1))

def canonicalizeMembers :
    List (Text × JsValue) → Text → List (Text × Except Text (Option CanonicalValue))
  | [], _ => []
  | (key, v) :: members, path =>
    (key, canonicalizeValue v (memberPath path key)) :: canonicalizeMembers members path

end

mutual

def serializeCanonicalValue : CanonicalValue → Text
  | .null => Text.ofString "null"
  | .string text => text.quote
  | .boolean b => Text.ofString (if b then "true" else "false")
  | .number x => if x.isNegativeZero then Text.ofString "0" else x.text
  | .array values =>
    Text.ofString "[" ++ Text.join (serializeValues values) ++ Text.ofString "]"
  | .object members =>
    Text.ofString "\x7b" ++
      Text.join ((sortKeys (serializeMembers members)).map fun m =>
        m.1.quote ++ Text.ofString ":" ++ m.2) ++
      Text.ofString "\x7d"

def serializeValues : List CanonicalValue → List Text
  | [] => []
  | v :: values => serializeCanonicalValue v :: serializeValues values

def serializeMembers : List (Text × CanonicalValue) → List (Text × Text)
  | [] => []
  | (key, v) :: members => (key, serializeCanonicalValue v) :: serializeMembers members

end

def canonicalAssetAccountingJson (value : JsValue) : Except Text Text := do
  if !value.isObject then
    throw (Text.ofString "canonical asset-accounting snapshot root must be a non-null object")
  match ← canonicalizeValue value (Text.ofString "$") with
  | some (.object members) => return serializeCanonicalValue (.object members)
  | _ => throw (Text.ofString "canonical asset-accounting snapshot root must be an object")

end SubscriptionSaas.AssetAccounting
