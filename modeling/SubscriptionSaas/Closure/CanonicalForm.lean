import SubscriptionSaas.Lib.JsValue

/-!
# The canonical form of a value

What canonical JSON says about a value, and which values have it. An object has its members in the
order of their keys, without those that are undefined. Values without parts that JSON does not have are
read as others that it has.
-/

namespace SubscriptionSaas.Closure

/-- An integer without bounds is read as its decimal digits, a date as its text, a negative zero as
zero, and what is undefined as null. -/
def read : Leaf → Leaf
  | .undefined => .null
  | .number (.finite x) => .number (.finite x.unsigned)
  | .bigint n => .string (Text.ofInt n)
  | .date (some time) _ => .string (toISOString time)
  | l => l

def leafForm : Leaf → Option Json
  | .null => some .null
  | .boolean b => some (.boolean b)
  | .number (.finite x) => some (.number x.unsigned)
  | .bigint n => some (.string (Text.ofInt n))
  | .string text => some (.string text)
  | .date (some time) _ => some (.string (toISOString time))
  | _ => none

mutual

/-- What is undefined has no form of its own and stands as null in an array. -/
def canonicalForm : JsValue → Option Json
  | .leaf l => leafForm l
  | .array _ entries => some (.array (formEntries entries))
  | .object _ _ members =>
    some (.object ((sortKeys (formMembers members)).filterMap fun m => m.2.map (m.1, ·)))
  | .ancestor => none

def formEntries : List (Option JsValue) → List Json
  | [] => []
  | none :: entries => .null :: formEntries entries
  | some v :: entries => (canonicalForm v).getD .null :: formEntries entries

def formMembers : List (Text × JsValue) → List (Text × Option Json)
  | [] => []
  | (key, v) :: members => (key, canonicalForm v) :: formMembers members

end

/-- A value as a program can have it. -/
structure Snapshot where
  value : JsValue
  sound : value.Sound

/-- The values that are accepted. -/
inductive Readable : JsValue → Prop
  | undefined : Readable (.leaf .undefined)
  | leaf {l : Leaf} (h : (leafForm l).isSome) : Readable (.leaf l)
  | array {entries : List (Option JsValue)} (h : ∀ v, some v ∈ entries → Readable v) :
      Readable (.array false entries)
  | object {members : List (Text × JsValue)} (h : ∀ m ∈ members, Readable m.2) :
      Readable (.object true false members)

end SubscriptionSaas.Closure
