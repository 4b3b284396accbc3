import Mathlib.Data.List.Sort
import SubscriptionSaas.Lib.Calendar
import SubscriptionSaas.Lib.Json

/-!
# Values of ECMAScript

A value as a function that walks it can see it. An object or array is written out where it is found;
where it is found again inside of itself there stands `ancestor`. What is equal in two values is their
`content`, in which the members of an object have no order and one that is undefined is absent.
-/

inductive JsNumber
  | finite (x : Numeral)
  | infinite (negative : Bool)
  | nan
deriving DecidableEq

/-- A value without parts. `other` is a function or a symbol. A date is invalid when it has no time,
and it may have an accessor among the properties of its own. -/
inductive Leaf
  | undefined
  | null
  | boolean (b : Bool)
  | number (x : JsNumber)
  | bigint (n : Int)
  | string (text : Text)
  | date (time : Option Int) (accessor : Bool)
  | other
deriving DecidableEq

/-- An entry of an array that is `none` is a hole. The members of an object are its enumerable
properties that have a string for a key; it is plain when its prototype is that of `{}` or none. An
accessor is a property of the object or array itself that has a getter or a setter. -/
inductive JsValue
  | leaf (l : Leaf)
  | array (accessor : Bool) (entries : List (Option JsValue))
  | object (plain accessor : Bool) (members : List (Text × JsValue))
  | ancestor

/-- The keys of `Object.keys(value).sort()`, with what belongs to each. -/
def sortKeys {α : Type} (members : List (Text × α)) : List (Text × α) :=
  members.insertionSort (·.1 ≤ ·.1)

/-- A loop over the keys of an object that stops at the first member that is rejected and leaves out
the members that are omitted. -/
def gather {α : Type} : List (Text × Except Text (Option α)) → Except Text (List (Text × α))
  | [] => .ok []
  | (key, member) :: members => do
    match ← member with
    | none => gather members
    | some normalized => return (key, normalized) :: (← gather members)

/-- `padStart(width, "0")`. -/
def padStart (width : Nat) (text : Text) : Text := List.replicate (width - text.length) 48 ++ text

/-- `Date.prototype.toISOString`. -/
def toISOString (time : Int) : Text :=
  let day := Calendar.dayOf time
  let year := Calendar.getUTCFullYear day
  let rest := (time % 86400000).toNat
  let field (width n : Nat) : Text := padStart width (Text.ofNat n)
  (if 0 ≤ year ∧ year ≤ 9999 then field 4 year.natAbs
    else Text.ofString (if year < 0 then "-" else "+") ++ field 6 year.natAbs) ++
    Text.ofString "-" ++ field 2 (Calendar.getUTCMonth day + 1).toNat ++
    Text.ofString "-" ++ field 2 (Calendar.getUTCDate day).toNat ++
    Text.ofString "T" ++ field 2 (rest / 3600000) ++
    Text.ofString ":" ++ field 2 (rest / 60000 % 60) ++
    Text.ofString ":" ++ field 2 (rest / 1000 % 60) ++
    Text.ofString "." ++ field 3 (rest % 1000) ++ Text.ofString "Z"

/-- `typeof value === "object"` and neither null nor an array. -/
def JsValue.isObject : JsValue → Bool
  | leaf (.date _ _) | object _ _ _ | ancestor => true
  | _ => false

/-- `value instanceof Date`. -/
def JsValue.isDate : JsValue → Bool
  | leaf (.date _ _) => true
  | _ => false

example : toISOString 1787277784005 = Text.ofString "2026-08-21T02:03:04.005Z" := by decide +kernel

namespace JsValue

@[induction_eliminator]
theorem induct {motive : JsValue → Prop} (leaf : ∀ l, motive (leaf l))
    (array : ∀ accessor entries, (∀ v, some v ∈ entries → motive v) → motive (array accessor entries))
    (object : ∀ plain accessor members, (∀ m ∈ members, motive m.2) →
      motive (object plain accessor members))
    (ancestor : motive ancestor) (v : JsValue) : motive v :=
  @JsValue.rec motive (fun entries => ∀ v, some v ∈ entries → motive v)
    (fun members => ∀ m ∈ members, motive m.2) (fun entry => ∀ v, entry = some v → motive v)
    (fun m => motive m.2) leaf array object ancestor
    (fun _ h => absurd h List.not_mem_nil)
    (fun _ _ he hes v hv => (List.mem_cons.mp hv).elim (fun h => he v h.symm) (hes v))
    (fun _ h => absurd h List.not_mem_nil)
    (fun _ _ hm hms => List.forall_mem_cons.mpr ⟨hm, hms⟩)
    (fun _ h => nomatch h)
    (fun _ hv _ h => Option.some.inj h ▸ hv)
    (fun _ _ h => h) v

/-- No object has a key twice, as is true of every object. -/
inductive Sound : JsValue → Prop
  | leaf (l : Leaf) : Sound (leaf l)
  | array {accessor : Bool} {entries : List (Option JsValue)} (h : ∀ v, some v ∈ entries → Sound v) :
      Sound (array accessor entries)
  | object {plain accessor : Bool} {members : List (Text × JsValue)}
      (hkeys : (members.map Prod.fst).Nodup) (h : ∀ m ∈ members, Sound m.2) :
      Sound (object plain accessor members)
  | ancestor : Sound ancestor

/-- No array has a hole. -/
inductive Dense : JsValue → Prop
  | leaf (l : Leaf) : Dense (leaf l)
  | array {accessor : Bool} {entries : List (Option JsValue)} (hholes : none ∉ entries)
      (h : ∀ v, some v ∈ entries → Dense v) : Dense (array accessor entries)
  | object {plain accessor : Bool} {members : List (Text × JsValue)} (h : ∀ m ∈ members, Dense m.2) :
      Dense (object plain accessor members)
  | ancestor : Dense ancestor

mutual

/-- What `JSON.parse` builds. -/
def ofJson : Json → JsValue
  | .null => leaf .null
  | .boolean b => leaf (.boolean b)
  | .number x => leaf (.number (.finite x))
  | .string text => leaf (.string text)
  | .array values => array false (ofJsonValues values)
  | .object members => object true false (ofJsonMembers members)

def ofJsonValues : List Json → List (Option JsValue)
  | [] => []
  | v :: values => some (ofJson v) :: ofJsonValues values

def ofJsonMembers : List (Text × Json) → List (Text × JsValue)
  | [] => []
  | (key, v) :: members => (key, ofJson v) :: ofJsonMembers members

end

end JsValue

/-! ## What is equal in two values -/

inductive Content
  | leaf (l : Leaf)
  | array (entries : List Content)
  | object (member : Text → Option Content)

namespace JsValue

mutual

/-- The content of a value in which each value without parts is taken for another. A hole is
undefined. -/
def contentWith (f : Leaf → Leaf) : JsValue → Content
  | leaf l => .leaf (f l)
  | array _ entries => .array (contentEntries f entries)
  | object _ _ members => .object fun key => (contentMembers f members).lookup key
  | ancestor => .leaf (f .other)

def contentEntries (f : Leaf → Leaf) : List (Option JsValue) → List Content
  | [] => []
  | none :: entries => .leaf (f .undefined) :: contentEntries f entries
  | some v :: entries => contentWith f v :: contentEntries f entries

def contentMembers (f : Leaf → Leaf) : List (Text × JsValue) → List (Text × Content)
  | [] => []
  | (_, leaf .undefined) :: members => contentMembers f members
  | (key, v) :: members => (key, contentWith f v) :: contentMembers f members

end

def content (v : JsValue) : Content := contentWith id v

end JsValue
