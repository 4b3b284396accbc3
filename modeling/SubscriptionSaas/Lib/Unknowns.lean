import Mathlib.Algebra.Order.Ring.Rat
import Mathlib.Data.List.Sort
import Mathlib.Data.String.Basic
import SubscriptionSaas.Lib.Json

/-!
# Values of an unknown type

What a JSON column or a snapshot in memory may hold, and how checks read it. A number is finite and has
the text that ECMAScript writes for it.
-/

namespace Unknowns

inductive Unknown
  | null
  | bool (value : Bool)
  | number (value : ℚ) (text : String)
  | bigint (value : Int)
  | text (text : String)
  | array (entries : List Unknown)
  | object (members : List (String × Unknown))

/-! ## Records -/

abbrev Record := List (String × Unknown)

/-- The members of an object that is no array, or none. -/
def asRecord : Unknown → Record
  | .object members => members
  | _ => []

/-- `value.key ?? undefined`. -/
def Record.get (record : Record) (key : String) : Option Unknown :=
  match record.lookup key with
  | some .null => none
  | value => value

/-! ## Integers -/

def maxSafeInteger : Int := 9007199254740991

def isSafe (n : Int) : Bool := decide (|n| ≤ maxSafeInteger)

/-- `Number.isSafeInteger`. -/
def isSafeInteger (value : ℚ) : Bool := value.den == 1 && isSafe value.num

/-- What a text that matches `/^(?:0|[1-9]\d*)$/` stands for. -/
def decimal? (text : String) : Option Nat :=
  match text.toList with
  | [] => none
  | c :: cs =>
    if (c :: cs).all Char.isDigit ∧ (c = '0' → cs = []) then some (Nat.ofDigitChars 10 (c :: cs) 0)
    else none

def ofNat (n : Nat) : Unknown := .number n (toString n)

/-! ## Texts -/

mutual

/-- `String(value)`. -/
def Unknown.toText : Unknown → String
  | .null => "null"
  | .bool value => if value then "true" else "false"
  | .number _ text => text
  | .bigint value => toString value
  | .text text => text
  | .array entries => ",".intercalate (entryTexts entries)
  | .object _ => "[object Object]"

/-- The texts that `join` puts together. -/
def entryTexts : List Unknown → List String
  | [] => []
  | .null :: entries => "" :: entryTexts entries
  | entry :: entries => entry.toText :: entryTexts entries

end

/-- `String(value.key ?? "")`. -/
def Record.text (record : Record) (key : String) : String :=
  ((record.get key).map (·.toText)).getD ""

mutual

/-- The text of a value with the keys in order; a `bigint` is written as a text. -/
def Unknown.canonical : Unknown → Text
  | .null => Text.ofString "null"
  | .bool value => Text.ofString (if value then "true" else "false")
  | .number _ text => Text.ofString text
  | .bigint value => (Text.ofInt value).quote
  | .text text => (Text.ofString text).quote
  | .array entries => Text.ofString "[" ++ Text.join (canonicalEntries entries) ++ Text.ofString "]"
  | .object members =>
    Text.ofString "\x7b" ++
      Text.join (((canonicalMembers members).insertionSort fun a b => a.1 ≤ b.1).map fun member =>
        member.1.quote ++ Text.ofString ":" ++ member.2) ++
      Text.ofString "\x7d"

def canonicalEntries : List Unknown → List Text
  | [] => []
  | entry :: entries => entry.canonical :: canonicalEntries entries

def canonicalMembers : List (String × Unknown) → List (Text × Text)
  | [] => []
  | (key, value) :: members => (Text.ofString key, value.canonical) :: canonicalMembers members

end

mutual

/-- `JSON.stringify`, which raises at a `bigint`. -/
def Unknown.stringify : Unknown → Option Text
  | .null => some (Text.ofString "null")
  | .bool value => some (Text.ofString (if value then "true" else "false"))
  | .number _ text => some (Text.ofString text)
  | .bigint _ => none
  | .text text => some (Text.ofString text).quote
  | .array entries => do
    return Text.ofString "[" ++ Text.join (← stringifyEntries entries) ++ Text.ofString "]"
  | .object members => do
    return Text.ofString "\x7b" ++ Text.join (← stringifyMembers members) ++ Text.ofString "\x7d"

def stringifyEntries : List Unknown → Option (List Text)
  | [] => some []
  | entry :: entries => do return (← entry.stringify) :: (← stringifyEntries entries)

def stringifyMembers : List (String × Unknown) → Option (List Text)
  | [] => some []
  | (key, value) :: members => do
    return ((Text.ofString key).quote ++ Text.ofString ":" ++ (← value.stringify)) ::
      (← stringifyMembers members)

end

end Unknowns
