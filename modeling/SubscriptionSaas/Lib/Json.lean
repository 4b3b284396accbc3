import Mathlib.Data.List.DropRight
import Mathlib.Data.List.Lex
import Mathlib.Data.Fin.Basic
import SubscriptionSaas.Lib.Texts

/-!
# JSON texts

Texts, numbers and JSON as ECMAScript has them. A text is the list of its UTF-16 units, which need
not be well-formed, and a finite number is the decimal that `Number::toString` writes for it: the
shortest one that only this number is the nearest to. `Json.parse` reads a decimal as it stands,
which for a decimal so written is what `JSON.parse` reads.
-/

abbrev Text := List Nat

namespace Text

/-- The units of a string. -/
def ofString (s : String) : Text :=
  s.toList.flatMap fun c =>
    if c.toNat < 0x10000 then [c.toNat]
    else [0xD800 + (c.toNat - 0x10000) / 0x400, 0xDC00 + (c.toNat - 0x10000) % 0x400]

def ofNat (n : Nat) : Text := (Nat.toDigits 10 n).map Char.toNat

def ofInt (n : Int) : Text := (if n < 0 then ofString "-" else []) ++ ofNat n.natAbs

/-- `texts.join(",")`. -/
def join (texts : List Text) : Text := List.intercalate (ofString ",") texts

/-- `trim`. All white space lies in the Basic Multilingual Plane. -/
def trim (text : Text) : Text :=
  (text.dropWhile (Texts.isWhiteSpace <| Char.ofNat ·)).rdropWhile (Texts.isWhiteSpace <| Char.ofNat ·)

def isLead (u : Nat) : Bool := 0xD800 ≤ u && u < 0xDC00

def isTrail (u : Nat) : Bool := 0xDC00 ≤ u && u < 0xE000

def hexDigit (n : Nat) : Nat := if n < 10 then 48 + n else 87 + n

/-- `\uXXXX`. -/
def unicodeEscape (u : Nat) : Text :=
  [92, 117, hexDigit (u / 4096), hexDigit (u / 256 % 16), hexDigit (u / 16 % 16), hexDigit (u % 16)]

/-- What stands in a JSON string for a unit that is not part of a surrogate pair. -/
def escape (u : Nat) : Text :=
  if u = 8 then ofString "\\b"
  else if u = 9 then ofString "\\t"
  else if u = 10 then ofString "\\n"
  else if u = 12 then ofString "\\f"
  else if u = 13 then ofString "\\r"
  else if u = 34 then ofString "\\\""
  else if u = 92 then ofString "\\\\"
  else if u < 32 ∨ isLead u ∨ isTrail u then unicodeEscape u
  else [u]

def escapes : Text → Text
  | [] => []
  | [u] => escape u
  | u :: v :: rest =>
    if isLead u ∧ isTrail v then u :: v :: escapes rest else escape u ++ escapes (v :: rest)
termination_by structural text => text

/-- `JSON.stringify` of a string. -/
def quote (text : Text) : Text := ofString "\"" ++ escapes text ++ ofString "\""

end Text

/-! ## Numbers -/

/-- The number `0.d₁d₂… · 10 ^ point` with its sign; without digits it is a zero. -/
structure Numeral where
  negative : Bool
  digits : List (Fin 10)
  point : Int
  head : digits.head? ≠ some 0
  last : digits.getLast? ≠ some 0
  zero : digits = [] → point = 0
deriving DecidableEq

namespace Numeral

def isNegativeZero (x : Numeral) : Bool := x.negative && x.digits.isEmpty

/-- A zero without a sign in place of a negative one. -/
def unsigned (x : Numeral) : Numeral :=
  { x with negative := x.negative && !x.digits.isEmpty }

/-- The last decimal digit of a number. -/
def lastDigit (n : Nat) : Fin 10 := Fin.ofNat 10 n

def digitUnit (d : Fin 10) : Nat := 48 + d

def exponentText (e : Int) : Text :=
  Text.ofString (if e < 0 then "e-" else "e+") ++ Text.ofNat e.natAbs

/-- `Number::toString`. -/
def text (x : Numeral) : Text :=
  let k := x.digits.length
  let n := x.point
  let ds := x.digits.map digitUnit
  if x.digits = [] then Text.ofString "0"
  else
    (if x.negative then Text.ofString "-" else []) ++
      if k ≤ n ∧ n ≤ 21 then ds ++ List.replicate (n - k).toNat 48
      else if 0 < n ∧ n ≤ 21 then ds.take n.toNat ++ Text.ofString "." ++ ds.drop n.toNat
      else if -6 < n ∧ n ≤ 0 then Text.ofString "0." ++ List.replicate (-n).toNat 48 ++ ds
      else if k = 1 then ds ++ exponentText (n - 1)
      else ds.take 1 ++ Text.ofString "." ++ ds.drop 1 ++ exponentText (n - 1)

theorem getLast?_trimmed (ds : List (Fin 10)) :
    ((ds.dropWhile (· = 0)).rdropWhile (· = 0)).getLast? ≠ some 0 := by
  intro h
  have hmem := List.mem_of_getLast? h
  have hne : (ds.dropWhile (· = 0)).rdropWhile (· = 0) ≠ [] := List.ne_nil_of_mem hmem
  have hlast := List.rdropWhile_last_not (· = (0 : Fin 10)) (ds.dropWhile (· = 0)) hne
  rw [List.getLast?_eq_some_getLast hne, Option.some.injEq] at h
  exact hlast (by simpa using h)

theorem head?_trimmed (ds : List (Fin 10)) :
    ((ds.dropWhile (· = 0)).rdropWhile (· = 0)).head? ≠ some 0 := by
  intro h
  obtain ⟨zeros, hzeros⟩ := List.rdropWhile_prefix (· = (0 : Fin 10)) (l := ds.dropWhile (· = 0))
  have hhead : (ds.dropWhile (· = 0)).head? = some 0 := by
    rw [← hzeros, List.head?_append, h]
    rfl
  have hnot := List.head?_dropWhile_not (· = (0 : Fin 10)) ds
  rw [hhead] at hnot
  simp at hnot

/-- The number of some digits, of which the first and the last may be zeros. -/
def ofDigits (negative : Bool) (ds : List (Fin 10)) (point : Int) : Numeral :=
  let trimmed := (ds.dropWhile (· = 0)).rdropWhile (· = 0)
  { negative
    digits := trimmed
    point := if trimmed = [] then 0 else point - (ds.takeWhile (· = 0)).length
    head := head?_trimmed ds
    last := getLast?_trimmed ds
    zero := fun h => if_pos h }

end Numeral

/-! ## Values -/

inductive Json where
  | null
  | boolean (b : Bool)
  | number (x : Numeral)
  | string (text : Text)
  | array (values : List Json)
  | object (members : List (Text × Json))

namespace Json

@[induction_eliminator]
theorem induct {motive : Json → Prop} (null : motive null) (boolean : ∀ b, motive (boolean b))
    (number : ∀ x, motive (number x)) (string : ∀ text, motive (string text))
    (array : ∀ values, (∀ v ∈ values, motive v) → motive (array values))
    (object : ∀ members, (∀ m ∈ members, motive m.2) → motive (object members)) (j : Json) :
    motive j :=
  @Json.rec motive (fun values => ∀ v ∈ values, motive v) (fun members => ∀ m ∈ members, motive m.2)
    (fun m => motive m.2) null boolean number string array object
    (fun _ h => absurd h List.not_mem_nil)
    (fun _ _ hv hvs => List.forall_mem_cons.mpr ⟨hv, hvs⟩)
    (fun _ h => absurd h List.not_mem_nil)
    (fun _ _ hm hms => List.forall_mem_cons.mpr ⟨hm, hms⟩)
    (fun _ _ h => h) j

/-- No number is a negative zero, and the members of an object stand in the order of their keys. -/
inductive Canonical : Json → Prop
  | null : Canonical null
  | boolean (b : Bool) : Canonical (boolean b)
  | number {x : Numeral} (h : x.isNegativeZero = false) : Canonical (number x)
  | string (text : Text) : Canonical (string text)
  | array {values : List Json} (h : ∀ v ∈ values, Canonical v) : Canonical (array values)
  | object {members : List (Text × Json)} (hkeys : (members.map Prod.fst).Pairwise (· < ·))
      (h : ∀ m ∈ members, Canonical m.2) : Canonical (object members)

mutual

/-- The text of a value, whose members stand in their order. -/
def write : Json → Text
  | null => Text.ofString "null"
  | boolean b => Text.ofString (if b then "true" else "false")
  | number x => x.text
  | string text => text.quote
  | array values => Text.ofString "[" ++ Text.join (writeValues values) ++ Text.ofString "]"
  | object members => Text.ofString "\x7b" ++ Text.join (writeMembers members) ++ Text.ofString "\x7d"

def writeValues : List Json → List Text
  | [] => []
  | value :: values => value.write :: writeValues values

def writeMembers : List (Text × Json) → List Text
  | [] => []
  | (key, value) :: members =>
    (key.quote ++ Text.ofString ":" ++ value.write) :: writeMembers members

end

/-! ### `JSON.parse`

Each reader gives what it has read together with the rest of the text. -/

def skip (text : Text) : Text := text.dropWhile fun u => u = 9 ∨ u = 10 ∨ u = 13 ∨ u = 32

def digit? (u : Nat) : Option (Fin 10) :=
  if h : 48 ≤ u ∧ u < 58 then some ⟨u - 48, by omega⟩ else none

def digits : Text → List (Fin 10) × Text
  | [] => ([], [])
  | u :: rest =>
    match digit? u with
    | some d => (d :: (digits rest).1, (digits rest).2)
    | none => ([], u :: rest)

def digits₁? (text : Text) : Option (List (Fin 10) × Text) :=
  if (digits text).1 = [] then none else some (digits text)

def fraction? : Text → Option (List (Fin 10) × Text)
  | [] => some ([], [])
  | u :: rest => if u = 46 then digits₁? rest else some ([], u :: rest)

def natOf (ds : List (Fin 10)) : Nat := ds.foldl (fun (n : Nat) (d : Fin 10) => 10 * n + d.val) 0

def exponent? : Text → Option (Int × Text)
  | [] => some (0, [])
  | u :: rest =>
    if u = 69 ∨ u = 101 then
      if rest.head? = some 45 then (digits₁? rest.tail).map fun (ds, rest) => (-natOf ds, rest)
      else if rest.head? = some 43 then (digits₁? rest.tail).map fun (ds, rest) => (natOf ds, rest)
      else (digits₁? rest).map fun (ds, rest) => (natOf ds, rest)
    else some (0, u :: rest)

def number? (text : Text) : Option (Numeral × Text) := do
  let negative := text.head? = some 45
  let (whole, rest) ← digits₁? (if negative then text.tail else text)
  if whole.head? = some 0 ∧ 1 < whole.length then none
  let (part, rest) ← fraction? rest
  let (e, rest) ← exponent? rest
  return (.ofDigits negative (whole ++ part) (whole.length + e), rest)

def hex? (u : Nat) : Option Nat :=
  if 48 ≤ u ∧ u < 58 then some (u - 48)
  else if 97 ≤ u ∧ u < 103 then some (u - 87)
  else if 65 ≤ u ∧ u < 71 then some (u - 55)
  else none

def unescape? (u : Nat) : Option Nat :=
  [(34, 34), (92, 92), (47, 47), (98, 8), (102, 12), (110, 10), (114, 13), (116, 9)].lookup u

/-- What a string has after its first quotation mark. -/
def string? : Text → Option (Text × Text)
  | [] => none
  | u :: rest =>
    if u = 34 then some ([], rest)
    else if u = 92 then
      match rest with
      | [] => none
      | e :: rest =>
        if e = 117 then
          match rest with
          | a :: b :: c :: d :: rest => do
            let unit := 4096 * (← hex? a) + 256 * (← hex? b) + 16 * (← hex? c) + (← hex? d)
            let (text, rest) ← string? rest
            return (unit :: text, rest)
          | _ => none
        else do
          let unit ← unescape? e
          let (text, rest) ← string? rest
          return (unit :: text, rest)
    else if u < 32 then none
    else do
      let (text, rest) ← string? rest
      return (u :: text, rest)

/-- A member that is written again later has its later value. -/
def addMember (key : Text) (value : Json) (members : List (Text × Json)) : List (Text × Json) :=
  if members.any (·.1 = key) then members else (key, value) :: members

mutual

def value? : Nat → Text → Option (Json × Text)
  | 0, _ => none
  | fuel + 1, text =>
    match skip text with
    | 110 :: 117 :: 108 :: 108 :: rest => some (null, rest)
    | 116 :: 114 :: 117 :: 101 :: rest => some (boolean true, rest)
    | 102 :: 97 :: 108 :: 115 :: 101 :: rest => some (boolean false, rest)
    | 34 :: rest => (string? rest).map fun (text, rest) => (string text, rest)
    | 91 :: rest =>
      if (skip rest).head? = some 93 then some (array [], (skip rest).tail)
      else (values? fuel rest).map fun (values, rest) => (array values, rest)
    | 123 :: rest =>
      if (skip rest).head? = some 125 then some (object [], (skip rest).tail)
      else (members? fuel rest).map fun (members, rest) => (object members, rest)
    | text => (number? text).map fun (x, rest) => (number x, rest)

/-- The values of an array that has some, and its end. -/
def values? : Nat → Text → Option (List Json × Text)
  | 0, _ => none
  | fuel + 1, text => do
    let (value, rest) ← value? fuel text
    match skip rest with
    | 44 :: rest => do
      let (values, rest) ← values? fuel rest
      return (value :: values, rest)
    | 93 :: rest => return ([value], rest)
    | _ => none

/-- The members of an object that has some, and its end. -/
def members? : Nat → Text → Option (List (Text × Json) × Text)
  | 0, _ => none
  | fuel + 1, text =>
    match skip text with
    | 34 :: rest => do
      let (key, rest) ← string? rest
      match skip rest with
      | 58 :: rest => do
        let (value, rest) ← value? fuel rest
        match skip rest with
        | 44 :: rest => do
          let (members, rest) ← members? fuel rest
          return (addMember key value members, rest)
        | 125 :: rest => return ([(key, value)], rest)
        | _ => none
      | _ => none
    | _ => none

end

/-- `JSON.parse`; `none` stands for its `SyntaxError`. -/
def parse (text : Text) : Option Json :=
  match value? (2 * text.length + 2) text with
  | some (value, rest) => if skip rest = [] then some value else none
  | none => none

end Json
