import Mathlib.Data.List.Basic

/-!
# The proleptic Gregorian calendar

Days and months are numbered, on both sides, from the first of January 1970. `monthStart` is the
first day of a month, after the formulas by which ECMAScript defines its dates, and `monthOf` is the
month of a day. A month is named by its number or, as in `dateUTC`, by a year and a month of the year
that need not be one of its twelve; a day of the month likewise may lie outside the month.
-/

namespace Calendar

def isLeap (year : Int) : Bool := year % 4 == 0 && (year % 100 != 0 || year % 400 == 0)

/-- The first of January. -/
def yearStart (year : Int) : Int :=
  365 * (year - 1970) + (year - 1969) / 4 - (year - 1901) / 100 + (year - 1601) / 400

def yearOf (m : Int) : Int := 1970 + m / 12

/-- The days of a common year before a month. -/
def daysBefore (monthOfYear : Int) : Int :=
  [0, 31, 59, 90, 120, 151, 181, 212, 243, 273, 304, 334].getD monthOfYear.toNat 0

def monthStart (m : Int) : Int :=
  yearStart (yearOf m) + daysBefore (m % 12) + if 2 ≤ m % 12 ∧ isLeap (yearOf m) then 1 else 0

def monthLength (m : Int) : Int :=
  if m % 12 = 1 then if isLeap (yearOf m) then 29 else 28
  else if m % 12 = 3 ∨ m % 12 = 5 ∨ m % 12 = 8 ∨ m % 12 = 10 then 30
  else 31

/-- The month of a day. A month of average length gives it up to one month. -/
def monthOf (d : Int) : Int :=
  let m := 4800 * d / 146097
  if d < monthStart m then m - 1 else if d < monthStart (m + 1) then m else m + 1

/-- The day of the month, from 1 on. -/
def dayOfMonth (d : Int) : Int := d - monthStart (monthOf d) + 1

/-- Some months later: the same day of the month, or the last day of a month that is too short. -/
def addMonths (d : Int) (n : Int) : Int :=
  monthStart (monthOf d + n) + min (dayOfMonth d) (monthLength (monthOf d + n)) - 1

/-! ## ECMAScript dates that are the beginning of a day -/

def getUTCFullYear (d : Int) : Int := yearOf (monthOf d)

def getUTCMonth (d : Int) : Int := monthOf d % 12

def getUTCDate (d : Int) : Int := dayOfMonth d

/-- `Date.UTC`, for years of more than two digits. -/
def dateUTC (year month day : Int) : Int := monthStart (12 * (year - 1970) + month) + day - 1

/-- The day of an instant, which is given in milliseconds since the beginning of 1970. -/
def dayOf (t : Int) : Int := t / 86400000

/-- The instant at which a day begins. -/
def instantOf (d : Int) : Int := d * 86400000

/-! ## The text of an instant -/

def digit? (c : Char) : Option Int :=
  if '0' ≤ c ∧ c ≤ '9' then some (c.toNat - 48) else none

/-- The number that the digits write. -/
def number? (cs : List Char) : Option Int :=
  cs.foldlM (fun n c => (digit? c).map (10 * n + ·)) 0

/-- The instant of the fields, when they are in their ranges and ECMAScript has the instant. -/
def instant? (year month day hours minutes seconds milliseconds : Int) : Option Int :=
  let m := 12 * (year - 1970) + (month - 1)
  let t := (monthStart m + day - 1) * 86400000 + hours * 3600000 + minutes * 60000 +
    seconds * 1000 + milliseconds
  if 1 ≤ month ∧ month ≤ 12 ∧ 1 ≤ day ∧ day ≤ monthLength m ∧ hours < 24 ∧ minutes < 60 ∧
      seconds < 60 ∧ -8640000000000000 ≤ t ∧ t ≤ 8640000000000000 then some t else none

/-- The instant of which the text is the `toISOString`, if there is one. A year outside of four
digits is written with a sign and six digits. -/
def ofISOString (text : String) : Option Int :=
  let rest (year : Int) : List Char → Option Int
    | ['-', m₁, m₂, '-', d₁, d₂, 'T', h₁, h₂, ':', n₁, n₂, ':', s₁, s₂, '.', u₁, u₂, u₃, 'Z'] => do
      instant? year (← number? [m₁, m₂]) (← number? [d₁, d₂]) (← number? [h₁, h₂])
        (← number? [n₁, n₂]) (← number? [s₁, s₂]) (← number? [u₁, u₂, u₃])
    | _ => none
  match text.toList with
  | '+' :: y₁ :: y₂ :: y₃ :: y₄ :: y₅ :: y₆ :: cs => do
    let year ← number? [y₁, y₂, y₃, y₄, y₅, y₆]
    if 10000 ≤ year then rest year cs else none
  | '-' :: y₁ :: y₂ :: y₃ :: y₄ :: y₅ :: y₆ :: cs => do
    let year ← number? [y₁, y₂, y₃, y₄, y₅, y₆]
    if 1 ≤ year then rest (-year) cs else none
  | y₁ :: y₂ :: y₃ :: y₄ :: cs => do rest (← number? [y₁, y₂, y₃, y₄]) cs
  | _ => none

/-- The milliseconds that are written after the seconds, of which ECMAScript reads three digits. -/
def fraction? : List Char → Option Int
  | ['Z'] => some 0
  | '.' :: cs =>
    match cs.reverse with
    | 'Z' :: digit :: digits => do
      let _ ← number? (digit :: digits)
      number? (((digit :: digits).reverse ++ ['0', '0']).take 3)
    | _ => none
  | _ => none

/-- The instant of a text in UTC with any number of decimals, `2026-09-04T00:01:00.5Z`, when its day
and its time of the day exist. -/
def ofUTCText (text : String) : Option Int :=
  match text.toList with
  | y₁ :: y₂ :: y₃ :: y₄ :: '-' :: m₁ :: m₂ :: '-' :: d₁ :: d₂ :: 'T' :: h₁ :: h₂ :: ':' :: n₁ :: n₂ ::
      ':' :: s₁ :: s₂ :: cs => do
    instant? (← number? [y₁, y₂, y₃, y₄]) (← number? [m₁, m₂]) (← number? [d₁, d₂])
      (← number? [h₁, h₂]) (← number? [n₁, n₂]) (← number? [s₁, s₂]) (← fraction? cs)
  | _ => none

end Calendar
