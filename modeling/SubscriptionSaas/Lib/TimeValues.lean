import SubscriptionSaas.Lib.Calendar

/-!
# Time values

A date of ECMAScript has for its value a number of milliseconds since the beginning of 1970, or none
when it is invalid. An operation with a date that is invalid gives one that is invalid.
-/

namespace Calendar

abbrev TimeValue := Option Int

/-- The largest time value, a hundred million days. -/
def maxTime : Int := 8640000000000000

/-- `new Date(t)`. -/
def timeClip (t : Int) : TimeValue := if -maxTime ≤ t ∧ t ≤ maxTime then some t else none

def getUTCHours (t : Int) : Int := t % 86400000 / 3600000

def getUTCMinutes (t : Int) : Int := t % 3600000 / 60000

def getUTCSeconds (t : Int) : Int := t % 60000 / 1000

def getUTCMilliseconds (t : Int) : Int := t % 1000

/-- A year of two digits lies in the twentieth century. -/
def makeFullYear (year : Int) : Int := if 0 ≤ year ∧ year ≤ 99 then 1900 + year else year

/-- `Date.UTC`. -/
def timeUTC (year month day hours minutes seconds milliseconds : Int) : TimeValue :=
  timeClip (instantOf (dateUTC (makeFullYear year) month day) +
    (hours * 3600000 + minutes * 60000 + seconds * 1000 + milliseconds))

theorem timeClip_of_le {t : Int} (h : -maxTime ≤ t) (h' : t ≤ maxTime) : timeClip t = some t :=
  if_pos ⟨h, h'⟩

theorem timeClip_of_lt {t : Int} (h : maxTime < t) : timeClip t = none :=
  if_neg fun hle => absurd hle.2 (by omega)

theorem timeClip_eq_some {t u : Int} (h : timeClip t = some u) : u = t ∧ -maxTime ≤ t ∧ t ≤ maxTime := by
  by_cases hrange : -maxTime ≤ t ∧ t ≤ maxTime
  · rw [timeClip, if_pos hrange, Option.some.injEq] at h
    exact ⟨h.symm, hrange⟩
  · rw [timeClip, if_neg hrange] at h
    cases h

theorem makeFullYear_of_le {year : Int} (h : 100 ≤ year) : makeFullYear year = year :=
  if_neg (by omega)

/-- The fields below the day make up the time of the day. -/
theorem timeOfDay_fields (t : Int) : getUTCHours t * 3600000 + getUTCMinutes t * 60000 +
    getUTCSeconds t * 1000 + getUTCMilliseconds t = t % 86400000 := by
  unfold getUTCHours getUTCMinutes getUTCSeconds getUTCMilliseconds
  omega

end Calendar
