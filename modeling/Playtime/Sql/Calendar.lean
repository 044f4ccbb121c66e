/-!
Seconds of the unix clock that have a calendar text `YYYY-MM-DD hh:mm:ss` in the proleptic Gregorian calendar, and the
place of that text in the order of texts. A year before year 0 is written with a minus before its four digits.

Main statement: `rank_le_iff`, that from year 0 on the place is in the order of time.
-/

namespace Playtime.Sql

/-- Noon of 24 November -4713, the first second with a calendar text. -/
def firstSecond : Int := -210866760000

/-- The last second of year 9999. -/
def lastSecond : Int := 253402300799

/-- The first second of year 0. -/
def yearZero : Int := -62167219200

/--
The year of a second and the day in it, with years that begin on 1 March, so that a leap day comes last in its year.
Days are split into eras of 400 years.
-/
def marchOf (seconds : Int) : Int × Nat :=
  let day := seconds.fdiv 86400 + 719468
  let era := day.fdiv 146097
  let dayOfEra := (day - era * 146097).toNat
  let yearOfEra := (dayOfEra - dayOfEra / 1460 + dayOfEra / 36524 - dayOfEra / 146096) / 365
  (yearOfEra + era * 400, dayOfEra - (365 * yearOfEra + yearOfEra / 4 - yearOfEra / 100))

structure Timestamp where
  seconds : Int
  bounds : firstSecond ≤ seconds ∧ seconds ≤ lastSecond
deriving DecidableEq, Repr

namespace Timestamp

def ofUnix? (seconds : Int) : Option Timestamp :=
  if bounds : firstSecond ≤ seconds ∧ seconds ≤ lastSecond then some ⟨seconds, bounds⟩ else none

def firstDayOfYear (year : Int) : Int :=
  let before := year - 1
  365 * before + before.fdiv 4 - before.fdiv 100 + before.fdiv 400 - 719162

def year (time : Timestamp) : Int :=
  let march := marchOf time.seconds
  if march.2 < 306 then march.1 else march.1 + 1

def yearSpan : Int := 366 * 86400

/--
The place of the calendar text among all of them. A minus sorts before every digit, and years with a minus are
compared by their magnitude; from year 0 on the place is the time itself.
-/
def rank (time : Timestamp) : Int :=
  if yearZero ≤ time.seconds then time.seconds
  else
    yearZero + (-time.year - 5000) * yearSpan + (time.seconds - firstDayOfYear time.year * 86400)

theorem rank_of_yearZero_le (time : Timestamp) (late : yearZero ≤ time.seconds) :
    time.rank = time.seconds := if_pos late

theorem rank_le_iff (x y : Timestamp) (hx : yearZero ≤ x.seconds) (hy : yearZero ≤ y.seconds) :
    x.rank ≤ y.rank ↔ x.seconds ≤ y.seconds := by
  rw [rank_of_yearZero_le x hx, rank_of_yearZero_le y hy]

end Timestamp

end Playtime.Sql
