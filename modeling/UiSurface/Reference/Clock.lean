import UiSurface.Number.Basic
import UiSurface.Text.Replace

/-!
# The clock — times and the templates that show them

A text may hold four clock templates.  They are replaced by the time of showing when the text is
shown; the text itself stays as it is.
-/

namespace UiSurface

/-- A date and a time of day, to the minute. -/
structure Stamp where
  year : Nat
  month : Nat
  day : Nat
  hour : Nat
  minute : Nat
deriving DecidableEq, Inhabited

namespace Stamp

/-! ## The calendar -/

def monthNames : List String :=
  ["Jan", "Feb", "Mar", "Apr", "May", "Jun", "Jul", "Aug", "Sep", "Oct", "Nov", "Dec"]

def dayNames : List String :=
  ["Monday", "Tuesday", "Wednesday", "Thursday", "Friday", "Saturday", "Sunday"]

/-- Whether a year has a leap day: every fourth, of the hundreds every fourth. -/
def isLeap (year : Nat) : Bool := year % 4 == 0 && (year % 100 != 0 || year % 400 == 0)

/-- The days of the year before the first of a month. -/
def daysBefore (year month : Nat) : Nat :=
  let common := [0, 31, 59, 90, 120, 151, 181, 212, 243, 273, 304, 334].getD (month - 1) 0
  if 2 < month && isLeap year then common + 1 else common

/-- The days from the first of January of the year one, which is day one. -/
def ordinal (s : Stamp) : Nat :=
  -- the whole years before this one
  let y := s.year - 1
  365 * y + y / 4 - y / 100 + y / 400 + daysBefore s.year s.month + s.day

/-- The day of the week, zero for Monday.  The first of January of the year one was a Monday. -/
def weekday (s : Stamp) : Nat := (s.ordinal + 6) % 7

/-! ## Texts -/

/-- A number in at least two digits. -/
def twoDigits (n : Nat) : List Char :=
  if n < 10 then '0' :: Number.natDigits n else Number.natDigits n

/-- The time of day with a half-day mark (`_format_time_12h`): `3:07 PM`. -/
def halfDayTime (s : Stamp) : List Char :=
  -- midnight and noon are both twelve
  let hour := if s.hour % 12 = 0 then 12 else s.hour % 12
  Number.natDigits hour ++ ':' :: twoDigits s.minute ++ (if s.hour < 12 then " AM" else " PM").toList

/-- The time of day from zero to twenty-four hours: `15:07`. -/
def dayTime (s : Stamp) : List Char := twoDigits s.hour ++ ':' :: twoDigits s.minute

/-- The date (`_format_date_medium`): `Oct 19, 2026`. -/
def date (s : Stamp) : List Char :=
  (monthNames.getD (s.month - 1) "").toList ++ ' ' :: Number.natDigits s.day ++ ',' :: ' ' ::
    Number.natDigits s.year

/-- The day of the week: `Monday`. -/
def dayName (s : Stamp) : List Char := (dayNames.getD s.weekday "").toList

/-! ## Templates -/

/-- The clock templates and what each shows, in the order of replacement. -/
def templates (s : Stamp) : List (List Char × List Char) :=
  [("\x7b\x7bcurrent_time\x7d\x7d".toList, s.halfDayTime),
   ("\x7b\x7bcurrent_time_24h\x7d\x7d".toList, s.dayTime),
   ("\x7b\x7bcurrent_date\x7d\x7d".toList, s.date),
   ("\x7b\x7bcurrent_day\x7d\x7d".toList, s.dayName)]

/-- Replaces the templates one after the other. -/
def expandChars (s : Stamp) (cs : List Char) : List Char :=
  s.templates.foldl (fun text t => Text.replace t.1 t.2 text) cs

/-- A text with its clock templates replaced (`expand_templates`). -/
def expand (s : Stamp) (text : String) : String := String.ofList (s.expandChars text.toList)

end Stamp

end UiSurface
