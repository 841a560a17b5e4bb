import Mathlib.Data.Nat.Digits.Lemmas
import SheepContabil.Spec.Sc06Rules

/-!
# SC-06: the dates of a briefing

`date.fromisoformat` takes a day in six spellings: the calendar date and the week date, each with
and without separators, and a week date may leave its day out. A day is its ordinal in the
proleptic Gregorian calendar, 1 for the first day of the year 1.

* `fromIsoFormat`: the day a text denotes.
* `isoFormat`: `date.isoformat`, the spelling the form submits.
* `strftime`: the spelling of the consolidated result.
-/

namespace SheepContabil.SC06

def isLeap (year : ℕ) : Bool := year % 4 == 0 && (year % 100 != 0 || year % 400 == 0)

def daysInMonth (year month : ℕ) : ℕ :=
  if month = 2 then (if isLeap year then 29 else 28)
  else if month = 4 ∨ month = 6 ∨ month = 9 ∨ month = 11 then 30 else 31

/-- The days before January 1st of the year. -/
def daysBeforeYear (year : ℕ) : ℕ :=
  (year - 1) * 365 + (year - 1) / 4 - (year - 1) / 100 + (year - 1) / 400

/-- The days of the year before the month after this one. -/
def daysThroughMonth (year : ℕ) : ℕ → ℕ
  | 0 => 0
  | month + 1 => daysThroughMonth year month + daysInMonth year (month + 1)

/-- `date(year, month, day)`, a `ValueError` outside the calendar. -/
def calendarDay (year month day : ℕ) : Option ℕ :=
  if 1 ≤ year ∧ year ≤ 9999 ∧ 1 ≤ month ∧ month ≤ 12 ∧ 1 ≤ day ∧ day ≤ daysInMonth year month then
    some (daysBeforeYear year + daysThroughMonth year (month - 1) + day)
  else none

/-- The Monday of the first week of an ISO year. -/
def firstMonday (year : ℕ) : ℕ :=
  let first := daysBeforeYear year + 1
  let weekday := (first + 6) % 7
  if 3 < weekday then first - weekday + 7 else first - weekday

/-- An ISO year that starts on a Thursday, or a leap year that starts on a Wednesday, has 53 weeks. -/
def weeksInYear (year : ℕ) : ℕ :=
  let weekday := (daysBeforeYear year + 1) % 7
  if weekday = 4 ∨ weekday = 3 ∧ isLeap year = true then 53 else 52

/-- `date.max`. -/
def maxDay : ℕ := 3652059

/-- `date.fromisocalendar`. -/
def weekDay (year week day : ℕ) : Option ℕ :=
  if 1 ≤ year ∧ year ≤ 9999 ∧ 1 ≤ week ∧ week ≤ weeksInYear year ∧ 1 ≤ day ∧ day ≤ 7 ∧
      firstMonday year + ((week - 1) * 7 + (day - 1)) ≤ maxDay then
    some (firstMonday year + ((week - 1) * 7 + (day - 1)))
  else none

/-- The spellings of a day. -/
inductive IsoForm where
  | calendar | calendarBasic | week | weekBasic | weekStart | weekStartBasic
  deriving DecidableEq, Repr

def IsoForm.all : List IsoForm :=
  [.calendar, .calendarBasic, .week, .weekBasic, .weekStart, .weekStartBasic]

/-- The layout of a spelling: `y` is a digit of the year, `m` of the month, `w` of the week and `d`
of the day. -/
def IsoForm.layout : IsoForm → Text
  | .calendar => "yyyy-mm-dd".toList
  | .calendarBasic => "yyyymmdd".toList
  | .week => "yyyy-Www-d".toList
  | .weekBasic => "yyyyWwwd".toList
  | .weekStart => "yyyy-Www".toList
  | .weekStartBasic => "yyyyWww".toList

def isField (c : Char) : Bool := c == 'y' || c == 'm' || c == 'w' || c == 'd'

/-- A text has digits and separators where the layout has them. -/
def fits : Text → Text → Bool
  | [], [] => true
  | l :: layout, c :: text => (if isField l then c.isDigit else c == l) && fits layout text
  | _, _ => false

/-- The digits of one field. -/
def fieldDigits (field : Char) : Text → Text → Text
  | l :: layout, c :: text =>
    if l = field then c :: fieldDigits field layout text else fieldDigits field layout text
  | _, _ => []

/-- `int` of some digits. -/
def number (digits : Text) : ℕ := Nat.ofDigits 10 (digits.map fun c => c.toNat - 48).reverse

/-- The day that a text of this spelling denotes; a week denotes its Monday. -/
def IsoForm.day (form : IsoForm) (text : Text) : Option ℕ :=
  let field := fun l => number (fieldDigits l form.layout text)
  match form with
  | .calendar | .calendarBasic => calendarDay (field 'y') (field 'm') (field 'd')
  | .week | .weekBasic => weekDay (field 'y') (field 'w') (field 'd')
  | .weekStart | .weekStartBasic => weekDay (field 'y') (field 'w') 1

/-- The spelling of a text. -/
def isoForm? (text : Text) : Option IsoForm := IsoForm.all.find? fun form => fits form.layout text

/-- `date.fromisoformat`, of the documented forms: what CPython lets pass without documenting it,
characters behind a basic form in a text of ten, is left out. -/
def fromIsoFormat (text : Text) : Option ℕ := (isoForm? text).bind fun form => form.day text

/-- `n` in decimal, on `width` digits. -/
def padded : ℕ → ℕ → Text
  | 0, _ => []
  | width + 1, n => padded width (n / 10) ++ [Nat.digitChar (n % 10)]

/-- `date.isoformat`. -/
def isoFormat (year month day : ℕ) : Text :=
  padded 4 year ++ '-' :: (padded 2 month ++ '-' :: padded 2 day)

/-- `_ord2ymd`. -/
def toCalendar (day : ℕ) : ℕ × ℕ × ℕ :=
  let n := day - 1
  let n400 := n / 146097
  let n := n % 146097
  let n100 := n / 36524
  let n := n % 36524
  let n4 := n / 1461
  let n := n % 1461
  let n1 := n / 365
  let n := n % 365
  let year := n400 * 400 + 1 + n100 * 100 + n4 * 4 + n1
  if n1 = 4 ∨ n100 = 4 then (year - 1, 12, 31)
  else
    let month := (n + 50) / 32
    if daysThroughMonth year (month - 1) ≤ n then
      (year, month, n - daysThroughMonth year (month - 1) + 1)
    else (year, month - 1, n - daysThroughMonth year (month - 2) + 1)

/-- `date.strftime("%d/%m/%Y")`. -/
def strftime (day : ℕ) : Text :=
  let (year, month, day) := toCalendar day
  padded 2 day ++ '/' :: (padded 2 month ++ '/' :: padded 4 year)

/-- The validators of the portal: a date is read by `date.fromisoformat`. -/
def isoValidators (isEmail : Text → Bool) : Validators where
  isDate text := (fromIsoFormat text).isSome
  isEmail := isEmail

example : fromIsoFormat "2024-W03-1".toList = fromIsoFormat "20240115".toList ∧
    (fromIsoFormat "2024-01-15".toList).map strftime = some "15/01/2024".toList := by
  decide +kernel

end SheepContabil.SC06
