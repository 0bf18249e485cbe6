-- Days and times of day. The calendar has leap years and reaches from year 1 to year 9999; a time
-- may come with its offset from universal time.

namespace SourceAudit.Calendar

/-- A day. -/
structure Date where
  year : Nat
  month : Nat
  day : Nat
  deriving DecidableEq, Repr

/-- A time on a day, and how many minutes it is ahead of universal time, if that is known. -/
structure Moment where
  date : Date
  hour : Nat
  minute : Nat
  second : Nat
  microsecond : Nat := 0
  offset : Option Int := none
  deriving DecidableEq, Repr

/-- Why numbers give no day or no time. -/
inductive Fault where
  | offsetTooLarge (minutes : Int)
  | noSuchYear (year : Nat)
  | noSuchMonth
  | noSuchDay
  | noSuchHour
  | noSuchMinute
  | noSuchSecond
  deriving DecidableEq, Repr

/-! ## Which days and times there are -/

/-- A year with a day more. -/
def isLeap (year : Nat) : Bool :=
  year % 4 == 0 && (year % 100 != 0 || year % 400 == 0)

/-- How many days a month has. -/
def daysIn (year : Nat) : (month : Nat) → Nat
  | 2 => if isLeap year then 29 else 28
  | 4 | 6 | 9 | 11 => 30
  | _ => 31

/-- The day with some numbers. -/
def Date.make (year month day : Nat) : Except Fault Date :=
  if year = 0 ∨ 9999 < year then .error (.noSuchYear year)
  else if month = 0 ∨ 12 < month then .error .noSuchMonth
  else if day = 0 ∨ daysIn year month < day then .error .noSuchDay
  else .ok ⟨year, month, day⟩

/-- An offset reaches less far than a day. -/
def checkOffset : Option Int → Except Fault Unit
  | some minutes => if 1440 ≤ minutes.natAbs then .error (.offsetTooLarge minutes) else .ok ()
  | none => .ok ()

/-- The time with some numbers. A minute has no more than sixty seconds. -/
def Moment.make (year month day hour minute second microsecond : Nat) (offset : Option Int) :
    Except Fault Moment := do
  checkOffset offset
  let date ← Date.make year month day
  if 23 < hour then throw .noSuchHour
  if 59 < minute then throw .noSuchMinute
  if 59 < second then throw .noSuchSecond
  return ⟨date, hour, minute, second, microsecond, offset⟩

/-! ## When two times are the same -/

/-- How many days come before a day, counted from the first day of year 1. -/
def Date.daysBefore (date : Date) : Nat :=
  let years := date.year - 1
  years * 365 + years / 4 - years / 100 + years / 400 +
    ((List.range (date.month - 1)).map fun month =>
      daysIn date.year (month + 1)).foldr (· + ·) 0 +
    (date.day - 1)

/-- The minute of universal time, for a time with an offset. -/
def Moment.universalMinute (moment : Moment) (offset : Int) : Int :=
  ((moment.date.daysBefore * 24 + moment.hour) * 60 + moment.minute : Nat) - offset

/-- Two times are the same. With an offset and without one they never are. -/
def Moment.isSame (a b : Moment) : Bool :=
  match a.offset, b.offset with
  | none, none => a == b
  | some p, some q =>
    a.universalMinute p == b.universalMinute q && a.second == b.second &&
      a.microsecond == b.microsecond
  | _, _ => false

/-! ## Written forms -/

/-- A number with zeros in front. -/
def padded (width n : Nat) : String :=
  let digits := toString n
  String.ofList (List.replicate (width - digits.length) '0') ++ digits

/-- A span of minutes as messages show it, in days and seconds. -/
def spanText (minutes : Int) : String :=
  let days := minutes.fdiv 1440
  let seconds := minutes.fmod 1440 * 60
  let parts :=
    (if days = 0 then [] else ["days=" ++ toString days]) ++
      (if seconds = 0 then [] else ["seconds=" ++ toString seconds])
  "datetime.timedelta(" ++ (if parts.isEmpty then "0" else ", ".intercalate parts) ++ ")"

/-- What is said of numbers that give no day or no time. -/
def Fault.message : Fault → String
  | offsetTooLarge minutes =>
    "offset must be a timedelta strictly between -timedelta(hours=24) and " ++
      "timedelta(hours=24), not " ++ spanText minutes ++ "."
  | noSuchYear year => "year " ++ toString year ++ " is out of range"
  | noSuchMonth => "month must be in 1..12"
  | noSuchDay => "day is out of range for month"
  | noSuchHour => "hour must be in 0..23"
  | noSuchMinute => "minute must be in 0..59"
  | noSuchSecond => "second must be in 0..59"

/-- A day in digits. -/
def Date.shown (date : Date) : String :=
  padded 4 date.year ++ "-" ++ padded 2 date.month ++ "-" ++ padded 2 date.day

/-- The numbers of a day. -/
def Date.numbers (date : Date) : List Nat :=
  [date.year, date.month, date.day]

/-- A day as messages show it. -/
def Date.quoted (date : Date) : String :=
  "datetime.date(" ++ ", ".intercalate (date.numbers.map toString) ++ ")"

/-- An offset in hours and minutes. -/
def offsetShown (minutes : Int) : String :=
  (if minutes < 0 then "-" else "+") ++ padded 2 (minutes.natAbs / 60) ++ ":" ++
    padded 2 (minutes.natAbs % 60)

/-- A time in digits. -/
def Moment.shown (moment : Moment) : String :=
  moment.date.shown ++ " " ++ padded 2 moment.hour ++ ":" ++ padded 2 moment.minute ++ ":" ++
    padded 2 moment.second ++
    (if moment.microsecond = 0 then "" else "." ++ padded 6 moment.microsecond) ++
    (moment.offset.map offsetShown).getD ""

/-- An offset as messages show it. -/
def offsetQuoted (minutes : Int) : String :=
  if minutes = 0 then "datetime.timezone.utc"
  else "datetime.timezone(" ++ spanText minutes ++ ")"

/-- The numbers of a time. Seconds and their parts are left out at the end if they are zero. -/
def Moment.numbers (moment : Moment) : List Nat :=
  moment.date.numbers ++ [moment.hour, moment.minute] ++
    (if moment.microsecond ≠ 0 then [moment.second, moment.microsecond]
    else if moment.second ≠ 0 then [moment.second]
    else [])

/-- A time as messages show it. -/
def Moment.quoted (moment : Moment) : String :=
  let zone := match moment.offset with
    | some minutes => ["tzinfo=" ++ offsetQuoted minutes]
    | none => []
  "datetime.datetime(" ++ ", ".intercalate (moment.numbers.map toString ++ zone) ++ ")"

end SourceAudit.Calendar
