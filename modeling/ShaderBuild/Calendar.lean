/-! # Days and times

Days of the calendar, and days with a time of day. A time of day may come with its offset from universal
time; two such moments are the same if they are at one time, however they are written.
-/

namespace ShaderBuild

/-- A day of the calendar. -/
structure Date where
  year : Nat
  month : Nat
  day : Nat
  deriving Repr, DecidableEq

/-- A day and a time of day. -/
structure Moment where
  date : Date
  hour : Nat
  minute : Nat
  second : Nat
  /-- Millionths of a second. -/
  micro : Nat
  /-- The offset from universal time in minutes, if it is known. -/
  offset? : Option Int
  deriving Repr, DecidableEq

def paddedNumber (width n : Nat) : String :=
  let digits := Nat.toDigits 10 n
  String.ofList (List.replicate (width - digits.length) '0' ++ digits)

/-- A length of time in minutes, as days and seconds. -/
def shownDuration (minutes : Int) : String :=
  let days := Int.fdiv minutes 1440
  let seconds := Int.fmod minutes 1440 * 60
  let parts := (if days ≠ 0 then [s!"days={days}"] else []) ++
    (if seconds ≠ 0 then [s!"seconds={seconds}"] else [])
  "datetime.timedelta(" ++ (if parts.isEmpty then "0" else ", ".intercalate parts) ++ ")"

namespace Date

/-- Whether a year has a leap day. -/
def isLeap (year : Nat) : Bool := year % 4 == 0 && (year % 100 != 0 || year % 400 == 0)

/-- The number of days of a month. -/
def daysOf (year month : Nat) : Nat :=
  if month = 2 then (if isLeap year then 29 else 28)
  else if [4, 6, 9, 11].contains month then 30
  else 31

/-- The number of days before a date, from the first day of the first year on. -/
def ordinal (date : Date) : Nat :=
  let years := date.year - 1
  let inMonths := (List.range' 1 (date.month - 1)).foldl
    (fun days month => days + daysOf date.year month) 0
  years * 365 + years / 4 - years / 100 + years / 400 + inMonths + (date.day - 1)

def toString (date : Date) : String :=
  s!"{paddedNumber 4 date.year}-{paddedNumber 2 date.month}-{paddedNumber 2 date.day}"

/-- A date as it is shown in messages. -/
def shown (date : Date) : String := s!"datetime.date({date.year}, {date.month}, {date.day})"

end Date

namespace Moment

/-- The time in seconds on the moment's own clock. -/
def clock (moment : Moment) : Int :=
  ((moment.date.ordinal * 24 + moment.hour) * 60 + moment.minute) * 60 + moment.second

/-- Whether two moments are the same. With known offsets both are brought to universal time; a moment
    without offset is never the same as one with an offset. -/
def same (a b : Moment) : Bool :=
  match a.offset?, b.offset? with
  | none, none => a == b
  | some m, some n => a.clock - m * 60 == b.clock - n * 60 && a.micro == b.micro
  | _, _ => false

/-- An offset as a sign, hours and minutes. -/
def offsetText (minutes : Int) : String :=
  let sign := if minutes < 0 then "-" else "+"
  s!"{sign}{paddedNumber 2 (minutes.natAbs / 60)}:{paddedNumber 2 (minutes.natAbs % 60)}"

/-- The time of day, with the fraction of a second and the offset if there are any. -/
def timeText (moment : Moment) : String :=
  let fraction := if moment.micro = 0 then "" else s!".{paddedNumber 6 moment.micro}"
  let offset := (moment.offset?.map offsetText).getD ""
  s!"{paddedNumber 2 moment.hour}:{paddedNumber 2 moment.minute}:{paddedNumber 2 moment.second}" ++
    fraction ++ offset

/-- Date and time of day with a space between them. -/
def toString (moment : Moment) : String := s!"{moment.date.toString} {moment.timeText}"

/-- An offset as it is shown in messages. -/
def shownOffset (minutes : Int) : String :=
  if minutes = 0 then "tzinfo=datetime.timezone.utc"
  else s!"tzinfo=datetime.timezone({shownDuration minutes})"

/-- A moment as it is shown in messages. Seconds and millionths of seconds are left out if they and all
    after them are zero. -/
def shown (moment : Moment) : String :=
  let date := moment.date
  let fields := [date.year, date.month, date.day, moment.hour, moment.minute] ++
    (if moment.micro ≠ 0 then [moment.second, moment.micro]
      else if moment.second ≠ 0 then [moment.second] else [])
  let parts := (fields.map fun n => s!"{n}") ++ (moment.offset?.map shownOffset).toList
  "datetime.datetime(" ++ ", ".intercalate parts ++ ")"

end Moment

end ShaderBuild
