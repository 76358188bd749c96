import ShaderBuild.Decimal.Literal
import ShaderBuild.Value
import ShaderBuild.Yaml.Cursor
import ShaderBuild.Yaml.Fault

/-! # Written dates and times

A date, or a date with a time of day and an offset from universal time, as a text gives it.
-/

namespace ShaderBuild.Yaml

/-- The offset of a time from universal time, as it is written. -/
inductive WrittenZone where
  | universal
  | offset (negative : Bool) (hour minute : List Char)
  deriving Repr, DecidableEq

/-- A time of day as it is written. -/
structure WrittenTime where
  hour : List Char
  minute : List Char
  second : List Char
  fraction : List Char
  zone? : Option WrittenZone
  deriving Repr, DecidableEq

/-- A date as it is written, with a time of day or without. -/
structure WrittenMoment where
  year : List Char
  month : List Char
  day : List Char
  time? : Option WrittenTime
  deriving Repr, DecidableEq

namespace WrittenMoment

def digits? (least most : Nat) (text : List Char) : Option (List Char × List Char) :=
  let found := (text.take most).takeWhile Char.isDigit
  if found.length ≥ least then some (found, text.drop found.length) else none

def char? (c : Char) : List Char → Option (List Char)
  | [] => none
  | d :: rest => if c = d then some rest else none

/-- Read an offset up to the end of the text. -/
def readZone? (text : List Char) : Option WrittenZone :=
  match text with
  | ['Z'] => some .universal
  | sign :: rest =>
    if sign = '-' ∨ sign = '+' then do
      let (hour, rest) ← digits? 1 2 rest
      match rest with
      | [] => return .offset (sign = '-') hour []
      | ':' :: rest =>
        let (minute, rest) ← digits? 2 2 rest
        if rest.isEmpty then return .offset (sign = '-') hour minute else none
      | _ => none
    else none
  | [] => none

/-- Read a time of day up to the end of the text. -/
def readTime? (text : List Char) : Option WrittenTime := do
  let (hour, rest) ← digits? 1 2 text
  let (minute, rest) ← digits? 2 2 (← char? ':' rest)
  let (second, rest) ← digits? 2 2 (← char? ':' rest)
  let (fraction, rest) :=
    match rest with
    | '.' :: rest => (rest.takeWhile Char.isDigit, rest.dropWhile Char.isDigit)
    | _ => ([], rest)
  if rest.isEmpty then return ⟨hour, minute, second, fraction, none⟩
  else
    let zone ← readZone? (rest.dropWhile isIndent)
    return ⟨hour, minute, second, fraction, some zone⟩

/-- The text of a time of day that is set off from the date by a letter or by blanks. -/
def afterGap? : List Char → Option (List Char)
  | [] => none
  | c :: rest =>
    if c = 'T' ∨ c = 't' then some rest
    else if isIndent c then some (rest.dropWhile isIndent)
    else none

/-- Read a date with a time of day or without. -/
def read? (text : List Char) : Option WrittenMoment := do
  let (year, rest) ← digits? 4 4 text
  let (month, rest) ← digits? 1 2 (← char? '-' rest)
  let (day, rest) ← digits? 1 2 (← char? '-' rest)
  if rest.isEmpty then return ⟨year, month, day, none⟩
  else return ⟨year, month, day, some (← readTime? (← afterGap? rest))⟩

/-- A date that is written with all its digits, or any date with a time of day. -/
def isEvident (written : WrittenMoment) : Bool :=
  written.time?.isSome || (written.month.length == 2 && written.day.length == 2)

def date (written : WrittenMoment) : Except MomentFault Date :=
  let year := Decimal.digitsValue written.year
  let month := Decimal.digitsValue written.month
  let day := Decimal.digitsValue written.day
  if year = 0 then .error (.year year)
  else if month = 0 ∨ month > 12 then .error .month
  else if day = 0 ∨ day > Date.daysOf year month then .error .day
  else .ok ⟨year, month, day⟩

/-- An offset in minutes, which has to be less than a day. -/
def zoneMinutes : WrittenZone → Except MomentFault Int
  | .universal => .ok 0
  | .offset negative hour minute =>
    let size : Int := Decimal.digitsValue hour * 60 + Decimal.digitsValue minute
    let minutes := if negative then -size else size
    if size ≥ 1440 then .error (.offset minutes) else .ok minutes

/-- A moment from its parts. Of the fraction of a second six digits count. -/
def moment (date : Date) (time : WrittenTime) (offset? : Option Int) : Except MomentFault Moment :=
  let hour := Decimal.digitsValue time.hour
  let minute := Decimal.digitsValue time.minute
  let second := Decimal.digitsValue time.second
  let micro := Decimal.digitsValue ((time.fraction ++ List.replicate 6 '0').take 6)
  if hour > 23 then .error .hour
  else if minute > 59 then .error .minute
  else if second > 59 then .error .second
  else .ok ⟨date, hour, minute, second, micro, offset?⟩

/-- The value of what is written. The offset is looked at first, then the date, then the time of day. -/
def value (written : WrittenMoment) : Except MomentFault Value :=
  match written.time? with
  | none => written.date.map .date
  | some time => do
    let offset? ←
      match time.zone? with
      | none => pure none
      | some zone => (zoneMinutes zone).map some
    let date ← written.date
    return .moment (← moment date time offset?)

end WrittenMoment

end ShaderBuild.Yaml
