import DeferredText.Failure

/-!
Contract: dates and times in YAML texts.

Owns: reading them, and the checks that a date and a time exist.

Does not own: when a scalar is taken for one (`Yaml.Schema`).
-/

namespace DeferredText.Yaml

structure TimeOfDay where
  hour : Nat
  minute : Nat
  second : Nat
  /-- Minutes of difference to universal time, if a number of hours is given. -/
  offset : Option Int
deriving DecidableEq, Repr

structure Timestamp where
  year : Nat
  month : Nat
  day : Nat
  /-- Whether month and day have two digits each. -/
  isPadded : Bool
  time : Option TimeOfDay
deriving DecidableEq, Repr

namespace Timestamp

def decimalOf (digits : List Char) : Nat :=
  digits.foldl (fun total digit => total * 10 + (digit.toNat - '0'.toNat)) 0

/-- Between `least` and `most` digits, as many as there are. -/
def digitsBetween?
    (least most : Nat)
    (text : List Char) : Option (List Char × List Char) :=
  let digits := (text.take most).takeWhile Char.isDigit
  if digits.length < least then none else some (digits, text.drop digits.length)

def afterMark?
    (mark : Char)
    (text : List Char) : Option (List Char) :=
  match text with
  | head :: rest => if head = mark then some rest else none
  | [] => none

/-- The zone at the end of a time. -/
def zone? (text : List Char) : Option (Option Int) := do
  match text.dropWhile fun found => found == ' ' || found == '\t' with
  | [] => if text.isEmpty then some none else none
  | ['Z'] => return none
  | sign :: rest =>
      if sign != '+' && sign != '-' then none
      else
        let (hours, afterHours) ← digitsBetween? 1 2 rest
        let minutes ←
          if afterHours.isEmpty then some []
          else do
            let (minutes, last) ← digitsBetween? 2 2 (← afterMark? ':' afterHours)
            if last.isEmpty then some minutes else none
        let offset : Int := decimalOf hours * 60 + decimalOf minutes
        return some (if sign == '-' then -offset else offset)

def time? (text : List Char) : Option TimeOfDay := do
  let (hour, afterHour) ← digitsBetween? 1 2 text
  let (minute, afterMinute) ← digitsBetween? 2 2 (← afterMark? ':' afterHour)
  let (second, afterSecond) ← digitsBetween? 2 2 (← afterMark? ':' afterMinute)
  let afterFraction :=
    match afterSecond with
    | '.' :: rest => rest.dropWhile Char.isDigit
    | other => other
  let offset ← zone? afterFraction
  return ⟨decimalOf hour, decimalOf minute, decimalOf second, offset⟩

/-- A date, or a date and a time. -/
def read? (text : List Char) : Option Timestamp := do
  let (year, afterYear) ← digitsBetween? 4 4 text
  let (month, afterMonth) ← digitsBetween? 1 2 (← afterMark? '-' afterYear)
  let (day, afterDay) ← digitsBetween? 1 2 (← afterMark? '-' afterMonth)
  let isPadded := month.length == 2 && day.length == 2
  let time ←
    match afterDay with
    | [] => some none
    | head :: rest =>
        if head == 'T' || head == 't' then (time? rest).map some
        else if head == ' ' || head == '\t' then
          (time? (rest.dropWhile fun found => found == ' ' || found == '\t')).map some
        else none
  return ⟨decimalOf year, decimalOf month, decimalOf day, isPadded, time⟩

/-- Whether a plain scalar with this text is taken for a timestamp. -/
def isImplicit (text : List Char) : Bool :=
  (read? text).any fun stamp => stamp.isPadded || stamp.time.isSome

def isLeapYear (year : Nat) : Bool :=
  year % 4 == 0 && (year % 100 != 0 || year % 400 == 0)

def daysInMonth (year month : Nat) : Nat :=
  if month == 2 then (if isLeapYear year then 29 else 28)
  else if [4, 6, 9, 11].contains month then 30
  else 31

/-- The text of a time difference, as days and seconds. -/
def durationText (minutes : Int) : String :=
  let days := minutes / 1440
  let seconds := minutes % 1440 * 60
  if seconds = 0 then s!"datetime.timedelta(days={days})"
  else s!"datetime.timedelta(days={days}, seconds={seconds})"

/-- Differences to universal time are shorter than a day. -/
def checkOffset (minutes : Int) : Outcome Unit :=
  if minutes.natAbs < 1440 then .ok ()
  else
    let shown := durationText minutes
    .error (.badValue
      s!"offset must be a timedelta strictly between -timedelta(hours=24) and timedelta(hours=24), not {shown}.")

def checkDate (stamp : Timestamp) : Outcome Unit :=
  if stamp.year = 0 then .error (.badValue "year 0 is out of range")
  else if stamp.month = 0 ∨ 12 < stamp.month then
    .error (.badValue "month must be in 1..12")
  else if stamp.day = 0 ∨ daysInMonth stamp.year stamp.month < stamp.day then
    .error (.badValue "day is out of range for month")
  else .ok ()

def checkTime (time : TimeOfDay) : Outcome Unit :=
  if 23 < time.hour then .error (.badValue "hour must be in 0..23")
  else if 59 < time.minute then .error (.badValue "minute must be in 0..59")
  else if 59 < time.second then .error (.badValue "second must be in 0..59")
  else .ok ()

/-- The date, or the date and time, if it exists. -/
def value (stamp : Timestamp) : Outcome Value := do
  match stamp.time with
  | none =>
      checkDate stamp
      return .opaqueOf "date"
  | some time =>
      (time.offset.map checkOffset).getD (.ok ())
      checkDate stamp
      checkTime time
      return .opaqueOf "datetime"

end Timestamp

end DeferredText.Yaml
