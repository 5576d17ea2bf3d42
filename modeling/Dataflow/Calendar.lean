namespace Dataflow

/-- A day and a time of day, and how many seconds the clock is ahead of universal time if that is
known. -/
structure Moment where
  year : Nat
  month : Nat
  day : Nat
  hour : Nat := 0
  minute : Nat := 0
  second : Nat := 0
  micro : Nat := 0
  offset : Option Int := none
deriving DecidableEq, Repr

inductive MomentError where
  | year (value : Int)
  | month
  | day
  | hour
  | minute
  | second
  | micro
  | offset (seconds : Int)
deriving DecidableEq, Repr

namespace Moment

def secondsOfDay : Nat := 86400

def isLeap (year : Nat) : Bool := year % 4 == 0 && (year % 100 != 0 || year % 400 == 0)

def daysIn (year month : Nat) : Nat :=
  if month = 2 then (if isLeap year then 29 else 28)
  else if month ∈ [4, 6, 9, 11] then 30 else 31

def padded (width n : Nat) : String :=
  let digits := toString n
  String.ofList (List.replicate (width - digits.length) '0') ++ digits

end Moment

namespace MomentError

/-- A span of seconds as whole days and what is left of the last one. -/
def span (seconds : Int) : String :=
  let days := seconds / Moment.secondsOfDay
  let rest := seconds % Moment.secondsOfDay
  let parts := (if days = 0 then [] else [s!"days={days}"]) ++ (if rest = 0 then [] else [s!"seconds={rest}"])
  "datetime.timedelta(" ++ ", ".intercalate parts ++ ")"

def message : MomentError → String
  | .year value => s!"year {value} is out of range"
  | .month => "month must be in 1..12"
  | .day => "day is out of range for month"
  | .hour => "hour must be in 0..23"
  | .minute => "minute must be in 0..59"
  | .second => "second must be in 0..59"
  | .micro => "microsecond must be in 0..999999"
  | .offset seconds =>
    "offset must be a timedelta strictly between -timedelta(hours=24) and timedelta(hours=24), not " ++
      span seconds ++ "."

end MomentError

namespace Moment

/-- Makes a moment of its parts, or names the first one that is out of range. -/
def make (year month day hour minute second micro : Int) (offset : Option Int) :
    Except MomentError Moment := do
  if let some seconds := offset then
    unless seconds.natAbs < secondsOfDay do throw (.offset seconds)
  unless 1 ≤ year ∧ year ≤ 9999 do throw (.year year)
  unless 1 ≤ month ∧ month ≤ 12 do throw .month
  unless 1 ≤ day ∧ day ≤ daysIn year.toNat month.toNat do throw .day
  unless 0 ≤ hour ∧ hour ≤ 23 do throw .hour
  unless 0 ≤ minute ∧ minute ≤ 59 do throw .minute
  unless 0 ≤ second ∧ second ≤ 59 do throw .second
  unless 0 ≤ micro ∧ micro ≤ 999999 do throw .micro
  return {
    year := year.toNat, month := month.toNat, day := day.toNat, hour := hour.toNat
    minute := minute.toNat, second := second.toNat, micro := micro.toNat, offset := offset }

def offsetText (seconds : Int) : String :=
  let n := seconds.natAbs
  let sign := if seconds < 0 then "-" else "+"
  let rest := if n % 60 = 0 then "" else ":" ++ padded 2 (n % 60)
  sign ++ padded 2 (n / 3600) ++ ":" ++ padded 2 (n / 60 % 60) ++ rest

/-- The date, the time and the offset; a fraction of a second is written if there is one. -/
def text (m : Moment) : String :=
  let date := s!"{padded 4 m.year}-{padded 2 m.month}-{padded 2 m.day}"
  let time := s!"{padded 2 m.hour}:{padded 2 m.minute}:{padded 2 m.second}"
  let fraction := if m.micro = 0 then "" else "." ++ padded 6 m.micro
  date ++ "T" ++ time ++ fraction ++ (m.offset.map offsetText).getD ""

/-- The date that lies `days` days after 1 January of year 0, in years of 146097 days per 400. -/
def dateOfDays (days : Nat) : Nat × Nat × Nat :=
  let shifted := days - 60
  let era := shifted / 146097
  let dayOfEra := shifted % 146097
  let yearOfEra := (dayOfEra - dayOfEra / 1460 + dayOfEra / 36524 - dayOfEra / 146096) / 365
  let dayOfYear := dayOfEra - (365 * yearOfEra + yearOfEra / 4 - yearOfEra / 100)
  let month := (5 * dayOfYear + 2) / 153
  let day := dayOfYear - (153 * month + 2) / 5 + 1
  let year := yearOfEra + era * 400
  if month < 10 then (year, month + 3, day) else (year + 1, month - 9, day)

/-- The moment that many seconds after the start of 1970, in universal time. -/
def ofUnix (seconds : Nat) : Moment :=
  let (year, month, day) := dateOfDays (seconds / secondsOfDay + 719528)
  let rest := seconds % secondsOfDay
  { year, month, day, hour := rest / 3600, minute := rest / 60 % 60, second := rest % 60, offset := some 0 }

end Moment

end Dataflow
