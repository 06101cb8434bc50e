import CallFlow.Number.Decimal

/-!
# Points in time

A date and a time of day, with or without an offset from universal time, read from and written to
the notation `2024-05-06T07:08:09.000001+02:00`.
-/

namespace CallFlow

/-- A date and time of day. -/
structure Timestamp where
  year : Nat
  month : Nat
  day : Nat
  hour : Nat := 0
  minute : Nat := 0
  second : Nat := 0
  microsecond : Nat := 0
  /-- Minutes ahead of universal time, if known. -/
  offset : Option Int := none
  deriving Repr, DecidableEq, Inhabited

namespace Timestamp

/-! ## The calendar -/

def isLeapYear (year : Nat) : Bool :=
  year % 4 == 0 && (year % 100 != 0 || year % 400 == 0)

def daysInMonth (year month : Nat) : Nat :=
  if month = 2 then if isLeapYear year then 29 else 28
  else if month = 4 ∨ month = 6 ∨ month = 9 ∨ month = 11 then 30
  else 31

/-- Is this a date of the calendar? -/
def isDate (year month day : Nat) : Bool :=
  1 ≤ year && year ≤ 9999 && 1 ≤ month && month ≤ 12 && 1 ≤ day && day ≤ daysInMonth year month

/-- Days from 1 March of year 0 to a date. Years are counted from March here, so that the leap day
comes last. -/
def dayNumber (year month day : Nat) : Nat :=
  let y := if month ≤ 2 then year - 1 else year
  let m := (month + 9) % 12
  365 * y + y / 4 - y / 100 + y / 400 + (153 * m + 2) / 5 + (day - 1)

/-- The date of a day number. -/
def dateOfDay (n : Nat) : Nat × Nat × Nat :=
  let era := n / 146097
  let rest := n % 146097
  let yearOfEra := (rest - rest / 1460 + rest / 36524 - rest / 146096) / 365
  let dayOfYear := rest - (365 * yearOfEra + yearOfEra / 4 - yearOfEra / 100)
  let m := (5 * dayOfYear + 2) / 153
  let day := dayOfYear - (153 * m + 2) / 5 + 1
  let month := if m < 10 then m + 3 else m - 9
  (era * 400 + yearOfEra + (if month ≤ 2 then 1 else 0), month, day)

/-- The day number of the first day of 1970. -/
def epochDay : Nat := dayNumber 1970 1 1

/-- The same point in time, told in universal time. Without an offset it is universal already. -/
def toUniversal (t : Timestamp) : Timestamp :=
  let minutes : Int :=
    (dayNumber t.year t.month t.day * 1440 + t.hour * 60 + t.minute : Nat) - t.offset.getD 0
  let (year, month, day) := dateOfDay (minutes / 1440).toNat
  let rest := (minutes % 1440).toNat
  { t with year := year, month := month, day := day, hour := rest / 60, minute := rest % 60
           offset := some 0 }

/-- The point in time a number of microseconds after the start of 1970. -/
def ofMicroseconds (n : Int) : Timestamp :=
  let seconds := n / 1000000
  let (year, month, day) := dateOfDay ((epochDay : Int) + seconds / 86400).toNat
  let rest := (seconds % 86400).toNat
  { year := year, month := month, day := day, hour := rest / 3600, minute := rest / 60 % 60
    second := rest % 60, microsecond := (n % 1000000).toNat, offset := some 0 }

/-- Seconds counted from 1970 are below this; greater counts are in milliseconds. -/
def secondsLimit : Int := 20000000000

/-- The point in time that a count of seconds or milliseconds since 1970 stands for. -/
def ofCount (n : Int) : Timestamp :=
  if n.natAbs > secondsLimit.natAbs then ofMicroseconds (n * 1000) else ofMicroseconds (n * 1000000)

/-! ## Reading -/

/-- Reads exactly `count` digits. -/
def readDigits? (count : Nat) (cs : List Char) : Option (Nat × List Char) :=
  let ds := cs.take count
  if ds.length = count ∧ ds.all Char.isDigit then some (Decimal.valueOf ds, cs.drop count) else none

/-- Reads one character that satisfies a test. -/
def readMark? (test : Char → Bool) : List Char → Option (List Char)
  | c :: cs => if test c then some cs else none
  | [] => none

/-- Reads a year, month and day. -/
def readDate? (cs : List Char) : Option (Timestamp × List Char) := do
  let (year, cs) ← readDigits? 4 cs
  let cs ← readMark? (· == '-') cs
  let (month, cs) ← readDigits? 2 cs
  let cs ← readMark? (· == '-') cs
  let (day, cs) ← readDigits? 2 cs
  if isDate year month day then return ({ year := year, month := month, day := day }, cs) else none

/-- Reads the seconds with their fraction, which is cut after six digits. -/
def readSeconds? (t : Timestamp) (cs : List Char) : Option (Timestamp × List Char) :=
  match cs with
  | ':' :: cs => do
    let (second, cs) ← readDigits? 2 cs
    if second > 59 then none
    else
      match cs with
      | c :: rest =>
        if c == '.' || c == ',' then
          let ds := rest.takeWhile Char.isDigit
          if ds.isEmpty then none
          else
            let six := (ds ++ List.replicate 6 '0').take 6
            some ({ t with second := second, microsecond := Decimal.valueOf six },
              rest.drop ds.length)
        else some ({ t with second := second }, cs)
      | [] => some ({ t with second := second }, [])
  | _ => some (t, cs)

/-- Reads the offset from universal time, if there is one. -/
def readOffset? (cs : List Char) : Option (Option Int) :=
  match cs with
  | [] => some none
  | ['Z'] | ['z'] => some (some 0)
  | sign :: cs => do
    let positive ←
      if sign == '+' then some true
      else if sign == '-' || sign == '−' then some false else none
    let (hours, cs) ← readDigits? 2 cs
    let (minutes, cs) ← readDigits? 2 (if cs.head? == some ':' then cs.drop 1 else cs)
    let total : Nat := hours * 60 + minutes
    if minutes > 59 ∨ total ≥ 1440 ∨ !cs.isEmpty then none
    else some (some (if positive then (total : Int) else Int.negOfNat total))

/-- Reads a date, a separator and a time of day with its offset. A date alone means its first
moment. -/
def readMoment? (cs : List Char) : Option Timestamp := do
  let (date, cs) ← readDate? cs
  if cs.isEmpty then return date
  let cs ← readMark? (fun c => c == 'T' || c == 't' || c == ' ' || c == '_') cs
  let (hour, cs) ← readDigits? 2 cs
  let cs ← readMark? (· == ':') cs
  let (minute, cs) ← readDigits? 2 cs
  if hour > 23 ∨ minute > 59 then none
  let (t, cs) ← readSeconds? { date with hour := hour, minute := minute } cs
  let offset ← readOffset? cs
  return { t with offset := offset }

/-- Reads a count of seconds or milliseconds. -/
def readCount? (cs : List Char) : Option Timestamp :=
  let (negative, ds) :=
    match cs with
    | '-' :: ds => (true, ds)
    | '+' :: ds => (false, ds)
    | ds => (false, ds)
  if ds.isEmpty || !ds.all Char.isDigit then none
  else
    let n := Decimal.valueOf ds
    some (ofCount (if negative then Int.negOfNat n else n))

/-- Reads a point in time. -/
def parse? (text : String) : Option Timestamp :=
  (readMoment? text.toList).or (readCount? text.toList)

/-! ## Writing -/

/-- Digits with zeros in front up to a width. -/
def padded (width n : Nat) : String :=
  let ds := Nat.toDigits 10 n
  String.ofList (List.replicate (width - ds.length) '0' ++ ds)

/-- The offset: a letter for none, else sign, hours and minutes. -/
def writeOffset : Option Int → String
  | none => ""
  | some 0 => "Z"
  | some m =>
    (if m < 0 then "-" else "+") ++ padded 2 (m.natAbs / 60) ++ ":" ++ padded 2 (m.natAbs % 60)

/-- The time of day to the second. -/
def clock (t : Timestamp) : String :=
  padded 2 t.hour ++ ":" ++ padded 2 t.minute ++ ":" ++ padded 2 t.second

/-- The full notation; a fraction is written only if it is not zero. -/
def write (t : Timestamp) : String :=
  padded 4 t.year ++ "-" ++ padded 2 t.month ++ "-" ++ padded 2 t.day ++ "T" ++ t.clock ++
    (if t.microsecond = 0 then "" else "." ++ padded 6 t.microsecond) ++ writeOffset t.offset

/-- Date and time of day in universal time, to the second. -/
def display (t : Timestamp) : String :=
  let u := t.toUniversal
  toString u.year ++ "-" ++ padded 2 u.month ++ "-" ++ padded 2 u.day ++ " " ++ u.clock

end Timestamp

end CallFlow
