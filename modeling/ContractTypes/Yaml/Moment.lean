import ContractTypes.Yaml.Fault

/-!
Dates and points in time.

A date is written as year, month and day with hyphens.  A time of day may follow after a letter `T`
or after blanks, with a fraction of a second and a distance from universal time.  Fractions count to
the sixth place.
-/

namespace ContractTypes.Yaml

structure Date where
  year : Nat
  month : Nat
  day : Nat
deriving DecidableEq

/-- A point in time: a date, a time of day, and the distance from universal time in minutes, if
known. -/
structure Moment where
  date : Date
  hour : Nat
  minute : Nat
  second : Nat
  micro : Nat
  offset : Option Int
deriving DecidableEq

structure WrittenTime where
  hour : Nat
  minute : Nat
  second : Nat
  fraction : Text
  offset : Option Int

/-- A date as it is written, with its time of day, if it has one; and whether month and day have two
digits each. -/
structure WrittenMoment where
  date : Date
  isWide : Bool
  time : Option WrittenTime

/-- At least one and at most some number of digits at the head of a text: their number, their count
and the rest. -/
def digitsUpTo (limit : Nat) (text : Text) : Option (Nat × Nat × Text) :=
  let digits := (text.take limit).takeWhile CodePoint.isDigit
  if digits.isEmpty then none
  else some (Text.decimalNumber digits, digits.length, text.drop digits.length)

def digitsExactly (count : Nat) (text : Text) : Option (Nat × Text) :=
  match digitsUpTo count text with
  | some (number, found, rest) => if found = count then some (number, rest) else none
  | none => none

def afterMark (mark : Char) (text : Text) : Option Text :=
  match text with
  | point :: rest => if point = mark then some rest else none
  | [] => none

def afterBlanks (text : Text) : Text :=
  text.dropWhile (fun point : CodePoint => point = ' ' || point = '\t')

def writtenOffset (text : Text) : Option (Option Int) :=
  match afterBlanks text with
  | [] => if text.isEmpty then some none else none
  | point :: rest =>
      if point = 'Z' then (if rest.isEmpty then some (some 0) else none)
      else if point = '+' || point = '-' then do
        let (hours, _, afterHours) ← digitsUpTo 2 rest
        let minutes ←
          if afterHours.isEmpty then some 0
          else
            match (afterMark ':' afterHours).bind (digitsExactly 2) with
            | some (minutes, []) => some minutes
            | _ => none
        let size := Int.ofNat (hours * 60 + minutes)
        return some (if point = '-' then -size else size)
      else none

def writtenTime (text : Text) : Option WrittenTime := do
  let (hour, _, afterHour) ← digitsUpTo 2 text
  let (minute, afterMinute) ← (afterMark ':' afterHour).bind (digitsExactly 2)
  let (second, afterSecond) ← (afterMark ':' afterMinute).bind (digitsExactly 2)
  match afterMark '.' afterSecond with
  | some rest =>
      let fraction := rest.takeWhile CodePoint.isDigit
      let offset ← writtenOffset (rest.drop fraction.length)
      return ⟨hour, minute, second, fraction, offset⟩
  | none =>
      let offset ← writtenOffset afterSecond
      return ⟨hour, minute, second, [], offset⟩

def afterDate (text : Text) : Option Text :=
  match text with
  | [] => none
  | point :: rest =>
      if point = 'T' || point = 't' then some rest
      else if point = ' ' || point = '\t' then some (afterBlanks rest)
      else none

def writtenMoment (text : Text) : Option WrittenMoment := do
  let (year, afterYear) ← digitsExactly 4 text
  let (month, monthWidth, afterMonth) ← (afterMark '-' afterYear).bind (digitsUpTo 2)
  let (day, dayWidth, afterDay) ← (afterMark '-' afterMonth).bind (digitsUpTo 2)
  let isWide := decide (monthWidth = 2) && decide (dayWidth = 2)
  if afterDay.isEmpty then return ⟨⟨year, month, day⟩, isWide, none⟩
  else
    let time ← (afterDate afterDay).bind writtenTime
    return ⟨⟨year, month, day⟩, isWide, some time⟩

def isLeap (year : Nat) : Bool := year % 4 == 0 && (year % 100 != 0 || year % 400 == 0)

def daysOfMonth (year month : Nat) : Nat :=
  if month = 2 then (if isLeap year then 29 else 28)
  else if month = 4 || month = 6 || month = 9 || month = 11 then 30
  else 31

def Date.checked (date : Date) : Except Fault Date :=
  if date.year = 0 then .error .yearRange
  else if date.month = 0 || 12 < date.month then .error .monthRange
  else if date.day = 0 || daysOfMonth date.year date.month < date.day then .error .dayRange
  else .ok date

def microseconds (fraction : Text) : Nat :=
  let digits := fraction.take 6
  Text.decimalNumber digits * Nat.pow 10 (6 - digits.length)

def Moment.checked (date : Date) (time : WrittenTime) : Except Fault Moment := do
  match time.offset with
  | some minutes => if 1440 ≤ minutes.natAbs then throw (.offsetRange minutes)
  | none => pure ()
  let date ← date.checked
  if 23 < time.hour then throw .hourRange
  if 59 < time.minute then throw .minuteRange
  if 59 < time.second then throw .secondRange
  return ⟨date, time.hour, time.minute, time.second, microseconds time.fraction, time.offset⟩

def daysBeforeYear (year : Nat) : Nat :=
  (year - 1) * 365 + (year - 1) / 4 - (year - 1) / 100 + (year - 1) / 400

def Date.ordinal (date : Date) : Nat :=
  daysBeforeYear date.year +
    ((List.range (date.month - 1)).map (fun month => daysOfMonth date.year (month + 1))).foldl
      (· + ·) 0 +
    date.day

/-- The distance of a point in time from the start of the calendar in universal time, in
microseconds. -/
def Moment.universal (moment : Moment) (offset : Int) : Int :=
  let minutes := Int.ofNat ((moment.date.ordinal * 24 + moment.hour) * 60 + moment.minute) - offset
  (minutes * 60 + Int.ofNat moment.second) * 1000000 + Int.ofNat moment.micro

/-- Whether two points in time are the same.  Without their distances from universal time they are
compared as they are written, and one with its distance is never the same as one without. -/
def Moment.same (left right : Moment) : Bool :=
  match left.offset, right.offset with
  | none, none => decide (left = right)
  | some first, some second => left.universal first == right.universal second
  | _, _ => false

def padded (width number : Nat) : Text :=
  let digits := Text.ofNat number
  List.replicate (width - digits.length) (CodePoint.ofChar '0') ++ digits

def Date.text (date : Date) : Text :=
  padded 4 date.year ++ "-" ++ padded 2 date.month ++ "-" ++ padded 2 date.day

def offsetText (minutes : Int) : Text :=
  let sign : Text := if minutes < 0 then "-" else "+"
  sign ++ padded 2 (minutes.natAbs / 60) ++ ":" ++ padded 2 (minutes.natAbs % 60)

def Moment.text (moment : Moment) : Text :=
  let fraction : Text := if moment.micro = 0 then "" else "." ++ padded 6 moment.micro
  moment.date.text ++ " " ++ padded 2 moment.hour ++ ":" ++ padded 2 moment.minute ++ ":" ++
    padded 2 moment.second ++ fraction ++ (moment.offset.map offsetText).getD []

end ContractTypes.Yaml
