import Runbook.Host.Utility.Numeral

/-!
# Dates

Times in nanoseconds since the beginning of 1970 as dates of the calendar, and dates as times. There is
only one zone. `Calendar.format` writes a date by a format, and `Calendar.read?` reads some usual forms.
-/

namespace Runbook.Host.Calendar

/-- A date and a time of the day. -/
structure Date where
  year : Int
  month : Nat
  day : Nat
  hour : Nat
  minute : Nat
  second : Nat
  nanosecond : Nat
  deriving DecidableEq, Repr

/-- The number of days before a day; the first day of 1970 has none before it. -/
def daysBefore (year : Int) (month day : Nat) : Int :=
  let year := if month ≤ 2 then year - 1 else year
  let era := Int.fdiv year 400
  let yearOfEra := (year - era * 400).toNat
  let dayOfYear := (153 * ((month + 9) % 12) + 2) / 5 + day - 1
  let dayOfEra := yearOfEra * 365 + yearOfEra / 4 - yearOfEra / 100 + dayOfYear
  era * 146097 + dayOfEra - 719468

/-- The year, the month and the day with a number of days before it. -/
def dayAfter (days : Int) : Int × Nat × Nat :=
  let days := days + 719468
  let era := Int.fdiv days 146097
  let dayOfEra := (days - era * 146097).toNat
  let yearOfEra := (dayOfEra - dayOfEra / 1460 + dayOfEra / 36524 - dayOfEra / 146096) / 365
  let dayOfYear := dayOfEra - (365 * yearOfEra + yearOfEra / 4 - yearOfEra / 100)
  let shifted := (5 * dayOfYear + 2) / 153
  let month := if shifted < 10 then shifted + 3 else shifted - 9
  let year : Int := yearOfEra + era * 400
  (if month ≤ 2 then year + 1 else year, month, dayOfYear - (153 * shifted + 2) / 5 + 1)

/-- The number of nanoseconds in a second. -/
def second : Nat := 1000000000

/-- The date of a time. -/
def ofTime (time : Int) : Date :=
  let seconds := Int.fdiv time second
  let days := Int.fdiv seconds 86400
  let ofDay := (seconds - days * 86400).toNat
  let (year, month, day) := dayAfter days
  ⟨year, month, day, ofDay / 3600, ofDay / 60 % 60, ofDay % 60, (time - seconds * second).toNat⟩

/-- The time of a date. -/
def toTime (date : Date) : Int :=
  (daysBefore date.year date.month date.day * 86400 + date.hour * 3600 + date.minute * 60 +
    date.second) * second + date.nanosecond

/-- The day of the week, counted from Sunday. -/
def weekday (date : Date) : Nat :=
  ((daysBefore date.year date.month date.day + 4) % 7).toNat

/-! ## Writing -/

/-- The months. -/
def monthNames : List String := ["January", "February", "March", "April", "May", "June", "July",
  "August", "September", "October", "November", "December"]

/-- The days of the week. -/
def dayNames : List String :=
  ["Sunday", "Monday", "Tuesday", "Wednesday", "Thursday", "Friday", "Saturday"]

/-- A number with at least so many places. -/
def padded (fill : Char) (width : Nat) (n : Int) : String :=
  let digits := toString n
  String.ofList (List.replicate (width - digits.length) fill) ++ digits

/-- The first letters of a name. -/
def short (name : Option String) : String := String.ofList ((name.getD "").toList.take 3)

/-- A part of a date that a letter asks for. -/
def part (date : Date) (letter : Char) : String :=
  let two (n : Nat) : String := padded '0' 2 n
  let dayOfYear := daysBefore date.year date.month date.day - daysBefore date.year 1 1 + 1
  let clock := two date.hour ++ ":" ++ two date.minute
  let isoDay := padded '0' 4 date.year ++ "-" ++ two date.month ++ "-" ++ two date.day
  match letter with
  | 'Y' => toString date.year
  | 'y' => two (date.year % 100).toNat
  | 'm' => two date.month
  | 'd' => two date.day
  | 'e' => padded ' ' 2 date.day
  | 'H' => two date.hour
  | 'I' => two ((date.hour + 11) % 12 + 1)
  | 'M' => two date.minute
  | 'S' => two date.second
  | 'N' => padded '0' 9 date.nanosecond
  | 'p' => if date.hour < 12 then "AM" else "PM"
  | 'b' | 'h' => short monthNames[date.month - 1]?
  | 'B' => monthNames[date.month - 1]?.getD ""
  | 'a' => short dayNames[weekday date]?
  | 'A' => dayNames[weekday date]?.getD ""
  | 'j' => padded '0' 3 dayOfYear
  | 'F' => isoDay
  | 'T' => clock ++ ":" ++ two date.second
  | 'R' => clock
  | 'D' => two date.month ++ "/" ++ two date.day ++ "/" ++ two (date.year % 100).toNat
  | 's' => toString (Int.fdiv (toTime date) second)
  | 'z' => "+0000"
  | 'Z' => "UTC"
  | 'n' => "\n"
  | 't' => "\t"
  | c => String.ofList ['%', c]

/-- A date by a format. -/
def format (date : Date) : List Char → String
  | [] => ""
  | '%' :: '%' :: rest => "%" ++ format date rest
  | '%' :: letter :: rest => part date letter ++ format date rest
  | c :: rest => String.singleton c ++ format date rest

/-! ## Reading -/

/-- The number of days of a month. -/
def monthLength (year : Int) (month : Nat) : Nat :=
  let isLong := year % 4 = 0 && (year % 100 != 0 || year % 400 = 0)
  if month = 2 then (if isLong then 29 else 28)
  else if [4, 6, 9, 11].contains month then 30
  else 31

/-- A date, if there is one with such parts. -/
def valid? (date : Date) : Option Date :=
  if 1 ≤ date.month && date.month ≤ 12 && 1 ≤ date.day && date.day ≤ monthLength date.year date.month &&
    date.hour < 24 && date.minute < 60 && date.second ≤ 60
  then some date else none

/-- The numbers of two digits each that a text is made of. -/
def pairsOf? : List Char → Option (List Nat)
  | [] => some []
  | a :: b :: rest =>
    if a.isDigit && b.isDigit then
      (pairsOf? rest).map (((a.toNat - '0'.toNat) * 10 + (b.toNat - '0'.toNat)) :: ·)
    else none
  | [_] => none

/-- The time of a stamp: two or four digits of the year, if it is not the present one, then two each for
the month, the day, the hour and the minute, and seconds after a point. -/
def ofStamp? (now : Int) (text : List Char) : Option Int := do
  let digits := text.takeWhile (· != '.')
  let seconds ← match text.drop digits.length with
    | [] => some 0
    | _ :: rest =>
      match pairsOf? rest with
      | some [n] => some n
      | _ => none
  let (year, rest) ← match ← pairsOf? digits with
    | [a, b, month, day, hour, minute] => some (((a * 100 + b : Nat) : Int), [month, day, hour, minute])
    | [a, month, day, hour, minute] =>
      some (((if a < 69 then 2000 + a else 1900 + a : Nat) : Int), [month, day, hour, minute])
    | [month, day, hour, minute] => some ((ofTime now).year, [month, day, hour, minute])
    | _ => none
  match rest with
  | [month, day, hour, minute] => (valid? ⟨year, month, day, hour, minute, seconds, 0⟩).map toTime
  | _ => none

/-- A number at the start of a text, and what comes after a sign that follows it. -/
def numberBefore? (sign : Char) (text : List Char) : Option (Nat × List Char) :=
  match Numeral.inBase 10 text with
  | some (value, c :: rest) => if c = sign then some (value, rest) else none
  | _ => none

/-- A fraction of a second in nanoseconds. -/
def fraction (digits : List Char) : Nat :=
  let nine := (digits ++ List.replicate 9 '0').take 9
  (Numeral.digits 10 9 0 nine).1

/-- The time of the day at the start of a text: hours, minutes and seconds with a fraction. -/
def clock? (text : List Char) : Option ((Nat × Nat × Nat × Nat) × List Char) := do
  let (hour, rest) ← numberBefore? ':' text
  let (minute, rest) ← Numeral.inBase 10 rest
  match rest with
  | ':' :: rest =>
    let (second, rest) ← Numeral.inBase 10 rest
    match rest with
    | '.' :: rest =>
      let digits := rest.takeWhile Char.isDigit
      return ((hour, minute, second, fraction digits), rest.drop digits.length)
    | rest => return ((hour, minute, second, 0), rest)
  | rest => return ((hour, minute, 0, 0), rest)

/-- The difference to the zone at the end of a text, in minutes. -/
def zone? (text : List Char) : Option Int :=
  match text.dropWhile isSpace with
  | [] => some 0
  | ['Z'] | ['U', 'T', 'C'] | ['G', 'M', 'T'] => some 0
  | sign :: rest =>
    let value := match rest with
      | [_, _, ':', _, _] | [_, _, _, _] | [_, _] => pairsOf? (rest.filter (· != ':'))
      | _ => none
    let minutes := match value with
      | some [hours, minutes] => some (hours * 60 + minutes)
      | some [hours] => some (hours * 60)
      | _ => none
    if sign = '+' then minutes.map fun n => (n : Int)
    else if sign = '-' then minutes.map fun n => -(n : Int)
    else none

/-- The time that a text means: seconds after an at sign, the words for days near the present one, or a
date with numbers for the year, the month and the day, then perhaps a time of the day and a zone. -/
def read? (now : Int) (text : List Char) : Option Int := do
  let text := text.dropWhile isSpace
  let today := { ofTime now with hour := 0, minute := 0, second := 0, nanosecond := 0 }
  match String.ofList text with
  | "" => return toTime today
  | "now" | "today" => return now
  | "yesterday" => return now - 86400 * second
  | "tomorrow" => return now + 86400 * second
  | _ =>
    match text with
    | '@' :: rest =>
      let (negative, digits) := Numeral.sign rest
      let (value, rest) ← Numeral.inBase 10 digits
      let whole : Int := if negative then -(value : Int) else value
      match rest with
      | [] => return whole * second
      | '.' :: digits =>
        if digits.all Char.isDigit then return whole * second + fraction digits else none
      | _ => none
    | _ =>
      let (date, rest) := match (do
          let (year, rest) ← numberBefore? '-' text
          let (month, rest) ← numberBefore? '-' rest
          let (day, rest) ← Numeral.inBase 10 rest
          some ({ today with year := year, month, day }, rest)) with
        | some found => found
        | none => (today, text)
      let rest := match rest with
        | 'T' :: rest => rest
        | rest => rest.dropWhile isSpace
      let (date, rest) := match clock? rest with
        | some ((hour, minute, second, nanosecond), rest) =>
          ({ date with hour, minute, second, nanosecond }, rest)
        | none => (date, rest)
      if rest.length = text.length then none
      let zone ← zone? rest
      return toTime (← valid? date) - zone * 60 * second

end Runbook.Host.Calendar
