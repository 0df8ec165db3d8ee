import Retrace.Unix.Characters

/-!
# The calendar

Seconds counted from the beginning of 1970 as dates and times of day, and how
these are written.
-/

namespace Retrace.Unix

/-- A date and a time of day. -/
structure Moment where
  year : Int
  /-- From one on. -/
  month : Nat
  /-- From one on. -/
  day : Nat
  hour : Nat
  minute : Nat
  second : Nat
  nanosecond : Nat
  /-- From one on. -/
  yearDay : Nat
  /-- Sunday is zero. -/
  weekDay : Nat

namespace Calendar

/-- A place on earth, by what its clocks show: the name of that, and the seconds they are
    ahead. -/
structure Zone where
  name : String
  ahead : Int

/-- The zone of a text. -/
def Zone.of (s : String) : Zone :=
  let cs := if s.startsWith ":" then s.toList.drop 1 else s.toList
  let (name, rest) := match cs with
    | '<' :: cs => (cs.takeWhile (· != '>'), (cs.dropWhile (· != '>')).drop 1)
    | cs => (cs.takeWhile Char.isAlpha, cs.dropWhile Char.isAlpha)
  let negative := rest.head? = some '-'
  let digits := if negative || rest.head? = some '+' then rest.drop 1 else rest
  let hours := digits.takeWhile Char.isDigit
  let minutes := match digits.drop hours.length with
    | ':' :: ds => ds.takeWhile Char.isDigit
    | _ => []
  let n : Int := numberOf 10 hours * 3600 + numberOf 10 minutes * 60
  if name.length < 3 then ⟨"UTC", 0⟩
  else if hours.isEmpty then ⟨String.ofList name, 0⟩
  else ⟨String.ofList name, if negative then n else -n⟩

/-- The number of days from the beginning of 1970 to a date. -/
def daysOf (year : Int) (month day : Int) : Int :=
  -- years begin in March here, so that the day that may be missing is the last one
  let y := if month ≤ 2 then year - 1 else year
  let era := y.fdiv 400
  let inEra := y - era * 400
  let m := if month ≤ 2 then month + 9 else month - 3
  let inYear := (153 * m + 2) / 5 + day - 1
  era * 146097 + (inEra * 365 + inEra / 4 - inEra / 100 + inYear) - 719468

/-- The date of a number of days after the beginning of 1970. -/
def dateOf (days : Int) : Int × Nat × Nat :=
  let z := days + 719468
  let era := z.fdiv 146097
  let inEra := z - era * 146097
  let yearInEra := (inEra - inEra / 1460 + inEra / 36524 - inEra / 146096) / 365
  let inYear := inEra - (365 * yearInEra + yearInEra / 4 - yearInEra / 100)
  let m := (5 * inYear + 2) / 153
  let day := inYear - (153 * m + 2) / 5 + 1
  let month := if m < 10 then m + 3 else m - 9
  let year := yearInEra + era * 400 + (if month ≤ 2 then 1 else 0)
  (year, month.toNat, day.toNat)

/-- The number of seconds from the beginning of 1970 to a date and a time, which may be more or
    less than a day. -/
def secondsOf (year month day hour minute second : Int) : Int :=
  let months := year * 12 + (month - 1)
  daysOf (months.fdiv 12) (months.fmod 12 + 1) 1 * 86400 + (day - 1) * 86400 +
    hour * 3600 + minute * 60 + second

/-- The moment of a number of nanoseconds. -/
def momentOf (zone : Zone) (nanoseconds : Int) : Moment :=
  let seconds := nanoseconds.fdiv 1000000000 + zone.ahead
  let days := seconds.fdiv 86400
  let inDay := (seconds.fmod 86400).toNat
  let (year, month, day) := dateOf days
  ⟨year, month, day, inDay / 3600, inDay / 60 % 60, inDay % 60, (nanoseconds.fmod 1000000000).toNat,
    (days - daysOf year 1 1 + 1).toNat, ((days + 4).fmod 7).toNat⟩

/-- The names of the days of the week. -/
def dayNames : List String :=
  ["Sunday", "Monday", "Tuesday", "Wednesday", "Thursday", "Friday", "Saturday"]

/-- The names of the months. -/
def monthNames : List String :=
  ["January", "February", "March", "April", "May", "June", "July", "August", "September", "October",
    "November", "December"]

/-- The name of the day of the week. -/
def dayName (m : Moment) : String := (dayNames[m.weekDay]?).getD ""

/-- The name of the month. -/
def monthName (m : Moment) : String := (monthNames[m.month - 1]?).getD ""

/-- The week of the year by the standard, in which weeks begin on Mondays and belong to the
    year that most of their days are in, and that year. -/
def standardWeek (m : Moment) : Int × Nat :=
  let day : Int := m.yearDay - 1
  let fromMonday : Int := (m.weekDay + 6) % 7
  -- the Thursday of the same week says which year it is
  let thursday := daysOf m.year 1 1 + day - fromMonday + 3
  let (year, _, _) := dateOf thursday
  (year, ((thursday - daysOf year 1 1) / 7 + 1).toNat)

/-- A text in capitals. -/
def capitals (s : String) : String := String.ofList (s.toList.map Char.toUpper)

/-- How a part of a date is written: in how much space, with what before it, and in which
    letters. -/
structure Layout where
  /-- What fills the space: nothing, a blank or a zero. -/
  filling : Option (Option Char)
  width : Option Nat
  upper : Bool
  swapped : Bool
  colons : Nat

/-- A number in some space. -/
def number (l : Layout) (filling : Char) (width : Nat) (n : Int) : String :=
  let digits := toString n.natAbs
  let sign := if n < 0 then "-" else ""
  let width := l.width.getD width
  match l.filling.getD (some filling) with
  | none => sign ++ digits
  | some c =>
    let gap := String.ofList (List.replicate (width - digits.length - sign.length) c)
    if c = '0' then sign ++ gap ++ digits else gap ++ sign ++ digits

/-- A text in some space. -/
def words (l : Layout) (s : String) : String :=
  let s := if l.upper then capitals s else s
  let gap := (l.width.getD 0) - s.length
  let c := match l.filling with
    | some (some c) => c
    | _ => ' '
  match l.filling with
  | some none => s
  | _ => String.ofList (List.replicate gap c) ++ s

/-- The difference of a zone, with as many colons as given. -/
def difference (zone : Zone) (colons : Nat) : String :=
  let n := zone.ahead.natAbs
  let two (n : Nat) : String := (if n < 10 then "0" else "") ++ toString n
  let sign := if zone.ahead < 0 then "-" else "+"
  match colons with
  | 0 => sign ++ two (n / 3600) ++ two (n / 60 % 60)
  | 1 => sign ++ two (n / 3600) ++ ":" ++ two (n / 60 % 60)
  | 2 => sign ++ two (n / 3600) ++ ":" ++ two (n / 60 % 60) ++ ":" ++ two (n % 60)
  | _ => sign ++ two (n / 3600)

/-- The layout at the beginning of some characters, and what is left. -/
def layout : Layout → List Char → Layout × List Char
  | l, '-' :: cs => layout { l with filling := some none } cs
  | l, '_' :: cs => layout { l with filling := some (some ' ') } cs
  | l, '0' :: cs => layout { l with filling := some (some '0') } cs
  | l, '^' :: cs => layout { l with upper := true } cs
  | l, '#' :: cs => layout { l with swapped := true } cs
  | l, cs =>
    let digits := cs.takeWhile Char.isDigit
    let rest := cs.drop digits.length
    let colons := rest.takeWhile (· = ':')
    let rest := rest.drop colons.length
    let rest := match rest with
      | 'E' :: rest => rest
      | 'O' :: rest => rest
      | rest => rest
    ({ l with width := if digits.isEmpty then none else some (numberOf 10 digits), colons := colons.length }, rest)

/-- The format that a sign in a format is short for. -/
def short? (c : Char) : Option String :=
  match c with
  | 'c' => some "%a %b %e %H:%M:%S %Y"
  | 'D' => some "%m/%d/%y"
  | 'F' => some "%Y-%m-%d"
  | 'r' => some "%I:%M:%S %p"
  | 'R' => some "%H:%M"
  | 'T' => some "%H:%M:%S"
  | 'x' => some "%m/%d/%y"
  | 'X' => some "%H:%M:%S"
  | '+' => some "%a %b %e %H:%M:%S %Z %Y"
  | _ => none

/-- What a sign in a format stands for. -/
def part? (zone : Zone) (nanoseconds : Int) (m : Moment) (l : Layout) (c : Char) : Option String :=
  let hour := if m.hour % 12 = 0 then 12 else m.hour % 12
  let half := if m.hour < 12 then "AM" else "PM"
  let l := if l.swapped && c != 'p' && c != 'Z' then { l with upper := true } else l
  match c with
  | 'a' => some (words l ((dayName m).take 3).toString)
  | 'A' => some (words l (dayName m))
  | 'b' => some (words l ((monthName m).take 3).toString)
  | 'h' => some (words l ((monthName m).take 3).toString)
  | 'B' => some (words l (monthName m))
  | 'C' => some (number l '0' 2 (m.year.fdiv 100))
  | 'd' => some (number l '0' 2 m.day)
  | 'e' => some (number l ' ' 2 m.day)
  | 'g' => some (number l '0' 2 ((standardWeek m).1.fmod 100))
  | 'G' => some (number l '0' 4 (standardWeek m).1)
  | 'H' => some (number l '0' 2 m.hour)
  | 'I' => some (number l '0' 2 hour)
  | 'j' => some (number l '0' 3 m.yearDay)
  | 'k' => some (number l ' ' 2 m.hour)
  | 'l' => some (number l ' ' 2 hour)
  | 'm' => some (number l '0' 2 m.month)
  | 'M' => some (number l '0' 2 m.minute)
  | 'n' => some "\n"
  | 'N' =>
    let digits := toString m.nanosecond
    let all := String.ofList (List.replicate (9 - digits.length) '0') ++ digits
    some ((all.take (l.width.getD 9)).toString)
  | 'p' => some (words l (if l.swapped then String.ofList (half.toList.map Char.toLower) else half))
  | 'P' => some (words l (String.ofList (half.toList.map Char.toLower)))
  | 'q' => some (toString ((m.month - 1) / 3 + 1))
  | 's' => some (number l '0' 1 (nanoseconds.fdiv 1000000000))
  | 'S' => some (number l '0' 2 m.second)
  | 't' => some "\t"
  | 'u' => some (number l '0' 1 (if m.weekDay = 0 then 7 else m.weekDay))
  | 'U' => some (number l '0' 2 ((m.yearDay - 1 + 7 - m.weekDay) / 7))
  | 'V' => some (number l '0' 2 (standardWeek m).2)
  | 'w' => some (number l '0' 1 m.weekDay)
  | 'W' => some (number l '0' 2 ((m.yearDay - 1 + 7 - (m.weekDay + 6) % 7) / 7))
  | 'y' => some (number l '0' 2 (m.year.fmod 100))
  | 'Y' => some (number l '0' 4 m.year)
  | 'z' => some (difference zone l.colons)
  | 'Z' => some (words l (if l.swapped then String.ofList (zone.name.toList.map Char.toLower) else zone.name))
  | '%' => some "%"
  | _ => none

/-- A moment as a format says. With `nested` the format may have signs that are short for others. -/
def writtenAtMost (zone : Zone) (nanoseconds : Int) (m : Moment) : (length : Nat) → List Char → List Char
  | 0, _ => []
  | _ + 1, [] => []
  | n + 1, '%' :: cs =>
    let (l, rest) := layout ⟨none, none, false, false, 0⟩ cs
    match rest with
    | [] => '%' :: cs
    | c :: rest =>
      let text := match short? c with
        | some format =>
          let inner := writtenAtMost zone nanoseconds m n format.toList
          some (words l (String.ofList inner))
        | none => part? zone nanoseconds m l c
      match text with
      | some t => t.toList ++ writtenAtMost zone nanoseconds m n rest
      | none => '%' :: cs.take (cs.length - rest.length) ++ writtenAtMost zone nanoseconds m n rest
  | n + 1, c :: cs => c :: writtenAtMost zone nanoseconds m n cs

/-- A number of nanoseconds as a format says. -/
def written (zone : Zone) (nanoseconds : Int) (format : String) : String :=
  String.ofList (writtenAtMost zone nanoseconds (momentOf zone nanoseconds) (format.length + 32) format.toList)

end Calendar

end Retrace.Unix
