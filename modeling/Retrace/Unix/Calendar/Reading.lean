import Retrace.Unix.Calendar

/-!
# Times as people write them

A time is written in parts, in any order: a date, a time of day, a zone, a day of
the week, and distances such as `2 days ago`. What is not written is taken from
the time now; a date without a time of day is its beginning.
-/

namespace Retrace.Unix.Calendar

/-- What the parts of a time say. -/
structure Written where
  /-- Seconds and nanoseconds from the beginning of 1970. -/
  absolute : Option Int
  date : Option (Int × Int × Int)
  /-- Hours, minutes, seconds and nanoseconds. -/
  time : Option (Int × Int × Int × Int)
  /-- The seconds the clocks are ahead. -/
  zone : Option Int
  /-- A day of the week, and which one of those to come. -/
  weekDay : Option (Int × Nat)
  years : Int
  months : Int
  days : Int
  /-- In nanoseconds. -/
  span : Int
  /-- Whether anything is written that is relative to another time. -/
  isRelative : Bool

namespace Written

/-- Nothing. -/
def nothing : Written := ⟨none, none, none, none, none, 0, 0, 0, 0, false⟩

/-- What a text is made of: numbers with their digits, words and other characters. -/
inductive Token where
  | number (digits : List Char)
  | word (letters : String)
  | sign (c : Char)
deriving DecidableEq

/-- The tokens of a text. -/
def tokens : (length : Nat) → List Char → List Token
  | 0, _ => []
  | _ + 1, [] => []
  | n + 1, c :: cs =>
    if c.isWhitespace then .sign ' ' :: tokens n (cs.dropWhile Char.isWhitespace)
    else if c.isDigit then
      let ds := (c :: cs).takeWhile Char.isDigit
      .number ds :: tokens n ((c :: cs).drop ds.length)
    else if c.isAlpha then
      let ls := (c :: cs).takeWhile fun c => c.isAlpha || c = '.'
      .word (String.ofList ((ls.filter (· != '.')).map Char.toLower)) :: tokens n ((c :: cs).drop ls.length)
    else if c = '(' then tokens n ((cs.dropWhile (· != ')')).drop 1)
    else .sign c :: tokens n cs

/-- The number of a name among others, which may be shortened to three letters. -/
def named? (names : List String) (word : String) : Option Nat :=
  let lower (s : String) : String := String.ofList (s.toList.map Char.toLower)
  names.findIdx? fun n =>
    lower n = word || ((lower n).take 3).toString = word || (lower n = "september" && word = "sept") ||
      (lower n = "tuesday" && word = "tues") || (lower n = "wednesday" && word = "wednes") ||
      (lower n = "thursday" && (word = "thur" || word = "thurs"))

/-- The zones that have names, with the hours their clocks are ahead. -/
def zones : List (String × Int) := [("utc", 0), ("gmt", 0), ("z", 0), ("ut", 0), ("wet", 0), ("west", 1), ("bst", 1),
  ("cet", 1), ("cest", 2), ("met", 1), ("eet", 2), ("eest", 3), ("msk", 3), ("est", -5), ("edt", -4), ("cst", -6),
  ("cdt", -5), ("mst", -7), ("mdt", -6), ("pst", -8), ("pdt", -7), ("jst", 9)]

/-- The words for numbers. -/
def ordinals : List (String × Int) := [("last", -1), ("this", 0), ("next", 1), ("first", 1), ("third", 3),
  ("fourth", 4), ("fifth", 5), ("sixth", 6), ("seventh", 7), ("eighth", 8), ("ninth", 9), ("tenth", 10),
  ("eleventh", 11), ("twelfth", 12)]

/-- Adds so many units of time. -/
def plus (w : Written) (n : Int) (unit : String) : Option Written :=
  let w := { w with isRelative := true }
  let unit := if unit.endsWith "s" && unit.length > 3 then (unit.dropEnd 1).toString else unit
  let seconds (k : Int) : Option Written := some { w with span := w.span + n * k * 1000000000 }
  match unit with
  | "year" => some { w with years := w.years + n }
  | "month" => some { w with months := w.months + n }
  | "fortnight" => some { w with days := w.days + 14 * n }
  | "week" => some { w with days := w.days + 7 * n }
  | "day" => some { w with days := w.days + n }
  | "hour" => seconds 3600
  | "minute" => seconds 60
  | "min" => seconds 60
  | "second" => seconds 1
  | "sec" => seconds 1
  | _ => none

/-- All that is relative, the other way round. -/
def ago (w : Written) : Written :=
  { w with years := -w.years, months := -w.months, days := -w.days, span := -w.span }

/-- The year of some digits. -/
def year (ds : List Char) : Int :=
  let n : Int := numberOf 10 ds
  if ds.length ≤ 2 then (if n < 69 then n + 2000 else n + 1900) else n

/-- The nanoseconds of the digits after a point. -/
def fraction (ds : List Char) : Int :=
  numberOf 10 ((ds ++ List.replicate 9 '0').take 9)

/-- The seconds of a zone, written in hours and minutes. -/
def zoneOf (negative : Bool) (hours minutes : Int) : Int :=
  (if negative then -1 else 1) * (hours * 3600 + minutes * 60)

/-- Sets the date, unless there is one. -/
def withDate (w : Written) (year month day : Int) : Option Written :=
  if w.date.isSome || month < 1 || 12 < month || day < 1 || 31 < day then none
  else some { w with date := some (year, month, day) }

/-- Sets the time of day, unless there is one. -/
def withTime (w : Written) (hour minute second nanosecond : Int) : Option Written :=
  if w.time.isSome || 23 < hour || 59 < minute || 60 < second then none
  else some { w with time := some (hour, minute, second, nanosecond) }

/-- The hour of a clock that has twelve of them. -/
def hourOf? (hour : Int) (half : String) : Option Int :=
  if hour < 1 || 12 < hour then none
  else if half = "am" then some (hour % 12)
  else if half = "pm" then some (hour % 12 + 12)
  else none

/-- Goes on with a zone after a time of day, if there is one. -/
def afterTime (w : Written) (ts : List Token) : Written × List Token :=
  let direction (c : Char) : Bool := c = '+' || c = '-'
  let skipped := if ts.head? = some (.sign ' ') then ts.drop 1 else ts
  match skipped with
  | .sign c :: .number h :: .sign ':' :: .number m :: rest =>
    if direction c && h.length ≤ 2 then
      ({ w with zone := some (zoneOf (c = '-') (numberOf 10 h) (numberOf 10 m)) }, rest)
    else (w, ts)
  | .sign c :: .number h :: rest =>
    let isUnit := match rest with
      | .word _ :: _ => true
      | .sign ' ' :: .word u :: _ => (plus w 1 u).isSome
      | _ => false
    if direction c && !isUnit && h.length ≤ 4 then
      let n : Int := numberOf 10 h
      let seconds := if h.length ≤ 2 then zoneOf (c = '-') n 0 else zoneOf (c = '-') (n / 100) (n % 100)
      ({ w with zone := some seconds }, rest)
    else (w, ts)
  | _ => (w, ts)

/-- What is left once a time of day has been taken. -/
def clockTime (w : Written) (h m s f : Int) (ts : List Token) : Option (Written × List Token) := do
  let skipped := if ts.head? = some (.sign ' ') then ts.drop 1 else ts
  match skipped with
  | .word "am" :: ts => some (← w.withTime (← hourOf? h "am") m s f, ts)
  | .word "pm" :: ts => some (← w.withTime (← hourOf? h "pm") m s f, ts)
  | _ => some (afterTime (← w.withTime h m s f) ts)

/-- Takes the rest of a part that begins with a sign. -/
def signPart (w : Written) : Char → List Token → Option (Written × List Token)
  | ' ', ts => some (w, ts)
  | ',', ts => some (w, ts)
  -- seconds that are counted
  | '@', .sign '-' :: .number ds :: ts =>
    some ({ w with absolute := some (-(numberOf 10 ds : Int) * 1000000000) }, ts)
  | '@', .number ds :: .sign '.' :: .number es :: ts =>
    some ({ w with absolute := some (numberOf 10 ds * 1000000000 + fraction es) }, ts)
  | '@', .number ds :: ts => some ({ w with absolute := some (numberOf 10 ds * 1000000000) }, ts)
  -- distances
  | '-', .number ds :: .sign ' ' :: .word u :: ts => do
    some (← w.plus (-(numberOf 10 ds : Int)) u, ts)
  | '-', .number ds :: .word u :: ts => do some (← w.plus (-(numberOf 10 ds : Int)) u, ts)
  | '+', .sign ' ' :: ts => some (w, .sign '+' :: ts)
  | '-', .sign ' ' :: ts => some (w, .sign '-' :: ts)
  | '+', .number ds :: ts => some (w, .number ds :: ts)
  | _, _ => none

/-- Takes the name of a month after the digits of a day, and the year if there is one. -/
def dayMonth (w : Written) (k : Int) (m : Nat) (ts : List Token) : Option (Written × List Token) := do
  let (y, ts) : Option (List Char) × List Token := match ts with
    | .sign ' ' :: .number ys :: rest =>
      if ys.length = 4 && (rest.head? != some (.sign ':')) then (some ys, rest) else (none, ts)
    | .sign '-' :: .number ys :: rest => (some ys, rest)
    | ts => (none, ts)
  some (← w.withDate ((y.map year).getD 0) (m + 1) k, ts)

/-- The date with another year. -/
def withYear (w : Written) (year : Int) : Written :=
  { w with date := w.date.map fun (_, m, d) => (year, m, d) }

/-- Takes a word after digits. -/
def numbered (w : Written) (ds : List Char) (u : String) (ts : List Token) :
    Option (Written × List Token) := do
  let k : Int := numberOf 10 ds
  match hourOf? k u with
  | some h => some (← w.withTime h 0 0 0, ts)
  | none =>
    match named? monthNames u with
    | some m => dayMonth w k m ts
    | none =>
      if u = "t" && ds.length = 8 then
        some (← w.withDate (k / 10000) (k / 100 % 100) (k % 100), ts)
      else match w.plus k u with
        | some w => some (w, ts)
        | none => if ds.length = 4 && w.date.isSome then some (w.withYear k, .word u :: ts) else none

/-- Takes digits alone: a date, an hour, a year or a time of day. -/
def digits (w : Written) (ds : List Char) : Option Written :=
  let k : Int := numberOf 10 ds
  if ds.length = 8 then w.withDate (k / 10000) (k / 100 % 100) (k % 100)
  else if w.date.isSome && w.time.isNone && ds.length ≤ 2 then w.withTime k 0 0 0
  else if ds.length = 4 && w.date.isSome && w.time.isSome then some (w.withYear k)
  else if ds.length = 4 then w.withTime (k / 100) (k % 100) 0 0
  else if ds.length ≤ 2 then w.withTime k 0 0 0
  else none

/-- Takes the rest of a part that begins with digits. -/
def numberPart (w : Written) (a : List Char) : List Token → Option (Written × List Token)
  -- times of day
  | .sign ':' :: .number m :: .sign ':' :: .number s :: ts =>
    let (f, ts) : Int × List Token := match ts with
      | .sign '.' :: .number es :: ts => (fraction es, ts)
      | .sign ',' :: .number es :: ts => (fraction es, ts)
      | ts => (0, ts)
    clockTime w (numberOf 10 a) (numberOf 10 m) (numberOf 10 s) f ts
  | .sign ':' :: .number m :: ts => clockTime w (numberOf 10 a) (numberOf 10 m) 0 0 ts
  -- dates
  | .sign '-' :: .number b :: .sign '-' :: .number c :: ts => do
    some (← w.withDate (year a) (numberOf 10 b) (numberOf 10 c), ts)
  | .sign '/' :: .number b :: .sign '/' :: .number c :: ts => do
    if a.length ≥ 4 then some (← w.withDate (year a) (numberOf 10 b) (numberOf 10 c), ts)
    else some (← w.withDate (year c) (numberOf 10 a) (numberOf 10 b), ts)
  | .sign '-' :: .word m :: .sign '-' :: .number c :: ts => do
    some (← w.withDate (year c) ((← named? monthNames m) + 1) (numberOf 10 a), ts)
  -- distances
  | .sign ' ' :: .word u :: ts => numbered w a u ts
  | .word u :: ts => numbered w a u ts
  | ts => do some (← w.digits a, ts)

/-- Takes a day after the name of a month, and the year if there is one. -/
def monthDay (w : Written) (m : Nat) (ts : List Token) : Option (Written × List Token) := do
  match ts with
  | .sign ' ' :: .number ds :: rest =>
    let (y, rest') : Option (List Char) × List Token := match rest with
      | .sign ',' :: .sign ' ' :: .number ys :: rest => (some ys, rest)
      | .sign ',' :: .number ys :: rest => (some ys, rest)
      | .sign ' ' :: .number ys :: rest =>
        if ys.length = 4 && rest.head? != some (.sign ':') then (some ys, rest) else (none, .sign ' ' :: .number ys :: rest)
      | rest => (none, rest)
    some (← w.withDate ((y.map year).getD 0) (m + 1) (numberOf 10 ds), rest')
  | _ => none

/-- Takes the rest of a part that begins with a word which does not stand for itself. -/
def namePart (w : Written) (u : String) (ts : List Token) : Option (Written × List Token) := do
  match ordinals.lookup u, ts with
  | some k, .sign ' ' :: .word v :: rest =>
    match named? dayNames v with
    | some d => some ({ w with weekDay := some (k, d) }, rest)
    | none => some (← w.plus k v, rest)
  | _, _ =>
    match named? monthNames u with
    | some m => monthDay w m ts
    | none =>
      match named? dayNames u with
      | some d => some ({ w with weekDay := some (0, d) }, ts)
      | none =>
        match zones.lookup u with
        | some z => some (afterTime { w with zone := some (z * 3600) } ts)
        | none => some (← w.plus 1 u, ts)

/-- Takes the rest of a part that begins with a word. -/
def wordPart (w : Written) (u : String) (ts : List Token) : Option (Written × List Token) := do
  match u with
  | "now" => some ({ w with isRelative := true }, ts)
  | "today" => some ({ w with isRelative := true }, ts)
  | "yesterday" => some ({ w with days := w.days - 1, isRelative := true }, ts)
  | "tomorrow" => some ({ w with days := w.days + 1, isRelative := true }, ts)
  | "noon" => some (← w.withTime 12 0 0 0, ts)
  | "midnight" => some (← w.withTime 0 0 0 0, ts)
  | "ago" => some (w.ago, ts)
  | "t" => some (w, ts)
  | "dst" => some (w, ts)
  | u => namePart w u ts

/-- Goes through the parts of a time. -/
def parts : (fuel : Nat) → Written → List Token → Option Written
  | 0, _, _ => none
  | _ + 1, w, [] => some w
  | n + 1, w, t :: ts => do
    let (w, ts) ← match t with
      | .sign c => signPart w c ts
      | .number ds => numberPart w ds ts
      | .word u => wordPart w u ts
    parts n w ts

/-- The nanoseconds from the beginning of 1970 that are meant. -/
def resolved (zone : Zone) (now : Int) (w : Written) : Option Int :=
  match w.absolute with
  | some t => some (t + w.days * 86400000000000 + w.span)
  | none =>
    let ahead := w.zone.getD zone.ahead
    let m := momentOf ⟨"", ahead⟩ now
    let (year, month, day) : Int × Int × Int := match w.date with
      | some (0, month, day) => (m.year, month, day)
      | some d => d
      | none => (m.year, m.month, m.day)
    let begins := w.date.isSome || w.weekDay.isSome
    let (hour, minute, second, nanosecond) : Int × Int × Int × Int := match w.time with
      | some t => t
      | none => if begins then (0, 0, 0, 0) else (m.hour, m.minute, m.second, m.nanosecond)
    let longest : Int := match month with
      | 2 => if (year % 4 = 0 && year % 100 != 0) || year % 400 = 0 then 29 else 28
      | 4 => 30
      | 6 => 30
      | 9 => 30
      | 11 => 30
      | _ => 31
    if longest < day then none
    else
      let months := (year + w.years) * 12 + (month - 1) + w.months
      let days := daysOf (months.fdiv 12) (months.fmod 12 + 1) 1 + (day - 1) + w.days
      let days := match w.weekDay with
        | some (k, d) =>
          let today := (days + 4).fmod 7
          let next := ((d : Int) - today).fmod 7
          days + next + 7 * (if 0 < k && today != d then k - 1 else k)
        | none => days
      some ((days * 86400 + hour * 3600 + minute * 60 + second - ahead) * 1000000000 + nanosecond + w.span)

end Written

/-- The nanoseconds that a text means. -/
def read? (zone : Zone) (now : Int) (s : String) : Option Int := do
  let ts := Written.tokens (s.length + 1) s.toList
  (← Written.parts (2 * ts.length + 4) .nothing
    (if ts.isEmpty || ts = [.sign ' '] then [.word "today", .word "midnight"] else ts)).resolved zone now

/-- The nanoseconds that the digits of a date and a time of day mean. -/
def ofDigits? (zone : Zone) (now : Int) (s : String) : Option Int := do
  let (main, seconds) ← match s.splitOn "." with
    | [a] => some (a, 0)
    | [a, b] => if b.length = 2 && b.toList.all Char.isDigit then some (a, numberOf 10 b.toList) else none
    | _ => none
  let ds := main.toList
  if !(ds.all Char.isDigit) then none
  else
    let (years, rest) ← match ds.length with
      | 8 => some ([], ds)
      | 10 => some (ds.take 2, ds.drop 2)
      | 12 => some (ds.take 4, ds.drop 4)
      | _ => none
    let part (k : Nat) : Int := numberOf 10 ((rest.drop (2 * k)).take 2)
    let year := if years.isEmpty then (momentOf zone now).year else Written.year years
    if part 0 < 1 || 12 < part 0 || part 1 < 1 || 31 < part 1 || 23 < part 2 || 59 < part 3 then none
    else some ((secondsOf year (part 0) (part 1) (part 2) (part 3) seconds - zone.ahead) * 1000000000)

end Retrace.Unix.Calendar
