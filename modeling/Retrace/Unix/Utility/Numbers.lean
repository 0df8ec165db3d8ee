import Retrace.Unix.Utility.Options

/-!
# Numbers

What prints numbers one after the other, the prime factors of numbers, or
numbers with units.
-/

namespace Retrace.Unix.Utility

/-- What times are told by in formats. -/
def clock (s : State) : Format.Clock :=
  ⟨Calendar.Zone.of (((s.parameters.lookup "TZ").bind fun v => v.items.lookup "0").getD ""), s.files.now, s.started⟩

/-! ### One number after the other -/

/-- A number with places after its point: a multiple of the last place. -/
structure Placed where
  multiple : Int
  places : Nat

namespace Placed

/-- Reads a number with or without an exponent. -/
def read? (s : String) : Option Placed :=
  let negative := s.startsWith "-"
  let body := s.toList.drop (if negative || s.startsWith "+" then 1 else 0)
  let (whole, after, rest) := Quantity.digits 10 body
  let (e, rest) := Quantity.exponent 'e' rest
  if (whole.isEmpty && after.isEmpty) || !rest.isEmpty then none
  else
    let e := max (min e 400) (-400)
    let n : Int := numberOf 10 (whole ++ after)
    let places := (after.length : Int) - e
    let n := if places < 0 then n * Nat.pow 10 (-places).toNat else n
    some ⟨if negative then -n else n, places.toNat⟩

/-- The number as a multiple of another place. -/
def scaled (p : Placed) (places : Nat) : Int := p.multiple * Nat.pow 10 (places - p.places)

/-- The text of a multiple of a place. -/
def text (places : Nat) (n : Int) : String :=
  (if n < 0 then "-" else "") ++ Fraction.fixed places false ⟨false, n.natAbs, Nat.pow 10 places⟩

end Placed

/-- What is wrong with a format for numbers. -/
def numberFormatFault? (format : String) : Option String :=
  let shown := Quoting.curly format
  let rec directives : List Char → Option (List Char)
    | [] => none
    | '%' :: '%' :: cs => directives cs
    | '%' :: cs => some cs
    | _ :: cs => directives cs
  match directives format.toList with
  | none => some ("format " ++ shown ++ " has no % directive")
  | some cs =>
    let cs := cs.dropWhile fun c => "-+#0 '".toList.contains c
    let cs := cs.dropWhile Char.isDigit
    let cs := match cs with
      | '.' :: ds => ds.dropWhile Char.isDigit
      | cs => cs
    let cs := if cs.head? = some 'L' then cs.drop 1 else cs
    match cs with
    | [] => some ("format " ++ shown ++ " ends in %")
    | c :: rest =>
      if !"efgaEFGA".toList.contains c then
        some ("format " ++ shown ++ " has unknown %" ++ String.singleton c ++ " directive")
      else if (directives rest).isSome then some ("format " ++ shown ++ " has too many % directives")
      else none

/-- Prints numbers from one on, `count` of them, with a text between them. -/
def printNumbers (show' : Int → String) (separator : String) (step : Int) : (blocks count : Nat) → (first : Int) →
    Sh Unit
  | 0, _, _ => Sh.print "\n"
  | n + 1, count, a => do
    let now := min count 1000
    let texts := (List.range now).map fun k => show' (a + step * (k : Nat))
    Sh.print (separator.intercalate texts ++ if now < count then separator else "")
    printNumbers show' separator step n (count - now) (a + step * now)

/-- Prints the numbers from one to another. -/
def seq : Utility := fun _ name args => do
  let isNumber (s : String) : Bool :=
    match s.toList with
    | '-' :: c :: _ => c.isDigit || c = '.'
    | _ => false
  let optionCount :=
    let rec go : List String → Nat
      | [] => 0
      | a :: rest =>
        if isNumber a || !a.startsWith "-" || a = "-" then 0
        else if a = "-s" || a = "-f" || a = "--separator" || a = "--format" then
          match rest with
          | _ :: rest => go rest + 2
          | [] => 1
        else if a = "--" then 0
        else go rest + 1
    go args
  let args := if (args[optionCount]?).all (· = "--") then args
    else args.take optionCount ++ "--" :: args.drop optionCount
  withOptions { letters := "w", valued := "sf", words := [("equal-width", 'w'), ("format", 'f'), ("separator", 's')] }
    false 1 name args fun o => do
    match o.operands with
    | [] => missingOperand name none
    | _ :: _ :: _ :: extra :: _ => extraOperand name extra
    | operands =>
      let fault (s : String) : Option String :=
        match Quantity.read? s.toList with
        | some (.undefined _, []) => some ("invalid " ++ Quoting.curly "not-a-number" ++ " argument: " ++ Quoting.curly s)
        | some (_, []) => none
        | _ => some ("invalid floating point argument: " ++ Quoting.curly s)
      match (o.value? 'f').bind numberFormatFault?, operands.findSome? fault with
      | some m, _ => fail name m 1
      | none, some m => misused name m 1
      | none, none =>
        let infinite : Placed := ⟨Nat.pow 10 30, 0⟩
        let number (s : String) : Placed :=
          match Placed.read? s with
          | some p => p
          | none =>
            match Quantity.read? s.toList with
            | some (.infinite true, _) => { infinite with multiple := -infinite.multiple }
            | some (.finite f, _) =>
              ⟨(if f.negative then -1 else 1) * ((f.numerator / f.denominator : Nat) : Int), 0⟩
            | _ => infinite
        let one : Placed := ⟨1, 0⟩
        let (first, step, last) := match operands.map number with
          | [a] => (one, one, a)
          | [a, b] => (a, one, b)
          | [a, s, b] => (a, s, b)
          | _ => (one, one, one)
        if step.multiple = 0 then
          misused name ("invalid Zero increment value: " ++ Quoting.curly ((operands.drop 1).headD "")) 1
        else if o.has 'f' && o.has 'w' then
          misused name "format string may not be specified when printing equal width strings" 1
        else
          let shownPlaces := max first.places step.places
          let places := max shownPlaces last.places
          let a := first.scaled places
          let s := step.scaled places
          let b := last.scaled places
          let count := if 0 < s then (if b < a then 0 else ((b - a) / s).toNat + 1)
            else if a < b then 0 else ((a - b) / (-s)).toNat + 1
          let text (v : Int) : String := Placed.text shownPlaces (v / Nat.pow 10 (places - shownPlaces))
          let width := max (text a).length (text (if shownPlaces < last.places then b else last.scaled places)).length
          let now ← Sh.ask clock
          let show' : Int → String := match o.value? 'f' with
            | some f => fun v => (Format.print .program now f [text v]).text
            | none =>
              if o.has 'w' then fun v =>
                let t := text v
                if t.startsWith "-" then "-" ++ Fraction.zeroPadded (width - 1) (t.drop 1).toString
                else Fraction.zeroPadded width t
              else text
          if count = 0 then return 0
          else
            printNumbers show' ((o.value? 's').getD "\n") s ((count + 999) / 1000) count a
            refusedAtEnd name 0

/-! ### Prime factors -/

/-- A power of a number, reduced by a modulus. -/
def powerMod (m : Nat) : (bits : Nat) → (base exponent : Nat) → Nat
  | 0, _, _ => 1 % m
  | n + 1, b, e =>
    let half := powerMod m n (b * b % m) (e / 2)
    if e % 2 = 1 then half * b % m else half

/-- Whether a base shows that an odd number is not prime. -/
def isWitness (n a : Nat) : Bool :=
  let rec twos : (fuel : Nat) → Nat → Nat
    | 0, _ => 0
    | k + 1, m => if m % 2 = 0 then twos k (m / 2) + 1 else 0
  let s := twos (Nat.log2 n + 1) (n - 1)
  let x := powerMod n (Nat.log2 n + 2) a ((n - 1) / Nat.pow 2 s)
  let rec squares : Nat → Nat → Bool
    | 0, _ => false
    | k + 1, x => x = n - 1 || squares k (x * x % n)
  !(x = 1 || squares s x)

/-- Whether a number is prime. -/
def isPrime (n : Nat) : Bool :=
  let small := [2, 3, 5, 7, 11, 13, 17, 19, 23, 29, 31, 37]
  if n < 2 then false
  else if small.contains n then true
  else if small.any fun p => n % p = 0 then false
  else !(small.any (isWitness n))

/-- A factor of a number that is not prime, looked for along a path of numbers. -/
def factorOf (n c : Nat) : (fuel : Nat) → (slow fast : Nat) → Option Nat
  | 0, _, _ => none
  | k + 1, slow, fast =>
    let next (x : Nat) : Nat := (x * x + c) % n
    let slow := next slow
    let fast := next (next fast)
    let d := Nat.gcd (slow - fast + (fast - slow)) n
    if d = n then none
    else if 1 < d then some d
    else factorOf n c k slow fast

/-- The prime factors of a number without small ones. -/
def largeFactors : (fuel : Nat) → Nat → List Nat
  | 0, n => [n]
  | k + 1, n =>
    if n = 1 then []
    else if isPrime n then [n]
    else match (List.range 20).findSome? fun c => factorOf n (c + 1) 200000 2 2 with
      | some d => largeFactors k d ++ largeFactors k (n / d)
      | none => [n]

/-- The factors of a number that are no greater than some number; and what is left. -/
def smallFactors : (fuel : Nat) → (d n : Nat) → List Nat × Nat
  | 0, _, n => ([], n)
  | k + 1, d, n =>
    if n < d * d then if 1 < n then ([n], 1) else ([], 1)
    else if n % d = 0 then
      let (fs, rest) := smallFactors k d (n / d)
      (d :: fs, rest)
    else smallFactors k (d + 1) n

/-- The prime factors of a number. -/
def primeFactors (n : Nat) : List Nat :=
  let (small, rest) := smallFactors 2000 2 n
  small ++ (largeFactors (Nat.log2 n + 1) rest).mergeSort (· ≤ ·)

/-- Prints the prime factors of numbers. -/
def factor : Utility := fun _ name args =>
  withOptions { letters := "h", words := [("exponents", 'h')] } true 1 name args fun o => do
    let line (word : String) : Sh Nat := do
      let body := (if word.startsWith "+" then word.drop 1 else word.drop 0).toString
      match natural? body with
      | some n =>
        if n = 0 then
          Sh.print "0:\n"
          return 0
        else
          let fs := primeFactors n
          let shown := if o.has 'h' then
              fs.eraseDups.map fun p =>
                let k := (fs.filter (· = p)).length
                toString p ++ if k = 1 then "" else "^" ++ toString k
            else fs.map toString
          Sh.print (toString n ++ ":" ++ String.join (shown.map (" " ++ ·)) ++ "\n")
          return 0
      | none => fail name (Quoting.curly word ++ " is not a valid positive integer") 1
    if !o.operands.isEmpty then refusedAtEnd name (← Sh.worst o.operands line)
    else
      match ← flow "-" with
      | .error r => fail name ("error reading input: " ++ r.reason) 1
      | .ok (text, more) =>
        let status ← Sh.worst ((text.toList.splitOnP Char.isWhitespace).filter (· != [])) fun w => line (String.ofList w)
        if more then Sh.wantMore else refusedAtEnd name status

/-! ### Units -/

/-- What units there are after numbers. -/
inductive Units where
  | none | auto | decimal | binary | binaryMarked
deriving DecidableEq

namespace Units

/-- The units of a name. -/
def ofText? : String → Option Units
  | "none" => some .none
  | "auto" => some .auto
  | "si" => some .decimal
  | "iec" => some .binary
  | "iec-i" => some .binaryMarked
  | _ => Option.none

/-- What a unit is more than the one before it. -/
def base : Units → Nat
  | binary => 1024
  | binaryMarked => 1024
  | _ => 1000

/-- The letters of units. -/
def letters : List Char := "KMGTPEZYRQ".toList

end Units

/-- How a number is rounded to a whole one. -/
inductive RoundingWay where
  | up | down | awayFromZero | towardsZero | nearest

/-- A number rounded to a whole one. -/
def RoundingWay.apply (way : RoundingWay) (f : Fraction) : Fraction :=
  let low := f.numerator / f.denominator
  let high := (f.numerator + f.denominator - 1) / f.denominator
  let n := match way with
    | up => if f.negative then low else high
    | down => if f.negative then high else low
    | awayFromZero => high
    | towardsZero => low
    | nearest => (2 * f.numerator + f.denominator) / (2 * f.denominator)
  ⟨f.negative, n, 1⟩

/-- How numbers with units are read and printed. -/
structure UnitStyle where
  source : Units
  target : Units
  sourceUnit : Nat
  targetUnit : Nat
  rounding : RoundingWay
  /-- The digits after the point, if that is said. -/
  places : Option Nat
  /-- What follows numbers. -/
  ending : String

namespace UnitStyle

/-- Reads a number with a unit: it, and the digits after its point. -/
def read (st : UnitStyle) (s : String) : Except String (Fraction × Nat) :=
  let s' := if st.ending != "" && s.endsWith st.ending then (s.dropEnd st.ending.length).toString else s
  let cs := s'.toList.dropWhile isBlank
  let negative := cs.head? = some '-'
  let (whole, after, rest) := Quantity.digits 10 (if negative then cs.drop 1 else cs)
  let n : Fraction := ⟨negative, numberOf 10 (whole ++ after), Nat.pow 10 after.length⟩
  let scaled (base power : Nat) : Fraction := { n with numerator := n.numerator * Nat.pow base power }
  let shown := Quoting.curly s
  if whole.isEmpty && after.isEmpty then .error ("invalid number: " ++ shown)
  else match rest.dropWhile isBlank with
    | [] => .ok (n, after.length)
    | c :: more =>
      let c := if c = 'k' then 'K' else c
      match Units.letters.idxOf? c with
      | Option.none => .error ("invalid suffix in input: " ++ shown)
      | some k =>
        match st.source, more with
        | .none, _ => .error ("rejecting suffix in input: " ++ shown ++ " (consider using --from)")
        | .binaryMarked, ['i'] => .ok (scaled 1024 (k + 1), 0)
        | .binaryMarked, _ => .error ("missing 'i' suffix in input: " ++ shown ++ " (e.g Ki/Mi/Gi)")
        | .auto, ['i'] => .ok (scaled 1024 (k + 1), 0)
        | units, [] => .ok (scaled units.base (k + 1), 0)
        | _, _ => .error ("invalid suffix in input " ++ shown ++ ": " ++ Quoting.curly (String.ofList more))

/-- Divides a number by a base as long as it is not less than that, and counts that. -/
def reduced (base : Nat) : (fuel : Nat) → Fraction → Fraction × Nat
  | 0, f => (f, 0)
  | n + 1, f =>
    if f.denominator * base ≤ f.numerator then
      let (g, k) := reduced base n { f with denominator := f.denominator * base }
      (g, k + 1)
    else (f, 0)

/-- A number with a unit, if units are wanted. -/
def shown (st : UnitStyle) (f : Fraction) (places : Nat) : String :=
  let f : Fraction := ⟨f.negative, f.numerator * st.sourceUnit, f.denominator * st.targetUnit⟩
  let times (f : Fraction) (p : Nat) : Fraction := { f with numerator := f.numerator * Nat.pow 10 p }
  let rounded (f : Fraction) (p : Nat) : Fraction :=
    let g := st.rounding.apply (times f p)
    { g with denominator := g.denominator * Nat.pow 10 p }
  let signed (f : Fraction) (s : String) : String := if f.negative && f.numerator != 0 then "-" ++ s else s
  match st.target with
  | .none =>
    let p := st.places.getD places
    let g := rounded f p
    signed g (Fraction.fixed p false g) ++ st.ending
  | units =>
    let (g, power) := reduced units.base 11 f
    let adjust := match st.places with
      | some p => min (power * 3) p
      | Option.none => if g.numerator < 10 * g.denominator then 1 else 0
    let g := rounded g adjust
    let (g, power) := if g.denominator * units.base ≤ g.numerator then
        ({ g with denominator := g.denominator * units.base }, power + 1)
      else (g, power)
    let p := match st.places with
      | some p => p
      | Option.none => if g.numerator != 0 && g.numerator < 10 * g.denominator && power > 0 then 1 else 0
    let unit := if power = 0 then "" else String.ofList ((Units.letters[power - 1]?).toList)
    signed g (Fraction.fixed p false g) ++ unit ++
      (if units = .binaryMarked && power > 0 then "i" else "") ++ st.ending

end UnitStyle

/-- A format for numbers with units: what comes before it, its width and flags, and what comes after. -/
structure UnitFormat where
  before : String
  after : String
  width : Nat
  left : Bool
  zeros : Bool
  places : Option Nat

/-- Reads a format for numbers with units. -/
def UnitFormat.read (s : String) : Except String UnitFormat :=
  let cs := s.toList
  let before := cs.takeWhile (· != '%')
  match cs.drop before.length with
  | [] => .error ("format " ++ Quoting.curly s ++ " has no % directive")
  | _ :: rest =>
    let flags := rest.takeWhile fun c => "-0 '".toList.contains c
    let rest := rest.drop flags.length
    let ds := rest.takeWhile Char.isDigit
    let rest := rest.drop ds.length
    let (places, rest) := match rest with
      | '.' :: more =>
        let es := more.takeWhile Char.isDigit
        (some (numberOf 10 es), more.drop es.length)
      | rest => (none, rest)
    match rest with
    | [] => .error ("format " ++ Quoting.curly s ++ " ends in %")
    | 'f' :: after =>
      if after.contains '%' then .error ("format " ++ Quoting.curly s ++ " has too many % directives")
      else .ok ⟨String.ofList before, String.ofList after, numberOf 10 ds, flags.contains '-', flags.contains '0', places⟩
    | _ => .error ("invalid format " ++ Quoting.curly s ++ ", directive must be %[0]['][-][N][.][N]f")

/-- A column of a line: its number, the blanks before it, and what is in it. -/
structure Column where
  number : Nat
  blanks : String
  text : String

/-- The columns of a line, which are separated by a text or by blanks. -/
def columnsOf (delimiter : Option String) (l : String) : List Column :=
  match delimiter with
  | some d => (l.splitOn d).zipIdx.map fun (t, i) => ⟨i + 1, "", t⟩
  | none =>
    let rec go (k : Nat) : (fuel : Nat) → List Char → List Column
      | 0, _ => []
      | n + 1, cs =>
        if cs.isEmpty then []
        else
          let blanks := cs.takeWhile isBlank
          let word := (cs.drop blanks.length).takeWhile fun c => !isBlank c
          ⟨k, String.ofList blanks, String.ofList word⟩ :: go (k + 1) n (cs.drop (blanks.length + word.length))
    go 1 (l.length + 1) l.toList

/-- How the columns of lines are changed in which there are numbers with units. -/
structure UnitLines where
  style : UnitStyle
  format : Option UnitFormat
  /-- The space that numbers are given, to their left if it is not less than zero. -/
  space : Option Int
  delimiter : Option String
  fields : List (Nat × Option Nat)

namespace UnitLines

/-- A column with the number in it changed, or what is wrong with it. -/
def column (u : UnitLines) (c : Column) : Except String String := do
  let isWanted := u.fields.any fun (a, b) => a ≤ c.number && b.all (c.number ≤ ·)
  if !isWanted then return c.blanks ++ c.text
  let (f, places) ← u.style.read c.text
  let s := u.style.shown f places
  -- numbers after several blanks stay where they end
  let inner := c.number > 1
  let aligned := u.delimiter.isNone && (if inner then c.blanks.length > 1 else c.blanks != "")
  let lead := if aligned then (if inner then " " else "") else c.blanks
  let width := if aligned then c.blanks.length + c.text.length - lead.length else 0
  let s := match u.space with
    | some w =>
      if u.format.any (·.zeros) && 0 < w then Fraction.zeroPadded w.natAbs s else Format.padded w.natAbs (w < 0) s
    | none => Format.padded width false s
  return lead ++ match u.format with
    | some f => f.before ++ s ++ f.after
    | none => s

/-- A line with the numbers in it changed, and the first thing that is wrong with them. -/
def line (u : UnitLines) (l : String) : String × Option String :=
  let parts := (columnsOf u.delimiter l).map fun c =>
    match u.column c with
    | .ok t => (t, none)
    | .error m => (c.blanks ++ c.text, some m)
  ((u.delimiter.getD "").intercalate (parts.map (·.1)), parts.findSome? (·.2))

/-- Prints lines with the numbers in them changed. -/
def print (u : UnitLines) (name mode finish : String) (status : Nat) : List String → Sh Nat
  | [] => return status
  | l :: ls => do
    match u.line l with
    | (t, none) =>
      Sh.print (t ++ finish)
      print u name mode finish status ls
    | (t, some m) =>
      if mode != "ignore" then tell name m
      if mode = "abort" then return 2
      Sh.print (t ++ finish)
      print u name mode finish (if mode = "fail" then 2 else status) ls

end UnitLines

/-- The size of a unit, in digits with a letter. -/
def unitSize? (s : String) : Option Nat :=
  let ds := s.toList.takeWhile Char.isDigit
  let n := if ds.isEmpty then 1 else numberOf 10 ds
  match s.toList.drop ds.length with
  | [] => natural? s
  | [u] => (Units.letters.idxOf? u).map fun k => n * Nat.pow 1000 (k + 1)
  | [u, 'i'] => (Units.letters.idxOf? u).map fun k => n * Nat.pow 1024 (k + 1)
  | _ => none

/-- The ways to round, by their names. -/
def roundingWays : List (String × RoundingWay) :=
  [("up", .up), ("down", .down), ("from-zero", .awayFromZero), ("towards-zero", .towardsZero), ("nearest", .nearest)]

/-- The numbers of columns in a list. -/
def columnNumbers (s : String) : Except String (List (Nat × Option Nat)) :=
  if s = "-" then .ok [(1, none)]
  else (s.splitOn ",").mapM fun t =>
    match t.splitOn "-" with
    | [a] => match natural? a with
      | some n => .ok (n, some n)
      | none => .error ("invalid field value " ++ Quoting.curly a)
    | [a, b] => .ok ((natural? a).getD 1, natural? b)
    | _ => .error "invalid field range"

/-- What options ask for: how numbers with units are printed, or what is wrong with the options. -/
def unitLines (o : Options) : Except String UnitLines := do
  let unit (c : Char) : Except String Nat :=
    match o.value? c with
    | none => return 1
    | some s => match unitSize? s with
      | some n => return n
      | none => throw ("invalid unit size: " ++ Quoting.curly s)
  let sourceUnit ← unit 'F'
  let targetUnit ← unit 'T'
  let padding : Option Int ← match o.value? 'p' with
    | none => pure none
    | some s => match s.toInt? with
      | some n => pure (some n)
      | none => throw ("invalid padding value " ++ Quoting.curly s)
  let format : Option UnitFormat ← match o.value? 'u' with
    | some s => do pure (some (← UnitFormat.read s))
    | none => pure none
  let space : Option Int := match format with
    | some f => if f.width = 0 then none else some (if f.left then -(f.width : Int) else f.width)
    | none => padding
  return {
    style := {
      source := ((o.value? 'f').bind Units.ofText?).getD .none
      target := ((o.value? 't').bind Units.ofText?).getD .none
      sourceUnit := sourceUnit
      targetUnit := targetUnit
      rounding := ((o.value? 'r').bind fun v => roundingWays.lookup v).getD .awayFromZero
      places := format.bind (·.places)
      ending := (o.value? 's').getD "" }
    format := format
    space := space
    delimiter := o.value? 'd'
    fields := [(1, some 1)] }

/-- Prints numbers with other units. -/
def numfmt : Utility := fun _ name args =>
  withOptions { letters := "z", valued := "dftFTpsriux", optional := "h", wordly := "ftFTpsriuhgx", words := [
      ("from", 'f'), ("from-unit", 'F'), ("to", 't'), ("to-unit", 'T'), ("round", 'r'), ("padding", 'p'),
      ("suffix", 's'), ("grouping", 'g'), ("delimiter", 'd'), ("field", 'i'), ("header", 'h'), ("format", 'u'),
      ("invalid", 'x'), ("zero-terminated", 'z')] } true 1 name args fun o => do
    let choices : List (Char × String × List String) := [
      ('f', "--from", ["none", "auto", "si", "iec", "iec-i"]), ('t', "--to", ["none", "si", "iec", "iec-i"]),
      ('r', "--round", roundingWays.map (·.1)), ('x', "--invalid", ["abort", "fail", "warn", "ignore"])]
    match choices.find? fun (c, _, valid) => (o.value? c).any fun v => !valid.contains v with
    | some (c, option, valid) => invalidChoice name option ((o.value? c).getD "") valid
    | none =>
      match unitLines o, columnNumbers ((o.value? 'i').getD "1") with
      | .error m, _ => fail name m 1
      | _, .error m => misused name m 1
      | .ok u, .ok fields =>
        let u := { u with fields := fields }
        let mode := (o.value? 'x').getD "abort"
        let finish := if o.has 'z' then "\x00" else "\n"
        if !o.operands.isEmpty then refusedAtEnd name (← u.print name mode finish 0 o.operands)
        else
          match ← Sh.contents "-" with
          | .error r => fail name ("error reading input: " ++ r.reason) 1
          | .ok text =>
            let header := match o.value? 'h' with
              | some "" => 1
              | some s => (natural? s).getD 1
              | none => 0
            let ls := piecesOf (if o.has 'z' then '\x00' else '\n') text
            Sh.print (String.join ((ls.take header).map (· ++ finish)))
            refusedAtEnd name (← u.print name mode finish 0 (ls.drop header))

end Retrace.Unix.Utility
