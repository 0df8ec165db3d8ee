import Retrace.Unix.Characters

/-!
# Numbers with a fraction

Numbers as they are written with a point or an exponent, also in base 16, and
what takes their place where there is none. They are calculated with exactly and
are then rounded: to the precision of a machine's numbers, and to the digits
that are asked for.
-/

namespace Retrace.Unix

/-- A number with a fraction. -/
structure Fraction where
  negative : Bool
  numerator : Nat
  denominator : Nat

/-- A number, or what is none. -/
inductive Quantity where
  | finite (f : Fraction)
  | infinite (negative : Bool)
  | undefined (negative : Bool)

/-- How numbers are kept. -/
structure Precision where
  /-- The number of binary digits. -/
  bits : Nat
  /-- Numbers are less than two to this power. -/
  most : Nat
  /-- The last digit is worth at least two to this power, negated. -/
  least : Nat
  /-- The number of binary digits before the point, where numbers are written in base 16. -/
  lead : Nat

namespace Precision

/-- Numbers of 64 bits. -/
def double : Precision := ⟨53, 1024, 1074, 1⟩

/-- Numbers of 80 bits. -/
def extended : Precision := ⟨64, 16384, 16445, 4⟩

end Precision

/-- A quotient rounded to the nearest number, to an even one if there are two. -/
def roundedQuotient (n d : Nat) : Nat :=
  let q := n / d
  let r := 2 * (n % d)
  if d < r || (r = d && q % 2 = 1) then q + 1 else q

namespace Fraction

/-- Zero. -/
def zero : Fraction := ⟨false, 0, 1⟩

/-- A whole number. -/
def ofInt (n : Int) : Fraction := ⟨n < 0, n.natAbs, 1⟩

/-- The exponent of two of the first binary digit, or one more than that. -/
def magnitude (f : Fraction) : Int :=
  let guess : Int := Nat.log2 f.numerator - Nat.log2 f.denominator
  let atLeast (e : Int) : Bool := f.denominator * Nat.pow 2 e.toNat ≤ f.numerator * Nat.pow 2 (-e).toNat
  if atLeast guess then guess else guess - 1

/-- The sum of two numbers. -/
def add (a b : Fraction) : Fraction :=
  let value (f : Fraction) : Int := if f.negative then -f.numerator else f.numerator
  let n := value a * b.denominator + value b * a.denominator
  ⟨n < 0, n.natAbs, a.denominator * b.denominator⟩

/-- The product of two numbers. -/
def mul (a b : Fraction) : Fraction :=
  ⟨a.negative != b.negative, a.numerator * b.numerator, a.denominator * b.denominator⟩

/-- Whether a number is less than another one. -/
def less (a b : Fraction) : Bool :=
  let value (f : Fraction) (by' : Nat) : Int :=
    if f.negative then -((f.numerator * by' : Nat) : Int) else (f.numerator * by' : Nat)
  value a b.denominator < value b a.denominator

end Fraction

namespace Quantity

/-! ### Reading -/

/-- Whether some characters begin with a word, in whatever letters. -/
def beginsWith (word : String) (cs : List Char) : Bool :=
  (cs.take word.length).map Char.toLower = word.toList

/-- The digits of a number before and after its point, and what is left. -/
def digits (base : Nat) (cs : List Char) : List Char × List Char × List Char :=
  let isDigit (c : Char) : Bool := (digitValue? base c).isSome
  let before := cs.takeWhile isDigit
  match cs.drop before.length with
  | '.' :: ds =>
    let after := ds.takeWhile isDigit
    if before.isEmpty && after.isEmpty then ([], [], cs) else (before, after, ds.drop after.length)
  | rest => (before, [], rest)

/-- The greatest exponent that is told from others. -/
def mostExponent : Nat := 20000

/-- An exponent after a letter, and what is left. -/
def exponent (letter : Char) (cs : List Char) : Int × List Char :=
  match cs with
  | e :: ds =>
    if e.toLower = letter then
      let minus := ds.head? = some '-'
      let ds := if minus || ds.head? = some '+' then ds.drop 1 else ds
      let digits := ds.takeWhile Char.isDigit
      let n : Int := min (numberOf 10 digits) mostExponent
      if digits.isEmpty then (0, cs) else (if minus then -n else n, ds.drop digits.length)
    else (0, cs)
  | [] => (0, cs)

/-- A number without its sign at the beginning of some characters, and what is left. -/
def unsigned? (negative : Bool) (cs : List Char) : Option (Quantity × List Char) :=
  if beginsWith "infinity" cs then some (.infinite negative, cs.drop 8)
  else if beginsWith "inf" cs then some (.infinite negative, cs.drop 3)
  else if beginsWith "nan" cs then
    let rest := cs.drop 3
    match rest with
    | '(' :: more =>
      let inner := more.takeWhile continuesName
      match more.drop inner.length with
      | ')' :: rest => some (.undefined negative, rest)
      | _ => some (.undefined negative, rest)
    | rest => some (.undefined negative, rest)
  else
    let hex := match cs with
      | '0' :: x :: rest =>
        let (before, after, more) := digits 16 rest
        if (x = 'x' || x = 'X') && !(before.isEmpty && after.isEmpty) then some (before, after, more) else none
      | _ => none
    match hex with
    | some (before, after, rest) =>
      let (e, rest) := exponent 'p' rest
      let shift := e - 4 * after.length
      some (.finite ⟨negative, numberOf 16 (before ++ after) * Nat.pow 2 shift.toNat, Nat.pow 2 (-shift).toNat⟩, rest)
    | none =>
      let (before, after, rest) := digits 10 cs
      if before.isEmpty && after.isEmpty then none
      else
        let (e, rest) := exponent 'e' rest
        let n := numberOf 10 (before ++ after)
        let shift := e - after.length
        if n = 0 then some (.finite ⟨negative, 0, 1⟩, rest)
        else some (.finite ⟨negative, n * Nat.pow 10 shift.toNat, Nat.pow 10 (-shift).toNat⟩, rest)

/-- A number at the beginning of some characters, and what is left. -/
def read? (cs : List Char) : Option (Quantity × List Char) :=
  let cs := cs.dropWhile Char.isWhitespace
  match cs with
  | '-' :: cs => unsigned? true cs
  | '+' :: cs => unsigned? false cs
  | cs => unsigned? false cs

/-! ### Rounding -/

/-- The nearest number that is kept, and whether the number was too great or too small for that. -/
def rounded (p : Precision) : Quantity → Quantity × Bool
  | .finite f =>
    if f.numerator = 0 then (.finite f, false)
    else
      let shift : Int := min ((p.bits : Int) - 1 - f.magnitude) p.least
      let scaled := roundedQuotient (f.numerator * Nat.pow 2 shift.toNat) (f.denominator * Nat.pow 2 (-shift).toNat)
      let g : Fraction := ⟨f.negative, scaled * Nat.pow 2 (-shift).toNat, Nat.pow 2 shift.toNat⟩
      if scaled = 0 then (.finite ⟨f.negative, 0, 1⟩, true)
      else if (p.most : Int) ≤ g.magnitude then (.infinite f.negative, true)
      else (.finite g, false)
  | q => (q, false)

/-- Whether a number is below zero. -/
def isNegative : Quantity → Bool
  | .finite f => f.negative
  | .infinite negative => negative
  | .undefined negative => negative

end Quantity

/-! ### Writing -/

namespace Fraction

/-- Digits with zeros before them. -/
def zeroPadded (width : Nat) (s : String) : String :=
  String.ofList (List.replicate (width - s.length) '0') ++ s

/-- A number with the given number of digits after the point. -/
def fixed (places : Nat) (point : Bool) (f : Fraction) : String :=
  let digits := zeroPadded (places + 1) (toString (roundedQuotient (f.numerator * Nat.pow 10 places) f.denominator))
  let whole := String.ofList (digits.toList.take (digits.length - places))
  let rest := String.ofList (digits.toList.drop (digits.length - places))
  if places = 0 then whole ++ (if point then "." else "") else whole ++ "." ++ rest

/-- The digits of a number, as many as given, and its exponent. -/
def scientificDigits (count : Nat) (f : Fraction) : String × Int :=
  if f.numerator = 0 then (String.ofList (List.replicate count '0'), 0)
  else
    let guess : Int := (toString (f.numerator / f.denominator)).length - 1
    let guess := if f.numerator < f.denominator then
        -((toString (f.denominator / f.numerator)).length : Int)
      else guess
    let digits (e : Int) : Nat :=
      let shift := (count : Int) - 1 - e
      roundedQuotient (f.numerator * Nat.pow 10 shift.toNat) (f.denominator * Nat.pow 10 (-shift).toNat)
    let at' (e : Int) : Option (String × Int) :=
      let s := toString (digits e)
      if s.length = count then some (s, e) else none
    ((at' guess).or ((at' (guess + 1)).or (at' (guess - 1)))).getD ("", guess)

/-- A number with an exponent. -/
def scientific (places : Nat) (point : Bool) (f : Fraction) : String :=
  let (digits, e) := scientificDigits (places + 1) f
  let first := String.ofList (digits.toList.take 1)
  let rest := String.ofList (digits.toList.drop 1)
  first ++ (if places = 0 then (if point then "." else "") else "." ++ rest) ++
    "e" ++ (if e < 0 then "-" else "+") ++ zeroPadded 2 (toString e.natAbs)

/-- A number with or without an exponent, whichever is shorter. -/
def general (precision : Nat) (alternate : Bool) (f : Fraction) : String :=
  let p := max precision 1
  let (_, e) := scientificDigits p f
  let trim (s : String) : String :=
    if alternate || !s.toList.contains '.' then s
    else String.ofList (((s.toList.reverse).dropWhile (· = '0')).dropWhile (· = '.')).reverse
  if e < -4 || (p : Int) ≤ e then
    match (scientific (p - 1) alternate f).splitOn "e" with
    | [m, x] => trim m ++ "e" ++ x
    | _ => ""
  else trim (fixed ((p : Int) - 1 - e).toNat alternate f)

/-- A number in base 16 with an exponent of two, without what says that. The digits after the
    point are as many as given, or as there are. -/
def hexadecimal (precision : Precision) (places : Option Nat) (point : Bool) (f : Fraction) : String :=
  let written (whole : Nat) (digits : List Char) (e : Int) : String :=
    String.ofList (Nat.toDigits 16 whole) ++
      (if digits.isEmpty then (if point then "." else "") else "." ++ String.ofList digits) ++
      "p" ++ (if e < 0 then "-" else "+") ++ toString e.natAbs
  if f.numerator = 0 then written 0 (List.replicate (places.getD 0) '0') 0
  else
    let e := f.magnitude - (precision.lead - 1)
    let n := (precision.bits - precision.lead) / 4
    let kept := min (places.getD n) n
    -- the number as a multiple of the last digit that is kept
    let shift : Int := 4 * kept - e
    let m := roundedQuotient (f.numerator * Nat.pow 2 shift.toNat) (f.denominator * Nat.pow 2 (-shift).toNat)
    let whole := m / Nat.pow 16 kept
    let (whole, e) := if whole = 16 then (1, e + 4) else (whole, e)
    let digits := (zeroPadded kept (String.ofList (Nat.toDigits 16 (m % Nat.pow 16 kept)))).toList
    let digits := if kept = 0 then [] else digits
    let digits := match places with
      | some p => digits ++ List.replicate (p - kept) '0'
      | none => (digits.reverse.dropWhile (· = '0')).reverse
    written whole digits e

end Fraction

end Retrace.Unix
