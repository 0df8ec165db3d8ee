import Retrace.Decimal.Binary64

/-!
# Reading numerals

The numerals a literal may hold, read exactly:

* an *integer* is a sequence of decimal digits, perhaps after a sign;
* a *rational* has digits before a point, after it, or both, perhaps after a
  sign and perhaps followed by an exponent; or it is spelled out as `inf`,
  `infinity` or `nan`, in any case. It is rounded to the nearest float.
-/

namespace Retrace.Decimal.Numeral

/-- The number some decimal digits stand for. -/
def ofDigits (digits : List Char) : Nat :=
  digits.foldl (fun n c => 10 * n + (c.toNat - '0'.toNat)) 0

/-- A nonempty sequence of decimal digits. -/
def natural? (cs : List Char) : Option Nat :=
  if !cs.isEmpty && cs.all Char.isDigit then some (ofDigits cs) else none

/-- Splits an optional sign off: whether it is a minus, and the rest. -/
def signed : List Char → Bool × List Char
  | '-' :: cs => (true, cs)
  | '+' :: cs => (false, cs)
  | cs => (false, cs)

/-- An integer. -/
def integer? (cs : List Char) : Option Int :=
  let (negative, cs) := signed cs
  (natural? cs).map fun n => if negative then -n else n

/-- The exponent of a rational, given what follows its digits. -/
def exponent? : List Char → Option Int
  | [] => some 0
  | c :: cs => if c = 'e' ∨ c = 'E' then integer? cs else none

/-- What `value * 10 ^ power` rounds to. A power far out of the range of floats
    is not computed: the number is then beyond all of them, or nearer to zero
    than to any other. -/
def scaled (negative : Bool) (value : Nat) (power : Int) : Float :=
  if value = 0 ∨ (value.log2 / 3 + 1 : Nat) + power < -400 then Binary64.nearest negative 0 1
  else if 400 < power then Binary64.infinity negative
  else Binary64.nearest negative (value * Nat.pow 10 power.toNat) (Nat.pow 10 (-power).toNat)

/-- Digits with a point among them, before them or after them, and an exponent. -/
def unsigned? (negative : Bool) (cs : List Char) : Option Float :=
  let whole := cs.takeWhile Char.isDigit
  let (fraction, rest) := match cs.dropWhile Char.isDigit with
    | '.' :: cs => (cs.takeWhile Char.isDigit, cs.dropWhile Char.isDigit)
    | cs => ([], cs)
  if whole.isEmpty && fraction.isEmpty then none
  else (exponent? rest).map fun power =>
    scaled negative (ofDigits (whole ++ fraction)) (power - fraction.length)

/-- The float that is no number. -/
def nan : Float := Float.ofBits 0x7ff8000000000000

/-- A rational. -/
def rational? (cs : List Char) : Option Float :=
  let (negative, cs) := signed cs
  let word := String.ofList (cs.map Char.toLower)
  if word = "inf" ∨ word = "infinity" then some (Binary64.infinity negative)
  else if word = "nan" then some nan
  else unsigned? negative cs

end Retrace.Decimal.Numeral
