/-!
# Binary floating point, exactly

A `Float` stands for a sign and a natural number times a power of two, except
for the two infinities and what is no number. `Binary64` takes it apart into
these, and `Binary64.nearest` puts a ratio of natural numbers back together,
rounded to the nearest float, a tie going to the even significand.
-/

namespace Retrace.Decimal

/-- What a float stands for. -/
inductive Binary64 where
  | nan
  | infinite (negative : Bool)
  /-- `significand * 2 ^ exponent`, negated if `negative`. -/
  | finite (negative : Bool) (significand : Nat) (exponent : Int)

namespace Binary64

/-- The least exponent, that of the floats closest to zero. -/
def leastExponent : Int := -1074

/-- Takes a float apart: its top bit is the sign, the next eleven the exponent,
    and the others the significand, whose leading one is left out unless the
    exponent is the least. -/
def ofFloat (x : Float) : Binary64 :=
  let bits := x.toBits.toNat
  let negative : Bool := Nat.pow 2 63 ≤ bits
  let biased : Nat := bits / Nat.pow 2 52 % Nat.pow 2 11
  let fraction : Nat := bits % Nat.pow 2 52
  if biased = 2047 then
    if fraction = 0 then infinite negative else nan
  else if biased = 0 then finite negative fraction leastExponent
  else finite negative (fraction + Nat.pow 2 52) (biased - 1075)

/-- The float of a sign, a significand of at most `2 ^ 53` and an exponent.
    A carry out of the significand moves into the exponent, and out of the
    exponent into infinity. -/
def assemble (negative : Bool) (significand : Nat) (exponent : Int) : Float :=
  let sign := if negative then Nat.pow 2 63 else 0
  let magnitude :=
    if significand < Nat.pow 2 52 then significand
    else (exponent + 1075).toNat * Nat.pow 2 52 + (significand - Nat.pow 2 52)
  Float.ofBits (UInt64.ofNat (sign + min magnitude (2047 * Nat.pow 2 52)))

/-- The natural number nearest to `num / den`, the even one of two. -/
def roundToEven (num den : Nat) : Nat :=
  let below := num / den
  let rest := num % den
  if 2 * rest < den then below
  else if den < 2 * rest then below + 1
  else below + below % 2

/-- The ratio `num / den` in units of `2 ^ exponent`. -/
def inUnits (num den : Nat) (exponent : Int) : Nat × Nat :=
  (num * Nat.pow 2 (-exponent).toNat, den * Nat.pow 2 exponent.toNat)

/-- The float nearest to the ratio `num / den`, negated if `negative`. The
    exponent is the one that leaves 53 bits before the point, or the least. -/
def nearest (negative : Bool) (num den : Nat) : Float :=
  if num = 0 then assemble negative 0 leastExponent
  else
    let guess := max ((num.log2 : Int) - den.log2 - 53) leastExponent
    let (n, d) := inUnits num den guess
    let exponent := if n / d < Nat.pow 2 53 then guess else guess + 1
    let (n, d) := inUnits num den exponent
    assemble negative (roundToEven n d) exponent

/-- The infinity of a sign. -/
def infinity (negative : Bool) : Float :=
  assemble negative (Nat.pow 2 52) 972

end Binary64

end Retrace.Decimal
