import Retrace.Decimal.Shortest

/-!
# The layout of decimals

How the shortest digits of a float are laid out as text. A `Layout` says which
magnitudes are written out with a point (the others in scientific notation),
and what follows a whole number.
-/

namespace Retrace.Decimal

/-- The decisions a way of writing floats leaves open. -/
structure Layout where
  /-- Whether a number is written out, given the power of ten of its first digit. -/
  writtenOut : Int → Bool
  /-- What follows a whole number that is written out. -/
  afterWhole : String

namespace Layout

/-- Every number is written out, and a whole one looks like an integer. -/
def plain : Layout where
  writtenOut := fun _ => true
  afterWhole := ""

/-- Numbers from a ten-thousandth to below `10 ^ 16` are written out, and a whole
    one keeps a zero after the point, so that it can be told from an integer. -/
def marked : Layout where
  writtenOut := fun power => -4 ≤ power && power < 16
  afterWhole := ".0"

/-- The given digits with `power` the power of ten of the first one, written out. -/
def writeOut (layout : Layout) (digits : List Char) (power : Int) : String :=
  if power < 0 then
    "0." ++ String.ofList (List.replicate (-power - 1).toNat '0' ++ digits)
  else
    let whole := power.toNat + 1
    if digits.length ≤ whole then
      String.ofList (digits ++ List.replicate (whole - digits.length) '0') ++ layout.afterWhole
    else String.ofList (digits.take whole) ++ "." ++ String.ofList (digits.drop whole)

/-- The given digits with `power` the power of ten of the first one, in
    scientific notation. -/
def scientific (digits : List Char) (power : Int) : String :=
  let fraction := digits.drop 1
  String.ofList (digits.take 1) ++
    (if fraction.isEmpty then "" else "." ++ String.ofList fraction) ++ "e" ++ toString power

/-- A float as text. -/
def write (layout : Layout) (x : Float) : String :=
  match Binary64.ofFloat x with
  | .nan => "NaN"
  | .infinite negative => (if negative then "-" else "") ++ "inf"
  | .finite negative significand exponent =>
    let sign := if negative then "-" else ""
    if significand = 0 then sign ++ "0" ++ layout.afterWhole
    else
      let (value, grid) := Shortest.digits significand exponent
      let digits := Nat.toDigits 10 value
      let power := grid + digits.length - 1
      sign ++ if layout.writtenOut power then layout.writeOut digits power
        else scientific digits power

end Layout

end Retrace.Decimal
