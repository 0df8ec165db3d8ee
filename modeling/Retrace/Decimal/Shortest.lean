import Retrace.Decimal.Binary64

/-!
# Shortest digits

The decimal digits a positive float is written with: as few as identify it
among all floats, and of as many digits the ones nearest to it.

A float is identified by the reals that round to it, those between the middles
of the gaps to its neighbours; the middles themselves round to it if its
significand is even. The digits sought are the point of that interval on the
coarsest *grid* (the multiples of a power of ten) that has one. If a point of a
grid lies in the interval then so does one of the two grid points around the
float, hence only these are looked at; if both do the nearer one is taken, the
upper one if they are equally near.
-/

namespace Retrace.Decimal.Shortest

/-- The gap below a float is half the gap above it if the significand is the
    least one for its exponent. In quarters of the gap above, the interval
    reaches this far below the float. -/
def reachBelow (significand : Nat) (exponent : Int) : Nat :=
  if significand = Nat.pow 2 52 ∧ Binary64.leastExponent < exponent then 1 else 2

/-- The grid point sought in the interval of `significand * 2 ^ exponent`, as a
    multiple of `10 ^ grid`, if there is one.

    Lengths are compared after multiplying by the denominators: a quarter of
    the gap above counts `quarter`, and a step of the grid counts `step`. -/
def onGrid (significand : Nat) (exponent grid : Int) : Option Nat :=
  let step := Nat.pow 10 grid.toNat * Nat.pow 2 (2 - exponent).toNat
  let quarter := Nat.pow 10 (-grid).toNat * Nat.pow 2 (exponent - 2).toNat
  let value := 4 * significand * quarter
  let low := value - reachBelow significand exponent * quarter
  let high := value + 2 * quarter
  let inside (point : Nat) : Bool :=
    if significand % 2 = 0 then low ≤ point * step ∧ point * step ≤ high
    else low < point * step ∧ point * step < high
  let below := value / step
  match inside below, inside (below + 1) with
  | true, true =>
    if value - below * step < (below + 1) * step - value then some below else some (below + 1)
  | true, false => some below
  | false, true => some (below + 1)
  | false, false => none

/-- The first grid with a point in the interval, among `grid`, `grid - 1` and so
    on. The grid of the float's own last digit has one. -/
def search (significand : Nat) (exponent : Int) : (grids : Nat) → (grid : Int) → Nat × Int
  | 0, grid => (significand, grid)
  | grids + 1, grid =>
    match onGrid significand exponent grid with
    | some point => (point, grid)
    | none => search significand exponent grids (grid - 1)

/-- A power of ten above the interval of `significand * 2 ^ exponent`. -/
def coarsest (significand : Nat) (exponent : Int) : Int :=
  (exponent + significand.log2 + 2) * 30103 / 100000 + 2

/-- The digits of `significand * 2 ^ exponent`, and the power of ten that the
    last of them counts. -/
def digits (significand : Nat) (exponent : Int) : Nat × Int :=
  let top := coarsest significand exponent
  search significand exponent (top - min exponent 0 + 1).toNat top

end Retrace.Decimal.Shortest
