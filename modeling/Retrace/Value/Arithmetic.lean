import Retrace.Failure
import Retrace.Value.Equality

/-!
# Operators on values

Integers are words of 64 bits. Their sums, differences, products and quotients
are exact or a failure, never wrapped around; division truncates toward zero,
and the remainder goes with it. A power of integers is computed in floating
point and truncated.

A rational among the operands makes an operation one on rationals, after the
other operand has been rounded to one; these never fail. `+` also joins
strings. Comparisons order numbers only, and one that no order holds for (an
operand is no number at all) is false, whatever the operator.
-/

namespace Retrace

/-- An integer as a word, if it fits. -/
def word? (n : Int) : Option Int64 :=
  if Int64.minValue.toInt ≤ n ∧ n ≤ Int64.maxValue.toInt then some (Int64.ofInt n) else none

/-- Whether a comparison holds between operands in the given order. -/
def BinaryOp.holds : BinaryOp → Ordering → Bool
  | .lt, o => o.isLT
  | .le, o => o.isLE
  | .gt, o => o.isGT
  | .ge, o => o.isGE
  | _, _ => false

/-- The order of two rationals, none if either is no number. -/
def Rational.compare? (x y : Float) : Option Ordering :=
  if x < y then some .lt else if y < x then some .gt else if x == y then some .eq else none

/-- Two numbers, made alike. -/
inductive Numbers where
  | ints (a b : Int64)
  | rationals (x y : Float)

namespace Value

/-- The two operands as numbers of one kind, if they are numbers. -/
def numbers? : Value → Value → Option Numbers
  | int a, int b => some (.ints a b)
  | int a, rational y => some (.rationals a.toFloat y)
  | rational x, int b => some (.rationals x b.toFloat)
  | rational x, rational y => some (.rationals x y)
  | _, _ => none

/-- An operation on numbers, given on integers and on rationals. -/
def arithmetic (op : BinaryOp) (a b : Value) (onInts : Int64 → Int64 → Except Failure Value)
    (onRationals : Float → Float → Float) : Except Failure Value :=
  match numbers? a b with
  | some (.ints a b) => onInts a b
  | some (.rationals x y) => .ok (rational (onRationals x y))
  | none => .error (.operands .numbers op a b)

/-- The exact result of an operation on two integers, if it fits. -/
def exact (op : BinaryOp) (a b : Int64) (result : Int) : Except Failure Value :=
  match word? result with
  | some n => .ok (int n)
  | none => .error (.integerOverflow (.binary a op b))

/-- The sum of numbers, or two strings joined. -/
def add (a b : Value) : Except Failure Value :=
  match a, b with
  | str s, str t => .ok (str (s ++ t))
  | str _, _ => .error (.operands .strs .add a b)
  | _, str _ => .error (.operands .strs .add a b)
  | _, _ => arithmetic .add a b (fun m n => exact .add m n (m.toInt + n.toInt)) (· + ·)

/-- The difference of numbers. -/
def sub (a b : Value) : Except Failure Value :=
  arithmetic .sub a b (fun m n => exact .sub m n (m.toInt - n.toInt)) (· - ·)

/-- The product of numbers. -/
def mul (a b : Value) : Except Failure Value :=
  arithmetic .mul a b (fun m n => exact .mul m n (m.toInt * n.toInt)) (· * ·)

/-- The quotient of two integers, truncated toward zero. -/
def quotient (a b : Int64) : Except Failure Value :=
  if b.toInt = 0 then .error (.divisionByZero (.binary a .div b))
  else exact .div a b (a.toInt.tdiv b.toInt)

/-- The quotient of numbers. -/
def div (a b : Value) : Except Failure Value :=
  arithmetic .div a b quotient (· / ·)

/-- What the truncated quotient of two integers leaves. It is defined when the
    quotient is, hence fails where the quotient does not fit. -/
def remainder (a b : Int64) : Except Failure Value :=
  if b.toInt = 0 then .error (.divisionByZero (.binary a .mod b))
  else match word? (a.toInt.tdiv b.toInt) with
    | some _ => exact .mod a b (a.toInt.tmod b.toInt)
    | none => .error (.integerOverflow (.binary a .mod b))

/-- The remainder of integers; rationals have none. -/
def mod (a b : Value) : Except Failure Value :=
  match a, b with
  | int m, int n => remainder m n
  | _, _ => .error (.operands .ints .mod a b)

/-- A power of two integers: their power in floating point, truncated. -/
def intPower (a b : Int64) : Except Failure Value :=
  let power := a.toFloat.pow b.toFloat
  if -9223372036854775808.0 ≤ power ∧ power < 9223372036854775808.0 then .ok (int power.toInt64)
  else .error (.integerOverflow (.binary a .pow b))

/-- A power of numbers. -/
def pow (a b : Value) : Except Failure Value :=
  arithmetic .pow a b intPower Float.pow

/-- Compares two numbers. -/
def compare (op : BinaryOp) (a b : Value) : Except Failure Value :=
  match numbers? a b with
  | some (.ints m n) => .ok (bool (op.holds (Ord.compare m.toInt n.toInt)))
  | some (.rationals x y) => .ok (bool ((Rational.compare? x y).any op.holds))
  | none => .error (.operands .numbers op a b)

/-- Combines two truth values. -/
def connect (op : BinaryOp) (f : Bool → Bool → Bool) (a b : Value) : Except Failure Value :=
  match a, b with
  | bool p, bool q => .ok (bool (f p q))
  | _, _ => .error (.operands .bools op a b)

/-- Applies an operator to its two operands. -/
def binary (op : BinaryOp) (a b : Value) : Except Failure Value :=
  match op with
  | .add => add a b
  | .sub => sub a b
  | .mul => mul a b
  | .div => div a b
  | .mod => mod a b
  | .pow => pow a b
  | .eq => .ok (bool (a.equals b))
  | .ne => .ok (bool (!a.equals b))
  | .lt => compare .lt a b
  | .le => compare .le a b
  | .gt => compare .gt a b
  | .ge => compare .ge a b
  | .and => connect .and (· && ·) a b
  | .or => connect .or (· || ·) a b

/-- Applies an operator to its operand. -/
def unary (op : UnaryOp) (a : Value) : Except Failure Value :=
  match op, a with
  | .not, bool b => .ok (bool !b)
  | .not, a => .error (.unexpected .bool a)
  | .neg, int n =>
    match word? (-n.toInt) with
    | some m => .ok (int m)
    | none => .error (.integerOverflow (.negation n))
  | .neg, rational x => .ok (rational (-x))
  | .neg, a => .error (.unexpected .number a)

/-- Counts up or down by one. -/
def step (op : StepOp) (a : Value) : Except Failure Value :=
  match op with
  | .increment => add a (int 1)
  | .decrement => sub a (int 1)

end Value

end Retrace
