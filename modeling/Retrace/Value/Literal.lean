import Retrace.Decimal.Layout
import Retrace.Decimal.Numeral
import Retrace.Value.Arithmetic

/-!
# Literals

A literal denotes the value its lexeme reads as. In the other direction, some
values have a literal that denotes them (`Expr.ofInt` and the like).
-/

namespace Retrace

/-- The value a literal denotes. The lexeme of a truth value is not looked at. -/
def Value.ofLiteral (kind : LiteralKind) (lexeme : String) : Except Failure Value :=
  match kind with
  | .str => .ok (.str lexeme)
  | .int =>
    match (Decimal.Numeral.integer? lexeme.toList).bind word? with
    | some n => .ok (.int n)
    | none => .error (.invalidLiteral .integer lexeme)
  | .rational =>
    match Decimal.Numeral.rational? lexeme.toList with
    | some x => .ok (.rational x)
    | none => .error (.invalidLiteral .rational lexeme)
  | .truth => .ok (.bool true)
  | .falsity => .ok (.bool false)

namespace Expr

/-- The literal for an integer, in decimal digits. -/
def ofInt (n : Int64) : Expr :=
  literal .int (toString n.toInt)

/-- The literal for a rational, in the fewest digits that identify it. -/
def ofRational (x : Float) : Expr :=
  literal .rational (Decimal.Layout.marked.write x)

/-- The literal for a string. -/
def ofString (s : String) : Expr :=
  literal .str s

/-- The literal for a truth value. -/
def ofBool : Bool → Expr
  | true => literal .truth "true"
  | false => literal .falsity "false"

end Expr

end Retrace
