import Retrace.Decimal.Layout
import Retrace.Value

/-!
# The text of a value

What is printed for a value. A string is printed as it is; a map lists its
entries in their order; of a function only the name is shown.
-/

namespace Retrace

mutual

/-- The text of a value. -/
def Value.text : Value → String
  | .void => "VOID"
  | .bool true => "True"
  | .bool false => "False"
  | .str s => s
  | .int n => toString n.toInt
  | .rational x => Decimal.Layout.plain.write x
  | .map es => String.intercalate ", " (Entries.texts es)
  | .function f => "FUNC: " ++ f.name
  | .native f => "NATIVE: " ++ f.name
  | .pair i v => i.text ++ ": " ++ v.text

/-- The texts of the entries of a map. -/
def Entries.texts : List (Value × Value) → List String
  | [] => []
  | (k, v) :: es => (k.text ++ ": " ++ v.text) :: Entries.texts es

end

end Retrace
