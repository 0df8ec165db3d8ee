import Retrace.Value

/-!
# The flow of control

How a statement that ran to its end left control: to the next statement, to the
place a jump leads to, or out of the function with a value.
-/

namespace Retrace

/-- How a statement ended. -/
inductive Flow where
  | normal
  | jump (jump : Jump)
  | returned (value : Value)

end Retrace
