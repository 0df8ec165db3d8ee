import Retrace.Eval.Call
import Retrace.Value.Literal

/-!
# Expressions

The operands of an expression are evaluated from left to right, all of them: an
`&&` whose left side is false evaluates its right side too. Only a call can
change the machine.
-/

namespace Retrace

namespace Evaluator

variable (host : Host) (r : Evaluator)

/-- Evaluates an expression. -/
def expression : Expr → Run Value
  | .literal kind lexeme => .ofExcept (Value.ofLiteral kind lexeme)
  | .ident name => .lookup name
  | .group inner => r.eval inner
  | .unary op operand => do
    let v ← r.eval operand
    .ofExcept (v.unary op)
  | .binary op left right => do
    let a ← r.eval left
    let b ← r.eval right
    .ofExcept (a.binary op b)
  | .call callee args => r.call host callee args
  | .field object name => do
    let v ← r.eval object
    .ofExcept (v.field name)
  | .index container key => do
    let v ← r.eval container
    let k ← r.eval key
    .ofExcept (v.index k)
  | .list items => do
    let vs ← r.evalAll items
    pure (.map (Entries.ofItems vs))
  | .map entries => do
    let es ← r.evalEntries entries
    pure (.map (Entries.ofList es))

end Evaluator

end Retrace
