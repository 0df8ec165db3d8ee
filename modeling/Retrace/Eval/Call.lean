import Retrace.Eval.Evaluator

/-!
# Calls

A function is called with values. Its parameters are bound to them in a new
scope whose parent is the *global* scope, whether the function was declared
there or not, so its body sees neither the scopes of the caller nor those
around its declaration. A native function that takes any number of arguments
finds them bound to their positions.
-/

namespace Retrace

/-- The value of a call whose body ended in the given way. -/
def Flow.toValue : Flow → Run Value
  | .normal => pure .void
  | .returned v => pure v
  | .jump j => .fail (.misplacedJump j)

/-- The arguments with the names they are bound to. -/
def NativeFunction.bindArgs (f : NativeFunction) (args : List Value) : List (String × Value) :=
  if f.variadic then ((List.range args.length).map NativeM.positionName).zip args
  else f.params.zip args

namespace Evaluator

variable (host : Host) (r : Evaluator)

/-- Calls a function of the program. -/
def callFunction (f : Function) (args : List Value) : Run Value :=
  if args.length ≠ f.params.length then
    .fail (.argumentCount f.name f.params.length args.length)
  else do
    let flow ← Run.inCall do
      Run.declareAll (f.params.zip args)
      r.execAll f.body
    flow.toValue

/-- Calls a native function. -/
def callNative (f : NativeFunction) (args : List Value) : Run Value :=
  if !f.variadic && args.length != f.params.length then
    .fail (.argumentCount f.name f.params.length args.length)
  else
    Run.inCall do
      Run.declareAll (f.bindArgs args)
      Run.native (f.code.run host) args.length

/-- Calls a value, which has to be a function. -/
def callValue (f : Value) (args : List Value) : Run Value :=
  match f with
  | .function f => r.callFunction f args
  | .native f => callNative host f args
  | v => .fail (.unexpected .function v)

/-- Evaluates a call. That the callee can be called is checked before the arguments
    are evaluated. -/
def call (callee : Expr) (args : List Expr) : Run Value := do
  let f ← r.eval callee
  if f.isCallable then
    let vs ← r.evalAll args
    r.callValue host f vs
  else .fail (.unexpected .function f)

end Evaluator

end Retrace
