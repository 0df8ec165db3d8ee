import Retrace.Machine
import Retrace.Value.Access

/-!
# Evaluators

What running a node of a program may call on: the running of expressions and of
statements. The meaning of each kind of node is given in terms of an
`Evaluator`, which is used for the parts of the node, for the bodies of the
functions it calls and for the statements it replays; `Retrace.Eval` ties the
knot.

Here are the runs of several parts one after the other.
-/

namespace Retrace

/-- The running of expressions and statements. -/
structure Evaluator where
  /-- How often a loop may be gone through. -/
  rounds : Nat
  eval : Expr → Run Value
  exec : Stmt → Run Flow

/-- The evaluator that has no fuel. -/
def Evaluator.starved : Evaluator where
  rounds := 0
  eval := fun _ => .starved
  exec := fun _ => .starved

namespace Evaluator

variable (r : Evaluator)

/-- Evaluates expressions from left to right. -/
def evalAll : List Expr → Run (List Value)
  | [] => pure []
  | e :: es => do
    let v ← r.eval e
    let vs ← evalAll es
    pure (v :: vs)

/-- Evaluates the entries of a map in their order, each key before its value. -/
def evalEntries : List (Expr × Expr) → Run (List (Value × Value))
  | [] => pure []
  | (key, value) :: es => do
    let k ← r.eval key
    let v ← r.eval value
    let rest ← evalEntries es
    pure ((k, v) :: rest)

/-- Evaluates a condition, which has to be a truth value. -/
def condition (e : Expr) : Run Bool := do
  Run.ofExcept (← r.eval e).expectBool

/-- Runs statements until one does not end normally. -/
def execAll : List Stmt → Run Flow
  | [] => pure .normal
  | s :: ss => do
    match ← r.exec s with
    | .normal => execAll ss
    | flow => pure flow

/-- Runs a block in a scope of its own. -/
def block (b : Block) : Run Flow :=
  Run.inBlock (r.execAll b)

end Evaluator

end Retrace
