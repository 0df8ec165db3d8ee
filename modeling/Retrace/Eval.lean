import Retrace.Eval.Statement

/-!
# Evaluation

The evaluator, which runs every node by the meaning given to its kind. The fuel
bounds how deeply nodes are nested while they are run, counting the bodies of
called functions as nested in the calls, and how often each loop is gone
through.
-/

namespace Retrace

/-- The evaluator with the given fuel. -/
def evaluator (host : Host) : (fuel : Nat) → Evaluator
  | 0 => .starved
  | fuel + 1 => {
      rounds := fuel + 1
      eval := fun e => (evaluator host fuel).expression host e
      exec := fun s => (evaluator host fuel).statement s }

theorem evaluator_zero (host : Host) : evaluator host 0 = .starved := rfl

theorem rounds_evaluator (host : Host) (fuel : Nat) : (evaluator host fuel).rounds = fuel := by
  cases fuel <;> rfl

theorem eval_evaluator_succ (host : Host) (fuel : Nat) (e : Expr) :
    (evaluator host (fuel + 1)).eval e = (evaluator host fuel).expression host e := rfl

theorem exec_evaluator_succ (host : Host) (fuel : Nat) (s : Stmt) :
    (evaluator host (fuel + 1)).exec s = (evaluator host fuel).statement s := rfl

end Retrace
