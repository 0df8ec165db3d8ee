import Retrace.Eval.Rollback

/-!
# Skips and reversals

A reversal stops whatever is being run, through blocks and calls, up to the
innermost skip. That skip is rolled back and resolved, and its seizes are tried
on the payload in their order; a seize without a pattern is kept for the end,
if no pattern is equal to the payload. If there is none the reversal goes on to
the next skip.

From the beginning of a reversal until a seize takes it nothing is recorded.

| the body ends          | its breadcrumbs are                  |
|------------------------|--------------------------------------|
| normally or by a jump  | kept for the skip around it          |
| with a returned value  | dropped                              |
| with a reversal        | restored, and the seizes are tried   |
| with a failure         | dropped                              |
-/

namespace Retrace.Evaluator

variable (r : Evaluator)

/-- Begins a reversal. -/
def reverse (payload : Expr) : Run Flow := do
  let v ← r.eval payload
  Run.setReversing true
  .stop (.reversal v)

/-- Takes a reversal by running the body of a seize. -/
def seize (b : Block) : Run Flow := do
  Run.setReversing false
  r.block b

/-- Tries seizes in their order, and after them the body kept for the end. -/
def dispatch (payload : Value) : (kept : Option Block) → List Seize → Run Flow
  | some b, [] => r.seize b
  | none, [] => .stop (.reversal payload)
  | kept, ⟨none, b⟩ :: seizes => dispatch payload (kept.or (some b)) seizes
  | kept, ⟨some pattern, b⟩ :: seizes => do
    let v ← r.eval pattern
    if v.equals payload then r.seize b else dispatch payload kept seizes

/-- Runs a skip. -/
def skip (body : Block) (seizes : List Seize) : Run Flow := do
  let enclosing ← Run.read (·.current)
  let marker ← Run.openSkip
  match ← Run.attempt (r.block body) with
  | .ok (.returned v) => do
    Run.discardSkip marker
    pure (.returned v)
  | .ok flow => do
    Run.closeSkip marker
    pure flow
  | .error (.failure e) => do
    Run.discardSkip marker
    .fail e
  | .error (.reversal payload) => do
    match ← Run.attempt (r.rollBack marker enclosing) with
    | .ok _ => do
      Run.closeSkip marker
      r.dispatch payload none seizes
    | .error reason => do
      Run.discardSkip marker
      .stop reason

end Retrace.Evaluator
