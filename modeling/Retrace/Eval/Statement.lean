import Retrace.Eval.Assignment
import Retrace.Eval.Expression
import Retrace.Eval.Skip

/-!
# Statements

A statement that is run to its end says how it leaves control (`Flow`). What
encloses it decides what becomes of that:

* in a sequence, the first flow other than the normal one is that of the
  sequence;
* a loop ends with a `break` in its body, and a switch with one in a clause;
* a `fallthrough` goes on with the next clause of a switch if it is the last
  statement of a clause; anywhere else it fails, when it reaches the switch, a
  loop or the end of a function.
-/

namespace Retrace

/-- Whether a body ends with a `fallthrough`. -/
def endsWithFallthrough (b : Block) : Bool :=
  match b.getLast? with
  | some ⟨.jump .fallthrough, _⟩ => true
  | _ => false

namespace Evaluator

variable (host : Host) (r : Evaluator)

/-! ### Declarations -/

/-- Binds a declared variable. -/
def declareVariable (d : VarDecl) : Run Unit := do
  match d.init with
  | some e => do
    let v ← r.eval e
    Run.declare d.name v
  | none => Run.declare d.name .void

/-- Runs a declaration. -/
def declaration : Decl → Run Unit
  | .function name params body => Run.declare name (.function ⟨name, params, body⟩)
  | .variable d => r.declareVariable d
  | .classLike _ _ => pure ()

/-! ### Branches and switches -/

/-- Runs the first arm whose condition holds, or else `otherwise`. -/
def branch (otherwise : Option Block) : List Arm → Run Flow
  | [] =>
    match otherwise with
    | some b => r.block b
    | none => pure .normal
  | ⟨condition, body⟩ :: arms => do
    match ← r.condition condition with
    | true => r.block body
    | false => branch otherwise arms

/-- The clauses of a switch to go through, beginning with the first one whose value
    equals the subject, or else the first `default`. `kept` are the clauses
    beginning with that, once it was seen. -/
def select (subject : Value) : (kept : Option (List Case)) → List Case → Run (List Case)
  | kept, [] => pure (kept.getD [])
  | kept, ⟨none, b⟩ :: cases => select subject (kept.or (some (⟨none, b⟩ :: cases))) cases
  | kept, ⟨some value, b⟩ :: cases => do
    let v ← r.eval value
    if subject.equals v then pure (⟨some value, b⟩ :: cases) else select subject kept cases

/-- Runs the first of some clauses, and goes on as long as one ends by falling
    through into the next. -/
def fallInto : List Case → Run Flow
  | [] => pure .normal
  | ⟨_, b⟩ :: cases => do
    match ← r.block b with
    | .jump .fallthrough =>
      if endsWithFallthrough b then fallInto cases else .fail (.misplacedJump .fallthrough)
    | .returned v => pure (.returned v)
    | _ => pure .normal

/-- Runs a switch. -/
def switch (subject : Expr) (cases : List Case) : Run Flow := do
  let v ← r.eval subject
  let chosen ← r.select v none cases
  r.fallInto chosen

/-! ### Loops -/

/-- Runs what a loop does after its body. How it ends is of no account. -/
def increment : Option Stmt → Run Unit
  | some s => do
    let _ ← r.exec s
    pure ()
  | none => pure ()

/-- Goes through a loop, at most the given number of times. -/
def iterate (condition : Expr) (increment : Option Stmt) (body : Block) : Nat → Run Flow
  | 0 => .starved
  | n + 1 => do
    match ← r.condition condition with
    | false => pure .normal
    | true => do
      match ← r.block body with
      | .normal => do
        r.increment increment
        iterate condition increment body n
      | .jump .leave => pure .normal
      | .jump .fallthrough => .fail (.misplacedJump .fallthrough)
      | .returned v => pure (.returned v)

/-- Runs a loop, in a scope of its own that its declaration is made in. -/
def loop (init : Option VarDecl) (condition : Expr) (increment : Option Stmt) (body : Block) :
    Run Flow :=
  Run.inBlock do
    match init with
    | some d => r.declareVariable d
    | none => pure ()
    r.iterate condition increment body r.rounds

/-! ### Statements -/

/-- Runs an expression for its effect. Once it has had its effect the statement that
    undoes it is recorded. -/
def effect (e : Expr) (undo : Option Stmt) : Run Unit := do
  let _ ← r.eval e
  match undo with
  | some s => do
    let scope ← Run.read (·.current)
    Run.record (.replay scope s)
  | none => pure ()

/-- Does what a statement does. -/
def action : Action → Run Flow
  | .block b => r.block b
  | .expr e undo => do
    r.effect e undo
    pure .normal
  | .ret none => pure (.returned .void)
  | .ret (some e) => do
    let v ← r.eval e
    pure (.returned v)
  | .declare d => do
    r.declaration d
    pure .normal
  | .assign target op value => do
    r.assign target op value
    pure .normal
  | .step target op => do
    r.step target op
    pure .normal
  | .loop init condition increment body => r.loop init condition increment body
  | .branch arms otherwise => r.branch otherwise arms
  | .jump j => pure (.jump j)
  | .switch subject cases => r.switch subject cases
  | .skip body seizes => r.skip body seizes
  | .reverse payload => r.reverse payload

/-- Runs a statement. -/
def statement (s : Stmt) : Run Flow := do
  Run.setLocation s.location
  r.action s.action

end Evaluator

end Retrace
