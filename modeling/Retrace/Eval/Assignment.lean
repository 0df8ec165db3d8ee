import Retrace.Eval.Evaluator
import Retrace.Value.Arithmetic

/-!
# Assignments

What can be assigned to is a name, or what is reached from it by indexing and
by fields: a *target* is the name with the evaluated keys. As values never
change, storing at a target builds the value that the name is to be bound to
from the one it is bound to, and binds the name anew, in the innermost scope
that binds it.

With each rebinding goes the breadcrumb that takes it back: for a name alone
what it was bound to, and for an entry only what was stored at its key, so that
entries stored later beside it are left alone.
-/

namespace Retrace

/-- What is assigned to: a name, and the keys that lead on from what it is bound to. -/
structure Target where
  name : String
  path : List Value

namespace Target

/-- The target reached by one more key. -/
def push (t : Target) (key : Value) : Target :=
  { t with path := t.path ++ [key] }

/-- What is stored at a target, seen from the scope `id`. -/
def read (t : Target) (ss : Scopes) (id : ScopeId) : Except Failure Value := do
  (← ss.get id t.name).readPath t.path

end Target

/-- The binding of a name anew. -/
structure Rebinding where
  owner : ScopeId
  name : String
  /-- What the name is to be bound to. -/
  value : Value
  /-- What takes the rebinding back. -/
  crumb : Breadcrumb

/-- The rebinding that stores `value` at a target, seen from the scope `id`. -/
def Target.rebinding (t : Target) (ss : Scopes) (id : ScopeId) (value : Value) :
    Except Failure Rebinding := do
  let owner ← ss.owner id t.name
  let bound ← ss.get owner t.name
  match t.path.getLast? with
  | none =>
    .ok { owner := owner, name := t.name, value := value, crumb := .binding owner t.name bound }
  | some key =>
    let parents := t.path.dropLast
    let updated ← bound.updatePath t.path value
    let previous ← (← bound.readPath parents).index key
    .ok { owner := owner, name := t.name, value := updated,
          crumb := .entry owner t.name parents (.pair key previous) }

namespace Run

/-- What is stored at a target. -/
def readTarget (t : Target) : Run Value :=
  query fun m => t.read m.scopes m.current

/-- Stores a value at a target, recording what takes that back. -/
def store (t : Target) (value : Value) : Run Unit := do
  let b ← query fun m => t.rebinding m.scopes m.current value
  record b.crumb
  define b.owner b.name b.value

end Run

namespace Evaluator

variable (r : Evaluator)

/-- Evaluates the keys of a target from left to right. -/
def target : Expr → Run Target
  | .ident name => pure ⟨name, []⟩
  | .group inner => target inner
  | .index container key => do
    let t ← target container
    let k ← r.eval key
    pure (t.push k)
  | .field object name => do
    let t ← target object
    pure (t.push (.str name))
  | e => .fail (.typeMismatch .target (.expr e.form))

/-- Runs an assignment. The target is resolved first, the value is evaluated next,
    and what a compound assignment combines it with is read last. -/
def assign (target : Expr) (op : AssignOp) (value : Expr) : Run Unit := do
  let t ← r.target target
  let v ← r.eval value
  match op.binary? with
  | none => Run.store t v
  | some op => do
    let old ← Run.readTarget t
    let new ← Run.ofExcept (old.binary op v)
    Run.store t new

/-- Counts a target up or down. -/
def step (target : Expr) (op : StepOp) : Run Unit := do
  let t ← r.target target
  let old ← Run.readTarget t
  let new ← Run.ofExcept (old.step op)
  Run.store t new

end Evaluator

end Retrace
