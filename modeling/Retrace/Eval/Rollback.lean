import Retrace.Eval.Evaluator

/-!
# Rollbacks

Taking back what happened since a skip was entered: the breadcrumbs above its
marker are taken from the ledger, the newest first, and restored one by one.

A scope that was created inside the skip may be gone by then, and what was
bound in it is of no interest any more. A scope older than the skip is still
live. An undo statement is run in any case, if need be in the scope around the
skip.
-/

namespace Retrace

/-- Stores back the entry that a breadcrumb keeps. -/
def Scopes.restoreEntry (ss : Scopes) (scope : ScopeId) (name : String) (path : List Value)
    (previous : Value) : Except Failure Scopes :=
  match previous with
  | .pair index value => do
    match ← ss.getLocal scope name with
    | some bound => ss.define scope name (← bound.updatePath (path ++ [index]) value)
    | none => .error (.restoreFailed (.unbound name))
  | v => .error (.restoreFailed (.noPair name v.kind))

/-- Whether what was recorded in a scope is to be restored there, in the rollback
    of the skip with the given marker. -/
def Scopes.restorable (ss : Scopes) (marker : Marker) (scope : ScopeId) : Except Failure Bool :=
  if ss.contains scope then .ok true
  else if marker.encloses scope.serial then .ok false
  else .error (.restoreFailed (.scopeDiscarded scope.serial))

namespace Run

/-- Whether what was recorded in a scope is to be restored there. -/
def restorable (marker : Marker) (scope : ScopeId) : Run Bool :=
  query fun m => m.scopes.restorable marker scope

/-- Does something for a scope, if what was recorded there is to be restored. -/
def whenRestorable (marker : Marker) (scope : ScopeId) (x : Run Unit) : Run Unit := do
  match ← restorable marker scope with
  | true => x
  | false => pure ()

end Run

namespace Evaluator

variable (r : Evaluator)

/-- Runs an undo statement in a scope. It has to end normally. -/
def replay (scope : ScopeId) (undo : Stmt) : Run Unit := do
  match ← Run.attempt (Run.inScope scope (r.exec undo)) with
  | .ok .normal => pure ()
  | .ok flow => .fail (.restoreFailed (.undoEnded flow))
  | .error (.reversal payload) => .fail (.restoreFailed (.undoReversed payload))
  | .error (.failure e) => .fail (.restoreFailed (.undoFailed e))

/-- Restores a breadcrumb, in the rollback of the skip with the given marker, which
    was entered in the scope `enclosing`. -/
def restore (marker : Marker) (enclosing : ScopeId) : Breadcrumb → Run Unit
  | .marker _ => .fail (.restoreFailed .unresolvedMarker)
  | .binding scope name previous =>
    Run.whenRestorable marker scope (Run.define scope name previous)
  | .entry scope name path previous =>
    Run.whenRestorable marker scope
      (Run.updateScopes fun ss => ss.restoreEntry scope name path previous)
  | .replay scope undo => do
    match ← Run.restorable marker scope with
    | true => r.replay scope undo
    | false => r.replay enclosing undo

/-- Restores the breadcrumbs above a marker, as many as there are, at most the
    given number. -/
def restoreAbove (marker : Marker) (enclosing : ScopeId) : Nat → Run Unit
  | 0 => .starved
  | n + 1 => do
    match ← Run.popAbove marker with
    | none => pure ()
    | some c => do
      r.restore marker enclosing c
      restoreAbove marker enclosing n

/-- Takes back what happened since the skip with the given marker was entered. -/
def rollBack (marker : Marker) (enclosing : ScopeId) : Run Unit :=
  r.restoreAbove marker enclosing r.rounds

end Evaluator

end Retrace
