import Retrace.Eval

/-!
# Sessions

What a host can ask for, one request after the other: to declare something, to
run `main`, to call a function, to add a native function. The machine is kept
from one request to the next.

A request that runs a program *settles*. If it stops before its end, because of
a failure or of a reversal that no skip took back, the machine is reset: of the
scopes only the global one stays, and no skip, reversal or call is left over
from the run. What the program bound in the global scope stays as it is.
-/

namespace Retrace.Machine

/-- The machine at the beginning, with the builtins bound in the global scope. -/
def initial (settings : Settings) (files : Files) : Machine where
  scopes := Builtin.all.foldl (fun ss b => ss.defineGlobal b.name (.native b.function)) .initial
  current := Scopes.global
  ledger := .empty settings.maxBreadcrumbs
  surroundings := ⟨.empty, files⟩
  settings := settings
  location := ⟨1, 1⟩
  reversing := false
  callDepth := 0

/-- Leaves nothing of a run that stopped. -/
def reset (m : Machine) : Machine :=
  { m with
    scopes := m.scopes.discardLocals
    current := Scopes.global
    ledger := m.ledger.clear
    reversing := false
    callDepth := 0 }

/-- Carries out a run for the host. -/
def settle {α : Type} (m : Machine) (x : Run α) : Option (Except Failure α × Machine) :=
  match x m with
  | some (.ok a, m) => some (.ok a, m)
  | some (.error reason, m) => some (.error reason.toFailure, m.reset)
  | none => none

variable (host : Host) (fuel : Nat)

/-- Makes a declaration in the global scope. -/
def declare (m : Machine) (d : Decl) : Option (Except Failure Unit × Machine) :=
  m.settle ((evaluator host fuel).declaration d)

/-- Makes declarations one after the other, up to the first one that fails. -/
def load (m : Machine) : List Decl → Option (Except Failure Unit × Machine)
  | [] => some (.ok (), m)
  | d :: ds =>
    match m.declare host fuel d with
    | some (.ok _, m) => load m ds
    | failed => failed

/-- Calls a function, given what there is in its place if there is none. -/
def callFound (m : Machine) (f : Except Failure Value) (args : List Value) :
    Option (Except Failure Value × Machine) :=
  match f with
  | .ok f => m.settle ((evaluator host fuel).callValue host f args)
  | .error e => some (.error e, m)

/-- Calls a function that is bound in the global scope. -/
def call (m : Machine) (name : String) (args : List Value) :
    Option (Except Failure Value × Machine) :=
  m.callFound host fuel (m.scopes.get Scopes.global name) args

/-- The function a program is started with. -/
def mainFunction (m : Machine) : Except Failure Value := do
  match ← m.scopes.getLocal Scopes.global "main" with
  | some f => .ok f
  | none => .error .noMainFunction

/-- Runs the program from its start. -/
def runMain (m : Machine) : Option (Except Failure Value × Machine) :=
  m.callFound host fuel m.mainFunction []

/-- Binds a native function in the global scope, replacing what its name was bound
    to. -/
def addNative (m : Machine) (f : NativeFunction) : Machine :=
  { m with scopes := m.scopes.defineGlobal f.name (.native f) }

/-- Adds a native function with parameters. -/
def registerNative (m : Machine) (name : String) (params : List String) (key : String) : Machine :=
  m.addNative { name := name, params := params, variadic := false, code := .host key }

/-- Adds a native function that takes any number of arguments. -/
def registerVariadic (m : Machine) (name : String) (key : String) : Machine :=
  m.addNative { name := name, params := [], variadic := true, code := .host key }

/-- What a name is bound to in the global scope. -/
def global? (m : Machine) (name : String) : Option Value :=
  match m.scopes.getLocal Scopes.global name with
  | .ok v => v
  | .error _ => none

end Retrace.Machine
