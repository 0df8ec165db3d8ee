import Retrace.Ledger
import Retrace.Native

/-!
# The machine

The state a program runs in, and what it is to run in it. A run (`Run`) starts
in a machine and ends in another one, with a result or with a reason to stop:
a reversal on its way to the skip that takes it back, or a failure.

How long a run takes is not known beforehand. It is given *fuel*, and is
undetermined (`none`) if there is too little of it; then nothing at all is said
about how it would have ended.

The runs defined here are the ones that the meaning of a program is put
together from: each does one thing to one part of the machine. Three of them
bracket another run, and put back what they changed however it ends: `inScope`
lets it run in another scope, `inNewScope` gives it a scope of its own, and
`inCall` counts it as a call.
-/

namespace Retrace

/-- The state of a session. -/
structure Machine where
  scopes : Scopes
  /-- The scope in which the next statement runs. -/
  current : ScopeId
  ledger : Ledger
  surroundings : Surroundings
  settings : Settings
  /-- Where the statement stands that was begun last. -/
  location : Location
  /-- Whether a reversal is under way; nothing is recorded then. -/
  reversing : Bool
  /-- How many calls are being run. -/
  callDepth : Nat

/-- Why a run stopped before its end. -/
inductive Stop where
  /-- A reversal with its payload. -/
  | reversal (payload : Value)
  | failure (failure : Failure)

/-- The failure a run ends with that stopped for the given reason. -/
def Stop.toFailure : Stop → Failure
  | reversal payload => .unhandledReversal payload
  | failure e => e

/-- A run: where it leads from a machine, `none` if its fuel does not suffice. -/
def Run (α : Type) : Type :=
  Machine → Option (Except Stop α × Machine)

namespace Run

variable {α β : Type}

@[always_inline]
instance : Monad Run where
  pure a := fun m => some (.ok a, m)
  bind x f := fun m =>
    match x m with
    | some (.ok a, m) => f a m
    | some (.error e, m) => some (.error e, m)
    | none => none

theorem pure_apply (a : α) (m : Machine) : (pure a : Run α) m = some (.ok a, m) := rfl

theorem bind_apply (x : Run α) (f : α → Run β) (m : Machine) :
    (x >>= f) m =
      match x m with
      | some (.ok a, m) => f a m
      | some (.error e, m) => some (.error e, m)
      | none => none := rfl

instance : LawfulMonad Run :=
  LawfulMonad.mk' Run
    (fun x => by
      funext m
      change (x >>= pure) m = x m
      rw [bind_apply]
      rcases x m with _ | ⟨_ | _, _⟩ <;> rfl)
    (fun _ _ => rfl)
    (fun x f g => by
      funext m
      simp only [bind_apply]
      rcases x m with _ | ⟨_ | _, _⟩ <;> rfl)

/-- A run without fuel. -/
def starved : Run α :=
  fun _ => none

/-- Stops. -/
def stop (reason : Stop) : Run α :=
  fun m => some (.error reason, m)

/-- Fails. -/
def fail (e : Failure) : Run α :=
  stop (.failure e)

/-- What may fail without changing the machine. -/
def ofExcept : Except Failure α → Run α
  | .ok a => pure a
  | .error e => fail e

/-- Something about the machine. -/
def read (f : Machine → α) : Run α :=
  fun m => some (.ok (f m), m)

/-- Something about the machine that may be missing. -/
def query (f : Machine → Except Failure α) : Run α :=
  fun m => ofExcept (f m) m

/-- Changes the machine. -/
def update (f : Machine → Machine) : Run Unit :=
  fun m => some (.ok (), f m)

/-- Runs to the end or to a stop, and says which. -/
def attempt (x : Run α) : Run (Except Stop α) :=
  fun m =>
    match x m with
    | some (r, m) => some (.ok r, m)
    | none => none

/-! ### Scopes -/

/-- Changes the scopes, which may fail. -/
def updateScopes (f : Scopes → Except Failure Scopes) : Run Unit :=
  fun m =>
    match f m.scopes with
    | .ok scopes => some (.ok (), { m with scopes := scopes })
    | .error e => fail e m

/-- What a name means. -/
def lookup (name : String) : Run Value :=
  query fun m => m.scopes.get m.current name

/-- Binds a name in a scope. -/
def define (scope : ScopeId) (name : String) (value : Value) : Run Unit :=
  updateScopes fun ss => ss.define scope name value

/-- Binds a name in the scope that is being run in. -/
def declare (name : String) (value : Value) : Run Unit := do
  define (← read (·.current)) name value

/-- Binds names in the scope that is being run in, one after the other. -/
def declareAll : List (String × Value) → Run Unit
  | [] => pure ()
  | (name, value) :: rest => do
    declare name value
    declareAll rest

/-- Runs in a scope. -/
def inScope (scope : ScopeId) (x : Run α) : Run α :=
  fun m =>
    let saved := m.current
    match x { m with current := scope } with
    | some (r, m) => some (r, { m with current := saved })
    | none => none

/-- Runs in a new scope with the given parent, which is discarded afterwards. -/
def inNewScope (parent : ScopeId) (x : Run α) : Run α :=
  fun m =>
    let (id, scopes) := m.scopes.push parent
    match inScope id x { m with scopes := scopes } with
    | some (r, m) => some (r, { m with scopes := m.scopes.discard id })
    | none => none

/-- Runs in a new scope inside the one that is being run in. -/
def inBlock (x : Run α) : Run α := do
  inNewScope (← read (·.current)) x

/-! ### Calls -/

/-- Runs as a call, in a new scope whose parent is the global one, unless calls are
    nested too deeply. -/
def inCall (x : Run α) : Run α :=
  fun m =>
    if m.settings.maxCallDepth ≤ m.callDepth then
      fail (.callDepthExceeded m.settings.maxCallDepth) m
    else
      match inNewScope Scopes.global x { m with callDepth := m.callDepth + 1 } with
      | some (r, m) => some (r, { m with callDepth := m.callDepth - 1 })
      | none => none

/-- Runs a native function, whose arguments are bound in the scope that is being
    run in. -/
def native (x : NativeM α) (argc : Nat) : Run α :=
  fun m =>
    match x ⟨m.scopes, m.current, argc, m.settings⟩ m.surroundings with
    | (.ok a, s) => some (.ok a, { m with surroundings := s })
    | (.error e, s) => fail e { m with surroundings := s }

/-! ### The ledger -/

/-- Records a breadcrumb, unless a reversal is under way. -/
def record (c : Breadcrumb) : Run Unit :=
  fun m =>
    if m.reversing then some (.ok (), m)
    else
      match m.ledger.record c with
      | .ok ledger => some (.ok (), { m with ledger := ledger })
      | .error e => fail e m

/-- Opens a skip. -/
def openSkip : Run Marker :=
  fun m =>
    match m.ledger.openSkip m.scopes.nextSerial with
    | .ok (marker, ledger) => some (.ok marker, { m with ledger := ledger })
    | .error e => fail e m

/-- Resolves a skip, keeping its breadcrumbs. -/
def closeSkip (marker : Marker) : Run Unit :=
  update fun m => { m with ledger := m.ledger.close marker }

/-- Resolves a skip, dropping its breadcrumbs. -/
def discardSkip (marker : Marker) : Run Unit :=
  update fun m => { m with ledger := m.ledger.discard marker }

/-- Takes the newest breadcrumb above a marker. -/
def popAbove (marker : Marker) : Run (Option Breadcrumb) :=
  fun m =>
    match m.ledger.popAbove marker with
    | some (c, ledger) => some (.ok (some c), { m with ledger := ledger })
    | none => some (.ok none, m)

/-- Says whether a reversal is under way. -/
def setReversing (b : Bool) : Run Unit :=
  update fun m => { m with reversing := b }

/-- Says where the statement stands that is begun. -/
def setLocation (l : Location) : Run Unit :=
  update fun m => { m with location := l }

end Run

end Retrace
