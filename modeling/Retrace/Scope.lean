import Retrace.Failure

/-!
# Scopes

Where names are bound. The scopes that are live stand in a row, the *global*
one first. A new scope is put at the end of the row, so a scope is always
discarded before the ones it was put behind; but its *parent*, where a name is
looked up next, may be any scope: the body of a function has the global scope
for its parent, not the scope of the caller.

A scope is referred to by a handle (`ScopeId`), its slot in the row together
with its *serial number*. Slots are used again when scopes are discarded,
serial numbers are not, so a handle to a scope that is gone is told from one to
the scope that has taken its slot: such a handle is *stale*, and nothing can be
read or bound through it.
-/

namespace Retrace

/-- A handle to a scope. -/
structure ScopeId where
  /-- Where the scope stands. -/
  slot : Nat
  /-- Which scope it is; a later one has a larger number. -/
  serial : Nat
deriving DecidableEq

/-- The names bound in a scope with their values, in the order in which they were
    first bound. No name is bound twice. -/
abbrev Bindings := List (String × Value)

namespace Bindings

/-- The value bound to a name. -/
def get? (bs : Bindings) (name : String) : Option Value :=
  (bs.find? (fun b => b.1 == name)).map (·.2)

/-- Whether a name is bound. -/
def binds (bs : Bindings) (name : String) : Bool :=
  bs.any (fun b => b.1 == name)

/-- Binds a name, in the place of what it was bound to before. -/
def bind (bs : Bindings) (name : String) (value : Value) : Bindings :=
  match bs with
  | [] => [(name, value)]
  | b :: bs => if b.1 == name then (name, value) :: bs else b :: bind bs name value

@[simp] theorem get?_nil (name : String) : get? [] name = none := rfl

theorem get?_cons (b : String × Value) (bs : Bindings) (name : String) :
    get? (b :: bs) name = if b.1 = name then some b.2 else get? bs name := by
  by_cases h : b.1 = name <;> simp [get?, h]

/-- Binding a name changes what that name is bound to, and no other. -/
theorem get?_bind (bs : Bindings) (name other : String) (value : Value) :
    (bs.bind name value).get? other = if name = other then some value else bs.get? other := by
  induction bs with
  | nil => simp [bind, get?_cons]
  | cons b bs ih =>
    by_cases h : b.1 = name
    · by_cases h' : name = other <;> simp [bind, get?_cons, h, h']
    · simp only [bind, beq_iff_eq, h, if_false, get?_cons, ih]
      by_cases h' : name = other
      · subst h'
        simp [h]
      · simp [h']

/-- A name is bound if there is something it is bound to. -/
theorem binds_eq_isSome_get? (bs : Bindings) (name : String) :
    bs.binds name = (bs.get? name).isSome := by
  induction bs with
  | nil => rfl
  | cons b bs ih =>
    by_cases h : b.1 = name
    · simp [binds, get?_cons, h]
    · rw [get?_cons, if_neg h, ← ih]
      simp [binds, h]

end Bindings

/-- A scope. -/
structure Scope where
  serial : Nat
  /-- Where a name not bound here is looked up, none for the global scope. -/
  parent : Option ScopeId
  bindings : Bindings

/-- Binds a name in a scope. -/
def Scope.bind (s : Scope) (name : String) (value : Value) : Scope :=
  { s with bindings := s.bindings.bind name value }

/-- The live scopes. -/
structure Scopes where
  /-- The row of the live scopes. -/
  row : Array Scope
  /-- The serial number of the next scope. -/
  nextSerial : Nat

namespace Scopes

/-- Only the global scope, with nothing bound in it. -/
def initial : Scopes where
  row := #[{ serial := 0, parent := none, bindings := [] }]
  nextSerial := 1

/-- The handle to the global scope. -/
def global : ScopeId := ⟨0, 0⟩

/-- Puts a new scope at the end of the row. -/
def push (ss : Scopes) (parent : ScopeId) : ScopeId × Scopes :=
  (⟨ss.row.size, ss.nextSerial⟩,
    { row := ss.row.push { serial := ss.nextSerial, parent := some parent, bindings := [] }
      nextSerial := ss.nextSerial + 1 })

/-- Discards a scope and whatever stands behind it. -/
def discard (ss : Scopes) (id : ScopeId) : Scopes :=
  { ss with row := ss.row.take id.slot }

/-- Discards every scope but the global one. -/
def discardLocals (ss : Scopes) : Scopes :=
  { ss with row := ss.row.take 1 }

/-- The scope a handle refers to, if it is live. -/
def scope? (ss : Scopes) (id : ScopeId) : Option Scope :=
  ss.row[id.slot]?.filter (fun s => s.serial == id.serial)

/-- Whether a handle refers to a live scope. -/
def contains (ss : Scopes) (id : ScopeId) : Bool :=
  (ss.scope? id).isSome

/-- The scope a handle refers to, which has to be live. -/
def scope (ss : Scopes) (id : ScopeId) : Except Failure Scope :=
  match ss.scope? id with
  | some s => .ok s
  | none => .error (.staleScope id.serial)

/-- The first of `links` scopes, going from parent to parent, that binds `name`. -/
def ownerAmong (ss : Scopes) (name : String) :
    (links : Nat) → (id : ScopeId) → Except Failure (Option ScopeId)
  | 0, _ => .ok none
  | links + 1, id => do
    let s ← ss.scope id
    if s.bindings.binds name then .ok (some id)
    else match s.parent with
      | some parent => ownerAmong ss name links parent
      | none => .ok none

/-- The innermost scope that binds `name`, seen from the scope `id`. A parent is
    older than its child, so the serial number bounds the number of scopes seen. -/
def owner? (ss : Scopes) (id : ScopeId) (name : String) : Except Failure (Option ScopeId) :=
  ss.ownerAmong name (id.serial + 1) id

/-- The innermost scope that binds `name`, which has to exist. -/
def owner (ss : Scopes) (id : ScopeId) (name : String) : Except Failure ScopeId := do
  match ← ss.owner? id name with
  | some owner => .ok owner
  | none => .error (.undefinedName name)

/-- What the scope `id` itself binds `name` to. -/
def getLocal (ss : Scopes) (id : ScopeId) (name : String) : Except Failure (Option Value) := do
  let s ← ss.scope id
  .ok (s.bindings.get? name)

/-- What `name` means in the scope `id`. -/
def get (ss : Scopes) (id : ScopeId) (name : String) : Except Failure Value := do
  match ← ss.getLocal (← ss.owner id name) name with
  | some v => .ok v
  | none => .error (.undefinedName name)

/-- Binds `name` in the scope `id` itself. -/
def define (ss : Scopes) (id : ScopeId) (name : String) (value : Value) : Except Failure Scopes := do
  let _ ← ss.scope id
  .ok { ss with row := ss.row.modify id.slot (·.bind name value) }

/-- Binds `name` anew in the innermost scope that binds it, seen from the scope
    `id`. No name comes into being. -/
def set (ss : Scopes) (id : ScopeId) (name : String) (value : Value) : Except Failure Scopes := do
  ss.define (← ss.owner id name) name value

/-- Binds `name` in the global scope, which is always live. -/
def defineGlobal (ss : Scopes) (name : String) (value : Value) : Scopes :=
  { ss with row := ss.row.modify 0 (·.bind name value) }

end Scopes

end Retrace
