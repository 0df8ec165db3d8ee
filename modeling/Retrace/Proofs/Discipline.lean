import Retrace.Syntax
import Retrace.Proofs.Scopes
import Retrace.Proofs.Value.Closed

/-!
# Disciplines

What is to be known of every value a program handles and of every statement it
runs, and is passed on by whatever makes values of values and statements of
statements: a *discipline*. The functions among the values tie the two together,
as a function is no better than the statements of its body.

One discipline asks for nothing (`Discipline.any`). Another asks that all
statements satisfy `p`, also those in the bodies of the functions that values hold
(`Discipline.holding`), and a third that moreover values are well-formed
(`Discipline.sound`).
-/

namespace Retrace

/-- The statements that make up what a statement does, including the body of a function
    it declares and the statement that undoes it. -/
def Action.parts : Action → List Stmt
  | .block b => b
  | .expr _ undo => undo.toList
  | .ret _ => []
  | .declare (.function _ _ body) => body
  | .declare (.variable _) => []
  | .declare (.classLike _ _) => []
  | .assign _ _ _ => []
  | .step _ _ => []
  | .loop _ _ increment body => increment.toList ++ body
  | .branch arms otherwise => arms.flatMap (·.body) ++ otherwise.getD []
  | .jump _ => []
  | .switch _ cases => cases.flatMap (·.body)
  | .skip body seizes => body ++ seizes.flatMap (·.body)
  | .reverse _ => []

/-- What holds of every value and of every statement. -/
structure Discipline where
  value : Value → Prop
  stmt : Stmt → Prop
  atom : ∀ {v : Value}, v.isAtom → value v
  native : ∀ f, value (.native f)
  function : ∀ {f : Function}, value (.function f) ↔ ∀ s ∈ f.body, stmt s
  pair : ∀ {i v : Value}, value (.pair i v) ↔ value i ∧ value v
  nil : value (.map [])
  store : ∀ {es : Entries} {k v : Value}, value (.map es) → value k → value v →
    value (.map (Entries.store es k v))
  get : ∀ {es : Entries} (k : Value), value (.map es) → value (Entries.get es k)
  parts : ∀ {s : Stmt}, stmt s → ∀ t ∈ s.action.parts, stmt t

namespace Discipline

/-- Nothing is asked for. -/
def any : Discipline where
  value _ := True
  stmt _ := True
  atom _ := trivial
  native _ := trivial
  function := ⟨fun _ _ _ => trivial, fun _ => trivial⟩
  pair := ⟨fun _ => ⟨trivial, trivial⟩, fun _ => trivial⟩
  nil := trivial
  store _ _ _ := trivial
  get _ _ := trivial
  parts _ _ _ := trivial

/-- Every statement satisfies `p`, also those of the functions that values hold. -/
def holding (p : Stmt → Prop) (parts : ∀ {s}, p s → ∀ t ∈ s.action.parts, p t) : Discipline :=
  have hclosed := Value.closed_holds fun f => ∀ s ∈ f.body, p s
  { value := fun v => ∀ f, v.Holds f → ∀ s ∈ f.body, p s
    stmt := p
    atom := hclosed.atom
    native := hclosed.native
    function := Value.holds_function
    pair := hclosed.pair
    nil := hclosed.nil
    store := hclosed.store
    get := hclosed.get
    parts := parts }

/-- Values are well-formed, and every statement satisfies `p`. -/
def sound (p : Stmt → Prop) (parts : ∀ {s}, p s → ∀ t ∈ s.action.parts, p t) : Discipline where
  value := Value.Sound p
  stmt := p
  atom {v} hv := by
    cases v with
    | void => exact .void
    | bool b => exact .bool b
    | str s => exact .str s
    | int n => exact .int n
    | rational x => exact .rational x
    | _ => exact absurd hv (by simp [Value.isAtom])
  native := .native
  function := ⟨fun h => by cases h; assumption, .function⟩
  pair := ⟨fun h => by cases h; exact ⟨‹_›, ‹_›⟩, fun h => .pair h.1 h.2⟩
  nil := .nil
  store := .store
  get k h := h.get k
  parts := parts

theorem closed (D : Discipline) : Value.Closed D.value where
  atom := D.atom
  native := D.native
  pair := D.pair
  nil := D.nil
  store := D.store
  get := D.get

end Discipline

end Retrace
