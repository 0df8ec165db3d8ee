import Retrace.Value.Access
import Retrace.Value.Literal

/-!
# Atoms

Values without parts: void, truth values, strings, integers and rationals. A
literal denotes an atom, and every operator gives one. Maps, functions and
pairs thus come from elsewhere.
-/

namespace Retrace.Value

/-- Whether it is a value without parts. -/
def isAtom : Value → Bool
  | void => true
  | bool _ => true
  | str _ => true
  | int _ => true
  | rational _ => true
  | _ => false

variable {a b v : Value} {op : BinaryOp}

theorem isAtom_charAt (s : String) (position : Int64) : (charAt s position).isAtom := by
  rw [charAt]
  split
  · rfl
  · split <;> rfl

theorem isAtom_of_ofLiteral {kind : LiteralKind} {lexeme : String}
    (h : ofLiteral kind lexeme = .ok v) : v.isAtom := by
  cases kind <;> rw [ofLiteral] at h
  case int | rational =>
    split at h
    · exact Except.ok.inj h ▸ rfl
    · exact absurd h (by simp)
  all_goals exact Except.ok.inj h ▸ rfl

theorem isAtom_of_exact {m n : Int64} {x : Int} (h : exact op m n x = .ok v) : v.isAtom := by
  rw [exact] at h
  split at h
  · exact Except.ok.inj h ▸ rfl
  · exact absurd h (by simp)

theorem isAtom_of_arithmetic {onInts : Int64 → Int64 → Except Failure Value}
    {onRationals : Float → Float → Float}
    (hints : ∀ m n v, onInts m n = .ok v → v.isAtom)
    (h : arithmetic op a b onInts onRationals = .ok v) : v.isAtom := by
  rw [arithmetic] at h
  split at h
  · exact hints _ _ _ h
  · exact Except.ok.inj h ▸ rfl
  · exact absurd h (by simp)

theorem isAtom_of_quotient {m n : Int64} (h : quotient m n = .ok v) : v.isAtom := by
  rw [quotient] at h
  split at h
  · exact absurd h (by simp)
  · exact isAtom_of_exact h

theorem isAtom_of_intPower {m n : Int64} (h : intPower m n = .ok v) : v.isAtom := by
  rw [intPower] at h
  split at h
  · exact Except.ok.inj h ▸ rfl
  · exact absurd h (by simp)

theorem isAtom_of_add (h : add a b = .ok v) : v.isAtom := by
  rw [add.eq_def] at h
  split at h
  · exact Except.ok.inj h ▸ rfl
  · exact absurd h (by simp)
  · exact absurd h (by simp)
  · exact isAtom_of_arithmetic (fun _ _ _ => isAtom_of_exact) h

theorem isAtom_of_sub (h : sub a b = .ok v) : v.isAtom :=
  isAtom_of_arithmetic (fun _ _ _ => isAtom_of_exact) h

theorem isAtom_of_remainder {m n : Int64} (h : remainder m n = .ok v) : v.isAtom := by
  rw [remainder] at h
  split at h
  · exact absurd h (by simp)
  · split at h
    · exact isAtom_of_exact h
    · exact absurd h (by simp)

theorem isAtom_of_mod (h : mod a b = .ok v) : v.isAtom := by
  rw [mod.eq_def] at h
  split at h
  · exact isAtom_of_remainder h
  · exact absurd h (by simp)

theorem isAtom_of_compare (h : compare op a b = .ok v) : v.isAtom := by
  rw [compare] at h
  split at h
  · exact Except.ok.inj h ▸ rfl
  · exact Except.ok.inj h ▸ rfl
  · exact absurd h (by simp)

theorem isAtom_of_connect {f : Bool → Bool → Bool} (h : connect op f a b = .ok v) : v.isAtom := by
  rw [connect.eq_def] at h
  split at h
  · exact Except.ok.inj h ▸ rfl
  · exact absurd h (by simp)

/-- Operators between two operands give atoms. -/
theorem isAtom_of_binary (h : a.binary op b = .ok v) : v.isAtom := by
  cases op <;> rw [binary.eq_def] at h
  case add => exact isAtom_of_add h
  case sub => exact isAtom_of_sub h
  case mul => exact isAtom_of_arithmetic (fun _ _ _ => isAtom_of_exact) h
  case div => exact isAtom_of_arithmetic (fun _ _ _ => isAtom_of_quotient) h
  case mod => exact isAtom_of_mod h
  case pow => exact isAtom_of_arithmetic (fun _ _ _ => isAtom_of_intPower) h
  case eq | ne => exact Except.ok.inj h ▸ rfl
  case lt | le | gt | ge => exact isAtom_of_compare h
  case and | or => exact isAtom_of_connect h

/-- Operators on one operand give atoms. -/
theorem isAtom_of_unary {op : UnaryOp} (h : a.unary op = .ok v) : v.isAtom := by
  rw [unary.eq_def] at h
  split at h
  · exact Except.ok.inj h ▸ rfl
  · exact absurd h (by simp)
  · split at h
    · exact Except.ok.inj h ▸ rfl
    · exact absurd h (by simp)
  · exact Except.ok.inj h ▸ rfl
  · exact absurd h (by simp)

theorem isAtom_of_step {op : StepOp} (h : a.step op = .ok v) : v.isAtom := by
  cases op with
  | increment => exact isAtom_of_add h
  | decrement => exact isAtom_of_sub h

end Retrace.Value
