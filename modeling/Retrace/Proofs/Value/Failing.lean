import Retrace.Proofs.Value.Alike
import Retrace.Value.Literal

/-!
# Ordinary failures

Most failures are due to what a program does (`Failure.Ordinary`): a value of
the wrong kind, a division by zero, a name that is not bound, a limit that is
reached. Three are not: a reversal that nothing took, a handle to a scope that is
gone, and a breadcrumb that could not be restored. Operations on values alone fail
in few ways only (`Failure.Operational`), and ordinarily.
-/

namespace Retrace

/-- Whether it is due neither to a reversal nor to a stale handle, nor to the restoring of a
    breadcrumb. -/
def Failure.Ordinary : Failure → Prop
  | .unhandledReversal _ => False
  | .staleScope _ => False
  | .restoreFailed _ => False
  | _ => True

/-- Whether it is due to the values that an operation was given. -/
def Failure.Operational : Failure → Prop
  | .typeMismatch _ _ => True
  | .invalidLiteral _ _ => True
  | .divisionByZero _ => True
  | .integerOverflow _ => True
  | _ => False

theorem Failure.Operational.ordinary {e : Failure} (h : e.Operational) : e.Ordinary := by
  cases e <;> first | exact trivial | exact absurd h id

namespace Value

variable {a b v root key : Value} {path : List Value} {op : BinaryOp} {e : Failure}

theorem operational_of_ofLiteral {kind : LiteralKind} {lexeme : String}
    (h : ofLiteral kind lexeme = .error e) : e.Operational := by
  cases kind <;> rw [ofLiteral] at h
  case int | rational =>
    split at h
    · exact absurd h (by simp)
    · exact Except.error.inj h ▸ trivial
  all_goals exact absurd h (by simp)

theorem operational_of_expectBool (h : a.expectBool = .error e) : e.Operational := by
  rw [expectBool.eq_def] at h
  split at h
  · exact absurd h (by simp)
  · exact Except.error.inj h ▸ trivial

/-! ### Operators -/

theorem operational_of_exact {m n : Int64} {x : Int} (h : exact op m n x = .error e) :
    e.Operational := by
  rw [exact] at h
  split at h
  · exact absurd h (by simp)
  · exact Except.error.inj h ▸ trivial

theorem operational_of_arithmetic {onInts : Int64 → Int64 → Except Failure Value}
    {onRationals : Float → Float → Float}
    (hints : ∀ m n e, onInts m n = .error e → e.Operational)
    (h : arithmetic op a b onInts onRationals = .error e) : e.Operational := by
  rw [arithmetic] at h
  split at h
  · exact hints _ _ _ h
  · exact absurd h (by simp)
  · exact Except.error.inj h ▸ trivial

theorem operational_of_quotient {m n : Int64} (h : quotient m n = .error e) : e.Operational := by
  rw [quotient] at h
  split at h
  · exact Except.error.inj h ▸ trivial
  · exact operational_of_exact h

theorem operational_of_intPower {m n : Int64} (h : intPower m n = .error e) : e.Operational := by
  rw [intPower] at h
  split at h
  · exact absurd h (by simp)
  · exact Except.error.inj h ▸ trivial

theorem operational_of_add (h : add a b = .error e) : e.Operational := by
  rw [add.eq_def] at h
  split at h
  · exact absurd h (by simp)
  · exact Except.error.inj h ▸ trivial
  · exact Except.error.inj h ▸ trivial
  · exact operational_of_arithmetic (fun _ _ _ => operational_of_exact) h

theorem operational_of_sub (h : sub a b = .error e) : e.Operational :=
  operational_of_arithmetic (fun _ _ _ => operational_of_exact) h

theorem operational_of_remainder {m n : Int64} (h : remainder m n = .error e) : e.Operational := by
  rw [remainder] at h
  split at h
  · exact Except.error.inj h ▸ trivial
  · split at h
    · exact operational_of_exact h
    · exact Except.error.inj h ▸ trivial

theorem operational_of_mod (h : mod a b = .error e) : e.Operational := by
  rw [mod.eq_def] at h
  split at h
  · exact operational_of_remainder h
  · exact Except.error.inj h ▸ trivial

theorem operational_of_compare (h : compare op a b = .error e) : e.Operational := by
  rw [compare] at h
  split at h
  · exact absurd h (by simp)
  · exact absurd h (by simp)
  · exact Except.error.inj h ▸ trivial

theorem operational_of_connect {f : Bool → Bool → Bool} (h : connect op f a b = .error e) :
    e.Operational := by
  rw [connect.eq_def] at h
  split at h
  · exact absurd h (by simp)
  · exact Except.error.inj h ▸ trivial

/-- Operators between two operands fail operationally. -/
theorem operational_of_binary (h : a.binary op b = .error e) : e.Operational := by
  cases op <;> rw [binary.eq_def] at h
  case add => exact operational_of_add h
  case sub => exact operational_of_sub h
  case mul => exact operational_of_arithmetic (fun _ _ _ => operational_of_exact) h
  case div => exact operational_of_arithmetic (fun _ _ _ => operational_of_quotient) h
  case mod => exact operational_of_mod h
  case pow => exact operational_of_arithmetic (fun _ _ _ => operational_of_intPower) h
  case eq | ne => exact absurd h (by simp)
  case lt | le | gt | ge => exact operational_of_compare h
  case and | or => exact operational_of_connect h

/-- Operators on one operand fail operationally. -/
theorem operational_of_unary {op : UnaryOp} (h : a.unary op = .error e) : e.Operational := by
  rw [unary.eq_def] at h
  split at h
  · exact absurd h (by simp)
  · exact Except.error.inj h ▸ trivial
  · split at h
    · exact absurd h (by simp)
    · exact Except.error.inj h ▸ trivial
  · exact absurd h (by simp)
  · exact Except.error.inj h ▸ trivial

theorem operational_of_step {op : StepOp} (h : a.step op = .error e) : e.Operational := by
  cases op with
  | increment => exact operational_of_add h
  | decrement => exact operational_of_sub h

/-! ### Containers -/

theorem operational_of_index (h : a.index key = .error e) : e.Operational := by
  rw [index.eq_def] at h
  split at h
  · exact absurd h (by simp)
  · split at h
    · exact absurd h (by simp)
    · exact Except.error.inj h ▸ trivial
  · exact Except.error.inj h ▸ trivial

theorem operational_of_field {name : String} (h : a.field name = .error e) : e.Operational := by
  rw [field.eq_def] at h
  split at h
  · exact absurd h (by simp)
  · exact Except.error.inj h ▸ trivial

theorem operational_of_readPath (h : root.readPath path = .error e) : e.Operational := by
  induction path generalizing root with
  | nil => exact absurd h (by simp [readPath])
  | cons key path ih =>
    rw [readPath_cons] at h
    cases hk : root.index key with
    | error e' =>
      rw [hk] at h
      exact Except.error.inj h ▸ operational_of_index hk
    | ok child =>
      rw [hk] at h
      exact ih h

/-- Storing along a path fails only where it meets something that is no map. -/
theorem updatePath_eq_error (h : root.updatePath path v = .error e) :
    ∃ w : Value, w.kind ≠ .map ∧ e = .unexpected .map w := by
  induction path generalizing root e with
  | nil => exact absurd h (by simp [updatePath_nil])
  | cons key path ih =>
    cases root with
    | map es =>
      rw [updatePath_map_cons] at h
      cases hc : updatePath (Entries.get es key) path v with
      | error e' =>
        rw [hc] at h
        exact Except.error.inj h ▸ ih hc
      | ok child => exact absurd h (by simp [hc, Except.map])
    | _ =>
      rw [updatePath.eq_def] at h
      exact ⟨_, by simp [kind], (Except.error.inj h).symm⟩

theorem operational_of_updatePath (h : root.updatePath path v = .error e) : e.Operational := by
  obtain ⟨w, -, rfl⟩ := updatePath_eq_error h
  trivial

end Value

end Retrace
