import Retrace.Value.Equality

/-!
# Equality of rationals

`Rational.equals` makes up for what the comparison of floats lacks of an
equivalence: there a float that is no number differs from itself. Two floats
compare as equal when both are zeros, of whatever sign, or when they are the
same; so `Rational.equals` says that both are zeros, or both no numbers, or
both the same.
-/

namespace Retrace

open Float.Model

namespace Rational

/-- What a float stands for, taken apart. -/
def unpacked (x : Float) : UnpackedFloat :=
  x.toModel.unpack

/-- Whether both are zeros, of whatever sign. -/
def Zeros : UnpackedFloat → UnpackedFloat → Prop
  | .zero _, .zero _ => True
  | _, _ => False

theorem compare_sign_eq_iff {s t : UnpackedFloat.Sign} : compare s t = .eq ↔ s = t := by
  cases s <;> cases t <;> simp [compare]

theorem compare_finite_iff {s t : UnpackedFloat.Sign} {m n : Nat} {e f : Int} (hm : 0 < m)
    (hn : 0 < n) :
    UnpackedFloat.compare (.finite s m e hm) (.finite t n f hn) = some .eq ↔
      s = t ∧ m = n ∧ e = f := by
  cases s with
  | negative =>
    cases t with
    | negative =>
      change some ((compare e f).then (compare m n)).swap = some .eq ↔ _
      simp [Ordering.swap_eq_eq, Ordering.then_eq_eq, and_comm]
    | positive =>
      change some Ordering.lt = some .eq ↔ _
      simp
  | positive =>
    cases t with
    | negative =>
      change some Ordering.gt = some .eq ↔ _
      simp
    | positive =>
      change some ((compare e f).then (compare m n)) = some .eq ↔ _
      simp [Ordering.then_eq_eq, and_comm]

theorem compare_eq_iff_of_ne {u v : UnpackedFloat} (hc : u.compare v ≠ some .eq)
    (hz : ¬Zeros u v) (huv : u ≠ v) :
    u.compare v = some .eq ↔ Zeros u v ∨ (u = v ∧ u ≠ .notANumber) := by
  refine iff_of_false hc ?_
  rintro (h | ⟨h, -⟩)
  · exact hz h
  · exact huv h

theorem compare_eq_some_eq_iff {u v : UnpackedFloat} :
    u.compare v = some .eq ↔ Zeros u v ∨ (u = v ∧ u ≠ .notANumber) := by
  cases u <;> cases v
  case infinity.infinity s t =>
    change some (compare s t) = some .eq ↔ False ∨ _
    simp [compare_sign_eq_iff]
  case notANumber.notANumber =>
    refine iff_of_false (by rintro ⟨⟩) ?_
    rintro (h | ⟨-, h⟩)
    · exact h
    · exact h rfl
  case zero.zero s t => exact iff_of_true rfl (.inl trivial)
  case finite.finite s m e hm t n f hn =>
    rw [compare_finite_iff]
    constructor
    · rintro ⟨rfl, rfl, rfl⟩
      exact .inr ⟨rfl, by rintro ⟨⟩⟩
    · rintro (h | ⟨h, -⟩)
      · exact absurd h id
      · obtain ⟨rfl, rfl, rfl⟩ := UnpackedFloat.finite.inj h
        exact ⟨rfl, rfl, rfl⟩
  -- Floats of different kinds compare as different, if at all. The sign of one of them
  -- decides how.
  case infinity.zero s _ | infinity.finite s _ _ _ _ | finite.zero s _ _ _ _ =>
    cases s <;> exact compare_eq_iff_of_ne (by rintro ⟨⟩) id (by rintro ⟨⟩)
  case zero.infinity _ t | finite.infinity _ _ _ _ t | zero.finite _ t _ _ _ =>
    cases t <;> exact compare_eq_iff_of_ne (by rintro ⟨⟩) id (by rintro ⟨⟩)
  all_goals exact compare_eq_iff_of_ne (by rintro ⟨⟩) id (by rintro ⟨⟩)

theorem beq_iff {x y : Float} :
    (x == y) = true ↔
      Zeros (unpacked x) (unpacked y) ∨ (unpacked x = unpacked y ∧ unpacked x ≠ .notANumber) := by
  rw [← compare_eq_some_eq_iff]
  change ((unpacked x).compare (unpacked y) == some .eq) = true ↔ _
  rw [beq_iff_eq]

theorem isNaN_iff {x : Float} : x.isNaN = true ↔ unpacked x = .notANumber := by
  change (unpacked x).isNaN = true ↔ _
  cases unpacked x with
  | notANumber => exact iff_of_true rfl rfl
  | infinity s => exact iff_of_false Bool.false_ne_true (by rintro ⟨⟩)
  | zero s => exact iff_of_false Bool.false_ne_true (by rintro ⟨⟩)
  | finite s m e hm => exact iff_of_false Bool.false_ne_true (by rintro ⟨⟩)

/-- Rationals are equal if both are zeros or both stand for the same. -/
theorem equals_iff {x y : Float} :
    equals x y = true ↔ Zeros (unpacked x) (unpacked y) ∨ unpacked x = unpacked y := by
  rw [equals, Bool.or_eq_true, Bool.and_eq_true, beq_iff, isNaN_iff, isNaN_iff]
  constructor
  · rintro ((hz | ⟨h, -⟩) | ⟨hx, hy⟩)
    · exact .inl hz
    · exact .inr h
    · exact .inr (hx.trans hy.symm)
  · rintro (hz | h)
    · exact .inl (.inl hz)
    · by_cases hx : unpacked x = .notANumber
      · exact .inr ⟨hx, h ▸ hx⟩
      · exact .inl (.inr ⟨h, hx⟩)

theorem Zeros.exists_zero {u v : UnpackedFloat} (h : Zeros u v) :
    ∃ s t, u = .zero s ∧ v = .zero t := by
  cases u with
  | zero s =>
    cases v with
    | zero t => exact ⟨s, t, rfl, rfl⟩
    | _ => exact absurd h id
  | _ => exact absurd h id

theorem Zeros.symm {u v : UnpackedFloat} (h : Zeros u v) : Zeros v u := by
  obtain ⟨s, t, rfl, rfl⟩ := h.exists_zero
  exact trivial

theorem Zeros.trans {u v w : UnpackedFloat} (h : Zeros u v) (h' : Zeros v w) : Zeros u w := by
  obtain ⟨s, t, rfl, rfl⟩ := h.exists_zero
  obtain ⟨-, t', -, rfl⟩ := h'.exists_zero
  exact trivial

theorem equals_refl (x : Float) : equals x x = true :=
  equals_iff.2 (.inr rfl)

theorem equals_symm {x y : Float} (h : equals x y = true) : equals y x = true :=
  equals_iff.2 ((equals_iff.1 h).imp Zeros.symm Eq.symm)

theorem equals_trans {x y z : Float} (h : equals x y = true) (h' : equals y z = true) :
    equals x z = true := by
  rw [equals_iff] at h h' ⊢
  rcases h with h | h
  · rcases h' with h' | h'
    · exact .inl (h.trans h')
    · exact .inl (h' ▸ h)
  · rw [h]
    exact h'

end Rational

end Retrace
