import Retrace.Value.Arithmetic
import Mathlib.Algebra.Group.Int.Defs

/-!
# Integers

An operation on two integers is carried out among all integers, and then its result has to
*fit* into a word (`Fits`). So sums, differences and products are exact, or they overflow
(`Value.Exact`).

A quotient is no larger than what is divided, so all quotients fit but one: that of the least
integer and minus one is one larger than the greatest (`fits_tdiv_iff`). The remainder is
smaller than the divisor and goes with the sign of what is divided, so the product of the
quotient and the divisor lies between zero and what is divided, and nothing overflows when
quotient, divisor and remainder are put together again (`Value.Divides`).
-/

namespace Retrace

/-- Whether it is the integer of a word. -/
def Fits (n : Int) : Prop :=
  -2 ^ 63 ≤ n ∧ n < 2 ^ 63

instance : DecidablePred Fits :=
  fun n => inferInstanceAs (Decidable (-2 ^ 63 ≤ n ∧ n < 2 ^ 63))

variable {n : Int} {w : Int64}

theorem fits_toInt (w : Int64) : Fits w.toInt :=
  ⟨w.le_toInt, w.toInt_lt⟩

theorem word?_of_fits (h : Fits n) : word? n = some (Int64.ofInt n) := by
  have hmax : Int64.maxValue.toInt = 2 ^ 63 - 1 := Int64.toInt_maxValue
  rw [word?, if_pos]
  rw [Int64.toInt_minValue, hmax]
  exact ⟨h.1, Int.le_sub_one_of_lt h.2⟩

theorem word?_of_not_fits (h : ¬Fits n) : word? n = none := by
  have hmax : Int64.maxValue.toInt = 2 ^ 63 - 1 := Int64.toInt_maxValue
  rw [word?, if_neg]
  rw [Int64.toInt_minValue, hmax]
  exact fun hn => h ⟨hn.1, Int.lt_of_le_sub_one hn.2⟩

theorem word?_eq_some_iff : word? n = some w ↔ w.toInt = n := by
  constructor
  · intro h
    by_cases hn : Fits n
    · rw [word?_of_fits hn] at h
      rw [← Option.some.inj h, Int64.toInt_ofInt_of_le hn.1 hn.2]
    · exact absurd ((word?_of_not_fits hn).symm.trans h) (by simp)
  · rintro rfl
    rw [word?_of_fits (fits_toInt w), Int64.ofInt_toInt]

/-- The integer of a word gives the word back. -/
theorem word?_toInt (w : Int64) : word? w.toInt = some w :=
  word?_eq_some_iff.2 rfl

namespace Value

variable {op : BinaryOp} {a b : Int64}

theorem exact_of_toInt (h : w.toInt = n) : exact op a b n = .ok (int w) := by
  rw [exact, word?_eq_some_iff.2 h]

theorem exact_of_not_fits (h : ¬Fits n) :
    exact op a b n = .error (.integerOverflow (.binary a op b)) := by
  rw [exact, word?_of_not_fits h]

theorem exact_eq_ok_iff {v : Value} :
    exact op a b n = .ok v ↔ ∃ w : Int64, w.toInt = n ∧ v = int w := by
  constructor
  · intro h
    by_cases hn : Fits n
    · have hw := Int64.toInt_ofInt_of_le hn.1 hn.2
      exact ⟨Int64.ofInt n, hw, Except.ok.inj (h.symm.trans (exact_of_toInt hw))⟩
    · exact absurd ((exact_of_not_fits hn).symm.trans h) (by simp)
  · rintro ⟨w, hw, rfl⟩
    exact exact_of_toInt hw

/-! ### What the operators do with integers -/

theorem binary_add_int (a b : Int64) :
    binary .add (int a) (int b) = exact .add a b (a.toInt + b.toInt) := rfl

theorem binary_sub_int (a b : Int64) :
    binary .sub (int a) (int b) = exact .sub a b (a.toInt - b.toInt) := rfl

theorem binary_mul_int (a b : Int64) :
    binary .mul (int a) (int b) = exact .mul a b (a.toInt * b.toInt) := rfl

theorem binary_div_int (hb : b.toInt ≠ 0) :
    binary .div (int a) (int b) = exact .div a b (a.toInt.tdiv b.toInt) :=
  if_neg hb

theorem binary_div_zero (hb : b.toInt = 0) :
    binary .div (int a) (int b) = .error (.divisionByZero (.binary a .div b)) :=
  if_pos hb

theorem binary_mod_zero (hb : b.toInt = 0) :
    binary .mod (int a) (int b) = .error (.divisionByZero (.binary a .mod b)) :=
  if_pos hb

/-- Where the quotient fits the remainder is the exact one. -/
theorem binary_mod_int (hb : b.toInt ≠ 0) (hq : Fits (a.toInt.tdiv b.toInt)) :
    binary .mod (int a) (int b) = exact .mod a b (a.toInt.tmod b.toInt) := by
  have h : binary .mod (int a) (int b) = remainder a b := rfl
  rw [h, remainder, if_neg hb, word?_of_fits hq]

/-- Where the quotient does not fit there is no remainder either. -/
theorem binary_mod_of_not_fits (hb : b.toInt ≠ 0) (hq : ¬Fits (a.toInt.tdiv b.toInt)) :
    binary .mod (int a) (int b) = .error (.integerOverflow (.binary a .mod b)) := by
  have h : binary .mod (int a) (int b) = remainder a b := rfl
  rw [h, remainder, if_neg hb, word?_of_not_fits hq]

end Value

/-! ### Quotients and remainders -/

section Division

variable {a b : Int}

/-- Of all quotients only that of the least integer and minus one does not fit. -/
theorem fits_tdiv_iff (ha : Fits a) (hb : b ≠ 0) :
    Fits (a.tdiv b) ↔ ¬(a = -2 ^ 63 ∧ b = -1) := by
  constructor
  · rintro h ⟨rfl, rfl⟩
    exact absurd h (by decide)
  · intro h
    have hle := Int.natAbs_tdiv_le_natAbs a b
    by_cases hone : b = -1
    · -- The quotient is the negation, and what is divided is not the least integer.
      subst hone
      rw [Int.tdiv_neg, Int.tdiv_one]
      unfold Fits at *
      omega
    by_cases hone' : b = 1
    · rw [hone', Int.tdiv_one]
      exact ha
    · -- By any other divisor the size is at least halved.
      have hhalf : (a.tdiv b).natAbs ≤ a.natAbs / 2 := by
        rw [Int.natAbs_tdiv]
        exact Nat.div_le_div_left (by omega) (by decide)
      unfold Fits at *
      omega

/-- The remainder lies between zero and what is divided. -/
theorem tmod_between (a b : Int) :
    (0 ≤ a.tmod b ∧ a.tmod b ≤ a) ∨ (a ≤ a.tmod b ∧ a.tmod b ≤ 0) := by
  have hle : (a.tmod b).natAbs ≤ a.natAbs := by
    rw [Int.natAbs_tmod]
    exact Nat.mod_le _ _
  rcases Int.le_total 0 a with ha | ha
  · have hr := Int.tmod_nonneg b ha
    omega
  · have hr := Int.tmod_nonneg b (Int.neg_nonneg_of_nonpos ha)
    rw [Int.neg_tmod] at hr
    omega

theorem fits_tmod (ha : Fits a) (b : Int) : Fits (a.tmod b) := by
  have hr := tmod_between a b
  unfold Fits at *
  omega

/-- The product of the quotient and the divisor is what the remainder leaves of what is divided. -/
theorem fits_tdiv_mul (ha : Fits a) (b : Int) : Fits (a.tdiv b * b) := by
  have hsum : a.tmod b + a.tdiv b * b = a := Int.tmod_add_tdiv_mul a b
  have hr := tmod_between a b
  unfold Fits at *
  omega

/-- The remainder has the sign of what is divided, unless it is zero. -/
theorem tmod_eq_zero_or_sign (a b : Int) : a.tmod b = 0 ∨ (a.tmod b).sign = a.sign := by
  by_cases h : b ∣ a
  · exact .inl (Int.tmod_eq_zero_of_dvd h)
  · exact .inr (by rw [Int.sign_tmod, if_neg h])

theorem natAbs_tmod_lt (hb : b ≠ 0) : (a.tmod b).natAbs < b.natAbs := by
  rw [Int.natAbs_tmod]
  exact Nat.mod_lt _ (Int.natAbs_pos.2 hb)

end Division

namespace Value

/-- The operator gives the given integer if it fits, and overflows otherwise. -/
structure Exact (op : BinaryOp) (a b : Int64) (n : Int) : Prop where
  fits : Fits n → ∃ w : Int64, w.toInt = n ∧ binary op (int a) (int b) = .ok (int w)
  overflows : ¬Fits n → binary op (int a) (int b) = .error (.integerOverflow (.binary a op b))

/-- Two integers have the given quotient and the given remainder, which belong together. -/
structure Divides (a b q r : Int64) : Prop where
  quotient : binary .div (int a) (int b) = .ok (int q)
  remainder : binary .mod (int a) (int b) = .ok (int r)
  /-- Nothing overflows when they are put together again. -/
  restores : ∃ p : Int64, binary .mul (int q) (int b) = .ok (int p) ∧
    binary .add (int p) (int r) = .ok (int a)
  smaller : r.toInt.natAbs < b.toInt.natAbs
  sign : r.toInt = 0 ∨ r.toInt.sign = a.toInt.sign

variable {a b : Int64}

theorem Exact.of_eq {op : BinaryOp} {n : Int} (h : binary op (int a) (int b) = exact op a b n) :
    Exact op a b n where
  fits hn := by
    have hw := Int64.toInt_ofInt_of_le hn.1 hn.2
    exact ⟨Int64.ofInt n, hw, h.trans (exact_of_toInt hw)⟩
  overflows hn := h.trans (exact_of_not_fits hn)

/-- If the quotient fits then there is a remainder, which belongs to it. -/
theorem exists_divides (hb : b.toInt ≠ 0) (hq : Fits (a.toInt.tdiv b.toInt)) :
    ∃ q r, Divides a b q r := by
  have ha := fits_toInt a
  have hr := fits_tmod ha b.toInt
  have hp := fits_tdiv_mul ha b.toInt
  have hq' := Int64.toInt_ofInt_of_le hq.1 hq.2
  have hr' := Int64.toInt_ofInt_of_le hr.1 hr.2
  have hp' := Int64.toInt_ofInt_of_le hp.1 hp.2
  refine ⟨Int64.ofInt (a.toInt.tdiv b.toInt), Int64.ofInt (a.toInt.tmod b.toInt), ?_, ?_,
    ⟨Int64.ofInt (a.toInt.tdiv b.toInt * b.toInt), ?_, ?_⟩, ?_, ?_⟩
  · exact (binary_div_int hb).trans (exact_of_toInt hq')
  · exact (binary_mod_int hb hq).trans (exact_of_toInt hr')
  · rw [binary_mul_int, hq']
    exact exact_of_toInt hp'
  · rw [binary_add_int, hp', hr', Int.add_comm, Int.tmod_add_tdiv_mul]
    exact exact_of_toInt rfl
  · rw [hr']
    exact natAbs_tmod_lt hb
  · rw [hr']
    exact tmod_eq_zero_or_sign a.toInt b.toInt

/-- The only quotient that does not fit is that of the least integer and minus one. -/
theorem fits_quotient_iff (hb : b.toInt ≠ 0) :
    Fits (a.toInt.tdiv b.toInt) ↔ ¬(a = Int64.minValue ∧ b = -1) := by
  have ha : a.toInt = -2 ^ 63 ↔ a = Int64.minValue := by
    rw [← Int64.toInt_inj, Int64.toInt_minValue]
  have hb' : b.toInt = -1 ↔ b = -1 := by
    rw [← Int64.toInt_inj]
    rfl
  rw [fits_tdiv_iff (fits_toInt a) hb, ha, hb']

/-- Arithmetic on integers is exact or a failure. Sums, differences and products are exact if
    they fit; dividing fails by zero, and where the quotient does not fit; elsewhere quotient
    and remainder belong together; and what has been added is taken away again, and the other
    way around. -/
theorem integers_exact (a b : Int64) :
    (Exact .add a b (a.toInt + b.toInt) ∧ Exact .sub a b (a.toInt - b.toInt) ∧
      Exact .mul a b (a.toInt * b.toInt)) ∧
    (b = 0 → binary .div (int a) (int b) = .error (.divisionByZero (.binary a .div b)) ∧
      binary .mod (int a) (int b) = .error (.divisionByZero (.binary a .mod b))) ∧
    (b ≠ 0 → a = Int64.minValue ∧ b = -1 →
      binary .div (int a) (int b) = .error (.integerOverflow (.binary a .div b)) ∧
      binary .mod (int a) (int b) = .error (.integerOverflow (.binary a .mod b))) ∧
    (b ≠ 0 → ¬(a = Int64.minValue ∧ b = -1) → ∃ q r, Divides a b q r) ∧
    (∀ c, binary .add (int a) (int b) = .ok c → binary .sub c (int b) = .ok (int a)) ∧
    ∀ c, binary .sub (int a) (int b) = .ok c → binary .add c (int b) = .ok (int a) := by
  have hzero : b.toInt = 0 ↔ b = 0 := by
    rw [← Int64.toInt_inj]
    rfl
  refine ⟨⟨.of_eq (binary_add_int a b), .of_eq (binary_sub_int a b), .of_eq (binary_mul_int a b)⟩,
    fun hb => ⟨binary_div_zero (hzero.2 hb), binary_mod_zero (hzero.2 hb)⟩, fun hb h => ?_,
    fun hb h => ?_, fun c hc => ?_, fun c hc => ?_⟩
  · have hb' : b.toInt ≠ 0 := mt hzero.1 hb
    have hq : ¬Fits (a.toInt.tdiv b.toInt) := mt (fits_quotient_iff hb').1 (not_not_intro h)
    exact ⟨(binary_div_int hb').trans (exact_of_not_fits hq), binary_mod_of_not_fits hb' hq⟩
  · have hb' : b.toInt ≠ 0 := mt hzero.1 hb
    exact exists_divides hb' ((fits_quotient_iff hb').2 h)
  · obtain ⟨w, hw, rfl⟩ := exact_eq_ok_iff.1 ((binary_add_int a b).symm.trans hc)
    rw [binary_sub_int, hw, Int.add_sub_cancel]
    exact exact_of_toInt rfl
  · obtain ⟨w, hw, rfl⟩ := exact_eq_ok_iff.1 ((binary_sub_int a b).symm.trans hc)
    rw [binary_add_int, hw, Int.sub_add_cancel]
    exact exact_of_toInt rfl

/-- The least integer is divided by three toward zero, and its remainder is negative. -/
theorem integers_exact_least :
    (3 : Int64) ≠ 0 ∧ ¬(Int64.minValue = Int64.minValue ∧ (3 : Int64) = -1) ∧
      ∃ q r, Divides Int64.minValue 3 q r ∧ q.toInt = -3074457345618258602 ∧ r.toInt = -2 := by
  have hb : (3 : Int64) ≠ 0 := by decide
  have h : ¬(Int64.minValue = Int64.minValue ∧ (3 : Int64) = -1) := by decide
  obtain ⟨-, -, -, hdivides, -⟩ := integers_exact Int64.minValue 3
  obtain ⟨q, r, hqr⟩ := hdivides hb h
  have hq : binary .div (int Int64.minValue) (int 3) = .ok (int (-3074457345618258602)) := by rfl
  have hr : binary .mod (int Int64.minValue) (int 3) = .ok (int (-2)) := by rfl
  obtain rfl := int.inj (Except.ok.inj (hqr.quotient.symm.trans hq))
  obtain rfl := int.inj (Except.ok.inj (hqr.remainder.symm.trans hr))
  exact ⟨hb, h, _, _, hqr, by decide, by decide⟩

end Value

end Retrace
