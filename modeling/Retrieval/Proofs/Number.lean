import Retrieval.Number
import Retrieval.Proofs.Binary64
import Retrieval.Proofs.Traversal

set_option autoImplicit false

/-! # Arithmetic that succeeds

Operations on numbers can fail, because an integer may be too large for a double and a divisor may
be zero. These are the cases in which they cannot: small integers, doubles among themselves, and a
quotient of integers that is not too large. Of a division by a magnitude that is not exceeded, one
cause of failure is left (`Number.div_abs_eq_error`). -/

namespace Retrieval

namespace Number

/-! ## Small integers -/

theorem toDouble_int_zero : (int 0).toDouble = .ok .zero := by
  have hzero : Binary64.ofInt 0 = .zero := by decide +kernel
  rw [toDouble, hzero]
  rfl

theorem toDouble_int_one : (int 1).toDouble = .ok .one := by
  have hone : Binary64.ofInt 1 = .one := by decide +kernel
  rw [toDouble, hone]
  rfl

/-- Adding the integer 1 never fails. -/
theorem add_int_one (n : Number) : n.add (.int 1) = .ok n.succ := by
  cases n with
  | int m => rfl
  | double x =>
    rw [add, toDouble_int_one]
    · rfl
    · exact nofun

/-- A sum that starts from the integer zero becomes a double with its first summand. -/
theorem int_zero_add (x : Binary64) :
    (int 0).add (double x) = .ok (double (Binary64.zero.add x)) := by
  rw [add, toDouble_int_zero]
  · rfl
  · exact nofun

/-! ## Doubles -/

theorem add_int (m n : Int) : (int m).add (int n) = .ok (int (m + n)) := rfl

theorem mul_int (m n : Int) : (int m).mul (int n) = .ok (int (m * n)) := rfl

theorem add_double (x y : Binary64) : (double x).add (double y) = .ok (double (x.add y)) := rfl

theorem mul_double (x y : Binary64) : (double x).mul (double y) = .ok (double (x.mul y)) := rfl

theorem div_double (x : Binary64) {y : Binary64} (h : y.isZero = false) :
    (double x).div (double y) = .ok (x.div y) := by
  show (if y.isZero = true then Except.error ArithmeticError.doubleDivisionByZero
    else .ok (x.div y)) = _
  rw [h, if_neg Bool.false_ne_true]

/-! ## Quotients of integers -/

/-- A quotient by a natural is rounded, and it is finite if it is not too large. -/
theorem div_int {m : Int} {n : Nat} (hn : 0 < n) (hm : m.natAbs ≤ n * twoPow 1000) :
    (int m).div (int n) = .ok (.nearest (decide (m < 0)) (m.natAbs * unitsPerOne) n) ∧
      roundToGrid (m.natAbs * unitsPerOne) n < unitsLimit := by
  have hsign : (decide (m < 0) != decide ((n : Int) < 0)) = decide (m < 0) := by
    have hn' : ¬ (n : Int) < 0 := by omega
    simp [hn']
  have hzero : ¬ (n : Int) = 0 := by omega
  have hquotient : m.natAbs * unitsPerOne / n ≤ twoPow 2096 := by
    apply Nat.div_le_of_le_mul
    have hle : m.natAbs * unitsPerOne ≤ n * (twoPow 1000 * twoPow 1074) := by
      rw [← Nat.mul_assoc]
      exact Nat.mul_le_mul_right _ hm
    rw [← twoPow_add] at hle
    exact Nat.le_trans hle (Nat.mul_le_mul_left n (twoPow_le_twoPow (by omega)))
  have hlimit := roundToGrid_lt_limit hquotient
  refine ⟨?_, hlimit⟩
  rw [div, intQuotient, if_neg hzero, hsign, Int.natAbs_natCast, Binary64.ofRatio,
    Binary64.nearest_of_lt_limit hlimit]
  rfl

/-- A quotient of naturals that is not too large is a finite double. -/
theorem div_natCast {m n : Nat} (hn : 0 < n) (hm : m ≤ n * twoPow 1000) :
    ∃ grid, (int m).div (int n) =
      .ok (.finite false (roundToGrid (m * unitsPerOne) n) grid) := by
  obtain ⟨hdiv, hlimit⟩ := div_int (m := m) hn (by rwa [Int.natAbs_natCast])
  have hsign : decide ((m : Int) < 0) = false := decide_eq_false (by omega)
  rw [Int.natAbs_natCast] at hdiv hlimit
  exact ⟨onGrid_roundToGrid hlimit, by rw [hdiv, hsign, Binary64.nearest_of_lt_limit hlimit]⟩

/-! ## The order of numbers -/

theorem lt_irrefl (x : Number) : x.lt x = false := by
  rw [lt]
  cases x.position with
  | none => rfl
  | some p => exact p.lt_irrefl

/-- What is not above a number is not above a greater one. -/
theorem not_lt_of_lt {x y z : Number} (hxy : x.lt y = true) (hxz : x.lt z = false) :
    y.lt z = false := by
  simp only [lt] at hxy hxz ⊢
  cases hy : y.position with
  | none => rfl
  | some q =>
    cases hx : x.position with
    | none => simp [hx] at hxy
    | some p =>
      cases hz : z.position with
      | none => rfl
      | some r =>
        simp only [hx, hy, hz] at hxy hxz ⊢
        exact ExtendedInt.not_lt_trans hxz (ExtendedInt.lt_asymm hxy)

theorem lt_int (m n : Int) : (int m).lt (int n) = decide (m < n) := by
  have hpos : (0 : Int) < unitsPerOne := Int.natCast_pos.2 unitsPerOne_pos
  simp only [lt, position, ExtendedInt.lt, Int.mul_lt_mul_right hpos]

@[simp]
theorem isZero_abs (x : Number) : x.abs.isZero = x.isZero := by
  cases x with
  | int n =>
    rw [abs, isZero, isZero, Bool.eq_iff_iff, beq_iff_eq, beq_iff_eq]
    omega
  | double x => cases x <;> rfl

/-! ## Division by a magnitude that is not exceeded -/

/-- Whether a number is an integer rather than a double. -/
def isInt : Number → Bool
  | int _ => true
  | double _ => false

/-- Integers among themselves can be divided however large they are. -/
theorem div_int_abs {m n : Int} (hn : n ≠ 0) (hle : (int n).abs.lt (int m).abs = false) :
    (int m).div (int n).abs =
      .ok (.nearest (decide (m < 0)) (m.natAbs * unitsPerOne) n.natAbs) := by
  have hpos : 0 < n.natAbs := Int.natAbs_pos.2 hn
  have hbound : m.natAbs ≤ n.natAbs * twoPow 1000 := by
    have := Nat.le_mul_of_pos_right n.natAbs (twoPow_pos 1000)
    simp only [abs, lt_int, decide_eq_false_iff_not] at hle
    omega
  exact (div_int hpos hbound).1

/-- A division by a number of the same kind succeeds. -/
theorem exists_div_abs_eq_ok {x y : Number} (hkind : x.isInt = y.isInt) (hy : y.isZero = false)
    (hle : y.abs.lt x.abs = false) : ∃ quotient, x.div y.abs = .ok quotient := by
  cases y with
  | int n =>
    cases x with
    | int m => exact ⟨_, div_int_abs (ne_of_beq_false hy) hle⟩
    | double a => cases hkind
  | double b =>
    cases x with
    | int m => cases hkind
    | double a => exact ⟨_, div_double a ((isZero_abs (.double b)).trans hy)⟩

/-- A number divided by its own magnitude has a square of at least 1, or it is not-a-number. -/
theorem exists_div_abs_self {x : Number} (hx : x.isZero = false) :
    ∃ quotient, x.div x.abs = .ok quotient ∧ (quotient.mul quotient).AtLeastOne := by
  cases x with
  | int n =>
    have hn : n ≠ 0 := ne_of_beq_false hx
    have hquotient : unitsPerOne ≤ n.natAbs * unitsPerOne / n.natAbs :=
      Nat.le_of_eq (Nat.mul_div_cancel_left _ (Int.natAbs_pos.2 hn)).symm
    exact ⟨_, div_int_abs hn (lt_irrefl _), Binary64.atLeastOne_sq_nearest _ hquotient⟩
  | double a =>
    have hzero : a.abs.isZero = false := (isZero_abs (.double a)).trans hx
    exact ⟨_, div_double a hzero, Binary64.atLeastOne_sq_div_abs hzero⟩

/-! ## Why a division fails -/

theorem toDouble_eq_error {x : Number} {error : ArithmeticError} (h : x.toDouble = .error error) :
    error = .integerTooLarge := by
  cases x with
  | double x => cases h
  | int n =>
    rw [toDouble] at h
    cases hn : Binary64.ofInt n with
    | infinite negative =>
      rw [hn] at h
      cases h
      rfl
    | _ =>
      rw [hn] at h
      cases h

/-- A number other than zero does not become zero as a double. -/
theorem isZero_of_toDouble {x : Number} {a : Binary64} (h : x.toDouble = .ok a)
    (hx : x.isZero = false) : a.isZero = false := by
  cases x with
  | double x =>
    cases h
    exact hx
  | int n =>
    have hn : n ≠ 0 := ne_of_beq_false hx
    have hunits : twoPow 0 ≤ n.natAbs * unitsPerOne / 1 := by
      rw [Nat.div_one]
      exact Nat.mul_pos (Int.natAbs_pos.2 hn) unitsPerOne_pos
    rw [toDouble, Binary64.ofInt, Binary64.ofRatio] at h
    rcases Binary64.nearest_cases (decide (n < 0)) (n.natAbs * unitsPerOne) 1 with
      ⟨grid, heq⟩ | heq
    · rw [heq] at h
      cases h
      exact beq_false_of_ne (Nat.ne_of_gt (twoPow_le_roundToGrid hunits))
    · rw [heq] at h
      cases h

/-- Where an integer meets a double, it becomes a double first. -/
theorem div_of_double {x y : Number} (h : x.isInt = false ∨ y.isInt = false) :
    x.div y = (do
      let a ← x.toDouble
      let b ← y.toDouble
      if b.isZero then .error .doubleDivisionByZero else .ok (a.div b)) := by
  cases x with
  | double a => cases y <;> rfl
  | int m =>
    cases y with
    | double b => rfl
    | int n => simp [isInt] at h

/-- If a double takes part, a division by a number other than zero fails only with an integer that
is too large. -/
theorem error_of_double {x y : Number} {error : ArithmeticError}
    (hdouble : x.isInt = false ∨ y.isInt = false) (hy : y.isZero = false)
    (h : x.div y = .error error) : error = .integerTooLarge := by
  rw [div_of_double hdouble] at h
  cases ha : x.toDouble with
  | error cause =>
    rw [ha, error_bind] at h
    cases h
    exact toDouble_eq_error ha
  | ok a =>
    cases hb : y.toDouble with
    | error cause =>
      rw [ha, hb, ok_bind, error_bind] at h
      cases h
      exact toDouble_eq_error hb
    | ok b =>
      rw [ha, hb, ok_bind, ok_bind, isZero_of_toDouble hb hy, if_neg Bool.false_ne_true] at h
      cases h

/-- A division by a magnitude that is not zero and not exceeded fails only with an integer that is
too large for a double, and this only if it meets a double. -/
theorem div_abs_eq_error {x y : Number} {error : ArithmeticError} (hy : y.isZero = false)
    (hle : y.abs.lt x.abs = false) (h : x.div y.abs = .error error) : error = .integerTooLarge := by
  have hzero : y.abs.isZero = false := by rwa [isZero_abs]
  cases x with
  | double a => exact error_of_double (Or.inl rfl) hzero h
  | int m =>
    cases y with
    | double b => exact error_of_double (Or.inr rfl) hzero h
    | int n =>
      rw [div_int_abs (ne_of_beq_false hy) hle] at h
      cases h

end Number

end Retrieval
