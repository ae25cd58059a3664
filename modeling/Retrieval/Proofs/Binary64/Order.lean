import Retrieval.Proofs.Binary64.Logarithm

set_option autoImplicit false

/-! # Operations that keep the order

Rounding never exchanges two numbers, of whatever signs (`Binary64.le_nearest`), so an operation
that rounds its exact result once keeps the order of the exact results, as a sum does
(`Binary64.add_le_add_right`). The logarithm is calculated in many steps, each of which is monotone
because it rounds down (`logMantissa_mono`). It does not fall at the end of a binade either: there
the series gives the logarithm of 2 that is added for each further binade (`logUnits_mono`). -/

namespace Retrieval

namespace Binary64

/-! ## The order of finite doubles -/

theorem le_finite {s t : Bool} {u v : Nat} (gu : OnGrid u) (gv : OnGrid v) :
    (finite s u gu).le (finite t v gv) = decide (signedUnits s u ≤ signedUnits t v) := by
  simp [le, position, ExtendedInt.lt, ← decide_not]

theorem lt_finite {s t : Bool} {u v : Nat} (gu : OnGrid u) (gv : OnGrid v) :
    (finite s u gu).lt (finite t v gv) = decide (signedUnits s u < signedUnits t v) := by
  simp [lt, position, ExtendedInt.lt]

theorem lt_of_lt_of_le {x y z : Binary64} (hx : x.isFinite = true) (hy : y.isFinite = true)
    (hz : z.isFinite = true) (hlt : x.lt y = true) (hle : y.le z = true) : x.lt z = true := by
  cases x <;> cases y <;> cases z <;> simp_all [isFinite, le_finite, lt_finite]
  omega

/-- What happens to the magnitudes of two numbers keeps their order, if it keeps that of the
magnitudes and leaves a zero as it is. -/
theorem signedUnits_le_of_imp {s t : Bool} {u v m n : Nat} (h : signedUnits s u ≤ signedUnits t v)
    (hle : u ≤ v → m ≤ n) (hge : v ≤ u → n ≤ m) (hu : u = 0 → m = 0) (hv : v = 0 → n = 0) :
    signedUnits s m ≤ signedUnits t n := by
  cases s <;> cases t <;>
    simp only [signedUnits, Bool.false_eq_true, if_false, if_true] at h ⊢ <;> omega

/-! ## Rounding -/

/-- What overflows does so on its own side of zero, so that it keeps the order of what is rounded to
the grid. -/
theorem le_nearest_of_roundToGrid {s t : Bool} {a b c d : Nat}
    (h : signedUnits s (roundToGrid a b) ≤ signedUnits t (roundToGrid c d)) :
    (nearest s a b).le (nearest t c d) = true := by
  have hpos : 0 < unitsLimit := twoPow_pos 2098
  unfold nearest
  split
  · split
    · rw [le_finite]
      exact decide_eq_true h
    · -- only the right side overflows, and not downwards
      cases t with
      | false => rfl
      | true =>
        cases s <;> simp only [signedUnits, Bool.false_eq_true, if_false, if_true] at h <;> omega
  · cases s with
    | true => split <;> cases t <;> rfl
    | false =>
      cases t with
      | false =>
        -- the left side overflows upwards, and the right side is no smaller
        rw [dif_neg]
        · rfl
        · simp only [signedUnits, Bool.false_eq_true, if_false] at h
          omega
      | true =>
        simp only [signedUnits, Bool.false_eq_true, if_false, if_true] at h
        omega

/-- Rounding keeps the order, also across zero and where it overflows. -/
theorem le_nearest {s t : Bool} {a b c d : Nat} (hb : 0 < b) (hd : 0 < d)
    (h : signedUnits s (a * d) ≤ signedUnits t (c * b)) :
    (nearest s a b).le (nearest t c d) = true := by
  have hzero : ∀ {num other den : Nat}, 0 < den → 0 < other → num * other = 0 →
      roundToGrid num den = 0 := by
    intro num other den hden hother hproduct
    rw [(Nat.mul_eq_zero.1 hproduct).resolve_right (Nat.ne_of_gt hother)]
    simpa using roundToGrid_mul_right onGrid_zero hden
  exact le_nearest_of_roundToGrid (signedUnits_le_of_imp h (roundToGrid_mono hb hd)
    (roundToGrid_mono hd hb) (hzero hb hd) (hzero hd hb))

theorem signedUnits_natAbs {negative : Bool} {n : Int} (h : n ≠ 0 → negative = decide (n < 0)) :
    signedUnits negative n.natAbs = n := by
  cases negative with
  | false =>
    have hn : ¬ n < 0 := fun hlt => by simp [hlt, Int.ne_of_lt hlt] at h
    simp only [signedUnits, Bool.false_eq_true, if_false]
    omega
  | true =>
    have hn : ¬ 0 < n := fun hlt => by simp [Int.not_lt.2 (Int.le_of_lt hlt), Int.ne_of_gt hlt] at h
    simp only [signedUnits, if_true]
    omega

theorem signedUnits_mul (negative : Bool) (units factor : Nat) :
    signedUnits negative (units * factor) = signedUnits negative units * factor := by
  cases negative <;> simp [signedUnits]

/-- The same summand keeps the order. -/
theorem add_le_add_right {x y z : Binary64} (hx : x.isFinite = true) (hy : y.isFinite = true)
    (hz : z.isFinite = true) (h : x.le y = true) : (x.add z).le (y.add z) = true := by
  cases x with
  | finite s u gu =>
    cases y with
    | finite t v gv =>
      cases z with
      | finite r w gw =>
        have hle : signedUnits s u ≤ signedUnits t v := by simpa [le_finite] using h
        refine le_nearest Nat.one_pos Nat.one_pos ?_
        rw [Nat.mul_one, Nat.mul_one, signedUnits_natAbs (by simp +contextual),
          signedUnits_natAbs (by simp +contextual)]
        omega
      | _ => cases hz
    | _ => cases hy
  | _ => cases hx

end Binary64

/-! ## The logarithm -/

/-- Each term of the series is monotone in the square and in the power. -/
theorem artanhSum_mono {square square' : Nat} (hsquare : square ≤ square') (terms : Nat)
    {power power' : Nat} (hpower : power ≤ power') (exponent : Nat) :
    artanhSum square terms power exponent ≤ artanhSum square' terms power' exponent := by
  induction terms generalizing power power' exponent with
  | zero => exact Nat.le_refl _
  | succ terms ih =>
    have hnext : power * square / fixedOne ≤ power' * square' / fixedOne :=
      Nat.div_le_div_right (Nat.mul_le_mul hpower hsquare)
    exact Nat.add_le_add (Nat.div_le_div_right hpower) (ih hnext (exponent + 2))

theorem artanhFixed_mono {z z' : Nat} (h : z ≤ z') : artanhFixed z ≤ artanhFixed z' :=
  artanhSum_mono (Nat.div_le_div_right (Nat.mul_le_mul h h)) _ h 1

theorem logMantissa_mono {m n den : Nat} (hden : 0 < den) (hm : den ≤ m) (h : m ≤ n) :
    logMantissa m den ≤ logMantissa n den := by
  have hargument : (m - den) * fixedOne / (m + den) ≤ (n - den) * fixedOne / (n + den) := by
    apply div_le_div_of_ratio (by omega) (by omega)
    obtain ⟨k, rfl⟩ := Nat.exists_eq_add_of_le hm
    obtain ⟨l, rfl⟩ := Nat.exists_eq_add_of_le h
    calc (den + k - den) * fixedOne * (den + k + l + den)
        = fixedOne * (k * (2 * den + k) + k * l) := by
          rw [Nat.add_sub_cancel_left]
          ring
      _ ≤ fixedOne * (k * (2 * den + k) + (2 * den + k) * l) :=
          Nat.mul_le_mul_left _ (Nat.add_le_add_left (Nat.mul_le_mul_right l (by omega)) _)
      _ = (den + k + l - den) * fixedOne * (den + k + den) := by
          rw [Nat.add_assoc, Nat.add_sub_cancel_left]
          ring
  exact Nat.mul_le_mul_left 2 (artanhFixed_mono hargument)

/-- The series counts the end of a binade as one more doubling. -/
theorem logMantissa_two_mul {den : Nat} (hden : 0 < den) : logMantissa (2 * den) den = logTwo := by
  have hargument : (2 * den - den) * fixedOne / (2 * den + den) =
      (2 - 1) * fixedOne / (2 + 1) := by
    rw [show 2 * den - den = den * (2 - 1) from by omega,
      show 2 * den + den = den * (2 + 1) from by omega, Nat.mul_assoc,
      Nat.mul_div_mul_left _ _ hden]
  rw [logTwo, logMantissa, logMantissa, hargument]

theorem logUnits_mono {u v : Nat} (hu : u ≠ 0) (h : u ≤ v) : logUnits u ≤ logUnits v := by
  have hv : v ≠ 0 := by omega
  have hlow := twoPow_log2_le hu
  have hlog : u.log2 ≤ v.log2 := le_log2_of_twoPow_le (Nat.le_trans hlow h)
  rcases Nat.lt_or_eq_of_le hlog with hlt | heq
  · -- the mantissa of `u` is below 2, and `v` has at least one more doubling
    have hmantissa : logMantissa u (twoPow u.log2) ≤ logTwo := by
      rw [← logMantissa_two_mul (twoPow_pos u.log2), ← twoPow_succ]
      exact logMantissa_mono (twoPow_pos _) hlow (Nat.le_of_lt (lt_twoPow_log2_succ u))
    have hdoublings : ((u.log2 : Int) - 1074 + 1) * logTwo ≤ ((v.log2 : Int) - 1074) * logTwo :=
      Int.mul_le_mul_of_nonneg_right (by omega) (Int.natCast_nonneg _)
    calc logUnits u ≤ ((u.log2 : Int) - 1074) * logTwo + logTwo := by
          exact Int.add_le_add_left (Int.ofNat_le.2 hmantissa) _
      _ = ((u.log2 : Int) - 1074 + 1) * logTwo := by ring
      _ ≤ ((v.log2 : Int) - 1074) * logTwo := hdoublings
      _ ≤ logUnits v := Int.le_add_of_nonneg_right (Int.natCast_nonneg _)
  · have hmantissa := logMantissa_mono (twoPow_pos u.log2) hlow h
    rw [logUnits, logUnits, ← heq]
    exact Int.add_le_add_left (Int.ofNat_le.2 hmantissa) _

/-- The logarithm keeps the order. -/
theorem Binary64.logOf_mono {u v : Nat} (hu : u ≠ 0) (h : u ≤ v) :
    (logOf u).le (logOf v) = true := by
  have hpos : 0 < fixedOne := twoPow_pos 256
  refine le_nearest hpos hpos ?_
  simp only [signedUnits_mul, signedUnits_natAbs fun _ => rfl]
  exact Int.mul_le_mul_of_nonneg_right
    (Int.mul_le_mul_of_nonneg_right (logUnits_mono hu h) (Int.natCast_nonneg _))
    (Int.natCast_nonneg _)

end Retrieval
