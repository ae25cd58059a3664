import Mathlib.Tactic.Linarith
import Mathlib.Tactic.Ring
import Mathlib.Tactic.SplitIfs
import Retrieval.Proofs.Binary64

set_option autoImplicit false

/-! # Rounding as a function of the ratio

Rounding to the grid depends on the ratio of the two naturals alone, and it is monotone in the ratio
(`roundToGrid_mono`): within a binade the step is the same, and between two binades lies a power of
two that is not crossed. What is on the grid is kept. So a magnitude on the grid bounds what is
rounded if it bounds it before (`roundToGrid_le_of_le`), and `Binary64.Within` follows such bounds
through sums and products. A sum that has grown to `2 ^ 53` takes no further summand of magnitude 1
(`roundToGrid_saturated`), hence sums of these stay finite however many there are. -/

namespace Retrieval

/-! ## Ratios of naturals -/

theorem div_le_div_of_ratio {a b c d : Nat} (hb : 0 < b) (hd : 0 < d) (h : a * d ≤ c * b) :
    a / b ≤ c / d := by
  rw [Nat.le_div_iff_mul_le hd]
  refine Nat.le_of_mul_le_mul_right ?_ hb
  calc a / b * d * b = a / b * b * d := Nat.mul_right_comm _ _ _
    _ ≤ a * d := Nat.mul_le_mul_right d (Nat.div_mul_le_self a b)
    _ ≤ c * b := h

/-- Of two ratios with the same whole part, the greater has the greater rest. -/
theorem mod_le_mod_of_ratio {a b c d : Nat} (hq : a / b = c / d) (h : a * d ≤ c * b) :
    a % b * d ≤ c % d * b := by
  have ha : a * d = a / b * (b * d) + a % b * d := by
    conv_lhs => rw [← Nat.div_add_mod a b]
    ring
  have hc : c * b = a / b * (b * d) + c % d * b := by
    conv_lhs => rw [← Nat.div_add_mod c d, ← hq]
    ring
  omega

theorem roundHalfEven_mono {a b c d : Nat} (hb : 0 < b) (hd : 0 < d) (h : a * d ≤ c * b) :
    roundHalfEven a b ≤ roundHalfEven c d := by
  have hle := div_le_div_of_ratio hb hd h
  rcases Nat.lt_or_eq_of_le hle with hlt | hq
  · calc roundHalfEven a b ≤ a / b + 1 := roundHalfEven_le_div_add_one a b
      _ ≤ c / d := hlt
      _ ≤ roundHalfEven c d := div_le_roundHalfEven c d
  · -- the same whole part: if the lesser rest is past the middle, so is the greater
    have hr := mod_le_mod_of_ratio hq h
    have hpast : b < 2 * (a % b) → d < 2 * (c % d) := by
      intro hpast
      by_contra hlow
      nlinarith
    have hmiddle : b ≤ 2 * (a % b) → d ≤ 2 * (c % d) := by
      intro hmiddle
      by_contra hlow
      nlinarith
    simp only [roundHalfEven, hq]
    split_ifs <;> omega

/-- Rounding to a natural gives one that is at most half of one away. -/
theorem roundHalfEven_error (num : Nat) {den : Nat} (hden : 0 < den) :
    2 * (roundHalfEven num den * den) ≤ 2 * num + den ∧
      2 * num ≤ 2 * (roundHalfEven num den * den) + den := by
  have hnum := Nat.div_add_mod num den
  have hrest := Nat.mod_lt num hden
  have hnext : (num / den + 1) * den = den * (num / den) + den := by ring
  simp only [roundHalfEven]
  split_ifs with hlow hhigh
  · rw [Nat.mul_comm (num / den)]
    omega
  · omega
  · rcases Nat.mod_two_eq_zero_or_one (num / den) with heven | hodd
    · rw [heven, Nat.add_zero, Nat.mul_comm (num / den)]
      omega
    · rw [hodd]
      omega

/-- Nothing but the natural nearest to a ratio is less than half of one away. -/
theorem roundHalfEven_eq_of_near {m num den : Nat} (hlow : 2 * m * den < 2 * num + den)
    (hhigh : 2 * num < 2 * m * den + den) : roundHalfEven num den = m := by
  have hden : 0 < den := by omega
  obtain ⟨herror, herror'⟩ := roundHalfEven_error num hden
  have hle : roundHalfEven num den < m + 1 := by
    refine Nat.lt_of_mul_lt_mul_right (a := den) ?_
    nlinarith
  have hge : m < roundHalfEven num den + 1 := by
    refine Nat.lt_of_mul_lt_mul_right (a := den) ?_
    nlinarith
  omega

/-! ## Rounding to the grid -/

theorem gridStep_pos (num den : Nat) : 0 < gridStep num den := twoPow_pos _

theorem roundToGrid_mono {a b c d : Nat} (hb : 0 < b) (hd : 0 < d) (h : a * d ≤ c * b) :
    roundToGrid a b ≤ roundToGrid c d := by
  have hle := div_le_div_of_ratio hb hd h
  have hlog : (a / b).log2 ≤ (c / d).log2 := by
    by_cases hzero : a / b = 0
    · rw [hzero]
      exact Nat.zero_le _
    · exact le_log2_of_twoPow_le (Nat.le_trans (twoPow_log2_le hzero) hle)
  rcases Nat.lt_or_eq_of_le hlog with hlt | heq
  · -- the power of two between the binades
    have hpos : c / d ≠ 0 := by
      intro hzero
      rw [hzero] at hlt
      exact absurd hlt (Nat.not_lt_zero _)
    calc roundToGrid a b ≤ twoPow ((a / b).log2 + 1) := roundToGrid_le a b
      _ ≤ twoPow (c / d).log2 := twoPow_le_twoPow hlt
      _ ≤ roundToGrid c d := twoPow_log2_le_roundToGrid hpos
  · have hstep : gridStep a b = gridStep c d := by rw [gridStep, gridStep, heq]
    have hpos := gridStep_pos c d
    rw [roundToGrid, roundToGrid, hstep]
    apply Nat.mul_le_mul_right
    apply roundHalfEven_mono (Nat.mul_pos hb hpos) (Nat.mul_pos hd hpos)
    calc a * (d * gridStep c d) = a * d * gridStep c d := (Nat.mul_assoc _ _ _).symm
      _ ≤ c * b * gridStep c d := Nat.mul_le_mul_right _ h
      _ = c * (b * gridStep c d) := Nat.mul_assoc _ _ _

/-- Equal ratios are rounded alike. -/
theorem roundToGrid_congr {a b c d : Nat} (hb : 0 < b) (hd : 0 < d) (h : a * d = c * b) :
    roundToGrid a b = roundToGrid c d :=
  Nat.le_antisymm (roundToGrid_mono hb hd (Nat.le_of_eq h))
    (roundToGrid_mono hd hb (Nat.le_of_eq h.symm))

/-- What is on the grid is kept. -/
theorem roundToGrid_mul_right {n den : Nat} (h : OnGrid n) (hden : 0 < den) :
    roundToGrid (n * den) den = n := by
  obtain ⟨m, hm⟩ := h.1
  have hstep : gridStep (n * den) den = twoPow (n.log2 - 52) := by
    rw [gridStep, Nat.mul_div_cancel n hden]
  have hsplit : n * den = m * (den * twoPow (n.log2 - 52)) := by
    conv_lhs => rw [hm]
    ring
  rw [roundToGrid, hstep, hsplit, roundHalfEven_mul_right m (Nat.mul_pos hden (twoPow_pos _)),
    Nat.mul_comm, ← hm]

theorem onGrid_zero : OnGrid 0 := ⟨Nat.dvd_zero _, twoPow_pos 2098⟩

/-- A bound on the grid bounds the rounded number too. -/
theorem roundToGrid_le_of_le {bound num den : Nat} (hbound : OnGrid bound) (hden : 0 < den)
    (h : num ≤ bound * den) : roundToGrid num den ≤ bound :=
  calc roundToGrid num den ≤ roundToGrid (bound * den) den :=
        roundToGrid_mono hden hden (Nat.mul_le_mul_right den h)
    _ = bound := roundToGrid_mul_right hbound hden

/-! ## Whole numbers up to `2 ^ 53` -/

theorem onGrid_twoPow {k : Nat} (h : k ≤ 2097) : OnGrid (twoPow k) := by
  have hone : 1 < twoPow 53 := by decide
  have hlimit : 1 * twoPow k < unitsLimit := by
    rw [Nat.one_mul]
    have hlt : twoPow k < twoPow (k + 1) := by
      rw [twoPow_succ]
      have := twoPow_pos k
      omega
    exact Nat.lt_of_lt_of_le hlt (twoPow_le_twoPow (by omega))
  rw [← Nat.one_mul (twoPow k)]
  exact onGrid_mul_twoPow hone hlimit

theorem onGrid_unitsPerOne : OnGrid unitsPerOne := onGrid_twoPow (by omega)

/-- What a sum of so many summands of magnitude at most 1 can grow to, in units. From `2 ^ 53` on,
one more summand is rounded away. -/
def sumLimit (summands : Nat) : Nat := min summands (twoPow 53) * unitsPerOne

theorem onGrid_sumLimit (summands : Nat) : OnGrid (sumLimit summands) := by
  rw [sumLimit]
  rcases Nat.lt_or_ge summands (twoPow 53) with hlt | hge
  · rw [Nat.min_eq_left (Nat.le_of_lt hlt)]
    exact onGrid_mul_twoPow hlt (mul_twoPow_lt_unitsLimit hlt (by omega))
  · rw [Nat.min_eq_right hge, unitsPerOne, ← twoPow_add]
    exact onGrid_twoPow (by omega)

theorem roundToGrid_saturated :
    roundToGrid (twoPow 53 * unitsPerOne + unitsPerOne) 1 = twoPow 53 * unitsPerOne := by
  decide +kernel

/-- One more summand. -/
theorem roundToGrid_sumLimit_le {summands num : Nat} (h : num ≤ sumLimit summands + unitsPerOne) :
    roundToGrid num 1 ≤ sumLimit (summands + 1) := by
  rcases Nat.lt_or_ge summands (twoPow 53) with hlt | hge
  · have hnext : summands + 1 ≤ twoPow 53 := hlt
    have hlimit : sumLimit summands + unitsPerOne = sumLimit (summands + 1) * 1 := by
      rw [sumLimit, sumLimit, Nat.min_eq_left (Nat.le_of_lt hlt), Nat.min_eq_left hnext]
      ring
    exact roundToGrid_le_of_le (onGrid_sumLimit _) Nat.one_pos (hlimit ▸ h)
  · have hlimit : sumLimit summands = twoPow 53 * unitsPerOne := by
      rw [sumLimit, Nat.min_eq_right hge]
    have hlimit' : sumLimit (summands + 1) = twoPow 53 * unitsPerOne := by
      rw [sumLimit, Nat.min_eq_right (Nat.le_succ_of_le hge)]
    rw [hlimit] at h
    rw [hlimit', ← roundToGrid_saturated]
    exact roundToGrid_mono Nat.one_pos Nat.one_pos (Nat.mul_le_mul_right 1 h)

/-! ## Doubles within a bound -/

namespace Binary64

theorem nearest_eq_finite {negative : Bool} {num den units : Nat} (grid : OnGrid units)
    (h : roundToGrid num den = units) : nearest negative num den = finite negative units grid := by
  subst h
  exact nearest_of_lt_limit grid.2

theorem nearest_congr (negative : Bool) {a b c d : Nat} (hb : 0 < b) (hd : 0 < d)
    (h : a * d = c * b) : nearest negative a b = nearest negative c d := by
  simp only [nearest, roundToGrid_congr hb hd h]

/-- Neither infinite nor not-a-number. -/
def isFinite : Binary64 → Bool
  | finite .. => true
  | _ => false

/-- Finite, and of a magnitude of at most so many units. -/
inductive Within (bound : Nat) : Binary64 → Prop
  | finite (negative : Bool) {units : Nat} (grid : OnGrid units) (h : units ≤ bound) :
      Within bound (finite negative units grid)

theorem Within.isFinite {bound : Nat} {x : Binary64} (h : x.Within bound) : x.isFinite = true := by
  cases h
  rfl

theorem Within.mono {bound greater : Nat} {x : Binary64} (h : x.Within bound)
    (hle : bound ≤ greater) : x.Within greater := by
  cases h with
  | finite negative grid h => exact .finite negative grid (Nat.le_trans h hle)

theorem within_zero (bound : Nat) : Binary64.zero.Within bound := .finite false _ (Nat.zero_le _)

theorem within_nearest_of_roundToGrid_le {bound num den : Nat} (hbound : OnGrid bound)
    (h : roundToGrid num den ≤ bound) (negative : Bool) :
    (nearest negative num den).Within bound := by
  rw [nearest_of_lt_limit (Nat.lt_of_le_of_lt h hbound.2)]
  exact .finite negative _ h

theorem within_nearest {bound num den : Nat} (hbound : OnGrid bound) (hden : 0 < den)
    (h : num ≤ bound * den) (negative : Bool) : (nearest negative num den).Within bound :=
  within_nearest_of_roundToGrid_le hbound (roundToGrid_le_of_le hbound hden h) negative

theorem natAbs_signedUnits (negative : Bool) (units : Nat) :
    (signedUnits negative units).natAbs = units := by
  cases negative <;> simp [signedUnits]

theorem Within.add {a b bound : Nat} {x y : Binary64} (hx : x.Within a) (hy : y.Within b)
    (hbound : OnGrid bound) (h : ∀ num, num ≤ a + b → roundToGrid num 1 ≤ bound) :
    (x.add y).Within bound := by
  cases hx with
  | @finite s u gu hu =>
    cases hy with
    | @finite t v gv hv =>
      rw [Binary64.add]
      apply within_nearest_of_roundToGrid_le hbound
      apply h
      calc (signedUnits s u + signedUnits t v).natAbs ≤
          (signedUnits s u).natAbs + (signedUnits t v).natAbs := Int.natAbs_add_le _ _
        _ = u + v := by rw [natAbs_signedUnits, natAbs_signedUnits]
        _ ≤ a + b := Nat.add_le_add hu hv

theorem Within.mul {a b bound : Nat} {x y : Binary64} (hx : x.Within a) (hy : y.Within b)
    (hbound : OnGrid bound) (h : a * b ≤ bound * unitsPerOne) : (x.mul y).Within bound := by
  cases hx with
  | @finite s u gu hu =>
    cases hy with
    | @finite t v gv hv =>
      rw [mul_finite]
      exact within_nearest hbound unitsPerOne_pos (Nat.le_trans (Nat.mul_le_mul hu hv) h) _

/-- A quotient by a number of at least 1 keeps the bound of the dividend. -/
theorem Within.div {bound : Nat} {x y : Binary64} (hx : x.Within bound) (hy : y.AtLeastOne)
    (hfinite : y.isFinite = true) (hbound : OnGrid bound) : (x.div y).Within bound := by
  have hone := unitsPerOne_pos
  cases hx with
  | @finite s u gu hu =>
    cases hy with
    | nan => cases hfinite
    | infinite => cases hfinite
    | @finite v gv hv =>
      have hpos : 0 < v := by omega
      rw [Binary64.div, if_neg (Nat.ne_of_gt hpos)]
      exact within_nearest hbound hpos (Nat.mul_le_mul hu hv) _

theorem AtLeastOne.exists_eq_finite {bound : Nat} {x : Binary64} (h : x.AtLeastOne)
    (hx : x.Within bound) :
    ∃ units grid, x = .finite false units grid ∧ unitsPerOne ≤ units ∧ units ≤ bound := by
  cases h with
  | nan => cases hx
  | infinite => cases hx
  | finite grid hlow =>
    cases hx with
    | finite _ _ hhigh => exact ⟨_, grid, rfl, hlow, hhigh⟩

theorem Within.abs_le_one {x : Binary64} (h : x.Within unitsPerOne) : x.abs.le .one = true := by
  cases h with
  | finite negative grid h =>
    simpa [Binary64.abs, one, le, position, ExtendedInt.lt, signedUnits] using h

theorem one_le_finite {units : Nat} (grid : OnGrid units) (h : unitsPerOne ≤ units) :
    one.le (finite false units grid) = true := by
  simpa [one, le, position, ExtendedInt.lt, signedUnits] using h

/-- A finite number other than zero is once contained in itself. -/
theorem div_self {units : Nat} (negative : Bool) (grid : OnGrid units) (h : units ≠ 0) :
    (finite negative units grid).div (finite negative units grid) = .one := by
  rw [Binary64.div, if_neg h, bne_self_eq_false]
  apply nearest_eq_finite
  rw [Nat.mul_comm, roundToGrid_mul_right onGrid_unitsPerOne (Nat.pos_of_ne_zero h)]

/-! ## Zeros -/

theorem nearest_zero (negative : Bool) {den : Nat} (h : 0 < den) :
    nearest negative 0 den = finite negative 0 onGrid_zero := by
  apply nearest_eq_finite
  conv_lhs => rw [← Nat.zero_mul den]
  exact roundToGrid_mul_right onGrid_zero h

theorem isZero_mul {x y : Binary64} (hx : x.isFinite = true) (hy : y.isFinite = true)
    (h : x.isZero = true ∨ y.isZero = true) : (x.mul y).isZero = true := by
  cases x with
  | finite s u gu =>
    cases y with
    | finite t v gv =>
      have hproduct : u * v = 0 := by
        simpa [isZero, Nat.mul_eq_zero] using h
      rw [mul_finite, hproduct, nearest_zero _ unitsPerOne_pos]
      rfl
    | _ => cases hy
  | _ => cases hx

/-- Positive zero absorbs a zero of either sign. -/
theorem zero_add_of_isZero {x : Binary64} (h : x.isZero = true) : zero.add x = .zero := by
  cases x with
  | finite s u grid =>
    have hu : u = 0 := by simpa [isZero] using h
    subst hu
    have hsum : signedUnits false 0 + signedUnits s 0 = 0 := by cases s <;> rfl
    simp only [zero, add, hsum, if_true, Bool.false_and, Int.natAbs_zero]
    exact nearest_zero false Nat.one_pos
  | _ => cases h

theorem zero_div {y : Binary64} (hy : y.AtLeastOne) (hfinite : y.isFinite = true) :
    zero.div y = .zero := by
  have hone := unitsPerOne_pos
  cases hy with
  | nan => cases hfinite
  | infinite => cases hfinite
  | @finite v gv hv =>
    have hpos : 0 < v := by omega
    rw [zero, Binary64.div, if_neg (Nat.ne_of_gt hpos), Nat.zero_mul]
    exact nearest_zero false hpos

end Binary64

end Retrieval
