import Retrieval.Binary64.Logarithm

set_option autoImplicit false

/-! # Bounds of doubles

A calculation with doubles has no result only where it leaves the range of an operation, so it is
enough to know of its numbers where they lie. Rounding keeps a quotient in its binade
(`twoPow_log2_le_roundToGrid` and `roundToGrid_le`): it overflows only near the limit, it gives zero
only below one unit, and what is at least 1 before it is at least 1 after it. Two properties follow
through sums, products and square roots, both true of not-a-number: not to be negative, and to be at
least 1. -/

namespace Retrieval

theorem unitsPerOne_pos : 0 < unitsPerOne := twoPow_pos 1074

/-! ## Rounding keeps the binade -/

/-- Rounding never falls below the power of two under the quotient. -/
theorem twoPow_log2_le_roundToGrid {num den : Nat} (h : num / den ≠ 0) :
    twoPow (num / den).log2 ≤ roundToGrid num den := by
  have hq := twoPow_log2_le h
  have hround := div_le_roundHalfEven num (den * gridStep num den)
  rw [← Nat.div_div_eq_div_mul] at hround
  unfold roundToGrid
  unfold gridStep at hround ⊢
  generalize num / den = q at hq hround ⊢
  -- `2 ^ log2 q` is a whole number of grid steps, and no more of them than `q` holds
  have hsplit : twoPow q.log2 = twoPow (q.log2 - (q.log2 - 52)) * twoPow (q.log2 - 52) := by
    rw [← twoPow_add]
    congr 1
    omega
  have hdiv : twoPow (q.log2 - (q.log2 - 52)) ≤ q / twoPow (q.log2 - 52) :=
    (Nat.le_div_iff_mul_le (twoPow_pos _)).2 (hsplit ▸ hq)
  rw [hsplit]
  exact Nat.mul_le_mul_right _ (Nat.le_trans hdiv hround)

theorem le_log2_of_twoPow_le {k q : Nat} (h : twoPow k ≤ q) : k ≤ q.log2 := by
  have hpos : q ≠ 0 := Nat.ne_of_gt (Nat.lt_of_lt_of_le (twoPow_pos k) h)
  have hlt : ¬ q.log2 < k := fun hlog => Nat.not_lt_of_le h ((log2_lt_iff hpos).1 hlog)
  omega

theorem log2_le_of_le_twoPow {k q : Nat} (h : q ≤ twoPow k) : q.log2 ≤ k := by
  by_cases hq : q = 0
  · subst hq
    exact Nat.zero_le k
  · have hlt : q < twoPow (k + 1) := by
      rw [twoPow_succ]
      have := twoPow_pos k
      omega
    exact Nat.lt_succ_iff.1 ((log2_lt_iff hq).2 hlt)

/-- A power of two below the quotient is below what the quotient is rounded to. -/
theorem twoPow_le_roundToGrid {k num den : Nat} (h : twoPow k ≤ num / den) :
    twoPow k ≤ roundToGrid num den := by
  have hpos : num / den ≠ 0 := Nat.ne_of_gt (Nat.lt_of_lt_of_le (twoPow_pos k) h)
  exact Nat.le_trans (twoPow_le_twoPow (le_log2_of_twoPow_le h)) (twoPow_log2_le_roundToGrid hpos)

/-- A quotient below half the limit does not overflow. -/
theorem roundToGrid_lt_limit {num den : Nat} (h : num / den ≤ twoPow 2096) :
    roundToGrid num den < unitsLimit := by
  have hlog := log2_le_of_le_twoPow h
  have hround : roundToGrid num den ≤ twoPow 2097 :=
    Nat.le_trans (roundToGrid_le num den) (twoPow_le_twoPow (Nat.succ_le_succ hlog))
  have hlimit : unitsLimit = 2 * twoPow 2097 := twoPow_succ 2097
  have hpos := twoPow_pos 2097
  omega

/-! ## The order of the extended integers -/

namespace ExtendedInt

theorem lt_irrefl (p : ExtendedInt) : p.lt p = false := by
  cases p <;> simp [lt]

theorem lt_asymm {p q : ExtendedInt} (h : p.lt q = true) : q.lt p = false := by
  cases p <;> cases q <;> simp_all [lt]
  omega

theorem not_lt_trans {p q r : ExtendedInt} (hpq : q.lt p = false) (hqr : r.lt q = false) :
    r.lt p = false := by
  cases p <;> cases q <;> cases r <;> simp_all [lt]
  omega

end ExtendedInt

/-! ## Rounded numbers -/

namespace Binary64

/-- A rounded number has the sign that was asked for, and it is the rounded magnitude or infinite.
-/
theorem nearest_cases (negative : Bool) (num den : Nat) :
    (∃ grid, nearest negative num den = finite negative (roundToGrid num den) grid) ∨
      nearest negative num den = infinite negative := by
  unfold nearest
  split
  · next h => exact Or.inl ⟨onGrid_roundToGrid h, rfl⟩
  · exact Or.inr rfl

theorem nearest_of_lt_limit {negative : Bool} {num den : Nat}
    (h : roundToGrid num den < unitsLimit) :
    nearest negative num den = finite negative (roundToGrid num den) (onGrid_roundToGrid h) := by
  rw [nearest, dif_pos h]

/-! ## Numbers that are not negative -/

/-- Not negative, or not-a-number. -/
inductive NonNegative : Binary64 → Prop
  | nan : NonNegative nan
  | infinite : NonNegative (infinite false)
  | finite (units : Nat) (grid : OnGrid units) : NonNegative (finite false units grid)

theorem nonNegative_nearest (num den : Nat) : NonNegative (nearest false num den) := by
  rcases nearest_cases false num den with ⟨grid, h⟩ | h
  · rw [h]
    exact .finite _ grid
  · rw [h]
    exact .infinite

/-- The sum of finite numbers that are not negative. -/
theorem add_finite_false {u v : Nat} (gu : OnGrid u) (gv : OnGrid v) :
    (finite false u gu).add (finite false v gv) = nearest false (u + v) 1 := by
  have hsum : signedUnits false u + signedUnits false v = ((u + v : Nat) : Int) := by
    simp [signedUnits]
  have hsign : decide (((u + v : Nat) : Int) < 0) = false := by
    rw [decide_eq_false_iff_not]
    omega
  simp only [add, hsum, hsign, Bool.and_self, ite_self, Int.natAbs_natCast]

theorem NonNegative.add {x y : Binary64} (hx : x.NonNegative) (hy : y.NonNegative) :
    (x.add y).NonNegative := by
  cases hx with
  | nan => exact .nan
  | infinite =>
    cases hy with
    | nan => exact .nan
    | infinite => exact .infinite
    | finite v gv => exact .infinite
  | finite u gu =>
    cases hy with
    | nan => exact .nan
    | infinite => exact .infinite
    | finite v gv =>
      rw [add_finite_false]
      exact nonNegative_nearest _ _

theorem mul_finite (s t : Bool) {u v : Nat} (gu : OnGrid u) (gv : OnGrid v) :
    (finite s u gu).mul (finite t v gv) = nearest (s != t) (u * v) unitsPerOne := by
  rw [mul]

/-- A square is not negative. -/
theorem nonNegative_mul_self (x : Binary64) : (x.mul x).NonNegative := by
  cases x with
  | nan => exact .nan
  | infinite s =>
    rw [mul, bne_self_eq_false]
    exact .infinite
  | finite s u grid =>
    rw [mul_finite, bne_self_eq_false]
    exact nonNegative_nearest _ _

/-! ## Numbers that are at least one -/

/-- At least 1, or not-a-number. -/
inductive AtLeastOne : Binary64 → Prop
  | nan : AtLeastOne nan
  | infinite : AtLeastOne (infinite false)
  | finite {units : Nat} (grid : OnGrid units) (h : unitsPerOne ≤ units) :
      AtLeastOne (finite false units grid)

theorem atLeastOne_nearest {num den : Nat} (h : unitsPerOne ≤ num / den) :
    AtLeastOne (nearest false num den) := by
  rcases nearest_cases false num den with ⟨grid, heq⟩ | heq
  · rw [heq]
    exact .finite grid (twoPow_le_roundToGrid h)
  · rw [heq]
    exact .infinite

/-- What is at least 1 before it is rounded has a square of at least 1, whatever its sign. -/
theorem atLeastOne_sq_nearest (negative : Bool) {num den : Nat} (h : unitsPerOne ≤ num / den) :
    ((nearest negative num den).mul (nearest negative num den)).AtLeastOne := by
  rcases nearest_cases negative num den with ⟨grid, heq⟩ | heq
  · have hle : unitsPerOne ≤ roundToGrid num den := twoPow_le_roundToGrid h
    rw [heq, mul_finite, bne_self_eq_false]
    apply atLeastOne_nearest
    rw [Nat.le_div_iff_mul_le unitsPerOne_pos]
    exact Nat.mul_le_mul hle hle
  · rw [heq, mul, bne_self_eq_false]
    exact .infinite

/-- A number divided by its own magnitude has a square of at least 1. -/
theorem atLeastOne_sq_div_abs {x : Binary64} (h : x.abs.isZero = false) :
    ((x.div x.abs).mul (x.div x.abs)).AtLeastOne := by
  cases x with
  | nan => exact .nan
  | infinite s => exact .nan
  | finite s u grid =>
    have hu : u ≠ 0 := ne_of_beq_false h
    have hquotient : unitsPerOne ≤ u * unitsPerOne / u :=
      Nat.le_of_eq (Nat.mul_div_cancel_left _ (Nat.pos_of_ne_zero hu)).symm
    rw [Binary64.abs, Binary64.div, if_neg hu]
    exact atLeastOne_sq_nearest _ hquotient

theorem AtLeastOne.add_nonNegative {x y : Binary64} (hx : x.AtLeastOne) (hy : y.NonNegative) :
    (x.add y).AtLeastOne := by
  cases hx with
  | nan => exact .nan
  | infinite =>
    cases hy with
    | nan => exact .nan
    | infinite => exact .infinite
    | finite v gv => exact .infinite
  | finite gu hu =>
    cases hy with
    | nan => exact .nan
    | infinite => exact .infinite
    | finite v gv =>
      rw [add_finite_false]
      exact atLeastOne_nearest (by rw [Nat.div_one]; exact Nat.le_add_right_of_le hu)

theorem NonNegative.add_atLeastOne {x y : Binary64} (hx : x.NonNegative) (hy : y.AtLeastOne) :
    (x.add y).AtLeastOne := by
  cases hy with
  | nan => cases hx <;> exact .nan
  | infinite =>
    cases hx with
    | nan => exact .nan
    | infinite => exact .infinite
    | finite u gu => exact .infinite
  | finite gv hv =>
    cases hx with
    | nan => exact .nan
    | infinite => exact .infinite
    | finite u gu =>
      rw [add_finite_false]
      exact atLeastOne_nearest (by rw [Nat.div_one]; exact Nat.le_add_left_of_le hv)

theorem AtLeastOne.mul {x y : Binary64} (hx : x.AtLeastOne) (hy : y.AtLeastOne) :
    (x.mul y).AtLeastOne := by
  have hone := unitsPerOne_pos
  cases hx with
  | nan => exact .nan
  | infinite =>
    cases hy with
    | nan => exact .nan
    | infinite => exact .infinite
    | @finite v gv hv =>
      have hv0 : v ≠ 0 := by omega
      rw [Binary64.mul, if_neg hv0]
      exact .infinite
  | @finite u gu hu =>
    cases hy with
    | nan => exact .nan
    | infinite =>
      have hu0 : u ≠ 0 := by omega
      rw [Binary64.mul, if_neg hu0]
      exact .infinite
    | @finite v gv hv =>
      rw [mul_finite]
      apply atLeastOne_nearest
      rw [Nat.le_div_iff_mul_le hone]
      exact Nat.mul_le_mul hu hv

theorem AtLeastOne.isZero {x : Binary64} (h : x.AtLeastOne) : x.isZero = false := by
  cases h with
  | nan => rfl
  | infinite => rfl
  | @finite u grid hu =>
    have hone := unitsPerOne_pos
    have hu0 : u ≠ 0 := by omega
    exact beq_false_of_ne hu0

/-- What is at least 1 has a square root, and the root is at least 1. -/
theorem AtLeastOne.sqrt {x : Binary64} (h : x.AtLeastOne) :
    ∃ root, x.sqrt = .ok root ∧ root.AtLeastOne := by
  cases h with
  | nan => exact ⟨_, rfl, .nan⟩
  | infinite => exact ⟨_, rfl, .infinite⟩
  | @finite u grid hu =>
    have hone := unitsPerOne_pos
    have hu0 : u ≠ 0 := by omega
    refine ⟨nearestRoot (u * unitsPerOne), ?_, ?_⟩
    · rw [Binary64.sqrt, if_neg hu0]
      rfl
    · -- the whole root of at least `unitsPerOne ^ 2` is at least `unitsPerOne`
      have hroot : unitsPerOne ≤ floorSqrt (u * unitsPerOne) := by
        have hbound := (floorSqrt_bounds (u * unitsPerOne)).2
        have hle : unitsPerOne * unitsPerOne ≤ u * unitsPerOne := Nat.mul_le_mul_right _ hu
        have hlt := Nat.lt_of_le_of_lt hle hbound
        exact Nat.lt_succ_iff.1 (Nat.mul_self_lt_mul_self_iff.1 hlt)
      unfold nearestRoot
      apply atLeastOne_nearest
      generalize floorSqrt (u * unitsPerOne) = root at hroot
      omega

end Binary64

end Retrieval
