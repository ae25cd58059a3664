import Retrieval.Proofs.Binary64.Rounding

set_option autoImplicit false

/-! # The square root of a square

The square of a double is rounded and so is its root, and yet the root gives the double back
(`Binary64.sqrt_mul_self`). Apart from a power of two, a double in the range is a natural `m` of
fifty-three bits. Rounding moves `m * m` by less than `m`, so the root stays strictly between
`m - 1/2` and `m + 1/2` (`roundToGrid_sq`), and it does not fall below `2 ^ 52`, where the grid is
finer. So `m` is the natural nearest to it (`roundToGrid_eq_of_near`). -/

namespace Retrieval

/-! ## Rounding and powers of two -/

theorem log2_eq_of_between {n k : Nat} (hlow : twoPow k ≤ n) (hhigh : n < twoPow (k + 1)) :
    n.log2 = k := by
  have hpos : n ≠ 0 := Nat.ne_of_gt (Nat.lt_of_lt_of_le (twoPow_pos k) hlow)
  have hle := le_log2_of_twoPow_le hlow
  have hlt := (log2_lt_iff hpos).2 hhigh
  omega

theorem log2_mul_twoPow {n : Nat} (hn : n ≠ 0) (k : Nat) :
    (n * twoPow k).log2 = n.log2 + k := by
  apply log2_eq_of_between
  · rw [twoPow_add]
    exact Nat.mul_le_mul_right _ (twoPow_log2_le hn)
  · rw [Nat.add_right_comm, twoPow_add]
    exact (Nat.mul_lt_mul_right (twoPow_pos k)).2 (lt_twoPow_log2_succ n)

/-- A natural of at least fifty-three bits is rounded in the same way after a shift. -/
theorem roundToGrid_mul_twoPow {n : Nat} (hn : twoPow 52 ≤ n) (k : Nat) :
    roundToGrid (n * twoPow k) 1 = roundToGrid n 1 * twoPow k := by
  have hpos : n ≠ 0 := Nat.ne_of_gt (Nat.lt_of_lt_of_le (twoPow_pos 52) hn)
  have hlog := le_log2_of_twoPow_le hn
  have hstep : gridStep (n * twoPow k) 1 = gridStep n 1 * twoPow k := by
    rw [gridStep, gridStep, Nat.div_one, Nat.div_one, log2_mul_twoPow hpos, ← twoPow_add]
    congr 1
    omega
  have hround : roundHalfEven (n * twoPow k) (gridStep n 1 * twoPow k) =
      roundHalfEven n (gridStep n 1) := by
    have hden := gridStep_pos n 1
    have hshifted := Nat.mul_pos hden (twoPow_pos k)
    exact Nat.le_antisymm
      (roundHalfEven_mono hshifted hden (Nat.le_of_eq (by ring)))
      (roundHalfEven_mono hden hshifted (Nat.le_of_eq (by ring)))
  rw [roundToGrid, roundToGrid, hstep, Nat.one_mul, Nat.one_mul, hround, Nat.mul_assoc]

/-- Rounding to the grid moves a number by at most half a step. -/
theorem roundToGrid_error (num : Nat) :
    2 * roundToGrid num 1 ≤ 2 * num + gridStep num 1 ∧
      2 * num ≤ 2 * roundToGrid num 1 + gridStep num 1 := by
  have herror := roundHalfEven_error num (gridStep_pos num 1)
  rwa [roundToGrid, Nat.one_mul]

/-- In the binade above `2 ^ (52 + e)`, only one multiple of the step is less than half a step
away. -/
theorem roundToGrid_eq_of_near {m e num den : Nat} (hden : 0 < den) (hm : m < twoPow 53)
    (hbinade : twoPow (52 + e) * den ≤ num)
    (hlow : 2 * m * (den * twoPow e) < 2 * num + den * twoPow e)
    (hhigh : 2 * num < 2 * m * (den * twoPow e) + den * twoPow e) :
    roundToGrid num den = m * twoPow e := by
  have hquotient : num / den < twoPow (52 + e + 1) := by
    rw [Nat.div_lt_iff_lt_mul hden]
    have hsplit : twoPow (52 + e + 1) * den = twoPow 53 * (den * twoPow e) := by
      rw [show 52 + e + 1 = 53 + e from by omega, twoPow_add]
      ring
    rw [hsplit]
    have := Nat.mul_le_mul_right (den * twoPow e) hm
    nlinarith
  have hlog : (num / den).log2 = 52 + e :=
    log2_eq_of_between ((Nat.le_div_iff_mul_le hden).2 hbinade) hquotient
  have hstep : gridStep num den = twoPow e := by
    rw [gridStep, hlog, Nat.add_sub_cancel_left]
  rw [roundToGrid, hstep, roundHalfEven_eq_of_near hlow hhigh]

/-- A double of at least 1 is a natural of fifty-three bits times a power of two. -/
theorem exists_mantissa {units : Nat} (grid : OnGrid units) (h : unitsPerOne ≤ units) :
    ∃ m e, units = m * twoPow e ∧ 1022 ≤ e ∧ twoPow 52 ≤ m ∧ m < twoPow 53 := by
  have hlog : 1074 ≤ units.log2 := le_log2_of_twoPow_le h
  have hpos : units ≠ 0 := Nat.ne_of_gt (Nat.lt_of_lt_of_le unitsPerOne_pos h)
  obtain ⟨m, hm⟩ := grid.1
  have hlow := twoPow_log2_le hpos
  have hhigh := lt_twoPow_log2_succ units
  obtain ⟨e, he⟩ : ∃ e, units.log2 = 52 + e := ⟨units.log2 - 52, by omega⟩
  rw [he, twoPow_add] at hlow
  rw [he, show 52 + e + 1 = 53 + e from by omega, twoPow_add] at hhigh
  rw [he, Nat.add_sub_cancel_left, Nat.mul_comm] at hm
  rw [hm] at hlow hhigh
  exact ⟨m, e, hm, by omega, Nat.le_of_mul_le_mul_right hlow (twoPow_pos e),
    Nat.lt_of_mul_lt_mul_right hhigh⟩

/-! ## The square of a mantissa -/

/-- The square of a natural of fifty-three bits is rounded by less than that natural. -/
theorem gridStep_sq {m : Nat} (hlow : twoPow 52 ≤ m) (hhigh : m < twoPow 53) :
    2 * gridStep (m * m) 1 + 1 < 4 * m := by
  have hpow : twoPow 53 = 2 * twoPow 52 := twoPow_succ 52
  have hpow' : twoPow 54 = 2 * twoPow 53 := twoPow_succ 53
  have hone : 1 < twoPow 52 := by decide
  rcases Nat.lt_or_ge (m * m) (twoPow 52 * twoPow 53) with hlt | hge
  · have hlog : (m * m).log2 ≤ 104 := by
      have hpos : m * m ≠ 0 := by
        apply Nat.mul_ne_zero <;> omega
      rw [← twoPow_add, ← log2_lt_iff hpos] at hlt
      omega
    have hstep : gridStep (m * m) 1 ≤ twoPow 52 := by
      rw [gridStep, Nat.div_one]
      exact twoPow_le_twoPow (by omega)
    omega
  · -- the square is in the upper binade, hence `m` is not `2 ^ 52` itself
    have hlog : (m * m).log2 ≤ 105 := by
      have hlt : m * m < twoPow 53 * twoPow 53 := Nat.mul_lt_mul'' hhigh hhigh
      have hpos : m * m ≠ 0 := by
        apply Nat.mul_ne_zero <;> omega
      rw [← twoPow_add, ← log2_lt_iff hpos] at hlt
      omega
    have hstep : gridStep (m * m) 1 ≤ twoPow 53 := by
      rw [gridStep, Nat.div_one]
      exact twoPow_le_twoPow (by omega)
    have hne : m ≠ twoPow 52 := by
      rintro rfl
      rw [hpow] at hge
      nlinarith
    omega

/-- The rounded square lies between the squares of `m - 1/2` and `m + 1/2`. -/
theorem roundToGrid_sq {m : Nat} (hlow : twoPow 52 ≤ m) (hhigh : m < twoPow 53) :
    twoPow 52 * twoPow 52 ≤ roundToGrid (m * m) 1 ∧
      4 * (m * m) + 1 < 4 * roundToGrid (m * m) 1 + 4 * m ∧
        4 * roundToGrid (m * m) 1 < 4 * (m * m) + 4 * m + 1 := by
  have hstep := gridStep_sq hlow hhigh
  obtain ⟨herror, herror'⟩ := roundToGrid_error (m * m)
  refine ⟨?_, by omega, by omega⟩
  rw [← twoPow_add]
  apply twoPow_le_roundToGrid
  rw [Nat.div_one, twoPow_add 52 52]
  exact Nat.mul_le_mul hlow hlow

/-! ## Whole roots between two bounds -/

theorem le_floorSqrt {n a : Nat} (h : a * a ≤ n) : a ≤ floorSqrt n :=
  Nat.lt_succ_iff.1 (Nat.mul_self_lt_mul_self_iff.1 (Nat.lt_of_le_of_lt h (floorSqrt_bounds n).2))

theorem floorSqrt_lt {n b : Nat} (h : n < b * b) : floorSqrt n < b :=
  Nat.mul_self_lt_mul_self_iff.1 (Nat.lt_of_le_of_lt (floorSqrt_bounds n).1 h)

/-- The root in halves, as it is rounded, keeps strict bounds on the root. -/
theorem halves_between {n a b : Nat} (ha : a * a < n) (hb : n < b * b) :
    2 * a < 2 * floorSqrt n + (if floorSqrt n * floorSqrt n = n then 0 else 1) ∧
      2 * floorSqrt n + (if floorSqrt n * floorSqrt n = n then 0 else 1) < 2 * b := by
  have hle := le_floorSqrt (Nat.le_of_lt ha)
  have hlt := floorSqrt_lt hb
  split_ifs with hsquare
  · -- the root is whole, and it is not `a`
    have hne : floorSqrt n ≠ a := by
      intro heq
      rw [heq] at hsquare
      omega
    omega
  · omega

namespace Binary64

/-- A root within half a step of a double is rounded to it. -/
theorem nearestRoot_eq {m e n : Nat} (grid : OnGrid (m * twoPow (e + 1))) (hpos : 0 < m)
    (hm : m < twoPow 53) (hbinade : twoPow (52 + (e + 1)) * twoPow (52 + (e + 1)) ≤ n)
    (hlow : (2 * m - 1) * twoPow e * ((2 * m - 1) * twoPow e) < n)
    (hhigh : n < (2 * m + 1) * twoPow e * ((2 * m + 1) * twoPow e)) :
    nearestRoot n = finite false (m * twoPow (e + 1)) grid := by
  obtain ⟨hbelow, habove⟩ := halves_between hlow hhigh
  have hroot := le_floorSqrt hbinade
  have hstep : twoPow (e + 1) = 2 * twoPow e := twoPow_succ e
  have hbelow' : (2 * m - 1) * twoPow e + twoPow e = 2 * m * twoPow e := by
    rw [← Nat.succ_mul]
    congr 1
    omega
  have habove' : (2 * m + 1) * twoPow e = 2 * m * twoPow e + twoPow e := Nat.succ_mul _ _
  have hdouble : 2 * m * (2 * (2 * twoPow e)) = 4 * (2 * m * twoPow e) := by ring
  rw [nearestRoot]
  apply nearest_eq_finite
  generalize (if floorSqrt n * floorSqrt n = n then 0 else 1) = half at hbelow habove ⊢
  apply roundToGrid_eq_of_near Nat.two_pos hm
  · omega
  · rw [hstep, hdouble]
    omega
  · rw [hstep, hdouble]
    omega

/-- The rounded square of a double of at least 1, which is not too large, is the rounded square of
its mantissa, shifted. -/
theorem mul_self_eq {m e : Nat} (grid : OnGrid (m * twoPow e)) (he : 1022 ≤ e)
    (hlow : twoPow 52 ≤ m) (hhigh : m * twoPow e ≤ twoPow 53 * unitsPerOne) :
    ∃ units gridSq, (finite false (m * twoPow e) grid).mul (finite false (m * twoPow e) grid) =
        finite false units gridSq ∧
      units * unitsPerOne = roundToGrid (m * m) 1 * (twoPow e * twoPow e) := by
  obtain ⟨s, hs⟩ : ∃ s, e + e = s + 1074 := ⟨e + e - 1074, by omega⟩
  have hunits : twoPow e * twoPow e = twoPow s * unitsPerOne := by
    rw [unitsPerOne, ← twoPow_add, ← twoPow_add, hs]
  have hsquare : roundToGrid (m * twoPow e * (m * twoPow e)) unitsPerOne =
      roundToGrid (m * m) 1 * twoPow s := by
    rw [← roundToGrid_mul_twoPow (Nat.le_trans hlow (Nat.le_mul_self m))]
    apply roundToGrid_congr unitsPerOne_pos Nat.one_pos
    rw [Nat.mul_one, Nat.mul_assoc (m * m), ← hunits]
    ring
  have hlimit : roundToGrid (m * twoPow e * (m * twoPow e)) unitsPerOne < unitsLimit := by
    apply roundToGrid_lt_limit
    apply Nat.div_le_of_le_mul
    calc m * twoPow e * (m * twoPow e)
        ≤ twoPow 53 * unitsPerOne * (twoPow 53 * unitsPerOne) := Nat.mul_le_mul hhigh hhigh
      _ = unitsPerOne * (twoPow 53 * (twoPow 53 * unitsPerOne)) := by ring
      _ ≤ unitsPerOne * twoPow 2096 := by
        rw [unitsPerOne, ← twoPow_add, ← twoPow_add]
        exact Nat.mul_le_mul_left _ (twoPow_le_twoPow (by omega))
  refine ⟨_, onGrid_roundToGrid hlimit, ?_, ?_⟩
  · rw [mul_finite, bne_self_eq_false, nearest_of_lt_limit hlimit]
  · rw [hsquare, Nat.mul_assoc, ← hunits]

/-- From 1 up to `2 ^ 53`, a double is the square root of its rounded square. -/
theorem sqrt_mul_self {units : Nat} (grid : OnGrid units) (hlow : unitsPerOne ≤ units)
    (hhigh : units ≤ twoPow 53 * unitsPerOne) :
    ((finite false units grid).mul (finite false units grid)).sqrt =
      .ok (finite false units grid) := by
  obtain ⟨m, e, rfl, he, hm, hm'⟩ := exists_mantissa grid hlow
  obtain ⟨square, gridSq, hmul, hsquare⟩ := mul_self_eq grid he hm hhigh
  obtain ⟨hbinade, hbelow, habove⟩ := roundToGrid_sq hm hm'
  obtain ⟨k, rfl⟩ : ∃ k, m = k + 1 := ⟨m - 1, by have := twoPow_pos 52; omega⟩
  obtain ⟨f, rfl⟩ : ∃ f, e = f + 1 := ⟨e - 1, by omega⟩
  have hstep : twoPow (f + 1) = 2 * twoPow f := twoPow_succ f
  have hstep_pos : 0 < twoPow f * twoPow f := Nat.mul_pos (twoPow_pos f) (twoPow_pos f)
  have hne : square ≠ 0 := by
    rintro rfl
    have := twoPow_pos 52
    rw [Nat.zero_mul, hstep] at hsquare
    nlinarith
  rw [hmul, Binary64.sqrt, if_neg hne, if_neg Bool.false_ne_true, hsquare]
  congr 1
  apply nearestRoot_eq grid (Nat.succ_pos k) hm'
  · calc twoPow (52 + (f + 1)) * twoPow (52 + (f + 1))
        = twoPow 52 * twoPow 52 * (twoPow (f + 1) * twoPow (f + 1)) := by
          rw [twoPow_add]
          ring
      _ ≤ _ := Nat.mul_le_mul_right _ hbinade
  · calc (2 * (k + 1) - 1) * twoPow f * ((2 * (k + 1) - 1) * twoPow f)
        = (2 * k + 1) * (2 * k + 1) * (twoPow f * twoPow f) := by
          rw [show 2 * (k + 1) - 1 = 2 * k + 1 from by omega]
          ring
      _ < 4 * roundToGrid ((k + 1) * (k + 1)) 1 * (twoPow f * twoPow f) := by
          apply Nat.mul_lt_mul_of_pos_right _ hstep_pos
          linarith
      _ = _ := by
          rw [hstep]
          ring
  · calc roundToGrid ((k + 1) * (k + 1)) 1 * (twoPow (f + 1) * twoPow (f + 1))
        = 4 * roundToGrid ((k + 1) * (k + 1)) 1 * (twoPow f * twoPow f) := by
          rw [hstep]
          ring
      _ < (2 * (k + 1) + 1) * (2 * (k + 1) + 1) * (twoPow f * twoPow f) := by
          apply Nat.mul_lt_mul_of_pos_right _ hstep_pos
          linarith
      _ = _ := by ring

theorem nearestRoot_isFinite {n : Nat} (h : n < twoPow 2096 * twoPow 2096) :
    (nearestRoot n).isFinite = true := by
  have hroot := floorSqrt_lt h
  have hlimit : roundToGrid
      (2 * floorSqrt n + if floorSqrt n * floorSqrt n = n then 0 else 1) 2 < unitsLimit := by
    apply roundToGrid_lt_limit
    split_ifs <;> omega
  rw [nearestRoot, nearest_of_lt_limit hlimit]
  rfl

/-- A square root does not overflow. -/
theorem sqrt_isFinite {x root : Binary64} (hx : x.isFinite = true) (h : x.sqrt = .ok root) :
    root.isFinite = true := by
  cases x with
  | nan => cases hx
  | infinite negative => cases hx
  | finite negative units grid =>
    rw [Binary64.sqrt] at h
    split_ifs at h with hzero hnegative
    · cases h
      rfl
    · cases h
      apply nearestRoot_isFinite
      calc units * unitsPerOne < unitsLimit * unitsPerOne :=
            Nat.mul_lt_mul_of_pos_right grid.2 unitsPerOne_pos
        _ ≤ twoPow 2096 * twoPow 2096 := by
            rw [unitsLimit, unitsPerOne, ← twoPow_add, ← twoPow_add]
            exact twoPow_le_twoPow (by omega)

end Binary64

end Retrieval
