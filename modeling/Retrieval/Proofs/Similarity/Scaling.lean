import Mathlib.Data.List.MinMax
import Retrieval.Proofs.Binary64.Rounding
import Retrieval.Proofs.Similarity

set_option autoImplicit false

/-! # Division by the largest magnitude

For finite entries of one kind the division by the largest magnitude has a closed form
(`scaleToUnitMax_eq`): each entry becomes the double nearest to the ratio of its units and those of
the largest, even where the two are integers beyond all doubles or doubles without a full mantissa.
Nothing but these ratios counts, so a vector of integers and its multiples become the same doubles
(`scaleToUnitMax_multiple`). The quotients lie between -1 and 1, and where the largest magnitude is
attained the quotient is 1 or -1 (`exists_unitScaled`). -/

namespace Retrieval

/-! ## Finite numbers in units -/

namespace Number

/-- Neither infinite nor not-a-number. -/
def isFinite : Number → Bool
  | int _ => true
  | double x => x.isFinite

/-- The magnitude of a finite number in units. -/
def units : Number → Nat
  | int n => n.natAbs * unitsPerOne
  | double (.finite _ units _) => units
  | double _ => 0

/-- Below zero, or the negative zero. -/
def isNegative : Number → Bool
  | int n => decide (n < 0)
  | double (.finite negative _ _) => negative
  | double _ => false

/-- The double nearest to the quotient of a number by so many units. -/
def dividedBy (largest : Nat) (x : Number) : Binary64 :=
  .nearest x.isNegative (x.units * unitsPerOne) largest

theorem position_abs {x : Number} (h : x.isFinite = true) :
    x.abs.position = some (.int x.units) := by
  cases x with
  | int n => simp [abs, position, units]
  | double x =>
    cases x with
    | finite negative units grid => rfl
    | _ => cases h

theorem lt_abs {x y : Number} (hx : x.isFinite = true) (hy : y.isFinite = true) :
    x.abs.lt y.abs = decide (x.units < y.units) := by
  simp [lt, position_abs hx, position_abs hy, ExtendedInt.lt]

theorem isZero_eq {x : Number} (h : x.isFinite = true) : x.isZero = (x.units == 0) := by
  cases x with
  | int n =>
    have hone : unitsPerOne ≠ 0 := Nat.ne_of_gt unitsPerOne_pos
    rw [Bool.eq_iff_iff]
    simp [isZero, units, hone]
  | double x =>
    cases x with
    | finite negative units grid => rfl
    | _ => cases h

/-- The quotient of two finite numbers of one kind is that of their units. -/
theorem div_abs_eq {x y : Number} (hkind : x.isInt = y.isInt) (hx : x.isFinite = true)
    (hy : y.isFinite = true) (hpos : 0 < y.units) (hle : x.units ≤ y.units) :
    x.div y.abs = .ok (x.dividedBy y.units) := by
  have hlt : y.abs.lt x.abs = false := by
    simpa [lt_abs hy hx] using hle
  cases y with
  | int n =>
    cases x with
    | double a => cases hkind
    | int m =>
      have hn : 0 < n.natAbs := Nat.pos_of_mul_pos_right hpos
      rw [div_int_abs (Int.natAbs_pos.1 hn) hlt]
      refine congrArg Except.ok (Binary64.nearest_congr _ hn hpos ?_)
      simp only [units]
      ring
  | double b =>
    cases x with
    | int m => cases hkind
    | double a =>
      cases b with
      | finite t v grid =>
        cases a with
        | finite s u grid' =>
          have hv : v ≠ 0 := Nat.ne_of_gt hpos
          have hzero : (Binary64.finite t v grid).abs.isZero = false := beq_false_of_ne hv
          rw [abs, div_double _ hzero, Binary64.abs, Binary64.div, if_neg hv, Bool.bne_false]
          rfl
        | _ => cases hx
      | _ => cases hy

/-- What does not exceed the largest is divided into something between -1 and 1. -/
theorem dividedBy_within {x : Number} {largest : Nat} (hpos : 0 < largest)
    (h : x.units ≤ largest) : (x.dividedBy largest).Within unitsPerOne := by
  apply Binary64.within_nearest onGrid_unitsPerOne hpos
  rw [Nat.mul_comm]
  exact Nat.mul_le_mul_left _ h

/-- What is divided by its own magnitude becomes 1 or -1. -/
theorem dividedBy_units {x : Number} (h : 0 < x.units) :
    x.dividedBy x.units = .finite x.isNegative unitsPerOne onGrid_unitsPerOne := by
  apply Binary64.nearest_eq_finite
  rw [Nat.mul_comm, roundToGrid_mul_right onGrid_unitsPerOne h]

theorem isZero_dividedBy {x : Number} {largest : Nat} (hx : x.isFinite = true)
    (hzero : x.isZero = true) (hpos : 0 < largest) : (x.dividedBy largest).isZero = true := by
  rw [isZero_eq hx, beq_iff_eq] at hzero
  rw [dividedBy, hzero, Nat.zero_mul, Binary64.nearest_zero _ hpos]
  rfl

end Number

/-! ## The closed form -/

/-- The largest magnitude of an entry, in units. -/
def largest (v : List Number) : Nat := (v.map Number.units).foldr max ⊥

theorem largest_cons (x : Number) (v : List Number) :
    largest (x :: v) = max x.units (largest v) := by
  rw [largest, largest, List.map_cons, List.foldr_cons]

theorem units_le_largest {v : List Number} {x : Number} (hx : x ∈ v) : x.units ≤ largest v :=
  List.le_max_of_le (List.mem_map_of_mem hx) (Nat.le_refl _)

theorem largest_le {v : List Number} {bound : Nat} (h : ∀ x ∈ v, x.units ≤ bound) :
    largest v ≤ bound := by
  apply List.max_le_of_forall_le
  intro n hn
  obtain ⟨x, hx, rfl⟩ := List.mem_map.1 hn
  exact h x hx

theorem exists_units_eq_largest {v : List Number} (hv : v ≠ []) (h : ∀ x ∈ v, x.isFinite = true) :
    ∃ y ∈ v, peak v = y.abs ∧ y.units = largest v := by
  obtain ⟨y, hy, hpeak, hbound⟩ := exists_peak_eq hv
  refine ⟨y, hy, hpeak, Nat.le_antisymm (units_le_largest hy) (largest_le ?_)⟩
  intro x hx
  simpa [Number.lt_abs (h y hy) (h x hx)] using hbound x hx

theorem scaleToUnitMax_of_zeros {v : List Number} (h : ∀ x ∈ v, x.isZero = true) :
    scaleToUnitMax v = .ok none := by
  apply scaleToUnitMax_of_isZero
  by_contra hpeak
  obtain ⟨y, hy, hy0, -⟩ := exists_peak_eq_of_isZero (Bool.eq_false_iff.2 hpeak)
  rw [h y hy] at hy0
  cases hy0

/-- The division by the largest magnitude as one function of the units of the entries. -/
theorem scaleToUnitMax_eq {v : List Number} (hv : OneKind v)
    (hfinite : ∀ x ∈ v, x.isFinite = true) :
    scaleToUnitMax v =
      .ok (if largest v = 0 then none else some (v.map (Number.dividedBy (largest v)))) := by
  by_cases hne : v = []
  · subst hne
    rfl
  obtain ⟨y, hy, hpeak, hy'⟩ := exists_units_eq_largest hne hfinite
  have hzero : (peak v).isZero = (largest v == 0) := by
    rw [hpeak, Number.isZero_abs, Number.isZero_eq (hfinite y hy), hy']
  by_cases h : largest v = 0
  · rw [if_pos h]
    exact scaleToUnitMax_of_isZero (by simp [hzero, h])
  · have hdivide : v.mapM (fun x => x.div (peak v)) =
        .ok (v.map (Number.dividedBy (largest v))) := by
      rw [mapM_eq_ok_iff, List.map_map]
      apply List.map_congr_left
      intro x hx
      have hle := units_le_largest hx
      rw [← hy'] at h hle ⊢
      rw [hpeak]
      exact Number.div_abs_eq (hv.isInt_eq hx hy) (hfinite x hx) (hfinite y hy)
        (Nat.pos_of_ne_zero h) hle
    rw [if_neg h, scaleToUnitMax_of_not_isZero (by simp [hzero, h]), hdivide, map_ok]

theorem eq_of_scaled {v : List Number} (hv : OneKind v) (hfinite : ∀ x ∈ v, x.isFinite = true)
    {scaled : List Binary64} (h : scaleToUnitMax v = .ok (some scaled)) :
    0 < largest v ∧ scaled = v.map (Number.dividedBy (largest v)) := by
  rw [scaleToUnitMax_eq hv hfinite] at h
  split at h
  · cases h
  · next hne =>
    cases h
    exact ⟨Nat.pos_of_ne_zero hne, rfl⟩

/-! ## Multiples of integers -/

namespace Number

theorem units_mul (k n : Int) : (int (k * n)).units = k.natAbs * (int n).units := by
  rw [units, units, Int.natAbs_mul, Nat.mul_assoc]

theorem isNegative_mul {k : Int} (hk : 0 < k) (n : Int) :
    (int (k * n)).isNegative = (int n).isNegative := by
  rw [isNegative, isNegative, decide_eq_decide]
  constructor
  · intro h
    nlinarith
  · intro h
    nlinarith

/-- A quotient depends on the ratio alone. -/
theorem dividedBy_mul {k : Int} (hk : 0 < k) (n : Int) {largest : Nat} (hpos : 0 < largest) :
    (int (k * n)).dividedBy (k.natAbs * largest) = (int n).dividedBy largest := by
  have hpos' : 0 < k.natAbs * largest := Nat.mul_pos (Int.natAbs_pos.2 (by omega)) hpos
  rw [dividedBy, dividedBy, units_mul, isNegative_mul hk]
  apply Binary64.nearest_congr _ hpos' hpos
  ring

end Number

theorem largest_multiple (k : Int) (a : List Int) :
    largest ((a.map (k * ·)).map .int) = k.natAbs * largest (a.map .int) := by
  induction a with
  | nil => exact (Nat.mul_zero _).symm
  | cons n rest ih =>
    simp only [List.map_cons, largest_cons, Number.units_mul, ih, Nat.mul_max_mul_left]

theorem isFinite_of_mem_ints {a : List Int} : ∀ x ∈ a.map .int, Number.isFinite x = true := by
  simp [Number.isFinite]

/-- A vector of integers and its multiples are divided into the same doubles. -/
theorem scaleToUnitMax_multiple {k : Int} (hk : 0 < k) (a : List Int) :
    scaleToUnitMax ((a.map (k * ·)).map .int) = scaleToUnitMax (a.map .int) := by
  have hk' : k.natAbs ≠ 0 := by omega
  rw [scaleToUnitMax_eq (oneKind_ints _) isFinite_of_mem_ints,
    scaleToUnitMax_eq (oneKind_ints _) isFinite_of_mem_ints, largest_multiple]
  rcases Nat.eq_zero_or_pos (largest (a.map .int)) with hzero | hpos
  · rw [hzero, Nat.mul_zero, if_pos rfl, if_pos rfl]
  · have hentries : ((a.map (k * ·)).map Number.int).map
          (Number.dividedBy (k.natAbs * largest (a.map .int))) =
        (a.map Number.int).map (Number.dividedBy (largest (a.map .int))) := by
      simp only [List.map_map, Function.comp_def, Number.dividedBy_mul hk _ hpos]
    have hne := Nat.ne_of_gt hpos
    rw [hentries, if_neg hne, if_neg (Nat.mul_ne_zero hk' hne)]

/-! ## Vectors whose largest magnitude is 1 -/

/-- Doubles between -1 and 1, one of which is 1 or -1. -/
structure UnitScaled (u : List Binary64) : Prop where
  within : ∀ x ∈ u, x.Within unitsPerOne
  attained : ∃ x ∈ u, x.abs = .one

/-- A vector of one kind with an entry other than zero can be divided by its largest magnitude. -/
theorem exists_unitScaled {v : List Number} (hv : OneKind v)
    (hfinite : ∀ x ∈ v, x.isFinite = true) (hne : ∃ x ∈ v, x.isZero = false) :
    ∃ u, scaleToUnitMax v = .ok (some u) ∧ u.length = v.length ∧ UnitScaled u := by
  obtain ⟨x, hx, hx0⟩ := hne
  obtain ⟨y, hy, -, hlargest⟩ := exists_units_eq_largest (List.ne_nil_of_mem hx) hfinite
  have hpos : 0 < largest v := by
    rw [Number.isZero_eq (hfinite x hx), beq_eq_false_iff_ne] at hx0
    have := units_le_largest hx
    omega
  refine ⟨v.map (Number.dividedBy (largest v)), ?_, List.length_map _, ?_, ?_⟩
  · rw [scaleToUnitMax_eq hv hfinite, if_neg (Nat.ne_of_gt hpos)]
  · intro z hz
    obtain ⟨entry, hentry, rfl⟩ := List.mem_map.1 hz
    exact Number.dividedBy_within hpos (units_le_largest hentry)
  · refine ⟨y.dividedBy (largest v), List.mem_map_of_mem hy, ?_⟩
    rw [← hlargest] at hpos ⊢
    rw [Number.dividedBy_units hpos]
    rfl

end Retrieval
