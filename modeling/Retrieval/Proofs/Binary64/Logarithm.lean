import Mathlib.Tactic.Ring
import Retrieval.Binary64.Logarithm
import Retrieval.Proofs.Binary64.Rounding

set_option autoImplicit false

/-! # Logarithms are not large

The logarithm of a positive double is a multiple of the logarithm of 2 and that of a mantissa. Both
are sums of a series whose terms do not grow (`artanhSum_le`), so neither exceeds twice the number
of its terms; and a double has at most 1074 doublings or halvings from 1. Hence a logarithm has a
magnitude of at most `2 ^ 18` (`Binary64.logOf_within`). That is far above the largest one,
which is below 745, and far below what overflows. -/

namespace Retrieval

theorem artanhSum_le {square : Nat} (h : square ≤ fixedOne) (terms power exponent : Nat) :
    artanhSum square terms power exponent ≤ terms * power := by
  induction terms generalizing power exponent with
  | zero => exact Nat.zero_le _
  | succ terms ih =>
    have hpower : power * square / fixedOne ≤ power := by
      apply Nat.div_le_of_le_mul
      rw [Nat.mul_comm]
      exact Nat.mul_le_mul_right power h
    calc power / exponent + artanhSum square terms (power * square / fixedOne) (exponent + 2)
        ≤ power + terms * (power * square / fixedOne) :=
          Nat.add_le_add (Nat.div_le_self power exponent) (ih _ _)
      _ ≤ power + terms * power := Nat.add_le_add_left (Nat.mul_le_mul_left terms hpower) power
      _ = (terms + 1) * power := by ring

theorem artanhFixed_le {z : Nat} (h : z ≤ fixedOne) : artanhFixed z ≤ artanhTerms * fixedOne := by
  have hsquare : z * z / fixedOne ≤ fixedOne := Nat.div_le_of_le_mul (Nat.mul_le_mul h h)
  exact Nat.le_trans (artanhSum_le hsquare _ _ _) (Nat.mul_le_mul_left _ h)

theorem logMantissa_le (num den : Nat) : logMantissa num den ≤ 168 * fixedOne := by
  have hargument : (num - den) * fixedOne / (num + den) ≤ fixedOne := by
    apply Nat.div_le_of_le_mul
    exact Nat.mul_le_mul_right _ (by omega)
  have hle := artanhFixed_le hargument
  rw [artanhTerms] at hle
  rw [logMantissa]
  omega

theorem natAbs_logUnits_le {units : Nat} (hpos : units ≠ 0) (h : units < unitsLimit) :
    (logUnits units).natAbs ≤ twoPow 18 * fixedOne := by
  have hlog : units.log2 < 2098 := (log2_lt_iff hpos).2 h
  have hdoublings : ((units.log2 : Int) - 1074).natAbs ≤ 1074 := by omega
  have hpow : 1074 * 168 + 168 ≤ twoPow 18 := by decide
  calc (logUnits units).natAbs
      ≤ (((units.log2 : Int) - 1074) * logTwo).natAbs +
          (logMantissa units (twoPow units.log2) : Int).natAbs := Int.natAbs_add_le _ _
    _ = ((units.log2 : Int) - 1074).natAbs * logTwo + logMantissa units (twoPow units.log2) := by
        rw [Int.natAbs_mul, Int.natAbs_natCast, Int.natAbs_natCast]
    _ ≤ 1074 * (168 * fixedOne) + 168 * fixedOne :=
        Nat.add_le_add (Nat.mul_le_mul hdoublings (logMantissa_le _ _)) (logMantissa_le _ _)
    _ = (1074 * 168 + 168) * fixedOne := by ring
    _ ≤ twoPow 18 * fixedOne := Nat.mul_le_mul_right _ hpow

namespace Binary64

/-- The double nearest to the fixed-point logarithm of a positive number of units. -/
def logOf (units : Nat) : Binary64 :=
  .ofRatio (decide (logUnits units < 0)) (logUnits units).natAbs fixedOne

/-- A finite double above zero has a logarithm. -/
theorem log_finite {units : Nat} (grid : OnGrid units) (h : units ≠ 0) :
    (finite false units grid).log = .ok (logOf units) := by
  rw [log, Bool.false_or, beq_false_of_ne h]
  rfl

theorem logOf_within {units : Nat} (grid : OnGrid units) (h : units ≠ 0) :
    (logOf units).Within (twoPow 1092) := by
  apply within_nearest (onGrid_twoPow (by omega)) (twoPow_pos 256)
  calc (logUnits units).natAbs * unitsPerOne
      ≤ twoPow 18 * fixedOne * unitsPerOne :=
        Nat.mul_le_mul_right _ (natAbs_logUnits_le h grid.2)
    _ = twoPow 1092 * fixedOne := by
        rw [unitsPerOne, Nat.mul_right_comm, ← twoPow_add]

end Binary64

end Retrieval
