import Retrieval.PowerOfTwo
import Retrieval.Rounding
set_option autoImplicit false

/-! # Doubles

A double is not-a-number, one of the two infinities, or a signed finite number. The magnitude of a
finite double is kept as a whole number of *units*, the smallest positive double `2 ^ -1074`: every
finite double is such a multiple, so sums and comparisons of doubles are those of integers, and a
rounding is stated about naturals. The multiples that are doubles are those on the *grid*: they
have no bit below the leading fifty-three and stay under `2 ^ 1024`.

`Binary64.nearest` is the one way into the type: it rounds a quotient of units to the grid.
`Binary64.ofBits` and `Binary64.toBits` read and write the interchange format of 64 bits. -/

namespace Retrieval

/-- The number of units in 1. -/
def unitsPerOne : Nat := twoPow 1074

/-- The number of units in `2 ^ 1024`, which is too large for a finite double. -/
def unitsLimit : Nat := twoPow 2098

/-- A magnitude that a double can have: none of its bits lies below the leading fifty-three, and
it is below the limit. -/
def OnGrid (units : Nat) : Prop :=
  twoPow (units.log2 - 52) ∣ units ∧ units < unitsLimit

instance (units : Nat) : Decidable (OnGrid units) :=
  inferInstanceAs (Decidable (_ ∧ _))

/-- A double, with one not-a-number. -/
inductive Binary64 where
  | nan
  | infinite (negative : Bool)
  | finite (negative : Bool) (units : Nat) (grid : OnGrid units)
  deriving DecidableEq

/-! ## Rounding to the grid -/

/-- The place of the last bit that a double near `num / den` units keeps. -/
def gridStep (num den : Nat) : Nat :=
  twoPow ((num / den).log2 - 52)

/-- The multiple of the grid step nearest to `num / den`. -/
def roundToGrid (num den : Nat) : Nat :=
  roundHalfEven num (den * gridStep num den) * gridStep num den

/-- Rounding stays within the binade of the quotient or reaches the next power of two. -/
theorem roundToGrid_le (num den : Nat) :
    roundToGrid num den ≤ twoPow ((num / den).log2 + 1) := by
  unfold roundToGrid gridStep
  have hq := lt_twoPow_log2_succ (num / den)
  generalize (num / den).log2 = k at hq ⊢
  have hr := roundHalfEven_le_div_add_one num (den * twoPow (k - 52))
  rw [← Nat.div_div_eq_div_mul] at hr
  have hpow : twoPow (k + 1) = twoPow (k + 1 - (k - 52)) * twoPow (k - 52) := by
    rw [← twoPow_add]; congr 1; omega
  have hdiv : num / den / twoPow (k - 52) < twoPow (k + 1 - (k - 52)) :=
    (Nat.div_lt_iff_lt_mul (twoPow_pos _)).2 (hpow ▸ hq)
  rw [hpow]
  exact Nat.mul_le_mul_right _ (by omega)

theorem gridStep_dvd_roundToGrid (num den : Nat) : gridStep num den ∣ roundToGrid num den :=
  Nat.dvd_mul_left _ _

/-- What has been rounded to the grid and is not too large is the magnitude of a double. -/
theorem onGrid_roundToGrid {num den : Nat} (h : roundToGrid num den < unitsLimit) :
    OnGrid (roundToGrid num den) := by
  refine ⟨?_, h⟩
  have hle := roundToGrid_le num den
  have hdvd := gridStep_dvd_roundToGrid num den
  unfold gridStep at hdvd
  generalize roundToGrid num den = m at hle hdvd
  generalize (num / den).log2 = k at hle hdvd
  rcases Nat.lt_or_eq_of_le hle with hlt | rfl
  · by_cases hm : m = 0
    · exact hm ▸ Nat.dvd_zero _
    · have : m.log2 < k + 1 := (log2_lt_iff hm).2 hlt
      exact Nat.dvd_trans (twoPow_dvd_twoPow (by omega)) hdvd
  · rw [log2_twoPow]
    exact twoPow_dvd_twoPow (by omega)

/-- A number of at most fifty-three bits, shifted up, is on the grid. -/
theorem onGrid_mul_twoPow {m k : Nat} (hm : m < twoPow 53) (h : m * twoPow k < unitsLimit) :
    OnGrid (m * twoPow k) := by
  refine ⟨?_, h⟩
  by_cases h0 : m = 0
  · simp [h0]
  · have hne : m * twoPow k ≠ 0 := Nat.mul_ne_zero h0 (Nat.ne_of_gt (twoPow_pos k))
    have hlog : (m * twoPow k).log2 < 53 + k := by
      rw [log2_lt_iff hne, twoPow_add]
      exact (Nat.mul_lt_mul_right (twoPow_pos k)).2 hm
    exact Nat.dvd_trans (twoPow_dvd_twoPow (by omega)) (Nat.dvd_mul_left _ _)

theorem mul_twoPow_lt_unitsLimit {m k : Nat} (hm : m < twoPow 53) (hk : k ≤ 2045) :
    m * twoPow k < unitsLimit := by
  have hlt : m * twoPow k < twoPow 53 * twoPow k := (Nat.mul_lt_mul_right (twoPow_pos k)).2 hm
  rw [← twoPow_add] at hlt
  exact Nat.lt_of_lt_of_le hlt (twoPow_le_twoPow (by omega))

namespace Binary64

/-- The double nearest to `num / den` units, ties to even; beyond the largest it is infinite. -/
def nearest (negative : Bool) (num den : Nat) : Binary64 :=
  if h : roundToGrid num den < unitsLimit then
    finite negative (roundToGrid num den) (onGrid_roundToGrid h)
  else
    infinite negative

/-- The double nearest to the quotient `num / den`, ties to even. -/
def ofRatio (negative : Bool) (num den : Nat) : Binary64 :=
  nearest negative (num * unitsPerOne) den

/-- The double nearest to an integer. -/
def ofInt (n : Int) : Binary64 :=
  ofRatio (decide (n < 0)) n.natAbs 1

/-- Positive zero. -/
def zero : Binary64 := finite false 0 (by decide +kernel)

/-- The double 1. -/
def one : Binary64 := finite false unitsPerOne (by decide +kernel)

instance : Inhabited Binary64 := ⟨zero⟩

/-- Both zeros are zero. -/
def isZero : Binary64 → Bool
  | finite _ units _ => units == 0
  | _ => false

/-! ## The interchange format -/

/-- The double with these 64 bits: a sign, eleven bits of exponent, fifty-two of fraction. -/
def ofBits (bits : UInt64) : Binary64 :=
  let negative := bits.toNat / twoPow 63 % 2 == 1
  let exponent := bits.toNat / twoPow 52 % twoPow 11
  let fraction := bits.toNat % twoPow 52
  have hf : fraction < twoPow 52 := Nat.mod_lt _ (twoPow_pos 52)
  have he : exponent < 2048 := Nat.mod_lt _ (twoPow_pos 11)
  have hs : twoPow 53 = 2 * twoPow 52 := twoPow_succ 52
  if hmax : exponent = 2047 then
    if fraction = 0 then infinite negative else nan
  else if exponent = 0 then
    finite negative (fraction * twoPow 0)
      (onGrid_mul_twoPow (by omega) (mul_twoPow_lt_unitsLimit (by omega) (by omega)))
  else
    finite negative ((twoPow 52 + fraction) * twoPow (exponent - 1))
      (onGrid_mul_twoPow (by omega) (mul_twoPow_lt_unitsLimit (by omega) (by omega)))

/-- The bit of the sign. -/
def signBit (negative : Bool) : Nat := if negative then twoPow 63 else 0

/-- The 64 bits of a double; the one not-a-number is the quiet one. A magnitude below `2 ^ 53`
units is its own bit pattern; above, each doubling of the last place adds one to the exponent. -/
def toBits : Binary64 → UInt64
  | nan => 0x7ff8000000000000
  | infinite negative => UInt64.ofNat (signBit negative + 2047 * twoPow 52)
  | finite negative units _ =>
    let shift := units.log2 - 52
    UInt64.ofNat (signBit negative + shift * twoPow 52 + units / twoPow shift)

end Binary64

end Retrieval
