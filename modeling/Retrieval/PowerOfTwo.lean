set_option autoImplicit false

/-! # Powers of two

Doubles are cut and counted in powers of two. They are written as shifts of one, and the laws of
powers that the rounding of doubles rests on are stated for them here. -/

namespace Retrieval

/-- Two to the power `k`. -/
def twoPow (k : Nat) : Nat := 1 <<< k

theorem twoPow_add (j k : Nat) : twoPow (j + k) = twoPow j * twoPow k := by
  simp only [twoPow, Nat.one_shiftLeft, Nat.pow_add]

theorem twoPow_succ (k : Nat) : twoPow (k + 1) = 2 * twoPow k := by
  rw [Nat.add_comm, twoPow_add]
  rfl

theorem twoPow_pos (k : Nat) : 0 < twoPow k := by
  simp only [twoPow, Nat.one_shiftLeft, Nat.two_pow_pos]

theorem twoPow_dvd_twoPow {j k : Nat} (h : j ≤ k) : twoPow j ∣ twoPow k := by
  simp only [twoPow, Nat.one_shiftLeft, Nat.pow_dvd_pow 2 h]

theorem twoPow_le_twoPow {j k : Nat} (h : j ≤ k) : twoPow j ≤ twoPow k :=
  Nat.le_of_dvd (twoPow_pos k) (twoPow_dvd_twoPow h)

/-! ## Powers of two and the binary logarithm -/

theorem log2_twoPow (k : Nat) : (twoPow k).log2 = k := by
  rw [twoPow, Nat.one_shiftLeft, Nat.log2_two_pow]

theorem log2_lt_iff {n k : Nat} (h : n ≠ 0) : n.log2 < k ↔ n < twoPow k := by
  rw [twoPow, Nat.one_shiftLeft, Nat.log2_lt h]

theorem lt_twoPow_log2_succ (n : Nat) : n < twoPow (n.log2 + 1) := by
  rw [twoPow, Nat.one_shiftLeft]
  exact Nat.lt_log2_self

theorem twoPow_log2_le {n : Nat} (h : n ≠ 0) : twoPow n.log2 ≤ n := by
  rw [twoPow, Nat.one_shiftLeft]
  exact Nat.log2_self_le h

end Retrieval
