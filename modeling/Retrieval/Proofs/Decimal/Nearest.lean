import Mathlib.Algebra.Order.Field.Basic
import Mathlib.Tactic.FieldSimp
import Mathlib.Tactic.Positivity
import Retrieval.Decimal
import Retrieval.Proofs.Binary64.Order

set_option autoImplicit false

/-! # Nearest multiples

A double is written as a multiple of the last decimal place. `NearestMultiple` says which: the one
nearest to the exact value of the double, and of two equally near ones the even one. This leaves no
choice and keeps the order of the values (`NearestMultiple.mono`). Rounding half to even finds it:
two multiples are at least one apart, and what is rounded is at most half of one away from its
result, so every other multiple is as far away at least (`distance_roundHalfEven_le`). The sign
plays no part in this, since half to even is the same on both sides of zero
(`Binary64.nearestMultiple_finite`). -/

namespace Retrieval

/-! ## The nearest multiple -/

/-- Of all multiples of `1 / scale`, the one by `n` is nearest to `x`; if another one is as near,
`n` is even. -/
structure NearestMultiple (scale : ℚ) (x : ℚ) (n : ℤ) : Prop where
  le : ∀ k : ℤ, |x - n / scale| ≤ |x - k / scale|
  even : ∀ k : ℤ, k ≠ n → |x - k / scale| = |x - n / scale| → Even n

theorem abs_sub_div {scale : ℚ} (h : 0 < scale) (x : ℚ) (n : ℤ) :
    |x - n / scale| = |x * scale - n| / scale := by
  rw [sub_div' h.ne', abs_div, abs_of_pos h]

theorem nearestMultiple_iff {scale x : ℚ} (h : 0 < scale) {n : ℤ} :
    NearestMultiple scale x n ↔
      (∀ k : ℤ, |x * scale - n| ≤ |x * scale - k|) ∧
        ∀ k : ℤ, k ≠ n → |x * scale - k| = |x * scale - n| → Even n := by
  have hle : ∀ k : ℤ, |x - n / scale| ≤ |x - k / scale| ↔ |x * scale - n| ≤ |x * scale - k| := by
    intro k
    rw [abs_sub_div h, abs_sub_div h, div_le_div_iff_of_pos_right h]
  have heq : ∀ k : ℤ, |x - k / scale| = |x - n / scale| ↔ |x * scale - k| = |x * scale - n| := by
    intro k
    rw [abs_sub_div h, abs_sub_div h, div_left_inj' h.ne']
  constructor
  · rintro ⟨hnear, heven⟩
    exact ⟨fun k => (hle k).1 (hnear k), fun k hk htie => heven k hk ((heq k).2 htie)⟩
  · rintro ⟨hnear, heven⟩
    exact ⟨fun k => (hle k).2 (hnear k), fun k hk htie => heven k hk ((heq k).1 htie)⟩

/-- What is no nearer to the lesser of two numbers lies above the middle between them. -/
theorem middle_le {u low high : ℚ} (hlt : low < high) (h : |u - high| ≤ |u - low|) :
    (low + high) / 2 ≤ u := by
  have hsq := sq_le_sq.2 h
  nlinarith

theorem le_middle {u low high : ℚ} (hlt : low < high) (h : |u - low| ≤ |u - high|) :
    u ≤ (low + high) / 2 := by
  have hsq := sq_le_sq.2 h
  nlinarith

/-- Taking the nearest multiple keeps the order. -/
theorem NearestMultiple.mono {scale x y : ℚ} (hscale : 0 < scale) {m n : ℤ}
    (hm : NearestMultiple scale x m) (hn : NearestMultiple scale y n) (hle : x ≤ y) : m ≤ n := by
  obtain ⟨hm, hmeven⟩ := (nearestMultiple_iff hscale).1 hm
  obtain ⟨hn, hneven⟩ := (nearestMultiple_iff hscale).1 hn
  have hxy : x * scale ≤ y * scale := mul_le_mul_of_nonneg_right hle hscale.le
  generalize x * scale = u at hm hmeven hxy
  generalize y * scale = v at hn hneven hxy
  by_contra hnot
  have hlt : n < m := not_le.1 hnot
  have hcast : (n : ℚ) < m := Int.cast_lt.2 hlt
  -- the two lie in the middle between the multiples, so both multiples are even
  have hu := middle_le hcast (hm n)
  have hv := le_middle hcast (hn m)
  obtain rfl : u = (n + m) / 2 := by linarith
  obtain rfl : v = (n + m) / 2 := by linarith
  have htie : |((n + m) / 2 - n : ℚ)| = |((n + m) / 2 - m : ℚ)| := by
    rw [abs_of_nonneg (by linarith), abs_of_nonpos (by linarith)]
    ring
  obtain ⟨i, hi⟩ := hmeven n hlt.ne htie
  obtain ⟨j, hj⟩ := hneven m hlt.ne' htie.symm
  have hgap : (n : ℚ) + 2 ≤ m := by
    exact_mod_cast (show n + 2 ≤ m by omega)
  -- but then the odd one after the lesser is nearer than the greater
  have hodd := hm (n + 1)
  push_cast at hodd
  rw [abs_of_nonpos (by linarith), abs_of_nonneg (by linarith)] at hodd
  linarith

/-! ## Rounding to the nearest multiple -/

/-- How far the numerator of a ratio is from a multiple of the denominator. -/
def distance (num den : Nat) (k : ℤ) : ℤ := |(num : ℤ) - k * den|

theorem two_mul_distance_le (num : Nat) {den : Nat} (hden : 0 < den) :
    2 * distance num den (roundHalfEven num den) ≤ den := by
  obtain ⟨hhigh, hlow⟩ := roundHalfEven_error num hden
  have hhigh : (2 * (roundHalfEven num den * den) : ℤ) ≤ 2 * num + den := by exact_mod_cast hhigh
  have hlow : (2 * num : ℤ) ≤ 2 * (roundHalfEven num den * den) + den := by exact_mod_cast hlow
  have hhalf : |2 * ((num : ℤ) - roundHalfEven num den * den)| ≤ den :=
    abs_le.2 ⟨by linarith, by linarith⟩
  rwa [abs_mul, abs_two] at hhalf

/-- Two multiples are at least one apart. -/
theorem le_distance_add {m k : ℤ} (h : k ≠ m) (num den : Nat) :
    (den : ℤ) ≤ distance num den k + distance num den m :=
  calc (den : ℤ) ≤ |m - k| * den :=
        le_mul_of_one_le_left (Int.natCast_nonneg den) (Int.one_le_abs (sub_ne_zero.2 h.symm))
    _ = |((num : ℤ) - k * den) - (num - m * den)| := by
        rw [← Nat.abs_cast den, ← abs_mul, Nat.abs_cast]
        ring_nf
    _ ≤ distance num den k + distance num den m := abs_sub _ _

theorem distance_roundHalfEven_le (num : Nat) {den : Nat} (hden : 0 < den) (k : ℤ) :
    distance num den (roundHalfEven num den) ≤ distance num den k := by
  by_cases hk : k = roundHalfEven num den
  · rw [hk]
  · have hapart := le_distance_add hk num den
    have hhalf := two_mul_distance_le num hden
    linarith

/-- What lies halfway between two naturals is rounded to the even one. -/
theorem even_roundHalfEven {num den : Nat} (hden : 0 < den)
    (h : 2 * distance num den (roundHalfEven num den) = den) : Even (roundHalfEven num den) := by
  have hrest : (num : ℤ) = (num / den : Nat) * den + (num % den : Nat) := by
    exact_mod_cast (Nat.div_add_mod' num den).symm
  have hlt := Nat.mod_lt num hden
  rw [distance, roundHalfEven] at h
  rw [roundHalfEven]
  split_ifs at h ⊢ with hlow hhigh
  · rw [hrest, add_sub_cancel_left, abs_of_nonneg (Int.natCast_nonneg _)] at h
    omega
  · have hnext : (num : ℤ) - (num / den + 1 : Nat) * den = (num % den : Nat) - den := by
      rw [Nat.cast_succ]
      linarith
    rw [hnext, abs_of_nonpos (by omega)] at h
    omega
  · rw [Nat.even_iff]
    omega

theorem even_of_distance_eq {num den : Nat} (hden : 0 < den) {k : ℤ}
    (hk : k ≠ roundHalfEven num den)
    (htie : distance num den k = distance num den (roundHalfEven num den)) :
    Even (roundHalfEven num den) := by
  have hapart := le_distance_add hk num den
  have hhalf := two_mul_distance_le num hden
  exact even_roundHalfEven hden (by linarith)

/-! ## Finite doubles -/

namespace Binary64

/-- The exact value of a finite double. -/
def exact : Binary64 → ℚ
  | finite negative units _ => signedUnits negative units / unitsPerOne
  | _ => 0

/-- An integer, or the one as far on the other side of zero. -/
def mirror (negative : Bool) (k : ℤ) : ℤ := if negative then -k else k

theorem signedUnits_eq_mirror (negative : Bool) (n : Nat) :
    signedUnits negative n = mirror negative n := rfl

theorem mirror_mirror (negative : Bool) (k : ℤ) : mirror negative (mirror negative k) = k := by
  cases negative <;> simp [mirror]

theorem even_mirror {negative : Bool} {k : ℤ} (h : Even k) : Even (mirror negative k) := by
  cases negative with
  | false => exact h
  | true => exact h.neg

/-- The magnitude of a finite double is as far from an integer on its side of zero as the double is
from the integer itself. -/
theorem abs_exact_sub {negative : Bool} {units : Nat} (grid : OnGrid units) (scale : Nat) (k : ℤ) :
    |(finite negative units grid).exact * scale - k| =
      distance (units * scale) unitsPerOne (mirror negative k) / unitsPerOne := by
  have hone : (0 : ℚ) < unitsPerOne := Nat.cast_pos.2 unitsPerOne_pos
  have hsplit : (finite negative units grid).exact * scale - k =
      ((signedUnits negative (units * scale) - k * unitsPerOne : ℤ) : ℚ) / unitsPerOne := by
    rw [exact, signedUnits_mul]
    push_cast
    field_simp
  have hmirror : |signedUnits negative (units * scale) - k * unitsPerOne| =
      distance (units * scale) unitsPerOne (mirror negative k) := by
    rw [distance]
    cases negative with
    | false => rfl
    | true =>
      rw [← abs_neg]
      simp only [signedUnits, mirror, if_true]
      ring_nf
  rw [hsplit, abs_div, abs_of_pos hone, ← Int.cast_abs, hmirror]

/-- Rounding the magnitude to even gives the nearest multiple. -/
theorem nearestMultiple_finite {negative : Bool} {units : Nat} (grid : OnGrid units) {scale : Nat}
    (hscale : 0 < scale) :
    NearestMultiple scale (finite negative units grid).exact
      (signedUnits negative (roundHalfEven (units * scale) unitsPerOne)) := by
  have hone : (0 : ℚ) < unitsPerOne := Nat.cast_pos.2 unitsPerOne_pos
  rw [nearestMultiple_iff (Nat.cast_pos.2 hscale), signedUnits_eq_mirror]
  simp only [abs_exact_sub, mirror_mirror, div_le_div_iff_of_pos_right hone,
    div_left_inj' hone.ne', Int.cast_le, Int.cast_inj]
  refine ⟨fun k => distance_roundHalfEven_le _ unitsPerOne_pos _, ?_⟩
  intro k hk htie
  have hne : mirror negative k ≠ roundHalfEven (units * scale) unitsPerOne := by
    intro heq
    rw [← heq, mirror_mirror] at hk
    exact hk rfl
  exact even_mirror ((Int.even_coe_nat _).2 (even_of_distance_eq unitsPerOne_pos hne htie))

theorem exact_le_iff {s t : Bool} {u v : Nat} (gu : OnGrid u) (gv : OnGrid v) :
    (finite s u gu).exact ≤ (finite t v gv).exact ↔ signedUnits s u ≤ signedUnits t v := by
  have hone : (0 : ℚ) < unitsPerOne := Nat.cast_pos.2 unitsPerOne_pos
  rw [exact, exact, div_le_div_iff_of_pos_right hone, Int.cast_le]

/-- The order of finite doubles is that of their exact values. -/
theorem le_iff_exact_le {x y : Binary64} (hx : x.isFinite = true) (hy : y.isFinite = true) :
    x.le y = true ↔ x.exact ≤ y.exact := by
  cases x with
  | finite s u gu =>
    cases y with
    | finite t v gv => rw [le_finite, decide_eq_true_iff, exact_le_iff]
    | _ => cases hy
  | _ => cases hx

theorem exact_le_of_not_lt {x y : Binary64} (hx : x.isFinite = true) (hy : y.isFinite = true)
    (h : x.lt y = false) : y.exact ≤ x.exact := by
  cases x with
  | finite s u gu =>
    cases y with
    | finite t v gv => simpa [lt_finite, exact_le_iff] using h
    | _ => cases hy
  | _ => cases hx

end Binary64

end Retrieval
