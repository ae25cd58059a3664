import Mathlib.Algebra.BigOperators.Fin
import Mathlib.Algebra.Order.BigOperators.Ring.Finset
import Mathlib.Analysis.Real.Sqrt
import Mathlib.LinearAlgebra.Matrix.DotProduct
import Retrieval.Proofs.Similarity

set_option autoImplicit false

/-! # Inner products of integers

The sum of products starts from the integer zero, so among integers it never leaves the exact
numbers (`sumOfProducts_ints`), and the inner product of two vectors of integers is the dot product
of their entries (`hasProduct_ofFn`). It is symmetric, linear in each vector and zero for a vector
with itself only if all entries are, and the Cauchy-Schwarz inequality holds for it, so that the
exact cosine lies between -1 and 1 (`innerProduct_ints`). -/

namespace Retrieval

/-! ## Exact sums -/

theorem sumOfProducts_ints (a b : List Int) :
    sumOfProducts (a.map .int) (b.map .int) = .ok (.int (List.zipWith (· * ·) a b).sum) := by
  have hzip : (a.map Number.int).zip (b.map Number.int) =
      (a.zip b).map fun pair => (Number.int pair.1, Number.int pair.2) :=
    List.zip_map
  have hsum : (a.zip b).foldl (fun sum pair => sum + pair.1 * pair.2) 0 =
      (List.zipWith (· * ·) a b).sum := by
    rw [List.sum_eq_foldl, ← List.map_uncurry_zip_eq_zipWith, List.foldl_map]
    rfl
  rw [sumOfProducts, hzip, foldlM_products Number.mul_int Number.add_int, hsum]

/-- Two vectors of integers have an inner product, and it is this integer. -/
def HasProduct (a b : List Int) (product : Int) : Prop :=
  innerProduct (a.map .int) (b.map .int) = .ok (.int product)

variable {a b c : List Int} {p q r : Int}

theorem hasProduct_iff :
    HasProduct a b p ↔ a.length = b.length ∧ p = (List.zipWith (· * ·) a b).sum := by
  rw [HasProduct, innerProduct, List.length_map, List.length_map, sumOfProducts_ints]
  split
  · next hlength => simp [hlength, eq_comm]
  · next hlength => simp [hlength]

/-! ## The dot product -/

theorem exists_ofFn_eq (a : List Int) : ∃ (n : Nat) (f : Fin n → ℤ), List.ofFn f = a :=
  ⟨a.length, a.get, List.ofFn_get a⟩

/-- A function of two vectors at each place, on lists. -/
theorem zipWith_ofFn {n : Nat} (op : ℤ → ℤ → ℤ) (f g : Fin n → ℤ) :
    List.zipWith op (List.ofFn f) (List.ofFn g) = List.ofFn fun i => op (f i) (g i) := by
  apply List.ext_getElem <;> simp

theorem hasProduct_ofFn {n : Nat} {f g : Fin n → ℤ} :
    HasProduct (List.ofFn f) (List.ofFn g) p ↔ p = f ⬝ᵥ g := by
  rw [hasProduct_iff, zipWith_ofFn, List.sum_ofFn]
  simp [dotProduct]

namespace HasProduct

/-- Vectors that have a product have one length, and it is the dot product of their entries. -/
theorem exists_entries (h : HasProduct a b p) :
    ∃ (n : Nat) (f g : Fin n → ℤ), List.ofFn f = a ∧ List.ofFn g = b ∧ p = f ⬝ᵥ g := by
  obtain ⟨m, f, rfl⟩ := exists_ofFn_eq a
  obtain ⟨n, g, rfl⟩ := exists_ofFn_eq b
  obtain rfl : m = n := by simpa using (hasProduct_iff.1 h).1
  exact ⟨m, f, g, rfl, rfl, hasProduct_ofFn.1 h⟩

theorem symm (h : HasProduct a b p) : HasProduct b a p := by
  obtain ⟨n, f, g, rfl, rfl, rfl⟩ := h.exists_entries
  rw [hasProduct_ofFn, dotProduct_comm]

theorem add_left (hp : HasProduct a c p) (hq : HasProduct b c q) :
    HasProduct (List.zipWith (· + ·) a b) c (p + q) := by
  obtain ⟨n, f, h, rfl, rfl, rfl⟩ := hp.exists_entries
  obtain ⟨m, g, rfl⟩ := exists_ofFn_eq b
  obtain rfl : m = n := by simpa using (hasProduct_iff.1 hq).1
  rw [hasProduct_ofFn.1 hq, zipWith_ofFn, hasProduct_ofFn]
  exact (add_dotProduct f g h).symm

theorem mul_left (k : ℤ) (h : HasProduct a b p) : HasProduct (a.map (k * ·)) b (k * p) := by
  obtain ⟨n, f, g, rfl, rfl, rfl⟩ := h.exists_entries
  rw [List.map_ofFn, hasProduct_ofFn]
  exact (smul_dotProduct k f g).symm

theorem nonneg (h : HasProduct a a p) : 0 ≤ p := by
  obtain ⟨n, f, rfl⟩ := exists_ofFn_eq a
  rw [hasProduct_ofFn.1 h]
  exact Finset.sum_nonneg fun i _ => mul_self_nonneg (f i)

theorem eq_zero_iff (h : HasProduct a a p) : p = 0 ↔ ∀ x ∈ a, x = 0 := by
  obtain ⟨n, f, rfl⟩ := exists_ofFn_eq a
  rw [hasProduct_ofFn.1 h, dotProduct_self_eq_zero, List.forall_mem_ofFn_iff]
  exact funext_iff

/-- The Cauchy-Schwarz inequality. -/
theorem sq_le (hp : HasProduct a b p) (hq : HasProduct a a q) (hr : HasProduct b b r) :
    p ^ 2 ≤ q * r := by
  obtain ⟨n, f, g, rfl, rfl, rfl⟩ := hp.exists_entries
  rw [hasProduct_ofFn.1 hq, hasProduct_ofFn.1 hr]
  simpa only [dotProduct, sq] using Finset.sum_mul_sq_le_sq_mul_sq Finset.univ f g

theorem cosine_mem (hp : HasProduct a b p) (hq : HasProduct a a q) (hr : HasProduct b b r) :
    (p / √(q * r) : ℝ) ∈ Set.Icc (-1) 1 := by
  have hsq : (p : ℝ) ^ 2 ≤ q * r := by exact_mod_cast hp.sq_le hq hr
  rw [Set.mem_Icc, ← abs_le, abs_div, abs_of_nonneg (Real.sqrt_nonneg _)]
  exact div_le_one_of_le₀ (Real.abs_le_sqrt hsq) (Real.sqrt_nonneg _)

end HasProduct

/-! ## The laws -/

/-- The laws of an inner product, as a relation of two vectors of integers to an integer. -/
structure InnerProductLaws (product : List ℤ → List ℤ → ℤ → Prop) : Prop where
  /-- Vectors of one length, and no others, have a product, and it is the exact sum. -/
  product_iff : ∀ {a b p},
    product a b p ↔ a.length = b.length ∧ p = (List.zipWith (· * ·) a b).sum
  symm : ∀ {a b p}, product a b p → product b a p
  add_left : ∀ {a b c p q}, product a c p → product b c q →
    product (List.zipWith (· + ·) a b) c (p + q)
  add_right : ∀ {a b c p q}, product c a p → product c b q →
    product c (List.zipWith (· + ·) a b) (p + q)
  mul_left : ∀ (k : ℤ) {a b p}, product a b p → product (a.map (k * ·)) b (k * p)
  mul_right : ∀ (k : ℤ) {a b p}, product a b p → product a (b.map (k * ·)) (k * p)
  nonneg : ∀ {a p}, product a a p → 0 ≤ p
  eq_zero_iff : ∀ {a p}, product a a p → (p = 0 ↔ ∀ x ∈ a, x = 0)
  sq_le : ∀ {a b p q r}, product a b p → product a a q → product b b r → p ^ 2 ≤ q * r
  cosine_mem : ∀ {a b p q r}, product a b p → product a a q → product b b r →
    (p / √(q * r) : ℝ) ∈ Set.Icc (-1) 1

/-- The product of vectors of integers is an inner product, whatever the size of the entries. -/
theorem innerProduct_ints : InnerProductLaws HasProduct where
  product_iff := hasProduct_iff
  symm := HasProduct.symm
  add_left := HasProduct.add_left
  add_right hp hq := (hp.symm.add_left hq.symm).symm
  mul_left k := HasProduct.mul_left k
  mul_right k _ _ _ h := (h.symm.mul_left k).symm
  nonneg := HasProduct.nonneg
  eq_zero_iff := HasProduct.eq_zero_iff
  sq_le := HasProduct.sq_le
  cosine_mem := HasProduct.cosine_mem

end Retrieval
