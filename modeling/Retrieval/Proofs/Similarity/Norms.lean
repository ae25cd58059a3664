import Retrieval.Proofs.Binary64.SquareRoot
import Retrieval.Proofs.Similarity.Scaling

set_option autoImplicit false

/-! # Norms and cosines of finite vectors

Doubles between -1 and 1 have products between -1 and 1, and their sum stays finite, because from
`2 ^ 53` on nothing is added any more (`innerDoubles_within`). If one of them is 1 or -1, their
squared norm lies between 1 and `2 ^ 53`, hence it is the square root of its own rounded square
(`Binary64.sqrt_mul_self`). When a vector is compared with itself, its inner product is therefore
divided by exactly the same number, and the similarity is 1. -/

namespace Retrieval

open Binary64 (Within AtLeastOne)

/-! ## Inner products -/

theorem foldl_products_within {pairs : List (Binary64 × Binary64)} {summands : Nat}
    {sum : Binary64} (hsum : sum.Within (sumLimit summands))
    (h : ∀ pair ∈ pairs, pair.1.Within unitsPerOne ∧ pair.2.Within unitsPerOne) :
    (pairs.foldl (fun sum pair => sum.add (pair.1.mul pair.2)) sum).Within
      (sumLimit (summands + pairs.length)) := by
  induction pairs generalizing summands sum with
  | nil => exact hsum
  | cons pair rest ih =>
    obtain ⟨⟨hx, hy⟩, hrest⟩ := List.forall_mem_cons.1 h
    have hproduct := hx.mul hy onGrid_unitsPerOne (Nat.le_refl _)
    have hnext := hsum.add hproduct (onGrid_sumLimit (summands + 1)) fun _ =>
      roundToGrid_sumLimit_le
    rw [List.foldl_cons, List.length_cons, Nat.add_comm rest.length, ← Nat.add_assoc]
    exact ih hnext hrest

/-- A sum of products of numbers between -1 and 1 is at most the number of its summands. -/
theorem innerDoubles_within {u v : List Binary64} (hu : ∀ x ∈ u, x.Within unitsPerOne)
    (hv : ∀ x ∈ v, x.Within unitsPerOne) :
    (innerDoubles u v).Within (sumLimit (u.zip v).length) := by
  rw [← Nat.zero_add (u.zip v).length]
  apply foldl_products_within (Binary64.within_zero _)
  intro pair hpair
  obtain ⟨hx, hy⟩ := List.of_mem_zip hpair
  exact ⟨hu _ hx, hv _ hy⟩

theorem sumLimit_le (summands : Nat) : sumLimit summands ≤ twoPow 53 * unitsPerOne :=
  Nat.mul_le_mul_right _ (Nat.min_le_right _ _)

/-- If a product vanishes at each place, so does the sum. -/
theorem innerDoubles_eq_zero {u v : List Binary64} (hu : ∀ x ∈ u, x.isFinite = true)
    (hv : ∀ x ∈ v, x.isFinite = true)
    (h : ∀ pair ∈ u.zip v, pair.1.isZero = true ∨ pair.2.isZero = true) :
    innerDoubles u v = .zero := by
  have hproducts : ∀ pair ∈ u.zip v, (pair.1.mul pair.2).isZero = true := by
    intro pair hpair
    obtain ⟨hx, hy⟩ := List.of_mem_zip hpair
    exact Binary64.isZero_mul (hu _ hx) (hv _ hy) (h pair hpair)
  rw [innerDoubles]
  generalize u.zip v = pairs at hproducts
  induction pairs with
  | nil => rfl
  | cons pair rest ih =>
    obtain ⟨hpair, hrest⟩ := List.forall_mem_cons.1 hproducts
    rw [List.foldl_cons, Binary64.zero_add_of_isZero hpair, ih hrest]

/-! ## Norms -/

namespace UnitScaled

variable {u v : List Binary64}

theorem ne_nil (hu : UnitScaled u) : u ≠ [] := by
  obtain ⟨x, hx, -⟩ := hu.attained
  exact List.ne_nil_of_mem hx

/-- The squared norm is at least 1 and at most the length. -/
theorem exists_norm (hu : UnitScaled u) :
    ∃ units grid, innerDoubles u u = .finite false units grid ∧ unitsPerOne ≤ units ∧
      units ≤ sumLimit u.length := by
  obtain ⟨x, hx, hone⟩ := hu.attained
  have hsq : (x.mul x).AtLeastOne := by
    cases x with
    | finite s units grid =>
      have hunits : units = unitsPerOne := by
        injection hone
      rw [Binary64.mul_finite, bne_self_eq_false, hunits]
      apply Binary64.atLeastOne_nearest
      rw [Nat.mul_div_cancel _ unitsPerOne_pos]
    | _ => cases hone
  have hwithin := innerDoubles_within hu.within hu.within
  rw [List.length_zip, Nat.min_self] at hwithin
  exact (atLeastOne_sumOfSquares hx hsq).exists_eq_finite hwithin

theorem norm_within (hu : UnitScaled u) :
    (innerDoubles u u).Within (twoPow 53 * unitsPerOne) :=
  (innerDoubles_within hu.within hu.within).mono (sumLimit_le _)

/-- The root by which an inner product is divided is finite. -/
theorem root_isFinite (hu : UnitScaled u) (hv : UnitScaled v) {root : Binary64}
    (h : ((innerDoubles u u).mul (innerDoubles v v)).sqrt = .ok root) : root.isFinite = true := by
  have hbound : twoPow 53 * unitsPerOne * (twoPow 53 * unitsPerOne) ≤
      twoPow 1180 * unitsPerOne := by
    simp only [unitsPerOne, ← twoPow_add]
    exact Nat.le_refl _
  exact Binary64.sqrt_isFinite
    (hu.norm_within.mul hv.norm_within (onGrid_twoPow (by omega)) hbound).isFinite h

end UnitScaled

/-! ## Cosines -/

theorem zeros_or_exists (v : List Number) :
    (∀ x ∈ v, x.isZero = true) ∨ ∃ x ∈ v, x.isZero = false := by
  by_cases h : ∃ x ∈ v, x.isZero = false
  · exact Or.inr h
  · left
    simpa using h

section

variable {a b : List Number} (hlength : a.length = b.length)
include hlength

theorem cosine_of_zeros (ha : OneKind a) (hb : OneKind b)
    (h : (∀ x ∈ a, x.isZero = true) ∨ ∀ x ∈ b, x.isZero = true) : cosine a b = .ok .zero := by
  obtain ⟨scaledA, hscaledA⟩ := exists_scaleToUnitMax_eq_ok ha
  obtain ⟨scaledB, hscaledB⟩ := exists_scaleToUnitMax_eq_ok hb
  have hcosine : cosineOfScaled a b = .ok .zero := by
    rcases h with h | h
    · exact cosineOfScaled_of_none_left (scaleToUnitMax_of_zeros h) hscaledB
    · exact cosineOfScaled_of_none_right hscaledA (scaleToUnitMax_of_zeros h)
  rw [cosine_of_length_eq hlength, hcosine, mapError_ok]

/-- The similarity of finite vectors is zero, or else it is an inner product that is divided by a
finite root of at least 1. -/
theorem cosine_cases (ha : OneKind a) (hb : OneKind b) (hfiniteA : ∀ x ∈ a, x.isFinite = true)
    (hfiniteB : ∀ x ∈ b, x.isFinite = true) :
    cosine a b = .ok .zero ∨
    ∃ u v root, scaleToUnitMax a = .ok (some u) ∧ scaleToUnitMax b = .ok (some v) ∧
      UnitScaled u ∧ UnitScaled v ∧ root.AtLeastOne ∧ root.isFinite = true ∧
      cosine a b = .ok ((innerDoubles u v).div root) := by
  rcases zeros_or_exists a with hzeros | hneA
  · exact Or.inl (cosine_of_zeros hlength ha hb (Or.inl hzeros))
  rcases zeros_or_exists b with hzeros | hneB
  · exact Or.inl (cosine_of_zeros hlength ha hb (Or.inr hzeros))
  obtain ⟨u, hu, -, hunitU⟩ := exists_unitScaled ha hfiniteA hneA
  obtain ⟨v, hv, -, hunitV⟩ := exists_unitScaled hb hfiniteB hneB
  obtain ⟨root, hsqrt, hroot, hcosine⟩ := cosineOfScaled_eq hu hv
  refine Or.inr ⟨u, v, root, hu, hv, hunitU, hunitV, hroot, hunitU.root_isFinite hunitV hsqrt, ?_⟩
  rw [cosine_of_length_eq hlength, hcosine, mapError_ok]

theorem exists_isFinite_cosine (ha : OneKind a) (hb : OneKind b)
    (hfiniteA : ∀ x ∈ a, x.isFinite = true) (hfiniteB : ∀ x ∈ b, x.isFinite = true) :
    ∃ similarity, similarity.isFinite = true ∧ cosine a b = .ok similarity := by
  rcases cosine_cases hlength ha hb hfiniteA hfiniteB with
    hzero | ⟨u, v, root, -, -, hu, hv, hroot, hfinite, hcosine⟩
  · exact ⟨_, rfl, hzero⟩
  · have hinner := innerDoubles_within hu.within hv.within
    exact ⟨_, (hinner.div hroot hfinite (onGrid_sumLimit _)).isFinite, hcosine⟩

/-- Vectors that have no place at which both are other than zero are not similar. -/
theorem cosine_of_disjoint (ha : OneKind a) (hb : OneKind b)
    (hfiniteA : ∀ x ∈ a, x.isFinite = true) (hfiniteB : ∀ x ∈ b, x.isFinite = true)
    (h : ∀ pair ∈ a.zip b, pair.1.isZero = true ∨ pair.2.isZero = true) :
    cosine a b = .ok .zero := by
  rcases cosine_cases hlength ha hb hfiniteA hfiniteB with
    hzero | ⟨u, v, root, hu, hv, hunitU, hunitV, hroot, hfinite, hcosine⟩
  · exact hzero
  obtain ⟨hposA, rfl⟩ := eq_of_scaled ha hfiniteA hu
  obtain ⟨hposB, rfl⟩ := eq_of_scaled hb hfiniteB hv
  rw [hcosine, innerDoubles_eq_zero (fun x hx => (hunitU.within x hx).isFinite)
    (fun x hx => (hunitV.within x hx).isFinite) ?_, Binary64.zero_div hroot hfinite]
  rw [List.zip_map, List.forall_mem_map]
  intro pair hpair
  obtain ⟨hx, hy⟩ := List.of_mem_zip hpair
  -- what is zero stays zero when it is divided
  rcases h pair hpair with hzero | hzero
  · exact Or.inl (Number.isZero_dividedBy (hfiniteA _ hx) hzero hposA)
  · exact Or.inr (Number.isZero_dividedBy (hfiniteB _ hy) hzero hposB)

end

theorem cosine_doubles_of_disjoint {u v : List Binary64} (hlength : u.length = v.length)
    (hu : ∀ x ∈ u, x.isFinite = true) (hv : ∀ x ∈ v, x.isFinite = true)
    (h : ∀ pair ∈ u.zip v, pair.1.isZero = true ∨ pair.2.isZero = true) :
    cosine (u.map .double) (v.map .double) = .ok .zero := by
  apply cosine_of_disjoint _ (oneKind_doubles u) (oneKind_doubles v)
  · simpa [Number.isFinite] using hu
  · simpa [Number.isFinite] using hv
  · rw [List.zip_map, List.forall_mem_map]
    exact h
  · rw [List.length_map, List.length_map, hlength]

/-! ## Self-similarity -/

/-- A vector of finite doubles or of integers of any size that has an entry other than zero has the
similarity 1 to itself. -/
theorem cosine_self {v : List Number} (hv : OneKind v) (hfinite : ∀ x ∈ v, x.isFinite = true)
    (hne : ∃ x ∈ v, x.isZero = false) : cosine v v = .ok .one := by
  obtain ⟨u, hu, -, hunit⟩ := exists_unitScaled hv hfinite hne
  obtain ⟨units, grid, hnorm, hlow, hhigh⟩ := hunit.exists_norm
  obtain ⟨root, hsqrt, -, hcosine⟩ := cosineOfScaled_eq hu hu
  -- the root of the product of the two norms is the norm
  rw [hnorm, Binary64.sqrt_mul_self grid hlow (Nat.le_trans hhigh (sumLimit_le _))] at hsqrt
  cases hsqrt
  have hpos : units ≠ 0 := by
    have := unitsPerOne_pos
    omega
  rw [cosine_of_length_eq rfl, hcosine, hnorm, Binary64.div_self false grid hpos, mapError_ok]

/-- Integers of which one lies beyond all doubles, and the negative of the smallest double. -/
theorem cosine_self_extremes :
    cosine [.int (twoPow 2000), .int (-3)] [.int (twoPow 2000), .int (-3)] = .ok .one ∧
      cosine [.double (.finite true 1 (by decide +kernel))]
        [.double (.finite true 1 (by decide +kernel))] = .ok .one :=
  ⟨cosine_self (by decide) (by decide) ⟨.int (-3), by simp, by decide⟩,
    cosine_self (by decide) (by decide) ⟨_, List.mem_singleton_self _, by decide⟩⟩

/-! ## Multiples -/

/-- The similarity of vectors of integers of any size does not change when the vectors are
multiplied by positive integers, and neither does the result of dividing one of them by its largest
magnitude. -/
theorem cosine_multiples {a b : List Int} (hlength : a.length = b.length) {k m : Int} (hk : 0 < k)
    (hm : 0 < m) :
    (∃ scaled, scaleToUnitMax (a.map .int) = .ok scaled ∧
      scaleToUnitMax ((a.map (k * ·)).map .int) = .ok scaled) ∧
    ∃ similarity, similarity.isFinite = true ∧ cosine (a.map .int) (b.map .int) = .ok similarity ∧
      cosine ((a.map (k * ·)).map .int) ((b.map (m * ·)).map .int) = .ok similarity := by
  have hlengths : (a.map Number.int).length = (b.map Number.int).length := by
    simp [hlength]
  have hlengths' : ((a.map (k * ·)).map Number.int).length =
      ((b.map (m * ·)).map Number.int).length := by
    simp [hlength]
  obtain ⟨scaled, hscaled⟩ := exists_scaleToUnitMax_eq_ok (oneKind_ints a)
  obtain ⟨similarity, hfinite, hcosine⟩ := exists_isFinite_cosine hlengths (oneKind_ints a)
    (oneKind_ints b) isFinite_of_mem_ints isFinite_of_mem_ints
  refine ⟨⟨scaled, hscaled, (scaleToUnitMax_multiple hk a).trans hscaled⟩,
    similarity, hfinite, hcosine, ?_⟩
  rw [cosine_of_length_eq hlengths', cosineOfScaled, scaleToUnitMax_multiple hk,
    scaleToUnitMax_multiple hm, ← hcosine, cosine_of_length_eq hlengths, cosineOfScaled]

/-- One vector is multiplied by five, the other to beyond all doubles. -/
theorem cosine_multiples_huge :
    (∃ scaled, scaleToUnitMax [.int 3, .int (-4)] = .ok scaled ∧
      scaleToUnitMax [.int (5 * 3), .int (5 * -4)] = .ok scaled) ∧
    ∃ similarity, similarity.isFinite = true ∧
      cosine [.int 3, .int (-4)] [.int 0, .int 1] = .ok similarity ∧
      cosine [.int (5 * 3), .int (5 * -4)] [.int (twoPow 2000 * 0), .int (twoPow 2000 * 1)] =
        .ok similarity :=
  cosine_multiples (a := [3, -4]) (b := [0, 1]) rfl (by decide)
    (Int.natCast_pos.2 (twoPow_pos 2000))

/-! ## Failures -/

/-- What a vector other than zero is divided into: doubles from -1 to 1, of which one is 1 or -1,
with a squared norm between 1 and their number. -/
structure ScalesTo (v : List Number) (scaled : List Binary64) : Prop where
  scaled_eq : scaleToUnitMax v = .ok (some scaled)
  length_eq : scaled.length = v.length
  bounded : ∀ x ∈ scaled, x.abs.le .one = true
  attained : ∃ x ∈ scaled, x.abs = .one
  norm : ∃ norm, innerProduct (scaled.map .double) (scaled.map .double) = .ok (.double norm) ∧
    Binary64.one.le norm = true ∧ (Number.int v.length).lt (.double norm) = false

theorem exists_scalesTo {v : List Number} (hv : OneKind v) (hfinite : ∀ x ∈ v, x.isFinite = true)
    (hne : ∃ x ∈ v, x.isZero = false) : ∃ scaled, ScalesTo v scaled := by
  obtain ⟨scaled, heq, hlength, hunit⟩ := exists_unitScaled hv hfinite hne
  obtain ⟨units, grid, hnorm, hlow, hhigh⟩ := hunit.exists_norm
  refine ⟨scaled, heq, hlength, fun x hx => (hunit.within x hx).abs_le_one, hunit.attained,
    .finite false units grid, ?_, Binary64.one_le_finite grid hlow, ?_⟩
  · rw [innerProduct, if_pos rfl, sumOfProducts_doubles hunit.ne_nil hunit.ne_nil, hnorm,
      mapError_ok]
  · have hle : units ≤ v.length * unitsPerOne := by
      rw [← hlength]
      exact Nat.le_trans hhigh (Nat.mul_le_mul_right _ (Nat.min_le_left _ _))
    simp only [Number.lt, Number.position, Binary64.position, ExtendedInt.lt,
      Binary64.signedUnits, decide_eq_false_iff_not]
    push_cast at hle ⊢
    omega

/-- The similarity of two vectors fails for different lengths, whatever the entries are, and
otherwise only with an integer that is too large for a double, which needs a vector of integers and
doubles. If the entries are finite, vectors of zeros are similar to nothing, and other vectors are
divided into vectors whose squared norms cannot vanish. -/
theorem cosine_safe (a b : List Number) :
    (∀ left right, cosine a b = .error (.mismatch left right) ↔
      a.length ≠ b.length ∧ left = a.length ∧ right = b.length) ∧
    (∀ cause, cosine a b = .error (.arithmetic cause) →
      a.length = b.length ∧ cause = .integerTooLarge) ∧
    (a.length = b.length → OneKind a → OneKind b →
      (∃ similarity, cosine a b = .ok similarity) ∧
      ((∀ x ∈ a, x.isFinite = true) → (∀ x ∈ b, x.isFinite = true) →
        (((∀ x ∈ a, x.isZero = true) ∨ ∀ x ∈ b, x.isZero = true) → cosine a b = .ok .zero) ∧
        ((∃ x ∈ a, x.isZero = false) → (∃ x ∈ b, x.isZero = false) →
          (∃ u, ScalesTo a u) ∧ ∃ v, ScalesTo b v))) := by
  refine ⟨fun left right => cosine_eq_mismatch_iff, ?_, ?_⟩
  · intro cause h
    by_cases hlength : a.length = b.length
    · rw [cosine_of_length_eq hlength, mapError_eq_error_iff] at h
      obtain ⟨error, herror, hcause⟩ := h
      cases hcause
      exact ⟨hlength, cosineOfScaled_eq_error herror⟩
    · rw [cosine, if_neg hlength] at h
      cases h
  · intro hlength ha hb
    refine ⟨exists_cosine_eq_ok_of_oneKind hlength ha hb, ?_⟩
    intro hfiniteA hfiniteB
    refine ⟨cosine_of_zeros hlength ha hb, ?_⟩
    intro hneA hneB
    exact ⟨exists_scalesTo ha hfiniteA hneA, exists_scalesTo hb hfiniteB hneB⟩

/-- A vector of integers beside one of doubles, a vector of zeros, and two different lengths. -/
theorem cosine_safe_mixed :
    ((∃ u, ScalesTo [.int (-3), .int 2] u) ∧ ∃ v, ScalesTo [.double .zero, .double .one] v) ∧
      cosine [.int 0, .int 0] [.double .zero, .double .one] = .ok .zero ∧
      cosine [.int 0] [.double .zero, .double .one] = .error (.mismatch 1 2) := by
  refine ⟨?_, ?_, ?_⟩
  · have hfinite := (cosine_safe [.int (-3), .int 2] [.double .zero, .double .one]).2.2 rfl
      (by decide) (by decide)
    exact (hfinite.2 (by decide) (by decide)).2 ⟨.int 2, by simp, by decide⟩
      ⟨.double .one, by simp, by decide +kernel⟩
  · have hfinite := (cosine_safe [.int 0, .int 0] [.double .zero, .double .one]).2.2 rfl
      (by decide) (by decide)
    exact (hfinite.2 (by decide) (by decide)).1 (Or.inl (by decide))
  · exact ((cosine_safe [.int 0] [.double .zero, .double .one]).1 1 2).2 ⟨by decide, rfl, rfl⟩

example : cosine [.int (twoPow 2000), .double .one] [.int 1, .int 1] =
    .error (.arithmetic .integerTooLarge) := by
  decide +kernel

end Retrieval
