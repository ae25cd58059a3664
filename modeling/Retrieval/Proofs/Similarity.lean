import Retrieval.Similarity
import Retrieval.Proofs.Number
import Retrieval.Proofs.Traversal

set_option autoImplicit false

/-! # Similarity that cannot fail

The cosine of two vectors divides twice and takes a root once. A vector is only divided by its
largest magnitude if that is not zero; the entry that attains it is divided by its own magnitude
then, which gives a square of at least 1 or not-a-number (`exists_entry_of_scaled`). So the squared
norms and the root of their product are at least 1 or not-a-number, and the last division is not by
zero (`cosineOfScaled_eq`). What is left to fail is the first division, where an integer that is too
large for a double meets a double (`scaleToUnitMax_eq_error`). In vectors of one kind, all integers
or all doubles, none does. -/

namespace Retrieval

open Binary64 (NonNegative AtLeastOne)

/-! ## Sums of products -/

/-- The sum of the products of doubles at the same place. -/
def innerDoubles (u v : List Binary64) : Binary64 :=
  (u.zip v).foldl (fun sum pair => sum.add (pair.1.mul pair.2)) .zero

/-- Among numbers of a kind whose products and sums are of this kind, the sum is added up within the
kind. -/
theorem foldlM_products {α : Type} {of : α → Number} {times plus : α → α → α}
    (hmul : ∀ x y, (of x).mul (of y) = .ok (of (times x y)))
    (hadd : ∀ x y, (of x).add (of y) = .ok (of (plus x y))) (pairs : List (α × α)) (sum : α) :
    (pairs.map fun pair => (of pair.1, of pair.2)).foldlM
        (fun sum pair => do sum.add (← pair.1.mul pair.2)) (of sum) =
      .ok (of (pairs.foldl (fun sum pair => plus sum (times pair.1 pair.2)) sum)) := by
  induction pairs generalizing sum with
  | nil => rfl
  | cons pair rest ih =>
    rw [List.map_cons, List.foldlM_cons, List.foldl_cons, hmul, ok_bind, hadd, ok_bind, ih]

theorem sumOfProducts_doubles {u v : List Binary64} (hu : u ≠ []) (hv : v ≠ []) :
    sumOfProducts (u.map .double) (v.map .double) = .ok (.double (innerDoubles u v)) := by
  obtain ⟨x, xs, rfl⟩ := List.exists_cons_of_ne_nil hu
  obtain ⟨y, ys, rfl⟩ := List.exists_cons_of_ne_nil hv
  have hzip : (xs.map Number.double).zip (ys.map Number.double) =
      (xs.zip ys).map fun pair => (Number.double pair.1, Number.double pair.2) :=
    List.zip_map
  rw [sumOfProducts, innerDoubles, List.map_cons, List.map_cons, List.zip_cons_cons,
    List.zip_cons_cons, List.foldlM_cons, List.foldl_cons, Number.mul_double, ok_bind,
    Number.int_zero_add, ok_bind, hzip, foldlM_products Number.mul_double Number.add_double]

/-! ## Sums of squares -/

theorem foldl_squares_nonNegative {sum : Binary64} (h : sum.NonNegative) (u : List Binary64) :
    (u.foldl (fun sum x => sum.add (x.mul x)) sum).NonNegative := by
  induction u generalizing sum with
  | nil => exact h
  | cons x rest ih => exact ih (h.add (Binary64.nonNegative_mul_self x))

theorem foldl_squares_atLeastOne {sum : Binary64} (h : sum.AtLeastOne) (u : List Binary64) :
    (u.foldl (fun sum x => sum.add (x.mul x)) sum).AtLeastOne := by
  induction u generalizing sum with
  | nil => exact h
  | cons x rest ih => exact ih (h.add_nonNegative (Binary64.nonNegative_mul_self x))

theorem innerDoubles_self (u : List Binary64) :
    innerDoubles u u = u.foldl (fun sum x => sum.add (x.mul x)) .zero := by
  have hzip : u.zip u = u.map fun x => (x, x) := by
    apply List.ext_getElem <;> simp
  rw [innerDoubles, hzip, List.foldl_map]

/-- A sum of squares is at least 1 if one of the squares is. -/
theorem atLeastOne_sumOfSquares {u : List Binary64} {x : Binary64} (hx : x ∈ u)
    (h : (x.mul x).AtLeastOne) : (innerDoubles u u).AtLeastOne := by
  obtain ⟨before, after, rfl⟩ := List.append_of_mem hx
  have hzero : Binary64.NonNegative .zero := .finite 0 _
  have hbefore := foldl_squares_nonNegative hzero before
  rw [innerDoubles_self, List.foldl_append, List.foldl_cons]
  exact foldl_squares_atLeastOne (hbefore.add_atLeastOne h) after

/-! ## The largest magnitude -/

/-- The magnitude of the next entry if it is greater than the largest so far. -/
def greaterAbs (best y : Number) : Number := if best.lt y.abs then y.abs else best

theorem peak_cons (x : Number) (xs : List Number) : peak (x :: xs) = xs.foldl greaterAbs x.abs :=
  rfl

/-- What is not above the largest so far is not above the next one. -/
theorem greaterAbs_not_lt {best x : Number} (h : best.lt x = false) (y : Number) :
    (greaterAbs best y).lt x = false := by
  rw [greaterAbs]
  split
  · next hlt => exact Number.not_lt_of_lt hlt h
  · exact h

theorem greaterAbs_not_lt_abs (best y : Number) : (greaterAbs best y).lt y.abs = false := by
  rw [greaterAbs]
  split
  · exact Number.lt_irrefl _
  · next hlt => exact Bool.eq_false_iff.2 hlt

theorem foldl_greaterAbs_not_lt {best x : Number} (h : best.lt x = false) (v : List Number) :
    (v.foldl greaterAbs best).lt x = false := by
  induction v generalizing best with
  | nil => exact h
  | cons y rest ih => exact ih (greaterAbs_not_lt h y)

theorem exists_foldl_greaterAbs_eq (x : Number) (xs : List Number) :
    ∃ y ∈ x :: xs, xs.foldl greaterAbs x.abs = y.abs := by
  induction xs generalizing x with
  | nil => exact ⟨x, List.mem_cons_self, rfl⟩
  | cons z rest ih =>
    rw [List.foldl_cons, greaterAbs]
    split
    · obtain ⟨y, hy, heq⟩ := ih z
      exact ⟨y, List.mem_cons_of_mem x hy, heq⟩
    · obtain ⟨y, hy, heq⟩ := ih x
      exact ⟨y, by grind, heq⟩

/-- The largest magnitude is that of an entry, and no entry is above it. -/
theorem exists_peak_eq {v : List Number} (hv : v ≠ []) :
    ∃ y ∈ v, peak v = y.abs ∧ ∀ x ∈ v, y.abs.lt x.abs = false := by
  obtain ⟨first, rest, rfl⟩ := List.exists_cons_of_ne_nil hv
  obtain ⟨y, hy, heq⟩ := exists_foldl_greaterAbs_eq first rest
  refine ⟨y, hy, (peak_cons first rest).trans heq, ?_⟩
  intro x hx
  rw [← heq]
  rcases List.mem_cons.1 hx with rfl | hx
  · exact foldl_greaterAbs_not_lt (Number.lt_irrefl _) rest
  · obtain ⟨before, after, rfl⟩ := List.append_of_mem hx
    rw [List.foldl_append, List.foldl_cons]
    exact foldl_greaterAbs_not_lt (greaterAbs_not_lt_abs _ x) after

theorem exists_peak_eq_of_isZero {v : List Number} (h : (peak v).isZero = false) :
    ∃ y ∈ v, y.isZero = false ∧ peak v = y.abs ∧ ∀ x ∈ v, y.abs.lt x.abs = false := by
  have hv : v ≠ [] := by
    rintro rfl
    cases h
  obtain ⟨y, hy, hpeak, hbound⟩ := exists_peak_eq hv
  rw [hpeak, Number.isZero_abs] at h
  exact ⟨y, hy, h, hpeak, hbound⟩

/-! ## Division by the largest magnitude -/

theorem scaleToUnitMax_of_isZero {v : List Number} (h : (peak v).isZero = true) :
    scaleToUnitMax v = .ok none := by
  rw [scaleToUnitMax, if_pos h]

theorem scaleToUnitMax_of_not_isZero {v : List Number} (h : (peak v).isZero = false) :
    scaleToUnitMax v = some <$> v.mapM (fun x => x.div (peak v)) := by
  rw [scaleToUnitMax, h, if_neg Bool.false_ne_true]

/-- A vector that is divided by its largest magnitude has an entry with a square of at least 1. -/
theorem exists_entry_of_scaled {v : List Number} {scaled : List Binary64}
    (h : scaleToUnitMax v = .ok (some scaled)) : ∃ x ∈ scaled, (x.mul x).AtLeastOne := by
  cases hzero : (peak v).isZero with
  | true =>
    rw [scaleToUnitMax_of_isZero hzero] at h
    cases h
  | false =>
    obtain ⟨y, hy, hy0, hpeak, -⟩ := exists_peak_eq_of_isZero hzero
    rw [scaleToUnitMax_of_not_isZero hzero, map_eq_ok_iff] at h
    obtain ⟨quotients, hdivide, hsome⟩ := h
    cases hsome
    -- `y` attains the peak, so its quotient is the entry asked for
    obtain ⟨quotient, hquotient, hsq⟩ := Number.exists_div_abs_self hy0
    have hmem : Except.ok quotient ∈ v.map fun x => x.div (peak v) :=
      List.mem_map.2 ⟨y, hy, by rw [hpeak, hquotient]⟩
    rw [mapM_eq_ok_iff.1 hdivide] at hmem
    obtain ⟨x, hx, hxq⟩ := List.mem_map.1 hmem
    cases hxq
    exact ⟨quotient, hx, hsq⟩

theorem scaleToUnitMax_eq_error {v : List Number} {error : ArithmeticError}
    (h : scaleToUnitMax v = .error error) : error = .integerTooLarge := by
  cases hzero : (peak v).isZero with
  | true =>
    rw [scaleToUnitMax_of_isZero hzero] at h
    cases h
  | false =>
    obtain ⟨y, -, hy0, hpeak, hbound⟩ := exists_peak_eq_of_isZero hzero
    rw [scaleToUnitMax_of_not_isZero hzero, map_eq_error_iff] at h
    obtain ⟨x, hx, hdivide⟩ := exists_mem_of_mapM_eq_error h
    rw [hpeak] at hdivide
    exact Number.div_abs_eq_error hy0 (hbound x hx) hdivide

/-- All entries are integers, or all are doubles. -/
def OneKind (v : List Number) : Prop :=
  (∀ x ∈ v, x.isInt = true) ∨ ∀ x ∈ v, x.isInt = false

instance (v : List Number) : Decidable (OneKind v) :=
  inferInstanceAs (Decidable (_ ∨ _))

theorem oneKind_doubles (v : List Binary64) : OneKind (v.map .double) := by
  right
  simp [Number.isInt]

theorem oneKind_ints (a : List Int) : OneKind (a.map .int) := by
  left
  simp [Number.isInt]

theorem OneKind.isInt_eq {v : List Number} (h : OneKind v) {x y : Number} (hx : x ∈ v)
    (hy : y ∈ v) : x.isInt = y.isInt := by
  rcases h with h | h
  · rw [h x hx, h y hy]
  · rw [h x hx, h y hy]

theorem exists_scaleToUnitMax_eq_ok {v : List Number} (hv : OneKind v) :
    ∃ scaled, scaleToUnitMax v = .ok scaled := by
  cases hzero : (peak v).isZero with
  | true => exact ⟨none, scaleToUnitMax_of_isZero hzero⟩
  | false =>
    obtain ⟨y, hy, hy0, hpeak, hbound⟩ := exists_peak_eq_of_isZero hzero
    have hdivide : ∃ scaled, v.mapM (fun x => x.div (peak v)) = .ok scaled := by
      rw [exists_mapM_eq_ok_iff, hpeak]
      intro x hx
      exact Number.exists_div_abs_eq_ok (hv.isInt_eq hx hy) hy0 (hbound x hx)
    obtain ⟨scaled, hscaled⟩ := hdivide
    exact ⟨some scaled, by rw [scaleToUnitMax_of_not_isZero hzero, hscaled, map_ok]⟩

/-! ## Cosines -/

/-- The cosine of vectors that are divided by their largest magnitudes: both squared norms are at
least 1, and so is the root of their product. -/
theorem cosineOfScaled_eq {a b : List Number} {u v : List Binary64}
    (ha : scaleToUnitMax a = .ok (some u)) (hb : scaleToUnitMax b = .ok (some v)) :
    ∃ root, ((innerDoubles u u).mul (innerDoubles v v)).sqrt = .ok root ∧ root.AtLeastOne ∧
      cosineOfScaled a b = .ok ((innerDoubles u v).div root) := by
  obtain ⟨x, hx, hxx⟩ := exists_entry_of_scaled ha
  obtain ⟨y, hy, hyy⟩ := exists_entry_of_scaled hb
  have hu : u ≠ [] := List.ne_nil_of_mem hx
  have hv : v ≠ [] := List.ne_nil_of_mem hy
  have hnorms := (atLeastOne_sumOfSquares hx hxx).mul (atLeastOne_sumOfSquares hy hyy)
  obtain ⟨root, hsqrt, hroot⟩ := hnorms.sqrt
  refine ⟨root, hsqrt, hroot, ?_⟩
  rw [cosineOfScaled, ha, hb, ok_bind, ok_bind]
  simp only [sumOfProducts_doubles hu hu, sumOfProducts_doubles hv hv, sumOfProducts_doubles hu hv,
    ok_bind, Number.mul_double, Number.toDouble, hsqrt, Number.div_double _ hroot.isZero]

theorem cosineOfScaled_of_none_left {a b : List Number} {scaled : Option (List Binary64)}
    (ha : scaleToUnitMax a = .ok none) (hb : scaleToUnitMax b = .ok scaled) :
    cosineOfScaled a b = .ok .zero := by
  rw [cosineOfScaled, ha, hb]
  rfl

theorem cosineOfScaled_of_none_right {a b : List Number} {scaled : Option (List Binary64)}
    (ha : scaleToUnitMax a = .ok scaled) (hb : scaleToUnitMax b = .ok none) :
    cosineOfScaled a b = .ok .zero := by
  rw [cosineOfScaled, ha, hb]
  cases scaled <;> rfl

theorem cosineOfScaled_of_error_left {a b : List Number} {error : ArithmeticError}
    (ha : scaleToUnitMax a = .error error) : cosineOfScaled a b = .error error := by
  rw [cosineOfScaled, ha, error_bind]

/-- A vector that is divided first does not hide that the other one cannot be divided. -/
theorem cosineOfScaled_of_error_right {a b : List Number} {scaled : Option (List Binary64)}
    {error : ArithmeticError} (ha : scaleToUnitMax a = .ok scaled)
    (hb : scaleToUnitMax b = .error error) : cosineOfScaled a b = .error error := by
  rw [cosineOfScaled, ha, hb, ok_bind, error_bind]

/-- Vectors that can be divided by their largest magnitudes have a cosine. -/
theorem exists_cosineOfScaled_eq_ok {a b : List Number} {scaledA scaledB : Option (List Binary64)}
    (ha : scaleToUnitMax a = .ok scaledA) (hb : scaleToUnitMax b = .ok scaledB) :
    ∃ similarity, cosineOfScaled a b = .ok similarity := by
  cases scaledA with
  | none => exact ⟨_, cosineOfScaled_of_none_left ha hb⟩
  | some u =>
    cases scaledB with
    | none => exact ⟨_, cosineOfScaled_of_none_right ha hb⟩
    | some v =>
      obtain ⟨_, -, -, hcosine⟩ := cosineOfScaled_eq ha hb
      exact ⟨_, hcosine⟩

theorem cosineOfScaled_eq_error {a b : List Number} {error : ArithmeticError}
    (h : cosineOfScaled a b = .error error) : error = .integerTooLarge := by
  cases ha : scaleToUnitMax a with
  | error cause =>
    rw [cosineOfScaled_of_error_left ha] at h
    cases h
    exact scaleToUnitMax_eq_error ha
  | ok scaledA =>
    cases hb : scaleToUnitMax b with
    | error cause =>
      rw [cosineOfScaled_of_error_right ha hb] at h
      cases h
      exact scaleToUnitMax_eq_error hb
    | ok scaledB =>
      obtain ⟨similarity, hok⟩ := exists_cosineOfScaled_eq_ok ha hb
      rw [hok] at h
      cases h

/-- Two vectors mismatch if their lengths differ, and for no other reason. -/
theorem cosine_eq_mismatch_iff {a b : List Number} {left right : Nat} :
    cosine a b = .error (.mismatch left right) ↔
      a.length ≠ b.length ∧ left = a.length ∧ right = b.length := by
  unfold cosine
  split
  · next hlength =>
    cases cosineOfScaled a b <;> simp [hlength]
  · next hlength => simp [hlength, eq_comm]

theorem cosine_of_length_eq {a b : List Number} (h : a.length = b.length) :
    cosine a b = (cosineOfScaled a b).mapError .arithmetic := by
  rw [cosine, if_pos h]

/-- Vectors of one length, each of one kind, have a similarity. -/
theorem exists_cosine_eq_ok_of_oneKind {a b : List Number} (h : a.length = b.length)
    (ha : OneKind a) (hb : OneKind b) : ∃ similarity, cosine a b = .ok similarity := by
  obtain ⟨scaledA, ha⟩ := exists_scaleToUnitMax_eq_ok ha
  obtain ⟨scaledB, hb⟩ := exists_scaleToUnitMax_eq_ok hb
  obtain ⟨similarity, hok⟩ := exists_cosineOfScaled_eq_ok ha hb
  exact ⟨similarity, by rw [cosine_of_length_eq h, hok, mapError_ok]⟩

/-- Vectors of doubles of one length have a similarity. -/
theorem exists_cosine_eq_ok {u v : List Binary64} (h : u.length = v.length) :
    ∃ similarity, cosine (u.map .double) (v.map .double) = .ok similarity := by
  apply exists_cosine_eq_ok_of_oneKind _ (oneKind_doubles u) (oneKind_doubles v)
  rw [List.length_map, List.length_map, h]

end Retrieval
