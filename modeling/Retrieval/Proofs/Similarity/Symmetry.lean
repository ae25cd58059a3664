import Mathlib.Data.List.Zip
import Retrieval.Proofs.Similarity

set_option autoImplicit false

/-! # Similarity is symmetric

A product of doubles does not depend on the order of its factors, so neither do the sums of products
nor the product of the two squared norms. The two vectors are divided by their largest magnitudes
one after the other, and the first that cannot be divided is what fails; but the division fails in
one way only (`scaleToUnitMax_eq_error`), and it is tried on both vectors even if one of them has no
entry other than zero. So exchanging the vectors exchanges the two lengths in the error of a
mismatch and nothing else (`cosine_exchanged`). -/

namespace Retrieval

/-! ## Products of doubles -/

theorem Binary64.mul_comm (x y : Binary64) : x.mul y = y.mul x := by
  cases x with
  | nan => cases y <;> rfl
  | infinite s =>
    cases y with
    | nan => rfl
    | infinite t => simp [mul, bne_comm]
    | finite t v grid => simp [mul, bne_comm]
  | finite s u grid =>
    cases y with
    | nan => rfl
    | infinite t => simp [mul, bne_comm]
    | finite t v grid' => simp [mul, bne_comm, Nat.mul_comm]

theorem innerDoubles_comm (u v : List Binary64) : innerDoubles u v = innerDoubles v u := by
  rw [innerDoubles, innerDoubles, ← List.zip_swap v u, List.foldl_map]
  simp only [Prod.fst_swap, Prod.snd_swap, Binary64.mul_comm]

/-! ## Cosines -/

theorem cosineOfScaled_comm (a b : List Number) : cosineOfScaled a b = cosineOfScaled b a := by
  cases ha : scaleToUnitMax a with
  | error error =>
    rw [cosineOfScaled_of_error_left ha]
    cases hb : scaleToUnitMax b with
    | error other =>
      rw [cosineOfScaled_of_error_left hb, scaleToUnitMax_eq_error ha, scaleToUnitMax_eq_error hb]
    | ok scaledB => rw [cosineOfScaled_of_error_right hb ha]
  | ok scaledA =>
    cases hb : scaleToUnitMax b with
    | error error => rw [cosineOfScaled_of_error_right ha hb, cosineOfScaled_of_error_left hb]
    | ok scaledB =>
      cases scaledA with
      | none => rw [cosineOfScaled_of_none_left ha hb, cosineOfScaled_of_none_right hb ha]
      | some u =>
        cases scaledB with
        | none => rw [cosineOfScaled_of_none_right ha hb, cosineOfScaled_of_none_left hb ha]
        | some v =>
          obtain ⟨root, hroot, -, hcosine⟩ := cosineOfScaled_eq ha hb
          obtain ⟨root', hroot', -, hcosine'⟩ := cosineOfScaled_eq hb ha
          rw [Binary64.mul_comm, hroot] at hroot'
          cases hroot'
          rw [hcosine, hcosine', innerDoubles_comm]

/-- The same error with the two vectors exchanged. -/
def VectorError.exchanged : VectorError → VectorError
  | mismatch left right => .mismatch right left
  | arithmetic error => .arithmetic error

/-- Exchanging two vectors of numbers of any kind gives the same double, or the same error with the
lengths exchanged. -/
theorem cosine_exchanged (a b : List Number) :
    cosine b a = (cosine a b).mapError VectorError.exchanged := by
  by_cases h : a.length = b.length
  · rw [cosine_of_length_eq h, cosine_of_length_eq h.symm, cosineOfScaled_comm b a]
    cases cosineOfScaled a b <;> rfl
  · rw [cosine, cosine, if_neg h, if_neg (Ne.symm h)]
    rfl

end Retrieval
