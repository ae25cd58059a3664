import Retrieval.Error
import Retrieval.Number
set_option autoImplicit false

/-! # Similarity of vectors

The similarity of two vectors is the cosine of the angle between them. Each vector is first divided
by its largest magnitude, so that its squared norm lies between one and its length whatever the
scale of its entries; a single square root is taken, of the product of the two squared norms. A
vector without an entry other than zero is similar to nothing. -/

namespace Retrieval

/-- The sum of the products of entries at the same place. They are added up from left to right,
beginning with the integer zero; every partial sum of doubles is rounded, and what the rounding
loses is not compensated. -/
def sumOfProducts (a b : List Number) : Except ArithmeticError Number :=
  (a.zip b).foldlM (fun sum pair => do sum.add (← pair.1.mul pair.2)) (.int 0)

/-- The inner product of two vectors of one length. -/
def innerProduct (a b : List Number) : Except VectorError Number :=
  if a.length = b.length then (sumOfProducts a b).mapError .arithmetic
  else .error (.mismatch a.length b.length)

/-- The largest magnitude of an entry, or zero if there is none. An entry takes the place of the
largest so far only if it is greater. -/
def peak : List Number → Number
  | [] => .double .zero
  | x :: xs => xs.foldl (fun best y => if best.lt y.abs then y.abs else best) x.abs

/-- The vector divided by its largest magnitude, unless that is zero. -/
def scaleToUnitMax (v : List Number) : Except ArithmeticError (Option (List Binary64)) :=
  if (peak v).isZero then .ok none
  else some <$> v.mapM (fun x => x.div (peak v))

/-- The cosine of two vectors of one length. -/
def cosineOfScaled (a b : List Number) : Except ArithmeticError Binary64 := do
  let scaledA ← scaleToUnitMax a
  let scaledB ← scaleToUnitMax b
  match scaledA, scaledB with
  | some u, some v =>
    let u := u.map Number.double
    let v := v.map Number.double
    let normU ← sumOfProducts u u
    let normV ← sumOfProducts v v
    let inner ← sumOfProducts u v
    let norms ← normU.mul normV
    let root ← (← norms.toDouble).sqrt
    inner.div (.double root)
  | _, _ => return .zero

/-- The similarity of two vectors, which must be of one length. -/
def cosine (a b : List Number) : Except VectorError Binary64 :=
  if a.length = b.length then (cosineOfScaled a b).mapError .arithmetic
  else .error (.mismatch a.length b.length)

end Retrieval
