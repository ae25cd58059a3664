import Retrieval.ArithmeticError
import Retrieval.Binary64.Basic
set_option autoImplicit false

/-! # Arithmetic of doubles

Each operation computes its exact result in units and rounds it once with `Binary64.nearest`, so
all of them are correctly rounded. The square root first takes a whole root of an integer that is
large enough for the root to have far more bits than a double keeps; what lies between two whole
roots is represented by the point halfway between them. -/

namespace Retrieval

/-! ## Whole square roots -/

/-- Newton's iteration for the square root of `n`, which falls until it is the whole root. -/
def floorSqrtFrom (n guess : Nat) : Nat :=
  if (guess + n / guess) / 2 < guess then floorSqrtFrom n ((guess + n / guess) / 2) else guess
termination_by guess

/-- The largest natural whose square is at most `n`. -/
def floorSqrt (n : Nat) : Nat :=
  if n ≤ 1 then n else floorSqrtFrom n (twoPow (n.log2 / 2 + 1))

theorem four_mul_le_add_sq (a b : Nat) : 4 * (a * b) ≤ (a + b) * (a + b) := by
  rcases Nat.le_total a b with h | h
  · obtain ⟨d, rfl⟩ := Nat.exists_eq_add_of_le h
    grind
  · obtain ⟨d, rfl⟩ := Nat.exists_eq_add_of_le h
    grind

/-- Each guess that the iteration makes is at least the whole root. -/
theorem lt_newton_succ_sq (n : Nat) {guess : Nat} (h : 0 < guess) :
    n < ((guess + n / guess) / 2 + 1) * ((guess + n / guess) / 2 + 1) := by
  have hn : n < guess * (n / guess + 1) := Nat.lt_mul_div_succ n h
  have hab := four_mul_le_add_sq guess (n / guess + 1)
  have hs : guess + (n / guess + 1) ≤ 2 * ((guess + n / guess) / 2 + 1) := by omega
  have hsq := Nat.mul_le_mul hs hs
  generalize (guess + n / guess) / 2 + 1 = s at hsq ⊢
  grind

/-- The iteration ends only at a guess whose square is at most `n`. -/
theorem sq_le_of_newton_ge (n : Nat) {guess : Nat} (h : ¬ (guess + n / guess) / 2 < guess) :
    guess * guess ≤ n :=
  calc guess * guess ≤ n / guess * guess := Nat.mul_le_mul_right _ (by omega)
    _ ≤ n := Nat.div_mul_le_self n guess

theorem floorSqrtFrom_spec (n guess : Nat) (h : n < (guess + 1) * (guess + 1)) :
    floorSqrtFrom n guess * floorSqrtFrom n guess ≤ n ∧
      n < (floorSqrtFrom n guess + 1) * (floorSqrtFrom n guess + 1) := by
  fun_induction floorSqrtFrom n guess with
  | case1 guess hlt ih =>
    have hpos : 0 < guess := Nat.zero_lt_of_lt hlt
    exact ih (lt_newton_succ_sq n hpos)
  | case2 guess hge => exact ⟨sq_le_of_newton_ge n hge, h⟩

/-- The whole root is at most the root, and the next natural is above it. -/
theorem floorSqrt_bounds (n : Nat) :
    floorSqrt n * floorSqrt n ≤ n ∧ n < (floorSqrt n + 1) * (floorSqrt n + 1) := by
  unfold floorSqrt
  split
  · next h =>
    have : n = 0 ∨ n = 1 := by omega
    rcases this with rfl | rfl <;> decide
  · apply floorSqrtFrom_spec
    have hlog := lt_twoPow_log2_succ n
    have hpow : twoPow (n.log2 + 1) ≤ twoPow (n.log2 / 2 + 1) * twoPow (n.log2 / 2 + 1) := by
      rw [← twoPow_add]
      exact twoPow_le_twoPow (by omega)
    generalize twoPow (n.log2 / 2 + 1) = g at hpow
    grind

namespace Binary64

/-! ## Sign and order -/

/-- A number of units with its sign. -/
def signedUnits (negative : Bool) (units : Nat) : Int :=
  if negative then -units else units

def abs : Binary64 → Binary64
  | nan => nan
  | infinite _ => infinite false
  | finite _ units grid => finite false units grid

end Binary64

/-- The integers with a least and a greatest element added. -/
inductive ExtendedInt where
  | bottom
  | int (value : Int)
  | top
  deriving DecidableEq, Repr

/-- The order of the integers, with `bottom` below and `top` above all of them. -/
def ExtendedInt.lt : ExtendedInt → ExtendedInt → Bool
  | _, bottom => false
  | bottom, _ => true
  | top, _ => false
  | _, top => true
  | int m, int n => m < n

namespace Binary64

/-- Where a double lies on the line, in units; not-a-number lies nowhere. -/
def position : Binary64 → Option ExtendedInt
  | nan => none
  | infinite negative => some (if negative then .bottom else .top)
  | finite negative units _ => some (.int (signedUnits negative units))

/-- Strictly less; false if one of the two is not-a-number. -/
def lt (x y : Binary64) : Bool :=
  match x.position, y.position with
  | some p, some q => p.lt q
  | _, _ => false

/-- Less or equal; false if one of the two is not-a-number. -/
def le (x y : Binary64) : Bool :=
  match x.position, y.position with
  | some p, some q => !q.lt p
  | _, _ => false

/-! ## Sum, product, quotient -/

/-- The sum. A sum that is exactly zero is negative only if both summands are. -/
def add : Binary64 → Binary64 → Binary64
  | nan, _ => nan
  | _, nan => nan
  | infinite s, infinite t => if s = t then infinite s else nan
  | infinite s, finite .. => infinite s
  | finite .., infinite t => infinite t
  | finite s u _, finite t v _ =>
    let sum := signedUnits s u + signedUnits t v
    nearest (if sum = 0 then s && t else decide (sum < 0)) sum.natAbs 1

/-- The product; zero times an infinity is not-a-number. -/
def mul : Binary64 → Binary64 → Binary64
  | nan, _ => nan
  | _, nan => nan
  | infinite s, infinite t => infinite (s != t)
  | infinite s, finite t v _ => if v = 0 then nan else infinite (s != t)
  | finite s u _, infinite t => if u = 0 then nan else infinite (s != t)
  | finite s u _, finite t v _ => nearest (s != t) (u * v) unitsPerOne

/-- The quotient; a division by zero gives an infinity, or not-a-number for zero by zero. -/
def div : Binary64 → Binary64 → Binary64
  | nan, _ => nan
  | _, nan => nan
  | infinite _, infinite _ => nan
  | infinite s, finite t _ _ => infinite (s != t)
  | finite s _ _, infinite t => nearest (s != t) 0 1
  | finite s u _, finite t v _ =>
    if v = 0 then (if u = 0 then nan else infinite (s != t))
    else nearest (s != t) (u * unitsPerOne) v

/-! ## Square root -/

/-- The double nearest to `√n` units. In halves of a unit, the whole root counts twice, and a root
that is not whole counts one more. -/
def nearestRoot (n : Nat) : Binary64 :=
  let root := floorSqrt n
  nearest false (2 * root + if root * root = n then 0 else 1) 2

/-- The square root, which a negative number does not have. The root of a zero is that zero. -/
def sqrt : Binary64 → Except ArithmeticError Binary64
  | nan => .ok nan
  | infinite true => .error .outsideDomain
  | infinite false => .ok (infinite false)
  | finite negative units grid =>
    if units = 0 then .ok (finite negative units grid)
    else if negative then .error .outsideDomain
    else .ok (nearestRoot (units * unitsPerOne))

end Binary64

end Retrieval
