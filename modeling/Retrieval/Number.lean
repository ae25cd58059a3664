import Retrieval.Binary64.Arithmetic
import Retrieval.Binary64.Logarithm
set_option autoImplicit false

/-! # Numbers

A count, a length or an entry of a vector is an integer of any size or a double. Integers among
themselves are added, multiplied and compared exactly; where an integer meets a double in a sum, a
product or a quotient it first becomes the nearest double, which fails if it is too large. The
quotient of two integers is the double nearest to their exact ratio, however large they are.
Comparisons are exact between the two kinds. -/

namespace Retrieval

/-- A double that has not overflowed; an infinite one is an error instead. -/
def Binary64.finiteOr (error : ArithmeticError) : Binary64 → Except ArithmeticError Binary64
  | infinite _ => .error error
  | x => .ok x

/-- An integer of any size, or a double. -/
inductive Number where
  | int (value : Int)
  | double (value : Binary64)
  deriving DecidableEq, Inhabited

namespace Number

instance : Coe Int Number := ⟨int⟩
instance : Coe Binary64 Number := ⟨double⟩

/-- The nearest double, which an integer beyond the largest double does not have. -/
def toDouble : Number → Except ArithmeticError Binary64
  | double x => .ok x
  | int n => (Binary64.ofInt n).finiteOr .integerTooLarge

/-- The sum, exact for integers. -/
def add : Number → Number → Except ArithmeticError Number
  | int m, int n => .ok (int (m + n))
  | x, y => do
    let a ← x.toDouble
    let b ← y.toDouble
    return double (a.add b)

/-- The product, exact for integers. -/
def mul : Number → Number → Except ArithmeticError Number
  | int m, int n => .ok (int (m * n))
  | x, y => do
    let a ← x.toDouble
    let b ← y.toDouble
    return double (a.mul b)

/-- The double nearest to a ratio of integers. Its sign is that of the ratio, and zero over a
negative integer is a negative zero. -/
def intQuotient (m n : Int) : Except ArithmeticError Binary64 :=
  if n = 0 then .error .divisionByZero
  else
    (Binary64.ofRatio (decide (m < 0) != decide (n < 0)) m.natAbs n.natAbs).finiteOr
      .quotientTooLarge

/-- The quotient, which is always a double. -/
def div : Number → Number → Except ArithmeticError Binary64
  | int m, int n => intQuotient m n
  | x, y => do
    let a ← x.toDouble
    let b ← y.toDouble
    if b.isZero then .error .doubleDivisionByZero else .ok (a.div b)

/-- The magnitude. -/
def abs : Number → Number
  | int n => int n.natAbs
  | double x => double x.abs

/-- One more. An integer stays an integer, so this cannot fail. -/
def succ : Number → Number
  | int n => int (n + 1)
  | double x => double (x.add .one)

/-- Integer zero and both zeros among the doubles. -/
def isZero : Number → Bool
  | int n => n == 0
  | double x => x.isZero

/-- Where a number lies on the line, in units; not-a-number lies nowhere. -/
def position : Number → Option ExtendedInt
  | int n => some (.int (n * unitsPerOne))
  | double x => x.position

/-- Strictly less, without rounding; false if one of the two is not-a-number. -/
def lt (x y : Number) : Bool :=
  match x.position, y.position with
  | some p, some q => p.lt q
  | _, _ => false

end Number

end Retrieval
