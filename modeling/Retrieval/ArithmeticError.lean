set_option autoImplicit false

/-! # Failures of arithmetic

Integers here are unbounded and doubles are not, and neither can be divided by zero; each way in
which a calculation can have no result is a case of its own. -/

namespace Retrieval

/-- Why a calculation has no result. -/
inductive ArithmeticError where
  /-- An integer was divided by the integer zero. -/
  | divisionByZero
  /-- A quotient in which a double takes part was divided by zero. -/
  | doubleDivisionByZero
  /-- The quotient of two integers lies beyond the largest double. -/
  | quotientTooLarge
  /-- An integer that has to become a double lies beyond the largest one. -/
  | integerTooLarge
  /-- A logarithm of a number that is not positive, or a square root of a negative one. -/
  | outsideDomain
  deriving DecidableEq, Repr

/-- The text that reports the failure. -/
def ArithmeticError.message : ArithmeticError → String
  | divisionByZero => "division by zero"
  | doubleDivisionByZero => "float division by zero"
  | quotientTooLarge => "integer division result too large for a float"
  | integerTooLarge => "int too large to convert to float"
  | outsideDomain => "math domain error"

end Retrieval
