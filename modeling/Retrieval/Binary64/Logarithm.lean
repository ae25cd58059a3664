import Retrieval.Binary64.Arithmetic
set_option autoImplicit false

/-! # The natural logarithm

The logarithm is calculated in fixed point with 256 bits behind the point and rounded once. A
positive double is `2 ^ k` times a mantissa in `[1, 2)`; the logarithm of the mantissa `a / b` is
`2 * artanh ((a - b) / (a + b))`, whose argument is at most a third, so that eighty-four terms of
the series are enough. Every step rounds down, hence the whole is monotone in the double.

The logarithm of a platform's mathematics library promises no rounding and may differ from this one
in the last place, as it does on some platforms at the double nearest to `41 / 35`. The theorems on
weights do not depend on the last place: they use which doubles have a logarithm, that it is finite
and monotone, and that at one half it is greater than `-1`. -/

namespace Retrieval

/-- One, in the fixed-point numbers of this module. -/
def fixedOne : Nat := twoPow 256

/-- The number of terms of the series that are summed. -/
def artanhTerms : Nat := 84

/-- The sum of the next terms of the series: the current odd power of the argument over its
exponent, and so on with the power multiplied by the square of the argument. -/
def artanhSum (square : Nat) : Nat → Nat → Nat → Nat
  | 0, _, _ => 0
  | terms + 1, power, exponent =>
    power / exponent + artanhSum square terms (power * square / fixedOne) (exponent + 2)

/-- The fixed-point value of `artanh` at a fixed-point argument. -/
def artanhFixed (z : Nat) : Nat :=
  artanhSum (z * z / fixedOne) artanhTerms z 1

/-- The fixed-point logarithm of a mantissa `num / den` in `[1, 2]`. -/
def logMantissa (num den : Nat) : Nat :=
  2 * artanhFixed ((num - den) * fixedOne / (num + den))

/-- The fixed-point logarithm of 2. -/
def logTwo : Nat := logMantissa 2 1

/-- The fixed-point logarithm of a positive number of units. -/
def logUnits (units : Nat) : Int :=
  ((units.log2 : Int) - 1074) * logTwo + logMantissa units (twoPow units.log2)

/-- The natural logarithm, which only positive numbers have. -/
def Binary64.log : Binary64 → Except ArithmeticError Binary64
  | nan => .ok nan
  | infinite true => .error .outsideDomain
  | infinite false => .ok (infinite false)
  | finite negative units _ =>
    if negative || units == 0 then .error .outsideDomain
    else
      let value := logUnits units
      .ok (ofRatio (decide (value < 0)) value.natAbs fixedOne)

end Retrieval
