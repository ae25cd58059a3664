import Retrieval.Binary64.Arithmetic
set_option autoImplicit false

/-! # Decimals with a fixed number of places

A finite double is an exact fraction; it is written as the nearest multiple of the last decimal
place, of two equally near ones the even one, and never with an exponent. The sign is written also
of a zero. -/

namespace Retrieval

/-- A natural with zeros in front up to a width. -/
def padded (width n : Nat) : String :=
  let digits := Nat.repr n
  String.ofList (List.replicate (width - digits.length) '0') ++ digits

/-- How many units of the last of some decimal places there are in one. -/
def decimalScale (places : Nat) : Nat := Nat.pow 10 places

/-- A number of units of the last decimal place, with a point. -/
def decimalText (places scaled : Nat) : String :=
  Nat.repr (scaled / decimalScale places) ++ "." ++ padded places (scaled % decimalScale places)

/-- A sign, written only if negative. -/
def signText (negative : Bool) : String := if negative then "-" else ""

/-- The text of a double with a fixed number of decimals. -/
def Binary64.toFixed (places : Nat) : Binary64 → String
  | nan => "nan"
  | infinite negative => signText negative ++ "inf"
  | finite negative units _ =>
    signText negative ++
      decimalText places (roundHalfEven (units * decimalScale places) unitsPerOne)

end Retrieval
