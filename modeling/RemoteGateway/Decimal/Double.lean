/-!
# Doubles

A finite number of the 64-bit binary format, as a sign and a magnitude. The magnitude counts
the smallest positive number of the format, `2 ^ (-1074)`, so every number of the format is a
natural number of such **units**, and no exponent has to be carried along. Both zeros exist.

`ofUnits?` is the one place where rounding happens: it takes an exact ratio of units to the
nearest number of the format, a tie to the one whose significand is even, and gives nothing
when the result would be too large. Products and quotients are exact ratios rounded once.
-/

namespace RemoteGateway.Decimal

/-- The nearest natural number to a ratio; a tie goes to the even neighbour. -/
def roundDiv (num den : Nat) : Nat :=
  let q := num / den
  let r := num % den
  if den < 2 * r ∨ (2 * r = den ∧ q % 2 = 1) then q + 1 else q

/-- A finite double: a sign and a count of units of `2 ^ (-1074)`. -/
structure Double where
  /-- Whether the number carries a minus sign; zero may carry one too. -/
  negative : Bool
  /-- The absolute value, in units of `2 ^ (-1074)`. -/
  units : Nat
  deriving DecidableEq

namespace Double

/-- How many units make one. -/
def one : Nat := Nat.pow 2 1074

/-- The number of units below which all finite numbers lie. -/
def limit : Nat := Nat.pow 2 2098

/-- The exponent of the distance, in units, between neighbours near a count of units: a
significand has 53 bits. -/
def spacing (units : Nat) : Nat := units.log2 - 52

/-- The count of units nearest to a ratio, if it is one of a finite number. -/
def ofUnits? (num den : Nat) : Option Nat :=
  let step := Nat.pow 2 (spacing (num / den))
  let units := roundDiv num (den * step) * step
  if units < limit then some units else none

/-- The count of units nearest to a natural number. -/
def ofNat? (n : Nat) : Option Nat :=
  ofUnits? (n * one) 1

/-- The rounded product of two counts of units. -/
def mul? (a b : Nat) : Option Nat :=
  ofUnits? (a * b) one

/-- The rounded quotient of two counts of units. -/
def div? (a b : Nat) : Option Nat :=
  ofUnits? (a * one) b

/-- A double is zero when it has no units, whatever its sign. -/
def isZero (x : Double) : Bool :=
  x.units == 0

end Double

end RemoteGateway.Decimal
