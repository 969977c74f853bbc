import RemoteGateway.Decimal.Double

/-!
# The shortest decimal of a double

The decimals that read back as a given double fill the interval between the midpoints to its
two neighbours; the midpoints belong to it exactly when the significand is even. Among all
decimals in the interval `shortest` takes one with the fewest digits, and of those the
nearest to the double.

For one digit, then two, and so on up to seventeen, the two neighbours of the double on that
decimal grid are tested in exact arithmetic, and the first grid with a hit decides. If any
point of a grid lies in the interval, one of the two neighbours does.
-/

namespace RemoteGateway.Decimal

/-- A positive decimal number in scientific form: the digits stand for `d.ddd`, times ten to
the power `exponent`. -/
structure Scientific where
  digits : List Char
  exponent : Int
  deriving DecidableEq

namespace Double

/-- Whether so many units are at least ten to the power `e`. -/
def reaches (units : Nat) (e : Int) : Bool :=
  if 0 ≤ e then Nat.pow 10 e.toNat * one ≤ units else one ≤ units * Nat.pow 10 (-e).toNat

/-- The largest `e` for which a positive count of units is at least ten to the power `e`: the
binary logarithm gives it up to one. -/
def magnitude (units : Nat) : Int :=
  let guess := ((units.log2 : Int) - 1074) * 30103 / 100000
  if reaches units (guess + 1) then guess + 1
  else if reaches units guess then guess
  else guess - 1

/-- The lower end of the interval that reads back, in quarters of a unit. Below a power of
two the neighbours are twice as dense, unless the smallest distance is reached. -/
def lowerQuarters (units : Nat) : Nat :=
  let step := Nat.pow 2 (spacing units)
  4 * units - if units = Nat.pow 2 52 * step ∧ 1 < step then step else 2 * step

/-- The upper end of the interval that reads back, in quarters of a unit. -/
def upperQuarters (units : Nat) : Nat :=
  4 * units + 2 * Nat.pow 2 (spacing units)

/-- Whether the ends of the interval read back as well. -/
def endsIncluded (units : Nat) : Bool :=
  units / Nat.pow 2 (spacing units) % 2 == 0

/-- The point of the grid of multiples of ten to the power `e` that is nearest to the given
units, among its two neighbours that read back. -/
def onGrid? (units : Nat) (e : Int) : Option Nat :=
  let point := 4 * one * if 0 ≤ e then Nat.pow 10 e.toNat else 1
  let quarter := if 0 ≤ e then 1 else Nat.pow 10 (-e).toNat
  let inside (c : Nat) : Bool :=
    if endsIncluded units then
      lowerQuarters units * quarter ≤ c * point ∧ c * point ≤ upperQuarters units * quarter
    else
      lowerQuarters units * quarter < c * point ∧ c * point < upperQuarters units * quarter
  let below := 4 * units * quarter / point
  let excess := 4 * units * quarter % point
  let nearer :=
    if 2 * excess < point ∨ (2 * excess = point ∧ below % 2 = 0) then below else below + 1
  let farther := if nearer = below then below + 1 else below
  if 0 < nearer ∧ inside nearer then some nearer
  else if 0 < farther ∧ inside farther then some farther
  else none

/-- The shortest decimal of a positive count of units. -/
def shortest (units : Nat) : Scientific :=
  let top := magnitude units
  let found := (List.range 17).findSome? fun (n : Nat) =>
    (onGrid? units (top - n)).map fun c => (c, top - n)
  let (c, e) := found.getD (0, 0)
  let written := Nat.toDigits 10 c
  let digits := (written.reverse.dropWhile (· == '0')).reverse
  ⟨digits, e + written.length - 1⟩

end Double

end RemoteGateway.Decimal
