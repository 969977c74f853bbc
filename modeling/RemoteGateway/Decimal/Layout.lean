import RemoteGateway.Decimal.Shortest

/-!
# Writing doubles

Digits and exponent of a double come from `Double.shortest`; a `Layout` holds what a format
decides about them: which exponents are written positionally, and whether a whole number
keeps a fractional digit. All other exponents are written scientifically, with one digit
before the point and a signed exponent.
-/

namespace RemoteGateway.Decimal

/-- What a format decides about the text of a double. -/
structure Layout where
  /-- The exponents of the scientific form that are written positionally. -/
  positional : Int → Bool
  /-- Whether a whole number written positionally ends in `.0`. -/
  pointZero : Bool

namespace Layout

/-- Digits without an exponent: zeros fill up to the point on either side. -/
def writePositional (layout : Layout) (x : Scientific) : List Char :=
  let places := x.exponent + 1
  if places ≤ 0 then
    '0' :: '.' :: (List.replicate (-places).toNat '0' ++ x.digits)
  else if x.digits.length ≤ places.toNat then
    x.digits ++ List.replicate (places.toNat - x.digits.length) '0' ++
      if layout.pointZero then ['.', '0'] else []
  else
    x.digits.take places.toNat ++ '.' :: x.digits.drop places.toNat

/-- One digit before the point, and the exponent with its sign. -/
def writeScientific (x : Scientific) : List Char :=
  let fraction := if x.digits.length ≤ 1 then [] else '.' :: x.digits.drop 1
  let sign := if x.exponent < 0 then '-' else '+'
  x.digits.take 1 ++ fraction ++ 'e' :: sign :: Nat.toDigits 10 x.exponent.natAbs

/-- The text of a double. -/
def write (layout : Layout) (x : Double) : String :=
  let decimal := if x.isZero then ⟨['0'], 0⟩ else Double.shortest x.units
  let text :=
    if layout.positional decimal.exponent then layout.writePositional decimal
    else writeScientific decimal
  String.ofList (if x.negative then '-' :: text else text)

end Layout

end RemoteGateway.Decimal
