import RemoteGateway.Decimal.Double
import RemoteGateway.Document.Token

/-!
# Plain scalars that are no texts

A reader takes some plain scalars for nulls, booleans, integers or floating-point numbers, so
a text that looks like one of them has to be quoted. A numeral with a needless leading zero is
a text to some readers and a number to others, and is quoted as well.
-/

namespace RemoteGateway.Yaml

open Document (hexValue? digitsValue)

/-! ### Integers -/

/-- The value of a digit in a base of at most sixteen. -/
def digit? (base : Nat) (c : Char) : Option Nat :=
  (hexValue? c).filter fun n => n < base

/-- Whether a text consists of digits of a base, at least one, whose value is at most
`bound`. -/
def isNumeralUpTo (base bound : Nat) (s : List Char) : Bool :=
  !s.isEmpty && s.all (fun c => (digit? base c).isSome) &&
    s.foldl (fun n c => n * base + (digit? base c).getD 0) 0 ≤ bound

/-- The base that a numeral announces, and its digits. -/
def announcedBase : List Char → Option (Nat × List Char)
  | '0' :: 'x' :: digits => some (16, digits)
  | '0' :: 'o' :: digits => some (8, digits)
  | '0' :: 'b' :: digits => some (2, digits)
  | _ => none

/-- Whether a text is a numeral without sign, of any base and with a value up to `bound`. -/
def isUnsignedUpTo (bound : Nat) (s : List Char) : Bool :=
  match announcedBase s with
  | some (base, digits) => isNumeralUpTo base bound digits
  | none => isNumeralUpTo 10 bound s

/-- A text without the sign it begins with. -/
def dropSign : List Char → List Char
  | '+' :: rest => rest
  | '-' :: rest => rest
  | s => s

/-- Whether a text is, behind an optional sign, a zero in front of other digits. -/
def isZeroPadded (s : List Char) : Bool :=
  match dropSign s with
  | '0' :: c :: rest => (c :: rest).all Char.isDigit
  | _ => false

/-- Whether a plain scalar is read as an integer of 128 bits. -/
def isInteger : List Char → Bool
  | '-' :: rest => isUnsignedUpTo (Nat.pow 2 127) rest
  | '+' :: rest => isUnsignedUpTo (Nat.pow 2 128 - 1) rest
  | s => isUnsignedUpTo (Nat.pow 2 128 - 1) s

/-! ### Floating-point numbers -/

/-- The least number that is nearer to infinity than to any double. -/
def overflowBound : Nat := Nat.pow 2 1024 - Nat.pow 2 970

/-- Whether digits times a power of ten are too large for a double. Only where the power does
not decide by itself is the number computed. -/
def overflows (digits : List Char) (exponent : Int) : Bool :=
  let significant := digits.dropWhile (· == '0')
  let places := significant.length + exponent
  if significant.isEmpty || places < 300 then false
  else if 310 < places then true
  else if 0 ≤ exponent then overflowBound ≤ digitsValue significant * Nat.pow 10 exponent.toNat
  else overflowBound * Nat.pow 10 (-exponent).toNat ≤ digitsValue significant

/-- The exponent that a text consists of, if it is one; the empty text is the exponent
zero. -/
def exponentOf? : List Char → Option Int
  | [] => some 0
  | mark :: rest =>
    if mark = 'e' ∨ mark = 'E' then
      let digits := dropSign rest
      if digits.isEmpty || !digits.all Char.isDigit then none
      else
        let value : Int := digitsValue digits
        some (if rest.head? = some '-' then -value else value)
    else none

/-- Whether a text without sign is a finite decimal number: digits, at most one point among
or beside them, and an exponent that may be missing. -/
def isFiniteDecimal (s : List Char) : Bool :=
  let whole := s.takeWhile Char.isDigit
  let rest := s.dropWhile Char.isDigit
  let (fraction, rest) :=
    match rest with
    | '.' :: rest => (rest.takeWhile Char.isDigit, rest.dropWhile Char.isDigit)
    | rest => ([], rest)
  match exponentOf? rest with
  | none => false
  | some exponent =>
    !(whole ++ fraction).isEmpty && !overflows (whole ++ fraction) (exponent - fraction.length)

/-- Whether a plain scalar is read as a floating-point number. -/
def isFloat (s : List Char) : Bool :=
  [".inf".toList, ".Inf".toList, ".INF".toList].contains (dropSign s) ||
    [".nan".toList, ".NaN".toList, ".NAN".toList].contains s ||
    isFiniteDecimal (dropSign s)

/-! ### All of them -/

/-- The words for null and for the booleans; the empty scalar is a null too. -/
def constants : List (List Char) :=
  ["", "~", "null", "Null", "NULL", "true", "True", "TRUE", "false", "False", "FALSE"].map
    String.toList

/-- Whether a plain scalar is, or may be, read as something other than a text. -/
def isTyped (s : List Char) : Bool :=
  constants.contains s || isInteger s || isFloat s || isZeroPadded s

end RemoteGateway.Yaml
