/-!
# Bounded decimal numerals

`readNatural bound` reads an unsigned number: one `+` may stand in front, then one or more
ASCII digits follow, leading zeros included, and nothing else. The value may not exceed
`bound`. A text that is refused is refused for the first reason met from the left, so a
number that is already too large is reported before a later character that is no digit.
-/

namespace RemoteGateway.Text

/-- Why a text is not a number within the bound. -/
inductive NumeralFault where
  /-- There is no character at all. -/
  | empty
  /-- A character is not an ASCII digit, or only a sign is present. -/
  | invalidDigit
  /-- The digits read so far exceed the bound. -/
  | tooLarge
  deriving DecidableEq

namespace NumeralFault

/-- The wording of the fault. -/
def message : NumeralFault → String
  | empty => "cannot parse integer from empty string"
  | invalidDigit => "invalid digit found in string"
  | tooLarge => "number too large to fit in target type"

end NumeralFault

/-- The value of an ASCII digit. -/
def digitValue? (c : Char) : Option Nat :=
  if c.isDigit then some (c.toNat - '0'.toNat) else none

/-- Reads digits onto the value `value`, which stays within the bound. -/
def readDigits (bound : Nat) (value : Nat) : List Char → Except NumeralFault Nat
  | [] => .ok value
  | c :: rest =>
    match digitValue? c with
    | none => .error .invalidDigit
    | some d =>
      if value * 10 + d ≤ bound then readDigits bound (value * 10 + d) rest
      else .error .tooLarge

/-- Reads a whole text as an unsigned number of at most `bound`. -/
def readNatural (bound : Nat) : List Char → Except NumeralFault Nat
  | [] => .error .empty
  | ['+'] => .error .invalidDigit
  | '+' :: rest => readDigits bound 0 rest
  | s => readDigits bound 0 s

end RemoteGateway.Text
