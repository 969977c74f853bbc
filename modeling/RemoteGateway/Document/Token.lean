import RemoteGateway.Document.Value
import RemoteGateway.Text.Numeral

/-!
# The words of a written document

A written document is a sequence of brackets, braces, colons, commas, quoted texts, numbers
and the three words `null`, `true` and `false`, with blanks between them. `Token.ofText?`
finds that sequence; which sequences make a document is the matter of the parser.

A number with neither fraction nor exponent that fits 64 bits is an integer, except `-0`;
every other number is a double. The double is not always the nearest one: as many digits as
fit 64 bits are taken as a natural number, later ones only move the point, and that number
is rounded, and rounded again when it is multiplied or divided by a power of ten.
-/

namespace RemoteGateway.Document

/-- A word of a written document. -/
inductive Token where
  | openBracket
  | closeBracket
  | openBrace
  | closeBrace
  | colon
  | comma
  | text (value : String)
  /-- Null, a boolean or a number. -/
  | atom (value : Value)

/-! ### Quoted texts -/

/-- The value of a hexadecimal digit of either case. -/
def hexValue? (c : Char) : Option Nat :=
  if c.isDigit then some (c.toNat - '0'.toNat)
  else if 'a' ≤ c ∧ c ≤ 'f' then some (c.toNat - 'a'.toNat + 10)
  else if 'A' ≤ c ∧ c ≤ 'F' then some (c.toNat - 'A'.toNat + 10)
  else none

/-- The value of four hexadecimal digits. -/
def hexValue4? (a b c d : Char) : Option Nat := do
  return (((← hexValue? a) * 16 + (← hexValue? b)) * 16 + (← hexValue? c)) * 16 + (← hexValue? d)

/-- The character that a backslash and a letter stand for. -/
def unescape? (c : Char) : Option Char :=
  match c with
  | '"' => some '"'
  | '\\' => some '\\'
  | '/' => some '/'
  | 'b' => some '\x08'
  | 'f' => some '\x0c'
  | 'n' => some '\n'
  | 'r' => some '\r'
  | 't' => some '\t'
  | _ => none

/-- Reads a quoted text behind its opening quote, up to and with the closing one. Each
character gives its code point and each numeric escape its 16-bit unit. -/
def readQuoted : List Char → Option (List Nat × List Char)
  | [] => none
  | c :: rest =>
    if c = '"' then some ([], rest)
    else if c = '\\' then
      match rest with
      | 'u' :: h₁ :: h₂ :: h₃ :: h₄ :: rest => do
        let unit ← hexValue4? h₁ h₂ h₃ h₄
        let (units, rest) ← readQuoted rest
        return (unit :: units, rest)
      | e :: rest => do
        let c ← unescape? e
        let (units, rest) ← readQuoted rest
        return (c.toNat :: units, rest)
      | [] => none
    else if c.toNat < 0x20 then none
    else do
      let (units, rest) ← readQuoted rest
      return (c.toNat :: units, rest)

/-- The characters that code points and 16-bit units stand for: two surrogate units make one
character, and a surrogate unit without its partner makes none. -/
def joinUnits : List Nat → Option (List Char)
  | [] => some []
  | high :: rest =>
    if 0xD800 ≤ high ∧ high < 0xDC00 then
      match rest with
      | low :: rest =>
        if 0xDC00 ≤ low ∧ low < 0xE000 then
          (joinUnits rest).map
            (Char.ofNat (0x10000 + (high - 0xD800) * 0x400 + (low - 0xDC00)) :: ·)
        else none
      | [] => none
    else if 0xDC00 ≤ high ∧ high < 0xE000 then none
    else (joinUnits rest).map (Char.ofNat high :: ·)

/-! ### Numbers -/

/-- The largest natural number of 64 bits. -/
def maxUnsigned : Nat := Nat.pow 2 64 - 1

/-- Takes digits onto a number as long as it fits 64 bits; gives the number and the digits
that are left. -/
def takeDigits (value : Nat) : List Char → Nat × List Char
  | [] => (value, [])
  | c :: rest =>
    let next := value * 10 + (c.toNat - '0'.toNat)
    if next ≤ maxUnsigned then takeDigits next rest else (value, c :: rest)

/-- A count of units divided by a power of ten, in steps of at most `10 ^ 308`. After two whole
steps nothing is left of any number of 64 bits. -/
def divideByTen (units exponent : Nat) : Option Nat :=
  if exponent ≤ 308 then
    (Decimal.Double.ofNat? (Nat.pow 10 exponent)).bind (Decimal.Double.div? units)
  else do
    let step ← Decimal.Double.ofNat? (Nat.pow 10 308)
    let first ← Decimal.Double.div? units step
    if exponent ≤ 616 then
      Decimal.Double.div? first (← Decimal.Double.ofNat? (Nat.pow 10 (exponent - 308)))
    else return 0

/-- The double of a natural number of 64 bits times a power of ten, unless it is too large. -/
def scaleByTen (value : Nat) (exponent : Int) : Option Nat :=
  if value = 0 then some 0
  else do
    let units ← Decimal.Double.ofNat? value
    if exponent < 0 then divideByTen units exponent.natAbs
    else if 308 < exponent then none
    else Decimal.Double.mul? units (← Decimal.Double.ofNat? (Nat.pow 10 exponent.toNat))

/-- The number that its written parts stand for: sign, digits before the point, digits
behind it, and the power of ten. -/
def Number.ofParts? (negative : Bool) (whole : List Char) (fraction : Option (List Char))
    (exponent : Option Int) : Option Number :=
  let (value, left) := takeDigits 0 whole
  match fraction, exponent, left with
  | none, none, [] =>
    if !negative then some (.integer value)
    else if value = 0 ∨ Nat.pow 2 63 < value then
      (Decimal.Double.ofNat? value).map fun units => .double ⟨true, units⟩
    else some (.integer (-value))
  | _, _, _ =>
    let digits := fraction.getD []
    let (value, ignored) := takeDigits value digits
    let point : Int := left.length - (digits.length - ignored.length : Nat)
    (scaleByTen value (point + exponent.getD 0)).map fun units => .double ⟨negative, units⟩

/-- Splits off the digits that a text begins with. -/
def spanDigits (s : List Char) : List Char × List Char :=
  s.span Char.isDigit

/-- Reads the fraction that may stand at the beginning of a text: a point and at least one
digit. -/
def readFraction : List Char → Option (Option (List Char) × List Char)
  | '.' :: rest =>
    match spanDigits rest with
    | ([], _) => none
    | (digits, rest) => some (some digits, rest)
  | s => some (none, s)

/-- Reads the sign that may stand in front of an exponent. -/
def readExponentSign : List Char → Bool × List Char
  | '+' :: rest => (false, rest)
  | '-' :: rest => (true, rest)
  | s => (false, s)

/-- The number that digits denote. -/
def digitsValue (digits : List Char) : Nat :=
  digits.foldl (fun n c => n * 10 + (c.toNat - '0'.toNat)) 0

/-- Reads the exponent that may stand at the beginning of a text: its mark, a sign, and at
least one digit. -/
def readExponent (s : List Char) : Option (Option Int × List Char) :=
  match s with
  | [] => some (none, s)
  | c :: rest =>
    if c = 'e' ∨ c = 'E' then
      let (negative, rest) := readExponentSign rest
      match spanDigits rest with
      | ([], _) => none
      | (digits, rest) =>
        let value : Int := digitsValue digits
        some (some (if negative then -value else value), rest)
    else some (none, s)

/-- Reads a number behind its sign. A zero in front of other digits is refused. -/
def readUnsigned (negative : Bool) (s : List Char) : Option (Number × List Char) :=
  match spanDigits s with
  | ([], _) => none
  | ('0' :: _ :: _, _) => none
  | (whole, rest) => do
    let (fraction, rest) ← readFraction rest
    let (exponent, rest) ← readExponent rest
    let number ← Number.ofParts? negative whole fraction exponent
    return (number, rest)

/-! ### The sequence of words -/

namespace Token

/-- The blanks of a written document. -/
def isBlank (c : Char) : Bool :=
  c == ' ' || c == '\t' || c == '\n' || c == '\r'

/-- Reads the word that begins with a given character. -/
def next? (c : Char) (rest : List Char) : Option (Token × List Char) :=
  match c with
  | '[' => some (openBracket, rest)
  | ']' => some (closeBracket, rest)
  | '\x7b' => some (openBrace, rest)
  | '\x7d' => some (closeBrace, rest)
  | ':' => some (colon, rest)
  | ',' => some (comma, rest)
  | '"' => do
    let (units, rest) ← readQuoted rest
    let chars ← joinUnits units
    return (.text (String.ofList chars), rest)
  | 'n' => match rest with
    | 'u' :: 'l' :: 'l' :: rest => some (atom .null, rest)
    | _ => none
  | 't' => match rest with
    | 'r' :: 'u' :: 'e' :: rest => some (atom (.bool true), rest)
    | _ => none
  | 'f' => match rest with
    | 'a' :: 'l' :: 's' :: 'e' :: rest => some (atom (.bool false), rest)
    | _ => none
  | '-' => (readUnsigned true rest).map fun (number, rest) => (atom (.number number), rest)
  | c => (readUnsigned false (c :: rest)).map fun (number, rest) => (atom (.number number), rest)

/-- Reads words until a text ends. Every word takes at least one character, so as many words
as there are characters are enough. -/
def readAll : Nat → List Char → Option (List Token)
  | budget, s =>
    match s.dropWhile isBlank, budget with
    | [], _ => some []
    | _ :: _, 0 => none
    | c :: rest, budget + 1 => do
      let (token, rest) ← next? c rest
      return token :: (← readAll budget rest)

/-- The words of a text. -/
def ofText? (s : String) : Option (List Token) :=
  readAll s.toList.length s.toList

end Token

end RemoteGateway.Document
