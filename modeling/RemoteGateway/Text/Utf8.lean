/-!
# Text in UTF-8

`decode?` reads bytes as text and refuses bytes that are not well formed. `decodeLossy`
reads any bytes: each longest beginning of a well-formed character that is not continued
properly, and each byte that can begin no character, becomes one replacement character.

The lossy reader is a small automaton. Between characters it looks at a leading byte; inside
a character it knows the bits gathered so far, the range in which the next byte must lie,
and how many bytes are still missing.
-/

namespace RemoteGateway.Text

/-- The text that the bytes encode, if they are well formed. -/
def decode? (bytes : ByteArray) : Option String :=
  String.fromUTF8? bytes

theorem decode?_toUTF8 (s : String) : decode? s.toUTF8 = some s := by
  have h : s.toUTF8.IsValidUTF8 := s.isValidUTF8
  simp only [decode?, String.fromUTF8?, h, dif_pos]
  rfl

/-! ### Lossy reading -/

/-- The character that stands for bytes that cannot be read. -/
def replacement : Char := '\uFFFD'

/-- Where the lossy reader stands. -/
inductive Utf8State where
  /-- Between two characters. -/
  | boundary
  /-- Inside a character: `bits` have been gathered, the next byte lies between `low` and
  `high`, and `missing + 1` bytes are still to come. -/
  | inside (bits low high missing : Nat)

namespace Utf8State

/-- Reads a byte that should begin a character. -/
def lead (b : Nat) : List Char × Utf8State :=
  if b < 0x80 then ([Char.ofNat b], boundary)
  else if b < 0xC2 then ([replacement], boundary)
  else if b < 0xE0 then ([], inside (b - 0xC0) 0x80 0xBF 0)
  else if b = 0xE0 then ([], inside 0 0xA0 0xBF 1)
  else if b = 0xED then ([], inside 0xD 0x80 0x9F 1)
  else if b < 0xF0 then ([], inside (b - 0xE0) 0x80 0xBF 1)
  else if b = 0xF0 then ([], inside 0 0x90 0xBF 2)
  else if b < 0xF4 then ([], inside (b - 0xF0) 0x80 0xBF 2)
  else if b = 0xF4 then ([], inside 4 0x80 0x8F 2)
  else ([replacement], boundary)

/-- Reads one byte: the characters that are complete with it, and where the reader stands
after it. A byte that does not continue the character begun before it begins a new one. -/
def step (b : Nat) : Utf8State → List Char × Utf8State
  | boundary => lead b
  | inside bits low high missing =>
    if low ≤ b ∧ b ≤ high then
      match missing with
      | 0 => ([Char.ofNat (bits * 64 + (b - 0x80))], boundary)
      | m + 1 => ([], inside (bits * 64 + (b - 0x80)) 0x80 0xBF m)
    else
      (replacement :: (lead b).1, (lead b).2)

/-- Reads all bytes; a character that the end cuts off is replaced. -/
def run : Utf8State → List UInt8 → List Char
  | boundary, [] => []
  | inside .., [] => [replacement]
  | state, b :: rest => (step b.toNat state).1 ++ run (step b.toNat state).2 rest

end Utf8State

/-- The text of any bytes, with a replacement character for each part that is not well
formed. -/
def decodeLossy (bytes : ByteArray) : String :=
  String.ofList (Utf8State.run .boundary bytes.data.toList)

end RemoteGateway.Text
