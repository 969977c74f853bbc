/-!
# Armoured texts

Certificates and keys are written as text between two boundary lines that name what they
enclose. The bytes between them are written in base 64: three bytes become four characters, a
last group of fewer bytes is filled up with `=`, and a line holds sixty-four characters.
-/

namespace RemoteGateway.Certificate

/-- The character for six bits. -/
def sextet (n : Nat) : Char :=
  if n < 26 then Char.ofNat ('A'.toNat + n)
  else if n < 52 then Char.ofNat ('a'.toNat + (n - 26))
  else if n < 62 then Char.ofNat ('0'.toNat + (n - 52))
  else if n = 62 then '+'
  else '/'

/-- Bytes in base 64. -/
def base64 : List UInt8 → List Char
  | [] => []
  | [a] => [sextet (a.toNat / 4), sextet (a.toNat % 4 * 16), '=', '=']
  | [a, b] =>
    [sextet (a.toNat / 4), sextet (a.toNat % 4 * 16 + b.toNat / 16),
      sextet (b.toNat % 16 * 4), '=']
  | a :: b :: c :: rest =>
    sextet (a.toNat / 4) :: sextet (a.toNat % 4 * 16 + b.toNat / 16) ::
      sextet (b.toNat % 16 * 4 + c.toNat / 64) :: sextet (c.toNat % 64) :: base64 rest

/-- Characters in lines of sixty-four, each ended by a line break. -/
def inLines (s : List Char) : List Char :=
  if s = [] then [] else s.take 64 ++ '\n' :: inLines (s.drop 64)
termination_by s.length
decreasing_by
  have : 0 < s.length := List.length_pos_iff.2 (by assumption)
  simp only [List.length_drop]
  omega

/-- The armoured text of some bytes, under a label that says what they are. -/
def armour (label : String) (bytes : ByteArray) : String :=
  "-----BEGIN " ++ label ++ "-----\n" ++ String.ofList (inLines (base64 bytes.data.toList)) ++
    "-----END " ++ label ++ "-----\n"

end RemoteGateway.Certificate
