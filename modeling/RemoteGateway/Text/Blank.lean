/-!
# Blank characters and trimming

A character is **blank** when it has the `White_Space` property; there are twenty-five of
them. `trimWhere p` removes from both ends of a text the longest runs of characters that
satisfy `p`, and `trim` does so for the blank ones. Inner characters are never touched.
-/

namespace RemoteGateway.Text

/-- The characters with the `White_Space` property: the ASCII controls from tab to carriage
return, the space, and the blank characters and separators beyond ASCII. -/
def isBlank (c : Char) : Bool :=
  let n := c.toNat
  (0x09 ≤ n && n ≤ 0x0D) || n == 0x20 || n == 0x85 || n == 0xA0 || n == 0x1680 ||
    (0x2000 ≤ n && n ≤ 0x200A) || n == 0x2028 || n == 0x2029 || n == 0x202F || n == 0x205F ||
    n == 0x3000

/-! ### Trimming -/

/-- A text without its longest ending of characters that satisfy `p`. -/
def dropEndWhile (p : Char → Bool) (s : List Char) : List Char :=
  (s.reverse.dropWhile p).reverse

/-- A text without the characters satisfying `p` that surround it. -/
def trimWhere (p : Char → Bool) (s : List Char) : List Char :=
  dropEndWhile p (s.dropWhile p)

/-- A text without the blank characters that surround it. -/
def trim (s : List Char) : List Char :=
  trimWhere isBlank s

/-- A text without the blank characters it ends in. -/
def trimEnd (s : List Char) : List Char :=
  dropEndWhile isBlank s

/-- What is left has either no characters or a last one that the test rejects. -/
theorem getLast_dropEndWhile {p : Char → Bool} {s : List Char} {c : Char}
    (h : (dropEndWhile p s).getLast? = some c) : p c = false := by
  rw [dropEndWhile, List.getLast?_reverse] at h
  have := List.head?_dropWhile_not p s.reverse
  rw [h] at this
  simpa using this

end RemoteGateway.Text
