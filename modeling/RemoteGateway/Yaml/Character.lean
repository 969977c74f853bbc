/-!
# Characters of YAML scalars

What a scalar may look like depends on four kinds of characters: breaks, which end a line;
blanks, which separate words; special characters, which can only be written as escapes; and
indicators, which begin something other than a scalar.
-/

namespace RemoteGateway.Yaml

/-- The characters that end a line: line feed, carriage return, next line, and the line and
paragraph separators. -/
def isBreak (c : Char) : Bool :=
  c == '\n' || c == '\r' || c == '\u0085' || c == '\u2028' || c == '\u2029'

/-- The characters that separate words: blanks and breaks. The null character, which ends
some texts, counts as well. -/
def isSeparator (c : Char) : Bool :=
  c == ' ' || c == '\t' || c == '\x00' || isBreak c

/-- The characters that have to be escaped: controls other than the line feed, the byte order
mark, and the two noncharacters at the end of the basic plane. -/
def isSpecial (c : Char) : Bool :=
  let n := c.toNat
  (n < 0x20 && n != 0x0A) || (0x7F ≤ n && n ≤ 0x9F) || n == 0xFEFF || n == 0xFFFE || n == 0xFFFF

/-- The characters with which no plain scalar begins. -/
def isIndicator (c : Char) : Bool :=
  c == '#' || c == ',' || c == '[' || c == ']' || c == '\x7b' || c == '\x7d' || c == '&' ||
    c == '*' || c == '!' || c == '|' || c == '>' || c == '\'' || c == '"' || c == '%' ||
    c == '@' || c == '\x60'

/-- Whether nothing or a separator comes first in a text. -/
def startsApart : List Char → Bool
  | [] => true
  | c :: _ => isSeparator c

end RemoteGateway.Yaml
