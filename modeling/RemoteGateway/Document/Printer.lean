import RemoteGateway.Document.Value

/-!
# Writing documents

Documents are written with one member or item per line, each level indented by two spaces;
an empty container takes two characters. Inside a quoted text only the quote, the backslash
and the controls below the space are escaped, the latter by a short name where there is one
and otherwise by four hexadecimal digits.
-/

namespace RemoteGateway.Document

/-- The two lower-case hexadecimal digits of a number below 256. -/
def hexPair (n : Nat) : List Char :=
  [Nat.digitChar (n / 16), Nat.digitChar (n % 16)]

/-- A character as it stands inside a quoted text. -/
def escape (c : Char) : List Char :=
  if c = '"' then ['\\', '"']
  else if c = '\\' then ['\\', '\\']
  else if c = '\x08' then ['\\', 'b']
  else if c = '\x0c' then ['\\', 'f']
  else if c = '\n' then ['\\', 'n']
  else if c = '\r' then ['\\', 'r']
  else if c = '\t' then ['\\', 't']
  else if c.toNat < 0x20 then ['\\', 'u', '0', '0'] ++ hexPair c.toNat
  else [c]

/-- A text in quotes. -/
def quote (s : String) : List Char :=
  '"' :: (s.toList.flatMap escape ++ ['"'])

/-- A line break and the indentation of a level. -/
def newline (level : Nat) : List Char :=
  '\n' :: List.replicate (2 * level) ' '

namespace Value

mutual

/-- The text of a value that stands on a level of indentation. -/
def pretty (level : Nat) : Value → List Char
  | null => "null".toList
  | bool true => "true".toList
  | bool false => "false".toList
  | number value => value.text.toList
  | text value => quote value
  | list [] => ['[', ']']
  | list (item :: rest) =>
    '[' :: (newline (level + 1) ++ pretty (level + 1) item ++ prettyItems (level + 1) rest ++
      newline level ++ [']'])
  | object [] => ['\x7b', '\x7d']
  | object ((key, value) :: rest) =>
    '\x7b' :: (newline (level + 1) ++ quote key ++ [':', ' '] ++ pretty (level + 1) value ++
      prettyMembers (level + 1) rest ++ newline level ++ ['\x7d'])

/-- The items after the first, each behind a comma and on a line of its own. -/
def prettyItems (level : Nat) : List Value → List Char
  | [] => []
  | item :: rest => ',' :: (newline level ++ pretty level item ++ prettyItems level rest)

/-- The members after the first, each behind a comma and on a line of its own. -/
def prettyMembers (level : Nat) : List (String × Value) → List Char
  | [] => []
  | (key, value) :: rest =>
    ',' :: (newline level ++ quote key ++ [':', ' '] ++ pretty level value ++
      prettyMembers level rest)

end

/-- The text of a whole document. -/
def toText (value : Value) : String :=
  String.ofList (value.pretty 0)

end Value

end RemoteGateway.Document
