import RemoteGateway.Yaml.Scalar

/-!
# YAML trees

A tree of mappings, sequences and scalars is written in block style: the entries of a mapping
two columns further in than the key it belongs to, the items of a sequence in the column of
that key. An empty container takes two characters. A container that is itself an item starts
on the line of its dash.
-/

namespace RemoteGateway.Yaml

/-- A YAML tree. Keys are texts that need no quotes. -/
inductive Node where
  | text (value : String)
  | integer (value : Nat)
  | boolean (value : Bool)
  | sequence (items : List Node)
  | mapping (entries : List (String × Node))

namespace Node

mutual

/-- What follows the colon of a key in a column. -/
def afterKey (column : Nat) : Node → List Char
  | text value => ' ' :: writeText (column + 2) value.toList
  | integer value => ' ' :: (Nat.toDigits 10 value ++ ['\n'])
  | boolean value => ' ' :: ((toString value).toList ++ ['\n'])
  | sequence [] => " []\n".toList
  | sequence (item :: rest) => '\n' :: (spaces column ++ '-' :: afterDash column item ++
      items column rest)
  | mapping [] => " \x7b\x7d\n".toList
  | mapping ((key, value) :: rest) =>
    '\n' :: (spaces (column + 2) ++ key.toList ++ ':' :: afterKey (column + 2) value ++
      entries (column + 2) rest)

/-- What follows a dash in a column. -/
def afterDash (column : Nat) : Node → List Char
  | text value => ' ' :: writeText (column + 2) value.toList
  | integer value => ' ' :: (Nat.toDigits 10 value ++ ['\n'])
  | boolean value => ' ' :: ((toString value).toList ++ ['\n'])
  | sequence [] => " []\n".toList
  | sequence (item :: rest) =>
    ' ' :: '-' :: (afterDash (column + 2) item ++ items (column + 2) rest)
  | mapping [] => " \x7b\x7d\n".toList
  | mapping ((key, value) :: rest) =>
    ' ' :: (key.toList ++ ':' :: afterKey (column + 2) value ++ entries (column + 2) rest)

/-- Items in a column. -/
def items (column : Nat) : List Node → List Char
  | [] => []
  | item :: rest => spaces column ++ '-' :: afterDash column item ++ items column rest

/-- Entries in a column. -/
def entries (column : Nat) : List (String × Node) → List Char
  | [] => []
  | (key, value) :: rest =>
    spaces column ++ key.toList ++ ':' :: afterKey column value ++ entries column rest

end

/-- The text of a mapping that is a whole file. -/
def writeFile (entries : List (String × Node)) : String :=
  String.ofList (Node.entries 0 entries)

end Node

end RemoteGateway.Yaml
