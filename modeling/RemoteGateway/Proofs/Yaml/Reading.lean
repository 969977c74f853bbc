import RemoteGateway.Proofs.Yaml.Scalars

/-!
# Reading files

`read` takes a file in block style for a mapping, line by line: what a line begins goes on in the
lines below that begin further in, and the items below a key may also begin in its column. A
container that is an item may begin on the line of its dash. A file is refused when it holds a
character that is not readable, when a key stands twice in one mapping, or when any line remains
that belongs to nothing.
-/

namespace RemoteGateway.Yaml

mutual

/-- The entries of a mapping in a column, and the lines below them. -/
def entries? (budget column : Nat) (lines : List (List Char)) :
    Option (List (String × Tree) × List (List Char)) :=
  match budget with
  | 0 => none
  | budget + 1 =>
    match lines.dropWhile isSkipped with
    | [] => some ([], [])
    | line :: later =>
      if indentOf line < column then some ([], line :: later)
      else if column < indentOf line then none
      else do
        let (key, first) ← key? (line.drop column)
        let (value, later) ← value? budget column first later
        let (more, later) ← entries? budget column later
        if (more.map Prod.fst).contains key then none else some ((key, value) :: more, later)
termination_by structural budget

/-- The items of a sequence in a column, and the lines below them. -/
def items? (budget column : Nat) (lines : List (List Char)) :
    Option (List Tree × List (List Char)) :=
  match budget with
  | 0 => none
  | budget + 1 =>
    match lines.dropWhile isSkipped with
    | [] => some ([], [])
    | line :: later =>
      if indentOf line < column then some ([], line :: later)
      else if column < indentOf line then none
      else if isDashed (line.drop column) then do
        let (item, later) ← item? budget column (line.drop (column + 1)) later
        let (more, later) ← items? budget column later
        some (item :: more, later)
      else some ([], line :: later)
termination_by structural budget

/-- The container whose first line begins in a column, and the lines below it. -/
def container? (budget column : Nat) (lines : List (List Char)) :
    Option (Tree × List (List Char)) :=
  match budget with
  | 0 => none
  | budget + 1 =>
    if lines.head?.any fun line => isDashed (line.drop column) then do
      let (items, later) ← items? budget column lines
      some (.sequence items, later)
    else do
      let (entries, later) ← entries? budget column lines
      some (.mapping entries, later)
termination_by structural budget

/-- The value of a key in a column, from what follows the colon, and the lines below it. -/
def value? (budget column : Nat) (first : List Char) (later : List (List Char)) :
    Option (Tree × List (List Char)) :=
  match budget with
  | 0 => none
  | budget + 1 =>
    if isSkipped first then
      match later.dropWhile isSkipped with
      | [] => some (.null, [])
      | line :: later =>
        if column < indentOf line ∨ (indentOf line = column ∧ isDashed (line.drop column)) then
          container? budget (indentOf line) (line :: later)
        else some (.null, line :: later)
    else scalar? column (dropBlanks first) later
termination_by structural budget

/-- The item of a dash in a column, from what follows the dash, and the lines below it. -/
def item? (budget column : Nat) (first : List Char) (later : List (List Char)) :
    Option (Tree × List (List Char)) :=
  match budget with
  | 0 => none
  | budget + 1 =>
    if isSkipped first then
      match later.dropWhile isSkipped with
      | [] => some (.null, [])
      | line :: later =>
        if column < indentOf line then container? budget (indentOf line) (line :: later)
        else some (.null, line :: later)
    else
      let content := dropBlanks first
      if isDashed content ∨ (key? content).isSome then
        -- The line goes on as if it began behind the dash.
        let inner := column + 1 + indentOf first
        container? budget inner ((spaces inner ++ content) :: later)
      else scalar? column content later
termination_by structural budget

end

/-- The tree that a file holds. No tree takes more than three calls for each of its
characters. -/
def read (text : String) : Option Tree :=
  let s := text.toList
  if s.all isReadable then
    match entries? (3 * s.length + 2) 0 (linesOf s) with
    | some (entries, []) => some (.mapping entries)
    | _ => none
  else none

end RemoteGateway.Yaml
