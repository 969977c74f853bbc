import RemoteGateway.Document.Printer
import RemoteGateway.Yaml.Character
import RemoteGateway.Yaml.Resolution

/-!
# Writing text scalars

A text is written in one of four styles. A text of several lines stands as a literal block,
where nothing is escaped; any other text stands plain if it reads back as itself, and in
single quotes otherwise, where only the quote is doubled. What neither can hold stands in
double quotes, where everything can be escaped.

Behind a break that stays in the text, the rest of a block or of a single-quoted text starts
on the indentation of the scalar.
-/

namespace RemoteGateway.Yaml

/-- How a text is written. -/
inductive Style where
  | plain
  | singleQuoted
  | doubleQuoted
  | literal
  deriving DecidableEq

/-! ### Choosing a style -/

/-- Whether a character of the first kind stands directly before one of the second. -/
def hasPair (first second : Char → Bool) : List Char → Bool
  | a :: b :: rest => (first a && second b) || hasPair first second (b :: rest)
  | _ => false

/-- Whether a text ends in a space. -/
def endsInSpace (s : List Char) : Bool :=
  s.getLast? = some ' '

/-- Whether a text can stand as a literal block. -/
def literalAllowed (s : List Char) : Bool :=
  !s.any isSpecial && !endsInSpace s && !hasPair (· == ' ') isBreak s

/-- Whether a text can stand in single quotes. -/
def singleQuotedAllowed (s : List Char) : Bool :=
  !s.any isSpecial && !hasPair (· == ' ') isBreak s && !hasPair isBreak (· == ' ') s

/-- Whether a text begins with what begins something else. -/
def startsIndicated : List Char → Bool
  | '-' :: '-' :: '-' :: _ => true
  | '.' :: '.' :: '.' :: _ => true
  | c :: rest =>
    isIndicator c || ((c == '?' || c == ':' || c == '-') && startsApart rest)
  | [] => false

/-- Whether a text holds, behind its first character, a colon in front of a separator or a
hash behind one. -/
def holdsIndicator : List Char → Bool
  | a :: b :: rest =>
    (b == ':' && startsApart rest) || (b == '#' && isSeparator a) || holdsIndicator (b :: rest)
  | _ => false

/-- Whether a text can stand plain. -/
def plainAllowed (s : List Char) : Bool :=
  !s.any isSpecial && !s.any isBreak && s.head? != some ' ' && !endsInSpace s &&
    !startsIndicated s && !holdsIndicator s

/-- The style of a text. -/
def styleOf (s : List Char) : Style :=
  if s.contains '\n' then if literalAllowed s then .literal else .doubleQuoted
  else if !isTyped s && plainAllowed s then .plain
  else if singleQuotedAllowed s then .singleQuoted
  else .doubleQuoted

/-! ### Writing in a style -/

/-- The indentation of a line. -/
def spaces (indent : Nat) : List Char :=
  List.replicate indent ' '

/-- The content of single quotes; `fresh` tells whether a break comes just before. -/
def singleQuotedBody (indent : Nat) : Bool → List Char → List Char
  | fresh, [] => if fresh then spaces indent else []
  | fresh, c :: rest =>
    if isBreak c then c :: singleQuotedBody indent true rest
    else
      (if fresh then spaces indent else []) ++ (if c = '\'' then ['\'', '\''] else [c]) ++
        singleQuotedBody indent false rest

/-- The lines of a literal block; `fresh` tells whether a break comes just before. -/
def literalBody (indent : Nat) : Bool → List Char → List Char
  | _, [] => []
  | fresh, c :: rest =>
    if isBreak c then c :: literalBody indent true rest
    else (if fresh then spaces indent else []) ++ c :: literalBody indent false rest

/-- What a literal block announces about its content: the indentation, where the content
itself starts with a space or a break, and what becomes of the breaks at its end. -/
def literalHints (s : List Char) : List Char :=
  let leading := if s.head?.any fun c => c == ' ' || isBreak c then ['2'] else []
  let trailing :=
    match s.reverse with
    | [] => ['-']
    | [last] => if isBreak last then ['+'] else ['-']
    | last :: previous :: _ =>
      if !isBreak last then ['-'] else if isBreak previous then ['+'] else []
  leading ++ trailing

/-- Upper-case hexadecimal digits of a number, filled up with zeros to a width. -/
def hexDigits (width n : Nat) : List Char :=
  let digits := (Nat.toDigits 16 n).map Char.toUpper
  List.replicate (width - digits.length) '0' ++ digits

/-- The letter that stands for a character behind a backslash. -/
def escapeLetter? (c : Char) : Option Char :=
  [('\x00', '0'), ('\x07', 'a'), ('\x08', 'b'), ('\t', 't'), ('\n', 'n'), ('\x0b', 'v'),
    ('\x0c', 'f'), ('\r', 'r'), ('\x1b', 'e'), ('"', '"'), ('\\', '\\'), ('\u0085', 'N'),
    ('\u00a0', '_'), ('\u2028', 'L'), ('\u2029', 'P')].lookup c

/-- A character inside double quotes. -/
def escapeChar (c : Char) : List Char :=
  if isSpecial c || isBreak c || c == '"' || c == '\\' then
    match escapeLetter? c with
    | some letter => ['\\', letter]
    | none =>
      if c.toNat ≤ 0xFF then '\\' :: 'x' :: hexDigits 2 c.toNat
      else if c.toNat ≤ 0xFFFF then '\\' :: 'u' :: hexDigits 4 c.toNat
      else '\\' :: 'U' :: hexDigits 8 c.toNat
  else [c]

/-- Writes a text scalar whose content stands on an indentation, up to the end of its last
line. -/
def writeText (indent : Nat) (s : List Char) : List Char :=
  match styleOf s with
  | .plain => s ++ ['\n']
  | .singleQuoted => '\'' :: (singleQuotedBody indent false s ++ ['\'', '\n'])
  | .doubleQuoted => '"' :: (s.flatMap escapeChar ++ ['"', '\n'])
  | .literal =>
    '|' :: (literalHints s ++ '\n' :: literalBody indent true s ++
      if s.getLast?.any isBreak then [] else ['\n'])

end RemoteGateway.Yaml
