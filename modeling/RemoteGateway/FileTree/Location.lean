/-!
# Locations

A location is a path text cut at its slashes. Nothing is cancelled in it: a single dot names
the directory reached so far and two dots the one above it, but only a walk through a tree
tells which directories those are, and whether they are there. An empty part names nothing.

The locations **above** another one are those of the directories that have to be there before
anything can be created at it. They are read off the text, from the beginnings of it that end
in a name or in two dots.

Path texts themselves are kept as they were given, because messages repeat them.
-/

namespace RemoteGateway.FileTree

/-- A path text, cut at its slashes. -/
structure Location where
  /-- Whether the text begins with a slash, which belongs to none of the parts. -/
  absolute : Bool
  /-- What stands between the slashes. -/
  parts : List String
  deriving DecidableEq

namespace Location

/-- The parts of a text between its slashes. -/
def cut (text : List Char) : List String :=
  (text.splitOn '/').map String.ofList

/-- The location that a path text describes. -/
def ofText (path : String) : Location :=
  match path.toList with
  | '/' :: rest => ⟨true, cut rest⟩
  | text => ⟨false, cut text⟩

/-- The path text that describes a location. -/
def text (location : Location) : String :=
  (if location.absolute then "/" else "") ++ String.intercalate "/" location.parts

/-- The names of the directory from which a location starts: none for the top of the tree, and
a slash for the top of all absolute locations. -/
def start (location : Location) : List String :=
  if location.absolute then ["/"] else []

/-- An idle part leads nowhere else. -/
def isIdle (part : String) : Bool :=
  part = "" || part = "."

/-- The parts that are not empty. -/
def links (location : Location) : List String :=
  location.parts.filter (· ≠ "")

/-- Whether the text ends in a slash. -/
def endsInSlash (location : Location) : Bool :=
  location.parts.getLast? = some ""

/-- The beginnings of some parts that end in a part that is not idle, the shortest first, each
behind the parts before them. -/
def beginnings (before : List String) : List String → List (List String)
  | [] => []
  | part :: rest =>
    if isIdle part then beginnings (before ++ [part]) rest
    else (before ++ [part]) :: beginnings (before ++ [part]) rest

/-- The locations above a location, the outermost first. -/
def above (location : Location) : List Location :=
  (beginnings [] location.parts).dropLast.map fun parts => { location with parts }

end Location

/-- The path text of an entry below a directory: the entry alone when no directory is given,
and an absolute entry whatever the directory. -/
def join (directory entry : String) : String :=
  if directory = "" ∨ entry.toList.head? = some '/' then entry
  else if directory.toList.getLast? = some '/' then directory ++ entry
  else directory ++ "/" ++ entry

end RemoteGateway.FileTree
