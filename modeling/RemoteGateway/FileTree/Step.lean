import RemoteGateway.FileTree.Basic

/-!
# Steps on a file tree

Every change of a file tree is a list of **steps**, each of which either happens as a whole or
fails and leaves the tree alone. `perform` takes them in order and stops at the first that
fails; what the earlier ones did stays. New files and directories get the requested mode bits
without those of group and others for writing.

Writing a file makes sure of the directories above it, opens the file, which empties it, and
fills it. A private file gets its mode bits between the opening and the filling, so its content
is never under other bits. A document is replaced in one step.

Directories are made from the outermost inwards. Before that they are surveyed from the
innermost outwards, and none is made when something else stands where the making has to begin.
-/

namespace RemoteGateway.FileTree

/-- A change of a file tree that cannot be left half done. -/
inductive Step where
  /-- Looks where the making of some directories, given from the innermost outwards, has to
  begin; changes nothing. -/
  | survey (locations : List Location)
  /-- Makes sure of a directory. -/
  | directory (location : Location)
  /-- Opens a file for writing: a missing one is created with the mode bits, and an existing
  one loses its content and keeps its bits. -/
  | create (location : Location) (mode : Nat)
  /-- Writes the content of a file that has been opened. -/
  | fill (location : Location) (content : ByteArray)
  /-- Sets the mode bits. -/
  | setMode (location : Location) (mode : Nat)
  /-- Removes a file. -/
  | remove (location : Location)
  /-- Moves a new file with the content and mode bits to a location, over a file that stands
  there. -/
  | replace (location : Location) (content : ByteArray) (mode : Nat)

/-- The bits that a new file gets of those requested. -/
def granted (mode : Nat) : Nat :=
  mode &&& 0o7755

/-- The names that a new directory at a location would have. Its parent has to be there, and
nothing else may stand in its place. -/
def vacancy (tree : FileTree) (location : Location) : Except Fault (List String) :=
  match tree.locate location with
  | .error fault => .error fault
  | .ok place =>
    match tree.look place with
    | .error fault => .error fault
    | .ok none => .ok place.names
    | .ok (some _) => .error .alreadyExists

/-- Looks, from the innermost of some directories outwards, for the first whose parent is
there. It is there itself or can be made, unless the fault says otherwise. -/
def survey (tree : FileTree) : List Location → Except Fault Unit
  | [] => .ok ()
  | location :: rest =>
    match tree.vacancy location with
    | .ok _ => .ok ()
    | .error .missing => tree.survey rest
    | .error fault => if tree.isDirectory location then .ok () else .error fault

namespace Step

/-- What a step does to a tree. -/
def apply (tree : FileTree) : Step → Except Fault FileTree
  | survey locations => (tree.survey locations).map fun _ => tree
  | directory location =>
    match tree.vacancy location with
    | .ok names => .ok (tree.put names (.directory directoryMode))
    | .error fault => if tree.isDirectory location then .ok tree else .error fault
  | create location mode =>
    match tree.locate location with
    | .error fault => .error fault
    | .ok place =>
      if place.entry.isNone || location.endsInSlash then .error .isDirectory
      else
        match tree.look place with
        | .error fault => .error fault
        | .ok none => .ok (tree.put place.names (.file .empty (granted mode)))
        | .ok (some (.file _ bits)) => .ok (tree.put place.names (.file .empty bits))
        | .ok (some (.directory _)) => .error .isDirectory
  | fill location content =>
    match tree.resolve location with
    | .error fault => .error fault
    | .ok (_, .directory _) => .error .isDirectory
    | .ok (names, .file _ mode) => .ok (tree.put names (.file content mode))
  | setMode location mode =>
    match tree.resolve location with
    | .error fault => .error fault
    | .ok (names, node) => .ok (tree.put names (node.withMode mode))
  | remove location =>
    match tree.resolve location with
    | .error fault => .error fault
    | .ok (_, .directory _) => .error .isDirectory
    | .ok (names, .file ..) => .ok (tree.erase names)
  | replace location content mode =>
    match tree.locate location with
    | .error fault => .error fault
    | .ok place =>
      if place.entry.isNone then .error .busy
      else
        match tree.look place with
        | .error fault => .error fault
        | .ok found =>
          if location.endsInSlash then .error .notDirectory
          else
            match found with
            | some (.directory _) => .error .isDirectory
            | _ => .ok (tree.put place.names (.file content mode))

end Step

/-- Takes steps in order until one fails: how that ended, and the tree as it is then. -/
def perform (tree : FileTree) : List Step → Except Fault Unit × FileTree
  | [] => (.ok (), tree)
  | step :: rest =>
    match step.apply tree with
    | .ok next => next.perform rest
    | .error fault => (.error fault, tree)

/-! ### Plans -/

/-- Makes sure of some directories, given from the outermost inwards. -/
def makeAll (locations : List Location) : List Step :=
  .survey locations.reverse :: locations.map .directory

/-- Makes sure of a directory and of all those above it. -/
def makeDirectories (path : String) : List Step :=
  let location := Location.ofText path
  if path = "" then [] else makeAll (location.above ++ [location])

/-- Writes a file. -/
def writeFile (path : String) (content : ByteArray) : List Step :=
  let location := Location.ofText path
  makeAll location.above ++ [.create location 0o666, .fill location content]

/-- Writes a file that holds its content under no other mode bits than the given ones. -/
def writePrivate (path : String) (content : ByteArray) (mode : Nat) : List Step :=
  let location := Location.ofText path
  makeAll location.above ++
    [.create location mode, .setMode location mode, .fill location content]

/-- Replaces a document, which only its owner may read from then on. -/
def replaceFile (path : String) (content : ByteArray) : List Step :=
  let location := Location.ofText path
  makeAll location.above ++ [.replace location content 0o600]

/-- Lets everyone run a file. -/
def makeExecutable (path : String) : List Step :=
  [.setMode (.ofText path) 0o755]

/-- Removes a file that an earlier run may have left behind, and tells whether there was
one. -/
def removeStale (tree : FileTree) (path : String) : Except Fault Bool × FileTree :=
  match Step.apply tree (.remove (.ofText path)) with
  | .ok next => (.ok true, next)
  | .error .missing => (.ok false, tree)
  | .error fault => (.error fault, tree)

/-- Performing a list of steps after another one, unless that failed. -/
theorem perform_append (tree : FileTree) (steps more : List Step) :
    tree.perform (steps ++ more) =
      match tree.perform steps with
      | (.ok (), next) => next.perform more
      | (.error fault, next) => (.error fault, next) := by
  induction steps generalizing tree with
  | nil => rfl
  | cons step rest ih =>
    simp only [List.cons_append, perform]
    cases step.apply tree with
    | error fault => rfl
    | ok next => exact ih next

end RemoteGateway.FileTree
