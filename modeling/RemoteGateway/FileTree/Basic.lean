import RemoteGateway.FileTree.Location

/-!
# File trees

A file tree says for every list of names what stands at its end: nothing, a regular file with
its bytes and mode bits, or a directory with its mode bits. Names start at the top of the tree,
which has none itself; the directories above the top are written as two dots each.

`walk` follows the parts of a location from directory to directory. `locate` tells to which
**place** a location leads, an entry of a directory or a directory itself, and `resolve` what
stands there. All other operations look at a tree through these.
-/

namespace RemoteGateway

/-- What stands at a place of a file tree. -/
inductive FileTree.Node where
  | file (content : ByteArray) (mode : Nat)
  | directory (mode : Nat)

/-- Files are equal when their bytes and mode bits are. -/
instance : DecidableEq FileTree.Node
  | .file c m, .file c' m' =>
    if h : c.data = c'.data ∧ m = m' then isTrue (by rw [ByteArray.ext h.1, h.2])
    else isFalse fun e => h (by injection e with hc hm; exact ⟨congrArg _ hc, hm⟩)
  | .directory m, .directory m' =>
    if h : m = m' then isTrue (by rw [h]) else isFalse fun e => h (by injection e)
  | .file .., .directory _ => isFalse nofun
  | .directory _, .file .. => isFalse nofun

/-- The same file or directory with other mode bits. -/
def FileTree.Node.withMode (mode : Nat) : FileTree.Node → FileTree.Node
  | file content _ => file content mode
  | directory _ => directory mode

/-- A tree of directories and regular files, as the list of what is known to stand
somewhere. -/
structure FileTree where
  entries : List (List String × FileTree.Node)

namespace FileTree

/-- Why an operation on a file tree fails. -/
inductive Fault where
  | missing
  | busy
  | alreadyExists
  | notDirectory
  | isDirectory
  | nameTooLong
  /-- The path text holds a character that ends every text of the host. -/
  | nulCharacter
  deriving DecidableEq

/-- The wording of a fault. -/
def Fault.message : Fault → String
  | missing => "No such file or directory (os error 2)"
  | busy => "Device or resource busy (os error 16)"
  | alreadyExists => "File exists (os error 17)"
  | notDirectory => "Not a directory (os error 20)"
  | isDirectory => "Is a directory (os error 21)"
  | nameTooLong => "File name too long (os error 36)"
  | nulCharacter => "file name contained an unexpected NUL byte"

/-- The tree with nothing below its top. -/
def empty : FileTree := ⟨[]⟩

/-- The mode bits of new directories, and of those of which nothing is known. -/
def directoryMode : Nat := 0o755

/-- What stands at the end of some names. -/
def find? (tree : FileTree) (names : List String) : Option Node :=
  tree.entries.lookup names

/-- Puts something at the end of some names, in place of what stands there. -/
def put (tree : FileTree) (names : List String) (node : Node) : FileTree :=
  ⟨(names, node) :: tree.entries.filter fun entry => entry.1 != names⟩

/-- Takes away what stands at the end of some names. -/
def erase (tree : FileTree) (names : List String) : FileTree :=
  ⟨tree.entries.filter fun entry => entry.1 != names⟩

/-! ### Walking -/

/-- Names of more than 255 bytes exist nowhere. -/
def isTooLong (name : String) : Bool :=
  255 < name.utf8ByteSize

/-- The directory above another one. Nothing is above the top of all absolute locations. -/
def up (names : List String) : List String :=
  if names = ["/"] then names
  else if names.all (· == "..") then names ++ [".."]
  else names.dropLast

/-- Follows parts of a location from a directory on, each of which has to lead to a directory:
the names of the last one. -/
def walk (tree : FileTree) (here : List String) : List String → Except Fault (List String)
  | [] => .ok here
  | part :: rest =>
    if Location.isIdle part then tree.walk here rest
    else if part = ".." then tree.walk (up here) rest
    else if isTooLong part then .error .nameTooLong
    else
      match tree.find? (here ++ [part]) with
      | none => .error .missing
      | some (.file ..) => .error .notDirectory
      | some (.directory _) => tree.walk (here ++ [part]) rest

/-- Where a location leads. -/
structure Place where
  /-- The names of a directory. -/
  directory : List String
  /-- The name of an entry of it, unless the directory itself is meant. -/
  entry : Option String
  deriving DecidableEq

/-- The names of a place. -/
def Place.names (place : Place) : List String :=
  place.directory ++ place.entry.toList

/-- The place that the last part of a location means in the directory before it. -/
def Place.ofLink (directory : List String) (link : String) : Place :=
  if link = "." then ⟨directory, none⟩
  else if link = ".." then ⟨up directory, none⟩
  else ⟨directory, some link⟩

/-- The most bytes of a path text. -/
def maxPathSize : Nat := 4095

/-- The place to which a location leads. All parts but the last have to lead to
directories. -/
def locate (tree : FileTree) (location : Location) : Except Fault Place :=
  if location.text = "" then .error .missing
  else if location.text.toList.contains '\x00' then .error .nulCharacter
  else if maxPathSize < location.text.utf8ByteSize then .error .nameTooLong
  else
    match location.links.getLast? with
    | none => .ok ⟨location.start, none⟩
    | some link =>
      match tree.walk location.start location.links.dropLast with
      | .error fault => .error fault
      | .ok directory => .ok (.ofLink directory link)

/-- What stands at a place. A directory that is meant itself has been reached. -/
def look (tree : FileTree) (place : Place) : Except Fault (Option Node) :=
  match place.entry with
  | none => .ok (some ((tree.find? place.directory).getD (.directory directoryMode)))
  | some name =>
    if isTooLong name then .error .nameTooLong else .ok (tree.find? place.names)

/-! ### Questions -/

/-- What stands at a location, which must exist, and its names. -/
def resolve (tree : FileTree) (location : Location) : Except Fault (List String × Node) :=
  match tree.locate location with
  | .error fault => .error fault
  | .ok place =>
    match tree.look place with
    | .error fault => .error fault
    | .ok none => .error .missing
    | .ok (some (.directory mode)) => .ok (place.names, .directory mode)
    | .ok (some (.file content mode)) =>
      if location.endsInSlash then .error .notDirectory
      else .ok (place.names, .file content mode)

/-- What stands at a path, which must exist. -/
def status (tree : FileTree) (path : String) : Except Fault Node :=
  (tree.resolve (.ofText path)).map Prod.snd

/-- Whether a directory stands at a location. -/
def isDirectory (tree : FileTree) (location : Location) : Bool :=
  match tree.resolve location with
  | .ok (_, .directory _) => true
  | _ => false

/-- Whether anything stands at a path. -/
def isPresent (tree : FileTree) (path : String) : Bool :=
  (tree.status path).toBool

/-- Whether a regular file stands at a path. -/
def isFile (tree : FileTree) (path : String) : Bool :=
  match tree.status path with
  | .ok (.file ..) => true
  | _ => false

/-- Whether a regular file stands at each of some paths. -/
def allPresent (tree : FileTree) (paths : List String) : Bool :=
  paths.all tree.isFile

/-- The bytes of the file at a path. -/
def read (tree : FileTree) (path : String) : Except Fault ByteArray :=
  match tree.status path with
  | .error fault => .error fault
  | .ok (.directory _) => .error .isDirectory
  | .ok (.file content _) => .ok content

/-! ### Lookups after a change -/

theorem lookup_filter_ne {names other : List String} (h : other ≠ names)
    (entries : List (List String × Node)) :
    (entries.filter fun entry => entry.1 != names).lookup other = entries.lookup other := by
  induction entries with
  | nil => rfl
  | cons entry rest ih =>
    obtain ⟨key, node⟩ := entry
    by_cases hk : key = names
    · subst hk
      have : (other == key) = false := by simpa using h
      simpa [List.lookup_cons, this] using ih
    · have : (key != names) = true := by simpa using hk
      simp only [this, List.filter_cons_of_pos, List.lookup_cons]
      cases other == key <;> simp [ih]

theorem find?_put_self (tree : FileTree) (names : List String) (node : Node) :
    (tree.put names node).find? names = some node := by
  simp [find?, put]

theorem find?_put_of_ne (tree : FileTree) {names other : List String} (node : Node)
    (h : other ≠ names) : (tree.put names node).find? other = tree.find? other := by
  have : (other == names) = false := by simpa using h
  simp only [find?, put, List.lookup_cons, this, lookup_filter_ne h]

theorem find?_erase_of_ne (tree : FileTree) {names other : List String}
    (h : other ≠ names) : (tree.erase names).find? other = tree.find? other := by
  simp only [find?, erase, lookup_filter_ne h]

theorem find?_erase_self (tree : FileTree) (names : List String) :
    (tree.erase names).find? names = none := by
  rw [find?, erase, List.lookup_eq_none_iff]
  intro entry h
  have hne : (entry.1 != names) = true := (List.mem_filter.1 h).2
  grind

end FileTree

end RemoteGateway
