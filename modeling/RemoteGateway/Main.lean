import RemoteGateway.FileTree.Changes
import RemoteGateway.Program.Execution

/-!
# The command line

The program works on a picture of the files that its command may touch. They are read before
the command is executed, and what the command changed in the picture is written back after it.
This host starts no external programs and issues no certificates.
-/

namespace RemoteGateway

/-- The host of the command line. -/
def bareHost : Host where
  respond _ := none
  issuer _ _ := none

/-- The paths that an invocation looks at. -/
def CommandLine.Invocation.paths (invocation : CommandLine.Invocation) : List String :=
  invocation.config ::
    match invocation.command with
    | .generate generation =>
      [Deployment.composeFile, Deployment.proxyMainFile, Deployment.virtualHostFile,
        Deployment.bootstrapScript, Deployment.schemaFile].map (FileTree.join generation.output) ++
        [Deployment.certificatePath generation.output, Deployment.keyPath generation.output]
    | _ => []

/-- Whether an invocation asks for missing values. -/
def CommandLine.Invocation.asks (invocation : CommandLine.Invocation) : Bool :=
  match invocation.command with
  | .generate generation => generation.interactive
  | _ => false

/-- What stands at a path. The mode bits of files are not known, and taken to be the usual
ones. -/
def inspect (path : String) : IO (Option FileTree.Node) := do
  try
    return some (.file (← IO.FS.readBinFile path) 0o644)
  catch
    | .noFileOrDirectory .. => return none
    | _ => return some (.directory FileTree.directoryMode)

/-- Whether a directory is known to stand at the end of some names. The directories from which
locations start are there. -/
def isKnownDirectory (tree : FileTree) (names : List String) : Bool :=
  match tree.find? names with
  | some (.directory _) => true
  | some (.file ..) => false
  | none => names.all fun name => name == ".." || name == "/"

/-- Adds to a tree what stands on the way along parts of a location, below a directory. The way
is followed as if all the directories on it were there, because they may be made later. -/
def loadParts (tree : FileTree) (here : List String) : List String → IO FileTree
  | [] => return tree
  | part :: rest => do
    if FileTree.Location.isIdle part then loadParts tree here rest
    else if part = ".." then loadParts tree (FileTree.up here) rest
    else
      let names := here ++ [part]
      let found ←
        if isKnownDirectory tree here then inspect (FileTree.pathText names) else pure none
      loadParts (found.elim tree (tree.put names)) names rest

/-- The rights that some mode bits stand for. -/
def accessRights (mode : Nat) : IO.FileRight :=
  let rights (bits : Nat) : IO.AccessRight := ⟨bits.testBit 2, bits.testBit 1, bits.testBit 0⟩
  ⟨rights (mode / 64), rights (mode / 8), rights mode⟩

/-- The mode bits of a file. -/
def modeOf? : Option FileTree.Node → Option Nat
  | some (.file _ mode) => some mode
  | _ => none

/-- Writes a file, which holds no content before it has its mode bits. -/
def saveFile (before : FileTree) (names : List String) (content : ByteArray) (mode : Nat) :
    IO Unit := do
  let path := FileTree.pathText names
  if modeOf? (before.find? names) ≠ some mode then
    IO.FS.writeBinFile path .empty
    IO.setAccessRights path (accessRights mode)
  IO.FS.writeBinFile path content

/-- Makes the files what they are in a later state of a tree. -/
def saveChanges (before after : FileTree) : IO Unit := do
  for names in after.removedSince before do
    IO.FS.removeFile (FileTree.pathText names)
  for names in after.newDirectories before do
    IO.FS.createDirAll (FileTree.pathText names)
  for (names, node) in after.changedSince before do
    match node with
    | .file content mode => saveFile before names content mode
    | .directory _ => pure ()

/-- Executes an invocation of the program: what it shows, and how it ends. -/
def executeOnFiles (environment : Option String) (arguments : List String) :
    IO (Program.Ending × Run) := do
  let mut tree := FileTree.empty
  let mut answers := []
  if let .ok invocation := CommandLine.Invocation.ofArguments environment arguments then
    for path in invocation.paths do
      let location := FileTree.Location.ofText path
      tree ← loadParts tree location.start location.parts
    if invocation.asks then
      answers := Prompt.linesOf (← (← IO.getStdin).readBinToEnd)
  let (ending, after) := Program.execute bareHost environment arguments (Run.start tree answers)
  saveChanges tree after.tree
  return (ending, after)

end RemoteGateway

open RemoteGateway in
/-- Runs the program with the words of its command line. -/
def main (arguments : List String) : IO UInt32 := do
  let environment ← IO.getEnv CommandLine.configVariable
  let (ending, after) ← executeOnFiles environment arguments
  IO.print after.shown
  if let some complaint := ending.complaint? then
    IO.eprintln complaint
  return ending.status.toUInt32
