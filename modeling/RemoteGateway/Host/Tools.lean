import RemoteGateway.Deployment.Layout
import RemoteGateway.Host.Activity
import RemoteGateway.Settings.Reader
import RemoteGateway.Text.Utf8

/-!
# External programs

A program that is not there cannot be started, and asking for it leaves no trace. One that is
there leaves a call whether it succeeds or not.
-/

namespace RemoteGateway

/-- The programs without which nothing can be deployed. -/
def requiredTools : List String := ["docker"]

/-- The group whose members may use the container runtime. -/
def runtimeGroup : String := "docker"

namespace Host

/-- Whether a call has a word that cannot be handed to a program. -/
def hasNul (call : List String) : Bool :=
  call.any fun word => word.toList.contains '\x00'

/-- Calls a program, if it is there and can be given all words. -/
def call (host : Host) (call : List String) : Activity (Option Response) := fun run =>
  match (host.respond call).filter fun _ => !hasNul call with
  | some response => (.ok (some response), { run with calls := run.calls ++ [call] })
  | none => (.ok none, run)

/-- Why a program did not start. -/
def startFault (call : List String) : CommandFault :=
  let program := FileTree.Location.ofText (call.head?.getD "")
  if hasNul call then .nulCharacter
  else if program.parts.head?.any FileTree.isTooLong then .start .nameTooLong
  else .start .missing

/-- Calls a program that has to succeed. -/
def execute (host : Host) (call : List String) : Activity Response := do
  match ← host.call call with
  | none => throw (.command call (startFault call))
  | some response =>
    if response.success then return response
    else
      let report := Text.trimEnd (Text.decodeLossy response.errors).toList
      throw (.command call (.exit (String.ofList report)))

/-- Whether a program is there and tells its version. -/
def isAvailable (host : Host) (tool : String) : Activity Bool := do
  return ((← host.call [tool, "--version"]).map Response.success).getD false

/-- Makes sure of some programs; the first that is not available is reported. -/
def ensureTools (host : Host) : List String → Activity Unit
  | [] => return
  | tool :: rest => do
    if ← host.isAvailable tool then host.ensureTools rest
    else throw (.missingTool tool)

/-! ### Groups -/

/-- The id in an entry `name:password:id:members` of the group database; only the first line
counts. -/
def groupId? (entry : String) : Option Nat :=
  let line := entry.toList.takeWhile (· ≠ '\n')
  ((line.splitOn ':')[2]?).bind fun field =>
    (Text.readNatural maxGroup (Text.trim field)).toOption

/-- Looks up the id of a group. Whatever goes wrong leaves the configured group missing. -/
def groupId (host : Host) (group : String) : Activity Nat := do
  let response ← host.call ["getent", "group", group]
  match (response.filter Response.success).bind fun r => groupId? (Text.decodeLossy r.output) with
  | some id => return id
  | none => throw (.config (.missing "docker.gid"))

/-! ### Images -/

/-- Pulls the images that the compose file below a directory names. -/
def pullImages (host : Host) (directory : String) : Activity Unit := do
  let file := FileTree.join directory Deployment.composeFile
  let _ ← host.execute ["docker", "compose", "-f", file, "pull"]

end Host

end RemoteGateway
