import RemoteGateway.Deployment.Layout
import RemoteGateway.Host.Tools

/-!
# Files that are made once

The certificate pair of the host and the schema of the database are made when they are not
there yet, and left alone from then on. A pair of which one half is gone is made anew as a
whole, so the two files always belong together.
-/

namespace RemoteGateway.Deployment

/-! ### The certificate pair -/

/-- The directory of the pair below an output directory. -/
def pairDirectory (directory : String) : String :=
  FileTree.join directory localTlsDirectory

def certificatePath (directory : String) : String :=
  FileTree.join (pairDirectory directory) localCertificateFile

def keyPath (directory : String) : String :=
  FileTree.join (pairDirectory directory) localKeyFile

/-- Everyone may read a certificate, and only its owner a key. -/
def certificateMode : Nat := 0o644
def keyMode : Nat := 0o600

/-- Issues a pair under the next serial number. -/
def issue (host : Host) (request : Certificate.Request) : Activity Certificate.Pair := fun run =>
  match host.issuer run.issued request with
  | some pair => (.ok pair, { run with issued := run.issued + 1 })
  | none => (.error (.certificate .unavailable), run)

/-- The steps that write a pair below a directory. -/
def pairSteps (directory : String) (pair : Certificate.Pair) : List FileTree.Step :=
  FileTree.writePrivate (certificatePath directory) pair.certificateText.toUTF8 certificateMode ++
    FileTree.writePrivate (keyPath directory) pair.keyText.toUTF8 keyMode

/-- Makes a certificate pair below a directory unless both its files are there, and tells
whether one was made. -/
def ensureCertificate (host : Host) (settings : Settings) (directory : String) :
    Activity Bool := do
  let tree := (← get).tree
  if tree.allPresent [certificatePath directory, keyPath directory] then return false
  let request ← Activity.ofExcept ((Certificate.Request.ofSettings settings).mapError .certificate)
  let pair ← issue host request
  Activity.perform (pairSteps directory pair)
  return true

/-! ### The schema -/

def schemaPath (directory : String) : String :=
  FileTree.join directory schemaFile

/-- The script in the application's image that prints the schema. -/
def schemaScript : String := "/opt/guacamole/bin/initdb.sh"

/-- The call that prints the schema that belongs to an image of the application. -/
def schemaCall (image : String) : List String :=
  ["docker", "run", "--rm", image, schemaScript, "--postgresql"]

/-- Makes the schema of the database below a directory unless it is there, and tells whether
it was made. -/
def ensureSchema (host : Host) (settings : Settings) (directory : String) : Activity Bool := do
  if (← get).tree.isFile (schemaPath directory) then return false
  let some image := (settings.images.get .guacamole).reference?
    | throw (.generation (.missingVersion .guacamole))
  let response ← host.execute (schemaCall image)
  let schema := Text.decodeLossy response.output
  Activity.perform (FileTree.writeFile (schemaPath directory) schema.toUTF8)
  return true

end RemoteGateway.Deployment
