import RemoteGateway.Command
import RemoteGateway.Deployment.Artifacts
import RemoteGateway.Deployment.Provision

/-!
# Generating a deployment

A generation first **prepares** the artifacts: it opens the document, asks for what the document
does not say, reads the settings and generates all texts. A preparation changes nothing but the
document. Then the artifacts are either shown, or **deployed**: they are written, the files that
are made once are made sure of, and images are pulled if that was asked for.

A preview and a deployment share the preparation, so a preview shows what a deployment writes.
-/

namespace RemoteGateway.Program

open Document (Store)

/-- The settings and the artifacts of a deployment. -/
structure Prepared where
  settings : Settings
  artifacts : Deployment.Artifacts

/-- Asks for what the document does not say. -/
def converse (store : Store) : Activity Store := fun run =>
  let (result, session) := Prompt.Session.collect ⟨store, run.tree, run.answers, ""⟩
  let run : Run :=
    { run with
      tree := session.tree
      answers := session.answers
      notices := run.notices ++ [.dialogue session.shown] }
  match result with
  | .error fault => (.error fault, run)
  | .ok [] => (.ok session.store, run)
  | .ok keys => (.ok session.store, { run with notices := run.notices ++ [.saved keys store.path] })

/-- Opens the document at a path. -/
def openStore (path : String) : Activity Store :=
  Activity.withTree fun tree => (Store.load path tree, tree)

theorem openStore_eq (path : String) (run : Run) :
    openStore path run = (Store.load path run.tree, run) := rfl

/-- The settings with the group that owns the runtime's socket, which is looked up when it is
not configured. -/
def withGroup (host : Host) (settings : Settings) : Activity Settings :=
  match settings.runtime.group with
  | some _ => return settings
  | none => do
    let group ← host.groupId runtimeGroup
    return { settings with runtime := { settings.runtime with group := some group } }

/-- Generates all texts for the document at a path. -/
def prepare (host : Host) (config : String) (interactive : Bool) : Activity Prepared := do
  let store ← openStore config
  let store ← if interactive then converse store else pure store
  let settings ← Activity.ofExcept ((Settings.ofDocument store.document).mapError .config)
  let settings ← withGroup host settings
  Activity.notify (.generating settings.tls.source settings.proxy.exposure.mode)
  let artifacts ← Activity.ofExcept (Deployment.synthesize settings)
  return ⟨settings, artifacts⟩

/-- Shows all texts. -/
def preview (prepared : Prepared) : Activity Unit :=
  Activity.notifyAll (prepared.artifacts.files.map fun (path, content) => .preview path content)

/-- Writes all texts below a directory, and makes sure of the files that are made once. -/
def deploy (host : Host) (prepared : Prepared) (directory : String) (pull : Bool) :
    Activity Unit := do
  let ⟨settings, artifacts⟩ := prepared
  let written ← Activity.onTree (artifacts.writeTo directory)
  Activity.notifyAll (written.map .wrote)
  if settings.tls.source = .selfSigned then
    if ← Deployment.ensureCertificate host settings directory then
      Activity.notify (.certified (Deployment.pairDirectory directory))
  if ← Deployment.ensureSchema host settings directory then
    Activity.notify (.wrote (Deployment.schemaPath directory))
  if pull then
    host.pullImages directory
    Activity.notify .pulled
  Activity.notify (.complete settings.publicUrl settings.tls.source Deployment.bootstrapScript)

/-- Generates a deployment from the document at a path. The external programs are looked for
first, unless nothing is to be written. -/
def generate (host : Host) (config : String) (generation : Generation) : Activity Unit :=
  match generation.delivery with
  | .preview => do
    let prepared ← prepare host config generation.interactive
    preview prepared
  | .write pull => do
    host.ensureTools requiredTools
    let prepared ← prepare host config generation.interactive
    deploy host prepared generation.output pull

end RemoteGateway.Program
