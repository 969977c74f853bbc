import RemoteGateway.Compose.Build
import RemoteGateway.FileTree.Step
import RemoteGateway.Template.Named

/-!
# The artifacts of a deployment

The settings determine four texts: the compose file, the two files of the proxy, and, when a
certificate has to be requested, the script that does it. `synthesize` generates all of them
or none. `writeTo` writes them below a directory in a fixed order, and removes a script that
an earlier run left behind when there is none now.
-/

namespace RemoteGateway.Deployment

/-- The texts of a deployment. -/
structure Artifacts where
  compose : String
  proxyMain : String
  virtualHost : String
  /-- Present when a certificate has to be requested. -/
  bootstrap : Option String
  deriving DecidableEq

/-! ### Generating -/

/-- The compose file. -/
def compose (settings : Settings) : Except Fault String :=
  (Compose.build settings).map Compose.Topology.write

/-- The main configuration of the proxy. -/
def proxyMain (settings : Settings) : Except Fault String :=
  (Template.proxyMain.render (Proxy.mainContext settings.tls.profile)).mapError
    fun fault => .generation (.template fault)

/-- The virtual host of the proxy. -/
def virtualHost (settings : Settings) : Except Fault String := do
  let host ← (Proxy.VirtualHost.ofSettings settings).mapError .config
  (Template.virtualHost.render host.context).mapError
    fun fault => .generation (.template fault)

/-- The script that requests the first certificate, if one has to be requested. -/
def bootstrap (settings : Settings) : Except Fault (Option String) :=
  match settings.tls.source with
  | .selfSigned => .ok none
  | .letsEncrypt =>
    match settings.siteNames with
    | none => .error (.config (.missing "ssl.domain"))
    | some names =>
      ((Template.bootstrap.render (Certificate.bootstrapContext settings names)).mapError
        fun fault => .generation (.template fault)).map some

/-- All artifacts for some settings. -/
def synthesize (settings : Settings) : Except Fault Artifacts := do
  let compose ← compose settings
  let proxyMain ← proxyMain settings
  let virtualHost ← virtualHost settings
  let bootstrap ← bootstrap settings
  return { compose, proxyMain, virtualHost, bootstrap }

/-! ### Writing -/

namespace Artifacts

/-- The paths of the artifacts below the output directory, and their texts. -/
def files (artifacts : Artifacts) : List (String × String) :=
  [(composeFile, artifacts.compose),
    (proxyMainFile, artifacts.proxyMain),
    (virtualHostFile, artifacts.virtualHost)] ++
    artifacts.bootstrap.toList.map fun script => (bootstrapScript, script)

/-- The steps that write all artifacts below a directory. -/
def steps (artifacts : Artifacts) (directory : String) : List FileTree.Step :=
  artifacts.files.flatMap fun (path, text) =>
    FileTree.writeFile (FileTree.join directory path) text.toUTF8

/-- The paths that are written below a directory. -/
def written (artifacts : Artifacts) (directory : String) : List String :=
  artifacts.files.map fun (path, _) => FileTree.join directory path

/-- What is done about the script once the artifacts are written: it can be run, or is no
longer there. -/
def finishScript (artifacts : Artifacts) (directory : String) (tree : FileTree) :
    Except FileTree.Fault Unit × FileTree :=
  let script := FileTree.join directory bootstrapScript
  if artifacts.bootstrap.isSome then tree.perform (FileTree.makeExecutable script)
  else
    match tree.removeStale script with
    | (.ok _, tree) => (.ok (), tree)
    | (.error fault, tree) => (.error fault, tree)

/-- Writes all artifacts below a directory and gives their paths. -/
def writeTo (artifacts : Artifacts) (directory : String) (tree : FileTree) :
    Except FileTree.Fault (List String) × FileTree :=
  match tree.perform (artifacts.steps directory) with
  | (.error fault, tree) => (.error fault, tree)
  | (.ok (), tree) =>
    match artifacts.finishScript directory tree with
    | (.error fault, tree) => (.error fault, tree)
    | (.ok (), tree) => (.ok (artifacts.written directory), tree)

end Artifacts

end RemoteGateway.Deployment
