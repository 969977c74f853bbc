import RemoteGateway.FileTree.Basic
import RemoteGateway.Settings.Image
import RemoteGateway.Site.BasePath
import RemoteGateway.Text.Numeral

/-!
# Faults

Everything that can go wrong is one value of `Fault`, which says what went wrong and where;
the wording is in the `message` functions alone.
-/

namespace RemoteGateway

/-- Why bytes or a file could not be read as text. -/
inductive ReadFault where
  | file (fault : FileTree.Fault)
  /-- The bytes are not well-formed UTF-8. -/
  | garbled
  deriving DecidableEq

/-- Why a configuration document could not be opened. -/
inductive DocumentFault where
  | read (fault : ReadFault)
  /-- The text writes no value. -/
  | malformed
  /-- The text writes a value that is no object. -/
  | notObject
  deriving DecidableEq

/-- What is wrong with a configured value. -/
inductive Invalid where
  /-- The value is none of the choices. -/
  | notAmong (choices : List String) (value : String)
  | basePath (fault : Site.BasePath.Fault)
  | hostLabel (label : String)
  | groupId (value : String)
  | numeral (fault : Text.NumeralFault)
  | notBoolean
  | imageTag (tag : String)
  /-- A key path has an empty key. -/
  | keyPath
  /-- A document that should be created is there already. -/
  | documentExists
  deriving DecidableEq

/-- What is wrong with the configuration. -/
inductive ConfigFault where
  | unreadable (path : String) (fault : DocumentFault)
  | missing (key : String)
  | invalid (key : String) (reason : Invalid)
  deriving DecidableEq

/-- Why a template could not be filled in. -/
inductive TemplateFault where
  | unknownTemplate (name : String)
  | missingVariable (template slot : String)
  | contextNotObject
  deriving DecidableEq

/-- Why an artifact could not be generated. -/
inductive GenerationFault where
  | missingVersion (component : Component)
  | template (fault : TemplateFault)
  deriving DecidableEq

/-- Why an external program did not do its work. -/
inductive CommandFault where
  /-- The program could not be started. -/
  | start (fault : FileTree.Fault)
  /-- A word of the call holds a character that ends every word of the host. -/
  | nulCharacter
  /-- The program failed, with what it reported. -/
  | exit (report : String)
  deriving DecidableEq

/-- Why a host has no certificate for a site. -/
inductive CertificateFault where
  /-- A name that cannot stand in a certificate. -/
  | notAscii (name : String)
  /-- The host cannot issue certificates. -/
  | unavailable
  deriving DecidableEq

/-- Everything that can go wrong. -/
inductive Fault where
  | missingTool (name : String)
  | config (fault : ConfigFault)
  | generation (fault : GenerationFault)
  | command (call : List String) (fault : CommandFault)
  | io (fault : ReadFault)
  | certificate (fault : CertificateFault)
  deriving DecidableEq

/-! ### Wording -/

/-- Names as alternatives: `a or b`, `a, b or c`. -/
def alternatives : List String → String
  | [] => ""
  | [a] => a
  | [a, b] => a ++ " or " ++ b
  | a :: rest => a ++ ", " ++ alternatives rest

def ReadFault.message : ReadFault → String
  | file fault => fault.message
  | garbled => "stream did not contain valid UTF-8"

/-- What is said about a document that cannot be parsed. -/
def Document.malformedWording : String := "not a well-formed document"

def DocumentFault.message : DocumentFault → String
  | read fault => fault.message
  | malformed => Document.malformedWording
  | notObject => "top level is not an object"

def Invalid.message : Invalid → String
  | notAmong choices value => "expected " ++ alternatives choices ++ ", got '" ++ value ++ "'"
  | basePath fault => fault.message
  | hostLabel label => "'" ++ label ++ "' is not a host label"
  | groupId value => "'" ++ value ++ "' is not a group id"
  | numeral fault => fault.message
  | notBoolean => "provided string was not `true` or `false`"
  | imageTag tag => "'" ++ tag ++ "' is not a valid image tag"
  | keyPath => "key paths are dot-separated, non-empty segments"
  | documentExists => "configuration document already exists"

def ConfigFault.message : ConfigFault → String
  | unreadable path fault =>
    "Configuration document unreadable at " ++ path ++ ": " ++ fault.message
  | missing key => "Missing required configuration: " ++ key
  | invalid key reason => "Invalid value for " ++ key ++ ": " ++ reason.message

def TemplateFault.message : TemplateFault → String
  | unknownTemplate name => "Template '" ++ name ++ "' not found"
  | missingVariable template slot =>
    "Failed to render '" ++ template ++ "': Variable `" ++ slot ++
      "` not found in context while rendering '" ++ template ++ "'"
  | contextNotObject =>
    "Creating a Context from a Value/Serialize requires it being a JSON object"

def GenerationFault.message : GenerationFault → String
  | missingVersion component =>
    "No pinned version for " ++ component.key ++ " (set versions." ++ component.key ++ ")"
  | template fault => "Template rendering failed: " ++ fault.message

def CommandFault.message : CommandFault → String
  | start fault => fault.message
  | nulCharacter => "nul byte found in provided data"
  | exit report => report

def CertificateFault.message : CertificateFault → String
  | notAscii name => "Invalid IA5String: '" ++ name ++ "'"
  | unavailable => "certificates cannot be issued on this host"

def Fault.message : Fault → String
  | missingTool name =>
    "Required tool not found: " ++ name ++ " (install it and make sure it is on PATH)"
  | config fault => "Configuration error: " ++ fault.message
  | generation fault => "Artifact generation failed: " ++ fault.message
  | command call fault =>
    "External command `" ++ String.intercalate " " call ++ "` failed: " ++ fault.message
  | io fault => "IO error: " ++ fault.message
  | certificate fault => "Certificate generation failed: " ++ fault.message

end RemoteGateway
