import RemoteGateway.Document.KeyPath
import RemoteGateway.Fault
import RemoteGateway.Settings.Basic

/-!
# Reading the settings

Settings are read key by key in a fixed order, and the first key whose value is refused is the
one that is reported. A key without a text takes its default; secrets have none. Only the
text of a value counts, so a number or boolean and the text that writes it mean the same.
-/

namespace RemoteGateway

open Document (Value)

/-! ### Single values -/

/-- Reads a choice by its name. -/
def readChoice {α : Type} (choices : List (String × α)) (text : String) : Except Invalid α :=
  match choices.lookup text with
  | some value => .ok value
  | none => .error (.notAmong (choices.map Prod.fst) text)

/-- Reads where the certificate comes from. -/
def CertificateSource.ofText : String → Except Invalid CertificateSource :=
  readChoice [("selfsigned", .selfSigned), ("letsencrypt", .letsEncrypt)]

/-- Reads a TLS profile. -/
def TlsProfile.ofText : String → Except Invalid TlsProfile :=
  readChoice [("modern", .modern), ("intermediate", .intermediate)]

/-- The largest port. -/
def maxPort : Nat := 65535

/-- The largest group id. -/
def maxGroup : Nat := 4294967295

/-- Reads a port. -/
def readPort (text : String) : Except Invalid Nat :=
  (Text.readNatural maxPort text.toList).mapError .numeral

/-- Reads a boolean. -/
def readBoolean (text : String) : Except Invalid Bool :=
  if text = "true" then .ok true
  else if text = "false" then .ok false
  else .error .notBoolean

/-- Reads the id of a group. -/
def readGroup (text : String) : Except Invalid Nat :=
  (Text.readNatural maxGroup text.toList).mapError fun _ => .groupId text

/-- A domain without scheme and trailing slashes. -/
def dropScheme (domain : List Char) : List Char :=
  let https := "https://".toList
  let http := "http://".toList
  let rest :=
    if https.isPrefixOf domain then domain.drop https.length
    else if http.isPrefixOf domain then domain.drop http.length
    else domain
  Text.dropEndWhile (· == '/') rest

/-- A domain as it is configured, reduced to the bare name; an empty name is none. -/
def cleanDomain (text : String) : Option String :=
  let domain := Site.normalize (String.ofList (dropScheme (Text.trim text.toList)))
  if domain = "" then none else some domain

/-- The characters of a host label. -/
def isHostChar (c : Char) : Bool :=
  c.isAlphanum || c == '-' || c == '.'

/-- Reads the label of a subdomain; surrounding blanks and trailing dots are dropped. -/
def readLabel (text : String) : Except Invalid String :=
  let label := Text.dropEndWhile (· == '.') (Text.trim text.toList)
  if label ≠ [] ∧ label.all isHostChar then .ok (String.ofList label)
  else .error (.hostLabel (String.ofList label))

/-! ### Keys of the document -/

/-- The text at a key, read; the key is named when its text is refused. -/
def readKey {α : Type} (document : Value) (key default : String)
    (read : String → Except Invalid α) : Except ConfigFault α :=
  (read (document.getTextD key default)).mapError (.invalid key)

/-- The text at a key that has no default. -/
def requireKey (document : Value) (key : String) : Except ConfigFault String :=
  match document.getText? key with
  | some text => .ok text
  | none => .error (.missing key)

/-- Reads how the application is reached; only the key that belongs to the mode is read. -/
def readExposure (document : Value) : Except ConfigFault Site.Exposure :=
  match document.getTextD "nginx.url_mode" "path" with
  | "path" =>
    (readKey document "nginx.base_path" Site.applicationPath fun text =>
      (Site.BasePath.parse text).mapError .basePath).map .path
  | "root" => .ok .root
  | "subdomain" =>
    (readKey document "nginx.subdomain" "guacamole" readLabel).map .subdomain
  | other =>
    .error (.invalid "nginx.url_mode" (.notAmong ["path", "root", "subdomain"] other))

/-- Reads the group of the runtime's socket, if it is configured. -/
def readRuntimeGroup (document : Value) : Except ConfigFault (Option Nat) :=
  match document.getText? "docker.gid" with
  | none => .ok none
  | some text => ((readGroup text).mapError (.invalid "docker.gid")).map some

/-- Reads the image of a component: a tag is checked if there is one. -/
def readImage (document : Value) (component : Component) : Except ConfigFault Image :=
  let key := "versions." ++ component.key
  let tag := document.getText? key
  match tag.filter fun tag => !isImageTag tag.toList with
  | some tag => .error (.invalid key (.imageTag tag))
  | none =>
    .ok ⟨document.getTextD ("images." ++ component.key) component.defaultRepository, tag⟩

/-- Reads the images of all components. -/
def readImages (document : Value) : Except ConfigFault Images := do
  let postgres ← readImage document .postgres
  let guacd ← readImage document .guacd
  let guacamole ← readImage document .guacamole
  let broker ← readImage document .broker
  let nginx ← readImage document .nginx
  let certbot ← readImage document .certbot
  return { postgres, guacd, guacamole, broker, nginx, certbot }

/-- Reads the credentials for the vault: role and secret when there is a role, a token
otherwise. -/
def readVaultAuth (document : Value) : Except ConfigFault VaultAuth :=
  match document.getText? "vault.role_id", document.getText? "vault.secret_id" with
  | some roleId, some secretId => .ok (.appRole roleId secretId)
  | some _, none => .error (.missing "vault.secret_id")
  | none, _ => (requireKey document "vault.token").map .token

/-- Reads the vault, if it is enabled; otherwise nothing else of it is looked at. -/
def readVault (document : Value) : Except ConfigFault (Option VaultSettings) := do
  let enabled ← readKey document "vault.enabled" "false" readBoolean
  if enabled then
    let auth ← readVaultAuth document
    let address ← requireKey document "vault.addr"
    return some
      { address, auth
        mount := document.getTextD "vault.mount" "secret"
        path := document.getTextD "vault.path" "guacamole/broker" }
  else return none

/-- Reads the settings from a document. -/
def Settings.ofDocument (document : Value) : Except ConfigFault Settings := do
  let source ← readKey document "ssl.mode" "selfsigned" CertificateSource.ofText
  let domain := (document.getText? "ssl.domain").bind cleanDomain
  if source = .letsEncrypt ∧ domain = none then
    throw (.missing "ssl.domain")
  let exposure ← readExposure document
  let group ← readRuntimeGroup document
  let databasePort ← readKey document "database.port" "5432" readPort
  let databasePassword ← requireKey document "database.password"
  let adminPassword ← requireKey document "guacamole.admin_password"
  let profile ← readKey document "ssl.profile" "intermediate" TlsProfile.ofText
  let staging ← readKey document "ssl.staging" "false" readBoolean
  let httpPort ← readKey document "nginx.http_port" "80" readPort
  let httpsPort ← readKey document "nginx.https_port" "443" readPort
  let images ← readImages document
  let vault ← readVault document
  return {
    database :=
      { host := document.getTextD "database.host" "postgres"
        port := databasePort
        name := document.getTextD "database.name" "guacamole"
        user := document.getTextD "database.user" "guacamole"
        password := databasePassword }
    admin :=
      { user := document.getTextD "guacamole.admin_user" "guacadmin"
        password := adminPassword }
    broker :=
      { apiKey := document.getText? "broker.api_key"
        logLevel := document.getTextD "broker.log_level" "INFO" }
    tls :=
      { source, profile, domain
        email := document.getText? "ssl.email"
        resolver := document.getTextD "ssl.resolver" "1.1.1.1 8.8.8.8"
        staging }
    proxy := { exposure, httpPort, httpsPort }
    images, vault
    runtime :=
      { socket := document.getTextD "docker.socket" "/var/run/docker.sock", group } }

end RemoteGateway
