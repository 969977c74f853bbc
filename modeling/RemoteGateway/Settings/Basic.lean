import RemoteGateway.Settings.Image
import RemoteGateway.Site.Exposure

/-!
# Settings

The settings are everything that the artifacts of a deployment depend on, read once from the
configuration document and validated. They determine the names of the site and the URL at
which users reach the application.
-/

namespace RemoteGateway

/-- Where the certificate of the site comes from. -/
inductive CertificateSource where
  /-- A pair generated on this host. -/
  | selfSigned
  /-- A certificate requested from Let's Encrypt. -/
  | letsEncrypt
  deriving DecidableEq

/-- The name of a source in the document and in messages. -/
def CertificateSource.name : CertificateSource → String
  | selfSigned => "selfsigned"
  | letsEncrypt => "letsencrypt"

/-- Which TLS protocols and ciphers the proxy offers. -/
inductive TlsProfile where
  | modern
  | intermediate
  deriving DecidableEq

/-- The name of a profile in the document and in the proxy's configuration. -/
def TlsProfile.name : TlsProfile → String
  | modern => "modern"
  | intermediate => "intermediate"

/-- The database that the application and the broker use. -/
structure DatabaseSettings where
  host : String
  port : Nat
  name : String
  user : String
  password : String
  deriving DecidableEq

/-- The administrator of the application. -/
structure AdminSettings where
  user : String
  password : String
  deriving DecidableEq

/-- The session broker. -/
structure BrokerSettings where
  apiKey : Option String
  logLevel : String
  deriving DecidableEq

/-- Certificate and TLS. The domain has no scheme and no leading `www.`. -/
structure TlsSettings where
  source : CertificateSource
  profile : TlsProfile
  domain : Option String
  email : Option String
  resolver : String
  staging : Bool
  deriving DecidableEq

/-- How the proxy publishes the application. -/
structure ProxySettings where
  exposure : Site.Exposure
  httpPort : Nat
  httpsPort : Nat
  deriving DecidableEq

/-- How the broker proves itself to the vault. -/
inductive VaultAuth where
  | token (token : String)
  | appRole (roleId secretId : String)
  deriving DecidableEq

/-- The vault that the broker takes secrets from. -/
structure VaultSettings where
  address : String
  auth : VaultAuth
  mount : String
  path : String
  deriving DecidableEq

/-- The container runtime: its socket, and the group that owns the socket if it is known. -/
structure RuntimeSettings where
  socket : String
  group : Option Nat
  deriving DecidableEq

/-- Everything that the artifacts depend on. A vault is present when it is enabled. -/
structure Settings where
  database : DatabaseSettings
  admin : AdminSettings
  broker : BrokerSettings
  tls : TlsSettings
  proxy : ProxySettings
  images : Images
  vault : Option VaultSettings
  runtime : RuntimeSettings
  deriving DecidableEq

namespace Settings

/-- The names of the site, when a domain is configured. -/
def siteNames (settings : Settings) : Option Site.Names :=
  settings.tls.domain.map fun domain => Site.names domain settings.proxy.exposure

/-- What follows the host in a URL with a given HTTPS port: the standard port is left out. -/
def portSuffix (port : Nat) : String :=
  if port = 443 then "" else ":" ++ toString port

/-- The URL at which users reach the application. -/
def publicUrl (settings : Settings) : String :=
  let host := (settings.siteNames.map Site.Names.canonical).getD "localhost"
  "https://" ++ host ++ portSuffix settings.proxy.httpsPort ++ settings.proxy.exposure.basePath

end Settings

end RemoteGateway
