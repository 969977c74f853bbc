import RemoteGateway.Deployment.Layout
import RemoteGateway.Fault
import RemoteGateway.Proxy.Configuration
import RemoteGateway.Settings.Basic

/-!
# The virtual host of the proxy

The virtual host answers on two ports. Plain requests are sent on to HTTPS, save those for the
health check and, when certificates are requested, those that prove control over the domain.
Over TLS the application answers below the base path and the broker below its prefix, and a
site with two names sends the second one on to the first.

`VirtualHost` holds what varies between deployments, and `VirtualHost.ofSettings` derives it:
with a pair generated on this host the proxy answers to any name, otherwise it answers to the
names of the site and reads the certificate from the directory named after the first.
-/

namespace RemoteGateway.Proxy

open Document (Members Value)
open Template (Part)
open Pattern

/-! ### Pattern -/

/-- Answers health checks. -/
def healthPattern : Pattern :=
  block "location" (some ["= /health"])
    [line "access_log" ["off"],
      line "default_type" ["text/plain"],
      line "return" ["200 \"OK\\n\""]]

/-- Sends a request on to HTTPS under the name that the site prefers. -/
def redirectPattern : Pattern :=
  line "return" ["301 ", .slot "https_origin", "$request_uri"]

/-- Listens for TLS under some name with the certificate of the site. -/
def tlsPatterns (nameSlot : String) : List Pattern :=
  [line "listen" ["443 ssl"],
    line "listen" ["[::]:443 ssl"],
    line "http2" ["on"],
    line "server_name" [.slot nameSlot],
    .blank,
    line "ssl_certificate" [.slot "cert_path"],
    line "ssl_certificate_key" [.slot "key_path"]]

/-- Tells the service behind the proxy where a request came from. -/
def forwardedPatterns : List Pattern :=
  [line "proxy_set_header" ["Host $host"],
    line "proxy_set_header" ["X-Real-IP $remote_addr"],
    line "proxy_set_header" ["X-Forwarded-For $proxy_add_x_forwarded_for"],
    line "proxy_set_header" ["X-Forwarded-Proto $scheme"]]

/-- The server for plain requests. -/
def plainPattern : Pattern :=
  block "server" none
    [line "listen" ["80"],
      line "listen" ["[::]:80"],
      line "server_name" [.slot "http_server_names"],
      .blank,
      healthPattern,
      whenSet "acme_webroot"
        [.blank,
          block "location" (some ["/.well-known/acme-challenge/"])
            [line "root" [.slot "acme_webroot"]]],
      .blank,
      block "location" (some ["/"]) [redirectPattern]]

/-- The server that sends the second name of the site on to the first. -/
def aliasPattern : Pattern :=
  block "server" none (tlsPatterns "alias" ++ [.blank, redirectPattern])

/-- The server for the application and the broker. -/
def sitePattern : Pattern :=
  block "server" none
    (tlsPatterns "server_name" ++
      [whenSet "chain_path"
          [line "ssl_trusted_certificate" [.slot "chain_path"],
            line "ssl_stapling" ["on"],
            line "ssl_stapling_verify" ["on"],
            line "resolver" [.slot "resolver", " valid=300s"],
            line "resolver_timeout" ["5s"],
            .blank,
            line "add_header" ["Strict-Transport-Security \"max-age=63072000\" always"]],
        .blank,
        healthPattern,
        whenSet "root_redirect"
          [.blank,
            block "location" (some ["= /"]) [line "return" ["302 ", .slot "base_path"]]],
        .blank,
        block "location" (some [.slot "base_path"])
          ([line "proxy_pass" ["http://guacamole_app", .slot "app_internal_path"],
              line "proxy_buffering" ["off"],
              line "proxy_http_version" ["1.1"]] ++
            forwardedPatterns ++
            [line "proxy_set_header" ["Upgrade $http_upgrade"],
              line "proxy_set_header" ["Connection $connection_upgrade"],
              line "proxy_cookie_path" [.slot "app_internal_path", " ", .slot "base_path"],
              line "proxy_read_timeout" ["1h"],
              line "access_log" ["off"]]),
        .blank,
        block "location" (some [.slot "broker_prefix"])
          ([line "proxy_pass" ["http://session_broker/api/"],
              line "proxy_http_version" ["1.1"]] ++
            forwardedPatterns)])

/-- The pattern of the virtual host. -/
def virtualHostPattern : List Pattern :=
  [comment [Deployment.generatedNotice],
    comment ["ssl.mode=", .slot "ssl_mode", " url_mode=", .slot "url_mode"],
    .blank,
    block "upstream" (some ["guacamole_app"]) [line "server" [.slot "app_upstream"]],
    .blank,
    block "upstream" (some ["session_broker"]) [line "server" [.slot "broker_upstream"]],
    .blank,
    plainPattern,
    whenSet "alias" [.blank, aliasPattern],
    .blank,
    sitePattern]

/-! ### What varies -/

/-- What varies between virtual hosts. -/
structure VirtualHost where
  source : CertificateSource
  exposure : Site.Exposure
  /-- The names to which plain requests are answered. -/
  plainNames : String
  /-- The directory with the files that prove control over the domain. -/
  webroot : Option String
  /-- The origin to which requests are sent on. -/
  origin : String
  /-- The second name of the site. -/
  aliasName : Option String
  /-- The name under which the application is served. -/
  name : String
  certificatePath : String
  keyPath : String
  /-- The certificates between that of the site and its root. -/
  chainPath : Option String
  resolver : String

/-- The address of a service inside the deployment. -/
def backend (service : String) (port : Nat) : String :=
  service ++ ":" ++ toString port

namespace VirtualHost

/-- The virtual host with a pair generated on this host, for any name. -/
def generated (settings : Settings) : VirtualHost :=
  { source := .selfSigned
    exposure := settings.proxy.exposure
    plainNames := "_"
    webroot := none
    origin := "https://$host" ++ Settings.portSuffix settings.proxy.httpsPort
    aliasName := none
    name := "_"
    certificatePath := Deployment.localTlsMount ++ "/" ++ Deployment.localCertificateFile
    keyPath := Deployment.localTlsMount ++ "/" ++ Deployment.localKeyFile
    chainPath := none
    resolver := settings.tls.resolver }

/-- The directory of the proxy that holds the certificate requested for a site. -/
def liveDirectory (names : Site.Names) : String :=
  Deployment.issuedMount ++ "/live/" ++ names.certificateDirectory

/-- The virtual host with a certificate requested for the names of the site. -/
def issued (settings : Settings) (names : Site.Names) : VirtualHost :=
  { source := .letsEncrypt
    exposure := settings.proxy.exposure
    plainNames := String.intercalate " " names.list
    webroot := some Deployment.webrootMount
    origin := "https://" ++ names.canonical ++ Settings.portSuffix settings.proxy.httpsPort
    aliasName := some names.aliasName
    name := names.canonical
    certificatePath := liveDirectory names ++ "/fullchain.pem"
    keyPath := liveDirectory names ++ "/privkey.pem"
    chainPath := some (liveDirectory names ++ "/chain.pem")
    resolver := settings.tls.resolver }

/-- The virtual host of a deployment. A certificate can only be requested for a domain. -/
def ofSettings (settings : Settings) : Except ConfigFault VirtualHost :=
  match settings.tls.source with
  | .selfSigned => .ok (generated settings)
  | .letsEncrypt =>
    match settings.siteNames with
    | some names => .ok (issued settings names)
    | none => .error (.missing "ssl.domain")

/-- A text that may be absent. -/
def optional (text : Option String) : Value :=
  (text.map Value.text).getD .null

/-- What fills the pattern of the virtual host. -/
def context (host : VirtualHost) : Members :=
  [("ssl_mode", .text host.source.name),
    ("url_mode", .text host.exposure.mode),
    ("app_upstream", .text (backend Deployment.applicationService Deployment.applicationPort)),
    ("broker_upstream", .text (backend Deployment.brokerService Deployment.brokerPort)),
    ("http_server_names", .text host.plainNames),
    ("acme_webroot", optional host.webroot),
    ("https_origin", .text host.origin),
    ("alias", optional host.aliasName),
    ("server_name", .text host.name),
    ("cert_path", .text host.certificatePath),
    ("key_path", .text host.keyPath),
    ("chain_path", optional host.chainPath),
    ("resolver", .text host.resolver),
    ("root_redirect", .bool (match host.exposure with | .path _ => true | _ => false)),
    ("base_path", .text host.exposure.basePath),
    ("app_internal_path", .text Site.applicationPath),
    ("broker_prefix", .text Site.brokerPrefix)]

end VirtualHost

end RemoteGateway.Proxy
