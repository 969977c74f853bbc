import RemoteGateway.Deployment.Layout
import RemoteGateway.Proxy.Configuration
import RemoteGateway.Settings.Basic

/-!
# The main configuration of the proxy

Everything in the main file is fixed but the TLS profile, which decides the protocols and, for
the older of them, the ciphers.
-/

namespace RemoteGateway.Proxy

open Document (Members Value)
open Template (Part)
open Pattern

/-- The pattern of the main file. -/
def mainPattern : List Pattern :=
  [comment [Deployment.generatedNotice],
    simple "user" 2 ["nginx"],
    simple "worker_processes" 2 ["auto"],
    .blank,
    simple "error_log" 2 ["/var/log/nginx/error.log warn"],
    simple "pid" 8 ["/var/run/nginx.pid"],
    .blank,
    block "events" none [simple "worker_connections" 2 ["1024"]],
    .blank,
    block "http" none
      [simple "include" 7 ["/etc/nginx/mime.types"],
        simple "default_type" 2 ["application/octet-stream"],
        .blank,
        simple "log_format" 2
          ["main  '$remote_addr - $remote_user [$time_local] \"$request\" '\n",
            "                      '$status $body_bytes_sent \"$http_referer\" '\n",
            "                      '\"$http_user_agent\" \"$http_x_forwarded_for\"'"],
        simple "access_log" 2 ["/var/log/nginx/access.log  main"],
        .blank,
        simple "sendfile" 8 ["on"],
        simple "tcp_nopush" 6 ["on"],
        simple "keepalive_timeout" 2 ["65"],
        simple "server_tokens" 3 ["off"],
        simple "client_max_body_size" 2 ["100m"],
        .blank,
        block "map" (some ["$http_upgrade $connection_upgrade"])
          [line "default" ["upgrade"],
            simple "''" 6 ["close"]],
        .blank,
        comment ["TLS profile: ", .slot "profile"],
        line "ssl_protocols" [.slot "protocols"],
        whenSet "ciphers" [line "ssl_ciphers" [.slot "ciphers"]],
        line "ssl_prefer_server_ciphers" ["off"],
        line "ssl_session_timeout" ["1d"],
        line "ssl_session_cache" ["shared:SSL:10m"],
        line "ssl_session_tickets" ["off"],
        .blank,
        line "include" ["/etc/nginx/conf.d/*.conf"]]]

/-- The ciphers offered beside those of the newest protocol. -/
def intermediateCiphers : String :=
  String.intercalate ":"
    ["ECDHE-ECDSA-AES128-GCM-SHA256", "ECDHE-RSA-AES128-GCM-SHA256",
      "ECDHE-ECDSA-AES256-GCM-SHA384", "ECDHE-RSA-AES256-GCM-SHA384",
      "ECDHE-ECDSA-CHACHA20-POLY1305", "ECDHE-RSA-CHACHA20-POLY1305",
      "DHE-RSA-AES128-GCM-SHA256", "DHE-RSA-AES256-GCM-SHA384",
      "DHE-RSA-CHACHA20-POLY1305"]

/-- The protocols of a profile. -/
def protocols : TlsProfile → String
  | .modern => "TLSv1.3"
  | .intermediate => "TLSv1.2 TLSv1.3"

/-- The ciphers of a profile, where they have to be chosen. -/
def ciphers : TlsProfile → Option String
  | .modern => none
  | .intermediate => some intermediateCiphers

/-- What fills the pattern of the main file. -/
def mainContext (profile : TlsProfile) : Members :=
  [("profile", .text profile.name),
    ("protocols", .text (protocols profile)),
    ("ciphers", ((ciphers profile).map Value.text).getD .null)]

end RemoteGateway.Proxy
