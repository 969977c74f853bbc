import RemoteGateway.Compose.Topology
import RemoteGateway.Deployment.Layout
import RemoteGateway.Fault
import RemoteGateway.Settings.Basic

/-!
# The topology of a deployment

Services, dependencies and networks are fixed. What varies with the settings is where the proxy
gets its certificate from, the service that renews a requested certificate, and what the
broker is told about the vault.
-/

namespace RemoteGateway.Compose

open Deployment

/-! ### Networks and volumes -/

def internalNetwork : String := "internal"
def frontendNetwork : String := "frontend"
def sessionNetwork : String := "vnc-network"

/-- The addresses of the network on which session containers are started. -/
def sessionSubnet : String := "172.30.0.0/16"

def databaseVolume : String := "postgres_data"
def profilesVolume : String := "user_profiles"
def recordingsVolume : String := "recordings"

/-- The name by which the broker attaches session containers to their network. -/
def sessionNetworkName : String := projectName ++ "_" ++ sessionNetwork

/-- The name by which the broker mounts the profiles of users. -/
def profilesVolumeName : String := projectName ++ "_" ++ profilesVolume

/-! ### Parts of services -/

/-- The text that refers to the image of a component, whose tag has to be chosen. -/
def imageOf (settings : Settings) (component : Component) : Except Fault String :=
  match (settings.images.get component).reference? with
  | some reference => .ok reference
  | none => .error (.generation (.missingVersion component))

/-- A place of the host that a container sees. -/
def mount (source target : String) : String :=
  source ++ ":" ++ target

/-- A place below the output directory that a container sees without being able to change
it. -/
def mountReadOnly (source target : String) : String :=
  "./" ++ source ++ ":" ++ target ++ ":ro"

/-! ### Variables and commands -/

/-- What the database is told. -/
def databaseVariables (database : DatabaseSettings) : List (String × String) :=
  [("POSTGRES_DB", database.name),
    ("POSTGRES_PASSWORD", database.password),
    ("POSTGRES_USER", database.user)]

/-- The command that asks the database whether it is healthy. -/
def databaseProbe (database : DatabaseSettings) : String :=
  "pg_isready -U " ++ database.user ++ " -d " ++ database.name

/-- What the application is told. -/
def applicationVariables (database : DatabaseSettings) : List (String × String) :=
  [("GUACD_HOSTNAME", guacdService),
    ("GUACD_PORT", toString guacdPort),
    ("POSTGRESQL_DATABASE", database.name),
    ("POSTGRESQL_HOSTNAME", database.host),
    ("POSTGRESQL_PASSWORD", database.password),
    ("POSTGRESQL_PORT", toString database.port),
    ("POSTGRESQL_USER", database.user),
    ("RECORDING_SEARCH_PATH", "/recordings"),
    ("REMOTE_IP_VALVE_ENABLED", "true")]

/-- What the broker is told about the vault. -/
def vaultVariables (vault : VaultSettings) : List (String × String) :=
  [("VAULT_ADDR", vault.address),
    ("VAULT_MOUNT", vault.mount),
    ("VAULT_PATH", vault.path)] ++
    match vault.auth with
    | .token token => [("VAULT_TOKEN", token)]
    | .appRole roleId secretId =>
      [("VAULT_ROLE_ID", roleId), ("VAULT_SECRET_ID", secretId)]

/-- The key of the broker, when it has one. -/
def keyVariables (broker : BrokerSettings) : List (String × String) :=
  broker.apiKey.toList.map fun key => ("BROKER_API_KEY", key)

/-- What the broker is told in any case. -/
def brokerVariables (settings : Settings) : List (String × String) :=
  let database := settings.database
  [("CONFIG_PATH", "/data/config"),
    ("DATABASE_HOST", database.host),
    ("DATABASE_NAME", database.name),
    ("DATABASE_PASSWORD", database.password),
    ("DATABASE_PORT", toString database.port),
    ("DATABASE_USER", database.user),
    ("DOCKER_HOST", "unix://" ++ settings.runtime.socket),
    ("GUACAMOLE_ADMIN_PASSWORD", settings.admin.password),
    ("GUACAMOLE_ADMIN_USER", settings.admin.user),
    ("GUACAMOLE_PUBLIC_URL", settings.publicUrl),
    ("GUACAMOLE_URL",
      "http://" ++ applicationService ++ ":" ++ toString applicationPort ++ "/guacamole"),
    ("GUACD_HOSTNAME", guacdService),
    ("LOG_LEVEL", settings.broker.logLevel),
    ("USER_DATA_PATH", "/data/users"),
    ("USER_PROFILES_VOLUME", profilesVolumeName)]

/-- The program that asks the broker whether it is healthy. -/
def brokerProbe : List String :=
  ["CMD", "python", "-c",
    "import urllib.request; urllib.request.urlopen('http://localhost:" ++
      toString brokerPort ++ "/health')"]

/-! ### Volumes -/

def databaseVolumes : List String :=
  [mount databaseVolume "/var/lib/postgresql/data",
    mountReadOnly initDirectory "/docker-entrypoint-initdb.d"]

def brokerVolumes (runtime : RuntimeSettings) : List String :=
  [mount runtime.socket runtime.socket,
    mount profilesVolume "/data/users",
    mount ("./" ++ brokerConfigDirectory) "/data/config"]

/-- The places from which the proxy takes its certificate; there is exactly one source. -/
def certificateMounts : CertificateSource → List String
  | .selfSigned => [mountReadOnly localTlsDirectory localTlsMount]
  | .letsEncrypt =>
    [mountReadOnly issuedDirectory issuedMount, mountReadOnly webrootDirectory webrootMount]

def proxyVolumes (source : CertificateSource) : List String :=
  [mountReadOnly proxyMainFile "/etc/nginx/nginx.conf",
    mountReadOnly proxySiteDirectory "/etc/nginx/conf.d"] ++ certificateMounts source

def renewalVolumes : List String :=
  [mount ("./" ++ issuedDirectory) issuedMount, mount ("./" ++ webrootDirectory) webrootMount]

/-! ### Services -/

/-- The database. -/
def postgres (settings : Settings) : Except Fault Service := do
  let image ← imageOf settings .postgres
  return Service.ofImage image [internalNetwork] (.ofShell (databaseProbe settings.database))
    |>.withVariables (databaseVariables settings.database)
    |>.withVolumes databaseVolumes

/-- The daemon that speaks the remote desktop protocols. -/
def guacd (settings : Settings) : Except Fault Service := do
  let image ← imageOf settings .guacd
  let service := Service.ofImage image [internalNetwork, sessionNetwork]
      (.ofShell ("nc -z 127.0.0.1 " ++ toString guacdPort ++ " || exit 1"))
    |>.withVolumes [mount recordingsVolume "/recordings"]
    |>.afterHealthy [postgresService]
  return { service with addedCapabilities := ["NET_ADMIN"] }

/-- The application. -/
def application (settings : Settings) : Except Fault Service := do
  let image ← imageOf settings .guacamole
  let probe := Probe.ofShell
    ("curl -fsS http://localhost:" ++ toString applicationPort ++ Site.applicationPath ++
      " > /dev/null || exit 1")
  return Service.ofImage image [internalNetwork] (probe.after "30s")
    |>.withVariables (applicationVariables settings.database)
    |>.withVolumes [mount recordingsVolume "/recordings:ro"]
    |>.afterHealthy [guacdService, postgresService]

/-- The session broker. It starts containers itself, so the group that owns the socket of the
runtime has to be known. -/
def broker (settings : Settings) : Except Fault Service := do
  match settings.runtime.group with
  | none => throw (.config (.missing "docker.gid"))
  | some group =>
    let image ← imageOf settings .broker
    let service := Service.ofImage image [internalNetwork, sessionNetwork]
        ((Probe.ofWords brokerProbe).after "20s")
      |>.withVariables (keyVariables settings.broker)
      |>.withVariables (brokerVariables settings)
      |>.withVariables (settings.vault.toList.flatMap vaultVariables)
      |>.withVolumes (brokerVolumes settings.runtime)
      |>.afterHealthy [applicationService, postgresService]
    return { service with addedGroups := [toString group] }

/-- The proxy. -/
def proxy (settings : Settings) : Except Fault Service := do
  let image ← imageOf settings .nginx
  let service := Service.ofImage image [internalNetwork, frontendNetwork]
      (.ofShell "curl -fsS http://localhost/health > /dev/null || exit 1")
    |>.withVolumes (proxyVolumes settings.tls.source)
    |>.afterHealthy [applicationService, brokerService]
  return { service with
    ports :=
      [toString settings.proxy.httpPort ++ ":80", toString settings.proxy.httpsPort ++ ":443"] }

/-- The service that renews a requested certificate twice a day. -/
def renewal (settings : Settings) : Except Fault Service := do
  let image ← imageOf settings .certbot
  let service := Service.ofImage image [frontendNetwork] (.ofShell ("test -d " ++ issuedMount))
    |>.withVolumes renewalVolumes
  -- The shell gets one of the two dollar signs.
  return { service with
    entrypoint := some
      ("/bin/sh -c 'trap exit TERM; while :; do certbot renew --webroot -w " ++ webrootMount ++
        " --quiet; sleep 12h & wait $$\x7b!\x7d; done;'") }

/-! ### The whole -/

/-- The renewal service, when there is a certificate to renew. -/
def renewalServices (settings : Settings) : Except Fault (List (String × Service)) :=
  match settings.tls.source with
  | .selfSigned => .ok []
  | .letsEncrypt => do return [(renewalService, ← renewal settings)]

/-- The topology for some settings. -/
def build (settings : Settings) : Except Fault Topology := do
  let postgres ← postgres settings
  let guacd ← guacd settings
  let application ← application settings
  let broker ← broker settings
  let proxy ← proxy settings
  let renewal ← renewalServices settings
  return {
    name := projectName
    services :=
      [(postgresService, postgres),
        (guacdService, guacd),
        (applicationService, application),
        (brokerService, broker),
        (proxyService, proxy)] ++ renewal
    networks :=
      [(internalNetwork, { internal := true }),
        (frontendNetwork, {}),
        (sessionNetwork, { name := some sessionNetworkName, subnet := some sessionSubnet })]
    volumes :=
      [(databaseVolume, {}),
        (profilesVolume, { name := some profilesVolumeName }),
        (recordingsVolume, {})] }

/-- The compose file of a topology. -/
def Topology.write (topology : Topology) : String :=
  "# " ++ generatedNotice ++ "\n" ++ Yaml.Node.writeFile topology.toEntries

end RemoteGateway.Compose
