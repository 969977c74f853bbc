import RemoteGateway.Proofs.Compose.Meaning
import RemoteGateway.Proofs.Settings.Footprint

/-!
# Configured values in the compose file

What is configured gets into the compose file at many places: a password into the variables of
three services, the socket of the runtime into a variable and a volume. `configured` lists these
places with what is meant at each of them, and the intended topology has them there
(`hasTexts_configured`). Since every text of a topology that is built is escaped once from the
intended one, whoever reads the compose file gets back what is meant, in whatever environment
(`build_interpolates`): no value is taken for a reference, however it is spelled.
-/

namespace RemoteGateway.Compose

open Yaml (Branch Node)

/-! ### Places -/

/-- A text and its place in a tree. -/
structure Placed where
  path : List Branch
  text : String

/-- A reference to the image of a component, at the image of a service. -/
def imageText (settings : Settings) (component : Component) : List Placed :=
  (settings.images.get component).reference?.toList.map (Placed.mk ["image"])

/-- Values at the variables of a service. -/
def variableTexts (entries : List (String × String)) : List Placed :=
  entries.map fun (name, value) => ⟨["environment", .key name], value⟩

/-- What is configured for the database. -/
def postgresTexts (settings : Settings) : List Placed :=
  imageText settings .postgres ++
    variableTexts
      [("POSTGRES_DB", settings.database.name),
        ("POSTGRES_USER", settings.database.user),
        ("POSTGRES_PASSWORD", settings.database.password)] ++
    [Placed.mk ["healthcheck", "test", .item 1]
      ("pg_isready -U " ++ settings.database.user ++ " -d " ++ settings.database.name)]

/-- What is configured for the application. -/
def applicationTexts (settings : Settings) : List Placed :=
  imageText settings .guacamole ++
    variableTexts
      [("POSTGRESQL_HOSTNAME", settings.database.host),
        ("POSTGRESQL_PORT", toString settings.database.port),
        ("POSTGRESQL_DATABASE", settings.database.name),
        ("POSTGRESQL_USER", settings.database.user),
        ("POSTGRESQL_PASSWORD", settings.database.password)]

/-- The variables by which the broker reaches the vault. -/
def vaultValues (vault : VaultSettings) : List (String × String) :=
  [("VAULT_ADDR", vault.address), ("VAULT_MOUNT", vault.mount), ("VAULT_PATH", vault.path)] ++
    match vault.auth with
    | .token token => [("VAULT_TOKEN", token)]
    | .appRole roleId secretId => [("VAULT_ROLE_ID", roleId), ("VAULT_SECRET_ID", secretId)]

/-- The variables of the broker that are configured. -/
def brokerValues (settings : Settings) : List (String × String) :=
  [("DATABASE_HOST", settings.database.host),
    ("DATABASE_PORT", toString settings.database.port),
    ("DATABASE_NAME", settings.database.name),
    ("DATABASE_USER", settings.database.user),
    ("DATABASE_PASSWORD", settings.database.password),
    ("GUACAMOLE_ADMIN_USER", settings.admin.user),
    ("GUACAMOLE_ADMIN_PASSWORD", settings.admin.password),
    ("GUACAMOLE_PUBLIC_URL", settings.publicUrl),
    ("LOG_LEVEL", settings.broker.logLevel),
    ("DOCKER_HOST", "unix://" ++ settings.runtime.socket)] ++
    (settings.broker.apiKey.toList.map fun key => ("BROKER_API_KEY", key)) ++
    settings.vault.toList.flatMap vaultValues

/-- What is configured for the broker. -/
def brokerTexts (settings : Settings) : List Placed :=
  imageText settings .broker ++ variableTexts (brokerValues settings) ++
    (settings.runtime.group.toList.map fun group =>
      Placed.mk ["group_add", .item 0] (toString group)) ++
    [Placed.mk ["volumes", .item 0] (settings.runtime.socket ++ ":" ++ settings.runtime.socket)]

/-- What is configured for the proxy. -/
def proxyTexts (settings : Settings) : List Placed :=
  imageText settings .nginx ++
    [Placed.mk ["ports", .item 0] (toString settings.proxy.httpPort ++ ":80"),
      Placed.mk ["ports", .item 1] (toString settings.proxy.httpsPort ++ ":443")]

/-- What is configured for the service that renews a requested certificate. -/
def renewalTexts (settings : Settings) : List Placed :=
  match settings.tls.source with
  | .selfSigned => []
  | .letsEncrypt => imageText settings .certbot

/-- A text of a service, at its place in the compose file. -/
def Placed.ofService (name : String) (placed : Placed) : Placed :=
  ⟨"services" :: .key name :: placed.path, placed.text⟩

/-- All that is configured, at its places in the compose file. -/
def configured (settings : Settings) : List Placed :=
  (postgresTexts settings).map (.ofService "postgres") ++
    (imageText settings .guacd).map (.ofService "guacd") ++
    (applicationTexts settings).map (.ofService "guacamole") ++
    (brokerTexts settings).map (.ofService "session-broker") ++
    (proxyTexts settings).map (.ofService "nginx") ++
    (renewalTexts settings).map (.ofService "certbot")

/-! ### Services -/

/-- A tree has texts at their places. -/
def HasTexts (node : Node) (texts : List Placed) : Prop :=
  ∀ placed ∈ texts, node.at? placed.path = some (.text placed.text)

variable {settings : Settings} {service : Service}

theorem hasTexts_append {node : Node} {texts more : List Placed} :
    HasTexts node (texts ++ more) ↔ HasTexts node texts ∧ HasTexts node more :=
  List.forall_mem_append

theorem hasTexts_imageText {component : Component}
    (h : service.image = Intended.image settings component) :
    HasTexts service.toNode (imageText settings component) := by
  intro placed hplaced
  obtain ⟨reference, hreference, rfl⟩ := List.mem_map.mp hplaced
  rw [Intended.image, Option.mem_toList.mp hreference, Option.getD_some] at h
  rw [← h]
  rfl

/-- A variable of a service is found below its environment. -/
theorem at?_environment {name value : String} (h : service.environment.lookup name = some value) :
    service.toNode.at? ["environment", .key name] = some (.text value) := by
  obtain ⟨image, entrypoint, capabilities, groups, environment, ports, volumes, networks,
    dependencies, probe⟩ := service
  cases environment with
  | nil => cases h
  | cons entry environment =>
    -- What stands in front of the environment depends on which other entries there are.
    have hat : (Service.mk image entrypoint capabilities groups (entry :: environment) ports
        volumes networks dependencies probe).toNode.at? ["environment", .key name] =
        (((entry :: environment).map fun (name, value) => (name, Node.text value)).lookup
          name).bind some := by
      cases entrypoint <;> cases capabilities <;> cases groups <;> rfl
    rw [hat, lookup_map_value, h]
    rfl

/-- The variables of a service are at their places when their names are looked up to their
values. -/
theorem hasTexts_variableTexts {entries : List (String × String)}
    (h : ∀ entry ∈ entries, service.environment.lookup entry.1 = some entry.2) :
    HasTexts service.toNode (variableTexts entries) := by
  intro placed hplaced
  obtain ⟨entry, hentry, rfl⟩ := List.mem_map.mp hplaced
  exact at?_environment (h entry hentry)

variable (settings) in
theorem hasTexts_postgres :
    HasTexts (Intended.postgres settings).toNode (postgresTexts settings) := by
  rw [postgresTexts, hasTexts_append, hasTexts_append]
  refine ⟨⟨hasTexts_imageText rfl, hasTexts_variableTexts ?_⟩, ?_⟩
  · simp only [List.forall_mem_cons]
    exact ⟨rfl, rfl, rfl, by simp⟩
  · intro placed hplaced
    rw [List.mem_singleton.mp hplaced]
    rfl

variable (settings) in
theorem hasTexts_application :
    HasTexts (Intended.application settings).toNode (applicationTexts settings) := by
  rw [applicationTexts, hasTexts_append]
  refine ⟨hasTexts_imageText rfl, hasTexts_variableTexts ?_⟩
  simp only [List.forall_mem_cons]
  exact ⟨rfl, rfl, rfl, rfl, rfl, by simp⟩

/-- Whatever else the broker is told, it is told what is configured. -/
theorem lookup_brokerEnvironment :
    ∀ entry ∈ brokerValues settings,
      (Intended.brokerEnvironment settings).lookup entry.1 = some entry.2 := by
  rw [brokerValues, Intended.brokerEnvironment, keyVariables, List.forall_mem_append,
    List.forall_mem_append]
  refine ⟨⟨?_, ?_⟩, ?_⟩
  · simp only [List.forall_mem_cons]
    cases settings.broker.apiKey <;>
      exact ⟨rfl, rfl, rfl, rfl, rfl, rfl, rfl, rfl, rfl, rfl, by simp⟩
  · intro entry hentry
    cases hkey : settings.broker.apiKey with
    | none => rw [hkey] at hentry; cases hentry
    | some key =>
      rw [hkey] at hentry
      rw [List.mem_singleton.mp hentry]
      rfl
  · cases settings.vault with
    | none => exact fun entry hentry => by cases hentry
    | some vault =>
      obtain ⟨address, auth, mount, path⟩ := vault
      rw [Option.toList_some, List.flatMap_singleton, List.flatMap_singleton]
      cases auth with
      | token token =>
        simp only [vaultValues, List.cons_append, List.nil_append, List.forall_mem_cons]
        cases settings.broker.apiKey <;> exact ⟨rfl, rfl, rfl, rfl, by simp⟩
      | appRole roleId secretId =>
        simp only [vaultValues, List.cons_append, List.nil_append, List.forall_mem_cons]
        cases settings.broker.apiKey <;> exact ⟨rfl, rfl, rfl, rfl, rfl, by simp⟩

variable (settings) in
theorem hasTexts_broker : HasTexts (Intended.broker settings).toNode (brokerTexts settings) := by
  rw [brokerTexts, hasTexts_append, hasTexts_append, hasTexts_append]
  refine ⟨⟨⟨hasTexts_imageText rfl, hasTexts_variableTexts lookup_brokerEnvironment⟩, ?_⟩, ?_⟩
  · intro placed hplaced
    obtain ⟨group, hgroup, rfl⟩ := List.mem_map.mp hplaced
    rw [Intended.broker, Option.mem_toList.mp hgroup]
    rfl
  · -- The volumes stand behind the variables, of which there are some in any case.
    intro placed hplaced
    rw [List.mem_singleton.mp hplaced, Intended.broker, Intended.brokerEnvironment, keyVariables]
    cases settings.broker.apiKey <;> cases settings.runtime.group <;> rfl

variable (settings) in
theorem hasTexts_proxy : HasTexts (Intended.proxy settings).toNode (proxyTexts settings) := by
  rw [proxyTexts, hasTexts_append]
  refine ⟨hasTexts_imageText rfl, ?_⟩
  simp only [HasTexts, List.forall_mem_cons]
  exact ⟨rfl, rfl, by simp⟩

/-! ### The compose file -/

variable {topology : Topology}

/-- A service is found below its name. -/
theorem at?_service {name : String} (h : topology.services.lookup name = some service)
    (path : List Branch) :
    topology.node.at? ("services" :: .key name :: path) = service.toNode.at? path := by
  have hservice := lookup_map_value Service.toNode topology.services name
  rw [h] at hservice
  exact congrArg (fun found => found.bind (Node.at? · path)) hservice

/-- When a certificate is requested, the intended topology has a service that renews it. -/
theorem lookup_renewal (hsource : settings.tls.source = .letsEncrypt) :
    (Intended.topology settings).services.lookup "certbot" = some (Intended.renewal settings) := by
  rw [Intended.topology, Intended.services, Intended.renewalServices, hsource]
  rfl

/-- The texts of a service are at their places in the compose file. -/
theorem hasTexts_ofService {name : String} {texts : List Placed}
    (hlookup : topology.services.lookup name = some service)
    (h : HasTexts service.toNode texts) :
    HasTexts topology.node (texts.map (.ofService name)) := by
  intro placed hplaced
  obtain ⟨inner, hinner, rfl⟩ := List.mem_map.mp hplaced
  rw [Placed.ofService, at?_service hlookup]
  exact h inner hinner

variable (settings) in
/-- **What is configured is meant at its places.** -/
theorem hasTexts_configured : HasTexts (Intended.topology settings).node (configured settings) := by
  simp only [configured, hasTexts_append]
  refine ⟨⟨⟨⟨⟨?_, ?_⟩, ?_⟩, ?_⟩, ?_⟩, ?_⟩
  · exact hasTexts_ofService rfl (hasTexts_postgres settings)
  · exact hasTexts_ofService rfl (hasTexts_imageText rfl)
  · exact hasTexts_ofService rfl (hasTexts_application settings)
  · exact hasTexts_ofService rfl (hasTexts_broker settings)
  · exact hasTexts_ofService rfl (hasTexts_proxy settings)
  · cases hsource : settings.tls.source with
    | selfSigned => simp [renewalTexts, hsource, HasTexts]
    | letsEncrypt =>
      rw [renewalTexts, hsource]
      exact hasTexts_ofService (lookup_renewal hsource) (hasTexts_imageText rfl)

/-- What stands at a place of the compose file is escaped once from what is meant there. -/
theorem at?_node (h : build settings = .ok topology) {path : List Branch} {text : String}
    (hmeant : (Intended.topology settings).node.at? path = some (.text text)) :
    topology.node.at? path = some (.text (escape text)) := by
  rw [node_of_build h, Node.at?_mapTexts, hmeant]
  rfl

variable (settings) in
/-- The command that renews certificates waits for the last process of the shell. -/
theorem at?_entrypoint (hsource : settings.tls.source = .letsEncrypt) :
    ∃ command,
      (Intended.topology settings).node.at? ["services", "certbot", "entrypoint"] =
        some (.text command) ∧
      "wait $\x7b!\x7d".toList <:+: command.toList := by
  rw [at?_service (lookup_renewal hsource)]
  refine ⟨_, rfl, ?_⟩
  have hend : ("wait $\x7b!\x7d".toList : List Char) <:+:
      " --quiet; sleep 12h & wait $\x7b!\x7d; done;'".toList :=
    ⟨" --quiet; sleep 12h & ".toList, "; done;'".toList, rfl⟩
  rw [String.toList_append]
  exact hend.trans (List.suffix_append _ _).isInfix

/-- Interpolation leaves what is meant, whatever the environment says. -/
theorem readTexts?_interpolate (h : build settings = .ok topology)
    (environment : String → Option String) :
    topology.node.readTexts? (interpolate environment) =
      some (Intended.topology settings).node := by
  rw [node_of_build h]
  exact Node.readTexts?_mapTexts (interpolate_escape environment) _

/-- **Compose files are read as they are meant**, in every environment and without asking it. Every
text of the topology that is built is escaped once, whichever step put it there, so what is read is
the intended topology as a whole. It has all that is configured at its places, and the command that
renews certificates waits for the last process of its shell. -/
theorem build_interpolates (h : build settings = .ok topology) :
    (topology.node.readTexts? literal? = some (Intended.topology settings).node ∧
      ∀ environment, topology.node.readTexts? (interpolate environment) =
        some (Intended.topology settings).node) ∧
    (∀ placed ∈ configured settings, ∃ text,
      topology.node.at? placed.path = some (.text text) ∧
        literal? text = some placed.text ∧
        ∀ environment, interpolate environment text = some placed.text) ∧
    (settings.tls.source = .letsEncrypt → ∃ text command,
      topology.node.at? ["services", "certbot", "entrypoint"] = some (.text text) ∧
        literal? text = some command ∧
        (∀ environment, interpolate environment text = some command) ∧
        "wait $\x7b!\x7d".toList <:+: command.toList) := by
  refine ⟨⟨?_, readTexts?_interpolate h⟩, fun placed hplaced => ?_, fun hsource => ?_⟩
  · rw [node_of_build h]
    exact Node.readTexts?_mapTexts literal?_escape _
  · have hmeant := hasTexts_configured settings placed hplaced
    exact ⟨_, at?_node h hmeant, literal?_escape _, fun _ => interpolate_escape _ _⟩
  · obtain ⟨command, hcommand, hwait⟩ := at?_entrypoint settings hsource
    exact ⟨_, command, at?_node h hcommand, literal?_escape _,
      fun _ => interpolate_escape _ _, hwait⟩

/-- The settings of the sample site with a password that looks like references. -/
def referringSettings : Settings :=
  { Sample.settings with
    database := { Sample.settings.database with password := "pa$word$$\x7bHOME\x7d$" } }

/-- A password that looks like references reaches its three services as it is. -/
theorem build_interpolates_referring :
    ∃ topology, build referringSettings = .ok topology ∧
      ∀ place ∈ ([["services", "postgres", "environment", "POSTGRES_PASSWORD"],
          ["services", "guacamole", "environment", "POSTGRESQL_PASSWORD"],
          ["services", "session-broker", "environment", "DATABASE_PASSWORD"]] :
            List (List Branch)),
        ∃ text, topology.node.at? place = some (.text text) ∧
          ∀ environment, interpolate environment text = some "pa$word$$\x7bHOME\x7d$" := by
  obtain ⟨topology, h⟩ : ∃ topology, build referringSettings = .ok topology := ⟨_, rfl⟩
  obtain ⟨-, hconfigured, -⟩ := build_interpolates h
  refine ⟨topology, h, fun place hplace => ?_⟩
  have hmem : Placed.mk place "pa$word$$\x7bHOME\x7d$" ∈ configured referringSettings := by
    simp only [List.mem_cons, List.not_mem_nil, or_false] at hplace
    rcases hplace with rfl | rfl | rfl <;>
      simp [configured, postgresTexts, applicationTexts, brokerTexts, brokerValues, variableTexts,
        Placed.ofService, referringSettings]
  obtain ⟨text, htext, -, hinterpolate⟩ := hconfigured _ hmem
  exact ⟨text, htext, hinterpolate⟩

end RemoteGateway.Compose
