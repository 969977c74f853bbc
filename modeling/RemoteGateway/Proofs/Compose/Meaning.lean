import RemoteGateway.Proofs.Compose.Interpolating
import RemoteGateway.Proofs.Compose.Services
import RemoteGateway.Proofs.Document.Integers
import RemoteGateway.Proofs.Yaml.Texts

/-!
# What a topology means

`Intended.topology` says what a compose file is meant to say: the same parts as those of a topology
that is built, with every text as it is meant. A topology that is built is the intended one with
each of its texts **escaped once** (`eq_escaped_of_build`). The steps that put a service together
escape some texts and leave others to whoever gives them, so this is shown step by step: a step
that escapes must be given the text itself, and where no step does, the text must be escaped by
hand or have no dollar sign.
-/

namespace RemoteGateway.Compose

open Deployment
open Yaml (Node)

/-! ### The intended topology -/

namespace Intended

variable (settings : Settings)

/-- The reference to the image of a component, and nothing when its tag was not chosen. -/
def image (component : Component) : String :=
  (settings.images.get component).reference?.getD ""

/-- The database. -/
def postgres : Service where
  image := image settings .postgres
  environment := databaseVariables settings.database
  volumes := databaseVolumes
  networks := [internalNetwork]
  probe := ⟨["CMD-SHELL", databaseProbe settings.database], none⟩

/-- The daemon that speaks the remote desktop protocols. -/
def guacd : Service where
  image := image settings .guacd
  addedCapabilities := ["NET_ADMIN"]
  volumes := [mount recordingsVolume "/recordings"]
  networks := [internalNetwork, sessionNetwork]
  dependencies := [postgresService]
  probe := ⟨["CMD-SHELL", "nc -z 127.0.0.1 4822 || exit 1"], none⟩

/-- The application. -/
def application : Service where
  image := image settings .guacamole
  environment := applicationVariables settings.database
  volumes := [mount recordingsVolume "/recordings:ro"]
  networks := [internalNetwork]
  dependencies := [guacdService, postgresService]
  probe :=
    ⟨["CMD-SHELL", "curl -fsS http://localhost:8080/guacamole/ > /dev/null || exit 1"],
      some "30s"⟩

/-- What the broker is told. -/
def brokerEnvironment : List (String × String) :=
  keyVariables settings.broker ++ brokerVariables settings ++
    settings.vault.toList.flatMap vaultVariables

/-- The session broker. -/
def broker : Service where
  image := image settings .broker
  addedGroups := settings.runtime.group.toList.map toString
  environment := brokerEnvironment settings
  volumes := brokerVolumes settings.runtime
  networks := [internalNetwork, sessionNetwork]
  dependencies := [applicationService, postgresService]
  probe := ⟨brokerProbe, some "20s"⟩

/-- The proxy. -/
def proxy : Service where
  image := image settings .nginx
  ports :=
    [toString settings.proxy.httpPort ++ ":80", toString settings.proxy.httpsPort ++ ":443"]
  volumes := proxyVolumes settings.tls.source
  networks := [internalNetwork, frontendNetwork]
  dependencies := [applicationService, brokerService]
  probe := ⟨["CMD-SHELL", "curl -fsS http://localhost/health > /dev/null || exit 1"], none⟩

/-- The service that renews a requested certificate. Its shell waits for the last process that it
has started. -/
def renewal : Service where
  image := image settings .certbot
  entrypoint := some
    ("/bin/sh -c 'trap exit TERM; while :; do certbot renew --webroot -w " ++ webrootMount ++
      " --quiet; sleep 12h & wait $\x7b!\x7d; done;'")
  volumes := renewalVolumes
  networks := [frontendNetwork]
  probe := ⟨["CMD-SHELL", "test -d /etc/letsencrypt"], none⟩

/-- The renewal service, when there is a certificate to renew. -/
def renewalServices : List (String × Service) :=
  match settings.tls.source with
  | .selfSigned => []
  | .letsEncrypt => [("certbot", renewal settings)]

/-- All services. -/
def services : List (String × Service) :=
  [("postgres", postgres settings),
    ("guacd", guacd settings),
    ("guacamole", application settings),
    ("session-broker", broker settings),
    ("nginx", proxy settings)] ++ renewalServices settings

/-- The networks, which depend on nothing. -/
def networks : List (String × Network) :=
  [("internal", { internal := true }),
    ("frontend", {}),
    ("vnc-network", { name := some "guacamole_vnc-network", subnet := some "172.30.0.0/16" })]

/-- The volumes, which depend on nothing. -/
def volumes : List (String × Volume) :=
  [("postgres_data", {}),
    ("user_profiles", { name := some "guacamole_user_profiles" }),
    ("recordings", {})]

/-- The whole topology. -/
def topology : Topology where
  name := "guacamole"
  services := services settings
  networks := networks
  volumes := volumes

end Intended

/-! ### Escaping every text -/

/-- Numbers have no dollar sign. -/
theorem dollar_not_mem_toString (n : Nat) : '$' ∉ (toString n).toList := by
  intro h
  have hrepr : (toString n).toList = Nat.toDigits 10 n := Nat.toList_repr
  rw [hrepr] at h
  exact absurd (Document.isDigit_of_mem_toDigits h) (by decide)

/-- Values that are replaced are found below the same names. -/
theorem lookup_map_value {α β : Type} (f : α → β) (entries : List (String × α)) (name : String) :
    (entries.map fun (name, value) => (name, f value)).lookup name =
      (entries.lookup name).map f := by
  induction entries with
  | nil => rfl
  | cons entry entries ih =>
    rw [List.map_cons, List.lookup_cons, List.lookup_cons, ih]
    cases name == entry.1 <;> rfl

theorem escapeValues_append (entries more : List (String × String)) :
    escapeValues (entries ++ more) = escapeValues entries ++ escapeValues more :=
  List.map_append

/-- A probe with every text escaped. -/
def Probe.escaped (probe : Probe) : Probe where
  test := probe.test.map escape
  startPeriod := probe.startPeriod.map escape

/-- A service with every text escaped. -/
def Service.escaped (service : Service) : Service where
  image := escape service.image
  entrypoint := service.entrypoint.map escape
  addedCapabilities := service.addedCapabilities.map escape
  addedGroups := service.addedGroups.map escape
  environment := escapeValues service.environment
  ports := service.ports.map escape
  volumes := service.volumes.map escape
  networks := service.networks.map escape
  dependencies := service.dependencies
  probe := service.probe.escaped

/-- A network with every text escaped. -/
def Network.escaped (network : Network) : Network :=
  { network with name := network.name.map escape, subnet := network.subnet.map escape }

/-- A volume with every text escaped. -/
def Volume.escaped (volume : Volume) : Volume :=
  { name := volume.name.map escape }

/-- A topology with every text escaped. -/
def Topology.escaped (topology : Topology) : Topology where
  name := escape topology.name
  services := topology.services.map fun (name, service) => (name, service.escaped)
  networks := topology.networks.map fun (name, network) => (name, network.escaped)
  volumes := topology.volumes.map fun (name, volume) => (name, volume.escaped)

/-! ### Putting services together -/

section Steps

variable {probe : Probe} {service : Service}

theorem escaped_ofShell (command : String) :
    Probe.ofShell command = (Probe.mk ["CMD-SHELL", command] none).escaped := by
  rw [Probe.escaped, List.map_cons, escape_eq_self (by decide)]
  rfl

theorem escaped_ofWords (words : List String) :
    Probe.ofWords words = (Probe.mk words none).escaped :=
  rfl

theorem escaped_after {period : String} (h : '$' ∉ period.toList) :
    probe.escaped.after period = (probe.after period).escaped := by
  rw [Probe.after, Probe.after, Probe.escaped, Probe.escaped, Option.map_some, escape_eq_self h]

/-- A service that is begun escapes its image; networks have to do without. -/
theorem escaped_ofImage {image : String} {networks : List String}
    (h : ∀ network ∈ networks, '$' ∉ network.toList) :
    Service.ofImage image networks probe.escaped =
      Service.escaped { image, networks, probe } := by
  rw [Service.escaped, map_escape_eq_self h]
  rfl

theorem escaped_withVariables (entries : List (String × String)) :
    service.escaped.withVariables entries =
      { service with environment := service.environment ++ entries }.escaped := by
  rw [Service.withVariables, Service.escaped, Service.escaped, escapeValues_append]

theorem escaped_withVolumes (volumes : List String) :
    service.escaped.withVolumes volumes =
      { service with volumes := service.volumes ++ volumes }.escaped := by
  rw [Service.withVolumes, Service.escaped, Service.escaped, List.map_append]

theorem escaped_afterHealthy (names : List String) :
    service.escaped.afterHealthy names =
      { service with dependencies := service.dependencies ++ names }.escaped :=
  rfl

/-! What no step escapes has to do without dollar signs, or has been escaped by hand. -/

theorem escaped_capabilities {capabilities : List String}
    (h : ∀ capability ∈ capabilities, '$' ∉ capability.toList) :
    { service.escaped with addedCapabilities := capabilities } =
      { service with addedCapabilities := capabilities }.escaped := by
  rw [Service.escaped, Service.escaped, map_escape_eq_self h]

theorem escaped_groups {groups : List String} (h : ∀ group ∈ groups, '$' ∉ group.toList) :
    { service.escaped with addedGroups := groups } =
      { service with addedGroups := groups }.escaped := by
  rw [Service.escaped, Service.escaped, map_escape_eq_self h]

theorem escaped_ports {ports : List String} (h : ∀ port ∈ ports, '$' ∉ port.toList) :
    { service.escaped with ports } = { service with ports }.escaped := by
  rw [Service.escaped, Service.escaped, map_escape_eq_self h]

theorem escaped_entrypoint {written meant : String} (h : escape meant = written) :
    { service.escaped with entrypoint := some written } =
      { service with entrypoint := some meant }.escaped := by
  rw [Service.escaped, Service.escaped, Option.map_some, h]

end Steps

/-! ### Services -/

section Services

variable {settings : Settings} {service : Service}

theorem image_of_imageOf {component : Component} {reference : String}
    (h : imageOf settings component = .ok reference) :
    Intended.image settings component = reference := by
  rw [Intended.image, imageOf_eq_ok.mp h, Option.getD_some]

theorem escaped_postgres (h : postgres settings = .ok service) :
    service = (Intended.postgres settings).escaped := by
  obtain ⟨reference, hreference, h⟩ := Outcome.bind_eq_ok.mp h
  cases h
  rw [escaped_ofShell, escaped_ofImage (by decide), escaped_withVariables, escaped_withVolumes,
    Intended.postgres, image_of_imageOf hreference]
  rfl

theorem escaped_guacd (h : guacd settings = .ok service) :
    service = (Intended.guacd settings).escaped := by
  obtain ⟨reference, hreference, h⟩ := Outcome.bind_eq_ok.mp h
  cases h
  rw [escaped_ofShell, escaped_ofImage (by decide), escaped_withVolumes, escaped_afterHealthy,
    escaped_capabilities (by decide), Intended.guacd, image_of_imageOf hreference]
  rfl

theorem escaped_application (h : application settings = .ok service) :
    service = (Intended.application settings).escaped := by
  obtain ⟨reference, hreference, h⟩ := Outcome.bind_eq_ok.mp h
  cases h
  rw [escaped_ofShell, escaped_after (by decide), escaped_ofImage (by decide),
    escaped_withVariables, escaped_withVolumes, escaped_afterHealthy, Intended.application,
    image_of_imageOf hreference]
  rfl

theorem escaped_broker (h : broker settings = .ok service) :
    service = (Intended.broker settings).escaped := by
  rw [broker] at h
  split at h
  · cases h
  · next group hgroup =>
    obtain ⟨reference, hreference, h⟩ := Outcome.bind_eq_ok.mp h
    rw [escaped_ofWords, escaped_after (by decide), escaped_ofImage (by decide),
      escaped_withVariables, escaped_withVariables, escaped_withVariables, escaped_withVolumes,
      escaped_afterHealthy] at h
    dsimp only [List.nil_append] at h
    cases h
    have hgroups : ∀ text ∈ [toString group], '$' ∉ text.toList :=
      List.forall_mem_singleton.mpr (dollar_not_mem_toString group)
    have hintended : Intended.broker settings =
        { image := reference
          addedGroups := [toString group]
          environment := keyVariables settings.broker ++ brokerVariables settings ++
            settings.vault.toList.flatMap vaultVariables
          volumes := brokerVolumes settings.runtime
          networks := [internalNetwork, sessionNetwork]
          dependencies := [applicationService, postgresService]
          probe := ⟨brokerProbe, some "20s"⟩ } := by
      rw [Intended.broker, Intended.brokerEnvironment, image_of_imageOf hreference, hgroup]
      rfl
    rw [hintended]
    exact escaped_groups hgroups

theorem escaped_proxy (h : proxy settings = .ok service) :
    service = (Intended.proxy settings).escaped := by
  obtain ⟨reference, hreference, h⟩ := Outcome.bind_eq_ok.mp h
  cases h
  have hport : ∀ (port : Nat) (inner : String), '$' ∉ inner.toList →
      '$' ∉ (toString port ++ inner).toList := by
    intro port inner hinner
    rw [String.toList_append, List.mem_append, not_or]
    exact ⟨dollar_not_mem_toString port, hinner⟩
  have hports : ∀ text ∈ [toString settings.proxy.httpPort ++ ":80",
      toString settings.proxy.httpsPort ++ ":443"], '$' ∉ text.toList := by
    simp only [List.forall_mem_cons]
    exact ⟨hport _ _ (by decide), hport _ _ (by decide), List.forall_mem_nil _⟩
  rw [escaped_ofShell, escaped_ofImage (by decide), escaped_withVolumes, escaped_afterHealthy,
    escaped_ports hports, Intended.proxy, image_of_imageOf hreference]
  rfl

/-- The command that renews certificates is the only text that is escaped by hand. -/
theorem escape_renewalCommand :
    escape ("/bin/sh -c 'trap exit TERM; while :; do certbot renew --webroot -w " ++ webrootMount ++
        " --quiet; sleep 12h & wait $\x7b!\x7d; done;'") =
      "/bin/sh -c 'trap exit TERM; while :; do certbot renew --webroot -w " ++ webrootMount ++
        " --quiet; sleep 12h & wait $$\x7b!\x7d; done;'" := by
  have hfront : escape "/bin/sh -c 'trap exit TERM; while :; do certbot renew --webroot -w " =
      "/bin/sh -c 'trap exit TERM; while :; do certbot renew --webroot -w " :=
    escape_eq_self (by decide)
  have hmount : escape webrootMount = webrootMount := escape_eq_self (by decide)
  have hend : escape " --quiet; sleep 12h & wait $\x7b!\x7d; done;'" =
      " --quiet; sleep 12h & wait $$\x7b!\x7d; done;'" := by decide +kernel
  rw [escape_append, escape_append, hfront, hmount, hend]

theorem escaped_renewal (h : renewal settings = .ok service) :
    service = (Intended.renewal settings).escaped := by
  obtain ⟨reference, hreference, h⟩ := Outcome.bind_eq_ok.mp h
  cases h
  rw [escaped_ofShell, escaped_ofImage (by decide), escaped_withVolumes,
    escaped_entrypoint escape_renewalCommand, Intended.renewal, image_of_imageOf hreference]
  rfl

theorem escaped_renewalServices {services : List (String × Service)}
    (h : renewalServices settings = .ok services) :
    services = (Intended.renewalServices settings).map fun (name, service) =>
      (name, service.escaped) := by
  cases hsource : settings.tls.source with
  | selfSigned =>
    rw [renewalServices_selfSigned hsource] at h
    cases h
    rw [Intended.renewalServices, hsource]
    rfl
  | letsEncrypt =>
    obtain ⟨service, hservice, rfl⟩ := renewalServices_letsEncrypt hsource h
    rw [Intended.renewalServices, hsource, escaped_renewal hservice]
    rfl

end Services

/-! ### The whole -/

section Whole

variable {settings : Settings} {topology : Topology}

/-- The networks have no dollar sign in their texts. -/
theorem escaped_networks :
    (Intended.networks.map fun (name, network) => (name, network.escaped)) =
      Intended.networks := by
  decide +kernel

/-- Nor have the volumes. -/
theorem escaped_volumes :
    (Intended.volumes.map fun (name, volume) => (name, volume.escaped)) = Intended.volumes := by
  decide +kernel

/-- **A topology that is built is the intended one, with every text escaped once.** -/
theorem eq_escaped_of_build (h : build settings = .ok topology) :
    topology = (Intended.topology settings).escaped := by
  obtain ⟨services, rfl⟩ := exists_services h
  have hservices : services.named =
      (Intended.services settings).map fun (name, service) => (name, service.escaped) := by
    rw [Services.named, escaped_postgres services.postgres_eq, escaped_guacd services.guacd_eq,
      escaped_application services.application_eq, escaped_broker services.broker_eq,
      escaped_proxy services.proxy_eq, escaped_renewalServices services.renewal_eq,
      Intended.services, List.map_append]
    rfl
  have hname : escape "guacamole" = "guacamole" := escape_eq_self (by decide)
  rw [Topology.escaped, Intended.topology, escaped_networks, escaped_volumes, hname,
    Services.topology, hservices]
  rfl

end Whole

/-! ### As a tree -/

/-- The compose file of a topology as a tree. -/
def Topology.node (topology : Topology) : Node :=
  .mapping topology.toEntries

section Tree

theorem mapEntries_append (f : String → String) (entries more : List (String × Node)) :
    Node.mapEntries f (entries ++ more) = Node.mapEntries f entries ++ Node.mapEntries f more := by
  induction entries with
  | nil => rfl
  | cons entry entries ih => rw [List.cons_append, Node.mapEntries, ih]; rfl

theorem mapEntries_map {α : Type} (toNode : α → Node) (escaped : α → α)
    (h : ∀ value, (toNode value).mapTexts escape = toNode (escaped value))
    (entries : List (String × α)) :
    Node.mapEntries escape (entries.map fun (name, value) => (name, toNode value)) =
      (entries.map fun (name, value) => (name, escaped value)).map fun (name, value) =>
        (name, toNode value) := by
  induction entries with
  | nil => rfl
  | cons entry entries ih => rw [List.map_cons, Node.mapEntries, ih, h]; rfl

theorem mapTexts_texts (values : List String) :
    (texts values).mapTexts escape = texts (values.map escape) := by
  rw [texts, texts, Node.mapTexts, Node.mapItems_eq_map, List.map_map, List.map_map]
  rfl

theorem mapEntries_optionalEntry (key : String) (value : Option String) :
    Node.mapEntries escape (optionalEntry key value) = optionalEntry key (value.map escape) := by
  cases value <;> rfl

theorem mapEntries_listEntry (key : String) (values : List String) :
    Node.mapEntries escape (listEntry key values) = listEntry key (values.map escape) := by
  cases values with
  | nil => rfl
  | cons value values => exact congrArg (fun node => [(key, node)]) (mapTexts_texts _)

theorem mapEntries_mappingEntry (key : String) (entries : List (String × Node)) :
    Node.mapEntries escape (mappingEntry key entries) =
      mappingEntry key (Node.mapEntries escape entries) := by
  cases entries <;> rfl

theorem mapTexts_probe (probe : Probe) :
    probe.toNode.mapTexts escape = probe.escaped.toNode := by
  have hinterval : escape "10s" = "10s" := escape_eq_self (by decide)
  have htimeout : escape "5s" = "5s" := escape_eq_self (by decide)
  rw [Probe.toNode, Probe.toNode, Node.mapTexts, mapEntries_append, mapEntries_optionalEntry]
  simp only [Node.mapEntries, Node.mapTexts, mapTexts_texts, hinterval, htimeout, Probe.escaped]

theorem mapTexts_loggingNode : loggingNode.mapTexts escape = loggingNode := by
  have hdriver : escape "json-file" = "json-file" := escape_eq_self (by decide)
  have hfiles : escape "3" = "3" := escape_eq_self (by decide)
  have hsize : escape "10m" = "10m" := escape_eq_self (by decide)
  simp only [loggingNode, Node.mapTexts, Node.mapEntries, hdriver, hfiles, hsize]

theorem mapTexts_service (service : Service) :
    service.toNode.mapTexts escape = service.escaped.toNode := by
  have hrestart : escape "unless-stopped" = "unless-stopped" := escape_eq_self (by decide)
  have hcondition : escape "service_healthy" = "service_healthy" := escape_eq_self (by decide)
  have hdependencies : Node.mapEntries escape (service.dependencies.map fun name =>
      (name, .mapping [("condition", .text "service_healthy")])) =
        service.dependencies.map fun name =>
          (name, .mapping [("condition", .text "service_healthy")]) := by
    induction service.dependencies with
    | nil => rfl
    | cons name names ih =>
      rw [List.map_cons, Node.mapEntries, ih]
      simp only [Node.mapTexts, Node.mapEntries, hcondition]
  rw [Service.toNode, Service.toNode, Node.mapTexts]
  simp only [mapEntries_append, mapEntries_optionalEntry, mapEntries_listEntry,
    mapEntries_mappingEntry, mapEntries_map Node.text escape fun _ => rfl, hdependencies]
  simp only [Node.mapEntries, Node.mapTexts, mapTexts_texts, mapTexts_probe,
    mapTexts_loggingNode, hrestart, Service.escaped, escapeValues]

theorem mapTexts_network (network : Network) :
    network.toNode.mapTexts escape = network.escaped.toNode := by
  have hdriver : escape "bridge" = "bridge" := escape_eq_self (by decide)
  obtain ⟨name, internal, subnet⟩ := network
  rw [Network.toNode, Network.toNode, Node.mapTexts]
  simp only [mapEntries_append, mapEntries_optionalEntry, Network.escaped]
  cases internal <;> cases subnet <;>
    simp only [Node.mapEntries, Node.mapTexts, Node.mapItems, hdriver, Option.map_some,
      Option.map_none, if_true, Bool.false_eq_true, if_false]

theorem mapTexts_volume (volume : Volume) :
    volume.toNode.mapTexts escape = volume.escaped.toNode :=
  congrArg Node.mapping (mapEntries_optionalEntry _ _)

/-- Escaping the texts of a topology is escaping those of its compose file. -/
theorem mapTexts_node (topology : Topology) :
    topology.node.mapTexts escape = topology.escaped.node := by
  rw [Topology.node, Topology.node, Topology.toEntries, Topology.toEntries, Node.mapTexts]
  simp only [Node.mapEntries, Node.mapTexts, Topology.escaped,
    mapEntries_map Service.toNode Service.escaped mapTexts_service,
    mapEntries_map Network.toNode Network.escaped mapTexts_network,
    mapEntries_map Volume.toNode Volume.escaped mapTexts_volume]

end Tree

/-- **The compose file of a topology that is built is the intended one with every text escaped
once.** -/
theorem node_of_build {settings : Settings} {topology : Topology}
    (h : build settings = .ok topology) :
    topology.node = (Intended.topology settings).node.mapTexts escape := by
  rw [mapTexts_node, eq_escaped_of_build h]

end RemoteGateway.Compose
