import RemoteGateway.Compose.Interpolation
import RemoteGateway.Yaml.Node

/-!
# Topologies

A topology is the set of services, networks and volumes that a container runtime starts as
one deployment. It holds every text as it stands in the compose file.

Services are put together step by step. The steps that take texts which may come from a
configuration escape them: the image of a service, the words of its probe, its variables and its
volumes. Everything else goes into a service as it is given, and whoever gives it has to see to
its dollar signs.

All services are restarted unless stopped, keep bounded logs, and start only when those they
depend on report healthy.
-/

namespace RemoteGateway.Compose

open Yaml (Node)

/-- How the runtime finds out whether a service is healthy. -/
structure Probe where
  /-- The words of the command. -/
  test : List String
  /-- For how long failures do not count after the start. -/
  startPeriod : Option String
  deriving DecidableEq

/-- A service. Variables and dependencies are in the order of their names. -/
structure Service where
  image : String
  entrypoint : Option String := none
  addedCapabilities : List String := []
  addedGroups : List String := []
  environment : List (String × String) := []
  ports : List String := []
  volumes : List String := []
  networks : List String
  dependencies : List String := []
  probe : Probe
  deriving DecidableEq

/-- A network. -/
structure Network where
  name : Option String := none
  /-- Whether nothing outside can be reached from it. -/
  internal : Bool := false
  subnet : Option String := none
  deriving DecidableEq

/-- A volume, with a name when the one that the runtime would give it is not wanted. -/
structure Volume where
  name : Option String := none
  deriving DecidableEq

/-- The parts of a deployment, each with its name. -/
structure Topology where
  name : String
  services : List (String × Service)
  networks : List (String × Network)
  volumes : List (String × Volume)
  deriving DecidableEq

/-! ### Putting services together -/

/-- A probe that runs a program. -/
def Probe.ofWords (words : List String) : Probe :=
  { test := words.map escape, startPeriod := none }

/-- A probe that runs a command of the shell. -/
def Probe.ofShell (command : String) : Probe :=
  { test := ["CMD-SHELL", escape command], startPeriod := none }

/-- The probe with a time after the start for which failures do not count. -/
def Probe.after (probe : Probe) (period : String) : Probe :=
  { probe with startPeriod := some period }

/-- A service that runs from an image. -/
def Service.ofImage (image : String) (networks : List String) (probe : Probe) : Service :=
  { image := escape image, networks, probe }

/-- Variables with every value escaped. -/
def escapeValues (entries : List (String × String)) : List (String × String) :=
  entries.map fun (name, value) => (name, escape value)

/-- The service with more variables. -/
def Service.withVariables (service : Service) (entries : List (String × String)) : Service :=
  { service with environment := service.environment ++ escapeValues entries }

/-- The service with more volumes. -/
def Service.withVolumes (service : Service) (volumes : List String) : Service :=
  { service with volumes := service.volumes ++ volumes.map escape }

/-- The service, started only when further ones are healthy. -/
def Service.afterHealthy (service : Service) (names : List String) : Service :=
  { service with dependencies := service.dependencies ++ names }

/-! ### As a tree -/

/-- An entry that stands only when there is a text. -/
def optionalEntry (key : String) (value : Option String) : List (String × Node) :=
  match value with
  | some text => [(key, .text text)]
  | none => []

/-- A sequence of texts. -/
def texts (values : List String) : Node :=
  .sequence (values.map Node.text)

/-- An entry that stands only when there are texts. -/
def listEntry (key : String) (values : List String) : List (String × Node) :=
  if values.isEmpty then [] else [(key, texts values)]

/-- An entry that stands only when its mapping has entries. -/
def mappingEntry (key : String) (entries : List (String × Node)) : List (String × Node) :=
  if entries.isEmpty then [] else [(key, .mapping entries)]

/-- The tree of a probe. -/
def Probe.toNode (probe : Probe) : Node :=
  .mapping
    ([("test", texts probe.test),
      ("interval", .text "10s"),
      ("timeout", .text "5s"),
      ("retries", .integer 5)] ++
      optionalEntry "start_period" probe.startPeriod)

/-- The tree of the logging that every service has. -/
def loggingNode : Node :=
  .mapping
    [("driver", .text "json-file"),
      ("options", .mapping [("max-file", .text "3"), ("max-size", .text "10m")])]

/-- The tree of a service. -/
def Service.toNode (service : Service) : Node :=
  .mapping
    ([("image", .text service.image), ("restart", .text "unless-stopped")] ++
      optionalEntry "entrypoint" service.entrypoint ++
      listEntry "cap_add" service.addedCapabilities ++
      listEntry "group_add" service.addedGroups ++
      mappingEntry "environment" (service.environment.map fun (name, value) =>
        (name, .text value)) ++
      listEntry "ports" service.ports ++
      listEntry "volumes" service.volumes ++
      [("networks", texts service.networks)] ++
      mappingEntry "depends_on" (service.dependencies.map fun name =>
        (name, .mapping [("condition", .text "service_healthy")])) ++
      [("healthcheck", service.probe.toNode), ("logging", loggingNode)])

/-- The tree of a network. -/
def Network.toNode (network : Network) : Node :=
  .mapping
    (optionalEntry "name" network.name ++
      [("driver", .text "bridge")] ++
      (if network.internal then [("internal", .boolean true)] else []) ++
      match network.subnet with
      | some subnet =>
        [("ipam", .mapping [("config", .sequence [.mapping [("subnet", .text subnet)]])])]
      | none => [])

/-- The tree of a volume. -/
def Volume.toNode (volume : Volume) : Node :=
  .mapping (optionalEntry "name" volume.name)

/-- The entries of the compose file. -/
def Topology.toEntries (topology : Topology) : List (String × Node) :=
  [("name", .text topology.name),
    ("services", .mapping (topology.services.map fun (name, service) => (name, service.toNode))),
    ("networks", .mapping (topology.networks.map fun (name, network) => (name, network.toNode))),
    ("volumes", .mapping (topology.volumes.map fun (name, volume) => (name, volume.toNode)))]

end RemoteGateway.Compose
