import RemoteGateway.Compose.Topology
import RemoteGateway.Proofs.Yaml.Legible

/-!
# Topologies that can be read

The keys of a compose file are plain, apart from those that a service brings with it: the names of
its variables and of the services it depends on. So the tree of a service is legible when these
are plain and its texts are legible (`Service.IsLegible.toNode`), whichever of its entries stand.
-/

namespace RemoteGateway.Compose

open Yaml

/-! ### Optional entries -/

section

variable {key : String} {keys : List String}

theorem keys_optionalEntry (value : Option String) :
    List.Sublist ((optionalEntry key value).map Prod.fst) [key] := by
  cases value with
  | none => exact List.nil_sublist _
  | some text => exact List.Sublist.refl _

theorem keys_listEntry (values : List String) :
    List.Sublist ((listEntry key values).map Prod.fst) [key] := by
  cases values with
  | nil => exact List.nil_sublist _
  | cons value values => exact List.Sublist.refl _

theorem keys_mappingEntry (entries : List (String × Node)) :
    List.Sublist ((mappingEntry key entries).map Prod.fst) [key] := by
  cases entries with
  | nil => exact List.nil_sublist _
  | cons entry entries => exact List.Sublist.refl _

theorem isLegible_texts {values : List String} (h : ∀ text ∈ values, IsLegibleText text) :
    (texts values).IsLegible := by
  refine areLegibleItems_iff.mpr fun item hitem => ?_
  obtain ⟨text, htext, rfl⟩ := List.mem_map.mp hitem
  exact h text htext

theorem isLegible_optionalEntry {value : Option String}
    (h : ∀ text ∈ value.toList, IsLegibleText text) :
    ∀ entry ∈ optionalEntry key value, entry.2.IsLegible := by
  cases value with
  | none => exact nofun
  | some text => exact List.forall_mem_singleton.mpr (h text List.mem_cons_self)

theorem isLegible_listEntry {values : List String} (h : ∀ text ∈ values, IsLegibleText text) :
    ∀ entry ∈ listEntry key values, entry.2.IsLegible := by
  cases values with
  | nil => exact nofun
  | cons value values => exact List.forall_mem_singleton.mpr (isLegible_texts h)

theorem isLegible_mappingEntry {entries : List (String × Node)} (h : AreLegibleEntries entries) :
    ∀ entry ∈ mappingEntry key entries, entry.2.IsLegible := by
  cases entries with
  | nil => exact nofun
  | cons entry entries => exact List.forall_mem_singleton.mpr h

end

/-! ### Services -/

/-- A service that is read back: all its texts are, and the keys that it brings with it are
plain. -/
structure Service.IsLegible (service : Service) : Prop where
  image : IsLegibleText service.image
  entrypoint : ∀ text ∈ service.entrypoint.toList, IsLegibleText text
  capabilities : ∀ text ∈ service.addedCapabilities, IsLegibleText text
  groups : ∀ text ∈ service.addedGroups, IsLegibleText text
  names : ArePlainKeys (service.environment.map Prod.fst)
  environment : ∀ text ∈ service.environment.map Prod.snd, IsLegibleText text
  ports : ∀ text ∈ service.ports, IsLegibleText text
  volumes : ∀ text ∈ service.volumes, IsLegibleText text
  networks : ∀ text ∈ service.networks, IsLegibleText text
  dependencies : ArePlainKeys service.dependencies
  test : ∀ text ∈ service.probe.test, IsLegibleText text
  startPeriod : ∀ text ∈ service.probe.startPeriod.toList, IsLegibleText text

/-- The keys of a service. -/
def serviceKeys : List String :=
  ["image", "restart", "entrypoint", "cap_add", "group_add", "environment", "ports", "volumes",
    "networks", "depends_on", "healthcheck", "logging"]

/-- The keys of a probe. -/
def probeKeys : List String :=
  ["test", "interval", "timeout", "retries", "start_period"]

theorem Probe.isLegible_toNode {probe : Probe} (htest : ∀ text ∈ probe.test, IsLegibleText text)
    (hstart : ∀ text ∈ probe.startPeriod.toList, IsLegibleText text) : probe.toNode.IsLegible := by
  have hsub : List.Sublist _ (["test", "interval", "timeout", "retries"] ++ ["start_period"]) :=
    (List.Sublist.refl _).append (keys_optionalEntry probe.startPeriod)
  refine areLegibleEntries_of_sublist (by decide : ArePlainKeys probeKeys) ?_ ?_
  · rw [List.map_append]
    exact hsub
  · rw [List.forall_mem_append]
    refine ⟨?_, isLegible_optionalEntry hstart⟩
    simp only [List.forall_mem_cons]
    exact ⟨isLegible_texts htest, by decide, by decide, by decide, List.forall_mem_nil _⟩

theorem isLegible_environment {environment : List (String × String)}
    (hkeys : ArePlainKeys (environment.map Prod.fst))
    (htexts : ∀ text ∈ environment.map Prod.snd, IsLegibleText text) :
    AreLegibleEntries (environment.map fun (name, value) => (name, Node.text value)) := by
  have hsame : (environment.map fun (name, value) => (name, Node.text value)).map Prod.fst =
      environment.map Prod.fst := by
    rw [List.map_map]
    rfl
  refine areLegibleEntries_iff.mpr ⟨hsame ▸ hkeys, fun entry hentry => ?_⟩
  obtain ⟨pair, hpair, rfl⟩ := List.mem_map.mp hentry
  exact htexts pair.2 (List.mem_map_of_mem hpair)

theorem isLegible_dependencies {names : List String} (h : ArePlainKeys names) :
    AreLegibleEntries
      (names.map fun name => (name, .mapping [("condition", .text "service_healthy")])) := by
  have hsame : (names.map fun name =>
      (name, Node.mapping [("condition", .text "service_healthy")])).map Prod.fst = names := by
    rw [List.map_map]
    exact List.map_id' names
  refine areLegibleEntries_iff.mpr ⟨hsame.symm ▸ h, fun entry hentry => ?_⟩
  obtain ⟨name, -, rfl⟩ := List.mem_map.mp hentry
  exact (by decide : (Node.mapping [("condition", .text "service_healthy")]).IsLegible)

/-- **The tree of a legible service is legible.** -/
theorem Service.IsLegible.toNode {service : Service} (h : service.IsLegible) :
    service.toNode.IsLegible := by
  refine areLegibleEntries_of_sublist (by decide : ArePlainKeys serviceKeys) ?_ ?_
  · simp only [List.map_append]
    exact (((((((((List.Sublist.refl ["image", "restart"]).append
      (keys_optionalEntry service.entrypoint)).append
      (keys_listEntry service.addedCapabilities)).append
      (keys_listEntry service.addedGroups)).append
      (keys_mappingEntry _)).append
      (keys_listEntry service.ports)).append
      (keys_listEntry service.volumes)).append
      (List.Sublist.refl ["networks"])).append
      (keys_mappingEntry _)).append
      (List.Sublist.refl ["healthcheck", "logging"])
  · simp only [List.forall_mem_append]
    refine ⟨⟨⟨⟨⟨⟨⟨⟨⟨?_, ?_⟩, ?_⟩, ?_⟩, ?_⟩, ?_⟩, ?_⟩, ?_⟩, ?_⟩, ?_⟩
    · simp only [List.forall_mem_cons]
      exact ⟨h.image, by decide, List.forall_mem_nil _⟩
    · exact isLegible_optionalEntry h.entrypoint
    · exact isLegible_listEntry h.capabilities
    · exact isLegible_listEntry h.groups
    · exact isLegible_mappingEntry (isLegible_environment h.names h.environment)
    · exact isLegible_listEntry h.ports
    · exact isLegible_listEntry h.volumes
    · exact List.forall_mem_singleton.mpr (isLegible_texts h.networks)
    · exact isLegible_mappingEntry (isLegible_dependencies h.dependencies)
    · simp only [List.forall_mem_cons]
      exact ⟨Probe.isLegible_toNode h.test h.startPeriod,
        (by decide : loggingNode.IsLegible), List.forall_mem_nil _⟩

/-! ### Topologies -/

/-- **A topology is legible** when its services, networks and volumes are. -/
theorem areLegibleEntries_toEntries {topology : Topology} (hname : IsLegibleText topology.name)
    (hnames : ArePlainKeys (topology.services.map Prod.fst))
    (hservices : ∀ service ∈ topology.services.map Prod.snd, service.IsLegible)
    (hnetworks : AreLegibleEntries
      (topology.networks.map fun (name, network) => (name, network.toNode)))
    (hvolumes : AreLegibleEntries
      (topology.volumes.map fun (name, volume) => (name, volume.toNode))) :
    AreLegibleEntries topology.toEntries := by
  have hentries : AreLegibleEntries
      (topology.services.map fun entry => (entry.1, entry.2.toNode)) := by
    refine areLegibleEntries_iff.mpr ⟨?_, fun entry hentry => ?_⟩
    · rw [List.map_map]
      exact hnames
    · obtain ⟨pair, hpair, rfl⟩ := List.mem_map.mp hentry
      exact (hservices pair.2 (List.mem_map_of_mem hpair)).toNode
  refine areLegibleEntries_iff.mpr ⟨(by decide : ArePlainKeys
    ["name", "services", "networks", "volumes"]), ?_⟩
  simp only [Topology.toEntries, List.forall_mem_cons]
  exact ⟨hname, hentries, hnetworks, hvolumes, List.forall_mem_nil _⟩

end RemoteGateway.Compose
