import RemoteGateway.Proofs.Compose.Meaning
import RemoteGateway.Proofs.Deployment.Generating
import RemoteGateway.Proofs.Settings.Footprint

/-!
# Where secrets are

The passwords, the key of the broker and the credentials of the vault are **secrets**. Each of them
is the value of a variable of some service and stands nowhere else: settings whose secrets are
concealed lead to the same topology with those variables concealed (`build_conceal`), and to the
same artifacts otherwise. The variables of the vault and the key of the broker are told to the
broker alone, and only when there are a vault and a key. `build_confines` puts both together.
-/

namespace RemoteGateway

/-! ### Settings without secrets -/

/-- The same way to prove oneself, with nothing in place of the credentials. -/
def VaultAuth.conceal : VaultAuth → VaultAuth
  | token _ => token ""
  | appRole _ _ => appRole "" ""

/-- The settings with nothing in place of every secret. Which secrets there are still shows. -/
def Settings.conceal (settings : Settings) : Settings :=
  { settings with
    database := { settings.database with password := "" }
    admin := { settings.admin with password := "" }
    broker := { settings.broker with apiKey := settings.broker.apiKey.map fun _ => "" }
    vault := settings.vault.map fun vault => { vault with auth := vault.auth.conceal } }

namespace Compose

/-! ### Topologies without secrets -/

/-- The variables that hold secrets, each behind its service. -/
def secretVariables : List (String × String) :=
  [("postgres", "POSTGRES_PASSWORD"),
    ("guacamole", "POSTGRESQL_PASSWORD"),
    ("session-broker", "DATABASE_PASSWORD"),
    ("session-broker", "GUACAMOLE_ADMIN_PASSWORD"),
    ("session-broker", "BROKER_API_KEY"),
    ("session-broker", "VAULT_TOKEN"),
    ("session-broker", "VAULT_ROLE_ID"),
    ("session-broker", "VAULT_SECRET_ID")]

/-- Variables of a service with nothing in place of every secret. -/
def concealVariables (service : String) (entries : List (String × String)) :
    List (String × String) :=
  entries.map fun (name, value) =>
    (name, if (service, name) ∈ secretVariables then "" else value)

/-- A service with nothing in place of every secret. -/
def Service.conceal (name : String) (service : Service) : Service :=
  { service with environment := concealVariables name service.environment }

/-- Services with nothing in place of every secret. -/
def concealServices (services : List (String × Service)) : List (String × Service) :=
  services.map fun (name, service) => (name, service.conceal name)

/-- A topology with nothing in place of every secret. -/
def Topology.conceal (topology : Topology) : Topology :=
  { topology with services := concealServices topology.services }

section Concealing

theorem concealVariables_append (service : String) (entries more : List (String × String)) :
    concealVariables service (entries ++ more) =
      concealVariables service entries ++ concealVariables service more :=
  List.map_append

/-- Concealing a variable before or after it is escaped is the same. -/
theorem conceal_withVariables (name : String) (service : Service)
    (entries : List (String × String)) :
    (service.withVariables entries).conceal name =
      (service.conceal name).withVariables (concealVariables name entries) := by
  have hempty : escape "" = "" := escape_eq_self (by decide)
  have hentries : concealVariables name (escapeValues entries) =
      escapeValues (concealVariables name entries) := by
    rw [concealVariables, concealVariables, escapeValues, escapeValues, List.map_map, List.map_map]
    refine List.map_congr_left fun entry _ => ?_
    simp only [Function.comp_apply]
    split
    · rw [hempty]
    · rfl
  simp only [Service.conceal, Service.withVariables, concealVariables_append, hentries]

variable (settings : Settings)

theorem imageOf_conceal (component : Component) :
    imageOf settings.conceal component = imageOf settings component :=
  rfl

theorem postgres_conceal :
    postgres settings.conceal = (postgres settings).map (Service.conceal "postgres") := by
  rw [postgres, postgres, imageOf_conceal]
  cases imageOf settings .postgres <;> rfl

theorem guacd_conceal :
    guacd settings.conceal = (guacd settings).map (Service.conceal "guacd") := by
  rw [guacd, guacd, imageOf_conceal]
  cases imageOf settings .guacd <;> rfl

theorem application_conceal :
    application settings.conceal = (application settings).map (Service.conceal "guacamole") := by
  rw [application, application, imageOf_conceal]
  cases imageOf settings .guacamole <;> rfl

theorem vaultVariables_conceal (vault : VaultSettings) :
    vaultVariables { vault with auth := vault.auth.conceal } =
      concealVariables "session-broker" (vaultVariables vault) := by
  obtain ⟨address, auth, mount, path⟩ := vault
  cases auth <;> rfl

theorem keyVariables_conceal :
    keyVariables settings.conceal.broker =
      concealVariables "session-broker" (keyVariables settings.broker) := by
  rw [keyVariables, keyVariables, Settings.conceal]
  cases settings.broker.apiKey <;> rfl

theorem vaultVariables_conceal_toList :
    settings.conceal.vault.toList.flatMap vaultVariables =
      concealVariables "session-broker" (settings.vault.toList.flatMap vaultVariables) := by
  rw [Settings.conceal]
  cases settings.vault with
  | none => rfl
  | some vault => simpa using vaultVariables_conceal vault

theorem brokerVariables_conceal :
    brokerVariables settings.conceal =
      concealVariables "session-broker" (brokerVariables settings) :=
  rfl

theorem broker_conceal :
    broker settings.conceal = (broker settings).map (Service.conceal "session-broker") := by
  have hruntime : settings.conceal.runtime = settings.runtime := rfl
  rw [broker, broker, imageOf_conceal, keyVariables_conceal, brokerVariables_conceal,
    vaultVariables_conceal_toList, hruntime]
  cases settings.runtime.group with
  | none => rfl
  | some group =>
    cases imageOf settings .broker with
    | error fault => rfl
    | ok image =>
      -- The variables are added in three steps, each with secrets of its own.
      have htold : ∀ begun : Service, (((begun.conceal "session-broker").withVariables
          (concealVariables "session-broker" (keyVariables settings.broker))).withVariables
          (concealVariables "session-broker" (brokerVariables settings))).withVariables
          (concealVariables "session-broker" (settings.vault.toList.flatMap vaultVariables)) =
            (((begun.withVariables (keyVariables settings.broker)).withVariables
              (brokerVariables settings)).withVariables
              (settings.vault.toList.flatMap vaultVariables)).conceal "session-broker" := by
        intro begun
        rw [conceal_withVariables, conceal_withVariables, conceal_withVariables]
      exact congrArg (fun service : Service => Except.ok
        { (service.withVolumes (brokerVolumes settings.runtime)).afterHealthy
            [Deployment.applicationService, Deployment.postgresService] with
          addedGroups := [toString group] })
        (htold (.ofImage image [internalNetwork, sessionNetwork]
          ((Probe.ofWords brokerProbe).after "20s")))

theorem proxy_conceal :
    proxy settings.conceal = (proxy settings).map (Service.conceal "nginx") := by
  rw [proxy, proxy, imageOf_conceal]
  cases imageOf settings .nginx <;> rfl

theorem renewalServices_conceal :
    renewalServices settings.conceal = (renewalServices settings).map concealServices := by
  have htls : settings.conceal.tls = settings.tls := rfl
  rw [renewalServices, renewalServices, renewal, renewal, imageOf_conceal, htls]
  cases settings.tls.source with
  | selfSigned => rfl
  | letsEncrypt => cases imageOf settings .certbot <;> rfl

/-- **Concealing all secrets and building commute.** -/
theorem build_conceal : build settings.conceal = (build settings).map Topology.conceal := by
  rw [build, build, postgres_conceal, guacd_conceal, application_conceal, broker_conceal,
    proxy_conceal, renewalServices_conceal]
  -- Each service in turn is built with and without its secrets, or not at all.
  refine Outcome.map_bind fun postgres => ?_
  refine Outcome.map_bind fun guacd => ?_
  refine Outcome.map_bind fun application => ?_
  refine Outcome.map_bind fun broker => ?_
  refine Outcome.map_bind fun proxy => ?_
  refine Outcome.map_bind fun renewal => ?_
  rfl

end Concealing

/-! ### What services are told -/

/-- The variables of a service whose names begin in some way. -/
def Service.variablesFrom (start : String) (service : Service) : List (String × String) :=
  service.environment.filter fun (name, _) => start.toList.isPrefixOf name.toList

/-- A service is told nothing about the vault, and not the key of the broker. -/
def Service.IsUntold (service : Service) : Prop :=
  service.variablesFrom "VAULT_" = [] ∧ service.environment.lookup "BROKER_API_KEY" = none

section Telling

/-- Escaping values leaves the names by which variables are found as they are. -/
theorem variablesFrom_escaped (start : String) (service : Service) :
    service.escaped.variablesFrom start = escapeValues (service.variablesFrom start) := by
  rw [Service.variablesFrom, Service.variablesFrom, Service.escaped, escapeValues, escapeValues,
    List.filter_map]
  rfl

theorem lookup_escaped (name : String) (service : Service) :
    service.escaped.environment.lookup name = (service.environment.lookup name).map escape :=
  lookup_map_value escape service.environment name

theorem Service.IsUntold.escaped {service : Service} (h : service.IsUntold) :
    service.escaped.IsUntold := by
  rw [Service.IsUntold, variablesFrom_escaped, lookup_escaped, h.1, h.2]
  exact ⟨rfl, rfl⟩

variable (settings : Settings)

/-- No service but the broker is told anything. -/
theorem isUntold_of_mem {name : String} {service : Service}
    (h : (name, service) ∈ Intended.services settings) (hname : name ≠ "session-broker") :
    service.IsUntold := by
  rw [Intended.services, List.mem_append, Intended.renewalServices] at h
  rcases h with h | h
  · simp only [List.mem_cons, Prod.mk.injEq, List.not_mem_nil, or_false] at h
    rcases h with ⟨-, rfl⟩ | ⟨-, rfl⟩ | ⟨-, rfl⟩ | ⟨rfl, -⟩ | ⟨-, rfl⟩
    · exact ⟨rfl, rfl⟩
    · exact ⟨rfl, rfl⟩
    · exact ⟨rfl, rfl⟩
    · exact absurd rfl hname
    · exact ⟨rfl, rfl⟩
  · cases hsource : settings.tls.source with
    | selfSigned =>
      rw [hsource] at h
      cases h
    | letsEncrypt =>
      rw [hsource, List.mem_singleton] at h
      cases h
      exact ⟨rfl, rfl⟩

/-- The broker is told about the vault what there is to tell, and its key. -/
theorem told_broker :
    (Intended.broker settings).variablesFrom "VAULT_" =
        settings.vault.toList.flatMap vaultVariables ∧
      (Intended.broker settings).environment.lookup "BROKER_API_KEY" =
        settings.broker.apiKey := by
  have hvault : (settings.vault.toList.flatMap vaultVariables).filter
      (fun (name, _) => "VAULT_".toList.isPrefixOf name.toList) =
        settings.vault.toList.flatMap vaultVariables := by
    cases settings.vault with
    | none => rfl
    | some vault =>
      obtain ⟨address, auth, mount, path⟩ := vault
      cases auth <;> rfl
  have hkey : (settings.vault.toList.flatMap vaultVariables).lookup "BROKER_API_KEY" = none := by
    cases settings.vault with
    | none => rfl
    | some vault =>
      obtain ⟨address, auth, mount, path⟩ := vault
      cases auth <;> rfl
  rw [Service.variablesFrom, Intended.broker, Intended.brokerEnvironment, keyVariables]
  cases settings.broker.apiKey with
  | none => exact ⟨hvault, hkey⟩
  | some key => exact ⟨hvault, rfl⟩

end Telling

end Compose

namespace Deployment

open Compose (Topology escape)

/-! ### All artifacts -/

theorem proxyMain_conceal (settings : Settings) :
    proxyMain settings.conceal = proxyMain settings :=
  rfl

theorem virtualHost_conceal (settings : Settings) :
    virtualHost settings.conceal = virtualHost settings :=
  rfl

theorem bootstrap_conceal (settings : Settings) :
    bootstrap settings.conceal = bootstrap settings :=
  rfl

/-- **Secrets are where they belong, and the vault is known to the broker alone**. The broker is
told where the vault is and the credentials for it when there is one, and its key when it has one,
each as an escaped text, and no other service is told either. Other secrets lead to a topology that
is the same except for the variables that hold them, and to the same files of the proxy and the same
script. -/
theorem build_confines {settings : Settings} {topology : Topology}
    (h : Compose.build settings = .ok topology) :
    (∃ broker, topology.services.lookup "session-broker" = some broker ∧
      (broker.variablesFrom "VAULT_" =
        match settings.vault with
        | none => []
        | some vault =>
          [("VAULT_ADDR", escape vault.address), ("VAULT_MOUNT", escape vault.mount),
            ("VAULT_PATH", escape vault.path)] ++
          match vault.auth with
          | .token token => [("VAULT_TOKEN", escape token)]
          | .appRole roleId secretId =>
            [("VAULT_ROLE_ID", escape roleId), ("VAULT_SECRET_ID", escape secretId)]) ∧
      (broker.variablesFrom "VAULT_" ≠ [] ↔ settings.vault.isSome) ∧
      broker.environment.lookup "BROKER_API_KEY" = settings.broker.apiKey.map escape) ∧
    (∀ name service, (name, service) ∈ topology.services → name ≠ "session-broker" →
      service.variablesFrom "VAULT_" = [] ∧
        service.environment.lookup "BROKER_API_KEY" = none) ∧
    ∀ other : Settings, other.conceal = settings.conceal →
      (∃ same, Compose.build other = .ok same ∧ same.conceal = topology.conceal) ∧
      proxyMain other = proxyMain settings ∧ virtualHost other = virtualHost settings ∧
      bootstrap other = bootstrap settings := by
  obtain ⟨hvault, hkey⟩ := Compose.told_broker settings
  have htopology := Compose.eq_escaped_of_build h
  refine ⟨⟨(Compose.Intended.broker settings).escaped, ?_, ?_, ?_, ?_⟩, ?_,
    fun other hother => ⟨?_, ?_, ?_, ?_⟩⟩
  · rw [htopology]
    rfl
  · rw [Compose.variablesFrom_escaped, hvault]
    cases settings.vault with
    | none => rfl
    | some vault =>
      obtain ⟨address, auth, mount, path⟩ := vault
      cases auth <;> rfl
  · rw [Compose.variablesFrom_escaped, hvault]
    cases settings.vault with
    | none => simp [Compose.escapeValues]
    | some vault => simp [Compose.vaultVariables, Compose.escapeValues]
  · rw [Compose.lookup_escaped, hkey]
  · intro name service hmem hname
    rw [htopology] at hmem
    obtain ⟨entry, hentry, heq⟩ := List.mem_map.mp hmem
    cases heq
    exact (Compose.isUntold_of_mem settings hentry hname).escaped
  · have hsame : (Compose.build other).map Topology.conceal = .ok topology.conceal := by
      rw [← Compose.build_conceal, hother, Compose.build_conceal, h]
      rfl
    exact Outcome.map_eq_ok.mp hsame
  · rw [← proxyMain_conceal, hother, proxyMain_conceal]
  · rw [← virtualHost_conceal, hother, virtualHost_conceal]
  · rw [← bootstrap_conceal, hother, bootstrap_conceal]

/-- The sample site with a vault, and with some secrets. -/
def guardedSettings (password key token : String) : Settings :=
  { Sample.settings with
    database := { Sample.settings.database with password }
    broker := { Sample.settings.broker with apiKey := some key }
    vault := some ⟨"http://vault:8200", .token token, "secret", "gateway"⟩ }

/-- The broker of the sample site is told the token for the vault, and with other secrets the
topology is the same except for them. -/
theorem build_confines_guarded :
    ∃ topology broker same, Compose.build (guardedSettings "p" "k" "t") = .ok topology ∧
      topology.services.lookup "session-broker" = some broker ∧
      broker.variablesFrom "VAULT_" =
        [("VAULT_ADDR", "http://vault:8200"), ("VAULT_MOUNT", "secret"),
          ("VAULT_PATH", "gateway"), ("VAULT_TOKEN", "t")] ∧
      Compose.build (guardedSettings "$p" "$k" "$t") = .ok same ∧
      same.conceal = topology.conceal := by
  obtain ⟨topology, h⟩ : ∃ topology, Compose.build (guardedSettings "p" "k" "t") = .ok topology :=
    ⟨_, rfl⟩
  obtain ⟨⟨broker, hbroker, hvault, -⟩, -, hconfined⟩ := build_confines h
  obtain ⟨⟨same, hsame, hconceal⟩, -⟩ := hconfined (guardedSettings "$p" "$k" "$t") rfl
  exact ⟨topology, broker, same, h, hbroker, hvault, hsame, hconceal⟩

end Deployment

end RemoteGateway
