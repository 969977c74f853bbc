import RemoteGateway.Compose.Build
import RemoteGateway.Proofs.Outcome

/-!
# The services of a topology

A topology is built service by service, and can only fail to be built because one of them does:
a component has no tag, or the group of the runtime's socket is not known. `Services` takes a
topology that was built apart into its services.
-/

namespace RemoteGateway.Compose

variable {settings : Settings}

/-- The services that were built for some settings. -/
structure Services (settings : Settings) where
  postgres : Service
  guacd : Service
  application : Service
  broker : Service
  proxy : Service
  renewal : List (String × Service)
  postgres_eq : Compose.postgres settings = .ok postgres
  guacd_eq : Compose.guacd settings = .ok guacd
  application_eq : Compose.application settings = .ok application
  broker_eq : Compose.broker settings = .ok broker
  proxy_eq : Compose.proxy settings = .ok proxy
  renewal_eq : renewalServices settings = .ok renewal

namespace Services

/-- The services with their names, in the order of the compose file. -/
def named (services : Services settings) : List (String × Service) :=
  [("postgres", services.postgres),
    ("guacd", services.guacd),
    ("guacamole", services.application),
    ("session-broker", services.broker),
    ("nginx", services.proxy)] ++ services.renewal

/-- The topology that the services make. -/
def topology (services : Services settings) : Topology :=
  { name := "guacamole"
    services := services.named
    networks :=
      [("internal", { internal := true }),
        ("frontend", {}),
        ("vnc-network", { name := some "guacamole_vnc-network", subnet := some "172.30.0.0/16" })]
    volumes :=
      [("postgres_data", {}),
        ("user_profiles", { name := some "guacamole_user_profiles" }),
        ("recordings", {})] }

end Services

/-- **Every topology that was built consists of its services.** -/
theorem exists_services {topology : Topology} (h : build settings = .ok topology) :
    ∃ services : Services settings, topology = services.topology := by
  obtain ⟨postgres, hpostgres, h⟩ := Outcome.bind_eq_ok.mp h
  obtain ⟨guacd, hguacd, h⟩ := Outcome.bind_eq_ok.mp h
  obtain ⟨application, happlication, h⟩ := Outcome.bind_eq_ok.mp h
  obtain ⟨broker, hbroker, h⟩ := Outcome.bind_eq_ok.mp h
  obtain ⟨proxy, hproxy, h⟩ := Outcome.bind_eq_ok.mp h
  obtain ⟨renewal, hrenewal, h⟩ := Outcome.bind_eq_ok.mp h
  cases h
  exact ⟨⟨postgres, guacd, application, broker, proxy, renewal, hpostgres, hguacd, happlication,
    hbroker, hproxy, hrenewal⟩, rfl⟩

/-- A component can be referred to when its tag was chosen. -/
theorem imageOf_eq_ok {component : Component} {reference : String} :
    imageOf settings component = .ok reference ↔
      (settings.images.get component).reference? = some reference := by
  rw [imageOf]
  cases (settings.images.get component).reference? with
  | none => exact ⟨fun h => (by cases h), fun h => (by cases h)⟩
  | some other =>
    constructor
    · intro h
      cases h
      rfl
    · intro h
      cases h
      rfl

/-- When no certificate is requested, there is nothing to renew. -/
theorem renewalServices_selfSigned (h : settings.tls.source = .selfSigned) :
    renewalServices settings = .ok [] := by
  rw [renewalServices, h]

/-- When a certificate is requested, one service renews it. -/
theorem renewalServices_letsEncrypt {services : List (String × Service)}
    (h : settings.tls.source = .letsEncrypt) (hservices : renewalServices settings = .ok services) :
    ∃ service, renewal settings = .ok service ∧ services = [("certbot", service)] := by
  rw [renewalServices, h] at hservices
  obtain ⟨service, hservice, hservices⟩ := Outcome.bind_eq_ok.mp hservices
  cases hservices
  exact ⟨service, hservice, rfl⟩

end RemoteGateway.Compose
