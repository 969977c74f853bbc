import RemoteGateway.Proofs.Certificate.Script
import RemoteGateway.Proofs.Outcome
import RemoteGateway.Proofs.Proxy.Intruding
import RemoteGateway.Proofs.Proxy.Spelling

/-!
# What artifacts are generated from

The templates can be filled in for whatever settings. All artifacts of a deployment can therefore
be generated once the services can be built and there is a virtual host (`exists_synthesize`): only
a tag, the group of the runtime's socket or the domain can be missing. The compose file is then the
text of the one, and the virtual host that of the other (`exists_writtenFrom`).
-/

namespace RemoteGateway.Deployment

open Proxy (Clause Declares Directive Intrudes IsSpelled ReadsAs VirtualHost intruder)

/-- When the images are chosen and a domain is there if it is needed, nothing else is missing. -/
theorem exists_synthesize {settings : Settings}
    (hbuild : ∃ topology, Compose.build settings = .ok topology)
    (hhost : ∃ host, VirtualHost.ofSettings settings = .ok host) :
    ∃ artifacts, synthesize settings = .ok artifacts := by
  obtain ⟨topology, htopology⟩ := hbuild
  obtain ⟨host, hhost⟩ := hhost
  have hcompose : compose settings = .ok topology.write := by
    rw [compose, htopology]
    rfl
  obtain ⟨main, hmain⟩ : ∃ text, proxyMain settings = .ok text := by
    rw [proxyMain]
    cases settings.tls.profile <;> exact ⟨_, rfl⟩
  have hvirtualHost : virtualHost settings = .ok (Proxy.Directive.write host.configuration) := by
    rw [virtualHost_eq, hhost]
    rfl
  obtain ⟨script, hscript⟩ : ∃ script, bootstrap settings = .ok script := by
    rw [VirtualHost.ofSettings] at hhost
    cases hsource : settings.tls.source with
    | selfSigned =>
      rw [bootstrap, hsource]
      exact ⟨_, rfl⟩
    | letsEncrypt =>
      rw [hsource] at hhost
      rw [bootstrap_eq hsource]
      cases hnames : settings.siteNames with
      | none =>
        rw [hnames] at hhost
        cases hhost
      | some names => exact ⟨_, rfl⟩
  rw [synthesize, hcompose, hmain, hvirtualHost, hscript]
  exact ⟨_, rfl⟩

/-- The text of a virtual host is written from its configuration. -/
theorem exists_host_of_virtualHost {settings : Settings} {text : String}
    (h : virtualHost settings = .ok text) :
    ∃ host, VirtualHost.ofSettings settings = .ok host ∧
      text = Directive.write host.configuration := by
  rw [virtualHost_eq] at h
  obtain ⟨host, hhost, htext⟩ := Outcome.map_eq_ok.mp h
  exact ⟨host, Outcome.mapError_eq_ok.mp hhost, htext.symm⟩

/-- What the artifacts of some settings are written from. -/
structure WrittenFrom (settings : Settings) (artifacts : Artifacts) (topology : Compose.Topology)
    (host : VirtualHost) : Prop where
  build_eq : Compose.build settings = .ok topology
  compose_eq : artifacts.compose = topology.write
  ofSettings_eq : VirtualHost.ofSettings settings = .ok host
  virtualHost_eq : artifacts.virtualHost = Directive.write host.configuration
  bootstrap_eq : bootstrap settings = .ok artifacts.bootstrap

theorem exists_writtenFrom {settings : Settings} {artifacts : Artifacts}
    (h : synthesize settings = .ok artifacts) :
    ∃ topology host, WrittenFrom settings artifacts topology host := by
  obtain ⟨compose, hcompose, h⟩ := Outcome.bind_eq_ok.mp h
  obtain ⟨proxyMain, -, h⟩ := Outcome.bind_eq_ok.mp h
  obtain ⟨virtualHost, hvirtualHost, h⟩ := Outcome.bind_eq_ok.mp h
  obtain ⟨bootstrap, hbootstrap, h⟩ := Outcome.bind_eq_ok.mp h
  cases h
  obtain ⟨topology, htopology, htext⟩ := Outcome.map_eq_ok.mp hcompose
  obtain ⟨host, hhost, hwritten⟩ := exists_host_of_virtualHost hvirtualHost
  exact ⟨topology, host, htopology, htext.symm, hhost, hwritten, hbootstrap⟩

/-- The virtual host of a site that is spelled as it is meant is read as it was written. -/
theorem WrittenFrom.readsAs {settings : Settings} {artifacts : Artifacts}
    {topology : Compose.Topology} {host : VirtualHost}
    (h : WrittenFrom settings artifacts topology host) (hspelled : IsSpelled settings)
    {property : List Clause → Prop}
    (hproperty : property (Directive.clausesAll host.configuration)) :
    ReadsAs artifacts.virtualHost property := by
  rw [h.virtualHost_eq]
  exact hspelled.readsAs h.ofSettings_eq hproperty

/-! ### A requested certificate -/

section

variable {settings : Settings} {artifacts : Artifacts} {names : Site.Names}

/-- The virtual host of a site whose certificate is requested. -/
theorem virtualHost_issued (h : synthesize settings = .ok artifacts)
    (hsource : settings.tls.source = .letsEncrypt) (hnames : settings.siteNames = some names) :
    artifacts.virtualHost = Directive.write (VirtualHost.issued settings names).configuration := by
  obtain ⟨_, host, hwritten⟩ := exists_writtenFrom h
  have hhost := hwritten.ofSettings_eq
  rw [VirtualHost.ofSettings, hsource, hnames] at hhost
  obtain rfl := Except.ok.inj hhost
  exact hwritten.virtualHost_eq

theorem isPlain_aliasName (hnames : settings.siteNames = some names)
    (hcanonical : Directive.isPlain names.canonical = true) :
    Directive.isPlain names.aliasName = true := by
  rw [aliasName_eq hnames, Proxy.isPlain_append, hcanonical]
  rfl

/-- It is read directive by directive even if the names are not words, as long as they end none. -/
theorem read_issued (h : synthesize settings = .ok artifacts)
    (hsource : settings.tls.source = .letsEncrypt) (hnames : settings.siteNames = some names)
    (hcanonical : Directive.isPlain names.canonical = true)
    (hresolver : Directive.isPlain settings.tls.resolver = true) :
    Proxy.read artifacts.virtualHost =
      some (Directive.clausesAll (VirtualHost.issued settings names).configuration) := by
  rw [virtualHost_issued h hsource hnames]
  exact Proxy.read_write (VirtualHost.spelled_issued hcanonical
    (isPlain_aliasName hnames hcanonical) hresolver).configuration

/-- What a resolver adds to a virtual host is read. -/
theorem readsAs_of_resolver {first name arguments : String}
    (h : synthesize settings = .ok artifacts) (hsource : settings.tls.source = .letsEncrypt)
    (hnames : settings.siteNames = some names)
    (hcanonical : Directive.isPlain names.canonical = true)
    (hintrudes : Intrudes first name arguments)
    (hresolver : settings.tls.resolver = intruder first name arguments) :
    ReadsAs artifacts.virtualHost (Declares name (Proxy.wordsOf arguments.toList)) := by
  rw [virtualHost_issued h hsource hnames]
  exact hintrudes.exists_added_of_resolver hcanonical (isPlain_aliasName hnames hcanonical)
    hresolver

end

end RemoteGateway.Deployment
