import Mathlib.Tactic.SplitIfs
import RemoteGateway.Proofs.Deployment.Generating
import RemoteGateway.Proofs.Settings.Footprint

/-!
# What each artifact depends on

Whoever changes one value of the document wants to know which files change. Each artifact has a
**footprint**, the keys that it depends on, and two documents that agree on it give the same
artifact whatever else they say (`footprints`). The footprint of the virtual host is smaller when
the certificate is generated on this host, and that of the compose file when there is no vault or
nothing to renew.
-/

namespace RemoteGateway.Deployment

open Document (Value)
open Proxy (VirtualHost)

/-! ### Footprints -/

/-- The settings with the group of the runtime's socket, if it is not configured but known. -/
def withKnownGroup (known : Option Nat) (settings : Settings) : Settings :=
  { settings with runtime := { settings.runtime with group := settings.runtime.group.or known } }

/-- The artifacts for a document. -/
def artifactsOf (known : Option Nat) (document : Value) : Except Fault Artifacts := do
  let settings ← (Settings.ofDocument document).mapError .config
  synthesize (withKnownGroup known settings)

/-- What the virtual host depends on. -/
def virtualHostKeys : List String :=
  ["ssl.mode", "ssl.domain", "ssl.resolver", "nginx.url_mode", "nginx.base_path",
    "nginx.subdomain", "nginx.https_port"]

/-- What the virtual host depends on when it answers to any name. -/
def localHostKeys : List String :=
  ["ssl.mode", "nginx.url_mode", "nginx.base_path", "nginx.https_port"]

/-- What the script depends on. -/
def scriptKeys : List String :=
  ["ssl.mode", "ssl.domain", "ssl.email", "ssl.staging", "nginx.url_mode", "nginx.subdomain"]

/-- The certificate is generated on this host. -/
def IsLocal (document : Value) : Prop :=
  document.getTextD "ssl.mode" "selfsigned" = "selfsigned"

/-- There is no vault. -/
def LacksVault (document : Value) : Prop :=
  document.getTextD "vault.enabled" "false" = "false"

instance (document : Value) : Decidable (IsLocal document) :=
  inferInstanceAs (Decidable (_ = _))

instance (document : Value) : Decidable (LacksVault document) :=
  inferInstanceAs (Decidable (_ = _))

/-- The keys that the compose file does not depend on. -/
def hiddenKeys (document : Value) : List String :=
  ["ssl.profile", "ssl.resolver", "ssl.email", "ssl.staging"] ++
    (if LacksVault document then vaultKeys else []) ++
    (if IsLocal document then imageKeys .certbot else [])

/-- What the compose file depends on. -/
def composeKeys (document : Value) : List String :=
  recognisedKeys.filter fun key => key ∉ hiddenKeys document

/-- What the compose file depends on whatever the document says. -/
def commonKeys : List String :=
  recognisedKeys.filter fun key =>
    key ∉ ["ssl.profile", "ssl.resolver", "ssl.email", "ssl.staging"] ++ vaultKeys ++
      imageKeys .certbot

theorem commonKeys_subset (document : Value) : commonKeys ⊆ composeKeys document := by
  intro key hkey
  obtain ⟨hkey, hapart⟩ := List.mem_filter.mp hkey
  refine List.mem_filter.mpr ⟨hkey, ?_⟩
  simp only [decide_eq_true_eq, List.mem_append, not_or] at hapart ⊢
  rw [hiddenKeys]
  split_ifs <;> simp_all

/-! ### The virtual host and the script -/

variable {own other : Settings}

/-- Requests for the root are sent on when the application is reached by a path. -/
theorem rootRedirect_eq (host : VirtualHost) :
    host.rootRedirect =
      if host.exposure.mode = "path" then
        [.blank,
          .block "location" (some "= /") [.simple "return" 1 ("302 " ++ host.exposure.basePath)]]
      else [] := by
  rw [VirtualHost.rootRedirect]
  cases host.exposure <;> rfl

/-- When the proxy answers to any name, neither label nor resolver count. -/
theorem configuration_generated_congr (hmode : own.proxy.exposure.mode = other.proxy.exposure.mode)
    (hbase : own.proxy.exposure.basePath = other.proxy.exposure.basePath)
    (hport : own.proxy.httpsPort = other.proxy.httpsPort) :
    (VirtualHost.generated own).configuration = (VirtualHost.generated other).configuration := by
  have hplain :
      (VirtualHost.generated own).plainBody = (VirtualHost.generated other).plainBody := by
    simp only [VirtualHost.plainBody, VirtualHost.redirectLine, VirtualHost.generated, hport]
  have hsite : (VirtualHost.generated own).siteBody = (VirtualHost.generated other).siteBody := by
    rw [VirtualHost.siteBody, VirtualHost.siteBody, rootRedirect_eq, rootRedirect_eq,
      VirtualHost.applicationBlock, VirtualHost.applicationBlock]
    simp only [VirtualHost.generated, hmode, hbase, VirtualHost.tlsLines, Proxy.whenStated]
    rfl
  rw [VirtualHost.configuration, VirtualHost.configuration, hplain, hsite]
  simp only [VirtualHost.generated, hmode, Proxy.whenStated]

theorem virtualHost_congr_selfSigned (hown : own.tls.source = .selfSigned)
    (hother : other.tls.source = .selfSigned)
    (hmode : own.proxy.exposure.mode = other.proxy.exposure.mode)
    (hbase : own.proxy.exposure.basePath = other.proxy.exposure.basePath)
    (hport : own.proxy.httpsPort = other.proxy.httpsPort) :
    virtualHost own = virtualHost other := by
  have hconfiguration := configuration_generated_congr hmode hbase hport
  rw [virtualHost_eq, virtualHost_eq, VirtualHost.ofSettings, VirtualHost.ofSettings, hown, hother]
  change Except.ok (Proxy.Directive.write _) = Except.ok (Proxy.Directive.write _)
  rw [hconfiguration]

theorem virtualHost_congr (hsource : own.tls.source = other.tls.source)
    (hnames : own.siteNames = other.siteNames)
    (hresolver : own.tls.resolver = other.tls.resolver)
    (hexposure : own.proxy.exposure = other.proxy.exposure)
    (hport : own.proxy.httpsPort = other.proxy.httpsPort) :
    virtualHost own = virtualHost other := by
  have hissued : VirtualHost.issued own = VirtualHost.issued other := by
    funext names
    rw [VirtualHost.issued, VirtualHost.issued, hresolver, hexposure, hport]
  rw [virtualHost, virtualHost, VirtualHost.ofSettings, VirtualHost.ofSettings,
    VirtualHost.generated, VirtualHost.generated, hissued, hsource, hnames, hresolver, hexposure,
    hport]

/-- The script depends on the names of the site, not on the path. -/
theorem bootstrap_congr (hsource : own.tls.source = other.tls.source)
    (hnames : own.siteNames = other.siteNames) (hemail : own.tls.email = other.tls.email)
    (hstaging : own.tls.staging = other.tls.staging) : bootstrap own = bootstrap other := by
  have hcontext : Certificate.bootstrapContext own = Certificate.bootstrapContext other := by
    funext names
    rw [Certificate.bootstrapContext, Certificate.bootstrapContext, hemail, hstaging]
  rw [bootstrap, bootstrap, hcontext, hsource, hnames]

/-! ### The compose file -/

/-- The images, with that of the service which renews a certificate reset when there is nothing
to renew. -/
def imagesInUse (settings : Settings) : Images :=
  match settings.tls.source with
  | .selfSigned => { settings.images with certbot := ⟨"", none⟩ }
  | .letsEncrypt => settings.images

/-- The settings with everything that is not in the compose file reset. -/
def forCompose (settings : Settings) : Settings :=
  { settings with
    tls :=
      { settings.tls with profile := .modern, email := none, resolver := "", staging := false }
    images := imagesInUse settings }

theorem build_forCompose (settings : Settings) :
    Compose.build (forCompose settings) = Compose.build settings := by
  obtain ⟨database, admin, broker, ⟨source, profile, domain, email, resolver, staging⟩, proxy,
    images, vault, runtime⟩ := settings
  cases source <;> rfl

/-- The compose file depends on nothing that was reset. -/
theorem compose_congr (h : forCompose own = forCompose other) : compose own = compose other := by
  rw [compose, compose, ← build_forCompose own, h, build_forCompose]

/-- Images are the same when they are the same for every component. -/
theorem eq_of_get {images same : Images}
    (h : ∀ component, images.get component = same.get component) :
    images = same := by
  obtain ⟨postgres, guacd, guacamole, broker, nginx, certbot⟩ := images
  obtain ⟨postgres', guacd', guacamole', broker', nginx', certbot'⟩ := same
  obtain rfl : postgres = postgres' := h .postgres
  obtain rfl : guacd = guacd' := h .guacd
  obtain rfl : guacamole = guacamole' := h .guacamole
  obtain rfl : broker = broker' := h .broker
  obtain rfl : nginx = nginx' := h .nginx
  obtain rfl : certbot = certbot' := h .certbot
  rfl

/-! ### Documents that agree -/

section Documents

variable {first second : Value} (hown : Reads first own) (hother : Reads second other)

include hown hother

theorem virtualHost_footprint (h : AgreeOn first second virtualHostKeys) :
    virtualHost own = virtualHost other := by
  refine virtualHost_congr ?_ ?_ ?_ ?_ ?_
  · exact hown.source_congr hother (h "ssl.mode" (by decide))
  · exact hown.siteNames_congr hother (h.mono (by decide))
  · exact hown.resolver_congr hother (h "ssl.resolver" (by decide))
  · exact hown.exposure_congr hother (h.mono (by decide))
  · exact hown.httpsPort_congr hother (h "nginx.https_port" (by decide))

theorem virtualHost_footprint_local (hlocal : IsLocal first)
    (h : AgreeOn first second localHostKeys) : virtualHost own = virtualHost other := by
  have hsource := hown.source_eq_selfSigned hlocal
  refine virtualHost_congr_selfSigned hsource ?_ ?_ ?_ ?_
  · rw [← hown.source_congr hother (h "ssl.mode" (by decide)), hsource]
  · exact hown.mode_congr hother (h "nginx.url_mode" (by decide))
  · exact hown.basePath_congr hother (h.mono (by decide))
  · exact hown.httpsPort_congr hother (h "nginx.https_port" (by decide))

theorem bootstrap_footprint (h : AgreeOn first second scriptKeys) :
    bootstrap own = bootstrap other := by
  refine bootstrap_congr ?_ ?_ ?_ ?_
  · exact hown.source_congr hother (h "ssl.mode" (by decide))
  · exact hown.siteNames_congr hother (h.mono (by decide))
  · exact hown.email_congr hother (h "ssl.email" (by decide))
  · exact hown.staging_congr hother (h "ssl.staging" (by decide))

/-- A vault counts only when it is enabled. -/
theorem vault_footprint (h : AgreeOn first second (composeKeys first)) :
    own.vault = other.vault := by
  by_cases hvault : LacksVault first
  · have henabled := h "vault.enabled" (commonKeys_subset first (by decide))
    have hsecond : LacksVault second := (getTextD_congr henabled).symm.trans hvault
    rw [hown.vault_eq_none hvault, hother.vault_eq_none hsecond]
  · refine hown.vault_congr hother (h.mono ?_)
    rw [composeKeys, hiddenKeys, if_neg hvault]
    split_ifs <;> decide

/-- The image of the service that renews a certificate counts only when there is one to renew. -/
theorem images_footprint (h : AgreeOn first second (composeKeys first)) :
    imagesInUse own = imagesInUse other := by
  have hsource : own.tls.source = other.tls.source :=
    hown.source_congr hother (h "ssl.mode" (commonKeys_subset first (by decide)))
  have himage : ∀ component, component ≠ .certbot →
      own.images.get component = other.images.get component := by
    intro component hne
    refine hown.image_congr hother ((h.mono (commonKeys_subset first)).mono ?_)
    cases component <;> first | exact absurd rfl hne | decide
  refine eq_of_get fun component => ?_
  rw [imagesInUse, imagesInUse, ← hsource]
  cases hcase : own.tls.source with
  | selfSigned =>
    by_cases hcertbot : component = .certbot
    · rw [hcertbot]
      rfl
    · have hget := himage component hcertbot
      cases component <;> first | exact absurd rfl hcertbot | exact hget
  | letsEncrypt =>
    refine hown.image_congr hother (h.mono ?_)
    have hremote : ¬ IsLocal first := by
      intro hlocal
      rw [hown.source_eq_selfSigned hlocal] at hcase
      cases hcase
    rw [composeKeys, hiddenKeys, if_neg hremote]
    cases component <;> split_ifs <;> decide

theorem forCompose_footprint (h : AgreeOn first second (composeKeys first)) :
    forCompose own = forCompose other := by
  have himages := images_footprint hown hother h
  have hvault := vault_footprint hown hother h
  have hcommon := h.mono (commonKeys_subset first)
  have hsource := hown.source_congr hother (hcommon "ssl.mode" (by decide))
  have hdomain := hown.domain_congr hother (hcommon "ssl.domain" (by decide))
  have hproxy := hown.proxy_congr hother (hcommon.mono (by decide))
  have hdatabase := hown.database_congr hother (hcommon.mono (by decide))
  have hadmin := hown.admin_congr hother (hcommon.mono (by decide))
  have hbroker := hown.broker_congr hother (hcommon.mono (by decide))
  have hruntime := hown.runtime_congr hother (hcommon.mono (by decide))
  rw [forCompose, forCompose, himages, hvault, hproxy, hdatabase, hadmin, hbroker, hruntime]
  dsimp only
  rw [hsource, hdomain]

end Documents

/-! ### All artifacts -/

theorem artifactsOf_eq {known : Option Nat} {document : Value} {settings : Settings}
    (h : Settings.ofDocument document = .ok settings) :
    artifactsOf known document = synthesize (withKnownGroup known settings) := by
  rw [artifactsOf, h]
  rfl

theorem artifactsOf_eq_ok {known : Option Nat} {document : Value} {artifacts : Artifacts}
    (h : artifactsOf known document = .ok artifacts) :
    ∃ settings, Reads document settings ∧
      proxyMain settings = .ok artifacts.proxyMain ∧
      virtualHost settings = .ok artifacts.virtualHost ∧
      bootstrap settings = .ok artifacts.bootstrap ∧
      compose (withKnownGroup known settings) = .ok artifacts.compose := by
  obtain ⟨settings, hread, h⟩ := Outcome.bind_eq_ok.mp h
  obtain ⟨compose, hcompose, h⟩ := Outcome.bind_eq_ok.mp h
  obtain ⟨proxyMain, hmain, h⟩ := Outcome.bind_eq_ok.mp h
  obtain ⟨virtualHost, hhost, h⟩ := Outcome.bind_eq_ok.mp h
  obtain ⟨bootstrap, hscript, h⟩ := Outcome.bind_eq_ok.mp h
  cases h
  exact ⟨settings, reads_of_ofDocument (Outcome.mapError_eq_ok.mp hread), hmain, hhost, hscript,
    hcompose⟩

/-- **Artifacts depend on their footprints only.** -/
theorem footprints {known : Option Nat} {first second : Value} {own other : Artifacts}
    (hfirst : artifactsOf known first = .ok own) (hsecond : artifactsOf known second = .ok other) :
    (AgreeOn first second ["ssl.profile"] → own.proxyMain = other.proxyMain) ∧
    (AgreeOn first second virtualHostKeys → own.virtualHost = other.virtualHost) ∧
    (IsLocal first → AgreeOn first second localHostKeys → own.virtualHost = other.virtualHost) ∧
    (AgreeOn first second scriptKeys → own.bootstrap = other.bootstrap) ∧
    (AgreeOn first second (composeKeys first) → own.compose = other.compose) := by
  obtain ⟨settings, hread, hmain, hhost, hscript, hcompose⟩ := artifactsOf_eq_ok hfirst
  obtain ⟨settings', hread', hmain', hhost', hscript', hcompose'⟩ := artifactsOf_eq_ok hsecond
  refine ⟨fun h => ?_, fun h => ?_, fun hlocal h => ?_, fun h => ?_, fun h => ?_⟩
  · have hprofile := hread.profile_congr hread' (h "ssl.profile" (by decide))
    have hsame : proxyMain settings = proxyMain settings' := by
      rw [proxyMain, proxyMain, hprofile]
    exact Outcome.eq_of_same_ok hsame hmain hmain'
  · exact Outcome.eq_of_same_ok (virtualHost_footprint hread hread' h) hhost hhost'
  · exact Outcome.eq_of_same_ok (virtualHost_footprint_local hread hread' hlocal h) hhost hhost'
  · exact Outcome.eq_of_same_ok (bootstrap_footprint hread hread' h) hscript hscript'
  · have hsettings : forCompose (withKnownGroup known settings) =
        forCompose (withKnownGroup known settings') :=
      congrArg (withKnownGroup known) (forCompose_footprint hread hread' h)
    exact Outcome.eq_of_same_ok (compose_congr hsettings) hcompose hcompose'

/-- The sample site with another TLS profile, and with the address of a vault that is not
enabled. -/
def variedDocument : Value :=
  .object
    [("database", .object [("password", .text "db secret")]),
      ("docker", .object [("gid", .text "998")]),
      ("guacamole", .object [("admin_password", .text "admin secret")]),
      ("ssl", .object
        [("domain", .text "https://www.example.org/"), ("mode", .text "letsencrypt"),
          ("profile", .text "modern")]),
      ("vault", .object [("addr", .text "http://vault")]),
      ("versions", .object
        [("broker", .text "1.4.0"), ("certbot", .text "v4.0.0"), ("guacamole", .text "1.6.0"),
          ("guacd", .text "1.6.0"), ("nginx", .text "1.28"), ("postgres", .text "17")])]

theorem ofDocument_variedDocument :
    Settings.ofDocument variedDocument =
      .ok { Sample.settings with tls := { Sample.settings.tls with profile := .modern } } := by
  rfl

/-- Another profile changes none but the main file, and the vault changes nothing. -/
theorem footprints_variedDocument :
    ∃ own other, artifactsOf none Sample.document = .ok own ∧
      artifactsOf none variedDocument = .ok other ∧ own.virtualHost = other.virtualHost ∧
      own.bootstrap = other.bootstrap ∧ own.compose = other.compose := by
  obtain ⟨own, hown⟩ : ∃ own, artifactsOf none Sample.document = .ok own := by
    rw [artifactsOf_eq Sample.ofDocument_document]
    exact exists_synthesize ⟨_, rfl⟩ ⟨_, rfl⟩
  obtain ⟨other, hother⟩ : ∃ other, artifactsOf none variedDocument = .ok other := by
    rw [artifactsOf_eq ofDocument_variedDocument]
    exact exists_synthesize ⟨_, rfl⟩ ⟨_, rfl⟩
  obtain ⟨-, hhost, -, hscript, hcompose⟩ := footprints hown hother
  exact ⟨own, other, hown, hother, hhost (by decide), hscript (by decide),
    hcompose (by decide +kernel)⟩

end RemoteGateway.Deployment
