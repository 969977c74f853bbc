import RemoteGateway.Proofs.Document.Places
import RemoteGateway.Proofs.Outcome
import RemoteGateway.Settings.Reader

/-!
# What the settings depend on

The settings are read from the texts at some keys of the document, and each of them from only a
few. `Reads` takes settings that were read apart, one equation for each value, and the lemmas
behind it say which keys have to agree for two documents to give the same value. Nothing but the
keys in `recognisedKeys` is ever looked at (`ofDocument_congr`).
-/

namespace RemoteGateway

open Document (Value)

/-! ### Keys -/

/-- Two documents have the same texts at some keys. -/
def AgreeOn (first second : Value) (keys : List String) : Prop :=
  ∀ key ∈ keys, first.getText? key = second.getText? key

instance (first second : Value) (keys : List String) : Decidable (AgreeOn first second keys) :=
  inferInstanceAs (Decidable (∀ key ∈ keys, _ = _))

/-- The keys of certificate and TLS. -/
def tlsKeys : List String :=
  ["ssl.mode", "ssl.domain", "ssl.profile", "ssl.email", "ssl.resolver", "ssl.staging"]

/-- The keys of the exposure. -/
def exposureKeys : List String :=
  ["nginx.url_mode", "nginx.base_path", "nginx.subdomain"]

/-- The keys of the ports. -/
def portKeys : List String :=
  ["nginx.http_port", "nginx.https_port"]

/-- The keys of the database. -/
def databaseKeys : List String :=
  ["database.host", "database.port", "database.name", "database.user", "database.password"]

/-- The keys of the administrator. -/
def adminKeys : List String :=
  ["guacamole.admin_user", "guacamole.admin_password"]

/-- The keys of the broker. -/
def brokerKeys : List String :=
  ["broker.api_key", "broker.log_level"]

/-- The keys of the runtime. -/
def runtimeKeys : List String :=
  ["docker.socket", "docker.gid"]

/-- The keys of an image. -/
def imageKeys (component : Component) : List String :=
  ["versions." ++ component.key, "images." ++ component.key]

/-- The keys that count only when the vault is enabled. -/
def vaultKeys : List String :=
  ["vault.role_id", "vault.secret_id", "vault.token", "vault.addr", "vault.mount", "vault.path"]

/-- All keys that are looked at. -/
def recognisedKeys : List String :=
  tlsKeys ++ exposureKeys ++ portKeys ++ databaseKeys ++ adminKeys ++ brokerKeys ++ runtimeKeys ++
    Component.all.flatMap imageKeys ++ "vault.enabled" :: vaultKeys

/-- What is stored at one of these keys does not touch the others. -/
theorem apart_of_recognised {key other : String} (hkey : key ∈ recognisedKeys)
    (hother : other ∈ recognisedKeys) (hne : key ≠ other) :
    Document.Apart (Document.segments key) (Document.segments other) := by
  have hlength : ∀ key ∈ recognisedKeys, (Document.segments key).length = 2 := by decide
  refine .of_length_eq ((hlength key hkey).trans (hlength other hother).symm) fun hsame => hne ?_
  rw [← Document.intercalate_segments key, hsame, Document.intercalate_segments]

section

variable {first second document : Value} {settings own other : Settings} {keys more : List String}

theorem AgreeOn.mono (h : AgreeOn first second more) (hkeys : keys ⊆ more) :
    AgreeOn first second keys :=
  fun key hkey => h key (hkeys hkey)

/-! ### Readers -/

section

variable {α : Type} {key default : String} {read : String → Except Invalid α}

theorem getTextD_congr (h : first.getText? key = second.getText? key) :
    first.getTextD key default = second.getTextD key default := by
  rw [Value.getTextD, Value.getTextD, h]

theorem readKey_congr (h : first.getText? key = second.getText? key) :
    readKey first key default read = readKey second key default read := by
  rw [readKey, readKey, getTextD_congr h]

theorem requireKey_congr (h : first.getText? key = second.getText? key) :
    requireKey first key = requireKey second key := by
  rw [requireKey, requireKey, h]

end

theorem readExposure_congr (h : AgreeOn first second exposureKeys) :
    readExposure first = readExposure second := by
  rw [readExposure, readExposure, getTextD_congr (h "nginx.url_mode" (by decide)),
    readKey_congr (h "nginx.base_path" (by decide)),
    readKey_congr (h "nginx.subdomain" (by decide))]

theorem readRuntimeGroup_congr (h : first.getText? "docker.gid" = second.getText? "docker.gid") :
    readRuntimeGroup first = readRuntimeGroup second := by
  rw [readRuntimeGroup, readRuntimeGroup, h]

theorem readImage_congr {component : Component} (h : AgreeOn first second (imageKeys component)) :
    readImage first component = readImage second component := by
  have htag := h ("versions." ++ component.key) (by simp [imageKeys])
  have hrepository := h ("images." ++ component.key) (by simp [imageKeys])
  rw [readImage, readImage, htag, getTextD_congr hrepository]

theorem readImages_congr (h : AgreeOn first second (Component.all.flatMap imageKeys)) :
    readImages first = readImages second := by
  have himage : ∀ component, readImage first component = readImage second component := by
    intro component
    refine readImage_congr (h.mono ?_)
    cases component <;> decide
  rw [readImages, readImages, himage, himage, himage, himage, himage, himage]

theorem readVault_congr (h : AgreeOn first second ("vault.enabled" :: vaultKeys)) :
    readVault first = readVault second := by
  have hauth : readVaultAuth first = readVaultAuth second := by
    rw [readVaultAuth, readVaultAuth, h "vault.role_id" (by decide),
      h "vault.secret_id" (by decide), requireKey_congr (h "vault.token" (by decide))]
  rw [readVault, readVault, readKey_congr (h "vault.enabled" (by decide)), hauth,
    requireKey_congr (h "vault.addr" (by decide)), getTextD_congr (h "vault.mount" (by decide)),
    getTextD_congr (h "vault.path" (by decide))]

/-- The keys at which numbers are read. -/
def numberKeys : List String :=
  ["docker.gid", "database.port", "nginx.http_port", "nginx.https_port"]

/-- Of the texts at the keys of the domain and of the numbers, only what is read from them
counts. -/
theorem ofDocument_congr_of_readings
    (h : AgreeOn first second (recognisedKeys.filter fun key => key ∉ "ssl.domain" :: numberKeys))
    (hdomain : (first.getText? "ssl.domain").bind cleanDomain =
      (second.getText? "ssl.domain").bind cleanDomain)
    (hgroup : readRuntimeGroup first = readRuntimeGroup second)
    (hdatabase : readKey first "database.port" "5432" readPort =
      readKey second "database.port" "5432" readPort)
    (hhttp : readKey first "nginx.http_port" "80" readPort =
      readKey second "nginx.http_port" "80" readPort)
    (hhttps : readKey first "nginx.https_port" "443" readPort =
      readKey second "nginx.https_port" "443" readPort) :
    Settings.ofDocument first = Settings.ofDocument second := by
  rw [Settings.ofDocument, Settings.ofDocument, readKey_congr (h "ssl.mode" (by decide)),
    hdomain, readExposure_congr (h.mono (by decide)), hgroup, hdatabase,
    requireKey_congr (h "database.password" (by decide)),
    requireKey_congr (h "guacamole.admin_password" (by decide)),
    readKey_congr (h "ssl.profile" (by decide)), readKey_congr (h "ssl.staging" (by decide)),
    hhttp, hhttps, readImages_congr (h.mono (by decide)),
    readVault_congr (h.mono (by decide)), getTextD_congr (h "database.host" (by decide)),
    getTextD_congr (h "database.name" (by decide)),
    getTextD_congr (h "database.user" (by decide)),
    getTextD_congr (h "guacamole.admin_user" (by decide)), h "broker.api_key" (by decide),
    getTextD_congr (h "broker.log_level" (by decide)), h "ssl.email" (by decide),
    getTextD_congr (h "ssl.resolver" (by decide)),
    getTextD_congr (h "docker.socket" (by decide))]

/-- All keys that are looked at but that of the domain. -/
def keysApartFromDomain : List String :=
  recognisedKeys.filter fun key => key != "ssl.domain"

/-- Of the text at the key of the domain, only the domain that is left of it counts. -/
theorem ofDocument_congr_of_domain (h : AgreeOn first second keysApartFromDomain)
    (hdomain : (first.getText? "ssl.domain").bind cleanDomain =
      (second.getText? "ssl.domain").bind cleanDomain) :
    Settings.ofDocument first = Settings.ofDocument second :=
  ofDocument_congr_of_readings (h.mono (by decide)) hdomain
    (readRuntimeGroup_congr (h "docker.gid" (by decide)))
    (readKey_congr (h "database.port" (by decide)))
    (readKey_congr (h "nginx.http_port" (by decide)))
    (readKey_congr (h "nginx.https_port" (by decide)))

/-- **No other key is looked at**: documents that agree on all recognised keys mean the same, or
are refused for the same reason. -/
theorem ofDocument_congr (h : AgreeOn first second recognisedKeys) :
    Settings.ofDocument first = Settings.ofDocument second :=
  ofDocument_congr_of_domain (h.mono List.filter_sublist.subset)
    (congrArg (Option.bind · cleanDomain) (h "ssl.domain" (by decide)))

/-! ### Settings that were read -/

/-- Where each value of the settings was read. -/
structure Reads (document : Value) (settings : Settings) : Prop where
  source_eq : readKey document "ssl.mode" "selfsigned" CertificateSource.ofText =
    .ok settings.tls.source
  domain_eq : settings.tls.domain = (document.getText? "ssl.domain").bind cleanDomain
  profile_eq : readKey document "ssl.profile" "intermediate" TlsProfile.ofText =
    .ok settings.tls.profile
  email_eq : settings.tls.email = document.getText? "ssl.email"
  resolver_eq : settings.tls.resolver = document.getTextD "ssl.resolver" "1.1.1.1 8.8.8.8"
  staging_eq : readKey document "ssl.staging" "false" readBoolean = .ok settings.tls.staging
  exposure_eq : readExposure document = .ok settings.proxy.exposure
  httpPort_eq : readKey document "nginx.http_port" "80" readPort = .ok settings.proxy.httpPort
  httpsPort_eq : readKey document "nginx.https_port" "443" readPort = .ok settings.proxy.httpsPort
  database_eq : ∃ port password, readKey document "database.port" "5432" readPort = .ok port ∧
    requireKey document "database.password" = .ok password ∧
    settings.database =
      { host := document.getTextD "database.host" "postgres"
        port := port
        name := document.getTextD "database.name" "guacamole"
        user := document.getTextD "database.user" "guacamole"
        password := password }
  admin_eq : ∃ password, requireKey document "guacamole.admin_password" = .ok password ∧
    settings.admin =
      { user := document.getTextD "guacamole.admin_user" "guacadmin", password := password }
  broker_eq : settings.broker =
    { apiKey := document.getText? "broker.api_key"
      logLevel := document.getTextD "broker.log_level" "INFO" }
  images_eq : ∀ component, readImage document component = .ok (settings.images.get component)
  vault_eq : readVault document = .ok settings.vault
  socket_eq : settings.runtime.socket = document.getTextD "docker.socket" "/var/run/docker.sock"
  group_eq : readRuntimeGroup document = .ok settings.runtime.group

theorem get_of_readImages {images : Images} (h : readImages document = .ok images)
    (component : Component) : readImage document component = .ok (images.get component) := by
  obtain ⟨postgres, hpostgres, h⟩ := Outcome.bind_eq_ok.mp h
  obtain ⟨guacd, hguacd, h⟩ := Outcome.bind_eq_ok.mp h
  obtain ⟨guacamole, hguacamole, h⟩ := Outcome.bind_eq_ok.mp h
  obtain ⟨broker, hbroker, h⟩ := Outcome.bind_eq_ok.mp h
  obtain ⟨nginx, hnginx, h⟩ := Outcome.bind_eq_ok.mp h
  obtain ⟨certbot, hcertbot, h⟩ := Outcome.bind_eq_ok.mp h
  cases h
  cases component with
  | postgres => exact hpostgres
  | guacd => exact hguacd
  | guacamole => exact hguacamole
  | broker => exact hbroker
  | nginx => exact hnginx
  | certbot => exact hcertbot

/-- Settings are read value by value. -/
theorem reads_of_ofDocument (h : Settings.ofDocument document = .ok settings) :
    Reads document settings := by
  obtain ⟨source, hsource, h⟩ := Outcome.bind_eq_ok.mp h
  dsimp only at h
  split at h
  · cases h
  obtain ⟨exposure, hexposure, h⟩ := Outcome.bind_eq_ok.mp h
  obtain ⟨group, hgroup, h⟩ := Outcome.bind_eq_ok.mp h
  obtain ⟨port, hport, h⟩ := Outcome.bind_eq_ok.mp h
  obtain ⟨password, hpassword, h⟩ := Outcome.bind_eq_ok.mp h
  obtain ⟨adminPassword, hadmin, h⟩ := Outcome.bind_eq_ok.mp h
  obtain ⟨profile, hprofile, h⟩ := Outcome.bind_eq_ok.mp h
  obtain ⟨staging, hstaging, h⟩ := Outcome.bind_eq_ok.mp h
  obtain ⟨httpPort, hhttpPort, h⟩ := Outcome.bind_eq_ok.mp h
  obtain ⟨httpsPort, hhttpsPort, h⟩ := Outcome.bind_eq_ok.mp h
  obtain ⟨images, himages, h⟩ := Outcome.bind_eq_ok.mp h
  obtain ⟨vault, hvault, h⟩ := Outcome.bind_eq_ok.mp h
  cases h
  exact
    { source_eq := hsource
      domain_eq := rfl
      profile_eq := hprofile
      email_eq := rfl
      resolver_eq := rfl
      staging_eq := hstaging
      exposure_eq := hexposure
      httpPort_eq := hhttpPort
      httpsPort_eq := hhttpsPort
      database_eq := ⟨port, password, hport, hpassword, rfl⟩
      admin_eq := ⟨adminPassword, hadmin, rfl⟩
      broker_eq := rfl
      images_eq := get_of_readImages himages
      vault_eq := hvault
      socket_eq := rfl
      group_eq := hgroup }

end

/-! ### A site that is read

A document that configures all a deployment needs, and what is read of it. General statements about
documents and settings are tried on it. -/

namespace Sample

/-- The configuration of a site with a requested certificate. -/
def document : Document.Value :=
  .object
    [("database", .object [("password", .text "db secret")]),
      ("docker", .object [("gid", .text "998")]),
      ("guacamole", .object [("admin_password", .text "admin secret")]),
      ("ssl", .object
        [("domain", .text "https://www.example.org/"), ("mode", .text "letsencrypt")]),
      ("versions", .object
        [("broker", .text "1.4.0"), ("certbot", .text "v4.0.0"), ("guacamole", .text "1.6.0"),
          ("guacd", .text "1.6.0"), ("nginx", .text "1.28"), ("postgres", .text "17")])]

/-- The base path that is taken when none is configured. -/
def basePath : Site.BasePath where
  core := "guacamole".toList
  core_ne_nil := by decide
  usable := by
    have h : ("guacamole".toList.all fun c => !Site.isUnusable c) = true := by decide
    intro c hc
    exact (Bool.not_eq_true' _).mp (List.all_eq_true.mp h c hc)
  apart := by decide

/-- The settings that the document stands for. -/
def settings : Settings where
  database :=
    { host := "postgres", port := 5432, name := "guacamole", user := "guacamole",
      password := "db secret" }
  admin := { user := "guacadmin", password := "admin secret" }
  broker := { apiKey := none, logLevel := "INFO" }
  tls :=
    { source := .letsEncrypt, profile := .intermediate, domain := some "example.org",
      email := none, resolver := "1.1.1.1 8.8.8.8", staging := false }
  proxy :=
    { exposure := .path basePath
      httpPort := 80
      httpsPort := 443 }
  images :=
    { postgres := ⟨"postgres", some "17"⟩
      guacd := ⟨"guacamole/guacd", some "1.6.0"⟩
      guacamole := ⟨"guacamole/guacamole", some "1.6.0"⟩
      broker := ⟨"ghcr.io/maximewewer/guacamole-session-broker", some "1.4.0"⟩
      nginx := ⟨"nginx", some "1.28"⟩
      certbot := ⟨"certbot/certbot", some "v4.0.0"⟩ }
  vault := none
  runtime := { socket := "/var/run/docker.sock", group := some 998 }

/-- The same site with another domain, when that is left as it is. -/
def settingsAt (domain : String) : Settings :=
  { Sample.settings with tls := { Sample.settings.tls with domain := some domain } }

/-- The same site with another resolver. -/
def settingsResolvedBy (resolver : String) : Settings :=
  { Sample.settings with tls := { Sample.settings.tls with resolver := resolver } }

/-- The same site with a certificate of its own. -/
def localSettings : Settings :=
  { Sample.settings with tls := { Sample.settings.tls with source := .selfSigned } }

theorem ofDocument_document : Settings.ofDocument Sample.document = .ok Sample.settings := by
  rfl

end Sample

section

variable {first second document : Value} {settings own other : Settings}

/-! ### Parts of the exposure -/

theorem mode_of_readExposure {exposure : Site.Exposure} (h : readExposure document = .ok exposure) :
    exposure.mode = document.getTextD "nginx.url_mode" "path" := by
  rw [readExposure] at h
  split at h
  · next hmode =>
    obtain ⟨base, -, rfl⟩ := Outcome.map_eq_ok.mp h
    exact hmode.symm
  · next hmode =>
    cases h
    exact hmode.symm
  · next hmode =>
    obtain ⟨label, -, rfl⟩ := Outcome.map_eq_ok.mp h
    exact hmode.symm
  · cases h

/-- A base path is read at its own key. -/
theorem path_of_readExposure {base : Site.BasePath} (h : readExposure document = .ok (.path base)) :
    (readKey document "nginx.base_path" Site.applicationPath fun text =>
      (Site.BasePath.parse text).mapError .basePath) = .ok base := by
  have hmode : document.getTextD "nginx.url_mode" "path" = "path" := (mode_of_readExposure h).symm
  rw [readExposure, hmode] at h
  obtain ⟨read, hread, hsame⟩ := Outcome.map_eq_ok.mp h
  cases hsame
  exact hread

/-- A label is read at its own key. -/
theorem subdomain_of_readExposure {label : String}
    (h : readExposure document = .ok (.subdomain label)) :
    readKey document "nginx.subdomain" "guacamole" readLabel = .ok label := by
  have hmode : document.getTextD "nginx.url_mode" "path" = "subdomain" :=
    (mode_of_readExposure h).symm
  rw [readExposure, hmode] at h
  obtain ⟨read, hread, hsame⟩ := Outcome.map_eq_ok.mp h
  cases hsame
  exact hread

/-- The label in front of the domain, when there is one. -/
def Site.Exposure.label? : Site.Exposure → Option String
  | .path _ | .root => none
  | .subdomain label => some label

/-- Of the exposure, only the label counts for the names of a site. -/
theorem names_congr {exposure same : Site.Exposure} (h : exposure.label? = same.label?)
    (domain : String) : Site.names domain exposure = Site.names domain same := by
  cases exposure <;> cases same <;> cases h <;> rfl

/-! ### Values that are the same -/

namespace Reads

variable (hown : Reads first own) (hother : Reads second other)

include hown hother

theorem source_congr (h : first.getText? "ssl.mode" = second.getText? "ssl.mode") :
    own.tls.source = other.tls.source :=
  Outcome.eq_of_same_ok (readKey_congr h) hown.source_eq hother.source_eq

theorem domain_congr (h : first.getText? "ssl.domain" = second.getText? "ssl.domain") :
    own.tls.domain = other.tls.domain := by
  rw [hown.domain_eq, hother.domain_eq, h]

theorem profile_congr (h : first.getText? "ssl.profile" = second.getText? "ssl.profile") :
    own.tls.profile = other.tls.profile :=
  Outcome.eq_of_same_ok (readKey_congr h) hown.profile_eq hother.profile_eq

theorem email_congr (h : first.getText? "ssl.email" = second.getText? "ssl.email") :
    own.tls.email = other.tls.email := by
  rw [hown.email_eq, hother.email_eq, h]

theorem resolver_congr (h : first.getText? "ssl.resolver" = second.getText? "ssl.resolver") :
    own.tls.resolver = other.tls.resolver := by
  rw [hown.resolver_eq, hother.resolver_eq, getTextD_congr h]

theorem staging_congr (h : first.getText? "ssl.staging" = second.getText? "ssl.staging") :
    own.tls.staging = other.tls.staging :=
  Outcome.eq_of_same_ok (readKey_congr h) hown.staging_eq hother.staging_eq

theorem exposure_congr (h : AgreeOn first second exposureKeys) :
    own.proxy.exposure = other.proxy.exposure :=
  Outcome.eq_of_same_ok (readExposure_congr h) hown.exposure_eq hother.exposure_eq

theorem mode_congr (h : first.getText? "nginx.url_mode" = second.getText? "nginx.url_mode") :
    own.proxy.exposure.mode = other.proxy.exposure.mode := by
  rw [mode_of_readExposure hown.exposure_eq, mode_of_readExposure hother.exposure_eq,
    getTextD_congr h]

/-- The label does not count for the path. -/
theorem basePath_congr (h : AgreeOn first second ["nginx.url_mode", "nginx.base_path"]) :
    own.proxy.exposure.basePath = other.proxy.exposure.basePath := by
  have hmode := hown.mode_congr hother (h "nginx.url_mode" (by decide))
  have hread := hown.exposure_eq
  have hsame := hother.exposure_eq
  generalize own.proxy.exposure = exposure at hmode hread ⊢
  generalize other.proxy.exposure = same at hmode hsame ⊢
  cases exposure with
  | path base =>
    cases same with
    | path base' =>
      rw [Outcome.eq_of_same_ok (readKey_congr (h "nginx.base_path" (by decide)))
        (path_of_readExposure hread) (path_of_readExposure hsame)]
    | root | subdomain => exact absurd hmode (by simp [Site.Exposure.mode])
  | root | subdomain =>
    cases same with
    | path => exact absurd hmode (by simp [Site.Exposure.mode])
    | root | subdomain => rfl

/-- The path does not count for the label. -/
theorem label?_congr (h : AgreeOn first second ["nginx.url_mode", "nginx.subdomain"]) :
    own.proxy.exposure.label? = other.proxy.exposure.label? := by
  have hmode := hown.mode_congr hother (h "nginx.url_mode" (by decide))
  have hread := hown.exposure_eq
  have hsame := hother.exposure_eq
  generalize own.proxy.exposure = exposure at hmode hread ⊢
  generalize other.proxy.exposure = same at hmode hsame ⊢
  cases exposure with
  | subdomain label =>
    cases same with
    | subdomain label' =>
      rw [Outcome.eq_of_same_ok (readKey_congr (h "nginx.subdomain" (by decide)))
        (subdomain_of_readExposure hread) (subdomain_of_readExposure hsame)]
    | root | path => exact absurd hmode (by simp [Site.Exposure.mode])
  | root | path =>
    cases same with
    | subdomain => exact absurd hmode (by simp [Site.Exposure.mode])
    | root | path => rfl

theorem siteNames_congr
    (h : AgreeOn first second ["ssl.domain", "nginx.url_mode", "nginx.subdomain"]) :
    own.siteNames = other.siteNames := by
  have hlabel := hown.label?_congr hother (h.mono (by decide))
  rw [Settings.siteNames, Settings.siteNames,
    hown.domain_congr hother (h "ssl.domain" (by decide))]
  exact congrArg (Option.map · other.tls.domain) (funext (names_congr hlabel))

theorem httpsPort_congr
    (h : first.getText? "nginx.https_port" = second.getText? "nginx.https_port") :
    own.proxy.httpsPort = other.proxy.httpsPort :=
  Outcome.eq_of_same_ok (readKey_congr h) hown.httpsPort_eq hother.httpsPort_eq

theorem proxy_congr (h : AgreeOn first second (exposureKeys ++ portKeys)) :
    own.proxy = other.proxy := by
  have hexposure := hown.exposure_congr hother (h.mono (List.subset_append_left _ _))
  have hhttps := hown.httpsPort_congr hother (h "nginx.https_port" (by decide))
  have hhttp : own.proxy.httpPort = other.proxy.httpPort :=
    Outcome.eq_of_same_ok (readKey_congr (h "nginx.http_port" (by decide))) hown.httpPort_eq
      hother.httpPort_eq
  rcases hproxy : own.proxy with ⟨exposure, httpPort, httpsPort⟩
  rw [hproxy] at hexposure hhttps hhttp
  dsimp only at hexposure hhttps hhttp
  rw [hexposure, hhttps, hhttp]

theorem database_congr (h : AgreeOn first second databaseKeys) :
    own.database = other.database := by
  obtain ⟨port, password, hport, hpassword, hdatabase⟩ := hown.database_eq
  obtain ⟨port', password', hport', hpassword', hdatabase'⟩ := hother.database_eq
  have hsamePort : port = port' :=
    Outcome.eq_of_same_ok (readKey_congr (h "database.port" (by decide))) hport hport'
  have hsamePassword : password = password' :=
    Outcome.eq_of_same_ok (requireKey_congr (h "database.password" (by decide))) hpassword
      hpassword'
  rw [hdatabase, hdatabase', hsamePort, hsamePassword,
    getTextD_congr (h "database.host" (by decide)),
    getTextD_congr (h "database.name" (by decide)),
    getTextD_congr (h "database.user" (by decide))]

theorem admin_congr (h : AgreeOn first second adminKeys) : own.admin = other.admin := by
  obtain ⟨password, hpassword, hadmin⟩ := hown.admin_eq
  obtain ⟨password', hpassword', hadmin'⟩ := hother.admin_eq
  have hsame : password = password' :=
    Outcome.eq_of_same_ok (requireKey_congr (h "guacamole.admin_password" (by decide))) hpassword
      hpassword'
  rw [hadmin, hadmin', hsame, getTextD_congr (h "guacamole.admin_user" (by decide))]

theorem broker_congr (h : AgreeOn first second brokerKeys) : own.broker = other.broker := by
  rw [hown.broker_eq, hother.broker_eq, h "broker.api_key" (by decide),
    getTextD_congr (h "broker.log_level" (by decide))]

theorem image_congr {component : Component} (h : AgreeOn first second (imageKeys component)) :
    own.images.get component = other.images.get component :=
  Outcome.eq_of_same_ok (readImage_congr h) (hown.images_eq component) (hother.images_eq component)

theorem vault_congr (h : AgreeOn first second ("vault.enabled" :: vaultKeys)) :
    own.vault = other.vault :=
  Outcome.eq_of_same_ok (readVault_congr h) hown.vault_eq hother.vault_eq

theorem runtime_congr (h : AgreeOn first second runtimeKeys) : own.runtime = other.runtime := by
  have hgroup : own.runtime.group = other.runtime.group :=
    Outcome.eq_of_same_ok (readRuntimeGroup_congr (h "docker.gid" (by decide))) hown.group_eq
      hother.group_eq
  have hsocket : own.runtime.socket = other.runtime.socket := by
    rw [hown.socket_eq, hother.socket_eq, getTextD_congr (h "docker.socket" (by decide))]
  rcases hruntime : own.runtime with ⟨socket, group⟩
  rw [hruntime] at hgroup hsocket
  dsimp only at hgroup hsocket
  rw [hgroup, hsocket]

end Reads

/-- A vault that is not enabled is not read. -/
theorem Reads.vault_eq_none (h : Reads document settings)
    (hdisabled : document.getTextD "vault.enabled" "false" = "false") : settings.vault = none := by
  have hread : readKey document "vault.enabled" "false" readBoolean = .ok false := by
    rw [readKey, hdisabled]
    rfl
  have hvault := h.vault_eq
  rw [readVault, hread] at hvault
  exact (Except.ok.inj hvault).symm

/-- The certificate is generated on this host exactly when nothing else is configured. -/
theorem Reads.source_eq_selfSigned (h : Reads document settings)
    (hmode : document.getTextD "ssl.mode" "selfsigned" = "selfsigned") :
    settings.tls.source = .selfSigned := by
  have hread : readKey document "ssl.mode" "selfsigned" CertificateSource.ofText =
      .ok .selfSigned := by
    rw [readKey, hmode]
    rfl
  exact Except.ok.inj (h.source_eq.symm.trans hread)

end

end RemoteGateway
