import RemoteGateway.Proofs.Compose.Legible
import RemoteGateway.Proofs.Compose.Values
import RemoteGateway.Proofs.Site.Domains
import RemoteGateway.Proofs.Yaml.RoundTrip

/-!
# Reading the compose file

Whatever the settings are, the compose file is read back as the topology that was built, unless
one of their texts holds a separator of lines or of paragraphs (`read_topology_write`). So no
value can change what stands around it, and none is taken for something other than a text.
-/

namespace RemoteGateway

open Deployment Yaml

/-! ### Texts of settings -/

/-- The texts of an exposure. -/
def Site.Exposure.texts : Site.Exposure → List String
  | path base => [base.text]
  | root => []
  | subdomain label => [label]

/-- The texts of an image. -/
def Image.texts (image : Image) : List String :=
  image.repository :: image.tag.toList

/-- The texts of what the broker proves itself by. -/
def VaultAuth.texts : VaultAuth → List String
  | .token value => [value]
  | .appRole roleId secretId => [roleId, secretId]

/-- The texts of a vault. -/
def VaultSettings.texts (vault : VaultSettings) : List String :=
  [vault.address, vault.mount, vault.path] ++ vault.auth.texts

/-- All texts of settings. -/
def Settings.texts (settings : Settings) : List String :=
  [settings.database.host, settings.database.name, settings.database.user,
    settings.database.password, settings.admin.user, settings.admin.password,
    settings.broker.logLevel, settings.tls.resolver, settings.runtime.socket] ++
    settings.broker.apiKey.toList ++ settings.tls.domain.toList ++ settings.tls.email.toList ++
    settings.proxy.exposure.texts ++
    Component.all.flatMap (fun component => (settings.images.get component).texts) ++
    settings.vault.toList.flatMap VaultSettings.texts

namespace Compose

/-! ### Legible texts -/

section

variable {text more : String}

theorem isLegibleText_append :
    IsLegibleText (text ++ more) ↔ IsLegibleText text ∧ IsLegibleText more := by
  simp only [IsLegibleText, HoldsNoSeparator, String.toList_append, List.mem_append, not_or]
  tauto

theorem isLegibleText_repr (n : Nat) : IsLegibleText n.repr := by
  have hdigits : ∀ c ∈ n.repr.toList, c.isDigit = true := by
    intro c hc
    rw [Nat.toList_repr] at hc
    exact Nat.isDigit_of_mem_toDigits (by decide) (by decide) hc
  exact ⟨fun hmem => absurd (hdigits _ hmem) (by decide),
    fun hmem => absurd (hdigits _ hmem) (by decide)⟩

/-- Only dollar signs are added when a text is escaped. -/
theorem isLegibleText_escape (text : String) (h : IsLegibleText text) :
    IsLegibleText (escape text) := by
  have hmem : ∀ c ∈ (escape text).toList, c ∈ text.toList ∨ c = '$' := by
    intro c hc
    rw [escape, String.toList_ofList, List.mem_flatMap] at hc
    obtain ⟨d, hd, hc⟩ := hc
    rw [escapeChar] at hc
    split at hc
    · exact .inr (by simpa using hc)
    · rw [List.mem_singleton.mp hc]
      exact .inl hd
  exact ⟨fun hc => (hmem _ hc).elim h.1 (by decide), fun hc => (hmem _ hc).elim h.2 (by decide)⟩

theorem isLegibleText_normalize (h : IsLegibleText text) : IsLegibleText (Site.normalize text) := by
  rw [IsLegibleText, Site.normalize, String.toList_ofList]
  have hmem := (Site.dropWww_suffix text.toList).subset
  exact ⟨fun hc => h.1 (hmem hc), fun hc => h.2 (hmem hc)⟩

end

/-! ### Services -/

section

variable {settings : Settings}

/-- Settings all of whose texts are read back. -/
def AreLegible (settings : Settings) : Prop :=
  ∀ text ∈ settings.texts, IsLegibleText text

theorem isLegibleText_image (h : AreLegible settings) (component : Component) :
    IsLegibleText (Intended.image settings component) := by
  have htexts : ∀ text ∈ (settings.images.get component).texts, IsLegibleText text := by
    intro text htext
    refine h text ?_
    simp only [Settings.texts, List.mem_append, List.mem_flatMap]
    exact .inl (.inr ⟨component, by cases component <;> decide, htext⟩)
  rw [Intended.image, Image.reference?]
  cases htag : (settings.images.get component).tag with
  | none => exact (by decide : IsLegibleText "")
  | some tag =>
    rw [Image.texts, htag] at htexts
    simp only [Option.map_some, Option.getD_some, isLegibleText_append]
    exact ⟨⟨htexts _ (by simp), by decide⟩, htexts _ (by simp)⟩

theorem isLegible_postgres (h : AreLegible settings) : (Intended.postgres settings).IsLegible := by
  have hname := h settings.database.name (by simp [Settings.texts])
  have huser := h settings.database.user (by simp [Settings.texts])
  have hpassword := h settings.database.password (by simp [Settings.texts])
  rw [Intended.postgres]
  constructor
  case image => exact isLegibleText_image h _
  case environment =>
    simp only [databaseVariables, List.map_cons, List.map_nil, List.forall_mem_cons]
    exact ⟨hname, hpassword, huser, List.forall_mem_nil _⟩
  case test =>
    simp only [databaseProbe, List.forall_mem_cons, isLegibleText_append]
    exact ⟨by decide, ⟨⟨⟨by decide, huser⟩, by decide⟩, hname⟩, List.forall_mem_nil _⟩
  all_goals
    dsimp only [databaseVariables, List.map]
    decide

theorem isLegible_guacd (h : AreLegible settings) : (Intended.guacd settings).IsLegible := by
  rw [Intended.guacd]
  constructor
  case image => exact isLegibleText_image h _
  all_goals
    dsimp only
    decide

theorem isLegible_application (h : AreLegible settings) :
    (Intended.application settings).IsLegible := by
  have hhost := h settings.database.host (by simp [Settings.texts])
  have hname := h settings.database.name (by simp [Settings.texts])
  have huser := h settings.database.user (by simp [Settings.texts])
  have hpassword := h settings.database.password (by simp [Settings.texts])
  rw [Intended.application]
  constructor
  case image => exact isLegibleText_image h _
  case environment =>
    simp only [applicationVariables, List.map_cons, List.map_nil, List.forall_mem_cons]
    exact ⟨by decide, isLegibleText_repr _, hname, hhost, hpassword, isLegibleText_repr _, huser,
      by decide, by decide, List.forall_mem_nil _⟩
  all_goals
    dsimp only [applicationVariables, List.map]
    decide

/-- The URL of the site consists of texts of the settings. -/
theorem isLegibleText_publicUrl (h : AreLegible settings) : IsLegibleText settings.publicUrl := by
  have hhost : IsLegibleText ((settings.siteNames.map Site.Names.canonical).getD "localhost") := by
    rw [Settings.siteNames]
    cases hdomain : settings.tls.domain with
    | none => exact (by decide : IsLegibleText "localhost")
    | some domain =>
      have hnormal : IsLegibleText (Site.normalize domain) :=
        isLegibleText_normalize (h domain (by simp [Settings.texts, hdomain]))
      cases hexposure : settings.proxy.exposure with
      | path base => exact hnormal
      | root => exact hnormal
      | subdomain label =>
        have hlabel := h label (by simp [Settings.texts, Site.Exposure.texts, hexposure])
        exact isLegibleText_append.mpr ⟨isLegibleText_append.mpr ⟨hlabel, by decide⟩, hnormal⟩
  have hport : IsLegibleText (Settings.portSuffix settings.proxy.httpsPort) := by
    rw [Settings.portSuffix]
    split
    · decide
    · exact isLegibleText_append.mpr ⟨by decide, isLegibleText_repr _⟩
  have hpath : IsLegibleText settings.proxy.exposure.basePath := by
    cases hexposure : settings.proxy.exposure with
    | path base => exact h base.text (by simp [Settings.texts, Site.Exposure.texts, hexposure])
    | root => exact (by decide : IsLegibleText "/")
    | subdomain label => exact (by decide : IsLegibleText "/")
  simp only [Settings.publicUrl, isLegibleText_append]
  exact ⟨⟨⟨by decide, hhost⟩, hport⟩, hpath⟩

/-- The names of the variables that the broker may have. -/
def brokerNames : List String :=
  ["BROKER_API_KEY", "CONFIG_PATH", "DATABASE_HOST", "DATABASE_NAME", "DATABASE_PASSWORD",
    "DATABASE_PORT", "DATABASE_USER", "DOCKER_HOST", "GUACAMOLE_ADMIN_PASSWORD",
    "GUACAMOLE_ADMIN_USER", "GUACAMOLE_PUBLIC_URL", "GUACAMOLE_URL", "GUACD_HOSTNAME", "LOG_LEVEL",
    "USER_DATA_PATH", "USER_PROFILES_VOLUME", "VAULT_ADDR", "VAULT_MOUNT", "VAULT_PATH",
    "VAULT_TOKEN", "VAULT_ROLE_ID", "VAULT_SECRET_ID"]

theorem names_vaultVariables (vault : VaultSettings) :
    List.Sublist ((vaultVariables vault).map Prod.fst)
      ["VAULT_ADDR", "VAULT_MOUNT", "VAULT_PATH", "VAULT_TOKEN", "VAULT_ROLE_ID",
        "VAULT_SECRET_ID"] := by
  rw [vaultVariables]
  cases vault.auth with
  | token value =>
    exact (List.Sublist.refl ["VAULT_ADDR", "VAULT_MOUNT", "VAULT_PATH", "VAULT_TOKEN"]).append
      (List.nil_sublist ["VAULT_ROLE_ID", "VAULT_SECRET_ID"])
  | appRole roleId secretId =>
    exact (List.Sublist.refl ["VAULT_ADDR", "VAULT_MOUNT", "VAULT_PATH"]).append
      (List.sublist_append_right ["VAULT_TOKEN"] ["VAULT_ROLE_ID", "VAULT_SECRET_ID"])

theorem names_brokerEnvironment (settings : Settings) :
    List.Sublist ((Intended.brokerEnvironment settings).map Prod.fst) brokerNames := by
  rw [Intended.brokerEnvironment, keyVariables]
  simp only [List.map_append]
  refine ((?_ : List.Sublist _ ["BROKER_API_KEY"]).append (List.Sublist.refl _)).append ?_
  · cases settings.broker.apiKey with
    | none => exact List.nil_sublist _
    | some key => exact List.Sublist.refl _
  · cases settings.vault with
    | none => exact List.nil_sublist _
    | some vault =>
      rw [Option.toList_some, List.flatMap_singleton]
      exact names_vaultVariables vault

theorem isLegible_vaultVariables {vault : VaultSettings}
    (h : ∀ text ∈ vault.texts, IsLegibleText text) :
    ∀ text ∈ (vaultVariables vault).map Prod.snd, IsLegibleText text := by
  have hsame : (vaultVariables vault).map Prod.snd = vault.texts := by
    rw [vaultVariables, VaultSettings.texts]
    cases vault.auth <;> rfl
  rwa [hsame]

theorem isLegible_brokerEnvironment (h : AreLegible settings) :
    ∀ text ∈ (Intended.brokerEnvironment settings).map Prod.snd, IsLegibleText text := by
  rw [Intended.brokerEnvironment, keyVariables]
  simp only [List.map_append, List.forall_mem_append]
  refine ⟨⟨?_, ?_⟩, ?_⟩
  · intro text htext
    rw [List.map_map] at htext
    obtain ⟨key, hkey, rfl⟩ := List.mem_map.mp htext
    exact h key (by simp [Settings.texts, Option.mem_toList.mp hkey])
  · have hhost := h settings.database.host (by simp [Settings.texts])
    have hname := h settings.database.name (by simp [Settings.texts])
    have huser := h settings.database.user (by simp [Settings.texts])
    have hpassword := h settings.database.password (by simp [Settings.texts])
    have hadmin := h settings.admin.user (by simp [Settings.texts])
    have hsecret := h settings.admin.password (by simp [Settings.texts])
    have hlevel := h settings.broker.logLevel (by simp [Settings.texts])
    have hsocket : IsLegibleText ("unix://" ++ settings.runtime.socket) :=
      isLegibleText_append.mpr ⟨by decide, h settings.runtime.socket (by simp [Settings.texts])⟩
    simp only [brokerVariables, List.map_cons, List.map_nil, List.forall_mem_cons]
    exact ⟨by decide, hhost, hname, hpassword, isLegibleText_repr _, huser, hsocket, hsecret,
      hadmin, isLegibleText_publicUrl h, by decide, by decide, hlevel, by decide,
      by decide, List.forall_mem_nil _⟩
  · cases hvault : settings.vault with
    | none => exact List.forall_mem_nil _
    | some vault =>
      rw [Option.toList_some, List.flatMap_singleton]
      refine isLegible_vaultVariables fun text htext => h text ?_
      simp [Settings.texts, hvault, htext]

theorem isLegible_broker (h : AreLegible settings) : (Intended.broker settings).IsLegible := by
  have hsocket := h settings.runtime.socket (by simp [Settings.texts])
  rw [Intended.broker]
  constructor
  case image => exact isLegibleText_image h _
  case groups =>
    intro text htext
    obtain ⟨group, -, rfl⟩ := List.mem_map.mp htext
    exact isLegibleText_repr group
  case names =>
    exact (by decide : ArePlainKeys brokerNames).sublist (names_brokerEnvironment settings)
  case environment => exact isLegible_brokerEnvironment h
  case volumes =>
    simp only [brokerVolumes, List.forall_mem_cons, mount, isLegibleText_append]
    exact ⟨⟨⟨hsocket, by decide⟩, hsocket⟩, by decide, by decide, List.forall_mem_nil _⟩
  all_goals
    dsimp only
    decide

theorem isLegible_proxy (h : AreLegible settings) : (Intended.proxy settings).IsLegible := by
  rw [Intended.proxy]
  constructor
  case image => exact isLegibleText_image h _
  case ports =>
    simp only [List.forall_mem_cons, isLegibleText_append]
    exact ⟨⟨isLegibleText_repr _, by decide⟩, ⟨isLegibleText_repr _, by decide⟩,
      List.forall_mem_nil _⟩
  case volumes =>
    dsimp only
    cases settings.tls.source <;> decide
  all_goals
    dsimp only
    decide

theorem isLegible_renewal (h : AreLegible settings) : (Intended.renewal settings).IsLegible := by
  rw [Intended.renewal]
  constructor
  case image => exact isLegibleText_image h _
  all_goals
    dsimp only
    decide +kernel

/-- The only further service is the one that renews a requested certificate. -/
theorem isLegible_renewalServices (h : AreLegible settings) :
    ∀ service ∈ (Intended.renewalServices settings).map Prod.snd, service.IsLegible := by
  rw [Intended.renewalServices]
  cases settings.tls.source with
  | selfSigned => exact List.forall_mem_nil _
  | letsEncrypt => exact List.forall_mem_singleton.mpr (isLegible_renewal h)

/-! ### The compose file -/

variable {topology : Topology}

/-- The services are some of those that have names, in their order. -/
theorem names_services (settings : Settings) :
    List.Sublist ((Intended.services settings).map Prod.fst) serviceNames.tail := by
  rw [Intended.services, List.map_append, Intended.renewalServices]
  refine (List.Sublist.refl ["postgres", "guacd", "guacamole", "session-broker", "nginx"]).append
    (?_ : List.Sublist _ ["certbot"])
  cases settings.tls.source with
  | selfSigned => exact List.nil_sublist _
  | letsEncrypt => exact List.Sublist.refl _

/-- What is intended for legible settings is legible. -/
theorem areLegibleEntries_intended (h : AreLegible settings) :
    AreLegibleEntries (Intended.topology settings).toEntries := by
  refine areLegibleEntries_toEntries (by decide : IsLegibleText "guacamole") ?_ ?_ ?_ ?_
  · exact (by decide : ArePlainKeys serviceNames.tail).sublist (names_services settings)
  · rw [Intended.topology, Intended.services, List.map_append, List.forall_mem_append]
    refine ⟨?_, isLegible_renewalServices h⟩
    simp only [List.map_cons, List.map_nil, List.forall_mem_cons]
    exact ⟨isLegible_postgres h, isLegible_guacd h, isLegible_application h, isLegible_broker h,
      isLegible_proxy h, List.forall_mem_nil _⟩
  -- Neither the networks nor the volumes depend on the settings.
  · dsimp only [Intended.topology]
    decide
  · dsimp only [Intended.topology]
    decide

/-- Every topology that is built from legible settings is legible. -/
theorem areLegibleEntries_of_build (h : AreLegible settings)
    (hbuild : build settings = .ok topology) : AreLegibleEntries topology.toEntries := by
  have hentries : topology.toEntries =
      Node.mapEntries escape (Intended.topology settings).toEntries :=
    Node.mapping.inj (node_of_build hbuild)
  rw [hentries]
  exact areLegibleEntries_mapEntries isLegibleText_escape _ (areLegibleEntries_intended h)

/-- **The compose file is read back as the topology that was built.** -/
theorem read_topology_write (hbuild : build settings = .ok topology)
    (htexts : ∀ text ∈ settings.texts, '\u2028' ∉ text.toList ∧ '\u2029' ∉ text.toList) :
    read topology.write = some topology.node.toTree :=
  read_writeFile (by decide) (by decide) (by decide)
    (areLegibleEntries_of_build htexts hbuild)

/-- The settings of the sample site with values that look like anything but texts, and in every
style that the writer has. -/
def lookalikeSettings : Settings :=
  { Sample.settings with
    database :=
      { Sample.settings.database with
        user := "0x1F"
        name := "- true: # null"
        password := "\n  two: lines\n\n- # no comment\n\n" }
    admin := { user := "~", password := "tab\tbell\x07 \"quote\" \\ \u00a0" }
    broker := { apiKey := some "it's: 'single' #quoted", logLevel := "-.inf" }
    vault := some
      { address := "https://vault:8200 # main", auth := .token "1e5", mount := "first\nsecond\n",
        path := "---" } }

/-- Values that look like anything but texts are read back as texts. -/
theorem read_topology_write_lookalike :
    ∃ topology, build lookalikeSettings = .ok topology ∧
      read topology.write = some topology.node.toTree ∧
      topology.node.at? ["services", "postgres", "environment", "POSTGRES_PASSWORD"] =
        some (.text "\n  two: lines\n\n- # no comment\n\n") := by
  obtain ⟨topology, h⟩ : ∃ topology, build lookalikeSettings = .ok topology := ⟨_, rfl⟩
  have hplaced := hasTexts_configured lookalikeSettings
    ⟨["services", "postgres", "environment", "POSTGRES_PASSWORD"],
      "\n  two: lines\n\n- # no comment\n\n"⟩
    (by simp [configured, postgresTexts, variableTexts, Placed.ofService, lookalikeSettings])
  exact ⟨topology, h, read_topology_write h (by decide), at?_node h hplaced⟩

end

end Compose

end RemoteGateway
