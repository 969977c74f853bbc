import RemoteGateway.Proofs.Deployment.Footprints
import RemoteGateway.Proofs.Deployment.PublicUrls
import RemoteGateway.Proofs.Settings.Numbers

/-!
# Ports in the artifacts

The ports of the proxy go into the URL of the site, into the redirections of the virtual host and
into the compose file as numbers (`showsPorts_of_synthesize`). So it does not matter to any of them
how a document writes its ports, and the port of HTTPS is left out of a URL however it is written
(`numbers_canonical`).
-/

namespace RemoteGateway.Deployment

open Compose (Topology)
open Document (Value segments)
open Proxy (Directive IsSpelled Publishes ReadsAs VirtualHost)
open Proxy.Directive (targetsOf)

variable {settings : Settings} {artifacts : Artifacts} {document : Value} {text : String} {n : Nat}

/-- The host to which a proxy sends clients on: with a requested certificate it is the name of the
site, and otherwise the one that was asked for. -/
def redirectName (settings : Settings) : String :=
  match settings.tls.source with
  | .selfSigned => "$host"
  | .letsEncrypt => settings.siteName

theorem origin_eq {host : VirtualHost} (h : VirtualHost.ofSettings settings = .ok host) :
    host.origin =
      "https://" ++ redirectName settings ++ Settings.portSuffix settings.proxy.httpsPort := by
  rw [VirtualHost.ofSettings] at h
  rw [redirectName]
  cases hsource : settings.tls.source with
  | selfSigned =>
    rw [hsource] at h
    cases h
    rfl
  | letsEncrypt =>
    rw [hsource] at h
    cases hnames : settings.siteNames with
    | none =>
      simp only [hnames] at h
      cases h
    | some names =>
      simp only [hnames, Except.ok.injEq] at h
      rw [← h, Settings.siteName, hnames]
      rfl

/-- Artifacts show the ports of the proxy; what stands behind the host of a URL is given. -/
structure ShowsPorts (settings : Settings) (artifacts : Artifacts) (http https : Nat)
    (suffix : String) : Prop where
  /-- The proxy sends clients on to an origin with the suffix. -/
  redirects : ∃ configuration, artifacts.virtualHost = Directive.write configuration ∧
    targetsOf "301" configuration ≠ [] ∧ ∀ target ∈ targetsOf "301" configuration,
      target = "https://" ++ redirectName settings ++ suffix ++ "$request_uri"
  /-- So it does as its text is read. -/
  publishes : IsSpelled settings → ∃ path, ReadsAs artifacts.virtualHost fun configuration =>
    Publishes configuration ("https://" ++ redirectName settings ++ suffix) path
  /-- The compose file publishes the proxy at the ports, in every environment. -/
  published : ∃ topology : Topology, artifacts.compose = topology.write ∧ ∀ environment, ∃ node,
    topology.node.readTexts? (Compose.interpolate environment) = some node ∧
      node.at? ["services", "nginx", "ports"] =
        some (Compose.texts [toString http ++ ":80", toString https ++ ":443"])

/-- **Artifacts show the ports of the settings.** -/
theorem showsPorts_of_synthesize (h : synthesize settings = .ok artifacts) :
    ShowsPorts settings artifacts settings.proxy.httpPort settings.proxy.httpsPort
      (Settings.portSuffix settings.proxy.httpsPort) := by
  obtain ⟨topology, host, hwritten⟩ := exists_writtenFrom h
  have horigin := origin_eq hwritten.ofSettings_eq
  refine ⟨⟨host.configuration, hwritten.virtualHost_eq, VirtualHost.targetsOf_ne_nil,
    fun target htarget => ?_⟩, fun hspelled => ⟨host.exposure.basePath, ?_⟩,
    ⟨topology, hwritten.compose_eq, fun environment =>
      ⟨_, Compose.readTexts?_interpolate hwritten.build_eq environment,
        Compose.at?_ports settings⟩⟩⟩
  · rw [VirtualHost.eq_secureTarget_of_mem htarget, VirtualHost.secureTarget, horigin]
  · rw [← horigin]
    exact hwritten.readsAs hspelled
      (host.publishes_configuration (hspelled.isSolid_origin hwritten.ofSettings_eq))

theorem httpsPort_of_takes (hsettings : Settings.ofDocument document = .ok settings)
    (h : document.getText? "nginx.https_port" = some text)
    (htakes : NumberField.httpsPort.Takes text n) : settings.proxy.httpsPort = n :=
  Option.some.inj (stored_of_takes .httpsPort hsettings h htakes)

/-- The URL of a site shows the HTTPS port as the number that was written. -/
theorem publicUrl_of_takes (hsettings : Settings.ofDocument document = .ok settings)
    (h : document.getText? "nginx.https_port" = some text)
    (htakes : NumberField.httpsPort.Takes text n) :
    settings.publicUrl = "https://" ++ settings.siteName ++ Settings.portSuffix n ++
      settings.proxy.exposure.basePath := by
  rw [Settings.publicUrl_eq, httpsPort_of_takes hsettings h htakes]

/-- So do the artifacts. -/
theorem showsPorts_of_takes {known : Option Nat}
    (hsettings : Settings.ofDocument document = .ok settings)
    (h : document.getText? "nginx.https_port" = some text)
    (htakes : NumberField.httpsPort.Takes text n)
    (hartifacts : artifactsOf known document = .ok artifacts) :
    ShowsPorts settings artifacts settings.proxy.httpPort n (Settings.portSuffix n) := by
  rw [artifactsOf_eq hsettings] at hartifacts
  have hshows := showsPorts_of_synthesize hartifacts
  rw [← httpsPort_of_takes hsettings h htakes]
  -- A known group changes neither the ports nor the names.
  exact ⟨hshows.redirects, fun hspelled => hshows.publishes ⟨hspelled.names, hspelled.resolver⟩,
    hshows.published⟩

/-- **Numbers are read exactly, and however they are written.** A document is read past the key of a
number when it gets there and the text at the key writes a number within the bound, and this number
is the one in the settings. A text writes a number when it is the digits of that number behind any
number of zeros, with a sign in front or without one. Documents that write the same numbers
otherwise, be it as numbers or as texts, have the same settings and the same artifacts. So the HTTPS
port is in the URL of the site, in the redirections and in the compose file as a number, and the
standard one is left out of the former. -/
theorem numbers_canonical :
    (∀ (document : Value) (field : NumberField) (text : String),
      document.getText? field.key = some text →
      (GetsPast document field.key ↔ GetsTo document field.key ∧ ∃ n, field.Takes text n) ∧
      ∀ settings, Settings.ofDocument document = .ok settings →
        ∃ n, field.Takes text n ∧ field.stored settings = some n) ∧
    (∀ (field : NumberField) (text : String) (n : Nat),
      field.Takes text n ↔ n ≤ field.bound ∧ ∃ signed zeros, text = numeral signed zeros n) ∧
    (∀ first second : Value, Respelled first second →
      Settings.ofDocument first = Settings.ofDocument second ∧
      ∀ known, artifactsOf known first = artifactsOf known second) ∧
    (∀ (document : Value) (field : NumberField) (text : String) (n : Nat), field.Takes text n →
      Respelled (document.store (.text text) (segments field.key))
        (document.store (.number (.integer n)) (segments field.key))) ∧
    ∀ (document : Value) (text : String) (n : Nat) (settings : Settings),
      document.getText? "nginx.https_port" = some text → NumberField.httpsPort.Takes text n →
      Settings.ofDocument document = .ok settings →
      settings.publicUrl = "https://" ++ settings.siteName ++
          (if n = 443 then "" else ":" ++ toString n) ++ settings.proxy.exposure.basePath ∧
        ∀ known artifacts, artifactsOf known document = .ok artifacts →
          ShowsPorts settings artifacts settings.proxy.httpPort n
            (if n = 443 then "" else ":" ++ toString n) := by
  refine ⟨fun document field text h => ?_, fun field text n => takes_iff,
    fun first second h => ?_, fun document field text n h => respelled_number document h,
    fun document text n settings h htakes hsettings => ?_⟩
  · exact ⟨getsPast_iff h, fun settings hsettings => stored_of_ofDocument hsettings h⟩
  · have hsettings := ofDocument_respelled h
    refine ⟨hsettings, fun known => ?_⟩
    rw [artifactsOf, artifactsOf, hsettings]
  · exact ⟨publicUrl_of_takes hsettings h htakes, fun known artifacts hartifacts =>
      showsPorts_of_takes hsettings h htakes hartifacts⟩

/-- The sample site with its HTTPS port as a value of some kind. -/
def portDocument (port : Value) : Value :=
  Sample.document.store port (segments "nginx.https_port")

/-- A numeral of 443 is got past, stands for the number, and is left out of the URLs. -/
theorem numbers_canonical_portDocument :
    GetsPast (portDocument (.text "+00443")) "nginx.https_port" ∧
      Settings.ofDocument (portDocument (.text "+00443")) =
        Settings.ofDocument (portDocument (.number (.integer 443))) ∧
      ∃ settings artifacts, Settings.ofDocument (portDocument (.text "+00443")) = .ok settings ∧
        artifactsOf none (portDocument (.text "+00443")) = .ok artifacts ∧
        settings.publicUrl = "https://" ++ settings.siteName ++ "" ++
          settings.proxy.exposure.basePath ∧
        ShowsPorts settings artifacts 80 443 "" := by
  obtain ⟨hpast, htakes, hcanonical, hnumber, hshows⟩ := numbers_canonical
  have hread : Settings.ofDocument (portDocument (.text "+00443")) = .ok Sample.settings := rfl
  have htext : (portDocument (.text "+00443")).getText? NumberField.httpsPort.key =
      some "+00443" := by decide
  have htakes443 : NumberField.httpsPort.Takes "+00443" 443 :=
    (htakes .httpsPort "+00443" 443).mpr ⟨by decide, true, 2, rfl⟩
  obtain ⟨artifacts, hartifacts⟩ :
      ∃ artifacts, artifactsOf none (portDocument (.text "+00443")) = .ok artifacts := by
    rw [artifactsOf_eq hread]
    exact exists_synthesize ⟨_, rfl⟩ ⟨_, rfl⟩
  have hto : GetsTo (portDocument (.text "+00443")) NumberField.httpsPort.key := by
    intro fault hfault
    rw [hread] at hfault
    cases hfault
  obtain ⟨hurl, hports⟩ := hshows _ "+00443" 443 Sample.settings htext htakes443 hread
  exact ⟨(hpast _ .httpsPort "+00443" htext).1.mpr ⟨hto, 443, htakes443⟩,
    (hcanonical _ _ (hnumber Sample.document .httpsPort "+00443" 443 htakes443)).1,
    Sample.settings, artifacts, hread, hartifacts, hurl, hports none artifacts hartifacts⟩

end RemoteGateway.Deployment
