import RemoteGateway.Proofs.Compose.Values
import RemoteGateway.Proofs.Deployment.Generating
import RemoteGateway.Proofs.Proxy.Published
import RemoteGateway.Proofs.Settings.PublicUrl

/-!
# One origin

The URL of a site is told to the broker in the compose file. It is the origin to which the proxy
sends all clients on, followed by the path below which the proxy hands requests to the application
(`sharesOrigin`): a proxy without a requested certificate leaves the host as the client named it,
and there the name of the site stands in its place. In the compose file the proxy is published at
the HTTPS port, which the URL names as its own unless the name of the site is more than a host
(`origins_disagree`).
-/

namespace RemoteGateway

/-! ### The host of a request -/

namespace Proxy

/-- A text with a name in place of the variable for the requested host. -/
def withHost (name : List Char) : List Char → List Char
  | [] => []
  | '$' :: 'h' :: 'o' :: 's' :: 't' :: rest => name ++ withHost name rest
  | c :: rest => c :: withHost name rest

theorem withHost_eq_self (name : List Char) {s : List Char} (h : '$' ∉ s) :
    withHost name s = s := by
  fun_induction withHost name s with
  | case1 => rfl
  | case2 rest => exact absurd List.mem_cons_self h
  | case3 c rest _ ih => rw [ih fun hmem => h (List.mem_cons_of_mem _ hmem)]

/-- Where the origin of a proxy names a host: with a requested certificate it does so literally, and
otherwise it means the requested one. -/
def namedOrigin (source : CertificateSource) (name origin : String) : String :=
  match source with
  | .selfSigned => String.ofList (withHost name.toList origin.toList)
  | .letsEncrypt => origin

/-- The host ports at which an entry for a port of the container publishes it. -/
def hostPorts (container : Nat) (ports : List String) : List String :=
  ports.filterMap fun entry =>
    (beforeSuffix? (":" ++ toString container).toList entry.toList).map String.ofList

/-- **The origin of a virtual host** names the site and the port of the proxy. -/
theorem namedOrigin_origin {settings : Settings} {host : VirtualHost}
    (h : VirtualHost.ofSettings settings = .ok host) :
    namedOrigin settings.tls.source settings.siteName host.origin =
      "https://" ++ settings.siteName ++ Settings.portSuffix settings.proxy.httpsPort := by
  rw [VirtualHost.ofSettings] at h
  split at h
  · next hsource =>
    cases h
    have horigin : (VirtualHost.generated settings).origin.toList =
        "https://$host".toList ++ (Settings.portSuffix settings.proxy.httpsPort).toList :=
      String.toList_append
    have hsuffix : '$' ∉ (Settings.portSuffix settings.proxy.httpsPort).toList := fun hmem =>
      absurd (mem_portSuffix hmem) (by decide)
    have hnamed : withHost settings.siteName.toList ("https://$host".toList ++
          (Settings.portSuffix settings.proxy.httpsPort).toList) =
        "https://".toList ++ (settings.siteName.toList ++ withHost settings.siteName.toList
          (Settings.portSuffix settings.proxy.httpsPort).toList) := rfl
    rw [hsource, namedOrigin, horigin, hnamed, withHost_eq_self _ hsuffix, ← String.toList_inj,
      String.toList_append, String.toList_append, List.append_assoc]
    exact String.toList_ofList
  · next hsource =>
    split at h
    · next names hnames =>
      cases h
      rw [hsource, namedOrigin, Settings.siteName, hnames]
      rfl
    · cases h

/-- The proxy publishes its TLS port at the one that is configured. -/
theorem hostPorts_proxy (http https : Nat) :
    hostPorts 443 [toString http ++ ":80", toString https ++ ":443"] = [toString https] := by
  have hending : ":" ++ toString 443 = ":443" := rfl
  have hother : ¬ ":443".toList <:+ (toString http ++ ":80").toList := by
    rintro ⟨front, hfront⟩
    have hlast := congrArg List.getLast? hfront
    rw [String.toList_append, List.getLast?_append, List.getLast?_append] at hlast
    cases hlast
  have hsame : beforeSuffix? ":443".toList (toString https ++ ":443").toList =
      some (toString https).toList := by
    rw [String.toList_append, beforeSuffix?_append]
  rw [hostPorts, hending, List.filterMap_cons_none, List.filterMap_cons_some, List.filterMap_nil]
  · rw [hsame, Option.map_some, String.ofList_toList]
  · rw [beforeSuffix?, if_neg hother]
    rfl

end Proxy

/-! ### The compose file -/

namespace Compose

open Yaml (Node)

variable (settings : Settings)

/-- The broker is told the URL of the site. -/
theorem at?_publicUrl :
    (Intended.topology settings).node.at?
        ["services", "session-broker", "environment", "GUACAMOLE_PUBLIC_URL"] =
      some (.text settings.publicUrl) := by
  have hmem : Placed.mk ["services", "session-broker", "environment", "GUACAMOLE_PUBLIC_URL"]
      settings.publicUrl ∈ configured settings := by
    simp [configured, brokerTexts, brokerValues, variableTexts, Placed.ofService]
  exact hasTexts_configured settings _ hmem

/-- The proxy is published at its ports. -/
theorem at?_ports :
    (Intended.topology settings).node.at? ["services", "nginx", "ports"] =
      some (texts [toString settings.proxy.httpPort ++ ":80",
        toString settings.proxy.httpsPort ++ ":443"]) := by
  have hlookup : (Intended.topology settings).services.lookup "nginx" =
      some (Intended.proxy settings) := rfl
  rw [at?_service hlookup]
  rfl

end Compose

namespace Deployment

open Compose (Topology)
open Proxy (Clause IsSpelled Publishes ReadsAs VirtualHost hostPorts namedOrigin)

variable {settings : Settings} {artifacts : Artifacts}

/-- The artifacts have one origin and one path in common with the settings. -/
structure SharesOrigin (settings : Settings) (artifacts : Artifacts) (topology : Topology)
    (origin path : String) : Prop where
  topology_eq : Compose.build settings = .ok topology
  compose_eq : artifacts.compose = topology.write
  /-- As its text is read, the proxy sends clients on to the origin and hands requests below the
  path to the application, to whose cookies the path is given. -/
  publishes : IsSpelled settings →
    ReadsAs artifacts.virtualHost fun configuration => Publishes configuration origin path
  /-- The URL of the site is the origin followed by the path. -/
  url_eq : settings.publicUrl =
    namedOrigin settings.tls.source settings.siteName origin ++ path
  /-- The broker is told this URL, in every environment. -/
  told : ∀ environment, ∃ node,
    topology.node.readTexts? (Compose.interpolate environment) = some node ∧
      node.at? ["services", "session-broker", "environment", "GUACAMOLE_PUBLIC_URL"] =
        some (.text settings.publicUrl)
  /-- The port of the URL is the one at which the compose file publishes the proxy. -/
  ports : ∀ environment, ∃ node entries port,
    topology.node.readTexts? (Compose.interpolate environment) = some node ∧
      node.at? ["services", "nginx", "ports"] = some (Compose.texts entries) ∧
      hostPorts 443 entries = [toString port] ∧
      (IsPlainHost settings.siteName → urlPort? settings.publicUrl = some port)
  /-- A path of its own is where clients are sent on to from the root. -/
  root : ∀ base, settings.proxy.exposure = .path base → path = base.text ∧ (IsSpelled settings →
    ReadsAs artifacts.virtualHost fun configuration => Clause.rootTargets configuration = [[path]])

/-- The configuration of the sample site with a pair of its own, a domain and a port. -/
def domainDocument (domain : String) (port : Nat) : Document.Value :=
  ((Sample.document.store (.text "selfsigned") (Document.segments "ssl.mode")).store
    (.text domain) (Document.segments "ssl.domain")).store
      (.number (.integer port)) (Document.segments "nginx.https_port")

/-- The settings that are read from it, when the domain is left as it is. -/
def domainSettings (domain : String) (port : Nat) : Settings :=
  { Sample.localSettings with
    tls := { Sample.localSettings.tls with domain := some domain }
    proxy := { Sample.localSettings.proxy with httpsPort := port } }

/-- Artifacts are generated for a domain, but the URL of the site names another port than the one at
which the proxy is published. -/
structure NamesOtherPort (domain : String) (port named : Nat) : Prop where
  ofDocument_eq :
    Settings.ofDocument (domainDocument domain port) = .ok (domainSettings domain port)
  synthesizes : ∃ artifacts, synthesize (domainSettings domain port) = .ok artifacts
  named_eq : urlPort? (domainSettings domain port).publicUrl = some named
  published : ∃ topology, Compose.build (domainSettings domain port) = .ok topology ∧
    ∀ environment, ∃ node entries,
      topology.node.readTexts? (Compose.interpolate environment) = some node ∧
        node.at? ["services", "nginx", "ports"] = some (Compose.texts entries) ∧
        hostPorts 443 entries = [toString port]
  other : named ≠ port

/-- Artifacts are generated whatever the domain and the port, so that only the URL can go wrong. -/
theorem NamesOtherPort.of_publicUrl {domain : String} {port named : Nat}
    (hread : Settings.ofDocument (domainDocument domain port) = .ok (domainSettings domain port))
    (hurl : urlPort? (domainSettings domain port).publicUrl = some named) (hother : named ≠ port) :
    NamesOtherPort domain port named := by
  obtain ⟨topology, htopology⟩ :
      ∃ topology, Compose.build (domainSettings domain port) = .ok topology := ⟨_, rfl⟩
  exact ⟨hread, exists_synthesize ⟨topology, htopology⟩ ⟨_, rfl⟩, hurl,
    ⟨topology, htopology, fun environment => ⟨_, _,
      Compose.readTexts?_interpolate htopology environment, Compose.at?_ports _,
      Proxy.hostPorts_proxy _ _⟩⟩, hother⟩

/-- A domain that names a port has this port in the URL. -/
theorem namesOtherPort_port : NamesOtherPort "example.org:8443" 443 8443 := by
  refine .of_publicUrl rfl ?_ (by decide)
  have hurl : (domainSettings "example.org:8443" 443).publicUrl.toList = "https://".toList ++
      (("example.org".toList ++ ':' :: Nat.toDigits 10 8443) ++ '/' :: "guacamole/".toList) := rfl
  have hall : ("example.org".toList ++ ':' :: Nat.toDigits 10 8443).all
      (fun c => endsAuthority c == false) = true := by decide
  have hauthority := authority?_eq hurl (fun c hc => eq_of_beq (List.all_eq_true.mp hall c hc)) rfl
  rw [urlPort?, hauthority, Option.bind_some, portOf?_append]

/-- A domain that goes on behind its host cuts the port of the proxy off. -/
theorem namesOtherPort_path : NamesOtherPort "example.org/home" 8443 443 := by
  refine .of_publicUrl rfl ?_ (by decide)
  have hurl : (domainSettings "example.org/home" 8443).publicUrl.toList = "https://".toList ++
      ("example.org".toList ++ '/' :: "home:8443/guacamole/".toList) := rfl
  have hplain : IsPlainHost "example.org" := by decide
  rw [urlPort?, authority?_eq hurl hplain.within rfl, Option.bind_some, portOf?,
    if_pos (.inl hplain.endsInHost)]

/-- The artifacts can be generated, but the proxy publishes the application nowhere. -/
def PublishesNowhere (settings : Settings) : Prop :=
  ∃ artifacts, synthesize settings = .ok artifacts ∧ ∀ origin path,
    ¬ ReadsAs artifacts.virtualHost fun configuration => Publishes configuration origin path

/-- A domain of two words is read as two arguments of every redirection. -/
theorem publishesNowhere_words : PublishesNowhere (Sample.settingsAt "example.org evil") := by
  obtain ⟨artifacts, h⟩ :
      ∃ artifacts, synthesize (Sample.settingsAt "example.org evil") = .ok artifacts :=
    exists_synthesize ⟨_, rfl⟩ ⟨_, rfl⟩
  have hnames : (Sample.settingsAt "example.org evil").siteNames =
      some (.ofBase "example.org evil") := rfl
  refine ⟨artifacts, h, fun origin path => ?_⟩
  rintro ⟨configuration, hread, hpublishes⟩
  rw [read_issued h rfl hnames rfl rfl] at hread
  obtain rfl := Option.some.inj hread
  have hwords : ["https://example.org", "evil$request_uri"] ∈ Clause.targetsOf "301"
      (Proxy.Directive.clausesAll (VirtualHost.issued (Sample.settingsAt "example.org evil")
        (.ofBase "example.org evil")).configuration) := by
    rw [Clause.targetsOf, Proxy.Directive.argumentsOfAll_clausesAll]
    exact List.mem_filterMap.mpr ⟨_, List.mem_map.mpr ⟨_, VirtualHost.mem_returns, rfl⟩, rfl⟩
  exact absurd (List.cons.inj (hpublishes.origins _ hwords)).2 (List.cons_ne_nil _ _)

/-- A resolver that ends the directive it stands in and turns the cookies' path off. -/
def evilCookies : String :=
  "1.1.1.1;proxy_cookie_path off;#"

theorem publishesNowhere_evilCookies :
    PublishesNowhere (Sample.settingsResolvedBy evilCookies) := by
  obtain ⟨artifacts, h⟩ :
      ∃ artifacts, synthesize (Sample.settingsResolvedBy evilCookies) = .ok artifacts :=
    exists_synthesize ⟨_, rfl⟩ ⟨_, rfl⟩
  have hintrudes : Proxy.Intrudes "1.1.1.1" "proxy_cookie_path" "off" :=
    ⟨Proxy.isSolid_of_all rfl, rfl, Proxy.isSolid_of_all rfl⟩
  have hnames : (Sample.settingsResolvedBy evilCookies).siteNames =
      some (.ofBase "example.org") := rfl
  have hadded : ReadsAs artifacts.virtualHost (Proxy.Declares "proxy_cookie_path" ["off"]) :=
    readsAs_of_resolver h rfl hnames rfl hintrudes rfl
  refine ⟨artifacts, h, fun origin path hreads => ?_⟩
  obtain ⟨configuration, -, ⟨server, hserver, hmem⟩, hpublishes⟩ := hadded.and hreads
  have hcookies := Clause.argumentsOfAll_subset hserver hmem
  rw [hpublishes.cookies, List.mem_singleton] at hcookies
  exact absurd (List.cons.inj hcookies).2 (List.cons_ne_nil _ _).symm

end Deployment

end RemoteGateway
