import RemoteGateway.Deployment.Provision
import RemoteGateway.Proofs.Compose.Mounts
import RemoteGateway.Proofs.Deployment.Generating
import RemoteGateway.Proofs.Proxy.Published
import RemoteGateway.Proofs.Proxy.Servers
import RemoteGateway.Proofs.Settings.Footprint
import RemoteGateway.Proofs.Settings.SiteNames

/-!
# One directory for the certificate

Several artifacts of a deployment have to name the directory of the certificate: the virtual
host, which reads it; the script, which makes it; and the compose file, whose mounts say where
it is on the host. They never talk to each other, and each derives the directory in its own way.
`IssuedAt` says what it means that all of them mean the directory of one name, and `LocalPair`
what it means that the pair of the host is found where it is made. Whenever the artifacts can be
generated, one or the other holds (`synthesize_agrees`).
-/

namespace RemoteGateway

namespace FileTree

/-- The location whose content a step writes. -/
def Step.filled? : Step → Option Location
  | fill location _ => some location
  | _ => none

theorem filterMap_filled?_makeAll (locations : List Location) :
    (makeAll locations).filterMap Step.filled? = [] := by
  rw [List.filterMap_eq_nil_iff]
  intro step hstep
  rcases List.mem_cons.mp hstep with rfl | hstep
  · rfl
  · obtain ⟨location, -, rfl⟩ := List.mem_map.mp hstep
    rfl

/-- A private file is written at its own location and nowhere else. -/
theorem filterMap_filled?_writePrivate (path : String) (content : ByteArray) (mode : Nat) :
    (writePrivate path content mode).filterMap Step.filled? = [.ofText path] := by
  rw [writePrivate, List.filterMap_append, filterMap_filled?_makeAll]
  rfl

/-- Joining ends a path in the entry that is joined. -/
theorem exists_toList_join (directory entry : String) :
    ∃ before, (join directory entry).toList = before ++ entry.toList := by
  rw [join]
  split
  · exact ⟨[], rfl⟩
  · split
    · exact ⟨directory.toList, String.toList_append⟩
    · exact ⟨directory.toList ++ ['/'], by rw [String.toList_append, String.toList_append]; rfl⟩

/-- Below a directory that is named without a slash at its end, an entry stands behind one. -/
theorem join_eq {directory entry : String} (h : directory ≠ "")
    (hend : directory.toList.getLast? ≠ some '/') (hentry : entry.toList.head? ≠ some '/') :
    join directory entry = directory ++ ("/" ++ entry) := by
  rw [join, if_neg (not_or.mpr ⟨h, hentry⟩), if_neg hend, String.append_assoc]

end FileTree

namespace Deployment

open Certificate (linesBefore linesBehind joinLines)
open Compose (Topology hostPaths)
open Document (segments)
open Proxy (Declares Directive IsSpelled ReadsAs VirtualHost summaries)

/-! ### A requested certificate -/

/-- As its text is read, the proxy takes all its files from the directory that is named after
`name`, and answers to both names. -/
def ServesFrom (text name : String) : Prop :=
  ReadsAs text fun configuration => summaries configuration =
    [⟨[["80"], ["[::]:80"]], [[name, "www." ++ name]], [], [], []⟩,
      ⟨[["443", "ssl"], ["[::]:443", "ssl"]], [["www." ++ name]],
        [["/etc/letsencrypt/live/" ++ name ++ "/fullchain.pem"]],
        [["/etc/letsencrypt/live/" ++ name ++ "/privkey.pem"]], []⟩,
      ⟨[["443", "ssl"], ["[::]:443", "ssl"]], [[name]],
        [["/etc/letsencrypt/live/" ++ name ++ "/fullchain.pem"]],
        [["/etc/letsencrypt/live/" ++ name ++ "/privkey.pem"]],
        [["/etc/letsencrypt/live/" ++ name ++ "/chain.pem"]]⟩]

/-- The artifacts mean one directory by that of the certificate, the one named after `name`. -/
structure IssuedAt (settings : Settings) (artifacts : Artifacts) (topology : Topology)
    (name : String) : Prop where
  /-- The proxy reads the directory, if the name is one. -/
  servers : IsSpelled settings → name ≠ "" → ServesFrom artifacts.virtualHost name
  /-- The script requests the certificate under the name, for both names. -/
  script_eq : ∃ email staging, artifacts.bootstrap = some (joinLines (linesBefore ++
    ["CERT_NAME=" ++ Shell.quote name,
      "DOMAINS=(" ++ (Shell.quote name ++ " " ++ Shell.quote ("www." ++ name) ++ ")"),
      "EMAIL=" ++ email,
      "STAGING=" ++ staging] ++ linesBehind))
  /-- The directory of the proxy is that of the host which the script makes. -/
  proxy_place : ∃ service, topology.services.lookup "nginx" = some service ∧
    hostPaths "." service.volumes ("/etc/letsencrypt/live/" ++ name) =
      ["./certbot/conf/live/" ++ name]
  /-- So is that of the service which renews the certificate. -/
  renewal_place : ∃ service, topology.services.lookup "certbot" = some service ∧
    hostPaths "." service.volumes ("/etc/letsencrypt/live/" ++ name) =
      ["./certbot/conf/live/" ++ name]
  /-- The script makes a directory below the one that it keeps everything in. -/
  script_lines : "DATA_PATH=\"./certbot\"" ∈ linesBehind ∧
    "mkdir -p \"$DATA_PATH/conf/live/$CERT_NAME\" \"$DATA_PATH/www\"" ∈ linesBehind
  /-- With the values of its variables, that directory is the one of the host. -/
  script_place : Template.fill [("DATA_PATH", .text "./certbot"), ("CERT_NAME", .text name)]
    (Certificate.expansion "$DATA_PATH/conf/live/$CERT_NAME") =
      .ok ("./certbot/conf/live/" ++ name)

section Requested

variable {settings : Settings} {topology : Topology} (name : String)

/-- The directory of the certificate, as a path below the mount. -/
private theorem live_eq :
    "/etc/letsencrypt/live/" ++ name = issuedMount ++ ("/" ++ ("live/" ++ name)) := by
  rw [← String.append_assoc, ← String.append_assoc]
  rfl

private theorem issued_eq :
    FileTree.join "." issuedDirectory ++ ("/" ++ ("live/" ++ name)) =
      "./certbot/conf/live/" ++ name := by
  rw [← String.append_assoc, ← String.append_assoc]
  rfl

theorem issued_proxy_place (h : Compose.build settings = .ok topology)
    (hsource : settings.tls.source = .letsEncrypt) :
    ∃ service, topology.services.lookup "nginx" = some service ∧
      hostPaths "." service.volumes ("/etc/letsencrypt/live/" ++ name) =
        ["./certbot/conf/live/" ++ name] := by
  obtain ⟨service, hservice, hvolumes⟩ := Compose.exists_proxy h
  refine ⟨service, hservice, ?_⟩
  rw [hvolumes, hsource, live_eq, Compose.hostPaths_proxy_issued, issued_eq]

theorem issued_renewal_place (h : Compose.build settings = .ok topology)
    (hsource : settings.tls.source = .letsEncrypt) :
    ∃ service, topology.services.lookup "certbot" = some service ∧
      hostPaths "." service.volumes ("/etc/letsencrypt/live/" ++ name) =
        ["./certbot/conf/live/" ++ name] := by
  obtain ⟨service, hservice, hvolumes⟩ := Compose.exists_renewal h hsource
  refine ⟨service, hservice, ?_⟩
  rw [hvolumes, live_eq, Compose.hostPaths_renewal, issued_eq]

end Requested

/-! ### The pair of the host -/

/-- The proxy looks for the pair of the host where it is made. -/
structure LocalPair (artifacts : Artifacts) (topology : Topology) : Prop where
  /-- Nothing has to be requested. -/
  script_eq : artifacts.bootstrap = none
  /-- As it is read, the proxy has one server for TLS, which reads the pair. -/
  servers : ReadsAs artifacts.virtualHost fun configuration => summaries configuration =
    [⟨[["80"], ["[::]:80"]], [["_"]], [], [], []⟩,
      ⟨[["443", "ssl"], ["[::]:443", "ssl"]], [["_"]], [["/etc/nginx/ssl/cert.pem"]],
        [["/etc/nginx/ssl/key.pem"]], []⟩]
  /-- Wherever the artifacts are, the files of the proxy are those of the pair. -/
  proxy_place : ∃ service, topology.services.lookup "nginx" = some service ∧
    ∀ directory,
      hostPaths directory service.volumes "/etc/nginx/ssl/cert.pem" =
        [certificatePath directory] ∧
      hostPaths directory service.volumes "/etc/nginx/ssl/key.pem" = [keyPath directory]
  /-- The steps that make a pair write these two files. -/
  filled_eq : ∀ directory pair, (pairSteps directory pair).filterMap FileTree.Step.filled? =
    [.ofText (certificatePath directory), .ofText (keyPath directory)]

/-- A file of the pair, as a path below the directory of the pair. -/
private theorem join_pairDirectory {entry : String} (directory : String)
    (hentry : entry.toList.head? ≠ some '/') :
    FileTree.join (pairDirectory directory) entry =
      FileTree.join directory localTlsDirectory ++ ("/" ++ entry) := by
  obtain ⟨before, hbefore⟩ := FileTree.exists_toList_join directory localTlsDirectory
  have hlast : (pairDirectory directory).toList.getLast? = some 'l' := by
    rw [pairDirectory, hbefore, List.getLast?_append]
    rfl
  refine FileTree.join_eq ?_ ?_ hentry
  · intro h
    rw [h] at hlast
    cases hlast
  · rw [hlast]
    decide

theorem local_proxy_place {settings : Settings} {topology : Topology}
    (h : Compose.build settings = .ok topology) (hsource : settings.tls.source = .selfSigned) :
    ∃ service, topology.services.lookup "nginx" = some service ∧
      ∀ directory,
        hostPaths directory service.volumes "/etc/nginx/ssl/cert.pem" =
          [certificatePath directory] ∧
        hostPaths directory service.volumes "/etc/nginx/ssl/key.pem" = [keyPath directory] := by
  obtain ⟨service, hservice, hvolumes⟩ := Compose.exists_proxy h
  refine ⟨service, hservice, fun directory => ⟨?_, ?_⟩⟩
  · rw [hvolumes, hsource, certificatePath, join_pairDirectory directory (by decide)]
    exact Compose.hostPaths_proxy_local directory localCertificateFile
  · rw [hvolumes, hsource, keyPath, join_pairDirectory directory (by decide)]
    exact Compose.hostPaths_proxy_local directory localKeyFile

theorem filterMap_filled?_pairSteps (directory : String) (pair : Certificate.Pair) :
    (pairSteps directory pair).filterMap FileTree.Step.filled? =
      [.ofText (certificatePath directory), .ofText (keyPath directory)] := by
  rw [pairSteps, List.filterMap_append, FileTree.filterMap_filled?_writePrivate,
    FileTree.filterMap_filled?_writePrivate]
  rfl

/-! ### All artifacts together -/

section Written

variable {settings : Settings} {artifacts : Artifacts} {topology : Topology} {host : VirtualHost}

theorem localPair_of_writtenFrom (h : WrittenFrom settings artifacts topology host)
    (hsource : settings.tls.source = .selfSigned) : LocalPair artifacts topology := by
  have hhost := h.ofSettings_eq
  have hbootstrap := h.bootstrap_eq
  rw [VirtualHost.ofSettings, hsource] at hhost
  rw [bootstrap, hsource] at hbootstrap
  obtain rfl : VirtualHost.generated settings = host := Except.ok.inj hhost
  exact
    { script_eq := (Except.ok.inj hbootstrap).symm
      servers := h.readsAs (.of_selfSigned hsource) (Proxy.summaries_generated settings)
      proxy_place := local_proxy_place h.build_eq hsource
      filled_eq := filterMap_filled?_pairSteps }

theorem issuedAt_of_writtenFrom (h : WrittenFrom settings artifacts topology host)
    (hsource : settings.tls.source = .letsEncrypt) :
    ∃ name, settings.siteNames = some (.ofBase name) ∧
      IssuedAt settings artifacts topology name := by
  have hhost := h.ofSettings_eq
  have hbootstrap := h.bootstrap_eq
  rw [VirtualHost.ofSettings, hsource] at hhost
  rw [bootstrap_eq hsource] at hbootstrap
  cases hnames : settings.siteNames with
  | none =>
    rw [hnames] at hhost
    cases hhost
  | some names =>
    rw [hnames] at hhost hbootstrap
    obtain rfl : VirtualHost.issued settings names = host := Except.ok.inj hhost
    have hservers (hspelled : IsSpelled settings) (hne : names.canonical ≠ "") :=
      Proxy.summaries_issued settings (hspelled.isSolid_canonical hsource hnames) hne
        (hspelled.isSolid_aliasName hsource hnames) (aliasName_ne_empty hnames)
    -- Both names are determined by the first one.
    have hbase := siteNames_eq_ofBase hnames
    refine ⟨names.canonical, congrArg some hbase, ?_⟩
    generalize names.canonical = name at hbase
    subst hbase
    exact
      { servers := fun hspelled hne => h.readsAs hspelled (hservers hspelled hne)
        script_eq := ⟨_, _, (Except.ok.inj hbootstrap).symm⟩
        proxy_place := issued_proxy_place name h.build_eq hsource
        renewal_place := issued_renewal_place name h.build_eq hsource
        script_lines := ⟨Certificate.dataPath_mem_linesBehind, Certificate.mkdir_mem_linesBehind⟩
        script_place := Certificate.fill_filledDirectory (.ofBase name) }

end Written

private theorem exists_synthesize_sample :
    ∃ artifacts, synthesize Sample.settings = .ok artifacts :=
  exists_synthesize ⟨_, rfl⟩ ⟨_, rfl⟩

/-- The proxy reads a certificate that is in no directory of a name. -/
def ReadsElsewhere (text : String) : Prop :=
  ReadsAs text (Declares "ssl_certificate" ["/tmp/evil.pem"])

theorem ReadsElsewhere.not_servesFrom {text : String} (h : ReadsElsewhere text) (name : String) :
    ¬ ServesFrom text name := by
  intro hserves
  obtain ⟨configuration, -, ⟨server, hserver, hmem⟩, hsummaries⟩ := ReadsAs.and h hserves
  have hsummary := Proxy.mem_summaries hserver
  have hother : "/tmp/evil.pem" ≠ "/etc/letsencrypt/live/" ++ name ++ "/fullchain.pem" := by
    intro hsame
    have hlist := congrArg String.toList hsame
    rw [String.toList_append, String.toList_append] at hlist
    cases hlist
  have hcertificates : ["/tmp/evil.pem"] ∈ (Proxy.Summary.ofBody server).certificates := hmem
  rw [hsummaries] at hsummary
  simp only [List.mem_cons, List.not_mem_nil, or_false] at hsummary
  rcases hsummary with hplain | hsecond | hfirst
  · rw [hplain] at hcertificates
    cases hcertificates
  · rw [hsecond] at hcertificates
    exact hother (List.cons.inj (List.mem_singleton.mp hcertificates)).1
  · rw [hfirst] at hcertificates
    exact hother (List.cons.inj (List.mem_singleton.mp hcertificates)).1

section

variable {settings : Settings} {artifacts : Artifacts} {names : Site.Names}

/-- The proxy can only serve from the directory of a name if the canonical name is one word. -/
theorem wordsOf_canonical_of_servesFrom (h : synthesize settings = .ok artifacts)
    (hsource : settings.tls.source = .letsEncrypt) (hnames : settings.siteNames = some names)
    (hcanonical : Directive.isPlain names.canonical = true)
    (hresolver : Directive.isPlain settings.tls.resolver = true) {name : String}
    (hserves : ServesFrom artifacts.virtualHost name) :
    Proxy.wordsOf names.canonical.toList = [name] := by
  obtain ⟨configuration, hread, hsummaries⟩ := hserves
  rw [read_issued h hsource hnames hcanonical hresolver] at hread
  obtain rfl := Option.some.inj hread
  rw [summaries, Proxy.serverBodies_issued settings names (aliasName_ne_empty hnames),
    List.map_cons, List.map_cons, List.map_singleton, VirtualHost.summary_siteBody] at hsummaries
  -- The server for the application comes last, and is asked for its names.
  have hlast := congrArg (fun all => all.getLast?.map Proxy.Summary.names) hsummaries
  exact (List.cons.inj (Option.some.inj hlast)).1

end

/-- The artifacts can be generated, but the proxy serves from no directory of a name. -/
def ServesFromNone (settings : Settings) : Prop :=
  ∃ artifacts, synthesize settings = .ok artifacts ∧ ∀ name, ¬ ServesFrom artifacts.virtualHost name

/-- A domain that ends the directive it stands in and names a certificate of its own. -/
def evilDomain : String :=
  "x;ssl_certificate /tmp/evil.pem;#"

/-- A resolver that does so. -/
def evilResolver : String :=
  "1.1.1.1;ssl_certificate /tmp/evil.pem;#"

theorem servesFromNone_evilDomain : ServesFromNone (Sample.settingsAt evilDomain) := by
  obtain ⟨artifacts, h⟩ : ∃ artifacts, synthesize (Sample.settingsAt evilDomain) = .ok artifacts :=
    exists_synthesize ⟨_, rfl⟩ ⟨_, rfl⟩
  have hintrudes : Proxy.Intrudes "x" "ssl_certificate" "/tmp/evil.pem" :=
    ⟨Proxy.isSolid_of_all rfl, rfl, Proxy.isSolid_of_all rfl⟩
  have hnames : (Sample.settingsAt evilDomain).siteNames =
      some (.ofBase (Proxy.intruder "x" "ssl_certificate" "/tmp/evil.pem")) := rfl
  have hadded := hintrudes.exists_added (Sample.settingsAt evilDomain) rfl
  rw [Proxy.Intrudes.host, ← virtualHost_issued h rfl hnames] at hadded
  exact ⟨artifacts, h, ReadsElsewhere.not_servesFrom hadded⟩

theorem servesFromNone_evilResolver :
    ServesFromNone (Sample.settingsResolvedBy evilResolver) := by
  obtain ⟨artifacts, h⟩ :
      ∃ artifacts, synthesize (Sample.settingsResolvedBy evilResolver) = .ok artifacts :=
    exists_synthesize ⟨_, rfl⟩ ⟨_, rfl⟩
  have hintrudes : Proxy.Intrudes "1.1.1.1" "ssl_certificate" "/tmp/evil.pem" :=
    ⟨Proxy.isSolid_of_all rfl, rfl, Proxy.isSolid_of_all rfl⟩
  have hnames : (Sample.settingsResolvedBy evilResolver).siteNames =
      some (.ofBase "example.org") := rfl
  have helsewhere : ReadsElsewhere artifacts.virtualHost :=
    readsAs_of_resolver h rfl hnames rfl hintrudes rfl
  exact ⟨artifacts, h, helsewhere.not_servesFrom⟩

/-- A domain that is no word, or not only one, is no name either. -/
theorem servesFromNone_of_words {domain : String}
    (hnames : (Sample.settingsAt domain).siteNames = some (.ofBase domain))
    (hplain : Directive.isPlain domain = true)
    (hwords : ∀ name, Proxy.wordsOf domain.toList ≠ [name]) :
    ServesFromNone (Sample.settingsAt domain) := by
  obtain ⟨artifacts, h⟩ : ∃ artifacts, synthesize (Sample.settingsAt domain) = .ok artifacts :=
    exists_synthesize ⟨_, rfl⟩ ⟨_, rfl⟩
  have hresolver : Directive.isPlain Sample.settings.tls.resolver = true := rfl
  exact ⟨artifacts, h, fun name hserves =>
    hwords name (wordsOf_canonical_of_servesFrom h rfl hnames hplain hresolver hserves)⟩

end Deployment

end RemoteGateway
