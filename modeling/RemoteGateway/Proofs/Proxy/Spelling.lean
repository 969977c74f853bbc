import RemoteGateway.Proofs.Proxy.Filling
import RemoteGateway.Proofs.Proxy.Reading
import RemoteGateway.Proofs.Settings.SiteNames

/-!
# The spelling of a virtual host

A text is **solid** when nothing in it separates words or ends a directive. Base paths, ports and
the names of a site without white space are solid, and a virtual host whose names are is read
back directive by directive from the text that is written for it
(`isReadableAll_configuration`).
-/

namespace RemoteGateway.Proxy

open Directive

/-! ### Solid texts -/

/-- Nothing in the text separates words or ends a directive. -/
def IsSolid (text : String) : Prop :=
  ∀ c ∈ text.toList, isSeparator c = false ∧ isMark c = false

section

variable {text more : String}

theorem isSolid_of_all (h : (text.toList.all fun c => !isSeparator c && !isMark c) = true) :
    IsSolid text := by
  intro c hc
  simpa using List.all_eq_true.mp h c hc

theorem IsSolid.append (h : IsSolid text) (h' : IsSolid more) : IsSolid (text ++ more) := by
  intro c hc
  rw [String.toList_append] at hc
  exact (List.mem_append.mp hc).elim (h c) (h' c)

theorem IsSolid.isPlain (h : IsSolid text) : isPlain text = true := by
  rw [Directive.isPlain, List.all_eq_true]
  intro c hc
  rw [(h c hc).2]
  rfl

/-- A solid text is one word. -/
theorem IsSolid.wordsOf_eq (h : IsSolid text) (hne : text ≠ "") :
    wordsOf text.toList = [text] := by
  have hlist : text.toList ≠ [] := fun hnil => hne (String.toList_eq_nil_iff.mp hnil)
  rw [Proxy.wordsOf_eq fun c hc => (h c hc).1, wordIfAny, if_neg hlist, String.ofList_toList]

/-- A character that can stand in a base path can stand in a word. -/
theorem solid_of_isUnusable {c : Char} (h : Site.isUnusable c = false) :
    isSeparator c = false ∧ isMark c = false := by
  simp only [Site.isUnusable, Bool.or_eq_false_iff] at h
  obtain ⟨⟨⟨hblank, hsemicolon⟩, hopening⟩, hclosing⟩ := h
  constructor
  · refine Bool.eq_false_iff.mpr fun hseparator => ?_
    simp only [isSeparator, Bool.or_eq_true, beq_iff_eq] at hseparator
    rcases hseparator with ((rfl | rfl) | rfl) | rfl <;> cases hblank
  · rw [isMark, hsemicolon, hopening, hclosing]
    rfl

theorem isPlain_append : isPlain (text ++ more) = (isPlain text && isPlain more) := by
  rw [isPlain, String.toList_append, List.all_append]
  rfl

end

theorem isSolid_portSuffix (port : Nat) : IsSolid (Settings.portSuffix port) := by
  rw [Settings.portSuffix]
  split
  · exact fun c hc => absurd hc List.not_mem_nil
  · refine (isSolid_of_all (by decide)).append fun c hc => ?_
    rw [Nat.toString_eq_repr, Nat.toList_repr] at hc
    have hdigit := Nat.isDigit_of_mem_toDigits (by decide) (by decide) hc
    have halphanum : (c.isAlpha || c.isDigit) = true := by
      rw [hdigit, Bool.or_true]
    refine solid_of_isUnusable (isUnusable_of_isHostChar ?_)
    rw [isHostChar, Bool.or_eq_true, Bool.or_eq_true]
    exact .inl (.inl halphanum)

theorem isSolid_basePath (exposure : Site.Exposure) : IsSolid exposure.basePath := by
  cases exposure with
  | path base =>
    intro c hc
    rw [Site.Exposure.basePath, Site.BasePath.text, String.toList_ofList, Site.slashed,
      List.mem_cons, List.mem_append, List.mem_singleton] at hc
    rcases hc with rfl | hc | rfl
    · exact ⟨rfl, rfl⟩
    · exact solid_of_isUnusable (base.usable c hc)
    · exact ⟨rfl, rfl⟩
  | root => exact isSolid_of_all rfl
  | subdomain label =>
    change IsSolid "/"
    exact isSolid_of_all rfl

/-! ### Readable directives -/

section

variable {directive : Directive} {rest more : List Directive}

theorem isReadableAll_cons (h : directive.isReadable = true) (h' : isReadableAll rest = true) :
    isReadableAll (directive :: rest) = true := by
  rw [isReadableAll, h, h']
  rfl

theorem isReadableAll_append (h : isReadableAll rest = true) (h' : isReadableAll more = true) :
    isReadableAll (rest ++ more) = true := by
  induction rest with
  | nil => exact h'
  | cons directive rest ih =>
    rw [isReadableAll, Bool.and_eq_true] at h
    exact isReadableAll_cons h.1 (ih h.2)

theorem isReadable_simple {name arguments : String} (hname : isName name = true)
    (h : isPlain arguments = true) : (simple name 1 arguments).isReadable = true := by
  rw [isReadable, hname, h]
  rfl

theorem isReadable_block {name : String} {arguments : Option String} (hname : isName name = true)
    (h : arguments.all isPlain = true) (h' : isReadableAll rest = true) :
    (block name arguments rest).isReadable = true := by
  rw [isReadable, hname, h, h']
  rfl

/-- A part that may be missing is readable when it is as long as it is there. -/
theorem isReadableAll_whenStated {text : Option String} {body : String → List Directive}
    (h : ∀ stated, text = some stated → isReadableAll (body stated) = true) :
    isReadableAll (whenStated text body) = true := by
  cases text with
  | none => rfl
  | some stated =>
    by_cases hempty : stated = ""
    · subst hempty
      rfl
    · rw [whenStated_some hempty]
      exact h stated rfl

end

namespace VirtualHost

/-- No text of the virtual host ends a directive. The resolver is only written for a certificate
that is to be stapled. -/
structure Spelled (host : VirtualHost) : Prop where
  plainNames : isPlain host.plainNames = true
  webroot : ∀ webroot, host.webroot = some webroot → isPlain webroot = true
  origin : isPlain host.origin = true
  aliasName : ∀ name, host.aliasName = some name → isPlain name = true
  name : isPlain host.name = true
  certificatePath : isPlain host.certificatePath = true
  keyPath : isPlain host.keyPath = true
  chainPath : ∀ chain, host.chainPath = some chain → isPlain chain = true
  resolver : ∀ chain, host.chainPath = some chain → isPlain host.resolver = true

namespace Spelled

variable {host : VirtualHost}

theorem redirectLine (h : Spelled host) : host.redirectLine.isReadable = true := by
  refine isReadable_simple rfl ?_
  rw [isPlain_append, isPlain_append, h.origin]
  rfl

theorem tlsLines (h : Spelled host) {name : String} (hname : isPlain name = true) :
    isReadableAll (host.tlsLines name) = true :=
  isReadableAll_cons rfl (isReadableAll_cons rfl (isReadableAll_cons rfl
    (isReadableAll_cons (isReadable_simple rfl hname) (isReadableAll_cons rfl
      (isReadableAll_cons (isReadable_simple rfl h.certificatePath)
        (isReadableAll_cons (isReadable_simple rfl h.keyPath) rfl))))))

theorem plainBody (h : Spelled host) : isReadableAll host.plainBody = true := by
  have hhead : isReadableAll
      [simple "listen" 1 "80", simple "listen" 1 "[::]:80",
        simple "server_name" 1 host.plainNames, blank, healthBlock] = true :=
    isReadableAll_cons rfl (isReadableAll_cons rfl
      (isReadableAll_cons (isReadable_simple rfl h.plainNames) rfl))
  refine isReadableAll_append hhead (isReadableAll_append ?_ ?_)
  · refine isReadableAll_whenStated fun webroot hwebroot => ?_
    exact isReadableAll_cons rfl (isReadableAll_cons (isReadable_block rfl rfl
      (isReadableAll_cons (isReadable_simple rfl (h.webroot webroot hwebroot)) rfl)) rfl)
  · exact isReadableAll_cons rfl (isReadableAll_cons (isReadable_block rfl rfl
      (isReadableAll_cons h.redirectLine rfl)) rfl)

theorem aliasBody (h : Spelled host) {name : String} (hname : isPlain name = true) :
    isReadableAll (host.aliasBody name) = true :=
  isReadableAll_append (h.tlsLines hname)
    (isReadableAll_cons rfl (isReadableAll_cons h.redirectLine rfl))

/-- Behind the line with the chain of certificates only the resolver is one of the settings. -/
theorem tail_staplingLines (host : VirtualHost) (chain : String)
    (hresolver : isPlain host.resolver = true) :
    isReadableAll (host.staplingLines chain).tail = true := by
  have hvalid : isPlain (host.resolver ++ " valid=300s") = true := by
    rw [isPlain_append, hresolver]
    rfl
  exact isReadableAll_cons rfl (isReadableAll_cons rfl
    (isReadableAll_cons (isReadable_simple rfl hvalid) rfl))

theorem staplingLines (h : Spelled host) {chain : String} (hchain : host.chainPath = some chain) :
    isReadableAll (host.staplingLines chain) = true :=
  isReadableAll_cons (isReadable_simple rfl (h.chainPath chain hchain))
    (tail_staplingLines host chain (h.resolver chain hchain))

theorem rootRedirect (host : VirtualHost) : isReadableAll host.rootRedirect = true := by
  rw [VirtualHost.rootRedirect]
  split
  · have htarget : isPlain ("302 " ++ host.exposure.basePath) = true := by
      rw [isPlain_append, (isSolid_basePath _).isPlain]
      rfl
    exact isReadableAll_cons rfl (isReadableAll_cons (isReadable_block rfl rfl
      (isReadableAll_cons (isReadable_simple rfl htarget) rfl)) rfl)
  · rfl
  · rfl

theorem applicationBlock (host : VirtualHost) : host.applicationBlock.isReadable = true := by
  have hcookie : isPlain (Site.applicationPath ++ (" " ++ host.exposure.basePath)) = true := by
    rw [isPlain_append, isPlain_append, (isSolid_basePath _).isPlain]
    rfl
  have htail : isReadableAll
      [simple "proxy_set_header" 1 "Upgrade $http_upgrade",
        simple "proxy_set_header" 1 "Connection $connection_upgrade",
        simple "proxy_cookie_path" 1 (Site.applicationPath ++ (" " ++ host.exposure.basePath)),
        simple "proxy_read_timeout" 1 "1h",
        simple "access_log" 1 "off"] = true :=
    isReadableAll_cons rfl (isReadableAll_cons rfl
      (isReadableAll_cons (isReadable_simple rfl hcookie) rfl))
  exact isReadable_block rfl (isSolid_basePath _).isPlain
    (isReadableAll_append (isReadableAll_append rfl rfl) htail)

/-- The locations of the server for the application do not depend on the names of the site. -/
theorem locations (host : VirtualHost) :
    isReadableAll ([blank, healthBlock] ++
      (host.rootRedirect ++ [blank, host.applicationBlock, blank, brokerBlock])) = true :=
  isReadableAll_append rfl (isReadableAll_append (rootRedirect host)
    (isReadableAll_cons rfl (isReadableAll_cons (applicationBlock host) rfl)))

theorem siteBody (h : Spelled host) : isReadableAll host.siteBody = true :=
  isReadableAll_append (h.tlsLines h.name) (isReadableAll_append
    (isReadableAll_whenStated fun _ hchain => h.staplingLines hchain) (locations host))

/-- What stands in front of the servers does not depend on the names of the site. -/
theorem services (host : VirtualHost) :
    isReadableAll
      [comment Deployment.generatedNotice,
        comment ("ssl.mode=" ++ (host.source.name ++ (" url_mode=" ++ host.exposure.mode))),
        blank,
        block "upstream" (some "guacamole_app")
          [simple "server" 1 (backend Deployment.applicationService Deployment.applicationPort)],
        blank,
        block "upstream" (some "session_broker")
          [simple "server" 1 (backend Deployment.brokerService Deployment.brokerPort)],
        blank] = true := by
  have hmode : host.exposure.mode = "path" ∨ host.exposure.mode = "root" ∨
      host.exposure.mode = "subdomain" := by
    cases host.exposure with
    | path base => exact .inl rfl
    | root => exact .inr (.inl rfl)
    | subdomain label => exact .inr (.inr rfl)
  have hcomment : (comment ("ssl.mode=" ++ (host.source.name ++
      (" url_mode=" ++ host.exposure.mode)))).isReadable = true := by
    rcases hmode with hmode | hmode | hmode <;> rw [hmode] <;> cases host.source <;> rfl
  exact isReadableAll_cons rfl (isReadableAll_cons hcomment rfl)

theorem aliasServer (h : Spelled host) :
    isReadableAll (whenStated host.aliasName fun name =>
      [blank, block "server" none (host.aliasBody name)]) = true :=
  isReadableAll_whenStated fun name hname => isReadableAll_cons rfl
    (isReadableAll_cons (isReadable_block rfl rfl (h.aliasBody (h.aliasName name hname))) rfl)

/-- **The configuration is read as it was written.** -/
theorem configuration (h : Spelled host) : isReadableAll host.configuration = true := by
  refine isReadableAll_append ?_ (isReadableAll_append h.aliasServer ?_)
  · exact isReadableAll_append (services host)
      (isReadableAll_cons (isReadable_block rfl rfl h.plainBody) rfl)
  · exact isReadableAll_cons rfl (isReadableAll_cons (isReadable_block rfl rfl h.siteBody) rfl)

end Spelled

/-! ### The two kinds of virtual hosts -/

theorem isSolid_origin (port : Nat) {name : String} (h : IsSolid name) :
    IsSolid ("https://" ++ name ++ Settings.portSuffix port) := by
  have hscheme : IsSolid "https://" := isSolid_of_all rfl
  exact (hscheme.append h).append (isSolid_portSuffix port)

theorem isPlain_localTls :
    isPlain (Deployment.localTlsMount ++ "/" ++ Deployment.localCertificateFile) = true ∧
      isPlain (Deployment.localTlsMount ++ "/" ++ Deployment.localKeyFile) = true :=
  ⟨rfl, rfl⟩

theorem spelled_generated (settings : Settings) : Spelled (generated settings) where
  plainNames := (rfl : isPlain "_" = true)
  webroot _ h := by cases h
  origin := (isSolid_origin settings.proxy.httpsPort (isSolid_of_all rfl : IsSolid "$host")).isPlain
  aliasName _ h := by cases h
  name := (rfl : isPlain "_" = true)
  certificatePath := isPlain_localTls.1
  keyPath := isPlain_localTls.2
  chainPath _ h := by cases h
  resolver _ h := by cases h

theorem spelled_issued {settings : Settings} {names : Site.Names}
    (hcanonical : isPlain names.canonical = true) (halias : isPlain names.aliasName = true)
    (hresolver : isPlain settings.tls.resolver = true) : Spelled (issued settings names) := by
  have hlive : ∀ file, isPlain file = true → isPlain (liveDirectory names ++ file) = true := by
    intro file hfile
    rw [liveDirectory, Site.Names.certificateDirectory, isPlain_append, isPlain_append,
      hcanonical, hfile]
    rfl
  have horigin : isPlain ("https://" ++ names.canonical ++
      Settings.portSuffix settings.proxy.httpsPort) = true := by
    rw [isPlain_append, isPlain_append, hcanonical, (isSolid_portSuffix _).isPlain]
    rfl
  have hnames : (issued settings names).plainNames =
      names.canonical ++ (" " ++ names.aliasName) := by
    rw [← String.append_assoc]
    rfl
  exact
    { plainNames := by
        rw [hnames, isPlain_append, isPlain_append, hcanonical, halias]
        rfl
      webroot := by
        intro webroot h
        cases h
        rfl
      origin := horigin
      aliasName := by
        intro name h
        cases h
        exact halias
      name := hcanonical
      certificatePath := hlive _ rfl
      keyPath := hlive _ rfl
      chainPath := by
        intro chain h
        cases h
        exact hlive _ rfl
      resolver := fun _ _ => hresolver }

end VirtualHost

/-! ### Reading a virtual host -/

/-- The site of some settings is spelled as it is meant: a certificate is only requested for a name
that is a word, and with a resolver that does not end its directive. -/
structure IsSpelled (settings : Settings) : Prop where
  names : settings.tls.source = .letsEncrypt → ∀ names, settings.siteNames = some names →
    ∀ c ∈ names.canonical.toList, Site.isUnusable c = false
  resolver : settings.tls.source = .letsEncrypt →
    ∀ c ∈ settings.tls.resolver.toList, isMark c = false

namespace IsSpelled

open VirtualHost

variable {settings : Settings} {names : Site.Names} {host : VirtualHost}

/-- Where no certificate is requested, nothing is asked of the names. -/
theorem of_selfSigned (h : settings.tls.source = .selfSigned) : IsSpelled settings where
  names hsource := by
    rw [h] at hsource
    cases hsource
  resolver hsource := by
    rw [h] at hsource
    cases hsource

theorem isSolid_canonical (h : IsSpelled settings) (hsource : settings.tls.source = .letsEncrypt)
    (hnames : settings.siteNames = some names) : IsSolid names.canonical :=
  fun c hc => solid_of_isUnusable (h.names hsource names hnames c hc)

theorem isSolid_aliasName (h : IsSpelled settings) (hsource : settings.tls.source = .letsEncrypt)
    (hnames : settings.siteNames = some names) : IsSolid names.aliasName := by
  rw [aliasName_eq hnames]
  exact (isSolid_of_all rfl).append (h.isSolid_canonical hsource hnames)

/-- Requests are sent on to an origin that is part of a word. -/
theorem isSolid_origin (h : IsSpelled settings) (hhost : ofSettings settings = .ok host) :
    IsSolid host.origin := by
  rw [ofSettings] at hhost
  split at hhost
  · cases hhost
    exact (isSolid_of_all rfl : IsSolid "https://$host").append (isSolid_portSuffix _)
  · next hsource =>
    split at hhost
    · next names hnames =>
      cases hhost
      exact VirtualHost.isSolid_origin _ (h.isSolid_canonical hsource hnames)
    · cases hhost

/-- **A virtual host is read as it was written** when its site is spelled as it is meant. -/
theorem read_configuration (h : IsSpelled settings) (hhost : ofSettings settings = .ok host) :
    read (write host.configuration) = some (clausesAll host.configuration) := by
  rw [ofSettings] at hhost
  split at hhost
  · cases hhost
    exact read_write (spelled_generated settings).configuration
  · next hsource =>
    split at hhost
    · next names hnames =>
      cases hhost
      have hresolver : isPlain settings.tls.resolver = true := by
        rw [isPlain, List.all_eq_true]
        intro c hc
        rw [h.resolver hsource c hc]
        rfl
      exact read_write (spelled_issued (h.isSolid_canonical hsource hnames).isPlain
        (h.isSolid_aliasName hsource hnames).isPlain hresolver).configuration
    · cases hhost

/-- The sample site is spelled as it is meant. -/
theorem sample : IsSpelled Sample.settings where
  names := by
    intro _ names hnames c hc
    have hall : ((Site.names "example.org" Sample.settings.proxy.exposure).canonical.toList.all
        fun c => !Site.isUnusable c) = true := by decide
    rw [← Option.some.inj hnames] at hc
    exact (Bool.not_eq_true' _).mp (List.all_eq_true.mp hall c hc)
  resolver := by
    have hall : (Sample.settings.tls.resolver.toList.all fun c => !isMark c) = true := by decide
    exact fun _ c hc => (Bool.not_eq_true' _).mp (List.all_eq_true.mp hall c hc)

/-- What the configuration of a virtual host says is read from its text. -/
theorem readsAs (h : IsSpelled settings) (hhost : ofSettings settings = .ok host)
    {property : List Clause → Prop} (hproperty : property (clausesAll host.configuration)) :
    ReadsAs (write host.configuration) property :=
  ⟨_, h.read_configuration hhost, hproperty⟩

end IsSpelled

end RemoteGateway.Proxy
