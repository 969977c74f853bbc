import RemoteGateway.Proofs.Proxy.Serving
import RemoteGateway.Proofs.Proxy.Surveys

/-!
# Domains that end a directive

A domain is written into the virtual host as it is. When a semicolon in it ends the directive that
it stands in, the rest of the domain is read as further directives: a domain whose text is an
`intruder` adds a directive of its choice to the server for the application (`exists_added`). So
what a virtual host says can only be told of sites that are spelled as they are meant. It is the
same with the resolver (`exists_added_of_resolver`).
-/

namespace RemoteGateway.Proxy

open Directive VirtualHost

/-- A text that ends the directive that it stands in, adds another one, and makes the rest of the
line a comment. -/
def intruder (first name arguments : String) : String :=
  first ++ (";" ++ (name ++ (" " ++ (arguments ++ ";#"))))

namespace Directive

variable {directives more : List Directive} {clauses others : List Clause}

theorem linesAll_append (level : Nat) (directives more : List Directive) :
    linesAll level (directives ++ more) = linesAll level directives ++ linesAll level more := by
  induction directives with
  | nil => rfl
  | cons directive directives ih =>
    rw [List.cons_append, linesAll, linesAll, ih, List.append_assoc]

theorem AreRead.append (h : AreRead directives clauses) (h' : AreRead more others) :
    AreRead (directives ++ more) (clauses ++ others) := by
  intro level outer done
  rw [linesAll_append, textOf_append, Reader.run_append, h, Option.bind_some, h',
    List.append_assoc]

theorem AreRead.block {name : String} {arguments : Option String} (h : AreRead directives clauses)
    (hname : isName name = true) (harguments : arguments.all isPlain = true) :
    AreRead [.block name arguments directives] [.block (headerWords name arguments) clauses] := by
  intro level outer done
  rw [linesAll, linesAll, List.append_nil]
  exact run_block level hname harguments (h (level + 1)) outer done

theorem AreRead.server (h : AreRead directives clauses) :
    AreRead [.block "server" none directives] [.block ["server"] clauses] :=
  h.block rfl rfl

end Directive

/-- Some server of a configuration has a directive with these arguments. -/
def Declares (name : String) (arguments : List String) (configuration : List Clause) : Prop :=
  ∃ server, .block ["server"] server ∈ configuration ∧
    arguments ∈ Clause.argumentsOfAll name server

/-- A configuration is read when its servers are, and what is found in the last one is found. -/
theorem readsAs_of_servers {host : VirtualHost} {found : List Clause → Prop}
    (hplain : ∃ clauses, AreRead host.plainBody clauses)
    (halias : ∃ clauses, AreRead (whenStated host.aliasName fun second =>
      [.blank, .block "server" none (host.aliasBody second)]) clauses)
    (hsite : ∃ clauses, AreRead host.siteBody clauses ∧ found clauses) :
    ReadsAs (write host.configuration) fun configuration =>
      ∃ server, .block ["server"] server ∈ configuration ∧ found server := by
  obtain ⟨plain, hplain⟩ := hplain
  obtain ⟨second, halias⟩ := halias
  obtain ⟨site, hsite, hfound⟩ := hsite
  have hservices := areRead_of_isReadableAll (Spelled.services host)
  have hblank : AreRead [.blank] _ := areRead_of_isReadableAll rfl
  have hread := (hservices.append hplain.server).append
    (halias.append (hblank.append hsite.server))
  exact ⟨_, read_of_areRead hread, site, List.mem_append_right _ (List.mem_append_right _
    (List.mem_append_right _ (List.mem_singleton_self _))), hfound⟩

/-- Neither the text in front of the semicolon nor the directive behind it is split any further. -/
structure Intrudes (first name arguments : String) : Prop where
  first : IsSolid first
  name : isName name = true
  arguments : IsSolid arguments

theorem not_mem_of_isSolid {text : String} (h : IsSolid text) : '\n' ∉ text.toList := by
  intro hmem
  exact absurd (h _ hmem).1 (by decide)

namespace Intrudes

variable {first name arguments : String}

theorem not_mem (h : Intrudes first name arguments) :
    '\n' ∉ (intruder first name arguments).toList := by
  have hname : '\n' ∉ name.toList := by
    intro hmem
    exact absurd (mem_of_isName h.name hmem).1 (by decide)
  simp [intruder, not_mem_of_isSolid h.first, not_mem_of_isSolid h.arguments, hname]

/-- The words of a directive up to the intruder, and the directive that the intruder adds. -/
theorem areRead (h : Intrudes first name arguments) {key before behind : String}
    (hkey : isName key = true) (hbefore : isPlain before = true) (hbehind : '\n' ∉ behind.toList) :
    AreRead [.simple key 1 (before ++ (intruder first name arguments ++ behind))]
      [.simple (key :: wordsOf (before ++ first).toList),
        .simple (name :: wordsOf arguments.toList)] := by
  intro level outer done
  have hplain : isPlain (before ++ first) = true := by
    rw [isPlain_append, hbefore, h.first.isPlain]
    rfl
  have hmark : ∀ text, isPlain text = true →
      ∀ c ∈ List.replicate 1 ' ' ++ text.toList, isMark c = false := by
    intro text htext
    exact List.forall_mem_cons.mpr ⟨rfl, fun c => not_isMark_of_isPlain htext⟩
  obtain ⟨last, hrun, hlast⟩ := run_header level hkey (hmark _ hplain) outer done
  rw [wordsOf_gap hkey Nat.one_ne_zero] at hlast
  obtain ⟨later, hrun', hlater⟩ := run_header 0 h.name (hmark _ h.arguments.isPlain) outer
    (done ++ [.simple (key :: wordsOf (before ++ first).toList)])
  rw [wordsOf_gap h.name Nat.one_ne_zero] at hlater
  have hcomment : '\n' ∉ behind.toList ++ [';'] := by
    rw [List.mem_append, not_or]
    exact ⟨hbehind, by decide⟩
  have hlines : textOf (linesAll level
      [.simple key 1 (before ++ (intruder first name arguments ++ behind))]) =
      ((indentation level).toList ++
        (key.toList ++ (List.replicate 1 ' ' ++ (before ++ first).toList))) ++ ';' ::
        (((indentation 0).toList ++
          (name.toList ++ (List.replicate 1 ' ' ++ arguments.toList))) ++ ';' ::
          ('#' :: ((behind.toList ++ [';']) ++ ['\n']))) := by
    rw [linesAll, linesAll, List.append_nil, lines, textOf_cons, intruder]
    simp only [String.toList_append, String.toList_ofList, List.append_assoc]
    rfl
  -- Each of the two directives is read up to its semicolon, and the rest of the line not at all.
  rw [hlines, Reader.run_append, hrun, Option.bind_some, Reader.run,
    hlast.semicolon (List.cons_ne_nil _ _), Option.bind_some, Reader.run_append, hrun',
    Option.bind_some, Reader.run, hlater.semicolon (List.cons_ne_nil _ _), Option.bind_some,
    Reader.run_comment hcomment, List.append_assoc]
  rfl

/-- The directive that an intruder adds. -/
def added (name arguments : String) : Clause :=
  .simple (name :: wordsOf arguments.toList)

theorem exists_simple (h : Intrudes first name arguments) (key before behind text : String)
    (hkey : isName key = true) (hbefore : isPlain before = true) (hbehind : '\n' ∉ behind.toList)
    (htext : text.toList =
      before.toList ++ ((intruder first name arguments).toList ++ behind.toList)) :
    ∃ clauses, AreRead [.simple key 1 text] clauses ∧ added name arguments ∈ clauses := by
  have hsplit : text = before ++ (intruder first name arguments ++ behind) := by
    rw [← String.toList_inj, htext, String.toList_append, String.toList_append]
  rw [hsplit]
  exact ⟨_, h.areRead hkey hbefore hbehind, List.mem_cons_of_mem _ List.mem_cons_self⟩

/-! ### A virtual host for such a domain -/

/-- The virtual host for a domain that adds a directive. -/
def host (settings : Settings) (first name arguments : String) : VirtualHost :=
  issued settings (.ofBase (intruder first name arguments))

section

variable (settings : Settings)

theorem exists_redirectLine (h : Intrudes first name arguments) :
    ∃ clauses, AreRead [(host settings first name arguments).redirectLine] clauses := by
  have hbehind : IsSolid (Settings.portSuffix settings.proxy.httpsPort ++ "$request_uri") :=
    (isSolid_portSuffix _).append (isSolid_of_all rfl)
  obtain ⟨clauses, hread, -⟩ := h.exists_simple "return" "301 https://" _
    ("301 " ++ ((host settings first name arguments).origin ++ "$request_uri")) rfl rfl
    (not_mem_of_isSolid hbehind) (by
      change ("301 " ++ (("https://" ++ intruder first name arguments ++
        Settings.portSuffix settings.proxy.httpsPort) ++ "$request_uri")).toList = _
      simp only [String.toList_append, List.append_assoc]
      rfl)
  exact ⟨clauses, hread⟩

theorem exists_live (h : Intrudes first name arguments) (key file : String)
    (hkey : isName key = true) (hfile : '\n' ∉ file.toList) :
    ∃ clauses, AreRead
        [.simple key 1 (liveDirectory (.ofBase (intruder first name arguments)) ++ file)] clauses ∧
      added name arguments ∈ clauses :=
  h.exists_simple key (Deployment.issuedMount ++ "/live/") file _ hkey rfl hfile (by
    rw [liveDirectory, String.toList_append, String.toList_append, List.append_assoc]
    rfl)

/-- A server for TLS has the directive that was added. -/
theorem exists_tlsLines (h : Intrudes first name arguments) {text : String}
    (htext : ∃ clauses, AreRead [.simple "server_name" 1 text] clauses) :
    ∃ clauses, AreRead ((host settings first name arguments).tlsLines text) clauses ∧
      added name arguments ∈ clauses := by
  obtain ⟨names, hnames⟩ := htext
  obtain ⟨certificate, hcertificate, hadded⟩ :=
    h.exists_live "ssl_certificate" "/fullchain.pem" rfl (by decide)
  obtain ⟨key, hkey, -⟩ :=
    h.exists_live "ssl_certificate_key" "/privkey.pem" rfl (by decide)
  have hlisten : AreRead [.simple "listen" 1 "443 ssl", .simple "listen" 1 "[::]:443 ssl",
      .simple "http2" 1 "on"] _ := areRead_of_isReadableAll rfl
  have hblank : AreRead [.blank] _ := areRead_of_isReadableAll rfl
  exact ⟨_, hlisten.append (hnames.append (hblank.append (hcertificate.append hkey))),
    List.mem_append_right _ (List.mem_append_right _ (List.mem_append_right _
      (List.mem_append_left _ hadded)))⟩

theorem exists_plainBody (h : Intrudes first name arguments) :
    ∃ clauses, AreRead (host settings first name arguments).plainBody clauses := by
  obtain ⟨names, hnames, -⟩ := h.exists_simple "server_name" ""
    (" " ++ ("www." ++ intruder first name arguments))
    (host settings first name arguments).plainNames rfl rfl (by simp [h.not_mem]) (by
      change (intruder first name arguments ++ " " ++
        ("www." ++ intruder first name arguments)).toList = _
      simp only [String.toList_append, List.append_assoc]
      rfl)
  obtain ⟨redirect, hredirect⟩ := exists_redirectLine settings h
  have hlisten : AreRead [.simple "listen" 1 "80", .simple "listen" 1 "[::]:80"] _ :=
    areRead_of_isReadableAll rfl
  have hhealth : AreRead [.blank, healthBlock] _ := areRead_of_isReadableAll rfl
  have hchallenge : AreRead (whenStated (host settings first name arguments).webroot
      fun webroot => [.blank, .block "location" (some "/.well-known/acme-challenge/")
        [.simple "root" 1 webroot]]) _ := areRead_of_isReadableAll rfl
  have hblank : AreRead [.blank] _ := areRead_of_isReadableAll rfl
  exact ⟨_, (hlisten.append (hnames.append hhealth)).append
    (hchallenge.append (hblank.append (hredirect.block rfl rfl)))⟩

theorem exists_aliasBody (h : Intrudes first name arguments) :
    ∃ clauses, AreRead ((host settings first name arguments).aliasBody
      ("www." ++ intruder first name arguments)) clauses := by
  obtain ⟨names, hnames, -⟩ := h.exists_simple "server_name" "www." ""
    ("www." ++ intruder first name arguments) rfl rfl (by decide) (by
      rw [String.toList_append, String.toList_empty, List.append_nil])
  obtain ⟨tls, htls, -⟩ := exists_tlsLines settings h ⟨names, hnames⟩
  obtain ⟨redirect, hredirect⟩ := exists_redirectLine settings h
  have hblank : AreRead [.blank] _ := areRead_of_isReadableAll rfl
  exact ⟨_, htls.append (hblank.append hredirect)⟩

theorem exists_siteBody (h : Intrudes first name arguments)
    (hresolver : isPlain settings.tls.resolver = true) :
    ∃ clauses, AreRead (host settings first name arguments).siteBody clauses ∧
      added name arguments ∈ clauses := by
  obtain ⟨names, hnames, -⟩ := h.exists_simple "server_name" "" ""
    (intruder first name arguments) rfl rfl (by decide) (by
      rw [String.toList_empty, List.append_nil, List.nil_append])
  obtain ⟨tls, htls, hadded⟩ := exists_tlsLines settings h ⟨names, hnames⟩
  obtain ⟨chain, hchain, -⟩ :=
    h.exists_live "ssl_trusted_certificate" "/chain.pem" rfl (by decide)
  have hstapling := areRead_of_isReadableAll
    (Spelled.tail_staplingLines (host settings first name arguments)
      (liveDirectory (.ofBase (intruder first name arguments)) ++ "/chain.pem") hresolver)
  have hlocations := areRead_of_isReadableAll
    (Spelled.locations (host settings first name arguments))
  have hstated : whenStated (host settings first name arguments).chainPath
      (host settings first name arguments).staplingLines =
      (host settings first name arguments).staplingLines
        (liveDirectory (.ofBase (intruder first name arguments)) ++ "/chain.pem") :=
    whenStated_some (by simp) _
  rw [siteBody, hstated]
  exact ⟨_, htls.append ((hchain.append hstapling).append hlocations),
    List.mem_append_left _ hadded⟩

/-- **A domain can add a directive of its choice** to the server for the application. -/
theorem exists_added (h : Intrudes first name arguments)
    (hresolver : isPlain settings.tls.resolver = true) :
    ReadsAs (write (host settings first name arguments).configuration)
      (Declares name (wordsOf arguments.toList)) := by
  obtain ⟨second, halias⟩ := exists_aliasBody settings h
  obtain ⟨site, hsite, hadded⟩ := exists_siteBody settings h hresolver
  have hblank : AreRead [.blank] _ := areRead_of_isReadableAll rfl
  have hstated : (whenStated (host settings first name arguments).aliasName fun second =>
      [.blank, .block "server" none ((host settings first name arguments).aliasBody second)]) =
      [.blank, .block "server" none ((host settings first name arguments).aliasBody
        ("www." ++ intruder first name arguments))] :=
    whenStated_some (by simp [Site.Names.ofBase]) _
  refine readsAs_of_servers (exists_plainBody settings h) ?_
    ⟨site, hsite, Clause.mem_argumentsOfAll hadded⟩
  rw [hstated]
  exact ⟨_, hblank.append halias.server⟩

end

/-! ### A resolver that adds a directive -/

/-- **So can a resolver**, whatever the names of the site are. -/
theorem exists_added_of_resolver (h : Intrudes first name arguments) {settings : Settings}
    {names : Site.Names} (hcanonical : isPlain names.canonical = true)
    (halias : isPlain names.aliasName = true)
    (hresolver : settings.tls.resolver = intruder first name arguments) :
    ReadsAs (write (issued settings names).configuration)
      (Declares name (wordsOf arguments.toList)) := by
  -- But for one line, the virtual host is that of a resolver which is plain.
  have hspelled : Spelled (issued { settings with tls.resolver := "" } names) :=
    spelled_issued hcanonical halias rfl
  have hplain := areRead_of_isReadableAll hspelled.plainBody
  have halias := areRead_of_isReadableAll hspelled.aliasServer
  have htls := areRead_of_isReadableAll (hspelled.tlsLines hspelled.name)
  have hlocations := areRead_of_isReadableAll (Spelled.locations (issued settings names))
  have hbefore : AreRead [.simple "ssl_trusted_certificate" 1 (liveDirectory names ++ "/chain.pem"),
      .simple "ssl_stapling" 1 "on", .simple "ssl_stapling_verify" 1 "on"] _ :=
    areRead_of_isReadableAll
      (isReadableAll_cons (isReadable_simple rfl (hspelled.chainPath _ rfl)) rfl)
  obtain ⟨line, hline, hadded⟩ := h.exists_simple "resolver" "" " valid=300s"
    (settings.tls.resolver ++ " valid=300s") rfl rfl (by decide) (by
      rw [hresolver, String.toList_append]
      rfl)
  have hbehind : AreRead [.simple "resolver_timeout" 1 "5s", .blank,
      .simple "add_header" 1 "Strict-Transport-Security \"max-age=63072000\" always"] _ :=
    areRead_of_isReadableAll rfl
  have hstated : whenStated (issued settings names).chainPath
      (issued settings names).staplingLines =
      (issued settings names).staplingLines (liveDirectory names ++ "/chain.pem") :=
    whenStated_some (by simp) _
  refine readsAs_of_servers ⟨_, hplain⟩ ⟨_, halias⟩ ?_
  rw [siteBody, hstated]
  exact ⟨_, htls.append ((hbefore.append (hline.append hbehind)).append hlocations),
    Clause.mem_argumentsOfAll (List.mem_append_right _ (List.mem_append_left _
      (List.mem_append_right _ (List.mem_append_left _ hadded))))⟩

end Intrudes

end RemoteGateway.Proxy
