import RemoteGateway.Deployment.Artifacts
import RemoteGateway.Proofs.Template.Phrases

/-!
# The virtual host, filled in

`VirtualHost.configuration` is the configuration that the pattern of the virtual host becomes
when it is filled in, written out server by server. Every host fills the pattern
(`fillAll_virtualHostPattern`), so the text of a virtual host is always the one that
`configuration` is written as (`Deployment.virtualHost_eq`), and whoever asks what the proxy is
told looks at directives and no longer at slots.

Parts of the pattern that stand only when a name is set become `whenStated`: they vanish with a
missing text and also with an empty one, because an empty text does not count as set.
-/

namespace RemoteGateway.Proxy

open Template (Part fill_cons fill_single)

/-! ### The servers -/

/-- Directives that stand only when there is a text, and the text is not empty. -/
def whenStated (text : Option String) (body : String → List Directive) : List Directive :=
  match text with
  | none => []
  | some text => if text = "" then [] else body text

theorem whenStated_some {text : String} (h : text ≠ "") (body : String → List Directive) :
    whenStated (some text) body = body text := by
  rw [whenStated, if_neg h]

/-- Answers health checks. -/
def healthBlock : Directive :=
  .block "location" (some "= /health")
    [.simple "access_log" 1 "off",
      .simple "default_type" 1 "text/plain",
      .simple "return" 1 "200 \"OK\\n\""]

/-- Tells the service behind the proxy where a request came from. -/
def forwardedLines : List Directive :=
  [.simple "proxy_set_header" 1 "Host $host",
    .simple "proxy_set_header" 1 "X-Real-IP $remote_addr",
    .simple "proxy_set_header" 1 "X-Forwarded-For $proxy_add_x_forwarded_for",
    .simple "proxy_set_header" 1 "X-Forwarded-Proto $scheme"]

namespace VirtualHost

variable (host : VirtualHost)

/-- Sends a request on to HTTPS under the name that the site prefers. -/
def redirectLine : Directive :=
  .simple "return" 1 ("301 " ++ (host.origin ++ "$request_uri"))

/-- Listens for TLS under a name with the certificate of the site. -/
def tlsLines (name : String) : List Directive :=
  [.simple "listen" 1 "443 ssl",
    .simple "listen" 1 "[::]:443 ssl",
    .simple "http2" 1 "on",
    .simple "server_name" 1 name,
    .blank,
    .simple "ssl_certificate" 1 host.certificatePath,
    .simple "ssl_certificate_key" 1 host.keyPath]

/-- The body of the server for plain requests. -/
def plainBody : List Directive :=
  [.simple "listen" 1 "80",
    .simple "listen" 1 "[::]:80",
    .simple "server_name" 1 host.plainNames,
    .blank,
    healthBlock] ++
    ((whenStated host.webroot fun webroot =>
      [.blank,
        .block "location" (some "/.well-known/acme-challenge/") [.simple "root" 1 webroot]]) ++
    [.blank, .block "location" (some "/") [host.redirectLine]])

/-- The body of the server that sends the second name of the site on to the first. -/
def aliasBody (name : String) : List Directive :=
  host.tlsLines name ++ [.blank, host.redirectLine]

/-- Staples the chain of a requested certificate. -/
def staplingLines (chain : String) : List Directive :=
  [.simple "ssl_trusted_certificate" 1 chain,
    .simple "ssl_stapling" 1 "on",
    .simple "ssl_stapling_verify" 1 "on",
    .simple "resolver" 1 (host.resolver ++ " valid=300s"),
    .simple "resolver_timeout" 1 "5s",
    .blank,
    .simple "add_header" 1 "Strict-Transport-Security \"max-age=63072000\" always"]

/-- Sends a request for the root on to the base path, when the application has one. -/
def rootRedirect : List Directive :=
  match host.exposure with
  | .path _ =>
    [.blank,
      .block "location" (some "= /") [.simple "return" 1 ("302 " ++ host.exposure.basePath)]]
  | .root | .subdomain _ => []

/-- Hands requests below the base path to the application. -/
def applicationBlock : Directive :=
  .block "location" (some host.exposure.basePath)
    ([.simple "proxy_pass" 1 ("http://guacamole_app" ++ Site.applicationPath),
        .simple "proxy_buffering" 1 "off",
        .simple "proxy_http_version" 1 "1.1"] ++
      forwardedLines ++
      [.simple "proxy_set_header" 1 "Upgrade $http_upgrade",
        .simple "proxy_set_header" 1 "Connection $connection_upgrade",
        .simple "proxy_cookie_path" 1 (Site.applicationPath ++ (" " ++ host.exposure.basePath)),
        .simple "proxy_read_timeout" 1 "1h",
        .simple "access_log" 1 "off"])

/-- Hands requests below the broker's prefix to the broker. -/
def brokerBlock : Directive :=
  .block "location" (some Site.brokerPrefix)
    ([.simple "proxy_pass" 1 "http://session_broker/api/",
        .simple "proxy_http_version" 1 "1.1"] ++
      forwardedLines)

/-- The body of the server for the application and the broker. -/
def siteBody : List Directive :=
  host.tlsLines host.name ++
    (whenStated host.chainPath host.staplingLines ++
      ([.blank, healthBlock] ++
        (host.rootRedirect ++ [.blank, host.applicationBlock, .blank, brokerBlock])))

/-- The whole virtual host. -/
def configuration : List Directive :=
  [.comment Deployment.generatedNotice,
    .comment ("ssl.mode=" ++ (host.source.name ++ (" url_mode=" ++ host.exposure.mode))),
    .blank,
    .block "upstream" (some "guacamole_app")
      [.simple "server" 1 (backend Deployment.applicationService Deployment.applicationPort)],
    .blank,
    .block "upstream" (some "session_broker")
      [.simple "server" 1 (backend Deployment.brokerService Deployment.brokerPort)],
    .blank,
    .block "server" none host.plainBody] ++
    ((whenStated host.aliasName fun name =>
      [.blank, .block "server" none (host.aliasBody name)]) ++
    [.blank, .block "server" none host.siteBody])

end VirtualHost

/-! ### Filling in the pattern -/

section Filling

variable {context : Document.Members}

theorem fill_blank (context : Document.Members) :
    Pattern.blank.fill context = .ok [.blank] := rfl

theorem fillAll_nil (context : Document.Members) : Pattern.fillAll context [] = .ok [] := rfl

theorem fill_line {arguments : Template.Phrase} {text : String} (name : String)
    (h : Template.fill context arguments = .ok text) :
    (Pattern.line name arguments).fill context = .ok [.simple name 1 text] := by
  rw [Pattern.line, Pattern.fill, h]
  rfl

theorem fillAll_cons {pattern : Pattern} {patterns : List Pattern} {first : Directive}
    {rest : List Directive} (h : pattern.fill context = .ok [first])
    (h' : Pattern.fillAll context patterns = .ok rest) :
    Pattern.fillAll context (pattern :: patterns) = .ok (first :: rest) := by
  rw [Pattern.fillAll, h, h']
  rfl

/-- The parts of a sequence are filled in one after the other. -/
theorem fillAll_append {patterns more : List Pattern} {done rest : List Directive}
    (h : Pattern.fillAll context patterns = .ok done)
    (h' : Pattern.fillAll context more = .ok rest) :
    Pattern.fillAll context (patterns ++ more) = .ok (done ++ rest) := by
  induction patterns generalizing done with
  | nil =>
    cases h
    exact h'
  | cons pattern patterns ih =>
    rw [Pattern.fillAll] at h
    rcases hp : pattern.fill context with _ | first
    · rw [hp] at h
      cases h
    · rcases hq : Pattern.fillAll context patterns with _ | later
      · rw [hp, hq] at h
        cases h
      · rw [hp, hq] at h
        cases h
        rw [List.cons_append, Pattern.fillAll, hp, ih hq]
        exact congrArg Except.ok (List.append_assoc first later rest).symm

/-- A part that may be missing stands in front of the rest. -/
theorem fillAll_part {pattern : Pattern} {patterns : List Pattern} {done rest : List Directive}
    (h : pattern.fill context = .ok done) (h' : Pattern.fillAll context patterns = .ok rest) :
    Pattern.fillAll context (pattern :: patterns) = .ok (done ++ rest) := by
  rw [Pattern.fillAll, h, h']
  rfl

theorem fill_block {patterns : List Pattern} {body : List Directive} (name : String)
    (h : Pattern.fillAll context patterns = .ok body) :
    (Pattern.block name none patterns).fill context = .ok [.block name none body] := by
  rw [Pattern.fill, h]
  rfl

theorem fill_comment {phrase : Template.Phrase} {text : String}
    (h : Template.fill context phrase = .ok text) :
    (Pattern.comment phrase).fill context = .ok [.comment text] := by
  rw [Pattern.fill, h]
  rfl

theorem fill_headed {arguments : Template.Phrase} {text : String} {patterns : List Pattern}
    {body : List Directive} (name : String) (h : Template.fill context arguments = .ok text)
    (h' : Pattern.fillAll context patterns = .ok body) :
    (Pattern.block name (some arguments) patterns).fill context =
      .ok [.block name (some text) body] := by
  rw [Pattern.fill, h, h']
  rfl

end Filling

namespace VirtualHost

variable (host : VirtualHost)

/-- A part that depends on a text stands exactly when the text is there and not empty. -/
theorem fill_whenSet {slot : String} {text : Option String} {patterns : List Pattern}
    {body : String → List Directive} (hslot : host.context.lookup slot = some (optional text))
    (hbody : ∀ stated, text = some stated →
      Pattern.fillAll host.context patterns = .ok (body stated)) :
    (Pattern.whenSet slot patterns).fill host.context = .ok (whenStated text body) := by
  have hset : Template.hasSet host.context slot = Template.isSet (optional text) := by
    rw [Template.hasSet, hslot, Option.any_some]
  rw [Pattern.fill, hset]
  cases text with
  | none => rfl
  | some stated =>
    -- An empty text is a slot that is filled but not set.
    by_cases h : stated = ""
    · subst h
      rfl
    · have hstated : Template.isSet (optional (some stated)) = true := by
        simpa [optional, Template.isSet] using h
      rw [hstated, whenStated_some h]
      exact hbody stated rfl

theorem part_fill_slot {slot text : String}
    (h : host.context.lookup slot = some (.text text)) :
    (Part.slot slot).fill host.context = .ok text := by
  rw [Part.fill, h]
  rfl

theorem fill_upstream {slot address : String} (name : String)
    (h : host.context.lookup slot = some (.text address)) :
    (Pattern.block "upstream" (some [.literal name]) [.line "server" [.slot slot]]).fill
        host.context = .ok [.block "upstream" (some name) [.simple "server" 1 address]] :=
  fill_headed "upstream" (fill_single rfl)
    (fillAll_cons (fill_line _ (fill_single (host.part_fill_slot h))) rfl)

theorem fill_redirectPattern :
    redirectPattern.fill host.context = .ok [host.redirectLine] :=
  fill_line "return" (fill_cons rfl (fill_cons rfl (fill_single rfl)))

theorem fillAll_tlsPatterns {slot name : String}
    (hname : host.context.lookup slot = some (.text name)) :
    Pattern.fillAll host.context (tlsPatterns slot) = .ok (host.tlsLines name) :=
  fillAll_cons rfl (fillAll_cons rfl (fillAll_cons rfl
    (fillAll_cons (fill_line _ (fill_single (host.part_fill_slot hname)))
      (fillAll_cons rfl
        (fillAll_cons (fill_line _ (fill_single rfl))
          (fillAll_cons (fill_line _ (fill_single rfl)) rfl))))))

theorem fill_plainPattern :
    plainPattern.fill host.context = .ok [.block "server" none host.plainBody] := by
  have hwebroot : (Pattern.whenSet "acme_webroot"
      [.blank, .block "location" (some ["/.well-known/acme-challenge/"])
        [.line "root" [.slot "acme_webroot"]]]).fill host.context =
      .ok (whenStated host.webroot fun webroot =>
        [.blank, .block "location" (some "/.well-known/acme-challenge/")
          [.simple "root" 1 webroot]]) := by
    refine host.fill_whenSet rfl fun webroot hwebroot => ?_
    have hslot : host.context.lookup "acme_webroot" = some (.text webroot) :=
      congrArg (fun text => some (optional text)) hwebroot
    exact fillAll_cons rfl (fillAll_cons (fill_headed _ rfl
      (fillAll_cons (fill_line _ (fill_single (host.part_fill_slot hslot))) rfl)) rfl)
  have hhead : Pattern.fillAll host.context
      [.line "listen" ["80"], .line "listen" ["[::]:80"],
        .line "server_name" [.slot "http_server_names"], .blank, healthPattern] =
      .ok [.simple "listen" 1 "80", .simple "listen" 1 "[::]:80",
        .simple "server_name" 1 host.plainNames, .blank, healthBlock] :=
    fillAll_cons rfl (fillAll_cons rfl (fillAll_cons (fill_line _ (fill_single rfl)) rfl))
  have htail : Pattern.fillAll host.context
      [.blank, .block "location" (some ["/"]) [redirectPattern]] =
      .ok [.blank, .block "location" (some "/") [host.redirectLine]] :=
    fillAll_cons rfl (fillAll_cons (fill_headed _ rfl
      (fillAll_cons host.fill_redirectPattern rfl)) rfl)
  exact fill_block "server" (fillAll_append hhead (fillAll_part hwebroot htail))

theorem fill_aliasPattern {name : String} (hname : host.aliasName = some name) :
    aliasPattern.fill host.context = .ok [.block "server" none (host.aliasBody name)] := by
  have hslot : host.context.lookup "alias" = some (.text name) :=
    congrArg (fun text => some (optional text)) hname
  exact fill_block "server" (fillAll_append (host.fillAll_tlsPatterns hslot)
    (fillAll_cons rfl (fillAll_cons host.fill_redirectPattern rfl)))

theorem fillAll_staplingPatterns {chain : String} (hchain : host.chainPath = some chain) :
    Pattern.fillAll host.context
      [.line "ssl_trusted_certificate" [.slot "chain_path"],
        .line "ssl_stapling" ["on"],
        .line "ssl_stapling_verify" ["on"],
        .line "resolver" [.slot "resolver", " valid=300s"],
        .line "resolver_timeout" ["5s"],
        .blank,
        .line "add_header" ["Strict-Transport-Security \"max-age=63072000\" always"]] =
      .ok (host.staplingLines chain) := by
  have hslot : host.context.lookup "chain_path" = some (.text chain) :=
    congrArg (fun text => some (optional text)) hchain
  exact fillAll_cons (fill_line _ (fill_single (host.part_fill_slot hslot)))
    (fillAll_cons rfl (fillAll_cons rfl
      (fillAll_cons (fill_line _ (fill_cons rfl (fill_single rfl))) rfl)))

theorem fill_rootRedirect :
    (Pattern.whenSet "root_redirect"
      [.blank, .block "location" (some ["= /"])
        [.line "return" ["302 ", .slot "base_path"]]]).fill host.context =
      .ok host.rootRedirect := by
  have hblock : Pattern.fillAll host.context
      [.blank, .block "location" (some ["= /"]) [.line "return" ["302 ", .slot "base_path"]]] =
      .ok [.blank, .block "location" (some "= /")
        [.simple "return" 1 ("302 " ++ host.exposure.basePath)]] :=
    fillAll_cons rfl (fillAll_cons (fill_headed _ rfl
      (fillAll_cons (fill_line _ (fill_cons rfl (fill_single rfl))) rfl)) rfl)
  rw [Pattern.fill, hblock, rootRedirect, Template.hasSet]
  cases h : host.exposure <;> simp [context, h] <;> rfl

theorem fill_applicationPattern :
    (Pattern.block "location" (some [.slot "base_path"])
      ([.line "proxy_pass" ["http://guacamole_app", .slot "app_internal_path"],
          .line "proxy_buffering" ["off"],
          .line "proxy_http_version" ["1.1"]] ++
        forwardedPatterns ++
        [.line "proxy_set_header" ["Upgrade $http_upgrade"],
          .line "proxy_set_header" ["Connection $connection_upgrade"],
          .line "proxy_cookie_path" [.slot "app_internal_path", " ", .slot "base_path"],
          .line "proxy_read_timeout" ["1h"],
          .line "access_log" ["off"]])).fill host.context = .ok [host.applicationBlock] :=
  fill_headed _ (fill_single rfl)
    (fillAll_append
      (fillAll_append (fillAll_cons (fill_line _ (fill_cons rfl (fill_single rfl))) rfl) rfl)
      (fillAll_cons rfl (fillAll_cons rfl
        (fillAll_cons (fill_line _ (fill_cons rfl (fill_cons rfl (fill_single rfl)))) rfl))))

theorem fill_brokerPattern :
    (Pattern.block "location" (some [.slot "broker_prefix"])
      ([.line "proxy_pass" ["http://session_broker/api/"],
          .line "proxy_http_version" ["1.1"]] ++
        forwardedPatterns)).fill host.context = .ok [brokerBlock] :=
  fill_headed _ (fill_single rfl) rfl

theorem fill_sitePattern :
    sitePattern.fill host.context = .ok [.block "server" none host.siteBody] := by
  have hchain : (Pattern.whenSet "chain_path"
      [.line "ssl_trusted_certificate" [.slot "chain_path"],
        .line "ssl_stapling" ["on"],
        .line "ssl_stapling_verify" ["on"],
        .line "resolver" [.slot "resolver", " valid=300s"],
        .line "resolver_timeout" ["5s"],
        .blank,
        .line "add_header" ["Strict-Transport-Security \"max-age=63072000\" always"]]).fill
        host.context = .ok (whenStated host.chainPath host.staplingLines) :=
    host.fill_whenSet rfl fun _ => host.fillAll_staplingPatterns
  have hhealth : Pattern.fillAll host.context [.blank, healthPattern] =
      .ok [.blank, healthBlock] := rfl
  have hservices := fillAll_cons (fill_blank host.context)
    (fillAll_cons host.fill_applicationPattern
      (fillAll_cons (fill_blank host.context)
        (fillAll_cons host.fill_brokerPattern (fillAll_nil host.context))))
  have hlocations := fillAll_append hhealth (fillAll_part host.fill_rootRedirect hservices)
  have htls : Pattern.fillAll host.context (tlsPatterns "server_name") =
      .ok (host.tlsLines host.name) := host.fillAll_tlsPatterns rfl
  exact fill_block "server" (fillAll_append htls (fillAll_part hchain hlocations))

/-- **Every host fills the pattern**, and the result is its configuration. -/
theorem fillAll_virtualHostPattern :
    Pattern.fillAll host.context virtualHostPattern = .ok host.configuration := by
  have hhead : Pattern.fillAll host.context
      [.comment [Deployment.generatedNotice],
        .comment ["ssl.mode=", .slot "ssl_mode", " url_mode=", .slot "url_mode"],
        .blank,
        .block "upstream" (some ["guacamole_app"]) [.line "server" [.slot "app_upstream"]],
        .blank,
        .block "upstream" (some ["session_broker"]) [.line "server" [.slot "broker_upstream"]],
        .blank,
        plainPattern] = .ok _ :=
    fillAll_cons rfl (fillAll_cons
      (fill_comment (fill_cons rfl (fill_cons rfl (fill_cons rfl (fill_single rfl)))))
      (fillAll_cons rfl (fillAll_cons (host.fill_upstream "guacamole_app" rfl)
        (fillAll_cons rfl (fillAll_cons (host.fill_upstream "session_broker" rfl)
          (fillAll_cons rfl (fillAll_cons host.fill_plainPattern rfl)))))))
  have halias : (Pattern.whenSet "alias" [.blank, aliasPattern]).fill host.context =
      .ok (whenStated host.aliasName fun name =>
        [.blank, .block "server" none (host.aliasBody name)]) :=
    host.fill_whenSet rfl fun _ hname => fillAll_cons rfl
      (fillAll_cons (host.fill_aliasPattern hname) rfl)
  exact fillAll_append hhead (fillAll_part halias
    (fillAll_cons (fill_blank host.context)
      (fillAll_cons host.fill_sitePattern (fillAll_nil host.context))))

end VirtualHost

end RemoteGateway.Proxy

namespace RemoteGateway.Deployment

/-- The text of the virtual host is its configuration, written out. It can only be missing
because the site has no domain. -/
theorem virtualHost_eq (settings : Settings) :
    virtualHost settings =
      ((Proxy.VirtualHost.ofSettings settings).mapError Fault.config).map fun host =>
        Proxy.Directive.write host.configuration := by
  rw [virtualHost]
  rcases Proxy.VirtualHost.ofSettings settings with fault | host
  · rfl
  · have htext : Template.virtualHost.text host.context =
        .ok (Proxy.Directive.write host.configuration) :=
      congrArg (Except.map Proxy.Directive.write) host.fillAll_virtualHostPattern
    change (Template.virtualHost.render host.context).mapError _ = _
    rw [Template.render, htext]
    rfl

end RemoteGateway.Deployment
