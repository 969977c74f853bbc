import RemoteGateway.Proofs.Proxy.Locations

/-!
# How a virtual host serves a site

The two kinds of virtual hosts differ in their servers and in the names that they send requests
on to. `Serves` is what they have in common as far as routing is concerned: which server answers
at which address and for which name, and where a client gets that is sent on. A host with a
generated pair serves its site under any name (`serves_generated`), one with a requested
certificate under the first name only (`serves_issued`).
-/

namespace RemoteGateway.Proxy

open Directive VirtualHost

/-! ### Choosing servers -/

section

variable {configuration server first second : List Clause} {listener : Listener}
  {host : VirtualHost}

theorem selectServer_of_single
    (h : (serverBodies configuration).filter (listensAt listener) = [server]) (name : String) :
    selectServer configuration listener name = some server := by
  rw [selectServer, h]
  simp only [List.find?_cons, List.find?_nil, List.head?_cons]
  split <;> rfl

/-- Of two servers the second one answers for its own name alone. -/
theorem selectServer_of_pair {one other : String}
    (h : (serverBodies configuration).filter (listensAt listener) = [first, second])
    (hfirst : serverNames first = [one]) (hsecond : serverNames second = [other])
    (hne : one ≠ other) (name : String) :
    selectServer configuration listener name =
      if name = other then some second else some first := by
  have hcontains : ∀ declared, [declared].contains name = (name == declared) := by
    intro declared
    rw [List.contains_cons, List.contains_nil, Bool.or_false]
  rw [selectServer, h]
  simp only [List.find?_cons, List.find?_nil, List.head?_cons, hfirst, hsecond, hcontains]
  by_cases hname : name = other
  · have hone : (name == one) = false := by
      rw [beq_eq_false_iff_ne, hname]
      exact Ne.symm hne
    rw [if_pos hname, hone, hname, beq_self_eq_true]
    rfl
  · rw [if_neg hname, beq_eq_false_iff_ne.mpr hname]
    cases name == one <;> rfl

theorem listensAt_plainBody :
    listensAt listener (clausesAll host.plainBody) = !listener.tls := by
  obtain ⟨tls, ipv6⟩ := listener
  rw [listensAt, directives_plainBody]
  cases tls <;> cases ipv6 <;> rfl

theorem listensAt_tls (h : directives "listen" server = [["443", "ssl"], ["[::]:443", "ssl"]]) :
    listensAt listener server = listener.tls := by
  obtain ⟨tls, ipv6⟩ := listener
  rw [listensAt, h]
  cases tls <;> cases ipv6 <;> rfl

theorem listensAt_siteBody : listensAt listener (clausesAll host.siteBody) = listener.tls :=
  listensAt_tls ((directives_siteBody host fun _ => rfl).trans rfl)

theorem listensAt_aliasBody (name : String) :
    listensAt listener (clausesAll (host.aliasBody name)) = listener.tls :=
  listensAt_tls rfl

end

/-! ### What virtual hosts have in common -/

/-- The request comes to the server of the application: over TLS, and for the name of the site
when the certificate was requested for one. -/
def ReachesSite (settings : Settings) (request : Request) : Prop :=
  request.listener.tls = true ∧
    (settings.tls.source = .letsEncrypt →
      settings.siteNames.map Site.Names.canonical = some request.host)

/-- The target that requests are sent on to leads a client to the server of the application, with
the same path. -/
def SendsOn (settings : Settings) (configuration : List Clause) (request : Request)
    (target : String) : Prop :=
  ∃ next, request.follow? configuration (Settings.portSuffix settings.proxy.httpsPort) target =
      some next ∧
    ReachesSite settings next ∧ next.path = request.path

/-- How a virtual host serves a site, whichever way it gets its certificate. -/
structure Serves (settings : Settings) (host : VirtualHost) : Prop where
  exposure_eq : host.exposure = settings.proxy.exposure
  origin_solid : IsSolid host.origin
  challenges_eq : locations (clausesAll host.plainBody) =
    healthLocation ::
      ((if settings.tls.source = .letsEncrypt then [challengeLocation] else []) ++
        [host.secureLocation])
  plain_nodup : ((blocks "location" (clausesAll host.plainBody)).map Prod.fst).Nodup
  /-- Further servers have no locations. -/
  servers_eq : ∀ server ∈ serverBodies (clausesAll host.configuration),
    server = clausesAll host.plainBody ∨ server = clausesAll host.siteBody ∨
      blocks "location" server = []
  plain_eq : ∀ request : Request, request.listener.tls = false →
    selectServer (clausesAll host.configuration) request.listener request.host =
      some (clausesAll host.plainBody)
  site_eq : ∀ request, ReachesSite settings request →
    selectServer (clausesAll host.configuration) request.listener request.host =
      some (clausesAll host.siteBody)
  /-- Under any other name a server answers that sends everything on. -/
  other_eq : ∀ request : Request, request.listener.tls = true → ¬ ReachesSite settings request →
    ∃ server, selectServer (clausesAll host.configuration) request.listener request.host =
        some server ∧
      directives "return" server = [["301", host.origin ++ "$request_uri"]]
  sendsOn : ∀ request, SendsOn settings (clausesAll host.configuration) request
    (host.origin ++ "$request_uri")

/-- Following a redirection to an origin leads to the host that it names. -/
theorem follow?_origin (configuration : List Clause) (request : Request) (name suffix : String) :
    request.follow? configuration suffix ("https://" ++ name ++ suffix ++ "$request_uri") =
      some
        { request with
          listener := { request.listener with tls := true }
          host := namedHost configuration request name } := by
  have hlist : ("https://" ++ name ++ suffix ++ "$request_uri").toList =
      "https://".toList ++ (name.toList ++ suffix.toList ++ "$request_uri".toList) := by
    simp only [String.toList_append, List.append_assoc]
  rw [Request.follow?, hlist, afterPrefix?_append]
  simp only [beforeSuffix?_append, Option.bind_eq_bind, Option.bind_some, String.ofList_toList]
  rfl

/-- Following a redirection to a base path stays on the server. -/
theorem follow?_path (configuration : List Clause) (suffix : String) (request : Request)
    (base : Site.BasePath) :
    request.follow? configuration suffix base.text = some { request with path := base.text } := by
  have hlist : base.text.toList = '/' :: (base.core ++ ['/']) := by
    rw [Site.BasePath.text, String.toList_ofList]
    rfl
  have hscheme : afterPrefix? "https://".toList base.text.toList = none := by
    rw [hlist, afterPrefix?, if_neg]
    intro hprefix
    have hhead := (List.cons_prefix_cons.mp hprefix).1
    exact absurd hhead (by decide)
  rw [Request.follow?, hscheme]
  simp only
  rw [hlist, List.head?_cons, if_pos rfl]

section

variable (settings : Settings)

theorem serverBodies_generated :
    serverBodies (clausesAll (generated settings).configuration) =
      [clausesAll (generated settings).plainBody, clausesAll (generated settings).siteBody] := by
  rw [serverBodies_clausesAll, servers_configuration]
  rfl

theorem serverBodies_issued (names : Site.Names) (h : names.aliasName ≠ "") :
    serverBodies (clausesAll (issued settings names).configuration) =
      [clausesAll (issued settings names).plainBody,
        clausesAll ((issued settings names).aliasBody names.aliasName),
        clausesAll (issued settings names).siteBody] := by
  have hservers : servers (whenStated (issued settings names).aliasName fun name =>
      [.blank, .block "server" none ((issued settings names).aliasBody name)]) =
      [(issued settings names).aliasBody names.aliasName] :=
    congrArg servers (whenStated_some h _)
  rw [serverBodies_clausesAll, servers_configuration, hservers]
  rfl

/-- A virtual host for any name serves its site. -/
theorem serves_generated (h : settings.tls.source = .selfSigned) :
    Serves settings (generated settings) where
  exposure_eq := rfl
  origin_solid := by
    have hscheme : IsSolid "https://$host" := isSolid_of_all rfl
    exact hscheme.append (isSolid_portSuffix _)
  challenges_eq := by
    rw [h, locations_plainBody_generated]
    rfl
  plain_nodup := by
    have hblocks : (blocks "location" (clausesAll (generated settings).plainBody)).map Prod.fst =
        [["=", "/health"], ["/"]] := rfl
    rw [hblocks]
    decide
  servers_eq := by
    intro server hserver
    rw [serverBodies_generated] at hserver
    rcases List.mem_cons.mp hserver with rfl | hserver
    · exact .inl rfl
    · exact .inr (.inl (List.mem_singleton.mp hserver))
  plain_eq := by
    intro request hplain
    refine selectServer_of_single ?_ _
    rw [serverBodies_generated, List.filter_cons, List.filter_cons, listensAt_plainBody,
      listensAt_siteBody, hplain]
    rfl
  site_eq := by
    intro request hsite
    refine selectServer_of_single ?_ _
    rw [serverBodies_generated, List.filter_cons, List.filter_cons, listensAt_plainBody,
      listensAt_siteBody, hsite.1]
    rfl
  other_eq := by
    intro request htls hother
    -- Without a requested certificate every name reaches the site.
    refine absurd ⟨htls, fun hsource => ?_⟩ hother
    rw [h] at hsource
    cases hsource
  sendsOn := by
    intro request
    refine ⟨_, follow?_origin _ request "$host" _, ⟨rfl, fun hsource => ?_⟩, rfl⟩
    rw [h] at hsource
    cases hsource

variable {settings} {names : Site.Names}

theorem serverNames_siteBody (host : VirtualHost) (h : IsSolid host.name) (hne : host.name ≠ "") :
    serverNames (clausesAll host.siteBody) = [host.name] := by
  have hnames : directives "server_name" (clausesAll host.siteBody) =
      [wordsOf host.name.toList] := directives_siteBody host fun _ => rfl
  rw [serverNames, hnames, h.wordsOf_eq hne]
  rfl

theorem serverNames_aliasBody (host : VirtualHost) {name : String} (h : IsSolid name)
    (hne : name ≠ "") : serverNames (clausesAll (host.aliasBody name)) = [name] := by
  have hnames : directives "server_name" (clausesAll (host.aliasBody name)) =
      [wordsOf name.toList] := rfl
  rw [serverNames, hnames, h.wordsOf_eq hne]
  rfl

/-- Over TLS, the first name leads to the application and any other one to the second server. -/
theorem selectServer_issued (hnames : settings.siteNames = some names)
    (hcanonical : IsSolid names.canonical) (hne : names.canonical ≠ "") (request : Request)
    (htls : request.listener.tls = true) :
    selectServer (clausesAll (issued settings names).configuration) request.listener
        request.host =
      if request.host = names.canonical then some (clausesAll (issued settings names).siteBody)
      else some (clausesAll ((issued settings names).aliasBody names.aliasName)) := by
  have hsolid : IsSolid names.aliasName := by
    rw [aliasName_eq hnames]
    exact (isSolid_of_all rfl).append hcanonical
  refine selectServer_of_pair ?_
    (serverNames_aliasBody (issued settings names) hsolid (aliasName_ne_empty hnames))
    (serverNames_siteBody (issued settings names) hcanonical hne)
    (aliasName_ne_canonical hnames) _
  rw [serverBodies_issued settings names (aliasName_ne_empty hnames), List.filter_cons,
    List.filter_cons, List.filter_cons, listensAt_plainBody, listensAt_aliasBody,
    listensAt_siteBody, htls]
  rfl

/-- A virtual host with a requested certificate serves the site of its names. -/
theorem serves_issued (h : settings.tls.source = .letsEncrypt)
    (hnames : settings.siteNames = some names) (hcanonical : IsSolid names.canonical)
    (hne : names.canonical ≠ "") : Serves settings (issued settings names) where
  exposure_eq := rfl
  origin_solid := isSolid_origin settings.proxy.httpsPort hcanonical
  challenges_eq := by
    rw [h, locations_plainBody_issued]
    rfl
  plain_nodup := by
    have hblocks : (blocks "location" (clausesAll (issued settings names).plainBody)).map
        Prod.fst = [["=", "/health"], ["/.well-known/acme-challenge/"], ["/"]] := rfl
    rw [hblocks]
    decide
  servers_eq := by
    intro server hserver
    rw [serverBodies_issued settings names (aliasName_ne_empty hnames)] at hserver
    rcases List.mem_cons.mp hserver with rfl | hserver
    · exact .inl rfl
    · rcases List.mem_cons.mp hserver with rfl | hserver
      · exact .inr (.inr rfl)
      · exact .inr (.inl (List.mem_singleton.mp hserver))
  plain_eq := by
    intro request hplain
    refine selectServer_of_single ?_ _
    rw [serverBodies_issued settings names (aliasName_ne_empty hnames), List.filter_cons,
      List.filter_cons, List.filter_cons, listensAt_plainBody, listensAt_aliasBody,
      listensAt_siteBody, hplain]
    rfl
  site_eq := by
    intro request hsite
    have hhost := hsite.2 h
    rw [hnames] at hhost
    rw [selectServer_issued hnames hcanonical hne request hsite.1,
      if_pos (Option.some.inj hhost).symm]
  other_eq := by
    intro request htls hother
    have hhost : request.host ≠ names.canonical := by
      intro hsame
      refine hother ⟨htls, fun _ => ?_⟩
      rw [hnames, hsame]
      rfl
    refine ⟨clausesAll ((issued settings names).aliasBody names.aliasName), ?_, ?_⟩
    · rw [selectServer_issued hnames hcanonical hne request htls, if_neg hhost]
    · exact directives_redirectLine (issued settings names)
        (isSolid_origin settings.proxy.httpsPort hcanonical)
  sendsOn := by
    intro request
    -- The site declares its own name, so the redirection is taken literally.
    have hdeclared : names.canonical ∈
        (serverBodies (clausesAll (issued settings names).configuration)).flatMap serverNames := by
      rw [List.mem_flatMap, serverBodies_issued settings names (aliasName_ne_empty hnames)]
      refine ⟨clausesAll (issued settings names).siteBody, by simp, ?_⟩
      rw [serverNames_siteBody (issued settings names) hcanonical hne]
      exact List.mem_singleton_self _
    refine ⟨_, follow?_origin _ request names.canonical _, ⟨rfl, fun _ => ?_⟩, rfl⟩
    rw [hnames, namedHost, if_pos hdeclared]
    rfl

end

end RemoteGateway.Proxy
