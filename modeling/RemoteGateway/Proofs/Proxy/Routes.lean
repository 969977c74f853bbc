import RemoteGateway.Proofs.Proxy.Serving
import RemoteGateway.Proofs.Settings.Footprint

/-!
# Where a virtual host routes requests

`Routed` says what becomes of every request for a site: the broker and the application each get
the paths that are theirs, health checks are answered on either port, control over the domain can
be proved, and every other request is sent on to the site once, or ends. It holds of every
virtual host whose text can be generated from settings that were read (`virtualHost_routes`),
because it holds of whatever serves a site (`routed_of_serves`).
-/

namespace RemoteGateway.Proxy

open Directive VirtualHost

/-! ### Routing -/

/-- **What becomes of requests** under the configuration of a site. -/
structure Routed (settings : Settings) (configuration : List Clause) : Prop where
  /-- No server declares a location twice. -/
  locations_nodup : ∀ server ∈ serverBodies configuration,
    ((blocks "location" server).map Prod.fst).Nodup
  /-- Below its prefix the broker answers. -/
  broker_eq : ∀ request rest, ReachesSite settings request →
    request.path = Site.brokerPrefix ++ rest →
    answer configuration request =
      .relay (backend Deployment.brokerService Deployment.brokerPort) ("/api/" ++ rest)
  /-- Everything else below the base path is the application's, save the health check. -/
  application_eq : ∀ request rest, ReachesSite settings request →
    request.path = settings.proxy.exposure.basePath ++ rest → request.path ≠ "/health" →
    ¬ Site.brokerPrefix.toList <+: request.path.toList →
    answer configuration request =
      .relay (backend Deployment.applicationService Deployment.applicationPort)
        (Site.applicationPath ++ rest)
  /-- Health checks are answered on either port. -/
  health_eq : ∀ request, request.path = "/health" →
    request.listener.tls = false ∨ ReachesSite settings request →
    answer configuration request = .respond "200" "\"OK\\n\""
  /-- Control over the domain can be proved. -/
  challenge_eq : ∀ request, settings.tls.source = .letsEncrypt → request.listener.tls = false →
    "/.well-known/acme-challenge/".toList <+: request.path.toList →
    answer configuration request = .file (Deployment.webrootMount ++ request.path)
  /-- All other plain requests are sent on to the site. -/
  plain_eq : ∀ request, request.listener.tls = false → request.path.toList.head? = some '/' →
    request.path ≠ "/health" →
    (settings.tls.source = .letsEncrypt →
      ¬ "/.well-known/acme-challenge/".toList <+: request.path.toList) →
    ∃ target, answer configuration request = .redirect "301" target ∧
      SendsOn settings configuration request target
  /-- So are all requests under another name of the site. -/
  other_eq : ∀ request : Request, request.listener.tls = true → ¬ ReachesSite settings request →
    ∃ target, answer configuration request = .redirect "301" target ∧
      SendsOn settings configuration request target
  /-- No client is sent on more than twice. -/
  settles : ∀ request : Request, request.path.toList.head? = some '/' →
    ∃ count last, count ≤ 2 ∧ last.isRedirect = false ∧
      Leads configuration (Settings.portSuffix settings.proxy.httpsPort) count request last

namespace Serves

variable {settings : Settings} {host : VirtualHost} {request : Request}

theorem answer_site (h : Serves settings host) (hsite : ReachesSite settings request) :
    answer (clausesAll host.configuration) request =
      answerAt (clausesAll host.configuration) request.path
        (selectLocation request.path (locations (clausesAll host.siteBody))) :=
  answer_eq_answerAt (h.site_eq request hsite) (directives_siteBody host fun _ => rfl)

theorem answer_plain (h : Serves settings host) (hplain : request.listener.tls = false) :
    answer (clausesAll host.configuration) request =
      answerAt (clausesAll host.configuration) request.path
        (selectLocation request.path (locations (clausesAll host.plainBody))) :=
  answer_eq_answerAt (h.plain_eq request hplain) (directives_plainBody host "return")

/-- Under another name, everything is sent on. -/
theorem answer_other (h : Serves settings host) (htls : request.listener.tls = true)
    (hother : ¬ ReachesSite settings request) :
    answer (clausesAll host.configuration) request =
      .redirect "301" (host.origin ++ "$request_uri") := by
  obtain ⟨server, hselect, hreturn⟩ := h.other_eq request htls hother
  exact answer_eq_answerOfReturn hselect hreturn

theorem answer_broker (h : Serves settings host) (hsite : ReachesSite settings request)
    {rest : String} (hpath : request.path = Site.brokerPrefix ++ rest) :
    answer (clausesAll host.configuration) request =
      .relay (backend Deployment.brokerService Deployment.brokerPort) ("/api/" ++ rest) := by
  have hbroker : Site.brokerPrefix.toList <+: request.path.toList := by
    rw [hpath, String.toList_append]
    exact List.prefix_append _ _
  have hhealth : request.path ≠ "/health" := by
    intro hsame
    rw [hsame] at hbroker
    exact absurd hbroker (by decide)
  have hroot : request.path ≠ "/" := by
    intro hsame
    rw [hsame] at hbroker
    exact absurd hbroker (by decide)
  rw [h.answer_site hsite, selectLocation_other host hhealth fun hsame => absurd hsame hroot,
    longestMatch_broker host hbroker, answerAt, hpath]
  exact answer_brokerLocation host rest

theorem answer_application (h : Serves settings host) (hsite : ReachesSite settings request)
    {rest : String} (hpath : request.path = host.exposure.basePath ++ rest)
    (hhealth : request.path ≠ "/health")
    (hbroker : ¬ Site.brokerPrefix.toList <+: request.path.toList) :
    answer (clausesAll host.configuration) request =
      .relay (backend Deployment.applicationService Deployment.applicationPort)
        (Site.applicationPath ++ rest) := by
  have hbase : host.exposure.basePath.toList <+: request.path.toList := by
    rw [hpath, String.toList_append]
    exact List.prefix_append _ _
  have hroot : request.path = "/" → ∀ base, host.exposure ≠ .path base := by
    intro hsame base hexposure
    rw [hsame, hexposure] at hbase
    exact not_prefix_root base hbase
  rw [h.answer_site hsite, selectLocation_other host hhealth hroot,
    longestMatch_application host hbase hbroker, answerAt, hpath]
  exact answer_applicationLocation host rest

theorem answer_health (h : Serves settings host) (hpath : request.path = "/health")
    (hreaches : request.listener.tls = false ∨ ReachesSite settings request) :
    answer (clausesAll host.configuration) request = .respond "200" "\"OK\\n\"" := by
  rcases hreaches with hplain | hsite
  · rw [h.answer_plain hplain, h.challenges_eq, hpath]
    exact answer_healthLocation (clausesAll host.configuration) "/health"
  · rw [h.answer_site hsite, hpath, selectLocation_health]
    exact answer_healthLocation (clausesAll host.configuration) "/health"

theorem answer_challenge (h : Serves settings host) (hsource : settings.tls.source = .letsEncrypt)
    (hplain : request.listener.tls = false)
    (hpath : challengeLocation.path.toList <+: request.path.toList) :
    answer (clausesAll host.configuration) request =
      .file (Deployment.webrootMount ++ request.path) := by
  have hhealth : request.path ≠ "/health" := by
    intro hsame
    rw [hsame] at hpath
    exact absurd hpath (by decide)
  have hchallenges : ∀ location ∈ [challengeLocation], location.exact = false := by
    intro location hmem
    rw [List.mem_singleton.mp hmem]
    rfl
  rw [h.answer_plain hplain, h.challenges_eq, if_pos hsource,
    selectLocation_plain host hchallenges hhealth, List.singleton_append,
    longestMatch_challenge host hpath]
  exact answer_challengeLocation (clausesAll host.configuration) request.path

theorem answer_secure (h : Serves settings host) (hplain : request.listener.tls = false)
    (habsolute : request.path.toList.head? = some '/') (hhealth : request.path ≠ "/health")
    (hchallenge : settings.tls.source = .letsEncrypt →
      ¬ challengeLocation.path.toList <+: request.path.toList) :
    answer (clausesAll host.configuration) request =
      .redirect "301" (host.origin ++ "$request_uri") := by
  have hnone : ∀ location ∈ (if settings.tls.source = .letsEncrypt then [challengeLocation]
      else []), location.exact = false ∧ ¬ location.Covers request.path := by
    intro location hmem
    split at hmem
    · next hsource =>
      rw [List.mem_singleton.mp hmem]
      exact ⟨rfl, hchallenge hsource⟩
    · exact absurd hmem List.not_mem_nil
  rw [h.answer_plain hplain, h.challenges_eq,
    selectLocation_plain host (fun location hmem => (hnone location hmem).1) hhealth,
    longestMatch_secure host habsolute fun location hmem => (hnone location hmem).2]
  exact answer_secureLocation (clausesAll host.configuration) request.path h.origin_solid

/-- Under no other path the application's server sends a client on. -/
theorem isRedirect_answer_site (h : Serves settings host) (hsite : ReachesSite settings request)
    (hroot : request.path = "/" → ∀ base, host.exposure ≠ .path base) :
    (answer (clausesAll host.configuration) request).isRedirect = false := by
  by_cases hhealth : request.path = "/health"
  · rw [h.answer_health hhealth (.inr hsite)]
    rfl
  by_cases hbroker : Site.brokerPrefix.toList <+: request.path.toList
  · obtain ⟨rest, hrest⟩ := exists_eq_append hbroker
    rw [h.answer_broker hsite hrest]
    rfl
  by_cases hbase : host.exposure.basePath.toList <+: request.path.toList
  · obtain ⟨rest, hrest⟩ := exists_eq_append hbase
    rw [h.answer_application hsite hrest hhealth hbroker]
    rfl
  rw [h.answer_site hsite, selectLocation_other host hhealth hroot,
    longestMatch_none host hbase hbroker]
  rfl

theorem answer_root (h : Serves settings host) (hsite : ReachesSite settings request)
    {base : Site.BasePath} (hexposure : host.exposure = .path base) (hpath : request.path = "/") :
    answer (clausesAll host.configuration) request = .redirect "302" base.text := by
  rw [h.answer_site hsite, hpath, selectLocation_root host hexposure]
  exact answer_rootLocation (clausesAll host.configuration) "/" base

/-- A request that reaches the site is sent on once at most, from the root to the base path. -/
theorem settles_site (h : Serves settings host) (hsite : ReachesSite settings request) :
    ∃ count last, count ≤ 1 ∧ last.isRedirect = false ∧
      Leads (clausesAll host.configuration) (Settings.portSuffix settings.proxy.httpsPort) count
        request last := by
  by_cases hroot : request.path = "/" ∧ ∃ base, host.exposure = .path base
  · obtain ⟨hpath, base, hexposure⟩ := hroot
    -- The redirection changes the path alone, so it stays on the same server.
    have hnext : ReachesSite settings { request with path := base.text } := hsite
    have hstays : base.text = "/" → ∀ base, host.exposure ≠ .path base := by
      intro hsame
      exact absurd (hsame ▸ List.prefix_refl _) (not_prefix_root base)
    have hlast := h.isRedirect_answer_site hnext hstays
    refine ⟨1, _, Nat.le_refl 1, hlast, .follow (h.answer_root hsite hexposure hpath) ?_
      (.stop hlast)⟩
    exact follow?_path _ _ request base
  · have hlast := h.isRedirect_answer_site hsite fun hpath base hexposure =>
      hroot ⟨hpath, base, hexposure⟩
    exact ⟨0, _, Nat.zero_le 1, hlast, .stop hlast⟩

/-- A request that is sent on to the site is sent on once more at most. -/
theorem settles_sentOn (h : Serves settings host) {target : String}
    (hanswer : answer (clausesAll host.configuration) request = .redirect "301" target)
    (hsends : SendsOn settings (clausesAll host.configuration) request target) :
    ∃ count last, count ≤ 2 ∧ last.isRedirect = false ∧
      Leads (clausesAll host.configuration) (Settings.portSuffix settings.proxy.httpsPort) count
        request last := by
  obtain ⟨next, hnext, hsite, -⟩ := hsends
  obtain ⟨count, last, hcount, hlast, hleads⟩ := h.settles_site hsite
  exact ⟨count + 1, last, Nat.succ_le_succ hcount, hlast, .follow hanswer hnext hleads⟩

theorem settles (h : Serves settings host) (habsolute : request.path.toList.head? = some '/') :
    ∃ count last, count ≤ 2 ∧ last.isRedirect = false ∧
      Leads (clausesAll host.configuration) (Settings.portSuffix settings.proxy.httpsPort) count
        request last := by
  have hstop : (answer (clausesAll host.configuration) request).isRedirect = false →
      ∃ count last, count ≤ 2 ∧ last.isRedirect = false ∧
        Leads (clausesAll host.configuration) (Settings.portSuffix settings.proxy.httpsPort)
          count request last :=
    fun hlast => ⟨0, _, Nat.zero_le 2, hlast, .stop hlast⟩
  -- What does not reach the site is answered at once or sent on to it.
  by_cases hsite : ReachesSite settings request
  · obtain ⟨count, last, hcount, hrest⟩ := h.settles_site hsite
    exact ⟨count, last, Nat.le_succ_of_le hcount, hrest⟩
  cases htls : request.listener.tls with
  | true => exact h.settles_sentOn (h.answer_other htls hsite) (h.sendsOn request)
  | false =>
    by_cases hhealth : request.path = "/health"
    · refine hstop ?_
      rw [h.answer_health hhealth (.inl htls)]
      rfl
    by_cases hchallenge : settings.tls.source = .letsEncrypt ∧
        challengeLocation.path.toList <+: request.path.toList
    · refine hstop ?_
      rw [h.answer_challenge hchallenge.1 htls hchallenge.2]
      rfl
    · exact h.settles_sentOn
        (h.answer_secure htls habsolute hhealth fun hsource hpath => hchallenge ⟨hsource, hpath⟩)
        (h.sendsOn request)

end Serves

/-! ### Every virtual host -/

/-- The server of the application declares no location twice. -/
theorem nodup_siteBody (host : VirtualHost) :
    ((blocks "location" (clausesAll host.siteBody)).map Prod.fst).Nodup := by
  rw [blocks_siteBody]
  by_cases hpath : ∃ base, host.exposure = .path base
  · obtain ⟨base, hbase⟩ := hpath
    -- A base path never meets the prefix of the broker.
    have hne : base.text ≠ Site.brokerPrefix := by
      intro hsame
      exact not_covers_both base (List.prefix_refl _) (hsame ▸ List.prefix_refl _)
    rw [blocks_rootRedirect host hbase, hbase]
    change [["=", "/health"], ["=", "/"], [base.text], [Site.brokerPrefix]].Nodup
    simp [hne]
  · have hroot : host.exposure.basePath = "/" := by
      cases hexposure : host.exposure with
      | path base => exact absurd ⟨base, hexposure⟩ hpath
      | root => rfl
      | subdomain label => rfl
    rw [blocks_rootRedirect_of_ne host fun base h => hpath ⟨base, h⟩, hroot]
    change [["=", "/health"], ["/"], [Site.brokerPrefix]].Nodup
    decide

theorem routed_of_serves {settings : Settings} {host : VirtualHost} (h : Serves settings host) :
    Routed settings (clausesAll host.configuration) where
  locations_nodup := by
    intro server hserver
    rcases h.servers_eq server hserver with rfl | rfl | hnone
    · exact h.plain_nodup
    · exact nodup_siteBody host
    · rw [hnone]
      exact List.nodup_nil
  broker_eq _ _ hsite hpath := h.answer_broker hsite hpath
  application_eq := by
    intro request rest hsite hpath hhealth hbroker
    rw [← h.exposure_eq] at hpath
    exact h.answer_application hsite hpath hhealth hbroker
  health_eq _ hpath hreaches := h.answer_health hpath hreaches
  challenge_eq _ hsource hplain hpath := h.answer_challenge hsource hplain hpath
  plain_eq request hplain habsolute hhealth hchallenge :=
    ⟨_, h.answer_secure hplain habsolute hhealth hchallenge, h.sendsOn request⟩
  other_eq request htls hother := ⟨_, h.answer_other htls hother, h.sendsOn request⟩
  settles _ habsolute := h.settles habsolute

/-- **Every virtual host routes the requests for its site.** Whatever document the settings were
read from, the text of the virtual host is a configuration that the proxy can read, and under it
every request is answered as `Routed` says. A requested certificate only needs a domain and a
resolver that do not end the directives they stand in. -/
theorem virtualHost_routes {document : Document.Value} {settings : Settings} {text : String}
    (hdocument : Settings.ofDocument document = .ok settings)
    (htext : Deployment.virtualHost settings = .ok text)
    (hdomain : settings.tls.source = .letsEncrypt → ∀ domain, settings.tls.domain = some domain →
      ∀ c ∈ domain.toList, Site.isUnusable c = false)
    (hresolver : settings.tls.source = .letsEncrypt →
      ∀ c ∈ settings.tls.resolver.toList, isMark c = false) :
    ∃ configuration, read text = some configuration ∧ Routed settings configuration := by
  have hcanonical : settings.tls.source = .letsEncrypt → ∀ names, settings.siteNames = some names →
      names.canonical ≠ "" ∧ ∀ c ∈ names.canonical.toList, Site.isUnusable c = false :=
    fun hsource names hnames => canonical_of_ofDocument hdocument hnames (hdomain hsource)
  have hspelled : IsSpelled settings :=
    ⟨fun hsource names hnames => (hcanonical hsource names hnames).2, hresolver⟩
  rw [Deployment.virtualHost_eq, Outcome.map_eq_ok] at htext
  obtain ⟨host, hhost, rfl⟩ := htext
  rw [Outcome.mapError_eq_ok] at hhost
  refine ⟨_, hspelled.read_configuration hhost, routed_of_serves ?_⟩
  rw [VirtualHost.ofSettings] at hhost
  split at hhost
  · next hsource =>
    cases hhost
    exact serves_generated settings hsource
  · next hsource =>
    split at hhost
    · next names hnames =>
      cases hhost
      exact serves_issued hsource hnames (hspelled.isSolid_canonical hsource hnames)
        (hcanonical hsource names hnames).1
    · cases hhost

/-- The virtual host of the sample routes the requests for its site. -/
theorem virtualHost_routes_sample :
    ∃ text configuration, Deployment.virtualHost Sample.settings = .ok text ∧
      read text = some configuration ∧ Routed Sample.settings configuration := by
  have htext : ∃ text, Deployment.virtualHost Sample.settings = .ok text := by
    rw [Deployment.virtualHost_eq]
    exact ⟨_, rfl⟩
  obtain ⟨text, htext⟩ := htext
  have hchars : ("example.org".toList.all fun c => !Site.isUnusable c) = true := rfl
  have hdomain : ∀ domain, Sample.settings.tls.domain = some domain →
      ∀ c ∈ domain.toList, Site.isUnusable c = false := by
    intro domain hset c hc
    obtain rfl := Option.some.inj hset
    exact (Bool.not_eq_true' _).mp (List.all_eq_true.mp hchars c hc)
  have hmarks : ("1.1.1.1 8.8.8.8".toList.all fun c => !isMark c) = true := rfl
  have hresolver : ∀ c ∈ Sample.settings.tls.resolver.toList, isMark c = false :=
    fun c hc => (Bool.not_eq_true' _).mp (List.all_eq_true.mp hmarks c hc)
  obtain ⟨configuration, hread, hrouted⟩ :=
    virtualHost_routes Sample.ofDocument_document htext (fun _ => hdomain) fun _ => hresolver
  exact ⟨text, configuration, htext, hread, hrouted⟩

end RemoteGateway.Proxy
