import RemoteGateway.Proofs.Proxy.Tables

/-!
# The locations of a virtual host

Which location of the server for the application is responsible for a path, and what each
location answers. A base path and the broker's prefix never begin one another, so at most one of
the two covers a path, except at the root of the site, where the broker's prefix is the longer
one (`length_basePath_lt`).
-/

namespace RemoteGateway.Proxy

open Directive VirtualHost

/-! ### Prefixes -/

/-- No path begins both with a base path of its own and with the broker's prefix. -/
theorem not_covers_both (base : Site.BasePath) {path : List Char}
    (hbase : base.text.toList <+: path) : ¬ Site.brokerPrefix.toList <+: path := by
  intro hbroker
  have hapart := base.apart
  rw [Site.meetsBroker, Bool.or_eq_false_iff] at hapart
  rw [Site.BasePath.text, String.toList_ofList] at hbase
  -- Of two beginnings of one path the shorter begins the longer.
  rcases List.prefix_or_prefix_of_prefix hbase hbroker with h | h
  · rw [List.isPrefixOf_iff_prefix.mpr h] at hapart
    cases hapart.1
  · rw [List.isPrefixOf_iff_prefix.mpr h] at hapart
    cases hapart.2

/-- The broker's prefix is longer than any base path that begins the same path. -/
theorem length_basePath_lt (exposure : Site.Exposure) {path : List Char}
    (hbase : exposure.basePath.toList <+: path) (hbroker : Site.brokerPrefix.toList <+: path) :
    exposure.basePath.length < Site.brokerPrefix.length := by
  -- Only the root begins the same paths as the broker.
  cases exposure with
  | path base => exact absurd hbroker (not_covers_both base hbase)
  | root => decide
  | subdomain label =>
    change "/".length < Site.brokerPrefix.length
    decide

/-- A base path of its own is longer than the root. -/
theorem not_prefix_root (base : Site.BasePath) : ¬ base.text.toList <+: "/".toList := by
  intro hprefix
  have hlength := hprefix.length_le
  have hcore := List.length_pos_iff.mpr base.core_ne_nil
  have hroot : "/".toList.length = 1 := rfl
  rw [Site.BasePath.text, String.toList_ofList, Site.slashed, List.length_cons,
    List.length_append, hroot] at hlength
  omega

/-- Answers health checks. -/
def healthLocation : Location := ⟨true, "/health", healthBlock.inner⟩

/-- Shows the files that prove control over the domain. -/
def challengeLocation : Location :=
  ⟨false, "/.well-known/acme-challenge/", [.simple ["root", Deployment.webrootMount]]⟩

namespace VirtualHost

variable (host : VirtualHost)

/-! ### Locations for plain requests -/

/-- Sends everything on that no other location is responsible for. -/
def secureLocation : Location :=
  ⟨false, "/", clausesAll [host.redirectLine]⟩

theorem locations_plainBody_generated (settings : Settings) :
    locations (clausesAll (generated settings).plainBody) =
      [healthLocation, (generated settings).secureLocation] := rfl

theorem locations_plainBody_issued (settings : Settings) (names : Site.Names) :
    locations (clausesAll (issued settings names).plainBody) =
      [healthLocation, challengeLocation, (issued settings names).secureLocation] := rfl

theorem selectLocation_plain {path : String} {challenges : List Location}
    (hchallenges : ∀ location ∈ challenges, location.exact = false) (hhealth : path ≠ "/health") :
    selectLocation path (healthLocation :: (challenges ++ [host.secureLocation])) =
      longestMatch path (challenges ++ [host.secureLocation]) := by
  have hexacts : ∀ location ∈ [healthLocation],
      location.exact = true ∧ location.path ≠ path := by
    intro location hmem
    rw [List.mem_singleton.mp hmem]
    exact ⟨rfl, Ne.symm hhealth⟩
  refine selectLocation_eq hexacts fun location hmem => ?_
  rcases List.mem_append.mp hmem with hmem | hmem
  · exact hchallenges location hmem
  · rw [List.mem_singleton.mp hmem]
    rfl

/-- Files are shown below their own path. -/
theorem longestMatch_challenge {path : String}
    (h : challengeLocation.path.toList <+: path.toList) :
    longestMatch path [challengeLocation, host.secureLocation] = some challengeLocation := by
  refine longestMatch_eq List.mem_cons_self h ?_
  intro other hother _
  rcases List.mem_cons.mp hother with rfl | hother
  · exact .inl rfl
  · rw [List.mem_singleton.mp hother]
    exact .inr (by decide : "/".length < "/.well-known/acme-challenge/".length)

/-- Any other path is sent on. -/
theorem longestMatch_secure {path : String} {challenges : List Location}
    (habsolute : path.toList.head? = some '/')
    (h : ∀ location ∈ challenges, ¬ location.Covers path) :
    longestMatch path (challenges ++ [host.secureLocation]) = some host.secureLocation := by
  obtain ⟨rest, hrest⟩ := List.head?_eq_some_iff.mp habsolute
  have hcovers : host.secureLocation.Covers path := by
    refine ⟨rest, ?_⟩
    rw [hrest]
    change "/".toList ++ rest = '/' :: rest
    rfl
  refine longestMatch_eq (List.mem_append_right _ List.mem_cons_self) hcovers ?_
  intro other hother hother'
  rcases List.mem_append.mp hother with hother | hother
  · exact absurd hother' (h other hother)
  · exact .inl (List.mem_singleton.mp hother)

/-! ### Locations of the site -/

/-- Sends the root on to the base path. -/
def rootLocation (base : Site.BasePath) : Location :=
  ⟨true, "/", [.simple ["return", "302", base.text]]⟩

def applicationLocation : Location :=
  ⟨false, host.exposure.basePath, host.applicationBlock.inner⟩

def brokerLocation : Location :=
  ⟨false, Site.brokerPrefix, brokerBlock.inner⟩

theorem locations_siteBody_of_path {base : Site.BasePath} (h : host.exposure = .path base) :
    locations (clausesAll host.siteBody) =
      [healthLocation, rootLocation base, host.applicationLocation, brokerLocation] := by
  rw [locations, blocks_siteBody, blocks_rootRedirect host h]
  rfl

theorem locations_siteBody_of_ne (h : ∀ base, host.exposure ≠ .path base) :
    locations (clausesAll host.siteBody) =
      [healthLocation, host.applicationLocation, brokerLocation] := by
  rw [locations, blocks_siteBody, blocks_rootRedirect_of_ne host h]
  rfl

/-- The health check is responsible for its path alone. -/
theorem selectLocation_health :
    selectLocation "/health" (locations (clausesAll host.siteBody)) = some healthLocation := by
  rw [locations, blocks_siteBody]
  rfl

theorem selectLocation_root {base : Site.BasePath} (h : host.exposure = .path base) :
    selectLocation "/" (locations (clausesAll host.siteBody)) = some (rootLocation base) := by
  rw [locations_siteBody_of_path host h]
  rfl

/-- Any other path belongs to the longer of two prefixes. -/
theorem selectLocation_other {path : String} (hhealth : path ≠ "/health")
    (hroot : path = "/" → ∀ base, host.exposure ≠ .path base) :
    selectLocation path (locations (clausesAll host.siteBody)) =
      longestMatch path [host.applicationLocation, brokerLocation] := by
  have hprefixes : ∀ location ∈ [host.applicationLocation, brokerLocation],
      location.exact = false := by
    simp [applicationLocation, brokerLocation]
  by_cases hpath : ∃ base, host.exposure = .path base
  · obtain ⟨base, hbase⟩ := hpath
    have hexacts : ∀ location ∈ [healthLocation, rootLocation base],
        location.exact = true ∧ location.path ≠ path := by
      intro location hmem
      rcases List.mem_cons.mp hmem with rfl | hmem
      · exact ⟨rfl, Ne.symm hhealth⟩
      · rw [List.mem_singleton.mp hmem]
        exact ⟨rfl, fun h => hroot h.symm base hbase⟩
    rw [locations_siteBody_of_path host hbase]
    exact selectLocation_eq hexacts hprefixes
  · have hexacts : ∀ location ∈ [healthLocation],
        location.exact = true ∧ location.path ≠ path := by
      intro location hmem
      rw [List.mem_singleton.mp hmem]
      exact ⟨rfl, Ne.symm hhealth⟩
    rw [locations_siteBody_of_ne host fun base h => hpath ⟨base, h⟩]
    exact selectLocation_eq hexacts hprefixes

/-- Below its prefix the broker is responsible. -/
theorem longestMatch_broker {path : String} (h : Site.brokerPrefix.toList <+: path.toList) :
    longestMatch path [host.applicationLocation, brokerLocation] = some brokerLocation := by
  refine longestMatch_eq (List.mem_cons_of_mem _ List.mem_cons_self) h ?_
  intro other hother hcovers
  rcases List.mem_cons.mp hother with rfl | hother
  · exact .inr (length_basePath_lt _ hcovers h)
  · exact .inl (List.mem_singleton.mp hother)

/-- Elsewhere below the base path the application is. -/
theorem longestMatch_application {path : String}
    (h : host.exposure.basePath.toList <+: path.toList)
    (hbroker : ¬ Site.brokerPrefix.toList <+: path.toList) :
    longestMatch path [host.applicationLocation, brokerLocation] =
      some host.applicationLocation := by
  refine longestMatch_eq List.mem_cons_self h ?_
  intro other hother hcovers
  rcases List.mem_cons.mp hother with rfl | hother
  · exact .inl rfl
  · rw [List.mem_singleton.mp hother] at hcovers
    exact absurd hcovers hbroker

/-- Anywhere else nothing is. -/
theorem longestMatch_none {path : String}
    (h : ¬ host.exposure.basePath.toList <+: path.toList)
    (hbroker : ¬ Site.brokerPrefix.toList <+: path.toList) :
    longestMatch path [host.applicationLocation, brokerLocation] = none := by
  cases hmatch : longestMatch path [host.applicationLocation, brokerLocation] with
  | none => rfl
  | some location =>
    obtain ⟨hmem, hcovers⟩ := longestMatch_some hmatch
    rcases List.mem_cons.mp hmem with rfl | hmem
    · exact absurd hcovers h
    · rw [List.mem_singleton.mp hmem] at hcovers
      exact absurd hcovers hbroker

end VirtualHost

/-! ### Answers of locations -/

/-- A request is handed on under the path of the target. -/
theorem relay?_eq {configuration : List Clause} {name path address : String}
    (hname : ∀ c ∈ name.toList, (c != '/') = true) (hpath : path.toList.head? = some '/')
    (haddress : serviceAddress? configuration name = some address) (location : Location)
    (rest : String) :
    relay? configuration location (location.path ++ rest) ("http://" ++ (name ++ path)) =
      some (.relay address (path ++ rest)) := by
  have htarget : ("http://" ++ (name ++ path)).toList =
      "http://".toList ++ (name.toList ++ path.toList) := by
    rw [String.toList_append, String.toList_append]
  obtain ⟨below, hbelow⟩ := List.head?_eq_some_iff.mp hpath
  have htake : (name.toList ++ path.toList).takeWhile (· != '/') = name.toList := by
    rw [List.takeWhile_append_of_pos hname, hbelow]
    exact List.append_nil _
  have hdrop : (name.toList ++ path.toList).dropWhile (· != '/') = path.toList := by
    rw [List.dropWhile_append_of_pos hname, hbelow]
    rfl
  rw [relay?, htarget, afterPrefix?_append, Option.bind_eq_bind, Option.bind_some, htake, hdrop,
    String.ofList_toList, haddress, Option.bind_eq_bind, Option.bind_some, String.toList_append,
    afterPrefix?_append, Option.bind_some, ← String.toList_append, String.ofList_toList]
  rfl

section

variable (configuration : List Clause) (path : String)

theorem answer_healthLocation :
    healthLocation.answer configuration path = .respond "200" "\"OK\\n\"" := rfl

theorem answer_rootLocation (base : Site.BasePath) :
    (rootLocation base).answer configuration path = .redirect "302" base.text := rfl

theorem answer_challengeLocation :
    challengeLocation.answer configuration path = .file (Deployment.webrootMount ++ path) := rfl

theorem answer_secureLocation {host : VirtualHost} (horigin : IsSolid host.origin) :
    host.secureLocation.answer configuration path =
      .redirect "301" (host.origin ++ "$request_uri") := by
  rw [Location.answer, secureLocation, directives_redirectLine host horigin]
  rfl

end

namespace VirtualHost

variable (host : VirtualHost)

theorem serviceAddress?_application :
    serviceAddress? (clausesAll host.configuration) "guacamole_app" = some "guacamole:8080" := by
  rw [serviceAddress?, blocks_upstream]
  rfl

theorem serviceAddress?_broker :
    serviceAddress? (clausesAll host.configuration) "session_broker" =
      some "session-broker:5000" := by
  rw [serviceAddress?, blocks_upstream]
  rfl

theorem answer_applicationLocation (rest : String) :
    host.applicationLocation.answer (clausesAll host.configuration)
        (host.exposure.basePath ++ rest) =
      .relay "guacamole:8080" ("/guacamole/" ++ rest) := by
  have hpass : directives "proxy_pass" host.applicationLocation.body =
      [["http://" ++ ("guacamole_app" ++ "/guacamole/")]] := rfl
  have hreturn : directives "return" host.applicationLocation.body = [] := rfl
  have hname : ∀ c ∈ "guacamole_app".toList, (c != '/') = true :=
    List.all_eq_true.mp (rfl : "guacamole_app".toList.all (· != '/') = true)
  have hpath : "/guacamole/".toList.head? = some '/' := rfl
  have hrelay := relay?_eq hname hpath host.serviceAddress?_application
    host.applicationLocation rest
  rw [Location.answer, hreturn, hpass]
  exact congrArg (fun answer => answer.getD .unmatched) hrelay

theorem answer_brokerLocation (rest : String) :
    brokerLocation.answer (clausesAll host.configuration) (Site.brokerPrefix ++ rest) =
      .relay "session-broker:5000" ("/api/" ++ rest) := by
  have hpass : directives "proxy_pass" brokerLocation.body =
      [["http://" ++ ("session_broker" ++ "/api/")]] := rfl
  have hreturn : directives "return" brokerLocation.body = [] := rfl
  have hname : ∀ c ∈ "session_broker".toList, (c != '/') = true :=
    List.all_eq_true.mp (rfl : "session_broker".toList.all (· != '/') = true)
  have hpath : "/api/".toList.head? = some '/' := rfl
  have hrelay := relay?_eq hname hpath host.serviceAddress?_broker brokerLocation rest
  rw [Location.answer, hreturn, hpass]
  exact congrArg (fun answer => answer.getD .unmatched) hrelay

end VirtualHost

end RemoteGateway.Proxy
