import RemoteGateway.Proofs.Proxy.Surveys
import RemoteGateway.Proofs.Proxy.Tables
import RemoteGateway.Proofs.Site.Cores

/-!
# Where the application is published

What a virtual host says about the place of the application: the targets that clients are sent on
to, the paths of the locations that hand requests to it, and the path to which its cookies are
bound. All of them agree. Plain requests and those for the second name are sent on to one origin,
and the path is the one of the exposure, both in what is written (`eq_secureTarget_of_mem`,
`applicationPaths_configuration`) and, where the origin is part of a word, in what is read
(`publishes_configuration`).
-/

namespace RemoteGateway.Proxy

open Directive

/-- A configuration publishes the application below a path of an origin: clients are sent on to that
origin, and requests below the path are handed to the application, whose cookies are bound to it. -/
structure Publishes (configuration : List Clause) (origin path : String) : Prop where
  origins_ne_nil : Clause.targetsOf "301" configuration ≠ []
  origins : ∀ target ∈ Clause.targetsOf "301" configuration, target = [origin ++ "$request_uri"]
  application : Clause.applicationPaths configuration = [[path]]
  cookies : Clause.argumentsOfAll "proxy_cookie_path" configuration =
    [[Site.applicationPath, path]]

namespace VirtualHost

variable (host : VirtualHost)

/-! ### Servers -/

/-- A configuration is surveyed server by server. -/
theorem flatMap_configuration {α : Type} {survey : Directive → List α}
    {inside : List Directive → List α} (hblank : survey .blank = [])
    (hcomment : ∀ text, survey (.comment text) = [])
    (hupstream : ∀ name address,
      survey (.block "upstream" (some name) [.simple "server" 1 address]) = [])
    (hserver : ∀ body, survey (.block "server" none body) = inside body)
    (hnil : inside [] = []) :
    host.configuration.flatMap survey =
      inside host.plainBody ++
        (inside (whenStated host.aliasName host.aliasBody) ++ inside host.siteBody) := by
  rw [configuration]
  simp only [List.flatMap_append, List.flatMap_cons, List.flatMap_nil, hblank, hcomment, hupstream,
    hserver, List.nil_append, List.append_nil]
  rcases host.aliasName with _ | name
  · rw [whenStated, whenStated, hnil]
    rfl
  · by_cases h : name = ""
    · subst h
      rw [whenStated, whenStated, if_pos rfl, if_pos rfl, hnil]
      rfl
    · rw [whenStated_some h, whenStated_some h, List.flatMap_cons, List.flatMap_cons,
        List.flatMap_nil, hblank, hserver, List.nil_append, List.append_nil]

theorem argumentsOfAll_configuration {wanted : String} (hwanted : wanted ≠ "server") :
    argumentsOfAll wanted host.configuration =
      argumentsOfAll wanted host.plainBody ++
        (argumentsOfAll wanted (whenStated host.aliasName host.aliasBody) ++
          argumentsOfAll wanted host.siteBody) := by
  rw [argumentsOfAll_eq_flatMap]
  refine host.flatMap_configuration rfl (fun _ => rfl) (fun name address => ?_) (fun _ => rfl) rfl
  rw [argumentsOf, argumentsOfAll, argumentsOf, if_neg hwanted.symm]
  rfl

theorem locationsOfAll_configuration :
    locationsOfAll host.configuration =
      locationsOfAll host.plainBody ++
        (locationsOfAll (whenStated host.aliasName host.aliasBody) ++
          locationsOfAll host.siteBody) := by
  rw [locationsOfAll_eq_flatMap]
  exact host.flatMap_configuration rfl (fun _ => rfl) (fun _ _ => rfl) (fun _ => rfl) rfl

/-- The server for the application is surveyed part by part. -/
theorem argumentsOfAll_siteBody {wanted : String}
    (hchain : ∀ chain, argumentsOfAll wanted (host.staplingLines chain) = []) :
    argumentsOfAll wanted host.siteBody =
      argumentsOfAll wanted (host.tlsLines host.name) ++
        (argumentsOfAll wanted [.blank, healthBlock] ++
          (argumentsOfAll wanted host.rootRedirect ++
            argumentsOfAll wanted [.blank, host.applicationBlock, .blank, brokerBlock])) := by
  rw [siteBody, argumentsOfAll_append, argumentsOfAll_append, argumentsOfAll_append,
    argumentsOfAll_append, whenStated_eq_nil (argumentsOfAll wanted) rfl hchain, List.nil_append]

theorem cookies_configuration :
    argumentsOfAll "proxy_cookie_path" host.configuration =
      [Site.applicationPath ++ " " ++ host.exposure.basePath] := by
  have hplain : argumentsOfAll "proxy_cookie_path" host.plainBody = [] := by
    rw [plainBody, argumentsOfAll_append, argumentsOfAll_append,
      whenStated_eq_nil (argumentsOfAll "proxy_cookie_path") rfl fun _ => rfl]
    rfl
  have halias :
      argumentsOfAll "proxy_cookie_path" (whenStated host.aliasName host.aliasBody) = [] :=
    whenStated_eq_nil (argumentsOfAll "proxy_cookie_path") rfl fun _ => rfl
  have hroot : argumentsOfAll "proxy_cookie_path" host.rootRedirect = [] := by
    rw [rootRedirect]
    split <;> rfl
  rw [argumentsOfAll_configuration host (by decide), hplain, halias,
    argumentsOfAll_siteBody host fun _ => rfl, hroot, String.append_assoc]
  rfl

/-! ### Redirections -/

/-- The arguments of what a virtual host returns by itself. -/
inductive Returned : String → Prop
  | healthy : Returned "200 \"OK\\n\""
  | secure : Returned ("301 " ++ host.secureTarget)
  | root {base : Site.BasePath} (h : host.exposure = .path base) : Returned ("302 " ++ base.text)

theorem returns_plainBody :
    argumentsOfAll "return" host.plainBody =
      ["200 \"OK\\n\"", "301 " ++ host.secureTarget] := by
  rw [plainBody, argumentsOfAll_append, argumentsOfAll_append,
    whenStated_eq_nil (argumentsOfAll "return") rfl fun _ => rfl]
  rfl

theorem returns_aliasBody (name : String) :
    argumentsOfAll "return" (host.aliasBody name) = ["301 " ++ host.secureTarget] := rfl

/-- The server for the application sends on nothing but the root. -/
theorem returns_siteBody :
    argumentsOfAll "return" host.siteBody =
      "200 \"OK\\n\"" :: argumentsOfAll "return" host.rootRedirect := by
  rw [argumentsOfAll_siteBody host fun _ => rfl]
  exact congrArg ("200 \"OK\\n\"" :: ·) (List.append_nil _)

variable {host}

/-- Every `return` of a virtual host is one of the three. -/
theorem returned_of_mem {arguments : String}
    (h : arguments ∈ argumentsOfAll "return" host.configuration) : host.Returned arguments := by
  rw [argumentsOfAll_configuration host (by decide), List.mem_append, List.mem_append] at h
  rcases h with hplain | halias | hsite
  · rw [returns_plainBody] at hplain
    rcases List.mem_cons.mp hplain with rfl | hsecure
    · exact .healthy
    · rw [List.mem_singleton.mp hsecure]
      exact .secure
  · rw [whenStated.eq_def] at halias
    split at halias
    · cases halias
    · split at halias
      · cases halias
      · rw [returns_aliasBody] at halias
        rw [List.mem_singleton.mp halias]
        exact .secure
  · rw [returns_siteBody] at hsite
    rcases List.mem_cons.mp hsite with rfl | hroot
    · exact .healthy
    · rw [rootRedirect] at hroot
      split at hroot
      · next base hpath =>
        rw [hpath] at hroot
        rw [List.mem_singleton.mp hroot]
        exact .root hpath
      · cases hroot
      · cases hroot

theorem mem_returns :
    "301 " ++ host.secureTarget ∈ argumentsOfAll "return" host.configuration := by
  rw [argumentsOfAll_configuration host (by decide), returns_plainBody]
  exact List.mem_append_left _ (List.mem_cons_of_mem _ List.mem_cons_self)

theorem afterPrefix?_secure :
    afterPrefix? "301 ".toList ("301 " ++ host.secureTarget).toList =
      some host.secureTarget.toList := by
  rw [String.toList_append, afterPrefix?_append]

/-- What stands behind the status of a `return` that sends a client on for good. -/
theorem Returned.target_eq {arguments : String} {target : List Char} (h : host.Returned arguments)
    (htarget : afterPrefix? "301 ".toList arguments.toList = some target) :
    target = host.secureTarget.toList := by
  cases h with
  | healthy => cases htarget
  | secure => exact (Option.some.inj (afterPrefix?_secure.symm.trans htarget)).symm
  | root hpath =>
    -- The status of another redirection is told apart by its last digit.
    have hother : ∀ target, ¬ "301 ".toList <+: ("302 " ++ target).toList := by
      intro target hprefix
      rw [String.toList_append] at hprefix
      exact absurd (List.prefix_of_prefix_length_le hprefix (List.prefix_append _ _) (by decide))
        (by decide)
    rw [afterPrefix?, if_neg (hother _)] at htarget
    cases htarget

/-- All clients are sent on to the same origin. -/
theorem eq_secureTarget_of_mem {target : String}
    (h : target ∈ targetsOf "301" host.configuration) : target = host.secureTarget := by
  obtain ⟨arguments, hmem, htarget⟩ := List.mem_filterMap.mp h
  obtain ⟨rest, hrest, rfl⟩ := Option.map_eq_some_iff.mp htarget
  rw [(returned_of_mem hmem).target_eq hrest, String.ofList_toList]

theorem targetsOf_ne_nil : targetsOf "301" host.configuration ≠ [] := by
  have htarget : (afterPrefix? ("301" ++ " ").toList ("301 " ++ host.secureTarget).toList).map
      String.ofList = some host.secureTarget := by
    change (afterPrefix? "301 ".toList _).map _ = _
    rw [afterPrefix?_secure, Option.map_some, String.ofList_toList]
  exact List.ne_nil_of_mem (List.mem_filterMap.mpr ⟨_, mem_returns, htarget⟩)

/-! ### Redirections that are read -/

/-- The origin is read as it is written when it is part of a word. -/
theorem eq_secureTarget_of_read (horigin : IsSolid host.origin) {target : List String}
    (h : target ∈ Clause.targetsOf "301" (clausesAll host.configuration)) :
    target = [host.secureTarget] := by
  rw [Clause.targetsOf, argumentsOfAll_clausesAll] at h
  obtain ⟨words, hwords, htarget⟩ := List.mem_filterMap.mp h
  obtain ⟨arguments, hmem, rfl⟩ := List.mem_map.mp hwords
  cases returned_of_mem hmem with
  | healthy => cases htarget
  | secure =>
    rw [host.wordsOf_secure horigin] at htarget
    cases htarget
    rfl
  | root hpath =>
    rw [wordsOf_root] at htarget
    cases htarget

theorem targetsOf_read_ne_nil (horigin : IsSolid host.origin) :
    Clause.targetsOf "301" (clausesAll host.configuration) ≠ [] := by
  rw [Clause.targetsOf, argumentsOfAll_clausesAll]
  have hread : ["301", host.secureTarget] ∈
      (argumentsOfAll "return" host.configuration).map fun text => wordsOf text.toList :=
    List.mem_map.mpr ⟨_, mem_returns, host.wordsOf_secure horigin⟩
  exact List.ne_nil_of_mem (List.mem_filterMap.mpr ⟨_, hread, rfl⟩)

variable (host)

/-! ### Locations -/

theorem applicationPaths_configuration :
    applicationPaths host.configuration = [host.exposure.basePath] := by
  have hplain : applicationPaths host.plainBody = [] := by
    rw [plainBody, applicationPaths_append, applicationPaths_append,
      whenStated_eq_nil applicationPaths rfl fun _ => rfl]
    rfl
  have halias : locationsOfAll (whenStated host.aliasName host.aliasBody) = [] :=
    whenStated_eq_nil locationsOfAll rfl fun _ => rfl
  have hroot : applicationPaths host.rootRedirect = [] := by
    rw [rootRedirect]
    split <;> rfl
  have hsite : applicationPaths host.siteBody = [host.exposure.basePath] := by
    rw [siteBody, applicationPaths_append, applicationPaths_append, applicationPaths_append,
      applicationPaths_append, whenStated_eq_nil applicationPaths rfl fun _ => rfl, hroot]
    rfl
  rw [applicationPaths, locationsOfAll_configuration, halias, List.nil_append, List.filter_append,
    List.map_append, ← applicationPaths, ← applicationPaths, hplain, hsite, List.nil_append]

/-- Only the redirection of the root is found at the root. -/
theorem rootTargets_configuration :
    Clause.rootTargets (clausesAll host.configuration) =
      Clause.rootTargets (clausesAll host.rootRedirect) := by
  have hplain : Clause.rootTargets (clausesAll host.plainBody) = [] := by
    rw [plainBody, clausesAll_append, clausesAll_append, Clause.rootTargets_append,
      Clause.rootTargets_append,
      whenStated_eq_nil (fun part => Clause.rootTargets (clausesAll part)) rfl fun _ => rfl]
    rfl
  have halias : locationsOfAll (whenStated host.aliasName host.aliasBody) = [] :=
    whenStated_eq_nil locationsOfAll rfl fun _ => rfl
  have hservices : Clause.rootTargets (clausesAll
      [.blank, host.applicationBlock, .blank, brokerBlock]) = [] := by
    have happlication : ¬ (wordsOf host.exposure.basePath.toList == ["=", "/"]) = true := by
      rw [wordsOf_basePath]
      simp
    have hbroker : ¬ (wordsOf Site.brokerPrefix.toList == ["=", "/"]) = true := by decide
    have hnone : ((Clause.locationsOfAll (clausesAll
        [.blank, host.applicationBlock, .blank, brokerBlock])).filter
        fun location => location.1 == ["=", "/"]) = [] :=
      List.filter_eq_nil_iff.mpr (List.forall_mem_cons.mpr
        ⟨happlication, List.forall_mem_cons.mpr ⟨hbroker, List.forall_mem_nil _⟩⟩)
    rw [Clause.rootTargets, hnone, List.flatMap_nil]
  have hsite : Clause.rootTargets (clausesAll host.siteBody) =
      Clause.rootTargets (clausesAll host.rootRedirect) := by
    rw [siteBody, clausesAll_append, clausesAll_append, clausesAll_append, clausesAll_append,
      Clause.rootTargets_append, Clause.rootTargets_append, Clause.rootTargets_append,
      Clause.rootTargets_append,
      whenStated_eq_nil (fun part => Clause.rootTargets (clausesAll part)) rfl fun _ => rfl,
      hservices]
    exact List.append_nil _
  rw [Clause.rootTargets, locationsOfAll_clausesAll, locationsOfAll_configuration, halias,
    List.nil_append, List.map_append, ← locationsOfAll_clausesAll, ← locationsOfAll_clausesAll,
    List.filter_append, List.flatMap_append, ← Clause.rootTargets, ← Clause.rootTargets, hplain,
    hsite, List.nil_append]

/-- From the root a client is sent on to the application when that has a path of its own. -/
theorem rootTargets_of_path {base : Site.BasePath} (h : host.exposure = .path base) :
    Clause.rootTargets (clausesAll host.configuration) = [[base.text]] := by
  have hreturn : Clause.targetsOf "302" (clausesAll
      [.simple "return" 1 ("302 " ++ base.text)]) = [[base.text]] := by
    rw [Clause.targetsOf, argumentsOfAll_clausesAll]
    change [wordsOf ("302 " ++ base.text).toList].filterMap _ = _
    rw [wordsOf_root]
    rfl
  rw [rootTargets_configuration, rootRedirect, h, ← hreturn]
  exact List.append_nil _

/-- The virtual host has the exposure of the settings. -/
theorem exposure_of_ofSettings {settings : Settings} {host : VirtualHost}
    (h : ofSettings settings = .ok host) :
    host.exposure = settings.proxy.exposure := by
  rw [ofSettings] at h
  split at h
  · cases h
    rfl
  · split at h
    · cases h
      rfl
    · cases h

/-- **A virtual host publishes the application** below the path of its exposure. -/
theorem publishes_configuration (horigin : IsSolid host.origin) :
    Publishes (clausesAll host.configuration) host.origin host.exposure.basePath where
  origins_ne_nil := targetsOf_read_ne_nil horigin
  origins _ := eq_secureTarget_of_read horigin
  application := by
    rw [applicationPaths_clausesAll, applicationPaths_configuration]
    exact congrArg (fun path => [path]) (wordsOf_basePath host.exposure)
  cookies := by
    rw [argumentsOfAll_clausesAll, cookies_configuration]
    exact congrArg (fun arguments => [arguments]) (wordsOf_pair (isSolid_of_all rfl) (by decide)
      (isSolid_basePath host.exposure) (basePath_ne_empty host.exposure))

end VirtualHost

end RemoteGateway.Proxy
