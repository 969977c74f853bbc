import RemoteGateway.Proofs.Proxy.Serving
import RemoteGateway.Proofs.Proxy.Surveys

/-!
# The servers of a virtual host

A configuration is surveyed server by server: where each of them listens, the names it answers
to, and the files it reads for TLS. The servers of a virtual host for a requested certificate
are the plain one, the one for the second name and the site itself (`summaries_issued`); without
a requested certificate the second name has no server of its own (`summaries_generated`).
-/

namespace RemoteGateway.Proxy

open Directive

/-- Where a server listens, the names it answers to, and the files it reads for TLS: the arguments
of its directives that say so. -/
structure Summary where
  listens : List (List String)
  names : List (List String)
  certificates : List (List String)
  keys : List (List String)
  chains : List (List String)
  deriving DecidableEq

/-- The summary of a server's body. -/
def Summary.ofBody (body : List Clause) : Summary where
  listens := Clause.argumentsOfAll "listen" body
  names := Clause.argumentsOfAll "server_name" body
  certificates := Clause.argumentsOfAll "ssl_certificate" body
  keys := Clause.argumentsOfAll "ssl_certificate_key" body
  chains := Clause.argumentsOfAll "ssl_trusted_certificate" body

/-- The summaries of the servers of a configuration. -/
def summaries (configuration : List Clause) : List Summary :=
  (serverBodies configuration).map Summary.ofBody

theorem mem_summaries {server configuration : List Clause}
    (h : .block ["server"] server ∈ configuration) :
    Summary.ofBody server ∈ summaries configuration := by
  have hblock : ([], server) ∈ blocks "server" configuration :=
    List.mem_filterMap.mpr ⟨_, h, rfl⟩
  exact List.mem_map.mpr ⟨server, List.mem_map.mpr ⟨_, hblock, rfl⟩, rfl⟩

namespace VirtualHost

variable (host : VirtualHost)

theorem summary_plainBody :
    Summary.ofBody (clausesAll host.plainBody) =
      ⟨[["80"], ["[::]:80"]], [wordsOf host.plainNames.toList], [], [], []⟩ := by
  rw [plainBody]
  rcases host.webroot with _ | webroot
  · rfl
  · by_cases h : webroot = ""
    · subst h
      rfl
    · rw [whenStated_some h]
      rfl

theorem summary_aliasBody (name : String) :
    Summary.ofBody (clausesAll (host.aliasBody name)) =
      ⟨[["443", "ssl"], ["[::]:443", "ssl"]], [wordsOf name.toList],
        [wordsOf host.certificatePath.toList], [wordsOf host.keyPath.toList], []⟩ := rfl

theorem summary_siteBody :
    Summary.ofBody (clausesAll host.siteBody) =
      ⟨[["443", "ssl"], ["[::]:443", "ssl"]], [wordsOf host.name.toList],
        [wordsOf host.certificatePath.toList], [wordsOf host.keyPath.toList],
        (host.chainPath.toList.filter fun chain => chain ≠ "").map
          fun chain => wordsOf chain.toList⟩ := by
  rw [siteBody, rootRedirect]
  rcases host.chainPath with _ | chain
  · rcases host.exposure with _ | _ | _ <;> rfl
  · by_cases h : chain = ""
    · subst h
      rcases host.exposure with _ | _ | _ <;> rfl
    · have hfilter : ([chain].filter fun chain => chain ≠ "") = [chain] :=
        List.filter_cons_of_pos (decide_eq_true h)
      rw [whenStated_some h, Option.toList_some, hfilter]
      rcases host.exposure with _ | _ | _ <;> rfl

end VirtualHost

/-! ### The two kinds of virtual hosts -/

section

open VirtualHost

variable (settings : Settings) {names : Site.Names}

/-- A file of the certificate is named by one word when the first name of the site is. -/
theorem wordsOf_live (hcanonical : IsSolid names.canonical) {file : String} (hfile : IsSolid file) :
    wordsOf (liveDirectory names ++ file).toList = [liveDirectory names ++ file] := by
  have hmount : IsSolid (Deployment.issuedMount ++ "/live/") := isSolid_of_all rfl
  refine ((hmount.append hcanonical).append hfile).wordsOf_eq ?_
  simp [Deployment.issuedMount]

/-- The servers of a site whose certificate is requested: one for plain requests under both
names, one that sends the second name on, and one for the first name. -/
theorem summaries_issued (hcanonical : IsSolid names.canonical) (hne : names.canonical ≠ "")
    (halias : IsSolid names.aliasName) (hne' : names.aliasName ≠ "") :
    summaries (clausesAll (issued settings names).configuration) =
      [⟨[["80"], ["[::]:80"]], [[names.canonical, names.aliasName]], [], [], []⟩,
        ⟨[["443", "ssl"], ["[::]:443", "ssl"]], [[names.aliasName]],
          [[liveDirectory names ++ "/fullchain.pem"]], [[liveDirectory names ++ "/privkey.pem"]],
          []⟩,
        ⟨[["443", "ssl"], ["[::]:443", "ssl"]], [[names.canonical]],
          [[liveDirectory names ++ "/fullchain.pem"]], [[liveDirectory names ++ "/privkey.pem"]],
          [[liveDirectory names ++ "/chain.pem"]]⟩] := by
  have hfullchain := wordsOf_live hcanonical (isSolid_of_all rfl : IsSolid "/fullchain.pem")
  have hprivkey := wordsOf_live hcanonical (isSolid_of_all rfl : IsSolid "/privkey.pem")
  have hchain := wordsOf_live hcanonical (isSolid_of_all rfl : IsSolid "/chain.pem")
  have hfilter : ((issued settings names).chainPath.toList.filter fun chain => chain ≠ "") =
      [liveDirectory names ++ "/chain.pem"] :=
    List.filter_cons_of_pos (by simp)
  rw [summaries, serverBodies_issued settings names hne', List.map_cons, List.map_cons,
    List.map_cons, List.map_nil, summary_plainBody, summary_aliasBody, summary_siteBody, hfilter,
    List.map_singleton, hchain, halias.wordsOf_eq hne']
  change [Summary.mk _ [wordsOf (names.canonical ++ " " ++ names.aliasName).toList] _ _ _,
    Summary.mk _ _ [wordsOf (liveDirectory names ++ "/fullchain.pem").toList]
      [wordsOf (liveDirectory names ++ "/privkey.pem").toList] _,
    Summary.mk _ [wordsOf names.canonical.toList]
      [wordsOf (liveDirectory names ++ "/fullchain.pem").toList]
      [wordsOf (liveDirectory names ++ "/privkey.pem").toList] _] = _
  rw [wordsOf_pair hcanonical hne halias hne', hfullchain, hprivkey, hcanonical.wordsOf_eq hne]

/-- The servers of a site with a pair of its own: one for plain requests and one for TLS, for
any name. -/
theorem summaries_generated :
    summaries (clausesAll (generated settings).configuration) =
      [⟨[["80"], ["[::]:80"]], [["_"]], [], [], []⟩,
        ⟨[["443", "ssl"], ["[::]:443", "ssl"]], [["_"]],
          [[Deployment.localTlsMount ++ "/" ++ Deployment.localCertificateFile]],
          [[Deployment.localTlsMount ++ "/" ++ Deployment.localKeyFile]], []⟩] := by
  have hlocal : ∀ file, file = Deployment.localCertificateFile ∨ file = Deployment.localKeyFile →
      wordsOf (Deployment.localTlsMount ++ "/" ++ file).toList =
        [Deployment.localTlsMount ++ "/" ++ file] := by
    rintro file (rfl | rfl) <;> exact (isSolid_of_all rfl).wordsOf_eq (by decide)
  have hany : wordsOf "_".toList = ["_"] := (isSolid_of_all rfl).wordsOf_eq (by decide)
  rw [summaries, serverBodies_generated, List.map_cons, List.map_cons, List.map_nil,
    summary_plainBody, summary_siteBody, ← hlocal _ (.inl rfl), ← hlocal _ (.inr rfl), ← hany]
  rfl

end

end RemoteGateway.Proxy
