import Mathlib.Data.List.Basic
import RemoteGateway.FileTree.Location
import RemoteGateway.Proofs.Compose.Meaning

/-!
# Where containers find the files of the host

A service lists its volumes as texts: a source, a colon, the place at which the container sees
it, and possibly a colon and options. `hostPaths` reads such a list the other way round: it
gives the places of the host that a path inside the container **stands for**. A source that
begins with `./` lies below the directory of the compose file, one that begins with a slash is
a place of the host, and any other source names a volume of the runtime, which has no place.

Below the mounts of certificates every path stands for exactly one place of the host, in the
proxy (`hostPaths_proxy_issued`, `hostPaths_proxy_local`) as in the service that renews them
(`hostPaths_renewal`).
-/

namespace RemoteGateway.Compose

open Deployment

/-! ### Reading volumes -/

/-- A source and the place at which a container sees it. -/
structure Mount where
  source : List Char
  target : List Char
  deriving DecidableEq

namespace Mount

/-- The mount that the text of a volume describes. -/
def ofText? (volume : String) : Option Mount :=
  match volume.toList.splitOn ':' with
  | source :: target :: _ => some ⟨source, target⟩
  | _ => none

/-- What a path has behind the target: nothing, or a slash and more. -/
def below? (mount : Mount) (path : List Char) : Option (List Char) :=
  match mount.target.isPrefixOf? path with
  | some [] => some []
  | some ('/' :: rest) => some ('/' :: rest)
  | _ => none

/-- The place of the source on the host, for a compose file in some directory. -/
def place? (directory : String) (mount : Mount) : Option String :=
  match mount.source with
  | '.' :: '/' :: rest => some (FileTree.join directory (String.ofList rest))
  | '/' :: rest => some (String.ofList ('/' :: rest))
  | _ => none

/-- The place on the host of a path inside the container, if the mount covers it. -/
def hostPath? (directory : String) (mount : Mount) (path : String) : Option String := do
  let rest ← mount.below? path.toList
  let place ← mount.place? directory
  return place ++ String.ofList rest

end Mount

/-- The place on the host of a path inside the container, if the mount that a text describes
covers it. -/
def volumePath? (directory path volume : String) : Option String :=
  (Mount.ofText? volume).bind fun mount => mount.hostPath? directory path

/-- The places on the host that a path inside a container stands for, by the volumes of its
service and for a compose file in some directory. -/
def hostPaths (directory : String) (volumes : List String) (path : String) : List String :=
  volumes.filterMap (volumePath? directory path)

/-- A source below the directory of the compose file, and where a container sees it. -/
def Mount.below (source target : String) : Mount :=
  ⟨'.' :: '/' :: source.toList, target.toList⟩

/-- No path of the layout has a character that separates the parts of a volume. -/
theorem colon_not_mem_paths : ∀ path ∈ paths, ':' ∉ path.toList := by
  decide

private theorem not_mem_below {source : String} (h : source ∈ paths) :
    ':' ∉ ("./" ++ source).toList := by
  rw [String.toList_append, List.mem_append, not_or]
  exact ⟨by decide, colon_not_mem_paths source h⟩

/-- The text of a volume below the directory of the compose file is read as meant. -/
theorem ofText?_mount {source target : String} (hsource : source ∈ paths)
    (htarget : ':' ∉ target.toList) :
    Mount.ofText? (mount ("./" ++ source) target) = some (Mount.below source target) := by
  have hlist : (mount ("./" ++ source) target).toList =
      ("./" ++ source).toList ++ ':' :: target.toList := by
    rw [mount, String.toList_append, String.toList_append, List.append_assoc]
    rfl
  rw [Mount.ofText?, hlist, List.splitOn_append_cons_self_of_not_mem (not_mem_below hsource),
    List.splitOn_eq_singleton htarget, String.toList_append]
  rfl

/-- The text of a volume that cannot be changed is read as meant. -/
theorem ofText?_mountReadOnly {source target : String} (hsource : source ∈ paths)
    (htarget : ':' ∉ target.toList) :
    Mount.ofText? (mountReadOnly source target) = some (Mount.below source target) := by
  have hlist : (mountReadOnly source target).toList =
      ("./" ++ source).toList ++ ':' :: (target.toList ++ ':' :: ['r', 'o']) := by
    rw [mountReadOnly, String.toList_append, String.toList_append, String.toList_append,
      List.append_assoc, List.append_assoc]
    rfl
  rw [Mount.ofText?, hlist, List.splitOn_append_cons_self_of_not_mem (not_mem_below hsource),
    List.splitOn_append_cons_self_of_not_mem htarget, String.toList_append]
  rfl

/-- A volume whose mount does not cover a path adds no place. -/
theorem hostPaths_cons_of_none {directory volume path : String} {volumes : List String}
    {mount : Mount} (hmount : Mount.ofText? volume = some mount)
    (hpath : mount.below? path.toList = none) :
    hostPaths directory (volume :: volumes) path = hostPaths directory volumes path := by
  have hnone : volumePath? directory path volume = none := by
    rw [volumePath?, hmount, Option.bind_some, Mount.hostPath?, hpath]
    rfl
  rw [hostPaths, List.filterMap_cons_none hnone, hostPaths]

private theorem toList_slash (directory rest : String) :
    (directory ++ ("/" ++ rest)).toList = directory.toList ++ '/' :: rest.toList := by
  rw [String.toList_append, String.toList_append]
  rfl

private theorem ofList_slash (rest : String) :
    String.ofList ('/' :: rest.toList) = "/" ++ rest := by
  rw [← String.toList_inj, String.toList_ofList, String.toList_append]
  rfl

/-- A volume below the directory of the compose file adds one place for a path below the place
at which the container sees it. -/
theorem hostPaths_cons_below {directory volume source target : String} {volumes : List String}
    (hmount : Mount.ofText? volume = some (Mount.below source target)) (rest : String) :
    hostPaths directory (volume :: volumes) (target ++ ("/" ++ rest)) =
      (FileTree.join directory source ++ ("/" ++ rest)) ::
        hostPaths directory volumes (target ++ ("/" ++ rest)) := by
  have hbelow : (Mount.below source target).below? (target ++ ("/" ++ rest)).toList =
      some ('/' :: rest.toList) := by
    have hprefix : target.toList.isPrefixOf? (target.toList ++ '/' :: rest.toList) =
        some ('/' :: rest.toList) := List.isPrefixOf?_eq_some_iff_append_eq.mpr rfl
    rw [toList_slash, Mount.below?, Mount.below, hprefix]
    rfl
  have hplace : (Mount.below source target).place? directory =
      some (FileTree.join directory source) :=
    congrArg (fun text => some (FileTree.join directory text)) String.ofList_toList
  have hsome : volumePath? directory (target ++ ("/" ++ rest)) volume =
      some (FileTree.join directory source ++ ("/" ++ rest)) := by
    rw [volumePath?, hmount, Option.bind_some, Mount.hostPath?, hbelow, hplace, ← ofList_slash]
    rfl
  rw [hostPaths, List.filterMap_cons_some hsome, hostPaths]

/-! ### Certificates -/

variable (directory rest : String)

/-- The files of the proxy's own configuration are mounted apart from certificates. -/
private theorem hostPaths_proxy {path : String} (source : CertificateSource)
    (hmain : (Mount.below proxyMainFile "/etc/nginx/nginx.conf").below? path.toList = none)
    (hsite : (Mount.below proxySiteDirectory "/etc/nginx/conf.d").below? path.toList = none) :
    hostPaths directory (proxyVolumes source) path =
      hostPaths directory (certificateMounts source) path := by
  rw [proxyVolumes, List.cons_append, List.cons_append, List.nil_append,
    hostPaths_cons_of_none (ofText?_mountReadOnly (by decide) (by decide)) hmain,
    hostPaths_cons_of_none (ofText?_mountReadOnly (by decide) (by decide)) hsite]

/-- In the proxy, a path below the mount of requested certificates stands for the one below the
directory that holds them. -/
theorem hostPaths_proxy_issued :
    hostPaths directory (proxyVolumes .letsEncrypt) (issuedMount ++ ("/" ++ rest)) =
      [FileTree.join directory issuedDirectory ++ ("/" ++ rest)] := by
  -- The other mounts differ from the path before its variable part begins.
  have hlist := toList_slash issuedMount rest
  rw [hostPaths_proxy directory _ (by rw [hlist]; rfl) (by rw [hlist]; rfl), certificateMounts,
    hostPaths_cons_below (ofText?_mountReadOnly (by decide) (by decide)),
    hostPaths_cons_of_none (ofText?_mountReadOnly (by decide) (by decide)) (by rw [hlist]; rfl)]
  rfl

/-- In the proxy, a path below the mount of the host's own pair stands for the one below the
directory that holds the pair. -/
theorem hostPaths_proxy_local :
    hostPaths directory (proxyVolumes .selfSigned) (localTlsMount ++ ("/" ++ rest)) =
      [FileTree.join directory localTlsDirectory ++ ("/" ++ rest)] := by
  have hlist := toList_slash localTlsMount rest
  rw [hostPaths_proxy directory _ (by rw [hlist]; rfl) (by rw [hlist]; rfl), certificateMounts,
    hostPaths_cons_below (ofText?_mountReadOnly (by decide) (by decide))]
  rfl

/-- The service that renews certificates keeps them in the directory that the proxy reads. -/
theorem hostPaths_renewal :
    hostPaths directory renewalVolumes (issuedMount ++ ("/" ++ rest)) =
      [FileTree.join directory issuedDirectory ++ ("/" ++ rest)] := by
  have hlist := toList_slash issuedMount rest
  rw [renewalVolumes, hostPaths_cons_below (ofText?_mount (by decide) (by decide)),
    hostPaths_cons_of_none (ofText?_mount (by decide) (by decide)) (by rw [hlist]; rfl)]
  rfl

/-! ### In the topology -/

variable {settings : Settings} {topology : Topology}

/-- No volume of the proxy has a dollar sign, so all are read as they are written. -/
theorem dollar_not_mem_proxyVolumes (source : CertificateSource) :
    ∀ volume ∈ proxyVolumes source, '$' ∉ volume.toList := by
  cases source with
  | selfSigned => decide
  | letsEncrypt => decide

/-- Every topology has a proxy, whose volumes depend on the source of the certificate alone. -/
theorem exists_proxy (h : build settings = .ok topology) :
    ∃ service, topology.services.lookup proxyService = some service ∧
      service.volumes = proxyVolumes settings.tls.source := by
  rw [eq_escaped_of_build h]
  exact ⟨(Intended.proxy settings).escaped, rfl,
    map_escape_eq_self (dollar_not_mem_proxyVolumes settings.tls.source)⟩

/-- When a certificate is requested, the topology has a service that renews it. -/
theorem exists_renewal (h : build settings = .ok topology)
    (hsource : settings.tls.source = .letsEncrypt) :
    ∃ service, topology.services.lookup renewalService = some service ∧
      service.volumes = renewalVolumes := by
  rw [eq_escaped_of_build h, Topology.escaped, Intended.topology, Intended.services,
    Intended.renewalServices, hsource]
  exact ⟨(Intended.renewal settings).escaped, rfl,
    map_escape_eq_self (by decide : ∀ volume ∈ renewalVolumes, '$' ∉ volume.toList)⟩

end RemoteGateway.Compose
