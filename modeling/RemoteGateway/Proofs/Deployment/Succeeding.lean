import Mathlib.Data.List.DropRight
import RemoteGateway.Proofs.Compose.Values
import RemoteGateway.Proofs.Deployment.Generating
import RemoteGateway.Proofs.Settings.Footprint

/-!
# When artifacts are generated

Nothing but a tag, the group of the runtime's socket or the domain can keep the artifacts from being
generated. `shortages` lists what may be missing in the order in which it is missed, service by
service and then for the certificate, and the first that is missing is reported
(`failsFirst_synthesize`).

Every service then runs from the image of its component. The text of the image is cut at its last
colon, and whatever the repository is, this gives back the repository and the tag, since no tag has
a colon (`splitReference?_reference`).
-/

namespace RemoteGateway.Deployment

open Compose (escape imageOf)
open Document (Value)

/-! ### What may be missing -/

/-- A component whose tag was not chosen. -/
def unpinned? (settings : Settings) (component : Component) : Option Fault :=
  if (settings.images.get component).tag = none then
    some (.generation (.missingVersion component))
  else none

/-- The group of the runtime's socket is not known. -/
def ungrouped? (settings : Settings) : Option Fault :=
  if settings.runtime.group = none then some (.config (.missing "docker.gid")) else none

/-- There is no domain. -/
def undomained? (settings : Settings) : Option Fault :=
  if settings.tls.domain = none then some (.config (.missing "ssl.domain")) else none

/-- What is missing only when a certificate is requested. -/
def requested? (settings : Settings) (fault : Option Fault) : Option Fault :=
  if settings.tls.source = .letsEncrypt then fault else none

/-- What may be missing for the services. -/
def serviceShortages (settings : Settings) : List (Option Fault) :=
  [unpinned? settings .postgres, unpinned? settings .guacd, unpinned? settings .guacamole,
    ungrouped? settings, unpinned? settings .broker, unpinned? settings .nginx,
    requested? settings (unpinned? settings .certbot)]

/-- All that may be missing, in the order in which it is missed. -/
def shortages (settings : Settings) : List (Option Fault) :=
  serviceShortages settings ++ [requested? settings (undomained? settings)]

/-- The components that a deployment runs. -/
def deployed (settings : Settings) : List Component :=
  [.postgres, .guacd, .guacamole, .broker, .nginx] ++
    match settings.tls.source with
    | .selfSigned => []
    | .letsEncrypt => [.certbot]

/-- The service that runs from the image of a component. -/
def serviceOf : Component → String
  | .postgres => postgresService
  | .guacd => guacdService
  | .guacamole => applicationService
  | .broker => brokerService
  | .nginx => proxyService
  | .certbot => renewalService

variable {settings : Settings}

/-! ### What is missed first -/

theorem fault?_imageOf (settings : Settings) (component : Component) :
    Outcome.fault? (imageOf settings component) = unpinned? settings component := by
  rw [imageOf, unpinned?, Image.reference?]
  cases (settings.images.get component).tag with
  | none => rfl
  | some tag => rfl

/-- A service for which only its image can be missing. -/
theorem fault?_of_image {component : Component} (service : String → Compose.Service) :
    Outcome.fault? (imageOf settings component >>= fun image => pure (service image)) =
      unpinned? settings component := by
  rw [← fault?_imageOf]
  exact Outcome.fault?_map _ service

/-- For the broker the group of the runtime's socket is missed before the image. -/
theorem failsFirst_broker (settings : Settings) :
    Outcome.FailsFirst [ungrouped? settings, unpinned? settings .broker]
      (Compose.broker settings) := by
  rw [Compose.broker, ungrouped?]
  cases settings.runtime.group with
  | none => rfl
  | some group =>
    rw [if_neg (Option.some_ne_none _), Outcome.FailsFirst]
    simp only [fault?_of_image]
    cases unpinned? settings .broker with
    | none => rfl
    | some fault => rfl

/-- The image of the service that renews certificates is missed if there is one to renew. -/
theorem fault?_renewalServices (settings : Settings) :
    Outcome.fault? (Compose.renewalServices settings) =
      requested? settings (unpinned? settings .certbot) := by
  rw [Compose.renewalServices, requested?]
  cases settings.tls.source with
  | selfSigned => rfl
  | letsEncrypt =>
    rw [if_pos rfl, ← fault?_of_image]
    exact Outcome.fault?_map _ _

/-- **Building fails for want of the first thing that is missing for a service.** -/
theorem failsFirst_build (settings : Settings) :
    Outcome.FailsFirst (serviceShortages settings) (Compose.build settings) := by
  refine .cons (fault?_of_image _) fun postgres _ => ?_
  refine .cons (fault?_of_image _) fun guacd _ => ?_
  refine .cons (fault?_of_image _) fun application _ => ?_
  refine (failsFirst_broker settings).bind fun broker _ => ?_
  refine .cons (fault?_of_image _) fun proxy _ => ?_
  exact .cons (fault?_renewalServices settings) fun renewal _ => rfl

/-- The main configuration of the proxy can always be generated. -/
theorem fault?_proxyMain (settings : Settings) : Outcome.fault? (proxyMain settings) = none := by
  rw [proxyMain]
  cases settings.tls.profile with
  | modern => rfl
  | intermediate => rfl

/-- The virtual host misses a domain if a certificate is requested for it. -/
theorem fault?_virtualHost (settings : Settings) :
    Outcome.fault? (virtualHost settings) = requested? settings (undomained? settings) := by
  rw [virtualHost_eq, Outcome.fault?_map, Outcome.fault?_mapError, Proxy.VirtualHost.ofSettings,
    requested?]
  cases settings.tls.source with
  | selfSigned => rfl
  | letsEncrypt =>
    rw [if_pos rfl, undomained?, Settings.siteNames]
    cases settings.tls.domain with
    | none => rfl
    | some domain => rfl

/-- Where there is a virtual host, there is a script if it is needed. -/
theorem fault?_bootstrap {host : String} (h : virtualHost settings = .ok host) :
    Outcome.fault? (bootstrap settings) = none := by
  have hhost := fault?_virtualHost settings
  rw [h, requested?] at hhost
  cases hsource : settings.tls.source with
  | selfSigned =>
    rw [bootstrap, hsource]
    rfl
  | letsEncrypt =>
    rw [if_pos hsource, undomained?] at hhost
    rw [bootstrap_eq hsource, Settings.siteNames]
    cases hdomain : settings.tls.domain with
    | none =>
      rw [if_pos hdomain] at hhost
      cases hhost
    | some domain => rfl

/-- **Generating fails for want of the first thing that is missing**, and only then. -/
theorem failsFirst_synthesize (settings : Settings) :
    Outcome.FailsFirst (shortages settings) (synthesize settings) := by
  have hcompose : Outcome.FailsFirst (serviceShortages settings) (compose settings) :=
    (Outcome.fault?_map _ _).trans (failsFirst_build settings)
  refine hcompose.bind fun compose _ => ?_
  refine .skip (fault?_proxyMain settings) fun proxyMain _ => ?_
  refine .cons (fault?_virtualHost settings) fun host hhost => ?_
  exact .skip (fault?_bootstrap hhost) fun script _ => rfl

/-- Nothing is missing when all images are chosen, the group is known and there is a domain if it
is needed. -/
theorem exists_artifacts_iff :
    (∃ artifacts, synthesize settings = .ok artifacts) ↔
      (∀ component ∈ deployed settings, (settings.images.get component).tag ≠ none) ∧
        settings.runtime.group ≠ none ∧
        (settings.tls.source = .letsEncrypt → settings.tls.domain ≠ none) := by
  have hfirst : Outcome.fault? (synthesize settings) = (shortages settings).findSome? id :=
    failsFirst_synthesize settings
  have hunpinned : ∀ component, unpinned? settings component = none ↔
      (settings.images.get component).tag ≠ none := fun component => by simp [unpinned?]
  have hungrouped : ungrouped? settings = none ↔ settings.runtime.group ≠ none := by
    simp [ungrouped?]
  have hundomained : undomained? settings = none ↔ settings.tls.domain ≠ none := by
    simp [undomained?]
  rw [← Outcome.fault?_eq_none, hfirst, List.findSome?_eq_none_iff]
  simp only [shortages, serviceShortages, requested?, deployed, List.forall_mem_append,
    List.forall_mem_cons, List.not_mem_nil, false_imp_iff, implies_true, and_true, id]
  cases settings.tls.source with
  | selfSigned =>
    simp only [hunpinned, hungrouped, reduceCtorEq, if_false, false_imp_iff, and_true,
      List.not_mem_nil, implies_true]
    tauto
  | letsEncrypt =>
    simp only [hunpinned, hungrouped, hundomained, if_true, List.mem_singleton, forall_eq,
      forall_const]
    tauto

/-! ### Images -/

/-- What stands before and behind the last of some characters in a text. -/
def cutLast? (c : Char) (s : List Char) : Option (List Char × List Char) :=
  match s.rdropWhile (· ≠ c) with
  | [] => none
  | before => some (before.dropLast, s.rtakeWhile (· ≠ c))

/-- A text is cut where no later character is the one that is looked for. -/
theorem cutLast?_append {c : Char} {behind : List Char} (h : c ∉ behind) (before : List Char) :
    cutLast? c (before ++ c :: behind) = some (before, behind) := by
  have hreverse : (before ++ c :: behind).reverse = behind.reverse ++ c :: before.reverse := by
    simp
  have hother : ∀ x ∈ behind.reverse, decide (x ≠ c) = true := by
    intro x hx
    refine decide_eq_true fun heq => h ?_
    rw [← heq]
    exact List.mem_reverse.mp hx
  have hdrop : (before ++ c :: behind).rdropWhile (· ≠ c) = before ++ [c] := by
    rw [List.rdropWhile, hreverse, List.dropWhile_append_of_pos hother,
      List.dropWhile_cons_of_neg (by simp), List.reverse_cons, List.reverse_reverse]
  have htake : (before ++ c :: behind).rtakeWhile (· ≠ c) = behind := by
    rw [List.rtakeWhile, hreverse, List.takeWhile_append_of_pos hother,
      List.takeWhile_cons_of_neg (by simp), List.append_nil, List.reverse_reverse]
  rw [cutLast?, hdrop, htake]
  split
  · next hnil => simp at hnil
  · rw [List.dropLast_concat]

/-- The repository and the tag that the text of an image names. -/
def splitReference? (text : String) : Option (String × String) :=
  (cutLast? ':' text.toList).map fun (repository, tag) =>
    (String.ofList repository, String.ofList tag)

/-- A tag has no colon. -/
theorem colon_not_mem {tag : List Char} (h : isImageTag tag = true) : ':' ∉ tag := by
  cases tag with
  | nil => exact List.not_mem_nil
  | cons first rest =>
    simp only [isImageTag, Bool.and_eq_true, List.all_eq_true] at h
    obtain ⟨⟨hfirst, hrest⟩, -⟩ := h
    rw [List.mem_cons]
    rintro (rfl | hmem)
    · exact absurd hfirst (by decide)
    · exact absurd (hrest ':' hmem) (by decide)

/-- **The text of an image gives back its repository and its tag**, whatever the repository is. -/
theorem splitReference?_reference {tag : String} (h : isImageTag tag.toList = true)
    (repository : String) :
    splitReference? (repository ++ ":" ++ tag) = some (repository, tag) := by
  have htext : (repository ++ ":" ++ tag).toList = repository.toList ++ ':' :: tag.toList := by
    simp
  rw [splitReference?, htext, cutLast?_append (colon_not_mem h)]
  simp

variable {document : Value}

/-- An image has the configured repository, and the configured tag if it is one. -/
theorem image_of_readImage {component : Component} {image : Image}
    (h : readImage document component = .ok image) :
    image.repository =
        document.getTextD ("images." ++ component.key) component.defaultRepository ∧
      image.tag = document.getText? ("versions." ++ component.key) ∧
      ∀ tag, image.tag = some tag → isImageTag tag.toList = true := by
  rw [readImage] at h
  split at h
  · cases h
  · next hvalid =>
    cases h
    refine ⟨rfl, rfl, fun tag htag => ?_⟩
    simp only at htag
    rw [htag, Option.filter_some] at hvalid
    split_ifs at hvalid with hinvalid
    simpa using hinvalid

/-- A service that is built from an image has it, escaped. -/
theorem imageOf_of_service {component : Component} {service : Compose.Service}
    {make : String → Compose.Service} (hmake : ∀ image, (make image).image = escape image)
    (h : imageOf settings component >>= (fun image => pure (make image)) = .ok service) :
    ∃ reference, imageOf settings component = .ok reference ∧ service.image = escape reference := by
  obtain ⟨image, himage, h⟩ := Outcome.bind_eq_ok.mp h
  cases h
  exact ⟨image, himage, hmake image⟩

/-- **The services of a deployment run from the images of its components**, one from each. -/
theorem services_of_build {topology : Compose.Topology}
    (h : Compose.build settings = .ok topology) :
    topology.services.map Prod.fst = (deployed settings).map serviceOf ∧
      ∀ component ∈ deployed settings, ∃ service reference,
        topology.services.lookup (serviceOf component) = some service ∧
          imageOf settings component = .ok reference ∧ service.image = escape reference := by
  obtain ⟨services, rfl⟩ := Compose.exists_services h
  obtain ⟨postgres, hpostgres⟩ := imageOf_of_service (fun _ => rfl) services.postgres_eq
  obtain ⟨guacd, hguacd⟩ := imageOf_of_service (fun _ => rfl) services.guacd_eq
  obtain ⟨application, happlication⟩ := imageOf_of_service (fun _ => rfl) services.application_eq
  obtain ⟨proxy, hproxy⟩ := imageOf_of_service (fun _ => rfl) services.proxy_eq
  obtain ⟨broker, hbroker⟩ : ∃ reference,
      imageOf settings .broker = .ok reference ∧ services.broker.image = escape reference := by
    have hbuilt := services.broker_eq
    rw [Compose.broker] at hbuilt
    split at hbuilt
    · cases hbuilt
    · exact imageOf_of_service (fun _ => rfl) hbuilt
  have hfirst : ∀ component ∈ [Component.postgres, .guacd, .guacamole, .broker, .nginx],
      ∃ service reference, services.named.lookup (serviceOf component) = some service ∧
        imageOf settings component = .ok reference ∧ service.image = escape reference := by
    simp only [List.forall_mem_cons]
    exact ⟨⟨_, postgres, rfl, hpostgres⟩, ⟨_, guacd, rfl, hguacd⟩,
      ⟨_, application, rfl, happlication⟩, ⟨_, broker, rfl, hbroker⟩, ⟨_, proxy, rfl, hproxy⟩,
      List.forall_mem_nil _⟩
  rw [deployed]
  cases hsource : settings.tls.source with
  | selfSigned =>
    have hrenewal := services.renewal_eq
    rw [Compose.renewalServices_selfSigned hsource] at hrenewal
    refine ⟨?_, fun component hcomponent => hfirst component ?_⟩
    · rw [Compose.Services.topology, Compose.Services.named, ← Except.ok.inj hrenewal]
      rfl
    · rwa [List.append_nil] at hcomponent
  | letsEncrypt =>
    obtain ⟨service, hservice, hrenewal⟩ :=
      Compose.renewalServices_letsEncrypt hsource services.renewal_eq
    obtain ⟨reference, hreference⟩ := imageOf_of_service (fun _ => rfl) hservice
    refine ⟨?_, List.forall_mem_append.mpr ⟨hfirst, List.forall_mem_singleton.mpr
      ⟨service, reference, ?_, hreference⟩⟩⟩
    · rw [Compose.Services.topology, Compose.Services.named, hrenewal]
      rfl
    · rw [Compose.Services.topology, Compose.Services.named, hrenewal]
      rfl

/-! ### Settings that were read -/

/-- Settings with another group of the runtime's socket and another domain. -/
def withHost (settings : Settings) (group : Option Nat) (domain : Option String) : Settings :=
  { settings with
    runtime := { settings.runtime with group }
    tls := { settings.tls with domain } }

/-- **When artifacts are generated, and from which images they are.** For settings that were read,
with whatever group and domain, nothing is missing exactly when all images are chosen, there is a
group, and a domain if it is needed. Otherwise the first that is missing is reported, so that no
template is ever to blame. Each service runs from the image of its component: the text in the
compose file, read as it is meant and cut at its last colon, names the configured repository and the
configured tag. -/
theorem synthesize_complete {document : Value} {read : Settings} (group : Option Nat)
    (domain : Option String) (hread : Settings.ofDocument document = .ok read) :
    ((∃ artifacts, synthesize (withHost read group domain) = .ok artifacts) ↔
      (∀ component ∈ deployed read, document.getText? ("versions." ++ component.key) ≠ none) ∧
        group ≠ none ∧ (read.tls.source = .letsEncrypt → domain ≠ none)) ∧
    (∀ fault, synthesize (withHost read group domain) = .error fault ↔
      (shortages (withHost read group domain)).findSome? id = some fault) ∧
    (∀ fault, synthesize (withHost read group domain) ≠ .error (.generation (.template fault))) ∧
    ∀ artifacts, synthesize (withHost read group domain) = .ok artifacts →
      ∃ topology : Compose.Topology, artifacts.compose = topology.write ∧
        topology.services.map Prod.fst = (deployed read).map serviceOf ∧
        ∀ component ∈ deployed read, ∃ written reference tag,
          topology.node.at? ["services", .key (serviceOf component), "image"] =
              some (.text written) ∧
            Compose.literal? written = some reference ∧
            document.getText? ("versions." ++ component.key) = some tag ∧
            splitReference? reference =
              some (document.getTextD ("images." ++ component.key) component.defaultRepository,
                tag) := by
  have himages := (reads_of_ofDocument hread).images_eq
  have hfirst : Outcome.fault? (synthesize (withHost read group domain)) =
      (shortages (withHost read group domain)).findSome? id := failsFirst_synthesize _
  refine ⟨?_, fun fault => ?_, fun fault hfault => ?_, fun artifacts hartifacts => ?_⟩
  · have htag : ∀ component, ((withHost read group domain).images.get component).tag =
        document.getText? ("versions." ++ component.key) :=
      fun component => (image_of_readImage (himages component)).2.1
    rw [exists_artifacts_iff]
    simp only [htag]
    rfl
  · rw [← Outcome.fault?_eq_some, hfirst]
  · -- None of the faults that are listed is one of a template.
    rw [← Outcome.fault?_eq_some, hfirst] at hfault
    obtain ⟨shortage, hmem, heq⟩ := List.exists_of_findSome?_eq_some hfault
    simp only [id] at heq
    subst heq
    simp only [shortages, serviceShortages, requested?, unpinned?, ungrouped?, undomained?,
      List.cons_append, List.nil_append, List.mem_cons, List.not_mem_nil, or_false] at hmem
    rcases hmem with h | h | h | h | h | h | h | h
    all_goals
      split_ifs at h
      cases h
  · obtain ⟨compose, hcompose, hrest⟩ := Outcome.bind_eq_ok.mp hartifacts
    obtain ⟨main, -, hrest⟩ := Outcome.bind_eq_ok.mp hrest
    obtain ⟨host, -, hrest⟩ := Outcome.bind_eq_ok.mp hrest
    obtain ⟨script, -, hrest⟩ := Outcome.bind_eq_ok.mp hrest
    cases hrest
    obtain ⟨topology, hbuild, rfl⟩ := Outcome.map_eq_ok.mp hcompose
    obtain ⟨hnames, hservices⟩ := services_of_build hbuild
    refine ⟨topology, rfl, hnames, fun component hcomponent => ?_⟩
    obtain ⟨service, reference, hlookup, himage, hescaped⟩ := hservices component hcomponent
    obtain ⟨hrepository, htag, hvalid⟩ := image_of_readImage (himages component)
    obtain ⟨tag, hchosen, hreference⟩ := Option.map_eq_some_iff.mp (Compose.imageOf_eq_ok.mp himage)
    have hplaced : topology.node.at? ["services", .key (serviceOf component), "image"] =
        some (.text service.image) := Compose.at?_service hlookup ["image"]
    refine ⟨_, reference, tag, hplaced, Compose.literal?_eq_some_iff.mpr hescaped,
      htag ▸ hchosen, ?_⟩
    rw [← hreference, ← hrepository]
    exact splitReference?_reference (hvalid tag hchosen) _

/-- The artifacts of the sample site can be generated for another domain, and without a group that
is what is missing first. -/
theorem synthesize_complete_sample :
    (∃ artifacts, synthesize (withHost Sample.settings (some 5) (some "example.net")) =
      .ok artifacts) ∧
      synthesize (withHost Sample.settings none none) =
        .error (.config (.missing "docker.gid")) := by
  obtain ⟨hcomplete, -⟩ :=
    synthesize_complete (some 5) (some "example.net") Sample.ofDocument_document
  obtain ⟨-, hmissing, -⟩ := synthesize_complete none none Sample.ofDocument_document
  refine ⟨hcomplete.mpr ⟨?_, Option.some_ne_none _, fun _ => Option.some_ne_none _⟩,
    (hmissing _).mpr rfl⟩
  decide

end RemoteGateway.Deployment
