import RemoteGateway.Proofs.Settings.Footprint
import RemoteGateway.Proofs.Settings.SiteNames
import RemoteGateway.Proofs.Site.HostNames

/-!
# The names of a site below a label

In subdomain mode the label stands in front of the domain, and `www.` in front of both. What was
accepted as a label has only the characters of host names, so both names of the site are host
names exactly when none of the label's own labels is empty. The label is joined as it was read: one
that is `www`, or begins with `www.`, comes back in the canonical name, although the domain itself
has lost its own (`names_of_subdomain`).
-/

namespace RemoteGateway

open Document (Value)

variable {document : Value} {settings : Settings}

/-- In subdomain mode there is a label, and it was read from the document. -/
theorem exists_label (h : Settings.ofDocument document = .ok settings)
    (hmode : settings.proxy.exposure.mode = "subdomain") :
    ∃ label, settings.proxy.exposure = .subdomain label ∧
      readKey document "nginx.subdomain" "guacamole" readLabel = .ok label := by
  have hread := (reads_of_ofDocument h).exposure_eq
  cases hexposure : settings.proxy.exposure with
  | path | root =>
    rw [hexposure] at hmode
    exact absurd hmode (by simp [Site.Exposure.mode])
  | subdomain label =>
    rw [hexposure] at hread
    exact ⟨label, rfl, subdomain_of_readExposure hread⟩

/-- The domain of settings that were read has no `www.` in front. -/
theorem normalize_of_ofDocument (h : Settings.ofDocument document = .ok settings) {domain : String}
    (hdomain : settings.tls.domain = some domain) : Site.normalize domain = domain := by
  obtain ⟨text, -, hclean⟩ := exists_text_of_ofDocument h hdomain
  exact (normalize_of_cleanDomain hclean).1

/-- What was accepted as a label is a host name exactly when it has no empty label. -/
theorem isHostName_of_readLabel {text label : String} (h : readLabel text = .ok label) :
    Site.IsHostName label ↔ [] ∉ Site.labels label := by
  refine Site.isHostName_iff_nil_not_mem label fun c hc => ?_
  have hchar := isHostChar_of_readLabel h c hc
  rwa [isHostChar, Bool.or_eq_true, Bool.or_eq_true, beq_iff_eq, beq_iff_eq] at hchar

/-- **The names of a site below a label.** The canonical one is the label in front of the domain,
and the other one has `www.` in front of that. Both are host names for every label that is
accepted and has no empty label. The canonical name does not begin with `www.`, and is the normal
form of the other one, for all labels but `www` and those that begin with `www.`. -/
theorem names_of_subdomain (h : Settings.ofDocument document = .ok settings)
    (hmode : settings.proxy.exposure.mode = "subdomain") {domain : String}
    (hdomain : settings.tls.domain = some domain) (hhost : Site.IsHostName domain) :
    ∃ label names,
      readKey document "nginx.subdomain" "guacamole" readLabel = .ok label ∧
      settings.siteNames = some names ∧
      names.canonical = label ++ "." ++ domain ∧
      names.aliasName = "www." ++ names.canonical ∧
      (Site.IsHostName names.canonical ↔ [] ∉ Site.labels label) ∧
      (Site.IsHostName names.aliasName ↔ [] ∉ Site.labels label) ∧
      (¬ Site.BeginsWithWww names.canonical ↔ ¬ (label = "www" ∨ Site.BeginsWithWww label)) ∧
      (Site.normalize names.aliasName = names.canonical ↔
        ¬ (label = "www" ∨ Site.BeginsWithWww label)) := by
  obtain ⟨label, hexposure, hlabel⟩ := exists_label h hmode
  have hnames : settings.siteNames = some (.ofBase (label ++ "." ++ domain)) := by
    rw [Settings.siteNames, hdomain, hexposure, Option.map_some, Site.names,
      normalize_of_ofDocument h hdomain]
  have hcanonical : Site.IsHostName (label ++ "." ++ domain) ↔ [] ∉ Site.labels label := by
    rw [Site.isHostName_join, and_iff_left hhost,
      isHostName_of_readLabel (Outcome.mapError_eq_ok.mp hlabel)]
  have hwww := not_congr (Site.beginsWithWww_join label domain)
  refine ⟨label, _, hlabel, hnames, rfl, rfl, hcanonical, ?_, hwww, ?_⟩
  · exact (Site.isHostName_www _).trans hcanonical
  · rw [Site.Names.ofBase, Site.normalize_www, Site.normalize_eq_self_iff]
    exact hwww

/-- The configuration of the sample site in subdomain mode with a given label. -/
def labelledDocument (label : String) : Value :=
  (Sample.document.store (.text "subdomain") ["nginx", "url_mode"]).store (.text label)
    ["nginx", "subdomain"]

/-- The sample site below a label. -/
def labelledSettings (label : String) : Settings :=
  { Sample.settings with proxy := { Sample.settings.proxy with exposure := .subdomain label } }

/-- Below `www`, the canonical name of the sample site is one that `normalize` would change; below
a label with two dots in a row, it is not a host name. -/
theorem names_below_www :
    (Settings.ofDocument (labelledDocument "www") = .ok (labelledSettings "www") ∧
      (labelledSettings "www").proxy.exposure.mode = "subdomain" ∧
      (labelledSettings "www").tls.domain = some "example.org" ∧
      Site.IsHostName "example.org" ∧
      (labelledSettings "www").siteNames = some ⟨"www.example.org", "www.www.example.org"⟩ ∧
      Site.BeginsWithWww "www.example.org" ∧
      Site.normalize "www.www.example.org" ≠ "www.example.org") ∧
    (Settings.ofDocument (labelledDocument "portal..desk") =
        .ok (labelledSettings "portal..desk") ∧
      (labelledSettings "portal..desk").siteNames =
        some ⟨"portal..desk.example.org", "www.portal..desk.example.org"⟩ ∧
      ¬ Site.IsHostName "portal..desk.example.org") := by
  exact ⟨⟨rfl, rfl, rfl, by decide, rfl, by decide, by decide⟩, rfl, rfl, by decide⟩

/-- Below `portal`, all is well. -/
theorem names_below_portal :
    ∃ names, (labelledSettings "portal").siteNames = some names ∧
      Site.IsHostName names.canonical ∧ Site.IsHostName names.aliasName ∧
      Site.normalize names.aliasName = names.canonical := by
  have hread : Settings.ofDocument (labelledDocument "portal") = .ok (labelledSettings "portal") :=
    rfl
  obtain ⟨label, names, hlabel, hnames, -, -, hcanonical, halias, -, hnormal⟩ :=
    names_of_subdomain hread rfl rfl (by decide)
  cases hlabel
  have hparts : [] ∉ Site.labels "portal" := by decide
  exact ⟨names, hnames, hcanonical.mpr hparts, halias.mpr hparts, hnormal.mpr (by decide)⟩

end RemoteGateway
