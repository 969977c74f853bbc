import RemoteGateway.Proofs.Settings.Footprint
import RemoteGateway.Proofs.Site.Domains

/-!
# The names of a configured site

The domain of settings that were read is there and has lost its leading `www.`, and the label of
a subdomain consists of the characters of host names. The names of a site are therefore never
empty, and they contain only such characters as the domain does and host names do
(`names_of_ofDocument`).
-/

namespace RemoteGateway

open Document (Value)

variable {document : Value} {settings : Settings}

/-- The second name of a site is the first one with `www.` in front, however the site is
reached. -/
theorem siteNames_eq_ofBase {names : Site.Names}
    (h : settings.siteNames = some names) : names = .ofBase names.canonical := by
  obtain ⟨domain, -, rfl⟩ := Option.map_eq_some_iff.mp h
  rcases settings.proxy.exposure with _ | _ | _ <;> rfl

theorem aliasName_eq {names : Site.Names} (h : settings.siteNames = some names) :
    names.aliasName = "www." ++ names.canonical := by
  rw [siteNames_eq_ofBase h]
  rfl

theorem length_aliasName {names : Site.Names} (h : settings.siteNames = some names) :
    names.aliasName.length = 4 + names.canonical.length := by
  rw [aliasName_eq h, String.length_append]
  rfl

theorem aliasName_ne_empty {names : Site.Names} (h : settings.siteNames = some names) :
    names.aliasName ≠ "" := by
  intro hempty
  have hlength := length_aliasName h
  have hzero : "".length = 0 := rfl
  rw [hempty] at hlength
  omega

/-- The two names of a site are never the same. -/
theorem aliasName_ne_canonical {names : Site.Names} (h : settings.siteNames = some names) :
    names.aliasName ≠ names.canonical := by
  intro hsame
  have hlength := length_aliasName h
  rw [hsame] at hlength
  omega

/-- The settings hold the exposure and the domain that the document describes. -/
theorem exposure_of_ofDocument (h : Settings.ofDocument document = .ok settings) :
    readExposure document = .ok settings.proxy.exposure ∧
      settings.tls.domain = (document.getText? "ssl.domain").bind cleanDomain :=
  ⟨(reads_of_ofDocument h).exposure_eq, (reads_of_ofDocument h).domain_eq⟩

/-- The text that the domain of settings is left of. -/
theorem exists_text_of_ofDocument (h : Settings.ofDocument document = .ok settings)
    {domain : String} (hdomain : settings.tls.domain = some domain) :
    ∃ text, document.getText? "ssl.domain" = some text ∧ cleanDomain text = some domain := by
  obtain ⟨-, hread⟩ := exposure_of_ofDocument h
  rw [hdomain] at hread
  exact Option.bind_eq_some_iff.mp hread.symm

/-- A domain that is left has no more to lose. -/
theorem normalize_of_cleanDomain {text domain : String} (h : cleanDomain text = some domain) :
    Site.normalize domain = domain ∧ domain ≠ "" := by
  -- The text without its scheme is given a name, lest it be unfolded.
  obtain ⟨raw, hraw⟩ : ∃ raw, String.ofList (dropScheme (Text.trim text.toList)) = raw :=
    ⟨_, rfl⟩
  have hclean : (if Site.normalize raw = "" then none else some (Site.normalize raw)) =
      some domain := by
    rw [← h, cleanDomain, hraw]
  split at hclean
  · cases hclean
  · next hne =>
    obtain rfl := Option.some.inj hclean
    exact ⟨Site.normalize_normalize raw, hne⟩

/-- A label that was read consists of the characters of host names. -/
theorem isHostChar_of_readLabel {text label : String} (h : readLabel text = .ok label) :
    ∀ c ∈ label.toList, isHostChar c = true := by
  rw [readLabel] at h
  split at h
  · next hlabel =>
    cases h
    rw [String.toList_ofList]
    exact List.all_eq_true.mp hlabel.2
  · cases h

theorem isHostChar_of_ofDocument (h : Settings.ofDocument document = .ok settings)
    {label : String} (hexposure : settings.proxy.exposure = .subdomain label) :
    ∀ c ∈ label.toList, isHostChar c = true := by
  obtain ⟨hread, -⟩ := exposure_of_ofDocument h
  rw [readExposure, hexposure] at hread
  split at hread
  · obtain ⟨_, -, hpath⟩ := Outcome.map_eq_ok.mp hread
    cases hpath
  · cases hread
  · obtain ⟨_, hlabel, hsame⟩ := Outcome.map_eq_ok.mp hread
    cases hsame
    exact isHostChar_of_readLabel (Outcome.mapError_eq_ok.mp hlabel)
  · cases hread

/-- The characters of host names lie between the hyphen and the small letters. -/
theorem toNat_of_isHostChar {c : Char} (h : isHostChar c = true) :
    45 ≤ c.toNat ∧ c.toNat ≤ 122 ∧ c.toNat ≠ 59 := by
  rw [isHostChar, Bool.or_eq_true, Bool.or_eq_true, beq_iff_eq, beq_iff_eq] at h
  rcases h with (halphanum | rfl) | rfl
  · have hkind : ((c.isUpper || c.isLower) || c.isDigit) = true := halphanum
    rw [Bool.or_eq_true, Bool.or_eq_true] at hkind
    rcases hkind with (hupper | hlower) | hdigit
    · obtain ⟨hlow, hhigh⟩ : 65 ≤ c.toNat ∧ c.toNat ≤ 90 := of_decide_eq_true hupper
      omega
    · obtain ⟨hlow, hhigh⟩ := (Bool.and_eq_true _ _).mp hlower
      have hlow : 97 ≤ c.toNat := of_decide_eq_true hlow
      have hhigh : c.toNat ≤ 122 := of_decide_eq_true hhigh
      omega
    · obtain ⟨hlow, hhigh⟩ : 48 ≤ c.toNat ∧ c.toNat ≤ 57 := Char.isDigit_iff_toNat.mp hdigit
      omega
  · decide
  · decide

/-- A character of host names ends neither a word nor a directive. -/
theorem isUnusable_of_isHostChar {c : Char} (h : isHostChar c = true) :
    Site.isUnusable c = false := by
  obtain ⟨hlow, hhigh, hsemicolon⟩ := toNat_of_isHostChar h
  have hmark : c ≠ ';' ∧ c ≠ '\x7b' ∧ c ≠ '\x7d' := by
    refine ⟨?_, ?_, ?_⟩ <;> rintro rfl
    · exact hsemicolon rfl
    · exact absurd hhigh (by decide)
    · exact absurd hhigh (by decide)
  have hblank : Text.isBlank c = false := by
    simp only [Text.isBlank, Bool.or_eq_false_iff, beq_eq_false_iff_ne,
      Bool.and_eq_false_iff, decide_eq_false_iff_not]
    omega
  rw [Site.isUnusable, hblank]
  simp [hmark]

/-- **The canonical name of a site** is not empty, and all its characters can stand in a
directive when those of the domain can. -/
theorem canonical_of_ofDocument (h : Settings.ofDocument document = .ok settings)
    {names : Site.Names} (hnames : settings.siteNames = some names)
    (hdomain : ∀ domain, settings.tls.domain = some domain →
      ∀ c ∈ domain.toList, Site.isUnusable c = false) :
    names.canonical ≠ "" ∧ ∀ c ∈ names.canonical.toList, Site.isUnusable c = false := by
  rw [Settings.siteNames, Option.map_eq_some_iff] at hnames
  obtain ⟨domain, hset, rfl⟩ := hnames
  obtain ⟨text, -, hclean⟩ := exists_text_of_ofDocument h hset
  obtain ⟨hnormal, hne⟩ := normalize_of_cleanDomain hclean
  have hchars := hdomain domain hset
  cases hexposure : settings.proxy.exposure with
  | path base =>
    rw [Site.names, Site.Names.ofBase, hnormal]
    exact ⟨hne, hchars⟩
  | root =>
    rw [Site.names, Site.Names.ofBase, hnormal]
    exact ⟨hne, hchars⟩
  | subdomain label =>
    have hlabel := isHostChar_of_ofDocument h hexposure
    rw [Site.names, Site.Names.ofBase, hnormal]
    have hlist : (label ++ "." ++ domain).toList = label.toList ++ ('.' :: domain.toList) := by
      rw [String.toList_append, String.toList_append, List.append_assoc]
      rfl
    constructor
    · intro hempty
      have hnil := congrArg String.toList hempty
      rw [hlist] at hnil
      exact List.append_ne_nil_of_right_ne_nil _ (List.cons_ne_nil _ _) hnil
    · intro c hc
      rw [hlist] at hc
      rcases List.mem_append.mp hc with hc | hc
      · exact isUnusable_of_isHostChar (hlabel c hc)
      · rcases List.mem_cons.mp hc with rfl | hc
        · rfl
        · exact hchars c hc

end RemoteGateway
