import Mathlib.Data.List.Basic
import RemoteGateway.Proofs.Document.Places
import RemoteGateway.Proofs.Settings.Footprint
import RemoteGateway.Proofs.Settings.SiteNames
import RemoteGateway.Proofs.Site.HostNames
import RemoteGateway.Proofs.Text.Trimming

/-!
# What is left of a domain

A configured domain loses the blanks around it, one scheme, the slashes it ends in and all
`www.` in front, each once and in this order. So the name that is left is not empty, and has
neither a slash at its end nor `www.` in front. But what is taken off later can uncover what was
looked for earlier: blanks, or one more scheme. A text `Exposes` such a name in three ways, and
exactly then the name is not **tidy**, and is not read back as itself (`domain_of_ofDocument`).
-/

namespace RemoteGateway

open Document (Value segments)
open Text (IsBare isBlank)

/-! ### Layers -/

/-- The schemes that are left off. -/
def IsScheme (s : List Char) : Prop :=
  s = "https://".toList ∨ s = "http://".toList

def BeginsWithScheme (s : List Char) : Prop :=
  ∃ scheme, IsScheme scheme ∧ scheme <+: s

/-- A domain without its scheme. -/
def withoutScheme (s : List Char) : List Char :=
  if "https://".toList.isPrefixOf s then s.drop "https://".toList.length
  else if "http://".toList.isPrefixOf s then s.drop "http://".toList.length
  else s

def dropSlashes (s : List Char) : List Char :=
  Text.dropEndWhile (· == '/') s

/-- `www.` some times over. -/
def wwws : Nat → List Char
  | 0 => []
  | count + 1 => 'w' :: 'w' :: 'w' :: '.' :: wwws count

/-- What a domain loses in front: at most one scheme, and then `www.` some times over. -/
def IsLead (s : List Char) : Prop :=
  ∃ scheme count, s = scheme ++ wwws count ∧ (scheme = [] ∨ IsScheme scheme)

/-- The name that is left of a domain without blanks around it. -/
def bareName (s : List Char) : List Char :=
  Site.dropWww (dropScheme s)

theorem bareName_eq (s : List Char) :
    bareName s = Site.dropWww (dropSlashes (withoutScheme s)) :=
  rfl

variable {s rest : List Char}

/-! ### Slashes -/

theorem exists_slashes (s : List Char) :
    ∃ slashes, s = dropSlashes s ++ slashes ∧ ∀ c ∈ slashes, c = '/' := by
  obtain ⟨slashes, hslashes, hall⟩ := Text.exists_dropped (· == '/') s
  exact ⟨slashes, hslashes, fun c hc => beq_iff_eq.mp (hall c hc)⟩

theorem dropSlashes_append_cons (front : List Char) {c : Char} (rest : List Char) (hc : c ≠ '/') :
    dropSlashes (front ++ c :: rest) = front ++ c :: dropSlashes rest :=
  Text.dropEndWhile_append_cons front rest (beq_eq_false_iff_ne.mpr hc)

theorem dropSlashes_append {slashes : List Char} (s : List Char) (h : ∀ c ∈ slashes, c = '/') :
    dropSlashes (s ++ slashes) = dropSlashes s :=
  Text.dropEndWhile_append slashes fun c hc => beq_iff_eq.mpr (h c hc)

theorem dropSlashes_eq_self (h : ∀ c, s.getLast? = some c → c ≠ '/') : dropSlashes s = s :=
  Text.dropEndWhile_eq_self fun c hc => beq_eq_false_iff_ne.mpr (h c hc)

theorem getLast?_dropSlashes {c : Char} (hc : (dropSlashes s).getLast? = some c) : c ≠ '/' := by
  have hnot : (c == '/') = false := Text.getLast_dropEndWhile (p := (· == '/')) hc
  exact beq_eq_false_iff_ne.mp hnot

/-! ### Schemes -/

theorem withoutScheme_append {scheme : List Char} (h : IsScheme scheme) (rest : List Char) :
    withoutScheme (scheme ++ rest) = rest := by
  rcases h with rfl | rfl <;> rfl

theorem withoutScheme_eq_self (h : ¬ BeginsWithScheme s) : withoutScheme s = s := by
  have hhttps : ¬ "https://".toList.isPrefixOf s = true := fun hprefix =>
    h ⟨_, .inl rfl, List.isPrefixOf_iff_prefix.mp hprefix⟩
  have hhttp : ¬ "http://".toList.isPrefixOf s = true := fun hprefix =>
    h ⟨_, .inr rfl, List.isPrefixOf_iff_prefix.mp hprefix⟩
  rw [withoutScheme, if_neg hhttps, if_neg hhttp]

theorem dropWww_wwws (count : Nat) (rest : List Char) :
    Site.dropWww (wwws count ++ rest) = Site.dropWww rest := by
  induction count with
  | zero => rfl
  | succ count ih => exact ih

theorem exists_wwws (s : List Char) : ∃ count, s = wwws count ++ Site.dropWww s := by
  fun_induction Site.dropWww s with
  | case1 rest ih =>
    obtain ⟨count, hcount⟩ := ih
    exact ⟨count + 1, congrArg ('w' :: 'w' :: 'w' :: '.' :: ·) hcount⟩
  | case2 s h => exact ⟨0, rfl⟩

/-- Slashes are dropped behind `www.`, not from it. -/
theorem dropSlashes_wwws (count : Nat) (rest : List Char) :
    dropSlashes (wwws count ++ rest) = wwws count ++ dropSlashes rest := by
  induction count with
  | zero => rfl
  | succ count ih =>
    have hstep : dropSlashes (['w', 'w', 'w'] ++ '.' :: (wwws count ++ rest)) =
        ['w', 'w', 'w'] ++ '.' :: dropSlashes (wwws count ++ rest) :=
      dropSlashes_append_cons _ _ (by decide)
    rw [ih] at hstep
    exact hstep

/-! ### What is left -/

/-- A domain is what it loses and the name that is left. -/
theorem exists_layers (s : List Char) :
    ∃ lead slashes, s = lead ++ (bareName s ++ slashes) ∧ IsLead lead ∧
      (∀ c ∈ slashes, c = '/') ∧ (lead = [] → ¬ BeginsWithScheme s) := by
  obtain ⟨slashes, hslashes, hall⟩ := exists_slashes (withoutScheme s)
  obtain ⟨count, hcount⟩ := exists_wwws (dropSlashes (withoutScheme s))
  have hrest : withoutScheme s = wwws count ++ (bareName s ++ slashes) := by
    rw [bareName_eq, ← List.append_assoc, ← hcount]
    exact hslashes
  by_cases hscheme : BeginsWithScheme s
  · obtain ⟨scheme, hs, rest, rfl⟩ := hscheme
    rw [withoutScheme_append hs] at hrest
    refine ⟨scheme ++ wwws count, slashes, ?_, ⟨scheme, count, rfl, .inr hs⟩, hall, fun hnil => ?_⟩
    · rw [List.append_assoc, ← hrest]
    · rw [(List.append_eq_nil_iff.mp hnil).1] at hs
      exact absurd hs (by rintro (h | h) <;> cases h)
  · refine ⟨wwws count, slashes, ?_, ⟨[], count, rfl, .inl rfl⟩, hall, fun _ => hscheme⟩
    rw [← hrest, withoutScheme_eq_self hscheme]

/-- Behind something that is left off, only slashes are. -/
theorem bareName_append {lead : List Char} (hlead : IsLead lead) (hne : lead ≠ [])
    (hwww : ¬ ['w', 'w', 'w', '.'] <+: rest) : bareName (lead ++ rest) = dropSlashes rest := by
  obtain ⟨scheme, count, rfl, hscheme⟩ := hlead
  have hrest : withoutScheme (scheme ++ wwws count ++ rest) = wwws count ++ rest := by
    rcases hscheme with rfl | hscheme
    · cases count with
      | zero => exact absurd rfl hne
      | succ count => rfl
    · rw [List.append_assoc, withoutScheme_append hscheme]
  obtain ⟨slashes, hslashes, -⟩ := exists_slashes rest
  rw [bareName_eq, hrest, dropSlashes_wwws, dropWww_wwws, Site.dropWww_eq_self_iff]
  exact fun hbegins => hwww (hbegins.trans ⟨slashes, hslashes.symm⟩)

theorem not_beginsWithWww_bareName (s : List Char) : ¬ ['w', 'w', 'w', '.'] <+: bareName s :=
  (Site.dropWww_eq_self_iff _).mp (Site.dropWww_dropWww _)

/-- The name that is left does not end in a slash. -/
theorem getLast?_bareName {c : Char} (hc : (bareName s).getLast? = some c) : c ≠ '/' := by
  obtain ⟨front, hfront⟩ := Site.dropWww_suffix (dropSlashes (withoutScheme s))
  refine getLast?_dropSlashes (s := withoutScheme s) ?_
  rw [← hfront, List.getLast?_append, ← bareName_eq, hc]
  rfl

/-- What ends in a name that is left and slashes, without its slashes. -/
theorem dropSlashes_bareName {slashes : List Char} (lead : List Char) (hne : bareName s ≠ [])
    (hslashes : ∀ c ∈ slashes, c = '/') :
    dropSlashes (lead ++ (bareName s ++ slashes)) = lead ++ bareName s := by
  rw [← List.append_assoc, dropSlashes_append _ hslashes]
  refine dropSlashes_eq_self fun c hc => ?_
  rw [List.getLast?_append_of_ne_nil _ hne] at hc
  exact getLast?_bareName hc

/-! ### Tidy names -/

/-- A name has no blanks around it, and no scheme. -/
structure IsTidy (s : List Char) : Prop where
  bare : IsBare isBlank s
  unschemed : ¬ BeginsWithScheme s

/-- A text uncovers what was looked for before. -/
inductive Exposes : List Char → Prop where
  /-- A blank behind what is left off in front. -/
  | blank {lead : List Char} {c : Char} {rest : List Char} (hlead : IsLead lead)
      (hne : lead ≠ []) (hc : isBlank c = true) : Exposes (lead ++ c :: rest)
  /-- A scheme behind what is left off in front. -/
  | scheme {lead scheme rest : List Char} (hlead : IsLead lead) (hne : lead ≠ [])
      (hscheme : IsScheme scheme) (hrest : ∃ c ∈ rest, c ≠ '/') : Exposes (lead ++ (scheme ++ rest))
  /-- A blank in front of the slashes at the end. -/
  | closing {front : List Char} {c : Char} {slashes : List Char} (hc : isBlank c = true)
      (hne : slashes ≠ []) (hslashes : ∀ d ∈ slashes, d = '/') : Exposes (front ++ c :: slashes)

/-- A name that begins with a scheme goes on behind its slashes. -/
theorem exists_ne_slash {scheme : List Char} (h : IsScheme scheme)
    (hname : scheme ++ rest = bareName s) : ∃ c ∈ rest, c ≠ '/' := by
  rcases List.eq_nil_or_concat' rest with rfl | ⟨front, c, rfl⟩
  · have hlast : (bareName s).getLast? = some '/' := by
      rw [← hname, List.append_nil]
      rcases h with rfl | rfl <;> rfl
    exact absurd rfl (getLast?_bareName hlast)
  · refine ⟨c, List.mem_append_right _ List.mem_cons_self, getLast?_bareName (s := s) ?_⟩
    rw [← hname, ← List.append_assoc, List.getLast?_concat]

/-- Without blanks behind what is left off and in front of the closing slashes, there are none
around the name. -/
theorem isBare_of_not_exposes (hbare : IsBare isBlank s) (h : ¬ Exposes s) :
    IsBare isBlank (bareName s) := by
  obtain ⟨lead, slashes, hs, hlead, hslashes, -⟩ := exists_layers s
  refine ⟨fun c hc => Bool.eq_false_iff.mpr fun hblank => ?_,
    fun c hc => Bool.eq_false_iff.mpr fun hblank => ?_⟩
  · -- The first character of the name is that of the text, or something was taken off before it.
    obtain ⟨rest, hrest⟩ := List.head?_eq_some_iff.mp hc
    rw [hrest] at hs
    by_cases hnil : lead = []
    · rw [hnil] at hs
      rw [hbare.head c (congrArg List.head? hs)] at hblank
      cases hblank
    · refine h ?_
      rw [hs]
      exact .blank hlead hnil hblank
  · -- The same holds for its last character and the slashes.
    obtain ⟨front, hfront⟩ := List.getLast?_eq_some_iff.mp hc
    rw [hfront, List.append_assoc, ← List.append_assoc] at hs
    by_cases hnil : slashes = []
    · have hlast : s.getLast? = some c := by
        rw [hs, hnil]
        exact List.getLast?_concat
      rw [hbare.last c hlast] at hblank
      cases hblank
    · refine h ?_
      rw [hs]
      exact .closing hblank hnil hslashes

/-- A text that uncovers nothing leaves a tidy name. -/
theorem isTidy_of_not_exposes (hbare : IsBare isBlank s) (h : ¬ Exposes s) :
    IsTidy (bareName s) := by
  refine ⟨isBare_of_not_exposes hbare h, ?_⟩
  rintro ⟨scheme, hkind, rest, hrest⟩
  obtain ⟨lead, slashes, hs, hlead, -, hscheme⟩ := exists_layers s
  by_cases hnil : lead = []
  · refine hscheme hnil ⟨scheme, hkind, rest ++ slashes, ?_⟩
    rw [← List.append_assoc, hrest]
    rw [hnil] at hs
    exact hs.symm
  · refine h ?_
    obtain ⟨c, hmem, hc⟩ := exists_ne_slash hkind hrest
    rw [hs, ← hrest, List.append_assoc]
    exact .scheme hlead hnil hkind ⟨c, List.mem_append_left _ hmem, hc⟩

theorem ne_of_isBlank {c : Char} (h : isBlank c = true) : c ≠ '/' ∧ c ≠ 'w' := by
  constructor <;> rintro rfl <;> cases h

/-- A blank behind what is left off is the first character of the name. -/
theorem bareName_blank {lead : List Char} {c : Char} (hlead : IsLead lead) (hne : lead ≠ [])
    (hc : isBlank c = true) : bareName (lead ++ c :: rest) = c :: dropSlashes rest := by
  obtain ⟨hslash, hletter⟩ := ne_of_isBlank hc
  have hwww : ¬ ['w', 'w', 'w', '.'] <+: c :: rest := fun hbegins =>
    hletter (List.cons_prefix_cons.mp hbegins).1.symm
  rw [bareName_append hlead hne hwww]
  exact dropSlashes_append_cons [] rest hslash

/-- A scheme behind what is left off is what the name begins with. -/
theorem bareName_scheme {lead scheme front : List Char} {c : Char} (hlead : IsLead lead)
    (hne : lead ≠ []) (hscheme : IsScheme scheme) (hc : c ≠ '/') :
    bareName (lead ++ (scheme ++ (front ++ c :: rest))) =
      scheme ++ (front ++ c :: dropSlashes rest) := by
  have hwww : ¬ ['w', 'w', 'w', '.'] <+: scheme ++ (front ++ c :: rest) := by
    intro hbegins
    rcases hscheme with rfl | rfl <;>
      exact absurd (List.cons_prefix_cons.mp hbegins).1 (by decide)
  rw [bareName_append hlead hne hwww, ← List.append_assoc, ← List.append_assoc,
    dropSlashes_append_cons _ _ hc]

/-- A blank in front of the closing slashes is the last character of the name. -/
theorem getLast?_bareName_closing {front slashes : List Char} {c : Char} (hc : isBlank c = true)
    (hslashes : ∀ d ∈ slashes, d = '/') (hne : bareName (front ++ c :: slashes) ≠ []) :
    (bareName (front ++ c :: slashes)).getLast? = some c := by
  obtain ⟨lead, others, hs, -, hothers, -⟩ := exists_layers (front ++ c :: slashes)
  -- Without its slashes, the text ends in the blank and in the name that is left.
  have hsame : lead ++ bareName (front ++ c :: slashes) = front ++ [c] := by
    rw [← dropSlashes_bareName lead hne hothers, ← hs,
      dropSlashes_append_cons _ _ (ne_of_isBlank hc).1]
    exact congrArg (front ++ c :: ·) (dropSlashes_append [] hslashes)
  rw [← List.getLast?_append_of_ne_nil lead hne, hsame, List.getLast?_concat]

/-- A text that uncovers something does not. -/
theorem not_isTidy_of_exposes (h : Exposes s) (hne : bareName s ≠ []) : ¬ IsTidy (bareName s) := by
  intro htidy
  cases h with
  | @blank lead c rest hlead hnil hc =>
    rw [bareName_blank hlead hnil hc] at htidy
    rw [htidy.bare.head c rfl] at hc
    cases hc
  | @scheme lead scheme rest hlead hnil hscheme hrest =>
    obtain ⟨c, hmem, hc⟩ := hrest
    obtain ⟨front, behind, rfl⟩ := List.append_of_mem hmem
    exact htidy.unschemed ⟨scheme, hscheme, _, (bareName_scheme hlead hnil hscheme hc).symm⟩
  | @closing front c slashes hc hnil hslashes =>
    rw [htidy.bare.last c (getLast?_bareName_closing hc hslashes hne)] at hc
    cases hc

/-- **A name is tidy exactly when nothing was uncovered.** -/
theorem isTidy_bareName_iff (hbare : IsBare isBlank s) (hne : bareName s ≠ []) :
    IsTidy (bareName s) ↔ ¬ Exposes s :=
  ⟨fun htidy h => not_isTidy_of_exposes h hne htidy, isTidy_of_not_exposes hbare⟩

/-- **A name is left as it is exactly when it is tidy.** -/
theorem bareName_trim_eq_self_iff (s : List Char) :
    bareName (Text.trim (bareName s)) = bareName s ↔ IsTidy (bareName s) := by
  constructor
  · intro h
    obtain ⟨lead, slashes, hlayers, -, -, hscheme⟩ := exists_layers (Text.trim (bareName s))
    rw [h] at hlayers
    have hlength : (Text.trim (bareName s)).length ≤ (bareName s).length :=
      Text.length_trimWhere_le isBlank (bareName s)
    rw [hlayers, List.length_append, List.length_append] at hlength
    have hlead : lead = [] := List.eq_nil_of_length_eq_zero (by omega)
    have hslashes : slashes = [] := List.eq_nil_of_length_eq_zero (by omega)
    have htrim : Text.trim (bareName s) = bareName s := by
      rw [hlayers, hlead, hslashes, List.append_nil]
      rfl
    have hbare : IsBare isBlank (Text.trim (bareName s)) := Text.isBare_trimWhere isBlank _
    have hunschemed := hscheme hlead
    rw [htrim] at hbare hunschemed
    exact ⟨hbare, hunschemed⟩
  · intro htidy
    have htrim : Text.trim (bareName s) = bareName s := Text.trimWhere_eq_self htidy.bare
    rw [htrim, bareName_eq, withoutScheme_eq_self htidy.unschemed,
      dropSlashes_eq_self fun c hc => getLast?_bareName hc, Site.dropWww_eq_self_iff]
    exact not_beginsWithWww_bareName s

/-! ### The domain of a document -/

/-- What a text is cleaned to. -/
theorem cleanDomain_eq_some_iff {text domain : String} :
    cleanDomain text = some domain ↔
      domain ≠ "" ∧ domain.toList = bareName (Text.trim text.toList) := by
  have hname : Site.normalize (String.ofList (dropScheme (Text.trim text.toList))) =
      String.ofList (bareName (Text.trim text.toList)) := by
    rw [Site.normalize, String.toList_ofList, bareName]
  rw [cleanDomain, hname]
  generalize bareName (Text.trim text.toList) = name
  split
  · next hempty =>
    refine iff_of_false (Option.some_ne_none domain).symm fun hdomain => hdomain.1 ?_
    rw [← hempty, ← hdomain.2, String.ofList_toList]
  · next hne =>
    constructor
    · intro h
      cases h
      exact ⟨hne, String.toList_ofList⟩
    · rintro ⟨-, rfl⟩
      rw [String.ofList_toList]

/-- A domain that was left is cleaned to itself exactly when it is tidy. -/
theorem cleanDomain_eq_self_iff {text domain : String} (h : cleanDomain text = some domain) :
    cleanDomain domain = some domain ↔ IsTidy domain.toList := by
  obtain ⟨hne, hname⟩ := cleanDomain_eq_some_iff.mp h
  rw [cleanDomain_eq_some_iff, and_iff_right hne, hname, ← bareName_trim_eq_self_iff, eq_comm]

variable {document : Value} {settings : Settings}

/-- Putting another text in place of the domain changes no other text. -/
theorem agreeOn_store_domain (document new : Value) :
    AgreeOn (document.store new (segments "ssl.domain")) document keysApartFromDomain := by
  intro key hkey
  obtain ⟨hmem, hne⟩ := List.mem_filter.mp hkey
  exact Document.getText?_store_of_apart document new
    (apart_of_recognised (by decide) hmem (bne_iff_ne.mp hne).symm)

/-- **The domain of settings** is not empty, has no `www.` in front and no slash at its end. It is
tidy exactly when the configured text uncovers nothing. When it is, putting it in place of that
text gives the same settings; when it is not, the domain that is read back is another one, if
any. -/
theorem domain_of_ofDocument (h : Settings.ofDocument document = .ok settings) {domain : String}
    (hdomain : settings.tls.domain = some domain) :
    domain ≠ "" ∧ ¬ Site.BeginsWithWww domain ∧ ¬ ['/'] <:+ domain.toList ∧
      ∃ text, document.getText? "ssl.domain" = some text ∧
        (IsTidy domain.toList ↔ ¬ Exposes (Text.trim text.toList)) ∧
        (¬ Exposes (Text.trim text.toList) →
          Settings.ofDocument (document.store (.text domain) (segments "ssl.domain")) =
            .ok settings) ∧
        (Exposes (Text.trim text.toList) → ∀ same,
          Settings.ofDocument (document.store (.text domain) (segments "ssl.domain")) = .ok same →
            same.tls.domain ≠ some domain) := by
  obtain ⟨text, htext, hclean⟩ := exists_text_of_ofDocument h hdomain
  obtain ⟨hne, hname⟩ := cleanDomain_eq_some_iff.mp hclean
  have hbare : IsBare isBlank (Text.trim text.toList) := Text.isBare_trimWhere isBlank _
  have htidy : IsTidy domain.toList ↔ ¬ Exposes (Text.trim text.toList) := by
    rw [hname]
    exact isTidy_bareName_iff hbare fun hnil => hne (String.toList_eq_nil_iff.mp (hname.trans hnil))
  have hstored : (document.store (.text domain) (segments "ssl.domain")).getText? "ssl.domain" =
      some domain := Document.getText?_store_self document hne
  refine ⟨hne, ?_, ?_, text, htext, htidy, fun hexposes => ?_, fun hexposes same hsame hback => ?_⟩
  · rw [Site.BeginsWithWww, hname]
    exact not_beginsWithWww_bareName _
  · rintro ⟨front, hfront⟩
    rw [hname] at hfront
    refine getLast?_bareName (s := Text.trim text.toList) ?_ rfl
    rw [← hfront, List.getLast?_concat]
  · have hself : cleanDomain domain = some domain :=
      (cleanDomain_eq_self_iff hclean).mpr (htidy.mpr hexposes)
    rw [← h]
    refine ofDocument_congr_of_domain (agreeOn_store_domain document _) ?_
    rw [hstored, htext, Option.bind_some, Option.bind_some, hself, hclean]
  · have hread := (reads_of_ofDocument hsame).domain_eq
    rw [hback, hstored, Option.bind_some] at hread
    exact htidy.mp ((cleanDomain_eq_self_iff hclean).mp hread.symm) hexposes

/-- The configuration of the sample site with a domain that has two schemes. -/
def schemesDocument : Value :=
  Sample.document.store (.text "https://http://example.org") (segments "ssl.domain")

/-- The settings that are read from it. -/
def schemesSettings : Settings :=
  { Sample.settings with tls := { Sample.settings.tls with domain := some "http://example.org" } }

/-- One of the schemes is left, and would be lost if the domain were read again. -/
theorem domain_of_schemesDocument :
    Settings.ofDocument schemesDocument = .ok schemesSettings ∧
      schemesSettings.tls.domain = some "http://example.org" ∧
      ¬ IsTidy "http://example.org".toList ∧
      ∀ same, Settings.ofDocument
          (schemesDocument.store (.text "http://example.org") (segments "ssl.domain")) = .ok same →
        same.tls.domain ≠ some "http://example.org" := by
  have hread : Settings.ofDocument schemesDocument = .ok schemesSettings := rfl
  have hscheme : BeginsWithScheme "http://example.org".toList :=
    ⟨_, .inr rfl, "example.org".toList, rfl⟩
  have huntidy : ¬ IsTidy "http://example.org".toList := fun htidy => htidy.unschemed hscheme
  obtain ⟨-, -, -, text, -, htidy, -, hback⟩ := domain_of_ofDocument hread rfl
  exact ⟨hread, rfl, huntidy, hback (not_not.mp fun hnot => huntidy (htidy.mpr hnot))⟩

end RemoteGateway
