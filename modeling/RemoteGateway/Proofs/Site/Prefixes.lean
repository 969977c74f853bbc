import RemoteGateway.Proofs.Settings.Cleaning

/-!
# Prefixed names

A name can stand behind `www.` any number of times. Of such a text `normalize` leaves the name,
unless that begins with `www.` itself; so every text is in exactly one way a run of `www.` and a
name that does not begin with it (`normalize_eq_iff`), and the names of a site are the same however
often its domain was prefixed (`names_prefixed`).
-/

namespace RemoteGateway.Site

/-- A name behind `www.` some times over. -/
def prefixed : Nat → String → String
  | 0, name => name
  | count + 1, name => "www." ++ prefixed count name

variable (count : Nat) (name domain : String)

theorem toList_prefixed : (prefixed count name).toList = wwws count ++ name.toList := by
  induction count with
  | zero => rfl
  | succ count ih =>
    rw [prefixed, String.toList_append, ih]
    rfl

theorem length_prefixed : (prefixed count name).length = 4 * count + name.length := by
  induction count with
  | zero => rw [prefixed, Nat.mul_zero, Nat.zero_add]
  | succ count ih =>
    have hwww : "www.".length = 4 := rfl
    rw [prefixed, String.length_append, ih]
    omega

/-- The number of prefixes can be told from the text. -/
theorem prefixed_inj {count other : Nat} :
    prefixed count name = prefixed other name ↔ count = other := by
  refine ⟨fun h => ?_, fun h => h ▸ rfl⟩
  have hlength := congrArg String.length h
  rw [length_prefixed, length_prefixed] at hlength
  omega

/-! ### What is left -/

theorem normalize_prefixed : normalize (prefixed count name) = normalize name := by
  induction count with
  | zero => rfl
  | succ count ih => rw [prefixed, normalize_www, ih]

/-- The name that is left is not prefixed. -/
theorem not_beginsWithWww_normalize : ¬ BeginsWithWww (normalize domain) :=
  (normalize_eq_self_iff _).mp (normalize_normalize domain)

/-- Nothing but prefixes is left off. -/
theorem exists_eq_prefixed : ∃ count, domain = prefixed count (normalize domain) := by
  obtain ⟨count, hcount⟩ := exists_wwws domain.toList
  refine ⟨count, String.toList_injective ?_⟩
  rw [toList_prefixed, normalize, String.toList_ofList]
  exact hcount

/-- **The name that is left** is the only one that is not prefixed and of which the domain is a
prefixed form. -/
theorem normalize_eq_iff :
    normalize domain = name ↔ ¬ BeginsWithWww name ∧ ∃ count, domain = prefixed count name := by
  constructor
  · rintro rfl
    exact ⟨not_beginsWithWww_normalize domain, exists_eq_prefixed domain⟩
  · rintro ⟨hname, count, rfl⟩
    rw [normalize_prefixed, normalize_eq_self_iff]
    exact hname

/-! ### The names of a site -/

/-- The names of a site depend on the name that is left of its domain alone. -/
theorem names_eq_of_normalize_eq {domain other : String} (h : normalize domain = normalize other)
    (exposure : Exposure) : names domain exposure = names other exposure := by
  rcases exposure with _ | _ | label
  all_goals rw [names, names, h]

/-- Either name of a site has the same name left as its base. -/
theorem normalize_of_mem_list {base : String} (h : name ∈ (Names.ofBase base).list) :
    normalize name = normalize base := by
  rcases List.mem_pair.mp h with rfl | rfl
  · rfl
  · exact normalize_www base

/-- The certificate is requested for the name its directory is called after, and for the same name
with `www.` in front. -/
theorem list_names (exposure : Exposure) :
    (names domain exposure).list =
      [(names domain exposure).certificateDirectory,
        "www." ++ (names domain exposure).certificateDirectory] := by
  rcases exposure with _ | _ | label <;> rfl

/-- **Prefixes do not count.** A domain is in exactly one way a run of `www.` in front of what is
left of it, and nothing more is left off that. Both names of the site that is called so have it
left, and the names of any site are the same when its domain is prefixed more often. -/
theorem names_prefixed (domain : String) :
    (∃! count, domain = prefixed count (normalize domain) ∧ ¬ BeginsWithWww (normalize domain)) ∧
      normalize (normalize domain) = normalize domain ∧
      (∀ name ∈ (Names.ofBase (normalize domain)).list, normalize name = normalize domain) ∧
      ∀ count exposure,
        names (prefixed count domain) exposure = names domain exposure ∧
          (names domain exposure).list =
            [(names domain exposure).certificateDirectory,
              "www." ++ (names domain exposure).certificateDirectory] := by
  have hunique : ∃! count,
      domain = prefixed count (normalize domain) ∧ ¬ BeginsWithWww (normalize domain) := by
    obtain ⟨count, hcount⟩ := exists_eq_prefixed domain
    refine ⟨count, ⟨hcount, not_beginsWithWww_normalize domain⟩, fun other hother => ?_⟩
    exact (prefixed_inj (normalize domain)).mp (hother.1.symm.trans hcount)
  refine ⟨hunique, normalize_normalize domain, fun name hname => ?_, fun count exposure => ?_⟩
  · exact (normalize_of_mem_list name hname).trans (normalize_normalize domain)
  · exact ⟨names_eq_of_normalize_eq (normalize_prefixed count domain) exposure,
      list_names domain exposure⟩

/-- A fourth `w` in front keeps a domain from losing anything. -/
example : normalize "wwww.example.org" = "wwww.example.org" ∧ normalize "www.www." = "" := by
  decide

end RemoteGateway.Site
