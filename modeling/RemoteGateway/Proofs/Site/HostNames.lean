import RemoteGateway.Proofs.Site.Domains
import RemoteGateway.Proofs.Text.Splitting

/-!
# Host names

A **host name** consists of labels with dots between them. Joining two names with a dot joins
their labels, so the result is a host name exactly when both of them are (`isHostName_join`). A
text that has only the characters of host names fails to be one by empty labels alone
(`isHostName_iff_nil_not_mem`).

Nothing is left off a name by `normalize` exactly when it does not begin with `www.`
(`normalize_eq_self_iff`). A name with a label in front of it begins so when the label does, or
is `www` itself (`beginsWithWww_join`).
-/

namespace RemoteGateway.Site

/-! ### Labels -/

/-- The labels of a name: what stands between its dots. -/
def labels (name : String) : List (List Char) :=
  name.toList.splitOn '.'

/-- A name whose labels are not empty and consist of ASCII letters, digits and hyphens. -/
def IsHostName (name : String) : Prop :=
  ∀ label ∈ labels name, label ≠ [] ∧ ∀ c ∈ label, c.isAlphanum ∨ c = '-'

instance (name : String) : Decidable (IsHostName name) :=
  decidable_of_iff
    ((labels name).all fun label => !label.isEmpty && label.all fun c => c.isAlphanum || c == '-')
    (by simp [IsHostName])

variable (label name : String)

theorem toList_join : (label ++ "." ++ name).toList = label.toList ++ '.' :: name.toList := by
  rw [String.toList_append, String.toList_append, List.append_assoc]
  rfl

theorem labels_join : labels (label ++ "." ++ name) = labels label ++ labels name := by
  rw [labels, toList_join, List.splitOn_append_cons_self]
  rfl

/-- **A dot joins host names**, and nothing else. -/
theorem isHostName_join :
    IsHostName (label ++ "." ++ name) ↔ IsHostName label ∧ IsHostName name := by
  rw [IsHostName, labels_join, List.forall_mem_append]
  rfl

/-- **Only an empty label is wrong** with a name that has the characters of host names. -/
theorem isHostName_iff_nil_not_mem
    (h : ∀ c ∈ name.toList, (c.isAlphanum ∨ c = '-') ∨ c = '.') :
    IsHostName name ↔ [] ∉ labels name := by
  refine ⟨fun hname hnil => (hname [] hnil).1 rfl, fun hnil label hlabel => ⟨?_, fun c hc => ?_⟩⟩
  · rintro rfl
    exact hnil hlabel
  · obtain ⟨hmem, hdot⟩ := Text.mem_of_mem_splitOn hlabel c hc
    exact (h c hmem).resolve_right hdot

/-! ### Names with `www.` in front -/

/-- A name begins with `www.`. -/
def BeginsWithWww (name : String) : Prop :=
  ['w', 'w', 'w', '.'] <+: name.toList

instance (name : String) : Decidable (BeginsWithWww name) :=
  inferInstanceAs (Decidable (_ <+: _))

theorem isHostName_www : IsHostName ("www." ++ name) ↔ IsHostName name := by
  have hwww : "www." = "www" ++ "." := rfl
  have hlabel : IsHostName "www" := by decide
  rw [hwww, isHostName_join, and_iff_right hlabel]

/-- What stands in front of a name does not count for its normal form. -/
theorem normalize_www : normalize ("www." ++ name) = normalize name := by
  rw [normalize, String.toList_append]
  rfl

theorem dropWww_eq_self_iff (s : List Char) : dropWww s = s ↔ ¬ ['w', 'w', 'w', '.'] <+: s := by
  fun_cases dropWww s with
  | case1 rest =>
    refine iff_of_false (fun hsame => ?_) (fun hnot => hnot ⟨rest, rfl⟩)
    have hlength := (dropWww_suffix rest).length_le
    rw [hsame] at hlength
    simp only [List.length_cons] at hlength
    omega
  | case2 s h =>
    refine iff_of_true rfl ?_
    rintro ⟨rest, rfl⟩
    exact h rest rfl

/-- A name is normal exactly when it does not begin with `www.`. -/
theorem normalize_eq_self_iff : normalize name = name ↔ ¬ BeginsWithWww name := by
  rw [BeginsWithWww, ← dropWww_eq_self_iff, normalize]
  constructor
  · intro h
    rw [← String.toList_ofList (l := dropWww name.toList), h]
  · intro h
    rw [h, String.ofList_toList]

/-- A name begins with `www.` exactly when the label in front of it is `www` or begins so itself. -/
theorem beginsWithWww_join :
    BeginsWithWww (label ++ "." ++ name) ↔ label = "www" ∨ BeginsWithWww label := by
  have hwww : label = "www" ↔ label.toList = ['w', 'w', 'w'] :=
    ⟨fun h => h ▸ rfl, fun h => String.toList_injective h⟩
  rw [BeginsWithWww, BeginsWithWww, toList_join, hwww]
  generalize label.toList = s
  -- The dot of the prefix is its fourth character, so only the first four of the label count.
  rcases s with - | ⟨a, - | ⟨b, - | ⟨c, - | ⟨d, s⟩⟩⟩⟩ <;>
    simp [List.cons_prefix_cons, eq_comm (a := 'w')]

end RemoteGateway.Site
