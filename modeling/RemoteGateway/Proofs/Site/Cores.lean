import RemoteGateway.Proofs.Site.BasePaths

/-!
# The grammar of base paths

A text is a **core** between slashes that stand between blanks, in exactly one way
(`isCoreOf_iff`). Whether it is read as a base path depends on its core alone, and so does the path
that is read: the core between two slashes (`readsCore`). Only the wording of a fault can quote
the text itself.
-/

namespace RemoteGateway.Site

open Text (Trims isBlank trims_iff)

/-! ### Cores -/

/-- A core is left of a text without the blanks around it and then without the slashes around
it. -/
def IsCoreOf (raw : String) (core : List Char) : Prop :=
  ∃ inner, Trims isBlank raw.toList inner ∧ Trims (· == '/') inner core

/-- A core of which a base path is made. -/
structure IsPathCore (core : List Char) : Prop where
  ne_nil : core ≠ []
  plain : ∀ c ∈ core, isBlank c = false ∧ c ≠ ';' ∧ c ≠ '\x7b' ∧ c ≠ '\x7d'
  /-- The broker's prefix does not begin with the path. -/
  not_begins : ¬ slashed core <+: brokerPrefix.toList
  /-- The path does not begin with the broker's prefix. -/
  not_extends : ¬ brokerPrefix.toList <+: slashed core

variable {raw other : String} {core : List Char} {path : BasePath}

theorem isCoreOf_iff : IsCoreOf raw core ↔ BasePath.coreOf raw = core := by
  constructor
  · rintro ⟨inner, htrim, hcore⟩
    rw [BasePath.coreOf, Text.trim, trims_iff.mp htrim, trims_iff.mp hcore]
  · rintro rfl
    exact ⟨Text.trim raw.toList, trims_iff.mpr rfl, trims_iff.mpr rfl⟩

theorem isUnusable_eq_false_iff {c : Char} :
    isUnusable c = false ↔ isBlank c = false ∧ c ≠ ';' ∧ c ≠ '\x7b' ∧ c ≠ '\x7d' := by
  simp only [isUnusable, Bool.or_eq_false_iff, beq_eq_false_iff_ne, and_assoc]

theorem meetsBroker_eq_false_iff :
    meetsBroker core = false ↔
      ¬ slashed core <+: brokerPrefix.toList ∧ ¬ brokerPrefix.toList <+: slashed core := by
  rw [meetsBroker, Bool.or_eq_false_iff, Bool.eq_false_iff, Bool.eq_false_iff, ne_eq, ne_eq,
    List.isPrefixOf_iff_prefix, List.isPrefixOf_iff_prefix]

/-- The cores of base paths are those that a base path can be made of. -/
theorem isPathCore_iff : IsPathCore core ↔ ∃ path : BasePath, path.core = core := by
  constructor
  · intro h
    have husable : ∀ c ∈ core, isUnusable c = false := fun c hc =>
      isUnusable_eq_false_iff.mpr (h.plain c hc)
    have hapart := meetsBroker_eq_false_iff.mpr ⟨h.not_begins, h.not_extends⟩
    exact ⟨⟨core, h.ne_nil, husable, hapart⟩, rfl⟩
  · rintro ⟨path, rfl⟩
    obtain ⟨hbegins, hextends⟩ := meetsBroker_eq_false_iff.mp path.apart
    exact ⟨path.core_ne_nil, fun c hc => isUnusable_eq_false_iff.mp (path.usable c hc), hbegins,
      hextends⟩

namespace BasePath

/-! ### Reading -/

/-- **A text is read exactly when a path can be made of its core.** -/
theorem exists_parse_iff : (∃ path, parse raw = .ok path) ↔ IsPathCore (coreOf raw) := by
  rw [isPathCore_iff]
  constructor
  · rintro ⟨path, hparse⟩
    exact ⟨path, core_of_parse hparse⟩
  · rintro ⟨path, hcore⟩
    exact ⟨path, parse_eq_ok path hcore.symm⟩

theorem text_eq (path : BasePath) : path.text = "/" ++ String.ofList path.core ++ "/" := by
  rw [← String.toList_inj, toList_text, String.toList_append, String.toList_append,
    String.toList_ofList (l := path.core)]
  rfl

/-- A path is longer than the root. -/
theorem text_ne_root (path : BasePath) : path.text ≠ "/" := by
  intro hroot
  have hlist : "/".toList = '/' :: (path.core ++ ['/']) := hroot ▸ path.toList_text
  exact List.append_ne_nil_of_right_ne_nil _ (List.cons_ne_nil _ _) (List.cons.inj hlist).2.symm

/-- The same fault of a text that is worded in another way. -/
def Fault.quoting (other : String) : Fault → Fault
  | empty => empty
  | unusable _ => unusable other
  | meetsBroker path => meetsBroker path

/-- Of two texts with the same core either both are read as the same path, or both are refused for
the same reason. -/
theorem parse_congr (h : coreOf other = coreOf raw) :
    parse other = (parse raw).mapError (Fault.quoting other) := by
  cases hparse : parse raw with
  | ok path => exact parse_eq_ok path (h.trans (core_of_parse hparse).symm)
  | error fault =>
    rw [parse] at hparse ⊢
    split at hparse
    · next hnil =>
      obtain rfl := Except.error.inj hparse
      rw [dif_pos (h.trans hnil)]
      rfl
    · next hne =>
      rw [dif_neg (h ▸ hne)]
      split at hparse
      · next hunusable =>
        obtain rfl := Except.error.inj hparse
        rw [dif_pos (h ▸ hunusable)]
        rfl
      · next husable =>
        rw [dif_neg (h ▸ husable)]
        split at hparse
        · next hbroker =>
          obtain rfl := Except.error.inj hparse
          rw [dif_pos (h ▸ hbroker), h]
          rfl
        · cases hparse

/-- How a text with a core is read. -/
structure ReadsCore (raw : String) (core : List Char) : Prop where
  /-- It is read exactly when a path can be made of the core. -/
  accepts : (∃ path, parse raw = .ok path) ↔ IsPathCore core
  /-- The path is the core between slashes, and is read as itself. -/
  normal : ∀ path, parse raw = .ok path →
    path.text = "/" ++ String.ofList core ++ "/" ∧ path.text ≠ "/" ∧ parse path.text = .ok path
  /-- Any other text with this core is read in the same way. -/
  same : ∀ other, IsCoreOf other core → parse other = (parse raw).mapError (Fault.quoting other)

/-- **Base paths are read by their cores.** -/
theorem readsCore (h : IsCoreOf raw core) : ReadsCore raw core := by
  obtain rfl := isCoreOf_iff.mp h
  refine ⟨exists_parse_iff, fun path hparse => ⟨?_, text_ne_root path, parse_text hparse⟩, ?_⟩
  · rw [text_eq, core_of_parse hparse]
  · exact fun other hother => parse_congr (isCoreOf_iff.mp hother)

end BasePath

end RemoteGateway.Site
