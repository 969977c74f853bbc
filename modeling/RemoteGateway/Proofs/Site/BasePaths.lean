import RemoteGateway.Proofs.Text.Trimming
import RemoteGateway.Site.Exposure

/-!
# Base paths in their normal form

The text of a base path that was read is read as the same base path again (`parse_text`). The
core of such a path has no slash at either end, because all of them were taken off.
-/

namespace RemoteGateway.Site

namespace BasePath

variable {raw : String} {path : BasePath}

/-! ### Texts -/

/-- The text of a path is its core between slashes. -/
theorem toList_text (path : BasePath) : path.text.toList = '/' :: (path.core ++ ['/']) :=
  String.toList_ofList

theorem text_ne_empty (path : BasePath) : path.text ≠ "" := by
  intro hempty
  have hlist := path.toList_text
  rw [hempty] at hlist
  cases hlist

/-! ### Reading -/

/-- Reading gives the path whose core is left of the text. -/
theorem core_of_parse (h : parse raw = .ok path) : path.core = coreOf raw := by
  rw [parse] at h
  split at h
  · cases h
  · split at h
    · cases h
    · split at h
      · cases h
      · cases h
        rfl

/-- A path is read from a text of which its core is left. -/
theorem parse_eq_ok (path : BasePath) (h : coreOf raw = path.core) : parse raw = .ok path := by
  obtain ⟨core, hne, husable, hapart⟩ := path
  have hany : ¬ core.any isUnusable = true := by simpa using husable
  have hmeets : ¬ meetsBroker core = true := by simpa using hapart
  simp only at h
  subst h
  simp only [parse, dif_neg hne, dif_neg hany, dif_neg hmeets]

/-- Of the text of a path, its core is left when that has no slash at either end. -/
theorem coreOf_text (h : Text.IsBare (· == '/') path.core) : coreOf path.text = path.core := by
  have hslash : Text.isBlank '/' = false := by decide
  have htrim : Text.trim (slashed path.core) = slashed path.core := by
    refine Text.trimWhere_eq_self ⟨fun c hc => ?_, fun c hc => ?_⟩
    · cases hc
      exact hslash
    · rw [slashed, ← List.cons_append, List.getLast?_concat] at hc
      cases hc
      exact hslash
  rw [coreOf, text, String.toList_ofList, htrim]
  have hends : ∀ c ∈ ['/'], (c == '/') = true := by
    intro c hc
    rw [List.mem_singleton.mp hc]
    rfl
  exact Text.trimWhere_append h path.core_ne_nil hends hends

/-- **The text of a path that was read is read as the same path.** -/
theorem parse_text (h : parse raw = .ok path) : parse path.text = .ok path := by
  refine parse_eq_ok path (coreOf_text ?_)
  rw [core_of_parse h]
  exact Text.isBare_trimWhere _ _

end BasePath

/-- The path below which an application answers begins with a slash, also when it is the root. -/
theorem Exposure.exists_toList_basePath (exposure : Exposure) :
    ∃ rest, exposure.basePath.toList = '/' :: rest := by
  cases exposure with
  | path base => exact ⟨base.core ++ ['/'], base.toList_text⟩
  | root => exact ⟨[], rfl⟩
  | subdomain label => exact ⟨[], (rfl : "/".toList = ['/'])⟩

end RemoteGateway.Site
