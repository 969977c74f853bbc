import RemoteGateway.Site.Exposure

/-!
# Domains without their prefix

Taking the leading run of `www.` off a domain leaves a text that does not begin with `www.`
again, so doing it twice is doing it once (`normalize_normalize`).
-/

namespace RemoteGateway.Site

/-- Nothing more is left off the second time. -/
theorem dropWww_dropWww (s : List Char) : dropWww (dropWww s) = dropWww s := by
  fun_induction dropWww s with
  | case1 rest ih => exact ih
  | case2 s h => rw [dropWww]; exact h

/-- Nothing is left of a domain but its end. -/
theorem dropWww_suffix (s : List Char) : List.IsSuffix (dropWww s) s := by
  fun_induction dropWww s with
  | case1 rest ih => exact ih.trans (List.suffix_append ['w', 'w', 'w', '.'] rest)
  | case2 s h => exact List.suffix_refl s

theorem normalize_normalize (domain : String) :
    normalize (normalize domain) = normalize domain := by
  rw [normalize, normalize, String.toList_ofList, dropWww_dropWww]

end RemoteGateway.Site
