import RemoteGateway.Template.Phrase

/-!
# Filling in phrases

A phrase is filled in part by part, and line by line when it is a text of several lines.
-/

namespace RemoteGateway.Template

open Document (Members)

variable {context : Members}

theorem fill_cons {part : Part} {phrase : Phrase} {text rest : String}
    (h : part.fill context = .ok text) (h' : fill context phrase = .ok rest) :
    fill context (part :: phrase) = .ok (text ++ rest) := by
  rw [fill, h, h']
  rfl

theorem fill_single {part : Part} {text : String} (h : part.fill context = .ok text) :
    fill context [part] = .ok text := by
  rw [fill, h]
  exact congrArg Except.ok String.append_empty

/-- A phrase is filled in by filling in both its halves. -/
theorem fill_append {phrase more : Phrase} {text rest : String}
    (h : fill context phrase = .ok text) (h' : fill context more = .ok rest) :
    fill context (phrase ++ more) = .ok (text ++ rest) := by
  induction phrase generalizing text with
  | nil =>
    cases h
    rw [String.empty_append]
    exact h'
  | cons part phrase ih =>
    rw [fill] at h
    rcases hpart : part.fill context with _ | first
    · rw [hpart] at h
      cases h
    · rcases hphrase : fill context phrase with _ | later
      · rw [hpart, hphrase] at h
        cases h
      · rw [hpart, hphrase] at h
        cases h
        rw [List.cons_append, fill_cons hpart (ih hphrase)]
        exact congrArg Except.ok String.append_assoc.symm

end RemoteGateway.Template
