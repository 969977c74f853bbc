import RemoteGateway.Proofs.Document.Places
import RemoteGateway.Proofs.Document.RoundTrip
import RemoteGateway.Proofs.FileTree.Replacing

/-!
# Documents in their files

A document is **saved** at a path when the file there has its text and the document can be
written and read back, save for its height. A document is saved once it was created, and every
change of a saved document is saved (`Saved.set`). A saved document is loaded from its file
exactly when it is not higher than the reader allows (`Saved.load`).
-/

namespace RemoteGateway.Document

/-- The file at a path has the text of a document, which is a legible object. -/
structure Saved (tree : FileTree) (path : String) (document : Value) : Prop where
  holds : tree.Holds path (Store.text ⟨path, document⟩).toUTF8
  legible : document.IsLegible
  object : document.isObject = true

variable {tree after : FileTree} {path : String} {document : Value}

/-- A store that was written is in its file. -/
theorem holds_of_persist {store : Store} (h : store.persist tree = (.ok (), after)) :
    after.Holds store.path store.text.toUTF8 := by
  rw [Store.persist] at h
  split at h
  · next hperform =>
    cases h
    exact FileTree.holds_of_perform hperform
  · cases h

/-- A legible object that was written is saved. -/
theorem saved_of_persist (hlegible : document.IsLegible) (hobject : document.isObject = true)
    (h : (Store.mk path document).persist tree = (.ok (), after)) : Saved after path document :=
  ⟨holds_of_persist h, hlegible, hobject⟩

/-- A document that was created is saved, and it is empty. -/
theorem saved_of_create {store : Store} (h : Store.create path tree = (.ok store, after)) :
    Saved after path (.object []) := by
  rw [Store.create] at h
  split at h
  · cases h
  · simp only at h
    split at h
    · next next hpersist =>
      cases h
      exact saved_of_persist ⟨List.Pairwise.nil, trivial⟩ rfl hpersist
    · cases h

/-- The text of a legible object is loaded exactly when the object is not too high for the
reader. -/
theorem load_of_read (hread : tree.read path = .ok (Store.text ⟨path, document⟩).toUTF8)
    (hlegible : document.IsLegible) (hobject : document.isObject = true) :
    Store.load path tree =
      if document.height ≤ maxDepth then .ok ⟨path, document⟩
      else .error (.config (.unreadable path .malformed)) := by
  have hdocument : Store.readDocument path tree =
      if document.height ≤ maxDepth then .ok document else .error .malformed := by
    rw [Store.readDocument, hread]
    simp only [Text.decode?_toUTF8, Store.text, Value.ofText?_toText_eq hlegible]
    split_ifs with hheight
    · simp only [hobject, if_true]
    · rfl
  rw [Store.load, hdocument]
  split_ifs
  · rfl
  · rfl

namespace Saved

/-- **A saved document is loaded** exactly when it is not too high for the reader. -/
theorem load (h : Saved tree path document) :
    Store.load path tree =
      if document.height ≤ maxDepth then .ok ⟨path, document⟩
      else .error (.config (.unreadable path .malformed)) :=
  load_of_read h.holds.read h.legible h.object

/-- **Storing at a key path never fails**, and the result is saved. -/
theorem set (h : Saved tree path document) {key : String} {value : Value} (hkey : IsKeyPath key)
    (hvalue : value.IsLegible) :
    ∃ after, (Store.mk path document).set key value tree =
        (.ok (), ⟨path, document.store value (segments key)⟩, after) ∧
      Saved after path (document.store value (segments key)) := by
  have hlegible := h.legible.store hvalue (segments key)
  -- A dotted path is never empty, so the root stays an object.
  have hobject := Value.isObject_store document value (segments_ne_nil key)
  obtain ⟨after, hperform, -⟩ := h.holds.perform
    (Store.text ⟨path, document.store value (segments key)⟩).toUTF8
  have hpersist : (Store.mk path (document.store value (segments key))).persist tree =
      (.ok (), after) := by
    rw [Store.persist, hperform]
  refine ⟨after, ?_, saved_of_persist hlegible hobject hpersist⟩
  rw [Store.set, if_pos hkey]
  simp only [hpersist]

end Saved

end RemoteGateway.Document
