import RemoteGateway.Proofs.Document.Restating
import RemoteGateway.Proofs.Document.Storing
import RemoteGateway.Proofs.Settings.Footprint

/-!
# Settings and the spelling of scalars

The settings are read from the texts of a document alone (`ofDocument_congr`), so that documents
which say the same are **read alike**: they have the same settings, or are refused for the same
reason. A port may thus be a number or a text, a switch a boolean or a text, and what is left open
may be a null, an empty text, or not there at all (`ofDocument_restated`).
-/

namespace RemoteGateway

open Document (IsKeyPath Store Value ofWord segments)

/-- Two documents cannot be told apart by what is read from them. -/
structure ReadAlike (first second : Value) : Prop where
  /-- At every dotted path they have the same text, or none. -/
  text_eq : ∀ key, first.getText? key = second.getText? key
  /-- They have the same settings, or the same fault. -/
  settings_eq : Settings.ofDocument first = Settings.ofDocument second

theorem ReadAlike.of_saysSame {first second : Value} (h : first.SaysSame second) :
    ReadAlike first second :=
  ⟨h.getText?_eq, ofDocument_congr fun key _ => h.getText?_eq key⟩

/-- A word that is stored from the command line says the same as if it were stored as a text. -/
theorem saysSame_set_ofWord (store : Store) (key word : String) (tree : FileTree) :
    (store.set key (ofWord word) tree).2.1.document.SaysSame
      (store.set key (.text word) tree).2.1.document := by
  by_cases hkey : IsKeyPath key
  · rw [Store.changed_of_set hkey, Store.changed_of_set hkey]
    exact (Document.saysSame_ofWord word).store store.document (segments key)
  · rw [Store.set_of_not_isKeyPath hkey, Store.set_of_not_isKeyPath hkey]
    rfl

/-- A text that was stored is found, unless it is empty. -/
theorem getText?_set_text {key : String} (hkey : IsKeyPath key) (store : Store) (word : String)
    (tree : FileTree) :
    (store.set key (.text word) tree).2.1.document.getText? key =
      if word = "" then none else some word := by
  rw [Store.changed_of_set hkey, Value.getText?_eq_textAt?, Value.textAt?,
    Value.find?_store_self]
  rfl

/-- **How a scalar is spelled does not matter.** A document is read as before when the scalar at
a dotted path gives way to its text, and when any leaves, wherever they lie, are restated one after
the other, in either direction: scalars as texts, nulls as empty texts, and either of them as
nothing. A word of the command line is read like the text that it is, and leaves that text at its
key path, or none when it is empty. -/
theorem ofDocument_restated :
    (∀ (document : Value) (key text : String), document.getText? key = some text →
      ReadAlike (document.store (.text text) (segments key)) document) ∧
    (∀ first second : Value, Relation.EqvGen Value.Restated first second →
      ReadAlike first second) ∧
    (∀ (store : Store) (key word : String) (tree : FileTree),
      ReadAlike (store.set key (ofWord word) tree).2.1.document
        (store.set key (.text word) tree).2.1.document ∧
      (IsKeyPath key → (store.set key (ofWord word) tree).2.1.document.getText? key =
        if word = "" then none else some word)) := by
  refine ⟨fun document key text h => ?_, fun first second h => ?_, fun store key word tree => ?_⟩
  · rw [Value.getText?_eq_textAt?] at h
    exact .of_saysSame (Value.saysSame_store_text h)
  · exact .of_saysSame (Value.saysSame_of_eqvGen h)
  · have hsame := saysSame_set_ofWord store key word tree
    refine ⟨.of_saysSame hsame, fun hkey => ?_⟩
    rw [hsame.getText?_eq, getText?_set_text hkey]

/-- The sample site with the group of the runtime as a number and an open vault token. -/
def spelledDocument : Value :=
  (Sample.document.store (.number (.integer 998)) (segments "docker.gid")).store .null
    (segments "vault.token")

/-- The store that holds it. -/
def spelledStore : Store :=
  ⟨"stack.json", spelledDocument⟩

/-- The number may be a text, the token may be left out, and `true` is found as it was given. -/
theorem ofDocument_restated_spelledDocument :
    (spelledDocument.getText? "docker.gid" = some "998" ∧
      ReadAlike (spelledDocument.store (.text "998") (segments "docker.gid")) spelledDocument) ∧
    ReadAlike (spelledDocument.store (.object []) (segments "vault")) spelledDocument ∧
    (spelledStore.set "ssl.staging" (ofWord "true") .empty).2.1.document.getText? "ssl.staging" =
      some "true" := by
  have hdropped : Value.Restated spelledDocument
      (spelledDocument.store (.object []) (segments "vault")) :=
    .member (spelledDocument.members.take 4) (spelledDocument.members.drop 5) "vault"
      (.object [("token", .null)]) (.object []) (.dropped [] [] "token" .null (.inl rfl) rfl)
  have hnumber : spelledDocument.getText? "docker.gid" = some "998" := by decide
  exact ⟨⟨hnumber, ofDocument_restated.1 _ _ _ hnumber⟩,
    ofDocument_restated.2.1 _ _ (.symm _ _ (.rel _ _ hdropped)),
    (ofDocument_restated.2.2 spelledStore "ssl.staging" "true" .empty).2 (by decide)⟩

end RemoteGateway
