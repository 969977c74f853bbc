import RemoteGateway.Proofs.FileTree.Writing
import RemoteGateway.Proofs.Prompt.Collecting

/-!
# What a session writes

However a session ends, the file of its document is as it was, or has the text of the document with
the answers that were given until then; and no other file is touched (`amends_of_collectAll`). An
answer whose writing fails is not in the file, and the session ends with it.
-/

namespace RemoteGateway.Prompt

open Document (Store Value segments)
open FileTree (Changes namesOf)

variable {tree after : FileTree} {path : String} {document written : Value}
  {asked : List Question}

/-- Where nothing was answered the document is the same. -/
theorem Collected.eq_of_keys_eq_nil {keys : List String} (h : Collected asked document keys written)
    (hkeys : keys = []) : written = document := by
  induction h with
  | nil => rfl
  | skip _ _ ih => exact ih hkeys
  | answer => cases hkeys

/-- The tree in which the document at a path was replaced. -/
def replaced (path : String) (document : Value) (tree : FileTree) : FileTree :=
  tree.put (namesOf path) (.file (Store.text ⟨path, document⟩).toUTF8 0o600)

/-- From a tree to a later one, some questions were gone through, and what was answered was written
to the document at a path: `written` is the document that its file has then. -/
structure Amends (path : String) (questions : List Question) (document : Value)
    (tree after : FileTree) (written : Value) : Prop where
  collected : ∃ asked keys, asked <+: questions ∧ Collected asked document keys written ∧
    after = if keys = [] then tree else replaced path written tree
  changes : Changes [path] [] tree after

namespace Amends

variable {questions : List Question}

/-- A session that was not held changes nothing. -/
theorem refl (path : String) (questions : List Question) (document : Value) (tree : FileTree) :
    Amends path questions document tree tree document :=
  ⟨⟨[], [], List.nil_prefix, .nil document, rfl⟩, .refl tree⟩

/-- A question that is not open is passed. -/
theorem skip {question : Question} (hclosed : question.isOpen document = false)
    (h : Amends path questions document tree after written) :
    Amends path (question :: questions) document tree after written := by
  obtain ⟨⟨asked, keys, hasked, hcollected, hafter⟩, hchanges⟩ := h
  exact ⟨⟨question :: asked, keys, List.cons_prefix_cons.mpr ⟨rfl, hasked⟩,
    .skip hclosed hcollected, hafter⟩, hchanges⟩

/-- An answer is written, and later ones in its place. -/
theorem answer {question : Question} {text : String} {stored : Value}
    (hopen : question.isOpen document = true) (htakes : question.Takes text)
    (hstored : document.store (.text text) (segments question.key) = stored)
    (hfirst : Changes [path] [] tree (replaced path stored tree))
    (h : Amends path questions stored (replaced path stored tree) after written) :
    Amends path (question :: questions) document tree after written := by
  subst hstored
  obtain ⟨⟨asked, keys, hasked, hcollected, hafter⟩, hchanges⟩ := h
  refine ⟨⟨question :: asked, question.key :: keys, List.cons_prefix_cons.mpr ⟨rfl, hasked⟩,
    .answer hopen htakes hcollected, ?_⟩, hfirst.trans hchanges⟩
  rw [if_neg (List.cons_ne_nil _ _), hafter]
  split_ifs with hkeys
  · rw [hcollected.eq_of_keys_eq_nil hkeys]
  · exact FileTree.put_put _ _ _ _

/-- What no question asks for is in the file as it was in the document. -/
theorem find?_of_apart (h : Amends path questions document tree after written) {place : List String}
    (hplace : ∀ question ∈ questions, Document.Apart (segments question.key) place) :
    written.find? place = document.find? place := by
  obtain ⟨asked, keys, hasked, hcollected, -⟩ := h.collected
  exact hcollected.find?_of_apart fun q hq => hplace q (hasked.subset hq)

end Amends

/-- Storing replaces the document in its file, or leaves the tree alone. -/
theorem set_eq {store : Store} {content : ByteArray} {mode : Nat} (key : String) (value : Value)
    (hfile : tree.status store.path = .ok (.file content mode)) :
    (∃ stored next, store.document.store value (segments key) = stored ∧
        replaced store.path stored tree = next ∧
        store.set key value tree = (.ok (), ⟨store.path, stored⟩, next) ∧
        Changes [store.path] [] tree next ∧
        ∃ content mode, next.status store.path = .ok (.file content mode)) ∨
      ∃ fault after, store.set key value tree = (.error fault, after, tree) := by
  rw [Store.set]
  split_ifs with hkey
  · generalize hstored : store.document.store value (segments key) = stored
    rcases FileTree.perform_replaceFile (Store.text ⟨store.path, stored⟩).toUTF8 hfile
      with ⟨hpath, hreplace⟩ | ⟨fault, hreplace⟩
    · obtain ⟨hchanges, hstatus⟩ := (FileTree.admits_of_status hpath hfile).put
        (Store.text ⟨store.path, stored⟩).toUTF8 0o600
      refine .inl ⟨stored, _, rfl, rfl, ?_, hchanges, _, _, hstatus⟩
      simp only [Store.persist, hreplace]
      rfl
    · refine .inr ⟨.io (.file fault), ⟨store.path, stored⟩, ?_⟩
      simp only [Store.persist, hreplace]
  · exact .inr ⟨_, _, rfl⟩

/-- **However a session ends, its file has the answers that were given until then.** When it ends
well, its document is the one in the file. -/
theorem amends_of_collectAll {questions : List Question} {session after : Session}
    {result : Except Fault (List String)} {content : ByteArray} {mode : Nat}
    (h : session.collectAll questions = (result, after))
    (hfile : session.tree.status session.store.path = .ok (.file content mode)) :
    ∃ written, Amends session.store.path questions session.store.document session.tree after.tree
        written ∧
      (∀ keys, result = .ok keys → after.store = ⟨session.store.path, written⟩) := by
  induction questions generalizing session result content mode with
  | nil =>
    cases h
    exact ⟨_, .refl _ _ _ _, fun _ _ => rfl⟩
  | cons question rest ih =>
    rw [Session.collectAll] at h
    split at h
    · next hopen =>
      simp only at h
      split at h
      · cases h
        exact ⟨_, .refl _ _ _ _, nofun⟩
      · next text htext =>
        have htakes := takes_of_ask htext
        rcases set_eq question.key (.text text) hfile with
          ⟨stored, next, hstored, rfl, hset, hchanges, _, _, hstatus⟩ | ⟨fault, store, hset⟩
        · simp only [hset] at h
          split at h
          · next keys later hlater =>
            cases h
            obtain ⟨written, hamends, hstore⟩ := ih hlater hstatus
            exact ⟨written, .answer hopen htakes hstored hchanges hamends,
              fun _ _ => hstore keys rfl⟩
          · next fault later hlater =>
            cases h
            obtain ⟨written, hamends, -⟩ := ih hlater hstatus
            exact ⟨written, .answer hopen htakes hstored hchanges hamends, nofun⟩
        · simp only [hset] at h
          cases h
          exact ⟨_, .refl _ _ _ _, nofun⟩
    · next hclosed =>
      obtain ⟨written, hamends, hstore⟩ := ih h hfile
      exact ⟨written, hamends.skip (Bool.eq_false_iff.mpr hclosed), hstore⟩

end RemoteGateway.Prompt
