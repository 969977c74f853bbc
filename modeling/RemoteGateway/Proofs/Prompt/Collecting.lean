import RemoteGateway.Prompt.Session
import RemoteGateway.Proofs.Document.Places

/-!
# What a session does to the document

A session that ends well changes the document question by question: one that is not open leaves
it alone, and one that is open stores a text that its form takes. `Collected` is this relation
between the documents before and after, with the keys that were answered; every session that
ends well obeys it (`collected_of_collectAll`), whatever was answered and shown.

The keys of the questions are apart, so no answer touches what another one stored, and what is
not asked for stays as it was (`Collected.find?_of_apart`). What a question finds when its turn
comes is therefore also there in the end (`Collected.turn`).
-/

namespace RemoteGateway.Prompt

open Document (Apart Value segments)

/-- A text that is stored for a question: the reading of some answer, or what stands for the end
of the answers. -/
def Question.Takes (question : Question) (text : String) : Prop :=
  (∃ answer, question.form.accept (String.ofList (Text.trim answer)) = .ok text) ∨
    question.form.closed = some text

/-- What becomes of a document when some questions are gone through, and the keys that are
answered. -/
inductive Collected : List Question → Value → List String → Value → Prop
  | nil (document : Value) : Collected [] document [] document
  | skip {question : Question} {rest : List Question} {document after : Value}
      {keys : List String} (hclosed : question.isOpen document = false)
      (hrest : Collected rest document keys after) :
      Collected (question :: rest) document keys after
  | answer {question : Question} {rest : List Question} {document after : Value}
      {keys : List String} {text : String} (hopen : question.isOpen document = true)
      (htakes : question.Takes text)
      (hrest : Collected rest (document.store (.text text) (segments question.key)) keys after) :
      Collected (question :: rest) document (question.key :: keys) after

/-! ### Sessions -/

/-- The document of a store that could be changed. -/
theorem document_of_set {store after : Document.Store} {key : String} {value : Value}
    {tree tree' : FileTree} (h : store.set key value tree = (.ok (), after, tree')) :
    after.document = store.document.store value (segments key) := by
  rw [Document.Store.set] at h
  split at h
  · simp only [Prod.mk.injEq] at h
    rw [← h.2.1]
  · cases h

/-- An answer that is given to a question is one that the question takes. -/
theorem takes_of_ask {question : Question} {answers : List Line} {text : String}
    (h : (question.ask answers).result = .ok text) : question.Takes text := by
  induction answers with
  | nil =>
    rw [Question.ask] at h
    cases hclosed : question.form.closed with
    | none =>
      simp only [hclosed] at h
      cases h
    | some value =>
      simp only [hclosed] at h
      cases h
      exact .inr hclosed
  | cons line answers ih =>
    cases line with
    | none =>
      rw [Question.ask] at h
      cases h
    | some line =>
      rw [Question.ask] at h
      split at h
      · next value haccept =>
        cases h
        exact .inl ⟨line.toList, haccept⟩
      · exact ih h

/-- **Every session that ends well goes through its questions.** -/
theorem collected_of_collectAll {questions : List Question} {session after : Session}
    {keys : List String} (h : session.collectAll questions = (.ok keys, after)) :
    Collected questions session.store.document keys after.store.document := by
  -- Each question passes on the session that it leaves to the rest.
  induction questions generalizing session keys with
  | nil =>
    cases h
    exact .nil _
  | cons question rest ih =>
    rw [Session.collectAll] at h
    split at h
    · next hopen =>
      simp only at h
      split at h
      · cases h
      · next text htext =>
        split at h
        · cases h
        · next store tree hset =>
          split at h
          · next later final hlater =>
            cases h
            refine .answer hopen (takes_of_ask htext) ?_
            rw [← document_of_set hset]
            exact ih hlater
          · cases h
    · next hclosed => exact .skip (Bool.eq_false_iff.mpr hclosed) (ih h)

/-! ### One question among others -/

namespace Collected

variable {document after : Value} {keys : List String} {questions : List Question}

/-- Only keys of questions are answered. -/
theorem exists_of_mem_keys (h : Collected questions document keys after) {key : String}
    (hkey : key ∈ keys) : ∃ question ∈ questions, question.key = key := by
  induction h with
  | nil => exact absurd hkey List.not_mem_nil
  | skip _ _ ih =>
    obtain ⟨question, hmem, hquestion⟩ := ih hkey
    exact ⟨question, List.mem_cons_of_mem _ hmem, hquestion⟩
  | answer _ _ _ ih =>
    rcases List.mem_cons.mp hkey with rfl | hkey
    · exact ⟨_, List.mem_cons_self, rfl⟩
    · obtain ⟨question, hmem, hquestion⟩ := ih hkey
      exact ⟨question, List.mem_cons_of_mem _ hmem, hquestion⟩

/-- **What is not asked for stays as it was.** -/
theorem find?_of_apart (h : Collected questions document keys after) {path : List String}
    (hpath : ∀ question ∈ questions, Apart (segments question.key) path) :
    after.find? path = document.find? path := by
  induction h with
  | nil => rfl
  | skip _ _ ih => exact ih fun q hq => hpath q (List.mem_cons_of_mem _ hq)
  | answer _ _ _ ih =>
    rw [ih fun q hq => hpath q (List.mem_cons_of_mem _ hq)]
    exact Value.find?_store_of_apart _ _ (hpath _ List.mem_cons_self)

/-- Questions are gone through one part after the other. -/
theorem append {first second : List Question}
    (h : Collected (first ++ second) document keys after) :
    ∃ keys₁ keys₂ middle, keys = keys₁ ++ keys₂ ∧ Collected first document keys₁ middle ∧
      Collected second middle keys₂ after := by
  induction first generalizing document keys with
  | nil => exact ⟨[], keys, document, rfl, .nil document, h⟩
  | cons question first ih =>
    cases h with
    | skip hclosed hrest =>
      obtain ⟨keys₁, keys₂, middle, rfl, hfirst, hsecond⟩ := ih hrest
      exact ⟨keys₁, keys₂, middle, rfl, .skip hclosed hfirst, hsecond⟩
    | answer hopen htakes hrest =>
      obtain ⟨keys₁, keys₂, middle, rfl, hfirst, hsecond⟩ := ih hrest
      exact ⟨_ :: keys₁, keys₂, middle, rfl, .answer hopen htakes hfirst, hsecond⟩

/-- How the turn of a question went, in terms of the document then and the one in the end. -/
inductive Turn (question : Question) (keys : List String) (turn after : Value) : Prop
  | skipped (hkey : question.key ∉ keys) (hclosed : question.isOpen turn = false)
      (hfind : after.find? (segments question.key) = turn.find? (segments question.key))
  | answered {text : String} (hkey : question.key ∈ keys) (hopen : question.isOpen turn = true)
      (htakes : question.Takes text)
      (hfind : after.find? (segments question.key) = some (.text text))

/-- **What a question finds or stores when its turn comes is there in the end**, and so is all
that it could look at which no later question asks for. -/
theorem turn {before later : List Question} {question : Question}
    (h : Collected (before ++ question :: later) document keys after)
    (hbefore : ∀ q ∈ before, Apart (segments q.key) (segments question.key))
    (hlater : ∀ q ∈ later, Apart (segments q.key) (segments question.key)) :
    ∃ turn, Turn question keys turn after ∧
      ∀ path, (∀ q ∈ question :: later, Apart (segments q.key) path) →
        after.find? path = turn.find? path := by
  -- Questions that are apart from this one never answer its key.
  have hother : ∀ {others : List Question} {first last : Value} {ks : List String},
      Collected others first ks last →
      (∀ q ∈ others, Apart (segments q.key) (segments question.key)) → question.key ∉ ks := by
    intro others first last ks hothers hapart hmem
    obtain ⟨q, hq, hkey⟩ := hothers.exists_of_mem_keys hmem
    exact (hapart q hq).1 (hkey ▸ List.prefix_refl _)
  obtain ⟨keys₁, keys₂, turn, rfl, hfirst, hsecond⟩ := h.append
  refine ⟨turn, ?_, fun path hpath => hsecond.find?_of_apart hpath⟩
  cases hsecond with
  | skip hclosed hrest =>
    refine .skipped (fun hmem => ?_) hclosed (hrest.find?_of_apart hlater)
    rcases List.mem_append.mp hmem with hmem | hmem
    · exact hother hfirst hbefore hmem
    · exact hother hrest hlater hmem
  | answer hopen htakes hrest =>
    refine .answered (List.mem_append_right _ List.mem_cons_self) hopen htakes ?_
    -- No later answer touches what this one stored.
    rw [hrest.find?_of_apart hlater]
    exact Value.find?_store_self _ _ _

end Collected

end RemoteGateway.Prompt
