import RemoteGateway.Proofs.Prompt.Accepted

/-!
# Asking a question more than once

A question that was answered is not open any more (`Question.isOpen_store_self`), and it does not
open again when others are answered: each question ignores what is stored for those behind it
(`pairwise_ignores`). As long as no answer was taken, asking it again goes on as if the first
answers had not been given (`Question.ask_append`), and once one was, later ones do not count
(`Question.ask_append_of_decided`).
-/

namespace RemoteGateway.Prompt

open Document (Apart Value getText?_of_find? getText?_of_find?_eq segments)

/-! ### Questions that stay closed -/

/-- None of the texts that stand for an empty answer is empty itself. -/
def Form.IsStated : Form → Prop
  | required | free | basePath _ => True
  | choice first others => "" ∉ first :: others
  | proposed proposal => proposal ≠ ""

instance : DecidablePred Form.IsStated
  | .required | .free | .basePath _ => inferInstanceAs (Decidable True)
  | .choice first others => inferInstanceAs (Decidable ("" ∉ first :: others))
  | .proposed proposal => inferInstanceAs (Decidable (proposal ≠ ""))

section

variable {question : Question} {document : Value} {text : String}

/-- Only the form that remembers empty answers stores an empty text. -/
theorem Question.Takes.ne_empty_of_isStated (h : question.Takes text)
    (hstated : question.form.IsStated) (hform : question.form ≠ .free) : text ≠ "" := by
  cases hcase : question.form with
  | required => exact h.ne_empty hcase
  | free => exact absurd hcase hform
  | choice first others =>
    rw [hcase] at hstated
    exact fun hempty => hstated (hempty ▸ h.mem_choices hcase)
  | proposed proposal =>
    rw [hcase] at hstated
    rcases h with ⟨answer, haccept⟩ | hclosed
    · rw [hcase] at haccept
      obtain rfl := Except.ok.inj haccept
      split
      · exact hstated
      · assumption
    · rw [hcase] at hclosed
      cases hclosed
  | basePath proposal =>
    obtain ⟨path, rfl, -⟩ := h.exists_basePath hcase
    exact path.text_ne_empty

theorem Question.isOpen_eq (hform : question.form ≠ .free) :
    question.isOpen document = (question.relevant document && document.isUnset question.key) := by
  rw [Question.isOpen]
  cases hcase : question.form with
  | free => exact absurd hcase hform
  | required | choice | proposed | basePath => rfl

/-- **A question that was answered is not open any more.** -/
theorem Question.isOpen_store_self (htakes : question.Takes text)
    (hstated : question.form.IsStated) :
    question.isOpen (document.store (.text text) (segments question.key)) = false := by
  have hfind := Value.find?_store_self document (.text text) (segments question.key)
  by_cases hform : question.form = .free
  · have hget : (document.store (.text text) (segments question.key)).get? question.key =
        some (.text text) := by
      rw [Value.get?, hfind]
      rfl
    rw [Question.isOpen, hform, hget]
    exact Bool.and_false _
  · have htext := getText?_of_find? hfind (htakes.ne_empty_of_isStated hstated hform)
    rw [Question.isOpen_eq hform, Value.isUnset, htext]
    exact Bool.and_false _

/-- What is stored for another question does not open a question, nor does it close it. -/
def Question.Ignores (question other : Question) : Prop :=
  ∀ (document value : Value),
    question.isOpen (document.store value (segments other.key)) = question.isOpen document

/-- A question ignores others whose keys are apart from all that it looks at: its own key and
those that make it relevant. -/
theorem Question.ignores_of_apart {others : List Question} (keys : List String)
    (hrelevant : ∀ first second : Value,
      (∀ key ∈ keys, first.find? (segments key) = second.find? (segments key)) →
        question.relevant first = question.relevant second)
    (hapart : ∀ other ∈ others, ∀ key ∈ question.key :: keys,
      Apart (segments other.key) (segments key)) :
    ∀ other ∈ others, question.Ignores other := by
  intro other hother document value
  have hsame : ∀ key ∈ question.key :: keys,
      (document.store value (segments other.key)).find? (segments key) =
        document.find? (segments key) :=
    fun key hkey => Value.find?_store_of_apart document value (hapart other hother key hkey)
  have hfind := hsame _ List.mem_cons_self
  rw [Question.isOpen, Question.isOpen,
    hrelevant _ document fun key hkey => hsame key (List.mem_cons_of_mem _ hkey),
    Value.isUnset, Value.isUnset, getText?_of_find?_eq hfind, Value.get?, Value.get?, hfind]

end

/-- **Each question ignores those behind it**: what makes a question relevant is asked for in
front of it. -/
theorem pairwise_ignores : questions.Pairwise Question.Ignores := by
  have hrequests : ∀ first second : Value,
      (∀ key ∈ ["ssl.mode"], first.find? (segments key) = second.find? (segments key)) →
        requestsCertificate first = requestsCertificate second := by
    intro first second h
    rw [requestsCertificate, requestsCertificate, Value.getTextD, Value.getTextD,
      getText?_of_find?_eq (h _ List.mem_cons_self)]
  have hpublishes : ∀ (mode : String) (first second : Value),
      (∀ key ∈ ["nginx.url_mode"], first.find? (segments key) = second.find? (segments key)) →
        publishesBy mode first = publishesBy mode second := by
    intro mode first second h
    rw [publishesBy, publishesBy, Value.getTextD, Value.getTextD,
      getText?_of_find?_eq (h _ List.mem_cons_self)]
  refine .cons ?_ (.cons ?_ (.cons ?_ (.cons ?_ (.cons ?_ (.cons ?_ (.cons ?_ (.cons ?_ .nil)))))))
  · exact Question.ignores_of_apart [] (fun _ _ _ => rfl) (by decide)
  · exact Question.ignores_of_apart [] (fun _ _ _ => rfl) (by decide)
  · exact Question.ignores_of_apart [] (fun _ _ _ => rfl) (by decide)
  · exact Question.ignores_of_apart [] (fun _ _ _ => rfl) (by decide)
  · exact Question.ignores_of_apart ["ssl.mode"] hrequests (by decide)
  · exact Question.ignores_of_apart ["ssl.mode"] hrequests (by decide)
  · exact Question.ignores_of_apart ["nginx.url_mode"] (hpublishes "path") (by decide)
  · exact Question.ignores_of_apart ["nginx.url_mode"] (hpublishes "subdomain") (by decide)

/-! ### Answers that run out -/

/-- None of some answers is taken. -/
def Question.Declines (question : Question) (answers : List Line) : Prop :=
  ∀ line ∈ answers, ∃ text complaint, line = some text ∧
    question.form.accept (String.ofList (Text.trim text.toList)) = .error complaint

section

variable {question : Question} {answers : List Line}

/-- Answers that are not taken are as good as not given. -/
theorem Question.ask_append (h : question.Declines answers) (later : List Line) :
    (question.ask (answers ++ later)).result = (question.ask later).result ∧
      (question.ask (answers ++ later)).rest = (question.ask later).rest := by
  induction answers with
  | nil => exact ⟨rfl, rfl⟩
  | cons line answers ih =>
    obtain ⟨text, complaint, rfl, haccept⟩ := h line List.mem_cons_self
    rw [List.cons_append, Question.ask, haccept]
    exact ih fun line hline => h line (List.mem_cons_of_mem _ hline)

/-- Once an answer decides a question, no later one counts. -/
theorem Question.ask_append_of_decided (h : ¬ question.Declines answers) (later : List Line) :
    (question.ask (answers ++ later)).result = (question.ask answers).result ∧
      (question.ask (answers ++ later)).rest = (question.ask answers).rest ++ later := by
  induction answers with
  | nil => exact absurd (fun line hline => absurd hline List.not_mem_nil) h
  | cons line answers ih =>
    cases line with
    | none => exact ⟨rfl, rfl⟩
    | some text =>
      rw [List.cons_append, Question.ask, Question.ask]
      cases haccept : question.form.accept (String.ofList (Text.trim text.toList)) with
      | ok value => exact ⟨rfl, rfl⟩
      | error complaint =>
        refine ih fun hrest => h fun line hline => ?_
        rcases List.mem_cons.mp hline with rfl | hline
        · exact ⟨text, complaint, rfl, haccept⟩
        · exact hrest line hline

/-- A question to which no answer is taken meets the end of the answers. -/
theorem Question.ask_of_declines (h : question.Declines answers) :
    (question.ask answers).result = (question.ask []).result ∧
      (question.ask answers).rest = [] := by
  have happend := question.ask_append h []
  rw [List.append_nil] at happend
  exact happend

/-- A key is missing when a question meets the end of the answers and cannot do without one. -/
theorem Question.declines_of_missing {key : String}
    (h : (question.ask answers).result = .error (.config (.missing key))) :
    question.Declines answers ∧ question.form.closed = none := by
  induction answers with
  | nil =>
    refine ⟨fun line hline => absurd hline List.not_mem_nil, ?_⟩
    rw [Question.ask] at h
    cases hclosed : question.form.closed with
    | none => rfl
    | some text =>
      simp only [hclosed] at h
      cases h
  | cons line answers ih =>
    cases line with
    | none => cases h
    | some text =>
      rw [Question.ask] at h
      cases haccept : question.form.accept (String.ofList (Text.trim text.toList)) with
      | ok value =>
        simp only [haccept] at h
        cases h
      | error complaint =>
        simp only [haccept] at h
        obtain ⟨hrest, hclosed⟩ := ih h
        refine ⟨fun line hline => ?_, hclosed⟩
        rcases List.mem_cons.mp hline with rfl | hline
        · exact ⟨text, complaint, rfl, haccept⟩
        · exact hrest line hline

/-- A question that can do without an answer takes a blank line like the end of the answers. -/
theorem Question.ask_blank {text : String} (hclosed : question.form.closed = some text)
    (later : List Line) :
    (question.ask (some "\n" :: later)).result = .ok text ∧
      (question.ask (some "\n" :: later)).rest = later := by
  have haccept : question.form.accept (String.ofList (Text.trim "\n".toList)) = .ok text := by
    cases hform : question.form with
    | free =>
      rw [hform] at hclosed
      obtain rfl := Option.some.inj hclosed
      rfl
    | required | choice | proposed | basePath =>
      rw [hform] at hclosed
      cases hclosed
  rw [Question.ask, haccept]
  exact ⟨rfl, rfl⟩

/-- What stands for answers that are not taken is what stands for the end of the answers. -/
theorem Question.closed_of_declines {text : String} (hall : question.Declines answers)
    (h : (question.ask answers).result = .ok text) : question.form.closed = some text := by
  rw [(question.ask_of_declines hall).1, Question.ask] at h
  cases hclosed : question.form.closed with
  | none =>
    simp only [hclosed] at h
    cases h
  | some value =>
    simp only [hclosed] at h
    rw [Except.ok.inj h]

end

end RemoteGateway.Prompt
