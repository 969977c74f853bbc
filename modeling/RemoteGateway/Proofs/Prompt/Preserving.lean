import RemoteGateway.Proofs.Document.Persistence
import RemoteGateway.Proofs.Prompt.Course

/-!
# What a session leaves alone

No session overwrites what is configured. A question whose key is answered already is not asked,
and what stands at its key stays as it was; so does all that lies apart from the keys of the
questions. What was answered stays in the document, and as long as no writing fails it is in the
file, too. All of this holds however the session ends (`course_spares`).
-/

namespace RemoteGateway.Prompt

open Document (Apart IsKeyPath Store Value getText?_of_find?_eq segments)

/-! ### Answered questions -/

/-- Whether a document says what a question asks for. -/
def Question.isAnswered (question : Question) (document : Value) : Bool :=
  match question.form with
  | .free => (document.get? question.key).isSome
  | _ => (document.getText? question.key).isSome

theorem Question.isAnswered_congr (question : Question) {document other : Value}
    (h : document.find? (segments question.key) = other.find? (segments question.key)) :
    question.isAnswered document = question.isAnswered other := by
  rw [isAnswered, isAnswered, getText?_of_find?_eq h, Value.get?, Value.get?, h]

/-- All questions but the ones for any answer are answered by a text. -/
theorem Question.isAnswered_eq {question : Question} (h : question.form ≠ .free)
    (document : Value) :
    question.isAnswered document = (document.getText? question.key).isSome := by
  rw [isAnswered]
  cases hform : question.form with
  | free => exact absurd hform h
  | required | choice | proposed | basePath => rfl

/-- A question is open when it is relevant and not answered. -/
theorem Question.isOpen_eq_and_not (question : Question) (document : Value) :
    question.isOpen document = (question.relevant document && !question.isAnswered document) := by
  rw [isOpen, isAnswered]
  cases question.form with
  | free => rw [Option.not_isSome]
  | required | choice | proposed | basePath => rw [Option.not_isSome, Value.isUnset]

/-- Keys whose places are apart are different. -/
theorem ne_of_apart {key other : String} (h : Apart (segments key) (segments other)) :
    key ≠ other := by
  rintro rfl
  exact h.1 (List.prefix_refl _)

/-- Of some questions, one that is answered comes behind one that is open. -/
theorem mem_of_isOpen {question head : Question} {rest : List Question} {document : Value}
    (hapart : (head :: rest).Pairwise fun p q => Apart (segments p.key) (segments q.key))
    (hmem : question ∈ head :: rest) (hopen : head.isOpen document = true)
    (hanswered : question.isAnswered document = true) :
    question ∈ rest ∧ Apart (segments head.key) (segments question.key) := by
  rcases List.mem_cons.mp hmem with rfl | hmem
  · rw [question.isOpen_eq_and_not, hanswered, Bool.not_true, Bool.and_false] at hopen
    exact absurd hopen Bool.false_ne_true
  · exact ⟨hmem, (List.pairwise_cons.mp hapart).1 question hmem⟩

namespace Course

variable {questions : List Question} {session after : Session} {exchanges : List Exchange}
  {result : Except Fault (List String)}

/-! ### The document -/

/-- **What is answered already is not asked for and stays as it was**, however the session
ends. -/
theorem keeps (h : Course questions session exchanges result after) {question : Question}
    (hapart : questions.Pairwise fun p q => Apart (segments p.key) (segments q.key))
    (hmem : question ∈ questions)
    (hanswered : question.isAnswered session.store.document = true) :
    after.store.document.find? (segments question.key) =
        session.store.document.find? (segments question.key) ∧
      ∀ exchange ∈ exchanges, exchange.question.key ≠ question.key := by
  induction h with
  | nil => exact absurd hmem List.not_mem_nil
  | skip hclosed hrest ih =>
    obtain ⟨hfirst, hlater⟩ := List.pairwise_cons.mp hapart
    rcases List.mem_cons.mp hmem with rfl | hmem
    · refine ⟨hrest.find?_of_apart fun q hq => (hfirst q hq).symm, fun exchange hexchange => ?_⟩
      exact ne_of_apart (hfirst _ (hrest.of_mem_exchanges hexchange).1).symm
    · exact ih hlater hmem hanswered
  | unanswered hopen _ _ =>
    obtain ⟨-, hhead⟩ := mem_of_isOpen hapart hmem hopen hanswered
    refine ⟨rfl, fun exchange hexchange => ?_⟩
    obtain rfl := List.mem_singleton.mp hexchange
    exact ne_of_apart hhead
  | unwritten _ hopen _ _ hset =>
    obtain ⟨-, hhead⟩ := mem_of_isOpen hapart hmem hopen hanswered
    refine ⟨Store.find?_of_setBy hhead hset, fun exchange hexchange => ?_⟩
    obtain rfl := List.mem_singleton.mp hexchange
    exact ne_of_apart hhead
  | answered _ hopen _ _ hset _ ih =>
    obtain ⟨hmem, hhead⟩ := mem_of_isOpen hapart hmem hopen hanswered
    -- What was stored is apart from the key, so the question counts as answered after it, too.
    have hsame := Store.find?_of_setBy hhead hset
    obtain ⟨hfind, hkeys⟩ := ih (List.pairwise_cons.mp hapart).2 hmem
      ((question.isAnswered_congr hsame).trans hanswered)
    refine ⟨hfind.trans hsame, fun exchange hexchange => ?_⟩
    rcases List.mem_cons.mp hexchange with rfl | hexchange
    · exact ne_of_apart hhead
    · exact hkeys exchange hexchange

/-- **What was answered is there in the end**, however the session ends. -/
theorem find?_of_mem_exchanges (h : Course questions session exchanges result after)
    (hapart : questions.Pairwise fun p q => Apart (segments p.key) (segments q.key))
    (hkeys : ∀ question ∈ questions, IsKeyPath question.key) {exchange : Exchange}
    (hmem : exchange ∈ exchanges) {text : String} (htext : exchange.asked.result = .ok text) :
    after.store.document.find? (segments exchange.question.key) = some (.text text) := by
  induction h with
  | nil => exact absurd hmem List.not_mem_nil
  | skip _ _ ih =>
    exact ih (List.pairwise_cons.mp hapart).2
      (fun q hq => hkeys q (List.mem_cons_of_mem _ hq)) hmem
  | unanswered _ _ hask =>
    obtain rfl := List.mem_singleton.mp hmem
    rw [hask] at htext
    cases htext
  | unwritten _ _ _ hask hset =>
    obtain rfl := List.mem_singleton.mp hmem
    obtain rfl := Except.ok.inj (htext.symm.trans hask)
    rw [Store.eq_of_setBy (hkeys _ List.mem_cons_self) hset]
    exact Value.find?_store_self _ _ _
  | answered _ _ _ hask hset hrest ih =>
    obtain ⟨hfirst, hlater⟩ := List.pairwise_cons.mp hapart
    rcases List.mem_cons.mp hmem with rfl | hmem
    · obtain rfl := Except.ok.inj (htext.symm.trans hask)
      rw [hrest.find?_of_apart fun q hq => (hfirst q hq).symm,
        Store.eq_of_setBy (hkeys _ List.mem_cons_self) hset]
      exact Value.find?_store_self _ _ _
    · exact ih hlater (fun q hq => hkeys q (List.mem_cons_of_mem _ hq)) hmem

/-! ### The file -/

/-- As long as no writing fails, the file of a store that was in step with it before, or to which
something was stored, is in step with it in the end. -/
theorem holds (h : Course questions session exchanges result after)
    (hwrites : ∀ exchange ∈ exchanges, ∀ fault, exchange.writing ≠ some (.error fault))
    (hfile : session.tree.Holds session.store.path session.store.text.toUTF8 ∨
      ∃ exchange ∈ exchanges, exchange.writing = some (.ok ())) :
    after.tree.Holds after.store.path after.store.text.toUTF8 := by
  induction h with
  | nil =>
    rcases hfile with hholds | ⟨exchange, hmem, -⟩
    · exact hholds
    · exact absurd hmem List.not_mem_nil
  | skip _ _ ih => exact ih hwrites hfile
  | unanswered =>
    rcases hfile with hholds | ⟨exchange, hmem, hwritten⟩
    · exact hholds
    · obtain rfl := List.mem_singleton.mp hmem
      cases hwritten
  | unwritten => exact absurd rfl (hwrites _ List.mem_cons_self _)
  | answered _ _ _ _ hset _ ih =>
    have hstored := Document.holds_of_persist (Store.persist_of_setBy hset).2
    exact ih (fun exchange hmem => hwrites exchange (List.mem_cons_of_mem _ hmem)) (.inl hstored)

end Course

/-! ### All questions -/

/-- A key is left alone: what stands there stays, it is not asked for, and it is not among the keys
that are given in the end. -/
structure LeavesAlone (key : String) (session : Session) (exchanges : List Exchange)
    (result : Except Fault (List String)) (after : Session) : Prop where
  same : after.store.document.find? (segments key) = session.store.document.find? (segments key)
  unasked : ∀ exchange ∈ exchanges, exchange.question.key ≠ key
  ungiven : ∀ keys, result = .ok keys → key ∉ keys

/-- What holds of a session and what it leaves behind. -/
structure Spares (session : Session) (exchanges : List Exchange)
    (result : Except Fault (List String)) (after : Session) : Prop where
  /-- Nothing is shown outside of the exchanges, each of which asks one of the questions. -/
  asks : (∀ exchange ∈ exchanges, exchange.question ∈ questions ∧
      ∃ answers, exchange.question.Asks answers exchange.asked) ∧
    after.shown = exchanges.foldl (fun shown exchange => shown ++ exchange.asked.shown)
      session.shown
  /-- Keys that have a text, other than the one of the e-mail address, are left alone. -/
  texts : ∀ question ∈ questions, question.key ≠ "ssl.email" →
    (session.store.document.getText? question.key).isSome = true →
    LeavesAlone question.key session exchanges result after
  /-- The e-mail address is left alone if it has any value. -/
  email : (session.store.document.get? "ssl.email").isSome = true →
    LeavesAlone "ssl.email" session exchanges result after
  /-- At all paths that neither begin with the key of a question nor are a beginning of one nothing
  changes. -/
  frame : ∀ path, (∀ question ∈ questions, ¬ segments question.key <+: segments path ∧
      ¬ segments path <+: segments question.key) →
    after.store.document.get? path = session.store.document.get? path
  /-- What was answered is in the document. -/
  stored : ∀ exchange ∈ exchanges, ∀ text, exchange.asked.result = .ok text →
    after.store.document.find? (segments exchange.question.key) = some (.text text)
  /-- If anything was written and no writing failed, the document is in the file. -/
  file : (∀ exchange ∈ exchanges, ∀ fault, exchange.writing ≠ some (.error fault)) →
    (∃ exchange ∈ exchanges, exchange.writing = some (.ok ())) →
    after.tree.read session.store.path = .ok after.store.text.toUTF8

section

variable {session after : Session} {exchanges : List Exchange}
  {result : Except Fault (List String)}

/-- A key that is answered already is left alone. -/
theorem Course.leavesAlone (h : Course questions session exchanges result after)
    {question : Question} (hmem : question ∈ questions)
    (hanswered : question.isAnswered session.store.document = true) :
    LeavesAlone question.key session exchanges result after := by
  obtain ⟨hsame, hunasked⟩ := h.keeps apart_questions hmem hanswered
  refine ⟨hsame, hunasked, fun keys hkeys hkey => ?_⟩
  rw [h.keys_eq hkeys] at hkey
  obtain ⟨exchange, hexchange, heq⟩ := List.mem_map.mp hkey
  exact hunasked exchange hexchange heq

theorem Course.spares (h : Course questions session exchanges result after) :
    Spares session exchanges result after where
  asks := ⟨fun _ => h.of_mem_exchanges, h.shown_eq⟩
  texts question hmem hkey htext := by
    have hforms : ∀ question ∈ questions, question.key ≠ "ssl.email" → question.form ≠ .free := by
      decide
    refine h.leavesAlone hmem ?_
    rw [question.isAnswered_eq (hforms question hmem hkey)]
    exact htext
  email hvalue := by
    have hemail : email ∈ questions := List.mem_of_getElem? (rfl : questions[5]? = some email)
    exact h.leavesAlone hemail hvalue
  frame path hpath := by
    rw [Value.get?, h.find?_of_apart hpath, Value.get?]
  stored _ hmem _ := by
    have hkeys : ∀ question ∈ questions, IsKeyPath question.key := by decide
    exact h.find?_of_mem_exchanges apart_questions hkeys hmem
  file hwrites hwritten := by
    rw [← h.path_eq]
    exact (h.holds hwrites (.inr hwritten)).read

end

/-- **No session overwrites what is configured**, whatever is answered, whichever of the answers can
be written, and however the session ends. -/
theorem course_spares (session : Session) :
    (∃ exchanges, Course questions session exchanges session.collect.1 session.collect.2) ∧
      ∀ exchanges result after, Course questions session exchanges result after →
        Spares session exchanges result after :=
  ⟨course_collectAll questions session, fun _ _ _ => Course.spares⟩

/-- A session with one of the passwords and a list in place of the e-mail address. The second answer
cannot be read. -/
def halfConfigured : Session where
  store :=
    { path := "stack.json"
      document := .object
        [("database", .object [("password", .text "db secret")]),
          ("guacamole", .null),
          ("ssl", .object [("email", .list []), ("mode", .text "letsencrypt")])] }
  tree := .empty
  answers := [some "admin secret\n", none]
  shown := ""

/-- The password that was answered is in the file, and the other one is what it was. -/
theorem course_spares_halfConfigured :
    ∃ exchanges after, Course questions halfConfigured exchanges (.error (.io .garbled)) after ∧
      after.tree.read "stack.json" = .ok after.store.text.toUTF8 ∧
      after.store.document.find? ["guacamole", "admin_password"] = some (.text "admin secret") ∧
      after.store.document.find? ["database", "password"] = some (.text "db secret") ∧
      after.store.document.find? ["ssl", "email"] = some (.list []) := by
  have hcourse : Course questions halfConfigured
      [⟨adminPassword, adminPassword.ask [some "admin secret\n", none], some (.ok ())⟩,
        ⟨urlMode, urlMode.ask [none], none⟩] (.error (.io .garbled)) _ :=
    .skip rfl (.answered .whole rfl .whole rfl rfl (.skip rfl (.unanswered rfl .whole rfl)))
  obtain ⟨-, hspares⟩ := course_spares halfConfigured
  have hall := hspares _ _ _ hcourse
  have hpassword := hall.texts databasePassword List.mem_cons_self (by decide) rfl
  refine ⟨_, _, hcourse, ?_, ?_, hpassword.same, (hall.email rfl).same⟩
  · refine hall.file (fun exchange hmem fault hfault => ?_) ⟨_, List.mem_cons_self, rfl⟩
    rcases List.mem_cons.mp hmem with rfl | hmem
    · cases hfault
    · obtain rfl := List.mem_singleton.mp hmem
      cases hfault
  · exact hall.stored _ List.mem_cons_self _ rfl

end RemoteGateway.Prompt
