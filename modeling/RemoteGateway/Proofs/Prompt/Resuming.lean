import RemoteGateway.Proofs.Prompt.Course

/-!
# Interrupted sessions

A session whose answers run out stops at the question that it cannot do without, and what was
answered until then is stored. Another session can take up from there. All questions but one
then go on as if nothing had happened: those that were answered are not open any more, those
that were left out still are left out, and the one at which the session stopped is asked again
(`Stops.resume`). The exception is the question for an e-mail address, which takes the end of the
answers for an empty one and remembers it. `collect_resume` says what this means: resuming equals
answering in one go exactly when this question did not meet the end of the answers, and otherwise
it equals answering in one go with a blank line between the two parts.
-/

namespace RemoteGateway.Prompt

open Document (Apart Store Value segments)

/-! ### Sessions that stop -/

/-- What happens to some questions when the answers run out before they are decided: the keys
that are stored, a blank line for each question that took the end of the answers for an empty
one, and where the session stops. -/
inductive Stops : List Question → Session → List String → List Line → Session → Prop
  | here {question : Question} {rest : List Question} {session : Session}
      (hopen : question.isOpen session.store.document = true)
      (hall : question.Declines session.answers) (hneeds : question.form.closed = none) :
      Stops (question :: rest) session [] [] (session.heard (question.ask session.answers))
  | skip {question : Question} {rest : List Question} {session cut : Session}
      {keys : List String} {blank : List Line}
      (hclosed : question.isOpen session.store.document = false)
      (hrest : Stops rest session keys blank cut) : Stops (question :: rest) session keys blank cut
  | answer {question : Question} {rest : List Question} {session cut : Session}
      {keys : List String} {blank : List Line} {text : String} {store : Store} {tree : FileTree}
      (hopen : question.isOpen session.store.document = true)
      (hdecided : ¬ question.Declines session.answers)
      (hask : (question.ask session.answers).result = .ok text)
      (hset : session.store.set question.key (.text text) session.tree = (.ok (), store, tree))
      (hrest : Stops rest { session.heard (question.ask session.answers) with store, tree }
        keys blank cut) :
      Stops (question :: rest) session (question.key :: keys) blank cut
  | close {question : Question} {rest : List Question} {session cut : Session}
      {keys : List String} {blank : List Line} {text : String} {store : Store} {tree : FileTree}
      (hopen : question.isOpen session.store.document = true)
      (hall : question.Declines session.answers)
      (hask : (question.ask session.answers).result = .ok text)
      (hset : session.store.set question.key (.text text) session.tree = (.ok (), store, tree))
      (hrest : Stops rest { session.heard (question.ask session.answers) with store, tree }
        keys blank cut) :
      Stops (question :: rest) session (question.key :: keys) (some "\n" :: blank) cut

/-- What keeps an answer from being stored is not that a key is missing. -/
theorem set_ne_missing {store after : Store} {key missing : String} {value : Value}
    {tree tree' : FileTree} :
    store.set key value tree ≠ (.error (.config (.missing missing)), after, tree') := by
  have hpersist : ∀ other : Store,
      (other.persist tree).1 ≠ .error (.config (.missing missing)) := by
    intro other h
    rw [Store.persist] at h
    split at h
    · cases h
    · cases h
  intro h
  rw [Store.set] at h
  split at h
  · exact hpersist _ (congrArg Prod.fst h)
  · cases h

/-- **A session that misses a key has stopped.** -/
theorem stops_of_collectAll {questions : List Question} {session cut : Session} {key : String}
    (h : session.collectAll questions = (.error (.config (.missing key)), cut)) :
    ∃ keys blank, Stops questions session keys blank cut := by
  induction questions generalizing session with
  | nil => cases h
  | cons question rest ih =>
    rw [Session.collectAll] at h
    split at h
    · next hopen =>
      simp only at h
      split at h
      · next fault hask =>
        cases h
        obtain ⟨hall, hneeds⟩ := Question.declines_of_missing hask
        exact ⟨_, _, .here hopen hall hneeds⟩
      · next text hask =>
        split at h
        · next fault store tree hset =>
          cases h
          exact absurd hset set_ne_missing
        · next store tree hset =>
          split at h
          · cases h
          · next fault after hlater =>
            cases h
            obtain ⟨keys, blank, hrest⟩ := ih hlater
            by_cases hall : question.Declines session.answers
            · exact ⟨_, _, .close hopen hall hask hset hrest⟩
            · exact ⟨_, _, .answer hopen hall hask hset hrest⟩
    · next hclosed =>
      obtain ⟨keys, blank, hrest⟩ := ih h
      exact ⟨keys, blank, .skip (Bool.eq_false_iff.mpr hclosed) hrest⟩

namespace Stops

variable {questions : List Question} {question : Question} {session cut : Session}
  {keys : List String} {blank : List Line}

/-- A question that ignores others is as open behind them as in front of them. -/
theorem isOpen_eq (h : Stops questions session keys blank cut)
    (hignores : ∀ other ∈ questions, question.Ignores other) :
    question.isOpen cut.store.document = question.isOpen session.store.document := by
  induction h with
  | here => rfl
  | skip _ _ ih => exact ih fun other hother => hignores other (List.mem_cons_of_mem _ hother)
  | answer _ _ _ hset _ ih | close _ _ _ hset _ ih =>
    rw [ih fun other hother => hignores other (List.mem_cons_of_mem _ hother)]
    exact (congrArg question.isOpen (document_of_set hset)).trans
      (hignores _ List.mem_cons_self _ _)

/-- A question that was answered is not asked again. -/
theorem isOpen_eq_false {text : String} {store : Store} {tree : FileTree}
    (hstated : question.form.IsStated) (hask : (question.ask session.answers).result = .ok text)
    (hset : session.store.set question.key (.text text) session.tree = (.ok (), store, tree))
    (hignores : ∀ other ∈ questions, question.Ignores other)
    (h : Stops questions { session.heard (question.ask session.answers) with store, tree }
      keys blank cut) :
    question.isOpen cut.store.document = false := by
  rw [h.isOpen_eq hignores]
  exact (congrArg question.isOpen (document_of_set hset)).trans
    (Question.isOpen_store_self (takes_of_ask hask) hstated)

/-- **Resuming.** A session that takes up where another one stopped ends as that one would have
ended if it had been given the other answers as well, and a blank line for each question that met
the end of the answers. -/
theorem resume (h : Stops questions session keys blank cut)
    (hignores : questions.Pairwise Question.Ignores)
    (hstated : ∀ question ∈ questions, question.form.IsStated) (later : List Line) :
    (session.answering (session.answers ++ (blank ++ later))).ended questions =
      ((cut.answering later).ended questions).behind keys := by
  induction h with
  | @here question rest session hopen hall hneeds =>
    -- The question is asked again, and its answers so far were not taken.
    rw [Ended.behind_nil, List.nil_append]
    obtain ⟨hresult, hrest⟩ := question.ask_append hall later
    exact Session.ended_congr_ask rfl rfl hresult hrest
      (fun _ _ => Session.ended_congr rest) hopen
  | @skip question rest session cut keys blank hclosed hrest ih =>
    obtain ⟨hquestion, hignores⟩ := List.pairwise_cons.mp hignores
    have hwhole : question.isOpen
        (session.answering (session.answers ++ (blank ++ later))).store.document = false := hclosed
    have hcut : question.isOpen (cut.answering later).store.document = false :=
      (hrest.isOpen_eq hquestion).trans hclosed
    rw [Session.ended_skip hwhole, Session.ended_skip hcut]
    exact ih hignores fun question hmem => hstated question (List.mem_cons_of_mem _ hmem)
  | @answer question rest session cut keys blank text store tree hopen hdecided hask hset hrest
      ih =>
    obtain ⟨hquestion, hignores⟩ := List.pairwise_cons.mp hignores
    obtain ⟨hresult, hleft⟩ := question.ask_append_of_decided hdecided (blank ++ later)
    have hwhole : question.isOpen
        (session.answering (session.answers ++ (blank ++ later))).store.document = true := hopen
    have hclosed := hrest.isOpen_eq_false (hstated _ List.mem_cons_self) hask hset hquestion
    have hcut : question.isOpen (cut.answering later).store.document = false := hclosed
    have hrun := ih hignores fun question hmem => hstated question (List.mem_cons_of_mem _ hmem)
    rw [Session.ended_answer hwhole (hresult.trans hask) hset, Session.ended_skip hcut,
      Ended.behind_cons _ keys, ← hrun]
    exact congrArg _ (Session.ended_congr rest rfl rfl hleft)
  | @close question rest session cut keys blank text store tree hopen hall hask hset hrest ih =>
    obtain ⟨hquestion, hignores⟩ := List.pairwise_cons.mp hignores
    obtain ⟨hresult, hleft⟩ :=
      question.ask_append hall ((some "\n" :: blank) ++ later)
    obtain ⟨hblank, hbehind⟩ :=
      question.ask_blank (question.closed_of_declines hall hask) (blank ++ later)
    have hwhole : question.isOpen
        (session.answering (session.answers ++ ((some "\n" :: blank) ++ later))).store.document =
          true := hopen
    have hclosed := hrest.isOpen_eq_false (hstated _ List.mem_cons_self) hask hset hquestion
    have hcut : question.isOpen (cut.answering later).store.document = false := hclosed
    have hrun := ih hignores fun question hmem => hstated question (List.mem_cons_of_mem _ hmem)
    rw [Session.ended_answer hwhole (hresult.trans hblank) hset, Session.ended_skip hcut,
      Ended.behind_cons _ keys, ← hrun]
    refine congrArg _ (Session.ended_congr rest rfl rfl ?_)
    change _ = (question.ask session.answers).rest ++ (blank ++ later)
    rw [(question.ask_of_declines hall).2]
    exact hleft.trans hbehind

/-- Where every question needs an answer, none takes the end of the answers for one. -/
theorem blank_eq_nil (h : Stops questions session keys blank cut)
    (hneeds : ∀ question ∈ questions, question.form.closed = none) : blank = [] := by
  induction h with
  | here => rfl
  | skip _ _ ih | answer _ _ _ _ _ ih =>
    exact ih fun question hmem => hneeds question (List.mem_cons_of_mem _ hmem)
  | close _ hall hask _ _ _ =>
    have hclosed := Question.closed_of_declines hall hask
    rw [hneeds _ List.mem_cons_self] at hclosed
    cases hclosed

/-- Where the answers of a session run out: among the questions before, or behind them. -/
theorem append {before rest : List Question} (h : Stops (before ++ rest) session keys blank cut)
    (hneeds : ∀ question ∈ before, question.form.closed = none) :
    (blank = [] ∧ ∃ fault, (session.ended before).result = .error fault) ∨
      ∃ keys₁ keys₂ shown, (session.ended before).result = .ok keys₁ ∧
        Stops rest { (session.ended before).turn with shown } keys₂ blank cut := by
  induction before generalizing session keys with
  | nil => exact .inr ⟨[], keys, session.shown, rfl, h⟩
  | cons question before ih =>
    have hlater := fun q hq => hneeds q (List.mem_cons_of_mem _ hq)
    cases h with
    | here hopen hall hclosed =>
      have hask : (question.ask session.answers).result =
          .error (.config (.missing question.key)) := by
        rw [(question.ask_of_declines hall).1, Question.ask, hclosed]
      refine .inl ⟨rfl, .config (.missing question.key), ?_⟩
      rw [Session.ended_fault hopen hask]
    | skip hclosed hrest =>
      rw [Session.ended_skip hclosed]
      exact ih hrest hlater
    | answer hopen hdecided hask hset hrest =>
      rw [Session.ended_answer hopen hask hset]
      rcases ih hrest hlater with ⟨hblank, fault, hfault⟩ | ⟨keys₁, keys₂, shown, hkeys, hstops⟩
      · exact .inl ⟨hblank, fault, Outcome.map_eq_error.mpr hfault⟩
      · exact .inr ⟨_, keys₂, shown, Outcome.map_eq_ok.mpr ⟨keys₁, hkeys, rfl⟩, hstops⟩
    | close hopen hall hask hset hrest =>
      have hclosed := Question.closed_of_declines hall hask
      rw [hneeds _ List.mem_cons_self] at hclosed
      cases hclosed

end Stops

/-! ### The question for an e-mail address -/

/-- The questions in front of the one for an e-mail address. -/
def firstQuestions : List Question :=
  [databasePassword, adminPassword, certificateSource, urlMode, domain]

/-- The questions behind the one for an e-mail address. -/
def lastQuestions : List Question :=
  [basePath, subdomain]

/-- The question for an e-mail address is asked when there is no answer left. -/
def Session.MeetsEnd (session : Session) : Prop :=
  (∃ keys, (session.ended firstQuestions).result = .ok keys) ∧
    (session.ended firstQuestions).rest = [] ∧
    email.isOpen (session.ended firstQuestions).store.document = true

section

variable {session cut : Session} {keys : List String} {blank : List Line}

theorem email_declines_iff {answers : List Line} : email.Declines answers ↔ answers = [] := by
  constructor
  · intro h
    cases answers with
    | nil => rfl
    | cons line answers =>
      obtain ⟨text, complaint, -, haccept⟩ := h line List.mem_cons_self
      cases haccept
  · rintro rfl line hline
    exact absurd hline List.not_mem_nil

/-- Only the question for an e-mail address can meet the end of the answers and go on. -/
theorem Stops.blank_eq (h : Stops questions session keys blank cut) :
    (blank = [] ∧ ¬ session.MeetsEnd) ∨ (blank = [some "\n"] ∧ session.MeetsEnd) := by
  have hfirst : ∀ question ∈ firstQuestions, question.form.closed = none := by decide
  have hlast : ∀ question ∈ lastQuestions, question.form.closed = none := by decide
  have hall : Stops (firstQuestions ++ email :: lastQuestions) session keys blank cut := h
  rcases hall.append hfirst with ⟨hblank, fault, hfault⟩ | ⟨keys₁, keys₂, shown, hkeys, hstops⟩
  · refine .inl ⟨hblank, ?_⟩
    rintro ⟨⟨keys, hkeys⟩, -, -⟩
    rw [hfault] at hkeys
    cases hkeys
  · cases hstops with
    | here _ _ hclosed => cases hclosed
    | skip hclosed hrest =>
      refine .inl ⟨hrest.blank_eq_nil hlast, ?_⟩
      rintro ⟨-, -, hopen⟩
      exact absurd hopen (Bool.eq_false_iff.mp hclosed)
    | answer _ hdecided _ _ hrest =>
      refine .inl ⟨hrest.blank_eq_nil hlast, ?_⟩
      rintro ⟨-, hanswers, -⟩
      exact hdecided (email_declines_iff.mpr hanswers)
    | close hopen hdeclines _ _ hrest =>
      refine .inr ⟨?_, ⟨keys₁, hkeys⟩, email_declines_iff.mp hdeclines, hopen⟩
      rw [hrest.blank_eq_nil hlast]

/-- The address that is answered is there in the end. -/
theorem find?_ended_email {text : String} (hopen : email.isOpen session.store.document = true)
    (hask : (email.ask session.answers).result = .ok text) :
    (session.ended (email :: lastQuestions)).store.document.find? ["ssl", "email"] =
      some (.text text) := by
  have hkey : Document.IsKeyPath email.key := by decide
  have hlast : ∀ question ∈ lastQuestions, Apart (segments question.key) ["ssl", "email"] := by
    decide
  have hstored : (session.store.document.store (.text text) (segments email.key)).find?
      ["ssl", "email"] = some (.text text) := Value.find?_store_self _ _ _
  rcases hset : session.store.set email.key (.text text) session.tree with ⟨_ | _, store, tree⟩
  · rw [Session.ended_unwritten hopen hask hset]
    exact (congrArg (Value.find? · _) (document_of_set_of_isKeyPath hkey hset)).trans hstored
  · rw [Session.ended_answer hopen hask hset]
    refine (Session.find?_ended hlast).trans ?_
    exact (congrArg (Value.find? · _) (document_of_set_of_isKeyPath hkey hset)).trans hstored

/-- Whoever has more answers when this question would meet the end has the next one taken for
the address. -/
theorem Session.MeetsEnd.find?_email (h : session.MeetsEnd) (line : String) (later : List Line) :
    ((session.answering (session.answers ++ some line :: later)).ended
        questions).store.document.find? ["ssl", "email"] =
      some (.text (String.ofList (Text.trim line.toList))) := by
  obtain ⟨⟨keys, hkeys⟩, hrest, hopen⟩ := h
  have hfirst : ∀ question ∈ firstQuestions, question.form.closed = none := by decide
  have hrun := Session.ended_answering hfirst hkeys (some line :: later)
  have hquestions : questions = firstQuestions ++ email :: lastQuestions := rfl
  rw [hquestions, Session.ended_append, hrun, hkeys, hrest]
  exact find?_ended_email hopen rfl

/-- At the end of the answers the empty address is stored, and nothing else. -/
theorem document_ended_email (hopen : email.isOpen session.store.document = true)
    (hanswers : session.answers = []) :
    (session.ended (email :: lastQuestions)).store.document =
      session.store.document.store (.text "") ["ssl", "email"] := by
  have hkey : Document.IsKeyPath email.key := by decide
  have hlast : ∀ question ∈ lastQuestions, question.form.closed = none := by decide
  have hask : (email.ask session.answers).result = .ok "" := by
    rw [hanswers]
    rfl
  rcases hset : session.store.set email.key (.text "") session.tree with ⟨_ | _, store, tree⟩
  · rw [Session.ended_unwritten hopen hask hset]
    exact document_of_set_of_isKeyPath hkey hset
  · rw [Session.ended_answer hopen hask hset]
    have hrest : (email.ask session.answers).rest = [] := by
      rw [hanswers]
      rfl
    have hsame : (Session.ended lastQuestions
        { session.heard (email.ask session.answers) with store, tree }).turn =
          ⟨store, tree, (email.ask session.answers).rest, ""⟩ :=
      Session.ended_of_answers_eq_nil hlast hrest
    exact (congrArg (fun turn => turn.store.document) hsame).trans
      (document_of_set_of_isKeyPath hkey hset)

/-- **The end of the answers alone** stores nothing but an empty address. -/
theorem Session.ended_of_no_answers (hanswers : session.answers = []) :
    (¬ session.MeetsEnd → (session.ended questions).store = session.store ∧
      (session.ended questions).tree = session.tree) ∧
    (session.MeetsEnd → (session.ended questions).store.document =
      session.store.document.store (.text "") ["ssl", "email"]) := by
  have hfirst : ∀ question ∈ firstQuestions, question.form.closed = none := by decide
  have hlast : ∀ question ∈ lastQuestions, question.form.closed = none := by decide
  have hquestions : questions = firstQuestions ++ email :: lastQuestions := rfl
  have hturn := Session.ended_of_answers_eq_nil hfirst hanswers
  have hstore : (session.ended firstQuestions).store = session.store :=
    congrArg (fun turn => turn.store) hturn
  have htree : (session.ended firstQuestions).tree = session.tree :=
    congrArg (fun turn => turn.tree) hturn
  have hrest : (session.ended firstQuestions).rest = [] :=
    (congrArg (fun turn => turn.answers) hturn).trans hanswers
  rw [hquestions, Session.ended_append]
  cases hresult : (session.ended firstQuestions).result with
  | error fault =>
    refine ⟨fun _ => ⟨hstore, htree⟩, ?_⟩
    rintro ⟨⟨keys, hkeys⟩, -, -⟩
    rw [hresult] at hkeys
    cases hkeys
  | ok keys =>
    cases hopen : email.isOpen (session.ended firstQuestions).turn.store.document with
    | false =>
      have hlater := Session.ended_of_answers_eq_nil hlast
        (show (session.ended firstQuestions).turn.answers = [] from hrest)
      rw [Session.ended_skip hopen]
      refine ⟨fun _ => ⟨(congrArg (fun turn => turn.store) hlater).trans hstore,
        (congrArg (fun turn => turn.tree) hlater).trans htree⟩, ?_⟩
      rintro ⟨-, -, hmeets⟩
      exact absurd hmeets (Bool.eq_false_iff.mp hopen)
    | true =>
      refine ⟨fun hmeets => absurd ⟨⟨keys, hresult⟩, hrest, hopen⟩ hmeets, fun _ => ?_⟩
      refine (document_ended_email hopen hrest).trans ?_
      rw [Ended.turn, hstore]

end

/-! ### Interrupting and resuming -/

/-- **Resuming an interrupted session.** When the answers run out, what is left to do can be done
in another session, which ends as one session with all answers does. This holds exactly if the
question for an e-mail address did not meet the end of the answers: otherwise the session took a
blank line for the address that was never given, and the address is lost. -/
theorem collect_resume (session : Session) :
    (∀ key cut, session.collect = (.error (.config (.missing key)), cut) → ∃ earlier,
      (¬ session.MeetsEnd → ∀ later,
        (session.answering (session.answers ++ later)).ended questions =
          ((cut.answering later).ended questions).behind earlier) ∧
      (session.MeetsEnd → ∀ later,
        (session.answering (session.answers ++ some "\n" :: later)).ended questions =
            ((cut.answering later).ended questions).behind earlier ∧
          ∀ line, Text.trim line.toList ≠ [] →
            ((session.answering (session.answers ++ some line :: later)).ended
                questions).store.document ≠
              ((cut.answering (some line :: later)).ended questions).store.document)) ∧
    (session.answers = [] →
      (¬ session.MeetsEnd → (session.ended questions).store = session.store ∧
        (session.ended questions).tree = session.tree) ∧
      (session.MeetsEnd → (session.ended questions).store.document =
        session.store.document.store (.text "") ["ssl", "email"])) := by
  refine ⟨fun key cut h => ?_, Session.ended_of_no_answers⟩
  have hstated : ∀ question ∈ questions, question.form.IsStated := by decide
  obtain ⟨earlier, blank, hstops⟩ := stops_of_collectAll h
  have hresume := hstops.resume pairwise_ignores hstated
  refine ⟨earlier, ?_⟩
  rcases hstops.blank_eq with ⟨rfl, hnot⟩ | ⟨rfl, hmeets⟩
  · exact ⟨fun _ => hresume, fun hmeets => absurd hmeets hnot⟩
  · refine ⟨fun hnot => absurd hmeets hnot, fun _ later =>
      ⟨hresume later, fun line hline hsame => ?_⟩⟩
    -- Resumed, the session goes on as if a blank line had come before the address.
    have haddress := hmeets.find?_email line later
    have hblank := hmeets.find?_email "\n" (some line :: later)
    have hresumed := congrArg (fun ended => ended.store.document) (hresume (some line :: later))
    have hfind := congrArg (Value.find? · ["ssl", "email"]) (hsame.trans hresumed.symm)
    have htext := Value.text.inj (Option.some.inj (haddress.symm.trans (hfind.trans hblank)))
    exact hline (String.ofList_injective htext)

/-- A session for a site with a requested certificate that is asked for an address and for the
base path. -/
def unaddressed (answers : List Line) : Session where
  store :=
    { path := "stack.json"
      document := .object
        [("database", .object [("password", .text "db secret")]),
          ("guacamole", .object [("admin_password", .text "admin secret")]),
          ("nginx", .object [("url_mode", .text "path")]),
          ("ssl", .object [("domain", .text "example.org"), ("mode", .text "letsencrypt")])] }
  tree := .empty
  answers := answers
  shown := ""

/-- Interrupted at the question for an address, the session loses it; interrupted behind the
address, it does not. -/
theorem collect_resume_unaddressed :
    (∃ cut, (unaddressed []).collect = (.error (.config (.missing "nginx.base_path")), cut) ∧
      ((unaddressed [some "ops@example.org\n", some "/remote/\n"]).ended
          questions).store.document ≠
        ((cut.answering [some "ops@example.org\n", some "/remote/\n"]).ended
          questions).store.document) ∧
    ∃ cut, (unaddressed [some "ops@example.org\n"]).collect =
        (.error (.config (.missing "nginx.base_path")), cut) ∧
      ((unaddressed [some "ops@example.org\n", some "/remote/\n"]).ended
          questions).store.document =
        ((cut.answering [some "/remote/\n"]).ended questions).store.document := by
  constructor
  · obtain ⟨cut, hcut⟩ : ∃ cut, (unaddressed []).collect =
        (.error (.config (.missing "nginx.base_path")), cut) := ⟨_, rfl⟩
    obtain ⟨earlier, -, hlost⟩ := (collect_resume (unaddressed [])).1 _ cut hcut
    have hmeets : (unaddressed []).MeetsEnd := ⟨⟨_, rfl⟩, rfl, rfl⟩
    exact ⟨cut, hcut, (hlost hmeets [some "/remote/\n"]).2 "ops@example.org\n" (by decide)⟩
  · obtain ⟨cut, hcut⟩ : ∃ cut, (unaddressed [some "ops@example.org\n"]).collect =
        (.error (.config (.missing "nginx.base_path")), cut) := ⟨_, rfl⟩
    obtain ⟨earlier, hkept, -⟩ :=
      (collect_resume (unaddressed [some "ops@example.org\n"])).1 _ cut hcut
    have hmeets : ¬ (unaddressed [some "ops@example.org\n"]).MeetsEnd := by
      rintro ⟨-, hrest, -⟩
      cases hrest
    exact ⟨cut, hcut, congrArg (fun ended => ended.store.document)
      (hkept hmeets [some "/remote/\n"])⟩

end RemoteGateway.Prompt
