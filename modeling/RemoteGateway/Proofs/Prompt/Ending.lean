import RemoteGateway.Proofs.Document.Storing
import RemoteGateway.Proofs.Prompt.Asking

/-!
# How sessions end

`Session.ended` is all that a session leaves behind but what it has shown, which nothing depends
on (`Session.ended_congr`). One equation for each way a question can go takes the place of the
definition of a session (`Session.collectAll_answer` and those around it), and
`Session.ended_append` takes the questions apart.
-/

namespace RemoteGateway.Prompt

open Document (Store Value segments)

/-! ### How sessions end -/

/-- How a session ends, whatever it has shown. -/
structure Ended where
  result : Except Fault (List String)
  store : Store
  tree : FileTree
  /-- The answers that were not read. -/
  rest : List Line

/-- How a session ends that asks some questions. -/
def Session.ended (questions : List Question) (session : Session) : Ended :=
  ⟨(session.collectAll questions).1, (session.collectAll questions).2.store,
    (session.collectAll questions).2.tree, (session.collectAll questions).2.answers⟩

/-- The same ending for a session that has stored some keys before. -/
def Ended.behind (earlier : List String) (ended : Ended) : Ended :=
  { ended with result := ended.result.map (earlier ++ ·) }

/-- A session with other answers to read. -/
def Session.answering (session : Session) (answers : List Line) : Session :=
  { session with answers }

/-- A session after a question was asked. -/
def Session.heard (session : Session) (asked : Asked) : Session :=
  { session with answers := asked.rest, shown := session.shown ++ asked.shown }

section

variable {question : Question} {rest : List Question} {session : Session}

theorem Ended.behind_nil (ended : Ended) : ended.behind [] = ended := by
  obtain ⟨result, store, tree, answers⟩ := ended
  cases result <;> rfl

theorem Ended.behind_cons (key : String) (keys : List String) (ended : Ended) :
    ended.behind (key :: keys) = (ended.behind keys).behind [key] := by
  obtain ⟨result, store, tree, answers⟩ := ended
  cases result <;> rfl

/-- A question that is not open is passed. -/
theorem Session.collectAll_skip (h : question.isOpen session.store.document = false) :
    session.collectAll (question :: rest) = session.collectAll rest := by
  rw [collectAll, if_neg (Bool.not_eq_true _ ▸ h)]

/-- A question that cannot be decided ends the session. -/
theorem Session.collectAll_fault {fault : Fault}
    (hopen : question.isOpen session.store.document = true)
    (hask : (question.ask session.answers).result = .error fault) :
    session.collectAll (question :: rest) =
      (.error fault, session.heard (question.ask session.answers)) := by
  rw [collectAll, if_pos hopen]
  simp only [hask]
  rfl

section

variable {text : String} {store : Store} {tree : FileTree}

/-- An answer that cannot be stored ends the session. -/
theorem Session.collectAll_unwritten {fault : Fault}
    (hopen : question.isOpen session.store.document = true)
    (hask : (question.ask session.answers).result = .ok text)
    (hset : session.store.set question.key (.text text) session.tree =
      (.error fault, store, tree)) :
    session.collectAll (question :: rest) =
      (.error fault, { session.heard (question.ask session.answers) with store, tree }) := by
  rw [collectAll, if_pos hopen]
  simp only [hask, hset]
  rfl

/-- After an answer was stored, the session goes on with the other questions. -/
theorem Session.collectAll_answer (hopen : question.isOpen session.store.document = true)
    (hask : (question.ask session.answers).result = .ok text)
    (hset : session.store.set question.key (.text text) session.tree = (.ok (), store, tree)) :
    session.collectAll (question :: rest) =
      ((Session.collectAll rest
          { session.heard (question.ask session.answers) with store, tree }).1.map
            (question.key :: ·),
        (Session.collectAll rest
          { session.heard (question.ask session.answers) with store, tree }).2) := by
  rw [collectAll, if_pos hopen]
  simp only [hask, hset]
  rw [Session.heard]
  split
  · next keys after heq =>
    rw [heq]
    rfl
  · next fault after heq =>
    rw [heq]
    rfl

end

theorem Session.ended_skip (h : question.isOpen session.store.document = false) :
    session.ended (question :: rest) = session.ended rest := by
  rw [Session.ended, collectAll_skip h]
  rfl

theorem Session.ended_fault {fault : Fault} (hopen : question.isOpen session.store.document = true)
    (hask : (question.ask session.answers).result = .error fault) :
    session.ended (question :: rest) =
      ⟨.error fault, session.store, session.tree, (question.ask session.answers).rest⟩ := by
  rw [Session.ended, collectAll_fault hopen hask]
  rfl

theorem Session.ended_unwritten {fault : Fault} {text : String} {store : Store} {tree : FileTree}
    (hopen : question.isOpen session.store.document = true)
    (hask : (question.ask session.answers).result = .ok text)
    (hset : session.store.set question.key (.text text) session.tree =
      (.error fault, store, tree)) :
    session.ended (question :: rest) =
      ⟨.error fault, store, tree, (question.ask session.answers).rest⟩ := by
  rw [Session.ended, collectAll_unwritten hopen hask hset]
  rfl

theorem Session.ended_answer {text : String} {store : Store} {tree : FileTree}
    (hopen : question.isOpen session.store.document = true)
    (hask : (question.ask session.answers).result = .ok text)
    (hset : session.store.set question.key (.text text) session.tree = (.ok (), store, tree)) :
    session.ended (question :: rest) =
      (Session.ended rest
        { session.heard (question.ask session.answers) with store, tree }).behind
          [question.key] := by
  rw [Session.ended, collectAll_answer hopen hask hset]
  rfl

/-- Two sessions go on alike when a question was asked with the same result. -/
theorem Session.ended_congr_ask {other : Session} (hstore : session.store = other.store)
    (htree : session.tree = other.tree)
    (hresult : (question.ask session.answers).result = (question.ask other.answers).result)
    (hrest : (question.ask session.answers).rest = (question.ask other.answers).rest)
    (hlater : ∀ first second : Session, first.store = second.store → first.tree = second.tree →
      first.answers = second.answers → first.ended rest = second.ended rest)
    (hopen : question.isOpen other.store.document = true) :
    session.ended (question :: rest) = other.ended (question :: rest) := by
  have hsame : question.isOpen session.store.document = true := by rw [hstore, hopen]
  cases hask : (question.ask other.answers).result with
  | error fault =>
    rw [ended_fault hsame (hresult.trans hask), ended_fault hopen hask, hstore, htree, hrest]
  | ok text =>
    rcases hset : other.store.set question.key (.text text) other.tree with ⟨_ | _, store, tree⟩
    · rw [ended_unwritten hsame (hresult.trans hask) (by rw [hstore, htree, hset]),
        ended_unwritten hopen hask hset, hrest]
    · rw [ended_answer hsame (hresult.trans hask) (by rw [hstore, htree, hset]),
        ended_answer hopen hask hset]
      exact congrArg _ (hlater _ _ rfl rfl hrest)

/-- **What was shown does not count.** -/
theorem Session.ended_congr (questions : List Question) {session other : Session}
    (hstore : session.store = other.store) (htree : session.tree = other.tree)
    (hanswers : session.answers = other.answers) :
    session.ended questions = other.ended questions := by
  induction questions generalizing session other with
  | nil =>
    rw [Session.ended, Session.ended, Session.collectAll, Session.collectAll, hstore, htree,
      hanswers]
  | cons question rest ih =>
    cases hopen : question.isOpen other.store.document with
    | false =>
      have hsame : question.isOpen session.store.document = false := by rw [hstore, hopen]
      rw [ended_skip hsame, ended_skip hopen, ih hstore htree hanswers]
    | true =>
      exact ended_congr_ask hstore htree (by rw [hanswers]) (by rw [hanswers])
        (fun _ _ => ih) hopen

end

/-! ### One part of the questions after the other -/

section

variable {questions before rest : List Question} {session : Session}

/-- The session in which the questions behind others are asked. -/
def Ended.turn (ended : Ended) : Session :=
  ⟨ended.store, ended.tree, ended.rest, ""⟩

theorem Session.ended_append :
    session.ended (before ++ rest) =
      match (session.ended before).result with
      | .error _ => session.ended before
      | .ok keys => ((session.ended before).turn.ended rest).behind keys := by
  induction before generalizing session with
  | nil =>
    change session.ended rest = (Session.ended rest _).behind []
    rw [Ended.behind_nil]
    exact ended_congr rest rfl rfl rfl
  | cons question before ih =>
    rw [List.cons_append]
    cases hopen : question.isOpen session.store.document with
    | false => rw [ended_skip hopen, ended_skip hopen, ih]
    | true =>
      cases hask : (question.ask session.answers).result with
      | error fault => rw [ended_fault hopen hask, ended_fault hopen hask]
      | ok text =>
        rcases hset : session.store.set question.key (.text text) session.tree with
          ⟨_ | _, store, tree⟩
        · rw [ended_unwritten hopen hask hset, ended_unwritten hopen hask hset]
        · rw [ended_answer hopen hask hset, ended_answer hopen hask hset, ih]
          generalize Session.ended before _ = first
          obtain ⟨_ | keys, store, tree, answers⟩ := first
          · rfl
          · exact (Ended.behind_cons question.key keys _).symm

/-- Questions that need answers and got them take no notice of further answers. -/
theorem Session.ended_answering {keys : List String}
    (hneeds : ∀ question ∈ questions, question.form.closed = none)
    (h : (session.ended questions).result = .ok keys) (later : List Line) :
    (session.answering (session.answers ++ later)).ended questions =
      { session.ended questions with rest := (session.ended questions).rest ++ later } := by
  induction questions generalizing session keys with
  | nil => rfl
  | cons question rest ih =>
    have hrest := fun q hq => hneeds q (List.mem_cons_of_mem _ hq)
    cases hopen : question.isOpen session.store.document with
    | false =>
      have hwhole : question.isOpen
          (session.answering (session.answers ++ later)).store.document = false := hopen
      rw [ended_skip hopen] at h ⊢
      rw [ended_skip hwhole]
      exact ih hrest h
    | true =>
      have hwhole : question.isOpen
          (session.answering (session.answers ++ later)).store.document = true := hopen
      cases hask : (question.ask session.answers).result with
      | error fault =>
        rw [ended_fault hopen hask] at h
        cases h
      | ok text =>
        have hdecided : ¬ question.Declines session.answers := by
          intro hall
          have hclosed := Question.closed_of_declines hall hask
          rw [hneeds _ List.mem_cons_self] at hclosed
          cases hclosed
        obtain ⟨hresult, hleft⟩ := question.ask_append_of_decided hdecided later
        rcases hset : session.store.set question.key (.text text) session.tree with
          ⟨_ | _, store, tree⟩
        · rw [ended_unwritten hopen hask hset] at h
          cases h
        · rw [ended_answer hopen hask hset] at h ⊢
          rw [ended_answer hwhole (hresult.trans hask) hset]
          obtain ⟨keys, hkeys, -⟩ := Outcome.map_eq_ok.mp h
          have hrun := ih hrest hkeys
          refine (congrArg (Ended.behind [question.key]) ?_).trans
            (congrArg (Ended.behind [question.key]) hrun)
          exact ended_congr rest rfl rfl hleft

/-- Without answers, questions that need one change nothing. -/
theorem Session.ended_of_answers_eq_nil
    (hneeds : ∀ question ∈ questions, question.form.closed = none) (h : session.answers = []) :
    (session.ended questions).turn = { session with shown := "" } := by
  induction questions with
  | nil => rfl
  | cons question rest ih =>
    cases hopen : question.isOpen session.store.document with
    | false =>
      rw [ended_skip hopen]
      exact ih fun question hmem => hneeds question (List.mem_cons_of_mem _ hmem)
    | true =>
      have hask : (question.ask session.answers).result =
          .error (.config (.missing question.key)) := by
        rw [h, Question.ask, hneeds _ List.mem_cons_self]
      rw [ended_fault hopen hask, Ended.turn, h]
      rfl

/-- A proper key path is stored to in memory even when the document cannot be written. -/
theorem document_of_set_of_isKeyPath {store after : Store} {key : String} {value : Value}
    {tree tree' : FileTree} {result : Except Fault Unit} (hkey : Document.IsKeyPath key)
    (h : store.set key value tree = (result, after, tree')) :
    after.document = store.document.store value (segments key) := by
  have hchanged := Store.changed_of_set hkey store value tree
  rw [h] at hchanged
  exact congrArg Store.document hchanged

end

end RemoteGateway.Prompt
