import RemoteGateway.Proofs.Document.Reflecting
import RemoteGateway.Proofs.Prompt.Ending

/-!
# The course of a session

A session is a sequence of **exchanges**: a question that is open when its turn comes is asked, and
what is answered is stored and written. `Course` is the relation between a session, its exchanges,
how it ends, and what it leaves behind. It covers every end: all questions were gone through, the
answers ran out, nothing more could be shown or read, or an answer could not be written. Each answer
may be written in a way of its own, so that the host can let any of them fail. The session that asks
the questions by itself is one such course (`course_collectAll`).

The exchanges account for everything: for what was shown (`Course.shown_eq`), for the keys that are
given in the end (`Course.keys_eq`), and for the changes of the document, in which whatever no
question asks for stays as it was (`Course.find?_of_apart`).
-/

namespace RemoteGateway.Prompt

open Document (Apart Store Way segments)

/-! ### Courses -/

/-- How the asking of a question can go. -/
inductive Question.Asks (question : Question) (answers : List Line) : Asked → Prop
  /-- By itself. -/
  | whole : question.Asks answers (question.ask answers)
  /-- It is broken off, since nothing more can be shown or read. -/
  | cut {asked : Asked} {fault : Fault} (hresult : asked.result = .error fault)
      (hshown : asked.shown.toList <+: (question.ask answers).shown.toList)
      (hrest : asked.rest <:+ answers) : question.Asks answers asked

/-- A question that was asked, and how that went. -/
structure Exchange where
  question : Question
  asked : Asked
  /-- How the writing of the answer ended, where there was one. -/
  writing : Option (Except Fault Unit)

/-- How a session goes through some questions. -/
inductive Course : List Question → Session → List Exchange → Except Fault (List String) →
    Session → Prop
  | nil (session : Session) : Course [] session [] (.ok []) session
  | skip {question : Question} {rest : List Question} {session after : Session}
      {exchanges : List Exchange} {result : Except Fault (List String)}
      (hclosed : question.isOpen session.store.document = false)
      (hrest : Course rest session exchanges result after) :
      Course (question :: rest) session exchanges result after
  /-- The answers run out or cannot be read, or the question cannot be shown. -/
  | unanswered {question : Question} {rest : List Question} {session : Session} {asked : Asked}
      {fault : Fault} (hopen : question.isOpen session.store.document = true)
      (hasks : question.Asks session.answers asked) (hask : asked.result = .error fault) :
      Course (question :: rest) session [⟨question, asked, none⟩] (.error fault)
        (session.heard asked)
  /-- An answer cannot be written. -/
  | unwritten {question : Question} {rest : List Question} {session : Session} {asked : Asked}
      {text : String} {fault : Fault} {store : Store} {tree : FileTree} (way : Way)
      (hopen : question.isOpen session.store.document = true)
      (hasks : question.Asks session.answers asked) (hask : asked.result = .ok text)
      (hset : session.store.setBy way question.key (.text text) session.tree =
        (.error fault, store, tree)) :
      Course (question :: rest) session [⟨question, asked, some (.error fault)⟩] (.error fault)
        { session.heard asked with store, tree }
  | answered {question : Question} {rest : List Question} {session after : Session}
      {exchanges : List Exchange} {result : Except Fault (List String)} {asked : Asked}
      {text : String} {store : Store} {tree : FileTree} (way : Way)
      (hopen : question.isOpen session.store.document = true)
      (hasks : question.Asks session.answers asked) (hask : asked.result = .ok text)
      (hset : session.store.setBy way question.key (.text text) session.tree =
        (.ok (), store, tree))
      (hrest : Course rest { session.heard asked with store, tree } exchanges result after) :
      Course (question :: rest) session (⟨question, asked, some (.ok ())⟩ :: exchanges)
        (result.map (question.key :: ·)) after

/-- **A session follows a course.** -/
theorem course_collectAll (questions : List Question) (session : Session) :
    ∃ exchanges, Course questions session exchanges (session.collectAll questions).1
      (session.collectAll questions).2 := by
  induction questions generalizing session with
  | nil => exact ⟨[], .nil session⟩
  | cons question rest ih =>
    cases hopen : question.isOpen session.store.document with
    | false =>
      obtain ⟨exchanges, hrest⟩ := ih session
      rw [Session.collectAll_skip hopen]
      exact ⟨exchanges, .skip hopen hrest⟩
    | true =>
      cases hask : (question.ask session.answers).result with
      | error fault =>
        rw [Session.collectAll_fault hopen hask]
        exact ⟨_, .unanswered hopen .whole hask⟩
      | ok text =>
        rcases hset : session.store.set question.key (.text text) session.tree with
          ⟨fault | _, store, tree⟩
        · rw [Session.collectAll_unwritten hopen hask hset]
          exact ⟨_, .unwritten .whole hopen .whole hask hset⟩
        · obtain ⟨exchanges, hrest⟩ := ih
            { session.heard (question.ask session.answers) with store, tree }
          rw [Session.collectAll_answer hopen hask hset]
          exact ⟨_, .answered .whole hopen .whole hask hset hrest⟩

namespace Course

variable {questions : List Question} {session after : Session} {exchanges : List Exchange}
  {result : Except Fault (List String)}

/-! ### Exchanges -/

/-- Everything that was shown belongs to an exchange. -/
theorem shown_eq (h : Course questions session exchanges result after) :
    after.shown = exchanges.foldl (fun shown exchange => shown ++ exchange.asked.shown)
      session.shown := by
  induction h with
  | nil => rfl
  | skip _ _ ih => exact ih
  | unanswered => rfl
  | unwritten => rfl
  | answered _ _ _ _ _ _ ih => exact ih

/-- An exchange is the asking of one of the questions. -/
theorem of_mem_exchanges (h : Course questions session exchanges result after)
    {exchange : Exchange} (hmem : exchange ∈ exchanges) :
    exchange.question ∈ questions ∧
      ∃ answers, exchange.question.Asks answers exchange.asked := by
  induction h with
  | nil => exact absurd hmem List.not_mem_nil
  | skip _ _ ih => exact ⟨List.mem_cons_of_mem _ (ih hmem).1, (ih hmem).2⟩
  | unanswered _ hasks _ | unwritten _ _ hasks _ _ =>
    obtain rfl := List.mem_singleton.mp hmem
    exact ⟨List.mem_cons_self, _, hasks⟩
  | answered _ _ hasks _ _ _ ih =>
    rcases List.mem_cons.mp hmem with rfl | hmem
    · exact ⟨List.mem_cons_self, _, hasks⟩
    · exact ⟨List.mem_cons_of_mem _ (ih hmem).1, (ih hmem).2⟩

/-- The keys that are given in the end are those of the exchanges. -/
theorem keys_eq (h : Course questions session exchanges result after) {keys : List String}
    (hkeys : result = .ok keys) : keys = exchanges.map fun exchange => exchange.question.key := by
  induction h generalizing keys with
  | nil => exact (Except.ok.inj hkeys).symm
  | skip _ _ ih => exact ih hkeys
  | unanswered => cases hkeys
  | unwritten => cases hkeys
  | answered _ _ _ _ _ _ ih =>
    obtain ⟨later, hlater, rfl⟩ := Outcome.map_eq_ok.mp hkeys
    rw [ih hlater, List.map_cons]

/-! ### The document -/

/-- A session stays with its file. -/
theorem path_eq (h : Course questions session exchanges result after) :
    after.store.path = session.store.path := by
  induction h with
  | nil => rfl
  | skip _ _ ih => exact ih
  | unanswered => rfl
  | unwritten _ _ _ _ hset => exact Store.path_of_setBy hset
  | answered _ _ _ _ hset _ ih => exact ih.trans (Store.path_of_setBy hset)

/-- **What no question asks for stays as it was**, however the session ends. -/
theorem find?_of_apart (h : Course questions session exchanges result after) {path : List String}
    (hpath : ∀ question ∈ questions, Apart (segments question.key) path) :
    after.store.document.find? path = session.store.document.find? path := by
  induction h with
  | nil => rfl
  | skip _ _ ih => exact ih fun q hq => hpath q (List.mem_cons_of_mem _ hq)
  | unanswered => rfl
  | unwritten _ _ _ _ hset => exact Store.find?_of_setBy (hpath _ List.mem_cons_self) hset
  | answered _ _ _ _ hset _ ih =>
    have hfirst := Store.find?_of_setBy (hpath _ List.mem_cons_self) hset
    exact (ih fun q hq => hpath q (List.mem_cons_of_mem _ hq)).trans hfirst

end Course

theorem Session.find?_ended {questions : List Question} {session : Session} {path : List String}
    (hpath : ∀ question ∈ questions, Apart (segments question.key) path) :
    (session.ended questions).store.document.find? path = session.store.document.find? path := by
  obtain ⟨exchanges, hcourse⟩ := course_collectAll questions session
  exact hcourse.find?_of_apart hpath

end RemoteGateway.Prompt
