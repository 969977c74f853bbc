import RemoteGateway.Document.Store
import RemoteGateway.Prompt.Question
import RemoteGateway.Text.Blank

/-!
# Sessions

A session goes through the questions once, in order. Every question that is open when its
turn comes is asked until an answer is taken, and the answer is stored and written to the
document's file at once, so that a session that ends early loses no answer.
-/

namespace RemoteGateway.Prompt

open Document (Value Store)

/-- How the asking of a question went. -/
structure Asked where
  result : Except Fault String
  /-- Everything that was shown. -/
  shown : String
  /-- The answers that were not read. -/
  rest : List Line

/-- Asks a question until an answer is taken. The end of the answers leaves the key missing,
unless the form can do without an answer. -/
def Question.ask (question : Question) : List Line → Asked
  | [] =>
    { result :=
        match question.form.closed with
        | some value => .ok value
        | none => .error (.config (.missing question.key))
      shown := question.text
      rest := [] }
  | none :: rest => { result := .error (.io .garbled), shown := question.text, rest }
  | some line :: rest =>
    match question.form.accept (String.ofList (Text.trim line.toList)) with
    | .ok value => { result := .ok value, shown := question.text, rest }
    | .error complaint =>
      let later := question.ask rest
      { later with shown := question.text ++ "  " ++ complaint.message ++ "\n" ++ later.shown }

/-- Where a session stands. -/
structure Session where
  store : Store
  tree : FileTree
  /-- The answers that are still to be read. -/
  answers : List Line
  /-- Everything that was shown so far. -/
  shown : String

/-- Asks some questions, those that are open when their turn comes, and gives the keys that
were stored. -/
def Session.collectAll : List Question → Session → Except Fault (List String) × Session
  | [], session => (.ok [], session)
  | question :: rest, session =>
    if question.isOpen session.store.document then
      let asked := question.ask session.answers
      let session := { session with answers := asked.rest, shown := session.shown ++ asked.shown }
      match asked.result with
      | .error fault => (.error fault, session)
      | .ok value =>
        match session.store.set question.key (.text value) session.tree with
        | (.error fault, store, tree) => (.error fault, { session with store, tree })
        | (.ok (), store, tree) =>
          match collectAll rest { session with store, tree } with
          | (.ok keys, session) => (.ok (question.key :: keys), session)
          | (.error fault, session) => (.error fault, session)
    else collectAll rest session

/-- Collects everything the document does not say yet, and gives the keys that were stored. -/
def Session.collect (session : Session) : Except Fault (List String) × Session :=
  session.collectAll questions

/-! ### Lines -/

/-- Splits bytes after every line break; the last line may lack one. -/
def lineBytes : List UInt8 → List (List UInt8)
  | [] => []
  | b :: rest =>
    if b = 10 then [b] :: lineBytes rest
    else
      match lineBytes rest with
      | [] => [[b]]
      | line :: lines => (b :: line) :: lines

/-- The lines of a stream of answers. -/
def linesOf (stream : ByteArray) : List Line :=
  (lineBytes stream.data.toList).map fun line => Text.decode? ⟨line.toArray⟩

end RemoteGateway.Prompt
