import RemoteGateway.Certificate.Pair
import RemoteGateway.FileTree.Step
import RemoteGateway.Host.Notice
import RemoteGateway.Prompt.Session

/-!
# Activities on a host

A **host** is what a run finds and cannot change: the external programs and the issuer of
certificates. A **run** is what changes: the file tree, the answers still to be read, the
calls that were made and the notices that were shown.

An **activity** takes a run further. It ends with a value or with a fault, and in either case
with the run as it is then: nothing is undone when an activity fails.
-/

namespace RemoteGateway

/-- What an external program leaves when it has ended. -/
structure Response where
  output : ByteArray
  errors : ByteArray
  success : Bool

/-- The external programs and the issuer of certificates. -/
structure Host where
  /-- How a call, the name of a program and its arguments, ends; there may be no such
  program. -/
  respond : List String → Option Response
  issuer : Certificate.Issuer

/-- What a run changes. -/
structure Run where
  tree : FileTree
  /-- The answers that are still to be read. -/
  answers : List Prompt.Line
  /-- The calls of external programs, in order. -/
  calls : List (List String)
  /-- The notices, in order. -/
  notices : List Notice
  /-- How many certificate pairs were issued. -/
  issued : Nat

/-- A run that has done nothing yet. -/
def Run.start (tree : FileTree) (answers : List Prompt.Line) : Run :=
  ⟨tree, answers, [], [], 0⟩

/-- Everything that was shown. -/
def Run.shown (run : Run) : String :=
  String.join (run.notices.map Notice.text)

/-- Something that takes a run further and may fail. -/
abbrev Activity := ExceptT Fault (StateM Run)

namespace Activity

/-- Works on the file tree. -/
def withTree {α : Type} (work : FileTree → Except Fault α × FileTree) : Activity α :=
  fun run =>
    let (result, tree) := work run.tree
    (result, { run with tree })

/-- Changes the file tree. -/
def onTree {α : Type} (change : FileTree → Except FileTree.Fault α × FileTree) : Activity α :=
  withTree fun tree =>
    let (result, tree) := change tree
    (result.mapError fun fault => .io (.file fault), tree)

/-- Takes steps on the file tree. -/
def perform (steps : List FileTree.Step) : Activity Unit :=
  onTree fun tree => tree.perform steps

/-- Shows some things, in order. -/
def notifyAll (notices : List Notice) : Activity Unit :=
  fun run => (.ok (), { run with notices := run.notices ++ notices })

/-- Shows something. -/
def notify (notice : Notice) : Activity Unit :=
  notifyAll [notice]

/-- Succeeds or fails as a computation did that looks at nothing. -/
def ofExcept {α : Type} (result : Except Fault α) : Activity α :=
  fun run => (result, run)

/-- The rest of an activity happens only when its first part succeeds. -/
theorem run_bind {α β : Type} (first : Activity α) (rest : α → Activity β) (run : Run) :
    (first >>= rest) run =
      match first run with
      | (.ok value, next) => rest value next
      | (.error fault, next) => (.error fault, next) := by
  change (ExceptT.bindCont rest (first run).1) (first run).2 = _
  rcases first run with ⟨_ | _, _⟩ <;> rfl

end Activity

end RemoteGateway
