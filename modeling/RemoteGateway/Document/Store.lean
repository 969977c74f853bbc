import RemoteGateway.Document.KeyPath
import RemoteGateway.Document.Parser
import RemoteGateway.Document.Printer
import RemoteGateway.Fault
import RemoteGateway.FileTree.Step
import RemoteGateway.Text.Utf8

/-!
# The configuration document

A **store** is a document together with the path of the file that holds it. The document is
read once; every change writes the whole file anew and replaces it in one step, so that the
file always holds the text of some document. A change whose writing fails has already been
made to the document in memory.
-/

namespace RemoteGateway.Document

/-- A document and the path of its file. -/
structure Store where
  path : String
  document : Value

namespace Store

/-- The text of the file: the document and a line break. -/
def text (store : Store) : String :=
  store.document.toText ++ "\n"

/-- Writes the document to its file. -/
def persist (store : Store) (tree : FileTree) : Except Fault Unit × FileTree :=
  match tree.perform (FileTree.replaceFile store.path store.text.toUTF8) with
  | (.ok (), tree) => (.ok (), tree)
  | (.error fault, tree) => (.error (.io (.file fault)), tree)

/-- Creates an empty document at a path where nothing stands yet. -/
def create (path : String) (tree : FileTree) : Except Fault Store × FileTree :=
  if tree.isPresent path then (.error (.config (.invalid path .documentExists)), tree)
  else
    let store : Store := ⟨path, .object []⟩
    match store.persist tree with
    | (.ok (), tree) => (.ok store, tree)
    | (.error fault, tree) => (.error fault, tree)

/-- The document that the file at a path holds. -/
def readDocument (path : String) (tree : FileTree) : Except DocumentFault Value :=
  match tree.read path with
  | .error fault => .error (.read (.file fault))
  | .ok bytes =>
    match Text.decode? bytes with
    | none => .error (.read .garbled)
    | some text =>
      match Value.ofText? maxDepth text with
      | none => .error .malformed
      | some document => if document.isObject then .ok document else .error .notObject

/-- Opens the document at a path. -/
def load (path : String) (tree : FileTree) : Except Fault Store :=
  match readDocument path tree with
  | .error fault => .error (.config (.unreadable path fault))
  | .ok document => .ok ⟨path, document⟩

/-- Stores a value at a key path and writes the document. The store that results is also
given when the writing fails; a key path with an empty key changes nothing. -/
def set (store : Store) (key : String) (value : Value) (tree : FileTree) :
    Except Fault Unit × Store × FileTree :=
  if IsKeyPath key then
    let store := { store with document := store.document.store value (segments key) }
    match store.persist tree with
    | (result, tree) => (result, store, tree)
  else (.error (.config (.invalid key .keyPath)), store, tree)

end Store

/-- The value that a word of the command line stands for: `true` and `false` are booleans, and
everything else is a text, so that versions such as `1.50` keep their spelling. -/
def ofWord (word : String) : Value :=
  if word = "true" then .bool true
  else if word = "false" then .bool false
  else .text word

end RemoteGateway.Document
