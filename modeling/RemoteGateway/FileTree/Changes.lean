import RemoteGateway.FileTree.Basic

/-!
# What happened to a file tree

Two states of a tree are compared by their regular files: those that are new or differ in
content or mode bits, and those that are gone.
-/

namespace RemoteGateway.FileTree

/-- Whether something is a regular file. -/
def Node.isFile : Node → Bool
  | file .. => true
  | directory _ => false

/-- The regular files of a tree that an earlier state did not have, or had differently. -/
def changedSince (tree before : FileTree) : List (List String × Node) :=
  tree.entries.filter fun (names, node) => node.isFile && before.find? names != some node

/-- The places of regular files of an earlier state where none stands any more. -/
def removedSince (tree before : FileTree) : List (List String) :=
  (before.entries.filter fun (names, node) =>
    node.isFile && !((tree.find? names).map Node.isFile).getD false).map Prod.fst

/-- The directories of a tree that an earlier state did not have, shorter paths first. -/
def newDirectories (tree before : FileTree) : List (List String) :=
  ((tree.entries.filter fun (names, node) =>
    !node.isFile && (before.find? names).isNone).map Prod.fst).mergeSort
      fun a b => a.length ≤ b.length

/-- The path text of some names. -/
def pathText : List String → String
  | "/" :: rest => "/" ++ String.intercalate "/" rest
  | names => String.intercalate "/" names

end RemoteGateway.FileTree
