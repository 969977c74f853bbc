import RemoteGateway.Document.Token

/-!
# Reading documents

The words of a written document drive a machine with a stack of the containers that are open.
Each container holds what it has so far; a value that is complete goes into the innermost
one, or is the document when none is open. A container may not be opened when the given
number of containers is open already. Of several members with one key the last one counts.
-/

namespace RemoteGateway.Document

/-- A container that is open: the items so far, last one first, or the members so far and
the key whose value is being read. -/
inductive Frame where
  | items (before : List Value)
  | members (before : Members) (key : String)

/-- What the reader is about to read, inside the containers that are open. -/
inductive Reader where
  /-- A value. -/
  | atValue (stack : List Frame)
  /-- The first item of a list, or its end. -/
  | atFirstItem (stack : List Frame)
  /-- The first key of an object, or its end. -/
  | atFirstKey (stack : List Frame)
  /-- A comma or the end of a list. -/
  | afterItem (stack : List Frame) (before : List Value)
  /-- A comma or the end of an object. -/
  | afterMember (stack : List Frame) (before : Members)
  /-- The key of a further member. -/
  | atKey (stack : List Frame) (before : Members)
  /-- The colon behind a key. -/
  | atColon (stack : List Frame) (before : Members) (key : String)
  /-- Nothing more. -/
  | finished (value : Value)

namespace Reader

/-- Where the reader stands when a value is complete. -/
def complete (value : Value) : List Frame → Reader
  | [] => finished value
  | .items before :: stack => afterItem stack (value :: before)
  | .members before key :: stack => afterMember stack (before.put key value)

/-- Begins a value with a word. -/
def begin? (depth : Nat) (stack : List Frame) : Token → Option Reader
  | .openBracket => if stack.length < depth then some (atFirstItem stack) else none
  | .openBrace => if stack.length < depth then some (atFirstKey stack) else none
  | .text value => some (complete (.text value) stack)
  | .atom value => some (complete value stack)
  | .closeBracket | .closeBrace | .colon | .comma => none

/-- Reads one word; `depth` containers may be open. -/
def step? (depth : Nat) : Reader → Token → Option Reader
  | atValue stack, token => begin? depth stack token
  | atFirstItem stack, .closeBracket => some (complete (.list []) stack)
  | atFirstItem stack, token => begin? depth (.items [] :: stack) token
  | atFirstKey stack, .closeBrace => some (complete (.object []) stack)
  | atFirstKey stack, .text key => some (atColon stack [] key)
  | afterItem stack before, .comma => some (atValue (.items before :: stack))
  | afterItem stack before, .closeBracket => some (complete (.list before.reverse) stack)
  | afterMember stack before, .comma => some (atKey stack before)
  | afterMember stack before, .closeBrace => some (complete (.object before) stack)
  | atKey stack before, .text key => some (atColon stack before key)
  | atColon stack before key, .colon => some (atValue (.members before key :: stack))
  | _, _ => none

/-- Reads a sequence of words. -/
def run? (depth : Nat) (reader : Reader) : List Token → Option Reader
  | [] => some reader
  | token :: rest => (reader.step? depth token).bind fun next => next.run? depth rest

end Reader

/-- How many containers may be open inside each other in a document. -/
def maxDepth : Nat := 127

namespace Value

/-- The value that a sequence of words writes, with at most `depth` containers inside each
other. -/
def ofTokens? (depth : Nat) (tokens : List Token) : Option Value :=
  match (Reader.atValue []).run? depth tokens with
  | some (.finished value) => some value
  | _ => none

/-- The value that a text writes, with at most `depth` containers inside each other. -/
def ofText? (depth : Nat) (s : String) : Option Value :=
  (Token.ofText? s).bind (ofTokens? depth)

end Value

end RemoteGateway.Document
