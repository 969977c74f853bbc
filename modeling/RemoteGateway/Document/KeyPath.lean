import RemoteGateway.Document.Value

/-!
# Key paths

A key path such as `ssl.domain` names a place in a document by the keys that lead to it,
joined by dots. Looking up follows objects only. Storing makes every proper beginning of
the path an object, replacing whatever else stands there, and leaves all other places alone.
-/

namespace RemoteGateway.Document

/-- The keys of a dotted path, in order; there is always at least one, and keys may be
empty. -/
def segments (path : String) : List String :=
  (path.toList.splitOn '.').map String.ofList

/-- A path at which a value can be stored: none of its keys is empty. -/
def IsKeyPath (path : String) : Prop :=
  ∀ key ∈ segments path, key ≠ ""

instance (path : String) : Decidable (IsKeyPath path) :=
  inferInstanceAs (Decidable (∀ key ∈ segments path, key ≠ ""))

namespace Value

/-- The value below a value at the end of a list of keys. -/
def find? (value : Value) : List String → Option Value
  | [] => some value
  | key :: rest => (value.members.lookup key).bind fun inner => inner.find? rest

/-- The value with another one stored at the end of a list of keys. -/
def store (value : Value) (new : Value) : List String → Value
  | [] => new
  | key :: rest =>
    let inner := (value.members.lookup key).getD (object [])
    object (value.members.put key (inner.store new rest))

/-- The value at a dotted path; a null counts as absent. -/
def get? (value : Value) (path : String) : Option Value :=
  (value.find? (segments path)).filter fun found => !found.isNull

/-- The text at a dotted path: that of a scalar, where the empty text counts as absent. -/
def getText? (value : Value) (path : String) : Option String :=
  (value.get? path).bind scalar?

/-- The text at a dotted path, or another text when there is none. -/
def getTextD (value : Value) (path : String) (default : String) : String :=
  (value.getText? path).getD default

/-- Whether there is no text at a dotted path. -/
def isUnset (value : Value) (path : String) : Bool :=
  (value.getText? path).isNone

/-! ### Storing and looking up -/

@[simp] theorem members_object (members : Members) : (object members).members = members := rfl

/-- What was stored is found again, and below it what was stored below. -/
theorem find?_store_append (value new : Value) (path below : List String) :
    (value.store new path).find? (path ++ below) = new.find? below := by
  induction path generalizing value with
  | nil => rfl
  | cons key rest ih => simp [store, find?, Members.lookup_put, ih]

end Value

end RemoteGateway.Document
